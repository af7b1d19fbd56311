/-! # JSON values and their compact text -/

namespace Json

inductive Value where
  | null
  | bool (b : Bool)
  | number (n : Int)
  | string (s : String)
  | array (items : List Value)
  | object (fields : List (String × Value))

def escapeChar (c : Char) : List Char :=
  if c = '"' then ['\\', '"']
  else if c = '\\' then ['\\', '\\']
  else if c = '\n' then ['\\', 'n']
  else if c = '\r' then ['\\', 'r']
  else if c = '\t' then ['\\', 't']
  else if c = '\x08' then ['\\', 'b']
  else if c = '\x0c' then ['\\', 'f']
  else if c.toNat < 0x20 then
    ['\\', 'u', '0', '0', Nat.digitChar (c.toNat / 16), Nat.digitChar (c.toNat % 16)]
  else [c]

def quoted (s : String) : List Char := '"' :: s.toList.flatMap escapeChar ++ ['"']

/-- Elements one after the other, with a comma between neighbours. -/
def separated : List (List Char) → List Char
  | [] => []
  | [x] => x
  | x :: y :: rest => x ++ ',' :: separated (y :: rest)

mutual

def Value.chars : Value → List Char
  | .null => "null".toList
  | .bool true => "true".toList
  | .bool false => "false".toList
  | .number n => (toString n).toList
  | .string s => quoted s
  | .array items => '[' :: separated (itemChars items) ++ [']']
  | .object fields => '{' :: separated (fieldChars fields) ++ ['}']

def itemChars : List Value → List (List Char)
  | [] => []
  | v :: rest => v.chars :: itemChars rest

def fieldChars : List (String × Value) → List (List Char)
  | [] => []
  | (name, v) :: rest => (quoted name ++ ':' :: v.chars) :: fieldChars rest

end

def Value.compact (v : Value) : String := String.ofList v.chars

def newline (depth : Nat) : List Char := '\n' :: List.replicate (2 * depth) ' '

mutual

/-- The text with each element on a line of its own, two spaces a level. -/
def Value.prettyChars (depth : Nat) : Value → List Char
  | .array (v :: rest) =>
      '[' :: separated (prettyItems (depth + 1) (v :: rest)) ++ newline depth ++ [']']
  | .object (field :: rest) =>
      '{' :: separated (prettyFields (depth + 1) (field :: rest)) ++ newline depth ++ ['}']
  | v => v.chars

def prettyItems (depth : Nat) : List Value → List (List Char)
  | [] => []
  | v :: rest => (newline depth ++ v.prettyChars depth) :: prettyItems depth rest

def prettyFields (depth : Nat) : List (String × Value) → List (List Char)
  | [] => []
  | (name, v) :: rest =>
      (newline depth ++ quoted name ++ [':', ' '] ++ v.prettyChars depth) :: prettyFields depth rest

end

def Value.pretty (v : Value) : String := String.ofList (v.prettyChars 0)

/-- The value of the first field of that name. -/
def Value.get (v : Value) (name : String) : Option Value :=
  match v with
  | .object fields => fields.lookup name
  | _ => none

def Value.asBool : Value → Option Bool
  | .bool b => some b
  | _ => none

def Value.asString : Value → Option String
  | .string s => some s
  | _ => none

def Value.asArray : Value → Option (List Value)
  | .array items => some items
  | _ => none

def Value.asInt : Value → Option Int
  | .number n => some n
  | _ => none

example : (Value.object [("id", .number 5), ("ids", .array [.number 1, .null])]).compact =
    "\x7b\"id\":5,\"ids\":[1,null]\x7d" := by decide

example : (Value.object [("ids", .array [.number 1, .null]), ("none", .array [])]).pretty =
    "\x7b\n  \"ids\": [\n    1,\n    null\n  ],\n  \"none\": []\n\x7d" := by decide

end Json
