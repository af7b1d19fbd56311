import Mathlib.Data.List.TakeDrop
import Fetchline.Library.Json

/-! # Reading compact JSON back

A reader for the compact texts of values whose numbers are integers. Reading the
text of a value gives the value.
-/

namespace Json

def readNatural (cs : List Char) : Option (Nat × List Char) :=
  match cs.takeWhile Char.isDigit with
  | [] => none
  | digits => some (Nat.ofDigitChars 10 digits 0, cs.dropWhile Char.isDigit)

def readInteger (cs : List Char) : Option (Int × List Char) :=
  match cs with
  | '-' :: rest => (readNatural rest).map fun (n, rest) => (-(n : Int), rest)
  | _ => (readNatural cs).map fun (n, rest) => ((n : Int), rest)

/-- What follows does not go on with the digits of a number. -/
def Stops (rest : List Char) : Prop := ∀ c ∈ rest.head?, c.isDigit = false

theorem stops_nil : Stops [] := nofun

theorem stops_cons {c : Char} (h : c.isDigit = false) (rest : List Char) : Stops (c :: rest) := by
  rintro _ ⟨⟩
  exact h

theorem readNatural_repr (n : Nat) {rest : List Char} (h : Stops rest) :
    readNatural (n.repr.toList ++ rest) = some (n, rest) := by
  have hDigits : ∀ c ∈ Nat.toDigits 10 n, c.isDigit = true := fun c hc =>
    Nat.isDigit_of_mem_toDigits (by decide) (by decide) hc
  have hTake : rest.takeWhile Char.isDigit = [] := by
    cases rest with
    | nil => rfl
    | cons c rest => exact List.takeWhile_cons_of_neg (by simp [h c rfl])
  have hDrop : rest.dropWhile Char.isDigit = rest := by
    cases rest with
    | nil => rfl
    | cons c rest => exact List.dropWhile_cons_of_neg (by simp [h c rfl])
  rw [Nat.toList_repr, readNatural, List.takeWhile_append_of_pos hDigits,
    List.dropWhile_append_of_pos hDigits, hTake, hDrop, List.append_nil]
  split
  · rename_i hNil
    exact absurd hNil Nat.toDigits_ne_nil
  · rw [Nat.ofDigitChars_ten_toDigits]

theorem readInteger_toString (n : Int) {rest : List Char} (h : Stops rest) :
    readInteger ((toString n).toList ++ rest) = some (n, rest) := by
  cases n with
  | ofNat n =>
    have hNatural := readNatural_repr n h
    change readInteger (n.repr.toList ++ rest) = some ((n : Int), rest)
    unfold readInteger
    split
    · rename_i tail hMinus
      rw [hMinus] at hNatural
      exact absurd hNatural nofun
    · rw [hNatural]
      rfl
  | negSucc n =>
    change readInteger (("-" ++ (n + 1).repr).toList ++ rest) = some (Int.negSucc n, rest)
    rw [String.toList_append]
    change (readNatural ((n + 1).repr.toList ++ rest)).map _ = _
    rw [readNatural_repr (n + 1) h]
    rfl

def hexDigit (c : Char) : Option Nat :=
  if c.isDigit then some (c.toNat - '0'.toNat)
  else if 'a' ≤ c ∧ c ≤ 'f' then some (c.toNat - 'a'.toNat + 10)
  else none

def readEscape : List Char → Option (Char × List Char)
  | '"' :: rest => some ('"', rest)
  | '\\' :: rest => some ('\\', rest)
  | 'n' :: rest => some ('\n', rest)
  | 'r' :: rest => some ('\r', rest)
  | 't' :: rest => some ('\t', rest)
  | 'b' :: rest => some ('\x08', rest)
  | 'f' :: rest => some ('\x0c', rest)
  | 'u' :: '0' :: '0' :: high :: low :: rest => do
    let high ← hexDigit high
    let low ← hexDigit low
    some (Char.ofNat (16 * high + low), rest)
  | _ => none

/-- The characters up to the closing quote, at most `n` of them. -/
def readChars : Nat → List Char → Option (List Char × List Char)
  | 0, _ => none
  | _ + 1, [] => none
  | n + 1, c :: rest =>
    if c = '"' then some ([], rest)
    else do
      let (c, rest) ← if c = '\\' then readEscape rest else some (c, rest)
      let (cs, rest) ← readChars n rest
      some (c :: cs, rest)

theorem hexDigit_digitChar : ∀ d < 16, hexDigit (Nat.digitChar d) = some d := by decide

theorem readEscape_hex {c : Char} (h : c.toNat < 0x20) (rest : List Char) :
    readEscape ('u' :: '0' :: '0' :: Nat.digitChar (c.toNat / 16) ::
      Nat.digitChar (c.toNat % 16) :: rest) = some (c, rest) := by
  have hHigh := hexDigit_digitChar (c.toNat / 16) (by omega)
  have hLow := hexDigit_digitChar (c.toNat % 16) (by omega)
  have hChar : Char.ofNat (16 * (c.toNat / 16) + c.toNat % 16) = c := by
    rw [Nat.div_add_mod, Char.ofNat_toNat]
  simp only [readEscape, hHigh, hLow, Option.bind_eq_bind, Option.bind_some, hChar]

theorem readChars_backslash {n : Nat} {c : Char} {cs rest : List Char}
    (h : readEscape cs = some (c, rest)) :
    readChars (n + 1) ('\\' :: cs) = (readChars n rest).map fun (cs, rest) => (c :: cs, rest) := by
  rw [readChars, if_neg (by decide), if_pos rfl, h]
  simp only [Option.bind_eq_bind, Option.bind_some]
  cases readChars n rest <;> rfl

theorem readChars_escapeChar (n : Nat) (c : Char) (rest : List Char) :
    readChars (n + 1) (escapeChar c ++ rest) =
      (readChars n rest).map fun (cs, rest) => (c :: cs, rest) := by
  unfold escapeChar
  split
  · subst c
    exact readChars_backslash rfl
  split
  · subst c
    exact readChars_backslash rfl
  split
  · subst c
    exact readChars_backslash rfl
  split
  · subst c
    exact readChars_backslash rfl
  split
  · subst c
    exact readChars_backslash rfl
  split
  · subst c
    exact readChars_backslash rfl
  split
  · subst c
    exact readChars_backslash rfl
  split
  · rename_i hControl
    exact readChars_backslash (readEscape_hex hControl rest)
  · rename_i hQuote hBackslash _ _ _ _ _ _
    rw [List.singleton_append, readChars, if_neg hQuote, if_neg hBackslash]
    simp only [Option.bind_eq_bind, Option.bind_some]
    cases readChars n rest <;> rfl

theorem readChars_quoted (cs : List Char) {n : Nat} (hn : cs.length < n) (rest : List Char) :
    readChars n (cs.flatMap escapeChar ++ '"' :: rest) = some (cs, rest) := by
  induction cs generalizing n with
  | nil =>
    obtain ⟨n, rfl⟩ : ∃ m, n = m + 1 := ⟨n - 1, by omega⟩
    rfl
  | cons c cs ih =>
    obtain ⟨n, rfl⟩ : ∃ m, n = m + 1 := ⟨n - 1, by omega⟩
    rw [List.flatMap_cons, List.append_assoc, readChars_escapeChar,
      ih (by simpa using hn), Option.map_some]

mutual

/-- `n` bounds the nesting and the lengths. -/
def readValue : Nat → List Char → Option (Value × List Char)
  | 0, _ => none
  | _ + 1, [] => none
  | n + 1, c :: rest =>
    if c = 'n' then
      if rest.take 3 = ['u', 'l', 'l'] then some (.null, rest.drop 3) else none
    else if c = 't' then
      if rest.take 3 = ['r', 'u', 'e'] then some (.bool true, rest.drop 3) else none
    else if c = 'f' then
      if rest.take 4 = ['a', 'l', 's', 'e'] then some (.bool false, rest.drop 4) else none
    else if c = '"' then
      (readChars n rest).map fun (cs, rest) => (.string (String.ofList cs), rest)
    else if c = '[' then
      if rest.head? = some ']' then some (.array [], rest.tail)
      else (readItems n rest).map fun (items, rest) => (.array items, rest)
    else if c = '{' then
      if rest.head? = some '}' then some (.object [], rest.tail)
      else (readFields n rest).map fun (fields, rest) => (.object fields, rest)
    else (readInteger (c :: rest)).map fun (m, rest) => (.number m, rest)

/-- One or more values and the closing bracket. -/
def readItems : Nat → List Char → Option (List Value × List Char)
  | 0, _ => none
  | n + 1, cs => do
    let (v, rest) ← readValue n cs
    match rest with
    | ',' :: rest => (readItems n rest).map fun (items, rest) => (v :: items, rest)
    | ']' :: rest => some ([v], rest)
    | _ => none

/-- One or more named values and the closing brace. -/
def readFields : Nat → List Char → Option (List (String × Value) × List Char)
  | 0, _ => none
  | n + 1, cs => do
    let (name, rest) ← if cs.head? = some '"' then readChars n cs.tail else none
    let (v, rest) ← if rest.head? = some ':' then readValue n rest.tail else none
    match rest with
    | ',' :: rest =>
      (readFields n rest).map fun (fields, rest) => ((String.ofList name, v) :: fields, rest)
    | '}' :: rest => some ([(String.ofList name, v)], rest)
    | _ => none

end

def parse (text : String) : Option Value :=
  match readValue text.length text.toList with
  | some (v, []) => some v
  | _ => none

theorem quoted_length (s : String) : s.toList.length + 2 ≤ (quoted s).length := by
  have hEscape (cs : List Char) : cs.length ≤ (cs.flatMap escapeChar).length := by
    induction cs with
    | nil => exact Nat.zero_le _
    | cons c cs ih =>
      have hChar : 1 ≤ (escapeChar c).length := by
        unfold escapeChar
        repeat' split
        all_goals simp
      rw [List.flatMap_cons, List.length_append, List.length_cons]
      omega
  have h := hEscape s.toList
  simp only [quoted, List.length_cons, List.length_append, List.length_nil]
  omega

theorem separated_cons (item : List Char) (items : List (List Char)) :
    separated (item :: items) =
      item ++ match items with
        | [] => []
        | _ :: _ => ',' :: separated items := by
  cases items with
  | nil => exact (List.append_nil item).symm
  | cons next items => rfl

theorem toString_head (m : Int) : ∃ c tail, (toString m).toList = c :: tail ∧
    (c.isDigit = true ∨ c = '-') := by
  cases m with
  | ofNat m =>
    change ∃ c tail, m.repr.toList = c :: tail ∧ _
    rw [Nat.toList_repr]
    obtain ⟨c, tail, hDigits⟩ := List.exists_cons_of_ne_nil (Nat.toDigits_ne_nil (n := m) (b := 10))
    refine ⟨c, tail, hDigits, .inl ?_⟩
    apply Nat.isDigit_of_mem_toDigits (n := m) (b := 10) (by decide) (by decide)
    rw [hDigits]
    exact List.mem_cons_self
  | negSucc m => exact ⟨'-', (m + 1).repr.toList, String.toList_append, .inr rfl⟩

theorem chars_head (v : Value) : ∃ c tail, v.chars = c :: tail ∧ c ≠ ']' := by
  cases v with
  | null => exact ⟨_, _, rfl, by decide⟩
  | bool b => cases b <;> exact ⟨_, _, rfl, by decide⟩
  | number m =>
    obtain ⟨c, tail, hChars, hHead⟩ := toString_head m
    refine ⟨c, tail, hChars, ?_⟩
    rintro rfl
    exact absurd hHead (by decide)
  | string s => exact ⟨_, _, rfl, by decide⟩
  | array items => exact ⟨_, _, rfl, by decide⟩
  | object fields => exact ⟨_, _, rfl, by decide⟩

theorem readValue_number (m : Int) {n : Nat} {rest : List Char} (hRest : Stops rest) :
    readValue (n + 1) ((toString m).toList ++ rest) = some (.number m, rest) := by
  have hRead := readInteger_toString m hRest
  obtain ⟨c, tail, hChars, hHead⟩ := toString_head m
  rw [hChars, List.cons_append] at hRead ⊢
  have hOther (d : Char) (hd : ¬ (d.isDigit = true ∨ d = '-')) : c ≠ d := by
    rintro rfl
    exact hd hHead
  rw [readValue, if_neg (hOther _ (by decide)), if_neg (hOther _ (by decide)),
    if_neg (hOther _ (by decide)), if_neg (hOther _ (by decide)), if_neg (hOther _ (by decide)),
    if_neg (hOther _ (by decide)), hRead, Option.map_some]

theorem field_length (name : String) (v : Value) {n : Nat}
    (h : (quoted name ++ ':' :: v.chars).length ≤ n) :
    name.toList.length < n ∧ v.chars.length ≤ n := by
  have hName := quoted_length name
  rw [List.length_append, List.length_cons] at h
  omega

theorem readFields_field {name : String} {v : Value} {n : Nat} {rest : List Char}
    (hName : name.toList.length < n) (hValue : readValue n (v.chars ++ rest) = some (v, rest)) :
    readFields (n + 1) ((quoted name ++ ':' :: v.chars) ++ rest) = (some rest).bind fun
      | ',' :: rest => (readFields n rest).map fun (fields, rest) => ((name, v) :: fields, rest)
      | '}' :: rest => some ([(name, v)], rest)
      | _ => none := by
  have hText : (quoted name ++ ':' :: v.chars) ++ rest =
      '"' :: (name.toList.flatMap escapeChar ++ '"' :: ':' :: (v.chars ++ rest)) := by
    simp [quoted]
  rw [hText, readFields, List.head?_cons, if_pos rfl, List.tail_cons, readChars_quoted _ hName]
  simp only [Option.bind_eq_bind, Option.bind_some, List.head?_cons, if_true, List.tail_cons,
    hValue, String.ofList_toList]

mutual

theorem readValue_chars : ∀ (v : Value) {n : Nat} {rest : List Char},
    v.chars.length ≤ n → Stops rest → readValue n (v.chars ++ rest) = some (v, rest)
  | v, 0, _, hn, _ => by
    obtain ⟨c, tail, hChars, -⟩ := chars_head v
    rw [hChars] at hn
    exact absurd hn nofun
  | .null, n + 1, rest, _, _ => rfl
  | .bool true, n + 1, rest, _, _ => rfl
  | .bool false, n + 1, rest, _, _ => rfl
  | .number m, n + 1, rest, hn, hRest => readValue_number m hRest
  | .string s, n + 1, rest, hn, _ => by
    have hLength := quoted_length s
    have hChars := readChars_quoted s.toList (n := n) (by rw [Value.chars] at hn; omega) rest
    change (readChars n ((s.toList.flatMap escapeChar ++ ['"']) ++ rest)).map _ = _
    rw [List.append_assoc, List.singleton_append, hChars, Option.map_some]
    simp only [String.ofList_toList]
  | .array [], n + 1, rest, _, _ => rfl
  | .array (v :: items), n + 1, rest, hn, _ => by
    have hItems := readItems_chars v items (n := n) rest (by
      simp only [Value.chars, List.length_append, List.length_cons, List.length_nil] at hn
      omega)
    obtain ⟨c, tail, hChars, hHead⟩ := chars_head v
    have hOpen : ((separated (itemChars (v :: items)) ++ [']']) ++ rest).head? ≠ some ']' := by
      rw [itemChars, separated_cons, hChars]
      exact fun h => hHead (Option.some.inj h)
    change (if ((separated (itemChars (v :: items)) ++ [']']) ++ rest).head? = some ']' then _
      else (readItems n ((separated (itemChars (v :: items)) ++ [']']) ++ rest)).map _) = _
    rw [if_neg hOpen, List.append_assoc, List.singleton_append, hItems]
    rfl
  | .object [], n + 1, rest, _, _ => rfl
  | .object ((name, v) :: fields), n + 1, rest, hn, _ => by
    have hFields := readFields_chars name v fields (n := n) rest (by
      simp only [Value.chars, List.length_append, List.length_cons, List.length_nil] at hn
      omega)
    have hOpen : ((separated (fieldChars ((name, v) :: fields)) ++ ['}']) ++ rest).head? ≠
        some '}' := by
      rw [fieldChars, separated_cons, quoted]
      exact fun h => absurd (Option.some.inj h) (by decide)
    change (if ((separated (fieldChars ((name, v) :: fields)) ++ ['}']) ++ rest).head? = some '}'
      then _ else (readFields n ((separated (fieldChars ((name, v) :: fields)) ++ ['}']) ++
        rest)).map _) = _
    rw [if_neg hOpen, List.append_assoc, List.singleton_append, hFields]
    rfl

theorem readItems_chars : ∀ (v : Value) (items : List Value) {n : Nat} (rest : List Char),
    (separated (itemChars (v :: items))).length < n →
      readItems n (separated (itemChars (v :: items)) ++ ']' :: rest) = some (v :: items, rest)
  | _, _, 0, _, hn => absurd hn (Nat.not_lt_zero _)
  | v, [], n + 1, rest, hn => by
    have hValue : readValue n (v.chars ++ ']' :: rest) = some (v, ']' :: rest) :=
      readValue_chars v (Nat.lt_succ_iff.mp hn) (stops_cons (by decide) rest)
    rw [readItems]
    change (readValue n (v.chars ++ ']' :: rest)).bind _ = _
    rw [hValue]
    rfl
  | v, next :: items, n + 1, rest, hn => by
    change (v.chars ++ ',' :: separated (itemChars (next :: items))).length < n + 1 at hn
    rw [List.length_append, List.length_cons] at hn
    have hValue (tail : List Char) : readValue n (v.chars ++ ',' :: tail) = some (v, ',' :: tail) :=
      readValue_chars v (by omega) (stops_cons (by decide) tail)
    have hItems := readItems_chars next items (n := n) rest (by omega)
    rw [readItems]
    change (readValue n ((v.chars ++ ',' :: separated (itemChars (next :: items))) ++
      ']' :: rest)).bind _ = _
    rw [List.append_assoc, List.cons_append, hValue, Option.bind_some]
    change (readItems n _).map _ = _
    rw [hItems]
    rfl

theorem readFields_chars : ∀ (name : String) (v : Value) (fields : List (String × Value)) {n : Nat}
    (rest : List Char), (separated (fieldChars ((name, v) :: fields))).length < n →
      readFields n (separated (fieldChars ((name, v) :: fields)) ++ '}' :: rest) =
        some ((name, v) :: fields, rest)
  | _, _, _, 0, _, hn => absurd hn (Nat.not_lt_zero _)
  | name, v, [], n + 1, rest, hn => by
    have hLength := field_length name v (Nat.lt_succ_iff.mp hn)
    have hValue : readValue n (v.chars ++ '}' :: rest) = some (v, '}' :: rest) :=
      readValue_chars v hLength.2 (stops_cons (by decide) rest)
    exact readFields_field hLength.1 hValue
  | name, v, (name', v') :: fields, n + 1, rest, hn => by
    change ((quoted name ++ ':' :: v.chars) ++
      ',' :: separated (fieldChars ((name', v') :: fields))).length < n + 1 at hn
    rw [List.length_append, List.length_cons] at hn
    have hLength := field_length name v (n := n) (by omega)
    have hValue (tail : List Char) : readValue n (v.chars ++ ',' :: tail) = some (v, ',' :: tail) :=
      readValue_chars v hLength.2 (stops_cons (by decide) tail)
    have hFields := readFields_chars name' v' fields (n := n) rest (by omega)
    change readFields (n + 1) (((quoted name ++ ':' :: v.chars) ++
      ',' :: separated (fieldChars ((name', v') :: fields))) ++ '}' :: rest) = _
    rw [List.append_assoc, List.cons_append, readFields_field hLength.1 (hValue _)]
    change (readFields n _).map _ = _
    rw [hFields]
    rfl

end

theorem parse_compact (v : Value) : parse v.compact = some v := by
  have hRead := readValue_chars v (Nat.le_refl _) stops_nil
  rw [List.append_nil] at hRead
  rw [parse, Value.compact, String.toList_ofList, String.length_ofList, hRead]

end Json
