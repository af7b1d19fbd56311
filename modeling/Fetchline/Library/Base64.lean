import Mathlib.Data.List.Basic
import Mathlib.Data.UInt

/-! # Padded base64

Both directions over the standard alphabet. The decoder takes nothing but what the
encoder gives: padding is required and its unused bits are zero.
-/

namespace Base64

def alphabet : List Char :=
  "ABCDEFGHIJKLMNOPQRSTUVWXYZabcdefghijklmnopqrstuvwxyz0123456789+/".toList

def digit (n : Nat) : Char := alphabet.getD n '='

def value (c : Char) : Option Nat := alphabet.findIdx? (· == c)

def encode : List UInt8 → List Char
  | [] => []
  | [a] => [digit (a.toNat / 4), digit (a.toNat % 4 * 16), '=', '=']
  | [a, b] => [digit (a.toNat / 4), digit (a.toNat % 4 * 16 + b.toNat / 16),
      digit (b.toNat % 16 * 4), '=']
  | a :: b :: c :: rest =>
    digit (a.toNat / 4) :: digit (a.toNat % 4 * 16 + b.toNat / 16) ::
      digit (b.toNat % 16 * 4 + c.toNat / 64) :: digit (c.toNat % 64) :: encode rest

def decode : List Char → Option (List UInt8)
  | [] => some []
  | w :: x :: y :: z :: rest =>
    match value w, value x, value y, value z with
    | some w, some x, some y, some z =>
      (decode rest).map ([UInt8.ofNat (w * 4 + x / 16), UInt8.ofNat (x % 16 * 16 + y / 4),
        UInt8.ofNat (y % 4 * 64 + z)] ++ ·)
    | some w, some x, some y, none =>
      if z = '=' ∧ rest = [] ∧ y % 4 = 0 then
        some [UInt8.ofNat (w * 4 + x / 16), UInt8.ofNat (x % 16 * 16 + y / 4)]
      else none
    | some w, some x, none, none =>
      if y = '=' ∧ z = '=' ∧ rest = [] ∧ x % 16 = 0 then some [UInt8.ofNat (w * 4 + x / 16)]
      else none
    | _, _, _, _ => none
  | _ => none

theorem value_digit {n : Nat} (h : n < 64) : value (digit n) = some n := by
  have hAll : ∀ n < 64, value (digit n) = some n := by decide
  exact hAll n h

theorem value_pad : value '=' = none := by decide

theorem digit_of_value {c : Char} {n : Nat} (h : value c = some n) : n < 64 ∧ digit n = c := by
  obtain ⟨hn, hEq, -⟩ := List.findIdx?_eq_some_iff_getElem.mp h
  refine ⟨hn, ?_⟩
  rw [digit, List.getD_eq_getElem?_getD, List.getElem?_eq_getElem hn]
  exact eq_of_beq hEq

theorem byte_toNat {n : Nat} (h : n < 256) : (UInt8.ofNat n).toNat = n :=
  UInt8.toNat_ofNat_of_lt' h

theorem decode_encode (bytes : List UInt8) : decode (encode bytes) = some bytes := by
  induction bytes using encode.induct with
  | case1 => rfl
  | case2 a =>
    have ha := a.toNat_lt
    rw [encode, decode, value_digit (by omega), value_digit (by omega), value_pad]
    simp only [true_and]
    rw [if_pos (by omega), show a.toNat / 4 * 4 + a.toNat % 4 * 16 / 16 = a.toNat by omega,
      UInt8.ofNat_toNat]
  | case3 a b =>
    have ha := a.toNat_lt
    have hb := b.toNat_lt
    rw [encode, decode, value_digit (by omega), value_digit (by omega), value_digit (by omega),
      value_pad]
    simp only [true_and]
    rw [if_pos (by omega),
      show a.toNat / 4 * 4 + (a.toNat % 4 * 16 + b.toNat / 16) / 16 = a.toNat by omega,
      show (a.toNat % 4 * 16 + b.toNat / 16) % 16 * 16 + b.toNat % 16 * 4 / 4 = b.toNat by omega,
      UInt8.ofNat_toNat, UInt8.ofNat_toNat]
  | case4 a b c rest ih =>
    have ha := a.toNat_lt
    have hb := b.toNat_lt
    have hc := c.toNat_lt
    rw [encode, decode, value_digit (by omega), value_digit (by omega), value_digit (by omega),
      value_digit (by omega)]
    simp only [ih, Option.map_some]
    rw [show a.toNat / 4 * 4 + (a.toNat % 4 * 16 + b.toNat / 16) / 16 = a.toNat by omega,
      show (a.toNat % 4 * 16 + b.toNat / 16) % 16 * 16 + (b.toNat % 16 * 4 + c.toNat / 64) / 4 =
        b.toNat by omega,
      show (b.toNat % 16 * 4 + c.toNat / 64) % 4 * 64 + c.toNat % 64 = c.toNat by omega,
      UInt8.ofNat_toNat, UInt8.ofNat_toNat, UInt8.ofNat_toNat]
    rfl

theorem encode_of_decode : ∀ (chars : List Char) {bytes : List UInt8},
    decode chars = some bytes → chars = encode bytes
  | [], _, h => by
    cases h
    rfl
  | [_], _, h | [_, _], _, h | [_, _, _], _, h => by cases h
  | _ :: _ :: _ :: _ :: rest, bytes, h => by
    rw [decode] at h
    split at h
    next w x y z hw hx hy hz =>
      obtain ⟨hw, rfl⟩ := digit_of_value hw
      obtain ⟨hx, rfl⟩ := digit_of_value hx
      obtain ⟨hy, rfl⟩ := digit_of_value hy
      obtain ⟨hz, rfl⟩ := digit_of_value hz
      obtain ⟨tail, hTail, rfl⟩ := Option.map_eq_some_iff.mp h
      rw [encode_of_decode rest hTail]
      simp only [List.cons_append, List.nil_append, encode]
      rw [byte_toNat (by omega), byte_toNat (by omega), byte_toNat (by omega),
        show (w * 4 + x / 16) / 4 = w by omega,
        show (w * 4 + x / 16) % 4 * 16 + (x % 16 * 16 + y / 4) / 16 = x by omega,
        show (x % 16 * 16 + y / 4) % 16 * 4 + (y % 4 * 64 + z) / 64 = y by omega,
        show (y % 4 * 64 + z) % 64 = z by omega]
    next w x y hw hx hy _ =>
      obtain ⟨hw, rfl⟩ := digit_of_value hw
      obtain ⟨hx, rfl⟩ := digit_of_value hx
      obtain ⟨hy, rfl⟩ := digit_of_value hy
      split at h
      · rename_i hPadded
        obtain ⟨rfl, rfl, hBits⟩ := hPadded
        cases h
        rw [encode, byte_toNat (by omega), byte_toNat (by omega),
          show (w * 4 + x / 16) / 4 = w by omega,
          show (w * 4 + x / 16) % 4 * 16 + (x % 16 * 16 + y / 4) / 16 = x by omega,
          show (x % 16 * 16 + y / 4) % 16 * 4 = y by omega]
      · cases h
    next w x hw hx _ _ =>
      obtain ⟨hw, rfl⟩ := digit_of_value hw
      obtain ⟨hx, rfl⟩ := digit_of_value hx
      split at h
      · rename_i hPadded
        obtain ⟨rfl, rfl, rfl, hBits⟩ := hPadded
        cases h
        rw [encode, byte_toNat (by omega), show (w * 4 + x / 16) / 4 = w by omega,
          show (w * 4 + x / 16) % 4 * 16 = x by omega]
      · cases h
    next => cases h

theorem decode_eq_some_iff (chars : List Char) (bytes : List UInt8) :
    decode chars = some bytes ↔ chars = encode bytes := by
  constructor
  · exact encode_of_decode chars
  · rintro rfl
    exact decode_encode bytes

theorem encode_injective : Function.Injective encode := by
  intro left right h
  have hBoth := decode_encode left
  rw [h, decode_encode right] at hBoth
  exact (Option.some.inj hBoth).symm

example : encode [0x66, 0x6f, 0x6f, 0x62] = "Zm9vYg==".toList := by decide

theorem encode_length (bytes : List UInt8) :
    (encode bytes).length = 4 * ((bytes.length + 2) / 3) := by
  induction bytes using encode.induct with
  | case1 => rfl
  | case2 a => simp [encode]
  | case3 a b => simp [encode]
  | case4 a b c rest ih =>
    simp only [encode, List.length_cons, ih]
    omega

theorem digit_mem (n : Nat) : digit n ∈ '=' :: alphabet := by
  rw [digit, List.getD_eq_getElem?_getD]
  cases h : alphabet[n]? with
  | none => exact List.mem_cons_self
  | some c => exact List.mem_cons_of_mem _ (List.mem_of_getElem? h)

theorem mem_of_mem_encode {bytes : List UInt8} {c : Char} (h : c ∈ encode bytes) :
    c ∈ '=' :: alphabet := by
  induction bytes using encode.induct with
  | case1 => cases h
  | case2 a =>
    simp only [encode, List.mem_cons, List.not_mem_nil, or_false] at h
    rcases h with rfl | rfl | rfl | rfl
    · exact digit_mem _
    · exact digit_mem _
    · exact List.mem_cons_self
    · exact List.mem_cons_self
  | case3 a b =>
    simp only [encode, List.mem_cons, List.not_mem_nil, or_false] at h
    rcases h with rfl | rfl | rfl | rfl
    · exact digit_mem _
    · exact digit_mem _
    · exact digit_mem _
    · exact List.mem_cons_self
  | case4 a b c rest ih =>
    rcases List.mem_cons.mp h with rfl | h
    · exact digit_mem _
    rcases List.mem_cons.mp h with rfl | h
    · exact digit_mem _
    rcases List.mem_cons.mp h with rfl | h
    · exact digit_mem _
    rcases List.mem_cons.mp h with rfl | h
    · exact digit_mem _
    · exact ih h

theorem utf8Size_of_mem_encode {bytes : List UInt8} {c : Char} (h : c ∈ encode bytes) :
    c.utf8Size = 1 := by
  have hAll : ('=' :: alphabet).all fun c => c.utf8Size = 1 := by decide
  exact of_decide_eq_true (List.all_eq_true.mp hAll c (mem_of_mem_encode h))

end Base64
