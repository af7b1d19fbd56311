/-! # UTF-8 bytes of a string, as a list -/

namespace Utf8

def encode (s : String) : List UInt8 := s.toByteArray.data.toList

def decode (bytes : List UInt8) : Option String := String.fromUTF8? bytes.toByteArray

theorem toByteArray_encode (s : String) : (encode s).toByteArray = s.toByteArray := by
  apply ByteArray.ext
  rw [encode, List.data_toByteArray]

@[simp] theorem encode_length (s : String) : (encode s).length = s.utf8ByteSize := by
  rw [encode, Array.length_toList]
  rfl

@[simp] theorem decode_encode (s : String) : decode (encode s) = some s := by
  rw [decode, toByteArray_encode, String.fromUTF8?, dif_pos s.isValidUTF8]
  rfl

theorem encode_of_decode {bytes : List UInt8} {s : String} (h : decode bytes = some s) :
    encode s = bytes := by
  rw [decode, String.fromUTF8?] at h
  split at h
  · cases h
    rw [encode, String.fromUTF8, List.data_toByteArray]
  · cases h

theorem encode_append (s t : String) : encode (s ++ t) = encode s ++ encode t := by
  simp only [encode, String.toByteArray_append, ByteArray.data_append, Array.toList_append]

theorem encode_ofList_cons (c : Char) (cs : List Char) :
    encode (String.ofList (c :: cs)) = String.utf8EncodeChar c ++ encode (String.ofList cs) := by
  rw [String.ofList_cons, encode_append]
  congr 1
  rw [encode, String.toByteArray_singleton, List.utf8Encode_singleton, List.data_toByteArray]

def byte (c : Char) : UInt8 := c.val.toUInt8

theorem encode_ascii {s : String} (h : ∀ c ∈ s.toList, c.utf8Size = 1) :
    encode s = s.toList.map byte := by
  rw [← String.ofList_toList (s := s)]
  generalize s.toList = cs at h
  rw [String.toList_ofList]
  induction cs with
  | nil => rfl
  | cons c cs ih =>
    obtain ⟨hHead, hTail⟩ := List.forall_mem_cons.mp h
    rw [encode_ofList_cons, String.utf8EncodeChar_eq_singleton hHead, ih hTail]
    rfl

end Utf8
