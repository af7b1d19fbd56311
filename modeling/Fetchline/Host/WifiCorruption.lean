import Fetchline.Host.ProvisionWifi
import Fetchline.Library.LatinFold

/-! # A corrupted Wi-Fi record

No single changed byte of a record gets past the checks of the loader, apart from the
two lengths.
-/

namespace Fetchline.Host.ProvisionWifi

theorem hashStep_latin :
    LatinStep fun (hash : UInt32) (byte : UInt8) => (hash ^^^ byte.toUInt32) * 0x01000193 := by
  -- The multiplier is odd, so it has an inverse modulo `2 ^ 32`.
  have hInverse : (0x01000193 : UInt32) * 0x359c449b = 1 := by decide
  have hMul : Function.Injective fun value : UInt32 => value * 0x01000193 := by
    intro left right h
    have h := congrArg (· * 0x359c449b) h
    simpa only [UInt32.mul_assoc, hInverse, UInt32.mul_one] using h
  constructor
  · intro byte left right h
    have h := congrArg (· ^^^ byte.toUInt32) (hMul h)
    simpa only [UInt32.xor_assoc, UInt32.xor_self, UInt32.xor_zero] using h
  · intro hash left right h
    have h := congrArg (hash ^^^ ·) (hMul h)
    simp only [← UInt32.xor_assoc, UInt32.xor_self, UInt32.zero_xor] at h
    have h := congrArg UInt32.toNat h
    rw [UInt8.toNat_toUInt32, UInt8.toNat_toUInt32] at h
    exact UInt8.toNat_inj.mp h

theorem wifiConfigChecksum_set_header {header payload : List UInt8} {i : Nat} {x : UInt8}
    (hi : i < header.length) (hx : header[i]? ≠ some x) :
    wifiConfigChecksum (header.set i x) payload ≠ wifiConfigChecksum header payload := by
  have hWord : header.set i x ++ payload = (header ++ payload).set i x :=
    (List.set_append_left i x hi).symm
  rw [wifiConfigChecksum, hWord]
  apply hashStep_latin.foldl_set
  · rw [List.length_append]
    omega
  · rwa [List.getElem?_append_left hi]

theorem wifiConfigChecksum_set_payload {header payload : List UInt8} {i : Nat} {x : UInt8}
    (hi : i < payload.length) (hx : payload[i]? ≠ some x) :
    wifiConfigChecksum header (payload.set i x) ≠ wifiConfigChecksum header payload := by
  have hWord : header ++ payload.set i x = (header ++ payload).set (header.length + i) x := by
    rw [List.set_append_right _ _ (Nat.le_add_right _ _), Nat.add_sub_cancel_left]
  rw [wifiConfigChecksum, hWord]
  apply hashStep_latin.foldl_set
  · rw [List.length_append]
    omega
  · rwa [List.getElem?_append_right (Nat.le_add_right _ _), Nat.add_sub_cancel_left]

theorem u32FromLeBytes_injective {left right : List UInt8} (hLeft : left.length = 4)
    (hRight : right.length = 4) (h : u32FromLeBytes left = u32FromLeBytes right) : left = right := by
  obtain ⟨a, b, c, d, rfl⟩ := List.length_eq_four.mp hLeft
  obtain ⟨a', b', c', d', rfl⟩ := List.length_eq_four.mp hRight
  rw [← u32ToLeBytes_fromLeBytes a b c d, h, u32ToLeBytes_fromLeBytes]

theorem slice_set_outside (bytes : List UInt8) {i start stop : Nat} (x : UInt8)
    (h : i < start ∨ stop ≤ i) : slice (bytes.set i x) start stop = slice bytes start stop := by
  rw [slice, slice]
  rcases h with hBelow | hAbove
  · rw [List.take_set, List.drop_set_of_lt hBelow]
  · rw [List.take_set_of_le hAbove]

theorem slice_set_inside (bytes : List UInt8) {i start : Nat} (stop : Nat) (x : UInt8)
    (h : start ≤ i) :
    slice (bytes.set i x) start stop = (slice bytes start stop).set (i - start) x := by
  rw [slice, List.take_set, List.drop_set, if_neg (Nat.not_lt.mpr h), slice]

theorem slice_getElem? (bytes : List UInt8) {i start stop : Nat} (hStart : start ≤ i)
    (hStop : i < stop) : (slice bytes start stop)[i - start]? = bytes[i]? := by
  rw [slice, List.getElem?_drop, Nat.add_sub_cancel' hStart, List.getElem?_take_of_lt hStop]

theorem slice_length {bytes : List UInt8} {start stop : Nat} (h : stop ≤ bytes.length) :
    (slice bytes start stop).length = stop - start := by
  rw [slice, List.length_drop, List.length_take_of_le h]

theorem getD_set_of_ne (bytes : List UInt8) {i j : Nat} (x : UInt8) (h : i ≠ j) :
    (bytes.set i x).getD j 0 = bytes.getD j 0 := by
  rw [List.getD_eq_getElem?_getD, List.getElem?_set_ne h, List.getD_eq_getElem?_getD]

/-- The record with byte `i` replaced. -/
def alter (record : WifiRecord) (i : Nat) (x : UInt8) : WifiRecord :=
  ⟨record.1.set i x, by rw [List.length_set, record.2]⟩

theorem load_alter_inside {record : WifiRecord} {credentials : WifiCredentials} {i : Nat} {x : UInt8}
    (hLoad : loadWifiCredentials (some record) = some credentials)
    (hi : i < 12 + credentials.ssid.toList.length + credentials.password.toList.length)
    (hSsidLen : i ≠ 5) (hPasswordLen : i ≠ 6) (hx : record.1[i]? ≠ some x) :
    loadWifiCredentials (some (alter record i x)) = none := by
  obtain ⟨bytes, hBytes⟩ := record
  obtain ⟨-, -, hSsid, hPassword, hBounds, hSum, -⟩ :=
    (loadWifiCredentials_eq_some_iff hBytes).mp hLoad
  obtain ⟨n, hn⟩ : ∃ n, n = (bytes.getD 5 0).toNat + (bytes.getD 6 0).toNat := ⟨_, rfl⟩
  rw [← hn] at hSum
  rw [wifiSsidMaxLen, wifiPasswordMaxLen] at hBounds
  have hLength : bytes.length = 108 := hBytes
  have hi : i < 12 + n := by
    rw [hSsid, hPassword, slice_length (by omega), slice_length (by omega)] at hi
    omega
  rcases hAltered : loadWifiCredentials (some (alter ⟨bytes, hBytes⟩ i x)) with _ | other
  · rfl
  exfalso
  obtain ⟨-, -, -, -, -, hOther, -⟩ := (loadWifiCredentials_eq_some_iff _).mp hAltered
  rw [getD_set_of_ne bytes x hSsidLen, getD_set_of_ne bytes x hPasswordLen, ← hn] at hOther
  by_cases hHeader : i < 8
  · rw [slice_set_inside bytes 8 x (Nat.zero_le i), slice_set_outside bytes x (.inl (by omega)),
      slice_set_outside bytes x (.inl (by omega)), ← hSum] at hOther
    refine wifiConfigChecksum_set_header ?_ ?_ hOther
    · rw [slice_length (by omega)]
      exact hHeader
    · rwa [slice_getElem? bytes (Nat.zero_le i) hHeader]
  by_cases hChecksum : i < 12
  · rw [slice_set_outside bytes x (.inr (by omega)), slice_set_outside bytes x (.inl (by omega)),
      slice_set_inside bytes 12 x (by omega), hSum] at hOther
    have hField : (slice bytes 8 12).length = 4 := slice_length (by omega)
    have hSame := u32FromLeBytes_injective hField (by rw [List.length_set, hField]) hOther
    have hByte := slice_getElem? (bytes.set i x) (Nat.le_of_not_lt hHeader) hChecksum
    rw [slice_set_inside bytes 12 x (by omega), ← hSame,
      slice_getElem? bytes (Nat.le_of_not_lt hHeader) hChecksum,
      List.getElem?_set_self (by omega)] at hByte
    exact hx hByte
  · rw [slice_set_outside bytes x (.inr (by omega)), slice_set_inside bytes _ x (by omega),
      slice_set_outside bytes x (.inr (by omega)), ← hSum] at hOther
    refine wifiConfigChecksum_set_payload ?_ ?_ hOther
    · rw [slice_length (by omega)]
      omega
    · rwa [slice_getElem? bytes (by omega) hi]

theorem load_alter_outside {record : WifiRecord} {credentials : WifiCredentials} {i : Nat}
    (x : UInt8) (hLoad : loadWifiCredentials (some record) = some credentials)
    (hi : 12 + credentials.ssid.toList.length + credentials.password.toList.length ≤ i) :
    loadWifiCredentials (some (alter record i x)) = some credentials := by
  obtain ⟨bytes, hBytes⟩ := record
  obtain ⟨hMagic, hVersion, hSsid, hPassword, hBounds, hSum, hTexts⟩ :=
    (loadWifiCredentials_eq_some_iff hBytes).mp hLoad
  rw [wifiSsidMaxLen, wifiPasswordMaxLen] at hBounds
  have hLength : bytes.length = 108 := hBytes
  rw [hSsid, hPassword, slice_length (by omega), slice_length (by omega)] at hi
  refine (loadWifiCredentials_eq_some_iff _).mpr ?_
  rw [getD_set_of_ne bytes x (by omega), getD_set_of_ne bytes x (by omega),
    getD_set_of_ne bytes x (by omega), slice_set_outside bytes x (.inr (by omega)),
    slice_set_outside bytes x (.inr (by omega)), slice_set_outside bytes x (.inr (by omega)),
    slice_set_outside bytes x (.inr (by omega)), slice_set_outside bytes x (.inr (by omega)),
    slice_set_outside bytes x (.inr (by omega))]
  exact ⟨hMagic, hVersion, hSsid, hPassword, hBounds, hSum, hTexts⟩

theorem flashRead_eq {image : List UInt8} (h : wifiConfigReadSize ≤ image.length) :
    flashRead image = some ⟨image.take wifiConfigReadSize, List.length_take_of_le h⟩ :=
  dif_pos (List.length_take_of_le h)

/-- Whatever byte of a provisioned record changes, the loader drops the record or the
byte did not belong to the credentials. -/
theorem load_corrupted {ssid password : String} {image : List UInt8} {i : Nat} {x : UInt8}
    (hImage : configImage ssid password = .ok image) (hi : i < wifiConfigReadSize)
    (hSsidLen : i ≠ 5) (hPasswordLen : i ≠ 6) (hx : image[i]? ≠ some x) :
    ∃ record, flashRead (image.set i x) = some record ∧
      (i < 12 + ssid.utf8ByteSize + password.utf8ByteSize →
        loadWifiCredentials (some record) = none) ∧
      (12 + ssid.utf8ByteSize + password.utf8ByteSize ≤ i →
        ∃ credentials, loadWifiCredentials (some record) = some credentials ∧
          credentials.ssid.toList = Utf8.encode ssid ∧
          credentials.password.toList = Utf8.encode password) := by
  obtain ⟨hLength, credentials, hLoad, hSsid, hPassword⟩ := load_image hImage
  have hSize : wifiConfigReadSize ≤ image.length := by
    rw [hLength]
    decide
  have hSizes : 12 + credentials.ssid.toList.length + credentials.password.toList.length =
      12 + ssid.utf8ByteSize + password.utf8ByteSize := by
    rw [hSsid, hPassword, Utf8.encode_length, Utf8.encode_length]
  have hAltered : flashRead (image.set i x) =
      some (alter ⟨image.take wifiConfigReadSize, List.length_take_of_le hSize⟩ i x) := by
    rw [flashRead_eq (by rwa [List.length_set])]
    exact congrArg some (Subtype.ext List.take_set)
  rw [flashRead_eq hSize] at hLoad
  rw [← hSizes]
  refine ⟨_, hAltered, ?_, ?_⟩
  · intro hInside
    refine load_alter_inside hLoad hInside hSsidLen hPasswordLen ?_
    rwa [List.getElem?_take_of_lt hi]
  · intro hOutside
    exact ⟨credentials, load_alter_outside x hLoad hOutside, hSsid, hPassword⟩

theorem load_corrupted_lab : ∃ image record, configImage "lab" "" = .ok image ∧
    flashRead (image.set 12 0x4c) = some record ∧ loadWifiCredentials (some record) = none := by
  have hImage := @configImage_ok "lab" "" (by decide) (by decide) (by decide)
  obtain ⟨record, hRead, hInside, -⟩ := load_corrupted (i := 12) (x := 0x4c) hImage (by decide)
    (by decide) (by decide) (by decide)
  exact ⟨_, record, hImage, hRead, hInside (by decide)⟩

end Fetchline.Host.ProvisionWifi
