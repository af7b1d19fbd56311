import Fetchline.Library.BoundedVec
import Fetchline.Library.Utf8
import Mathlib.Data.List.Basic
import Mathlib.Data.UInt

/-! # The Wi-Fi record in the flash

What the firmware makes of the configuration record at startup.
-/

namespace Fetchline

open Bounded

/-- `b"FLWC"`. -/
def wifiConfigMagic : List UInt8 := [0x46, 0x4c, 0x57, 0x43]
def wifiConfigVersion : UInt8 := 1
def wifiSsidMaxLen : Nat := 32
def wifiPasswordMaxLen : Nat := 63
def wifiConfigReadSize : Nat := 108

/-- `ssid` and `password` are the used parts of the source's buffers. -/
structure WifiCredentials where
  ssid : BoundedVec UInt8 wifiSsidMaxLen
  password : BoundedVec UInt8 wifiPasswordMaxLen
deriving DecidableEq

abbrev WifiRecord := { bytes : List UInt8 // bytes.length = wifiConfigReadSize }

/-- `bytes[start..stop]`. -/
def slice (bytes : List UInt8) (start stop : Nat) : List UInt8 := (bytes.take stop).drop start

theorem slice_length_le (bytes : List UInt8) (start stop : Nat) :
    (slice bytes start stop).length ≤ stop - start := by
  rw [slice, List.length_drop, List.length_take]
  omega

theorem slice_append (before after : List UInt8) (start stop : Nat) :
    slice (before ++ after) (before.length + start) (before.length + stop) =
      slice after start stop := by
  rw [slice, List.take_length_add_append, List.drop_length_add_append, slice]

/-- `u32::from_le_bytes`. -/
def u32FromLeBytes (bytes : List UInt8) : UInt32 :=
  UInt32.ofNat ((bytes.getD 0 0).toNat + 256 * (bytes.getD 1 0).toNat +
    65536 * (bytes.getD 2 0).toNat + 16777216 * (bytes.getD 3 0).toNat)

/-- `u32::to_le_bytes`. -/
def u32ToLeBytes (value : UInt32) : List UInt8 :=
  [UInt8.ofNat (value.toNat % 256), UInt8.ofNat (value.toNat / 256 % 256),
    UInt8.ofNat (value.toNat / 65536 % 256), UInt8.ofNat (value.toNat / 16777216)]

@[simp] theorem u32FromLeBytes_toLeBytes (value : UInt32) :
    u32FromLeBytes (u32ToLeBytes value) = value := by
  have h := value.toNat_lt
  apply UInt32.toNat_inj.mp
  simp only [u32FromLeBytes, u32ToLeBytes, List.getD_cons_zero, List.getD_cons_succ,
    UInt8.toNat_ofNat', UInt32.toNat_ofNat']
  omega

theorem u32ToLeBytes_fromLeBytes (a b c d : UInt8) :
    u32ToLeBytes (u32FromLeBytes [a, b, c, d]) = [a, b, c, d] := by
  have ha := a.toNat_lt
  have hb := b.toNat_lt
  have hc := c.toNat_lt
  have hd := d.toNat_lt
  simp only [u32FromLeBytes, u32ToLeBytes, List.getD_cons_zero, List.getD_cons_succ,
    UInt32.toNat_ofNat', List.cons.injEq, and_true]
  refine ⟨?_, ?_, ?_, ?_⟩ <;> apply UInt8.toNat_inj.mp <;> rw [UInt8.toNat_ofNat'] <;> omega

def wifiConfigChecksum (header payload : List UInt8) : UInt32 :=
  (header ++ payload).foldl (fun hash byte => (hash ^^^ byte.toUInt32) * 0x01000193) 0x811c9dc5

/-- `flash` is `none` when the ROM does not report success. -/
def loadWifiCredentials (flash : Option WifiRecord) : Option WifiCredentials :=
  match flash with
  | none => none
  | some ⟨bytes, _⟩ =>
    if slice bytes 0 4 ≠ wifiConfigMagic ∨ bytes.getD 4 0 ≠ wifiConfigVersion then none
    else
      let ssidLen := (bytes.getD 5 0).toNat
      let passwordLen := (bytes.getD 6 0).toNat
      if h : ssidLen = 0 ∨ ssidLen > wifiSsidMaxLen ∨ passwordLen > wifiPasswordMaxLen then none
      else
        let payloadLen := ssidLen + passwordLen
        let expectedChecksum := u32FromLeBytes (slice bytes 8 12)
        if wifiConfigChecksum (slice bytes 0 8) (slice bytes 12 (12 + payloadLen)) ≠
            expectedChecksum then none
        else
          let ssid : BoundedVec UInt8 wifiSsidMaxLen := ⟨slice bytes 12 (12 + ssidLen), by
            have := slice_length_le bytes 12 (12 + ssidLen)
            omega⟩
          let password : BoundedVec UInt8 wifiPasswordMaxLen :=
            ⟨slice bytes (12 + ssidLen) (12 + payloadLen), by
              have := slice_length_le bytes (12 + ssidLen) (12 + payloadLen)
              omega⟩
          if ¬ ((Utf8.decode ssid.toList).isSome ∧ (Utf8.decode password.toList).isSome) then none
          else some ⟨ssid, password⟩

/-- The eight bytes before the checksum. The last one is reserved. -/
def wifiHeader (ssidLen passwordLen : Nat) (reserved : UInt8) : List UInt8 :=
  wifiConfigMagic ++ [wifiConfigVersion, UInt8.ofNat ssidLen, UInt8.ofNat passwordLen, reserved]

/-- A record that holds these credentials; `rest` is what follows them. -/
def wifiLayout (reserved : UInt8) (ssid password rest : List UInt8) : List UInt8 :=
  wifiHeader ssid.length password.length reserved ++
    u32ToLeBytes (wifiConfigChecksum (wifiHeader ssid.length password.length reserved)
      (ssid ++ password)) ++
    (ssid ++ password ++ rest)

/-- Lengths and texts that both programs accept. -/
structure ValidCredentials (ssid password : List UInt8) : Prop where
  ssidNonempty : ssid.length ≠ 0
  ssidLen : ssid.length ≤ wifiSsidMaxLen
  passwordLen : password.length ≤ wifiPasswordMaxLen
  ssidText : (Utf8.decode ssid).isSome
  passwordText : (Utf8.decode password).isSome

/-- The checks of the loader. -/
theorem loadWifiCredentials_eq_some_iff {bytes : List UInt8} (h : bytes.length = wifiConfigReadSize)
    {credentials : WifiCredentials} :
    loadWifiCredentials (some ⟨bytes, h⟩) = some credentials ↔
      slice bytes 0 4 = wifiConfigMagic ∧ bytes.getD 4 0 = wifiConfigVersion ∧
      credentials.ssid.toList = slice bytes 12 (12 + (bytes.getD 5 0).toNat) ∧
      credentials.password.toList = slice bytes (12 + (bytes.getD 5 0).toNat)
        (12 + ((bytes.getD 5 0).toNat + (bytes.getD 6 0).toNat)) ∧
      ((bytes.getD 5 0).toNat ≠ 0 ∧ (bytes.getD 5 0).toNat ≤ wifiSsidMaxLen ∧
        (bytes.getD 6 0).toNat ≤ wifiPasswordMaxLen) ∧
      wifiConfigChecksum (slice bytes 0 8)
        (slice bytes 12 (12 + ((bytes.getD 5 0).toNat + (bytes.getD 6 0).toNat))) =
          u32FromLeBytes (slice bytes 8 12) ∧
      (Utf8.decode credentials.ssid.toList).isSome ∧
      (Utf8.decode credentials.password.toList).isSome := by
  obtain ⟨⟨ssid, hSsid⟩, ⟨password, hPassword⟩⟩ := credentials
  constructor
  · intro hLoad
    simp only [loadWifiCredentials] at hLoad
    split at hLoad
    · cases hLoad
    rename_i hHead
    split at hLoad
    · cases hLoad
    rename_i hBounds
    split at hLoad
    · cases hLoad
    rename_i hSum
    split at hLoad
    · cases hLoad
    rename_i hTexts
    cases hLoad
    obtain ⟨hMagic, hVersion⟩ := not_or.mp hHead
    refine ⟨not_not.mp hMagic, not_not.mp hVersion, rfl, rfl, ?_, not_not.mp hSum,
      not_not.mp hTexts⟩
    omega
  · rintro ⟨hMagic, hVersion, rfl, rfl, hBounds, hSum, hTexts⟩
    have hHead : ¬ (slice bytes 0 4 ≠ wifiConfigMagic ∨ bytes.getD 4 0 ≠ wifiConfigVersion) :=
      not_or.mpr ⟨not_not_intro hMagic, not_not_intro hVersion⟩
    simp only [loadWifiCredentials]
    rw [if_neg hHead, dif_neg (by omega), if_neg (not_not_intro hSum), if_neg (not_not_intro hTexts)]

theorem loadWifiCredentials_layout {record : WifiRecord} {credentials : WifiCredentials}
    {reserved : UInt8} {rest : List UInt8}
    (hValid : ValidCredentials credentials.ssid.toList credentials.password.toList)
    (hRecord : record.1 = wifiLayout reserved credentials.ssid.toList credentials.password.toList rest) :
    loadWifiCredentials (some record) = some credentials := by
  obtain ⟨bytes, hBytes⟩ := record
  subst hRecord
  obtain ⟨⟨ssid, hSsid⟩, ⟨password, hPassword⟩⟩ := credentials
  have hSsidLen : ((wifiLayout reserved ssid password rest).getD 5 0).toNat = ssid.length :=
    UInt8.toNat_ofNat_of_lt' (Nat.lt_of_le_of_lt hSsid (by decide))
  have hPasswordLen : ((wifiLayout reserved ssid password rest).getD 6 0).toNat = password.length :=
    UInt8.toNat_ofNat_of_lt' (Nat.lt_of_le_of_lt hPassword (by decide))
  have hSlice (start stop : Nat) : slice (wifiLayout reserved ssid password rest) (12 + start)
      (12 + stop) = slice (ssid ++ password ++ rest) start stop := slice_append _ _ _ _
  refine (loadWifiCredentials_eq_some_iff hBytes).mpr ⟨rfl, rfl, ?_, ?_, ?_, ?_,
    hValid.ssidText, hValid.passwordText⟩
  · change ssid = slice _ (12 + 0) _
    rw [hSsidLen, hSlice, slice, List.append_assoc, List.take_left, List.drop_zero]
  · change password = _
    rw [hSsidLen, hPasswordLen, hSlice, slice, ← List.length_append, List.take_left, List.drop_left]
  · rw [hSsidLen, hPasswordLen]
    exact ⟨hValid.ssidNonempty, hSsid, hPassword⟩
  · change _ = u32FromLeBytes (u32ToLeBytes _)
    have hPayload : slice (wifiLayout reserved ssid password rest) 12
        (12 + (ssid.length + password.length)) = ssid ++ password := by
      change slice _ (12 + 0) _ = _
      rw [hSlice, slice, ← List.length_append, List.take_left, List.drop_zero]
    rw [u32FromLeBytes_toLeBytes, hSsidLen, hPasswordLen, hPayload]
    rfl

theorem layout_of_loadWifiCredentials {record : WifiRecord} {credentials : WifiCredentials}
    (h : loadWifiCredentials (some record) = some credentials) :
    ValidCredentials credentials.ssid.toList credentials.password.toList ∧ ∃ reserved rest,
      record.1 = wifiLayout reserved credentials.ssid.toList credentials.password.toList rest := by
  obtain ⟨bytes, hBytes⟩ := record
  obtain ⟨hMagic, hVersion, hSsid, hPassword, hBounds, hSum, hTexts⟩ :=
    (loadWifiCredentials_eq_some_iff hBytes).mp h
  obtain ⟨m₀, m₁, m₂, m₃, version, ssidLen, passwordLen, reserved, c₀, c₁, c₂, c₃, tail, rfl⟩ :
      ∃ m₀ m₁ m₂ m₃ version ssidLen passwordLen reserved c₀ c₁ c₂ c₃ tail, bytes =
        [m₀, m₁, m₂, m₃, version, ssidLen, passwordLen, reserved, c₀, c₁, c₂, c₃] ++ tail := by
    match bytes, hBytes with
    | m₀ :: m₁ :: m₂ :: m₃ :: version :: ssidLen :: passwordLen :: reserved :: c₀ :: c₁ :: c₂ ::
        c₃ :: tail, _ => exact ⟨_, _, _, _, _, _, _, _, _, _, _, _, _, rfl⟩
  obtain ⟨⟨ssid, hSsidBound⟩, ⟨password, hPasswordBound⟩⟩ := credentials
  simp only at hSsid hPassword hTexts ⊢
  have hSlice (start stop : Nat) : slice ([m₀, m₁, m₂, m₃, version, ssidLen, passwordLen,
      reserved, c₀, c₁, c₂, c₃] ++ tail) (12 + start) (12 + stop) = slice tail start stop :=
    slice_append _ _ _ _
  change [m₀, m₁, m₂, m₃] = _ at hMagic
  change version = _ at hVersion
  change ssid = slice _ (12 + 0) (12 + ssidLen.toNat) at hSsid
  change password = slice _ (12 + ssidLen.toNat) (12 + (ssidLen.toNat + passwordLen.toNat)) at hPassword
  change ssidLen.toNat ≠ 0 ∧ ssidLen.toNat ≤ 32 ∧ passwordLen.toNat ≤ 63 at hBounds
  change wifiConfigChecksum [m₀, m₁, m₂, m₃, version, ssidLen, passwordLen, reserved]
    (slice _ (12 + 0) (12 + (ssidLen.toNat + passwordLen.toNat))) =
      u32FromLeBytes [c₀, c₁, c₂, c₃] at hSum
  rw [hSlice] at hSsid hPassword hSum
  have hTail : tail.length = 96 := by
    simpa [wifiConfigReadSize] using hBytes
  have hPayload : slice tail 0 (ssidLen.toNat + passwordLen.toNat) = ssid ++ password := by
    rw [hSsid, hPassword, slice, slice, slice, List.drop_zero, List.drop_zero, List.drop_take,
      Nat.add_sub_cancel_left, List.take_add]
  have hSsidLen : ssid.length = ssidLen.toNat := by
    rw [hSsid, slice, List.drop_zero, List.length_take]
    omega
  have hPasswordLen : password.length = passwordLen.toNat := by
    rw [hPassword, slice, List.length_drop, List.length_take]
    omega
  refine ⟨⟨by omega, hSsidBound, hPasswordBound, hTexts.1, hTexts.2⟩, reserved,
    tail.drop (ssidLen.toNat + passwordLen.toNat), ?_⟩
  have hHeader : [m₀, m₁, m₂, m₃, version, ssidLen, passwordLen, reserved] =
      wifiHeader ssid.length password.length reserved := by
    rw [wifiHeader, ← hMagic, hVersion, hSsidLen, hPasswordLen, UInt8.ofNat_toNat, UInt8.ofNat_toNat]
    rfl
  have hRest : ssid ++ password ++ tail.drop (ssidLen.toNat + passwordLen.toNat) = tail := by
    rw [← hPayload, slice, List.drop_zero, List.take_append_drop]
  rw [hPayload, hHeader] at hSum
  rw [wifiLayout, hRest, hSum, u32ToLeBytes_fromLeBytes, ← hHeader]
  rfl

end Fetchline
