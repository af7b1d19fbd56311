import Fetchline.Controller.Packet
import Fetchline.Firmware.WifiCredentials

/-! # The provisioning tool

The flash image that `provision-wifi` writes, and what the firmware loads from it.
-/

namespace Fetchline.Host.ProvisionWifi

def configSize : Nat := 4096
def ssidMaxLen : Nat := 32
def passwordMaxLen : Nat := 63

def checksum (header payload : List UInt8) : UInt32 :=
  (header ++ payload).foldl (fun hash byte => (hash ^^^ byte.toUInt32) * 0x01000193) 0x811c9dc5

def configImage (ssid password : String) : Except String (List UInt8) :=
  if ssid.isEmpty ∨ ssid.utf8ByteSize > ssidMaxLen ∨ password.utf8ByteSize > passwordMaxLen then
    .error "SSID must be 1–32 bytes and password 0–63 bytes"
  else
    let ssidLen := ssid.utf8ByteSize
    let passwordLen := password.utf8ByteSize
    let image := List.replicate configSize 0xff
    let image := copyFromSlice image 0 [0x46, 0x4c, 0x57, 0x43]
    let image := image.set 4 1
    let image := image.set 5 (UInt8.ofNat ssidLen)
    let image := image.set 6 (UInt8.ofNat passwordLen)
    let image := copyFromSlice image 12 (Utf8.encode ssid)
    let image := copyFromSlice image (12 + ssidLen) (Utf8.encode password)
    let checksum := checksum (slice image 0 8) (slice image 12 (12 + ssidLen + passwordLen))
    .ok (copyFromSlice image 8 (u32ToLeBytes checksum))

/-- What comes behind the credentials in an image. -/
def padding (ssid password : List UInt8) : List UInt8 :=
  List.replicate (configSize - 12 - ssid.length - password.length) 0xff

theorem copyFromSlice_append {before old after data : List UInt8} (h : old.length = data.length) :
    copyFromSlice (before ++ (old ++ after)) before.length data = before ++ (data ++ after) := by
  rw [copyFromSlice, ← h, List.take_left, List.drop_length_add_append, List.drop_left,
    List.append_assoc]

theorem configImage_ok {ssid password : String} (hNonempty : ssid.utf8ByteSize ≠ 0)
    (hSsid : ssid.utf8ByteSize ≤ 32) (hPassword : password.utf8ByteSize ≤ 63) :
    configImage ssid password = .ok (wifiLayout 0xff (Utf8.encode ssid) (Utf8.encode password)
      (padding (Utf8.encode ssid) (Utf8.encode password))) := by
  have hAccepted : ¬ (ssid.isEmpty ∨ ssid.utf8ByteSize > ssidMaxLen ∨
      password.utf8ByteSize > passwordMaxLen) := by
    rw [ssidMaxLen, passwordMaxLen, String.isEmpty]
    simp only [beq_iff_eq]
    omega
  obtain ⟨blank, hBlank⟩ : ∃ blank, blank = padding (Utf8.encode ssid) (Utf8.encode password) :=
    ⟨_, rfl⟩
  have hImage : List.replicate configSize (0xff : UInt8) = List.replicate 12 0xff ++
      (List.replicate ssid.utf8ByteSize 0xff ++ (List.replicate password.utf8ByteSize 0xff ++
        blank)) := by
    rw [hBlank, padding, Utf8.encode_length, Utf8.encode_length, List.replicate_append_replicate,
      List.replicate_append_replicate, List.replicate_append_replicate]
    congr 1
    rw [configSize]
    omega
  have hSsidCopy (head rest : List UInt8) (hHead : head.length = 12) :
      copyFromSlice (head ++ (List.replicate ssid.utf8ByteSize 0xff ++ rest)) 12
        (Utf8.encode ssid) = head ++ (Utf8.encode ssid ++ rest) := by
    rw [← hHead]
    exact copyFromSlice_append (by rw [List.length_replicate, Utf8.encode_length])
  have hPasswordCopy (head rest : List UInt8) (hHead : head.length = 12) :
      copyFromSlice (head ++ (Utf8.encode ssid ++ (List.replicate password.utf8ByteSize 0xff ++
        rest))) (12 + ssid.utf8ByteSize) (Utf8.encode password) =
        head ++ (Utf8.encode ssid ++ (Utf8.encode password ++ rest)) := by
    rw [← hHead, ← Utf8.encode_length ssid, ← List.length_append, ← List.append_assoc,
      ← List.append_assoc head]
    exact copyFromSlice_append (by rw [List.length_replicate, Utf8.encode_length])
  have hPayload (head rest : List UInt8) (hHead : head.length = 12) :
      slice (head ++ (Utf8.encode ssid ++ (Utf8.encode password ++ rest))) 12
        (12 + ssid.utf8ByteSize + password.utf8ByteSize) =
        Utf8.encode ssid ++ Utf8.encode password := by
    have h := slice_append head (Utf8.encode ssid ++ (Utf8.encode password ++ rest)) 0
      (Utf8.encode ssid ++ Utf8.encode password).length
    rw [List.length_append, Utf8.encode_length, Utf8.encode_length, hHead, ← Nat.add_assoc] at h
    rw [h, slice, List.drop_zero, ← List.append_assoc, ← Utf8.encode_length ssid,
      ← Utf8.encode_length password, ← List.length_append, List.take_left]
  -- The twelve bytes before the credentials, while the checksum is still blank.
  let head : List UInt8 := [0x46, 0x4c, 0x57, 0x43, 1, UInt8.ofNat ssid.utf8ByteSize,
    UInt8.ofNat password.utf8ByteSize, 0xff, 0xff, 0xff, 0xff, 0xff]
  have hHead (rest : List UInt8) : (((copyFromSlice (List.replicate 12 0xff ++ rest) 0
      [0x46, 0x4c, 0x57, 0x43]).set 4 1).set 5 (UInt8.ofNat ssid.utf8ByteSize)).set 6
        (UInt8.ofNat password.utf8ByteSize) = head ++ rest := rfl
  rw [configImage, if_neg hAccepted]
  simp only [hImage, hHead, hSsidCopy _ _ (rfl : head.length = 12),
    hPasswordCopy _ _ (rfl : head.length = 12), hPayload _ _ (rfl : head.length = 12)]
  rw [wifiLayout, Utf8.encode_length, Utf8.encode_length, List.append_assoc (Utf8.encode ssid), hBlank]
  rfl

theorem configImage_ok_iff (ssid password : String) :
    (∃ image, configImage ssid password = .ok image) ↔
      (1 ≤ ssid.utf8ByteSize ∧ ssid.utf8ByteSize ≤ 32) ∧ password.utf8ByteSize ≤ 63 := by
  constructor
  · rintro ⟨image, h⟩
    rw [configImage] at h
    split at h
    · cases h
    · rename_i hAccepted
      rw [ssidMaxLen, passwordMaxLen, String.isEmpty] at hAccepted
      simp only [beq_iff_eq] at hAccepted
      omega
  · rintro ⟨⟨hNonempty, hSsid⟩, hPassword⟩
    exact ⟨_, configImage_ok (by omega) hSsid hPassword⟩

/-- The start of the flash area, as the firmware reads it. -/
def flashRead (image : List UInt8) : Option WifiRecord :=
  if h : (image.take wifiConfigReadSize).length = wifiConfigReadSize then some ⟨_, h⟩ else none

theorem wifiLayout_take {reserved : UInt8} {ssid password rest : List UInt8} {n : Nat} :
    (wifiLayout reserved ssid password rest).take (12 + (ssid ++ password).length + n) =
      wifiLayout reserved ssid password (rest.take n) := by
  have hHead : 12 = (wifiHeader ssid.length password.length reserved ++ u32ToLeBytes
    (wifiConfigChecksum (wifiHeader ssid.length password.length reserved)
      (ssid ++ password))).length := rfl
  rw [wifiLayout, hHead, Nat.add_assoc, List.take_length_add_append, List.take_length_add_append]
  rfl

theorem wifiLayout_length (reserved : UInt8) (ssid password rest : List UInt8) :
    (wifiLayout reserved ssid password rest).length =
      12 + ssid.length + password.length + rest.length := by
  simp only [wifiLayout, wifiHeader, wifiConfigMagic, u32ToLeBytes, List.length_append,
    List.length_cons, List.length_nil]
  omega

theorem slice_layout (reserved : UInt8) (ssid password rest : List UInt8) :
    slice (wifiLayout reserved ssid password rest) 12 (12 + (ssid ++ password).length) =
      ssid ++ password := by
  have h := slice_append (wifiHeader ssid.length password.length reserved ++ u32ToLeBytes
    (wifiConfigChecksum (wifiHeader ssid.length password.length reserved) (ssid ++ password)))
    (ssid ++ password ++ rest) 0 (ssid ++ password).length
  refine h.trans ?_
  rw [slice, List.take_left, List.drop_zero]

theorem load_image {ssid password : String} {image : List UInt8}
    (h : configImage ssid password = .ok image) :
    image.length = configSize ∧ ∃ credentials,
      loadWifiCredentials (flashRead image) = some credentials ∧
      credentials.ssid.toList = Utf8.encode ssid ∧
      credentials.password.toList = Utf8.encode password := by
  obtain ⟨⟨hNonempty, hSsid⟩, hPassword⟩ := (configImage_ok_iff ssid password).mp ⟨image, h⟩
  rw [configImage_ok (by omega) hSsid hPassword] at h
  obtain rfl := Except.ok.inj h
  have hLength : (wifiLayout 0xff (Utf8.encode ssid) (Utf8.encode password)
      (padding (Utf8.encode ssid) (Utf8.encode password))).length = configSize := by
    rw [wifiLayout_length, padding, List.length_replicate, Utf8.encode_length, Utf8.encode_length,
      configSize]
    omega
  have hSsidLen : (Utf8.encode ssid).length ≤ wifiSsidMaxLen := by rwa [Utf8.encode_length]
  have hPasswordLen : (Utf8.encode password).length ≤ wifiPasswordMaxLen := by
    rwa [Utf8.encode_length]
  have hValid : ValidCredentials (Utf8.encode ssid) (Utf8.encode password) := by
    refine ⟨?_, hSsidLen, hPasswordLen, ?_, ?_⟩
    · rw [Utf8.encode_length]
      omega
    · rw [Utf8.decode_encode, Option.isSome_some]
    · rw [Utf8.decode_encode, Option.isSome_some]
  have hSize : wifiConfigReadSize = 12 + (Utf8.encode ssid ++ Utf8.encode password).length +
      (96 - (Utf8.encode ssid ++ Utf8.encode password).length) := by
    rw [List.length_append, Utf8.encode_length, Utf8.encode_length, wifiConfigReadSize]
    omega
  refine ⟨hLength, ⟨⟨Utf8.encode ssid, hSsidLen⟩, ⟨Utf8.encode password, hPasswordLen⟩⟩, ?_, rfl,
    rfl⟩
  rw [flashRead, dif_pos (by rw [List.length_take, hLength]; rfl)]
  apply loadWifiCredentials_layout hValid
  change (wifiLayout _ _ _ _).take wifiConfigReadSize = _
  rw [hSize, wifiLayout_take]

theorem provisioning_round_trip :
    (∀ ssid password : String,
      ((∃ image, configImage ssid password = .ok image) ↔
        (1 ≤ ssid.utf8ByteSize ∧ ssid.utf8ByteSize ≤ 32) ∧ password.utf8ByteSize ≤ 63) ∧
      ∀ image, configImage ssid password = .ok image →
        image.length = configSize ∧ ∃ credentials,
          loadWifiCredentials (flashRead image) = some credentials ∧
          credentials.ssid.toList = Utf8.encode ssid ∧
          credentials.password.toList = Utf8.encode password) ∧
    ∀ (record : WifiRecord) (credentials : WifiCredentials),
      loadWifiCredentials (some record) = some credentials →
      ∃ ssid password image, credentials.ssid.toList = Utf8.encode ssid ∧
        credentials.password.toList = Utf8.encode password ∧
        configImage ssid password = .ok image ∧
        slice image 0 7 = slice record.1 0 7 ∧
        slice image 12 (12 + (credentials.ssid.toList ++ credentials.password.toList).length) =
          slice record.1 12
            (12 + (credentials.ssid.toList ++ credentials.password.toList).length) ∧
        (record.1.getD 7 0 = 0xff → slice image 7 12 = slice record.1 7 12) := by
  refine ⟨fun ssid password => ⟨configImage_ok_iff ssid password, fun _ h => load_image h⟩, ?_⟩
  intro record credentials h
  obtain ⟨hValid, reserved, rest, hRecord⟩ := layout_of_loadWifiCredentials h
  obtain ⟨ssid, hSsid⟩ := Option.isSome_iff_exists.mp hValid.ssidText
  obtain ⟨password, hPassword⟩ := Option.isSome_iff_exists.mp hValid.passwordText
  have hSsid := Utf8.encode_of_decode hSsid
  have hPassword := Utf8.encode_of_decode hPassword
  have hNonempty := hValid.ssidNonempty
  have hSsidLen := hValid.ssidLen
  have hPasswordLen := hValid.passwordLen
  rw [← hSsid, Utf8.encode_length] at hNonempty hSsidLen
  rw [← hPassword, Utf8.encode_length] at hPasswordLen
  refine ⟨ssid, password, _, hSsid.symm, hPassword.symm,
    configImage_ok hNonempty hSsidLen hPasswordLen, ?_, ?_, ?_⟩
  · rw [hRecord, ← hSsid, ← hPassword]
    rfl
  · rw [hRecord, ← hSsid, ← hPassword, slice_layout, slice_layout]
  · intro hReserved
    rw [hRecord] at hReserved ⊢
    obtain rfl : reserved = 0xff := hReserved
    rw [← hSsid, ← hPassword]
    rfl

theorem provisioning_round_trip_open_network :
    ∃ record credentials, loadWifiCredentials (some record) = some credentials ∧
      credentials.ssid.toList = [0x6c, 0x61, 0x62] ∧ credentials.password.toList = [] ∧
      ∃ ssid password image, credentials.ssid.toList = Utf8.encode ssid ∧
        credentials.password.toList = Utf8.encode password ∧
        configImage ssid password = .ok image := by
  obtain ⟨image, hImage⟩ := (provisioning_round_trip.1 "lab" "").1.mpr (by decide)
  obtain ⟨-, credentials, hLoad, hSsid, hPassword⟩ := (provisioning_round_trip.1 "lab" "").2 _ hImage
  obtain ⟨record, hRecord⟩ : ∃ record, flashRead image = some record := by
    rcases hRead : flashRead image with _ | record
    · rw [hRead] at hLoad
      cases hLoad
    · exact ⟨record, rfl⟩
  rw [hRecord] at hLoad
  obtain ⟨ssid, password, image, hTexts⟩ := provisioning_round_trip.2 record credentials hLoad
  exact ⟨record, credentials, hLoad, hSsid, hPassword, ssid, password, image, hTexts.1, hTexts.2.1,
    hTexts.2.2.1⟩

end Fetchline.Host.ProvisionWifi
