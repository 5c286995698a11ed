import LipaLightning.Errors

set_option autoImplicit false

/-! # Symmetric encryption

`symmetric_encryption.rs`: a ciphertext is followed by the 12 bytes of the nonce it was made with.
The cipher itself is a parameter. `decrypt_eq_ok_iff` says which byte strings are accepted: those
with at least one byte before the nonce that the cipher decrypts.
-/

namespace LipaLightning

/-- `[u8; n]`. -/
abbrev Bytes (n : Nat) := { bytes : List UInt8 // bytes.length = n }

/-- `NonceLength::USIZE`. -/
def nonceLength : Nat := 12

/-- The cipher of the crate `aes_gcm`. -/
structure Aes256Gcm where
  encrypt : Bytes 32 → Bytes nonceLength → List UInt8 → Except Unit (List UInt8)
  decrypt : Bytes 32 → Bytes nonceLength → List UInt8 → Except Unit (List UInt8)

/-- Decryption inverts encryption under the same key and nonce and otherwise fails. The
ciphertext ends with a tag of 16 bytes. -/
structure Aes256Gcm.Lawful (aes : Aes256Gcm) : Prop where
  decrypt_eq_ok : ∀ key nonce data ciphertext,
    aes.decrypt key nonce ciphertext = .ok data ↔ aes.encrypt key nonce data = .ok ciphertext
  length_encrypt : ∀ key nonce data ciphertext,
    aes.encrypt key nonce data = .ok ciphertext → ciphertext.length = data.length + 16

section

variable (aes : Aes256Gcm)

/-- `make_cipher` cannot fail, since a key has 32 bytes. -/
def encryptVanilla (data : List UInt8) (key : Bytes 32) (nonce : Bytes nonceLength) :
    Result (List UInt8) :=
  mapToPermanentFailure (aes.encrypt key nonce data) "AES encryption failed"

def decryptVanilla (data : List UInt8) (key : Bytes 32) (nonce : Bytes nonceLength) :
    Result (List UInt8) :=
  mapToInvalidInput (aes.decrypt key nonce data) "AES decryption failed"

/-- `randomBytes` is what the random number generator returns. -/
def encrypt (randomBytes : Except String (Bytes nonceLength)) (data : List UInt8)
    (key : Bytes 32) : Result (List UInt8) := do
  let nonce ← mapToPermanentFailure randomBytes "Failed to generate random bytes"
  let ciphertext ← encryptVanilla aes data key nonce
  return ciphertext ++ nonce.val

/-- The message for data that has no byte before the nonce. -/
def ciphertextTooShort (length : Nat) : String :=
  s!"Ciphertext is only {length} bytes long, but appended nonce alone must be {nonceLength} bytes."

def decrypt (data : List UInt8) (key : Bytes 32) : Result (List UInt8) :=
  if h : data.length ≤ nonceLength then .error (.invalidInput (ciphertextTooShort data.length))
  else
    let nonceStart := data.length - nonceLength
    decryptVanilla aes (data.take nonceStart) key
      ⟨data.drop nonceStart, by rw [List.length_drop]; omega⟩

end

/-! ## The nonce frames the ciphertext -/

variable {aes : Aes256Gcm} {key : Bytes 32}

theorem decrypt_append (ciphertext : List UInt8) (nonce : Bytes nonceLength)
    (hne : ciphertext ≠ []) :
    decrypt aes (ciphertext ++ nonce.val) key = decryptVanilla aes ciphertext key nonce := by
  have hlength : (ciphertext ++ nonce.val).length = ciphertext.length + nonceLength := by
    rw [List.length_append, nonce.property]
  have hpos : 0 < ciphertext.length := List.length_pos_iff.mpr hne
  have hstart : (ciphertext ++ nonce.val).length - nonceLength = ciphertext.length := by omega
  unfold decrypt
  rw [dif_neg (by omega)]
  simp only [hstart, List.take_left, List.drop_left]

/-- What `decrypt` accepts. -/
theorem decrypt_eq_ok_iff {data plaintext : List UInt8} :
    decrypt aes data key = .ok plaintext ↔
      ∃ ciphertext nonce, data = ciphertext ++ nonce.val ∧ ciphertext ≠ [] ∧
        aes.decrypt key nonce ciphertext = .ok plaintext := by
  constructor
  · intro h
    unfold decrypt at h
    split at h
    · cases h
    · next hlong =>
        refine ⟨_, _, (List.take_append_drop (data.length - nonceLength) data).symm, ?_,
          (mapToInvalidInput_eq_ok _ _ _).mp h⟩
        rw [← List.length_pos_iff, List.length_take]
        omega
  · rintro ⟨ciphertext, nonce, rfl, hne, h⟩
    rw [decrypt_append ciphertext nonce hne]
    exact (mapToInvalidInput_eq_ok _ _ _).mpr h

theorem encrypt_eq_ok_iff {randomBytes : Except String (Bytes nonceLength)}
    {data encrypted : List UInt8} :
    encrypt aes randomBytes data key = .ok encrypted ↔
      ∃ nonce ciphertext, randomBytes = .ok nonce ∧ aes.encrypt key nonce data = .ok ciphertext ∧
        encrypted = ciphertext ++ nonce.val := by
  unfold encrypt encryptVanilla
  simp only [bind_eq_ok, mapToPermanentFailure_eq_ok]
  constructor
  · rintro ⟨nonce, hnonce, ciphertext, hciphertext, h⟩
    exact ⟨nonce, ciphertext, hnonce, hciphertext, (Except.ok.inj h).symm⟩
  · rintro ⟨nonce, ciphertext, hnonce, hciphertext, rfl⟩
    exact ⟨nonce, hnonce, ciphertext, hciphertext, rfl⟩

/-- Under a lawful cipher `decrypt` accepts exactly what `encrypt` returns under the same key. -/
theorem decrypt_iff_encrypt (haes : aes.Lawful) {data plaintext : List UInt8} :
    decrypt aes data key = .ok plaintext ↔
      ∃ nonce, encrypt aes (.ok nonce) plaintext key = .ok data := by
  simp only [decrypt_eq_ok_iff, encrypt_eq_ok_iff, haes.decrypt_eq_ok]
  constructor
  · rintro ⟨ciphertext, nonce, hdata, -, h⟩
    exact ⟨nonce, nonce, ciphertext, rfl, h, hdata⟩
  · rintro ⟨-, nonce, ciphertext, -, h, hdata⟩
    refine ⟨ciphertext, nonce, hdata, ?_, h⟩
    -- the tag alone makes the ciphertext longer than nothing
    have hlength := haes.length_encrypt key nonce plaintext ciphertext h
    rw [← List.length_pos_iff]
    omega

/-- Decryption returns what was encrypted under the same key, whatever the nonce was. -/
theorem decrypt_encrypt (haes : aes.Lawful)
    {randomBytes : Except String (Bytes nonceLength)} {data encrypted : List UInt8}
    (h : encrypt aes randomBytes data key = .ok encrypted) :
    decrypt aes encrypted key = .ok data := by
  obtain ⟨nonce, ciphertext, rfl, -, -⟩ := encrypt_eq_ok_iff.mp h
  exact (decrypt_iff_encrypt haes).mpr ⟨nonce, h⟩

end LipaLightning
