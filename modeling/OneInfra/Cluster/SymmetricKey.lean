import OneInfra.Cluster.NodeJoinRequests

/-!
# Symmetric keys

`internal/pkg/crypto/symmetric.go`.  A text is encrypted with AES-GCM under a
fresh nonce, the nonce is put in front, and the bytes are written in base64.

`CryptoPrimitives` holds the calls to the standard library: base64, `Seal` and
`Open` of AES-GCM, and RSA-OAEP.  They return a value or an error, and each
decoder undoes its encoder.  What this file is about is the code around them:
the length of the key, and the split of the decoded bytes at the nonce, which
panics when there are fewer bytes than a nonce has.

`CryptoPrimitives.cipher` is the `Cipher` of the reconciler.
-/

namespace OneInfra

open Lib

/-- The calls to the standard library. -/
structure CryptoPrimitives where
  /-- `base64.RawStdEncoding.EncodeToString`. -/
  encodeToString : List UInt8 → String
  /-- `base64.RawStdEncoding.DecodeString`. -/
  decodeString : String → Except String (List UInt8)
  /-- `gcm.Seal`. -/
  gcmSeal : (key : String) → (nonce : List UInt8) → (plaintext : String) → List UInt8
  /-- `gcm.Open`. -/
  gcmOpen : (key : String) → (nonce ciphertext : List UInt8) → Except String String
  /-- `PublicKey.Encrypt`, with the random bytes it reads. -/
  encryptKey : (publicKey random content : String) → Except String String
  /-- `KeyPair.Decrypt`. -/
  decryptKey : KeyPair → (content : String) → Except String String
  /-- The two halves of the pair belong together. -/
  IsPair : KeyPair → Prop
  decodeString_empty : decodeString "" = .ok []
  decodeString_encodeToString : ∀ bytes, decodeString (encodeToString bytes) = .ok bytes
  gcmOpen_gcmSeal : ∀ key nonce plaintext,
    gcmOpen key nonce (gcmSeal key nonce plaintext) = .ok plaintext
  decryptKey_encryptKey : ∀ keyPair random content text, IsPair keyPair →
    encryptKey keyPair.publicKey random content = .ok text →
    decryptKey keyPair text = .ok content

namespace SymmetricKey

/-- `gcm.NonceSize()`. -/
def nonceSize : Nat := 12

/-- The sizes in bytes that AES has keys for. -/
def ValidSize (symmetricKey : String) : Prop :=
  symmetricKey.utf8ByteSize = 16 ∨ symmetricKey.utf8ByteSize = 24 ∨
    symmetricKey.utf8ByteSize = 32

instance (symmetricKey : String) : Decidable (ValidSize symmetricKey) :=
  inferInstanceAs (Decidable (_ ∨ _))

/-- `aes.NewCipher`. -/
def newCipher (symmetricKey : String) : Except String Unit :=
  if ValidSize symmetricKey then .ok ()
  else .error ("crypto/aes: invalid key size " ++ toString symmetricKey.utf8ByteSize)

/-- The bytes of a nonce that were read from `random`. -/
def nonceBytes (random : String) : List UInt8 :=
  (random.toUTF8.toList ++ List.replicate nonceSize 0).take nonceSize

variable (prims : CryptoPrimitives)

/-- `SymmetricKey.Encrypt`. -/
def encrypt (symmetricKey : String) (random : Except String String) (content : String) :
    Except String String := do
  newCipher symmetricKey
  let nonce := nonceBytes (← random)
  pure (prims.encodeToString (nonce ++ prims.gcmSeal symmetricKey nonce content))

/-- The split `data[:nonceSize], data[nonceSize:]`. -/
def splitNonce (data : List UInt8) : Except Fault (List UInt8 × List UInt8) :=
  if data.length < nonceSize then .error (.panic "slice bounds out of range")
  else .ok (data.take nonceSize, data.drop nonceSize)

/-- `SymmetricKey.Decrypt`. -/
def decrypt (symmetricKey content : String) : Except Fault String := do
  let data ← (prims.decodeString content).mapError Fault.error
  (newCipher symmetricKey).mapError Fault.error
  let (nonce, ciphertext) ← splitNonce data
  (prims.gcmOpen symmetricKey nonce ciphertext).mapError Fault.error

/-- The text decodes to fewer bytes than a nonce has. -/
def Short (content : String) : Prop :=
  ∃ data, prims.decodeString content = .ok data ∧ data.length < nonceSize

/-- The text decodes to a nonce and a ciphertext that opens under the key. -/
def Opens (symmetricKey content : String) : Prop :=
  ∃ data plaintext, prims.decodeString content = .ok data ∧ nonceSize ≤ data.length ∧
    prims.gcmOpen symmetricKey (data.take nonceSize) (data.drop nonceSize) = .ok plaintext

@[simp] theorem length_nonceBytes (random : String) : (nonceBytes random).length = nonceSize := by
  simp only [nonceBytes, List.length_take, List.length_append, List.length_replicate]
  omega

theorem newCipher_of_validSize {symmetricKey : String} (hkey : ValidSize symmetricKey) :
    newCipher symmetricKey = .ok () := if_pos hkey

theorem splitNonce_append (random : String) (ciphertext : List UInt8) :
    splitNonce (nonceBytes random ++ ciphertext) = .ok (nonceBytes random, ciphertext) := by
  have hlong : ¬ (nonceBytes random ++ ciphertext).length < nonceSize := by
    rw [List.length_append, length_nonceBytes]
    omega
  rw [splitNonce, if_neg hlong, List.take_left' (length_nonceBytes random),
    List.drop_left' (length_nonceBytes random)]

variable {prims} {symmetricKey content text : String} {random : Except String String}

/-- A text comes from `Encrypt` only under a key of a valid size. -/
theorem encrypt_eq_ok : encrypt prims symmetricKey random content = .ok text ↔
    ValidSize symmetricKey ∧ ∃ nonce, random = .ok nonce ∧ text = prims.encodeToString
      (nonceBytes nonce ++ prims.gcmSeal symmetricKey (nonceBytes nonce) content) := by
  by_cases hkey : ValidSize symmetricKey
  · cases random with
    | error message => simp [encrypt, newCipher_of_validSize hkey, hkey, bind, Except.bind]
    | ok nonce =>
      simp [encrypt, newCipher_of_validSize hkey, hkey, bind, Except.bind, pure, Except.pure,
        eq_comm]
  · simp [encrypt, newCipher, hkey, bind, Except.bind]

/-- `Decrypt` undoes `Encrypt`. -/
theorem decrypt_of_encrypt_eq_ok (h : encrypt prims symmetricKey random content = .ok text) :
    decrypt prims symmetricKey text = .ok content := by
  obtain ⟨hkey, nonce, -, rfl⟩ := encrypt_eq_ok.mp h
  simp only [decrypt, prims.decodeString_encodeToString, newCipher_of_validSize hkey,
    Except.mapError, splitNonce_append, prims.gcmOpen_gcmSeal, bind, Except.bind]

/-- Only a key of a size that the cipher takes decrypts. -/
theorem validSize_of_decrypt_eq_ok {base64Data : String}
    (h : decrypt prims symmetricKey base64Data = .ok content) : ValidSize symmetricKey := by
  by_contra hsize
  unfold decrypt newCipher at h
  rw [if_neg hsize] at h
  cases hdecode : prims.decodeString base64Data <;>
    simp [hdecode, Except.mapError, bind, Except.bind] at h

/-- An encrypted text is not empty. -/
theorem ne_empty_of_encrypt_eq_ok (h : encrypt prims symmetricKey random content = .ok text) :
    text ≠ "" := by
  rintro rfl
  obtain ⟨-, nonce, -, htext⟩ := encrypt_eq_ok.mp h
  have hdecode := prims.decodeString_encodeToString
    (nonceBytes nonce ++ prims.gcmSeal symmetricKey (nonceBytes nonce) content)
  rw [← htext, prims.decodeString_empty] at hdecode
  have hlen := congrArg List.length (Except.ok.inj hdecode)
  rw [List.length_append, length_nonceBytes] at hlen
  simp [nonceSize] at hlen
  omega

/-- `Decrypt` panics under a key of a valid size on a text that is too short, and
nowhere else. -/
theorem exceptPanics_decrypt_iff :
    ExceptPanics (decrypt prims symmetricKey content) ↔
      ValidSize symmetricKey ∧ Short prims content := by
  unfold decrypt Short ExceptPanics
  cases prims.decodeString content with
  | error message => simp [Except.mapError, bind, Except.bind]
  | ok data =>
    by_cases hkey : ValidSize symmetricKey
    · by_cases hshort : data.length < nonceSize
      · simp [newCipher, hkey, splitNonce, hshort, Except.mapError, bind, Except.bind]
      · cases hopen : prims.gcmOpen symmetricKey (data.take nonceSize) (data.drop nonceSize) <;>
          simp [newCipher, hkey, splitNonce, hshort, hopen, Except.mapError, bind, Except.bind]
    · simp [newCipher, hkey, Except.mapError, bind, Except.bind]

/-- `Decrypt` returns a value under a key of a valid size on a text that opens, and
nowhere else. -/
theorem exists_decrypt_eq_ok_iff :
    (∃ plaintext, decrypt prims symmetricKey content = .ok plaintext) ↔
      ValidSize symmetricKey ∧ Opens prims symmetricKey content := by
  unfold decrypt Opens
  cases prims.decodeString content with
  | error message => simp [Except.mapError, bind, Except.bind]
  | ok data =>
    by_cases hkey : ValidSize symmetricKey
    · by_cases hshort : data.length < nonceSize
      · simp [newCipher, hkey, splitNonce, hshort, Except.mapError, bind, Except.bind]
      · cases hopen : prims.gcmOpen symmetricKey (data.take nonceSize) (data.drop nonceSize) <;>
          simp [newCipher, hkey, splitNonce, hshort, hopen, Except.mapError, bind, Except.bind,
            Nat.not_lt.mp hshort]
    · simp [newCipher, hkey, Except.mapError, bind, Except.bind]

end SymmetricKey

namespace CryptoPrimitives

/-- The cipher of the reconciler. -/
def cipher (prims : CryptoPrimitives) : Cipher where
  encrypt := SymmetricKey.encrypt prims
  decrypt := SymmetricKey.decrypt prims
  decryptKey := prims.decryptKey
  decrypt_encrypt _ _ _ _ := SymmetricKey.decrypt_of_encrypt_eq_ok

/-! ## Primitives to compute with -/

/-- The three bytes of the number of a character. -/
def charBytes (char : Char) : List UInt8 :=
  [UInt8.ofNat (char.toNat / 65536), UInt8.ofNat (char.toNat / 256), UInt8.ofNat char.toNat]

/-- The characters of which `charBytes` makes the bytes. -/
def charsOfBytes : List UInt8 → Except String (List Char)
  | [] => .ok []
  | high :: middle :: low :: rest => do
    let chars ← charsOfBytes rest
    pure (Char.ofNat (high.toNat * 65536 + middle.toNat * 256 + low.toNat) :: chars)
  | _ => .error "cipher: message authentication failed"

theorem charsOfBytes_flatMap (chars : List Char) :
    charsOfBytes (chars.flatMap charBytes) = .ok chars := by
  induction chars with
  | nil => rfl
  | cons char chars ih =>
    have hvalid := char.valid
    have hlt : char.toNat < 65536 * 256 := by
      rcases hvalid with h | h <;> simp only [Char.toNat] at * <;> omega
    have hchar : char.toNat / 65536 % 256 * 65536 + char.toNat / 256 % 256 * 256 +
        char.toNat % 256 = char.toNat := by omega
    simp only [List.flatMap_cons, charBytes, List.cons_append, List.nil_append, charsOfBytes, ih]
    simp only [UInt8.toNat_ofNat', bind, Except.bind, pure, Except.pure]
    rw [show (2:Nat)^8 = 256 from rfl, hchar, Char.ofNat_toNat]

/-- Primitives that hide nothing. -/
def plain : CryptoPrimitives where
  encodeToString bytes := String.ofList (bytes.map Char.ofUInt8)
  decodeString text :=
    if text.toList.all fun char => char.toNat < 256 then
      .ok (text.toList.map fun char => UInt8.ofNat char.toNat)
    else .error "illegal base64 data"
  gcmSeal _ _ plaintext := plaintext.toList.flatMap charBytes
  gcmOpen _ _ ciphertext := (charsOfBytes ciphertext).map String.ofList
  encryptKey _ _ content := .ok content
  decryptKey _ content := .ok content
  IsPair _ := True
  decodeString_empty := rfl
  decodeString_encodeToString bytes := by
    have hbytes : (String.ofList (bytes.map Char.ofUInt8)).toList.all
        fun char => char.toNat < 256 := by
      rw [String.toList_ofList, List.all_map, List.all_eq_true]
      exact fun byte _ => decide_eq_true byte.toNat_lt
    rw [if_pos hbytes, String.toList_ofList, List.map_map]
    refine congrArg Except.ok ((List.map_congr_left fun byte _ => ?_).trans (List.map_id bytes))
    exact UInt8.ofNat_toNat
  gcmOpen_gcmSeal _ _ plaintext := by
    rw [charsOfBytes_flatMap]
    exact congrArg Except.ok (String.ofList_toList)
  decryptKey_encryptKey _ _ _ _ _ h := by
    cases h
    rfl

end CryptoPrimitives

end OneInfra
