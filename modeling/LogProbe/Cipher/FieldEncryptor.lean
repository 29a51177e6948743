/-
**Encryption of text fields.** A field is encrypted without associated data and sent as base64,
with the header of its key or without, as the variant says.

* `FieldEncryptor.ofKeyset` — an encryptor; the variant without headers needs a primary key that
  has one, so that there is something to leave out.
* `FieldEncryptor.encrypt`, `FieldEncryptor.decrypt` — both ways.
-/

import LogProbe.Cipher.Deterministic

namespace LogProbe

/-- A cipher and the layout of what it sends. -/
structure FieldEncryptor where
  cipher : Cipher
  variant : Variant

namespace FieldEncryptor

/-- The encryptor of a keyset. -/
def ofKeyset (keyset : Keyset) (variant : Variant) : Except Cipher.Error FieldEncryptor := do
  let cipher ← Cipher.ofKeyset keyset
  if variant = .simple ∧ cipher.primary.header.length ≠ headerLength then
    .error .headerNeeded
  else .ok ⟨cipher, variant⟩

/-- The encrypted form of a text. -/
def encrypt (encryptor : FieldEncryptor) (text : String) : String :=
  let ciphertext := encryptor.cipher.encrypt (Utf8.bytesOf text) []
  match encryptor.variant with
  | .tink => Base64.encode ciphertext
  | .simple => Base64.encode (ciphertext.drop headerLength)

/-- The text of an encrypted form. -/
def decrypt (encryptor : FieldEncryptor) (encrypted : String) : Except Cipher.Error String :=
  match Base64.decode? encrypted with
  | none => .error .notBase64
  | some ciphertext => do
    let plaintext ←
      match encryptor.variant with
      | .tink => encryptor.cipher.decrypt ciphertext []
      | .simple => encryptor.cipher.decryptBare ciphertext []
    match Utf8.decode? plaintext with
    | none => .error .notText
    | some text => .ok (String.ofList text)

end FieldEncryptor

end LogProbe
