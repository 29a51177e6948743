/-
**Deterministic encryption with a keyset.** The same plaintext always becomes the same ciphertext:
the header of the primary key and the AES-SIV encryption under its material.

* `LoadedKey`, `Cipher` — the enabled keys of a keyset, ready for use, and the primary among them.
* `Cipher.ofKeyset` — a cipher for a keyset whose primary is enabled and whose enabled keys all
  hold valid material.
* `Cipher.encrypt` — under the primary key.
* `Cipher.decrypt` — under the first key that fits: those whose header the ciphertext begins with,
  then those without a header.
* `Cipher.decryptBare` — under the primary key, for ciphertexts without a header.
-/

import LogProbe.Cipher.Variant
import LogProbe.Keyset.Json

namespace LogProbe

/-- A key that is ready for use. -/
structure LoadedKey where
  id : UInt32
  header : Bytes
  key : Siv.Key

/-- The keys of a cipher in the order of their keyset, and the one that encrypts. -/
structure Cipher where
  primary : LoadedKey
  keys : List LoadedKey

namespace Cipher

/-- What can go wrong with a cipher. -/
inductive Error where
  | keyset (error : Keyset.Error)
  | unusableKey (id : UInt32)
  | primaryNotLoaded (id : UInt32)
  | headerNeeded
  | undecryptable
  | notBase64
  | notText
deriving DecidableEq

/-- An error in words; text that is no base64 or no UTF-8 has none of its own. -/
def Error.message? : Error → Option String
  | keyset error => some error.message
  | unusableKey id => some s!"Failed to create AES-SIV cipher for key {id}!"
  | primaryNotLoaded id => some s!"Primary key {id} was not loaded!"
  | headerNeeded =>
    some "The simple variant needs a prefixed primary key, but the primary key is RAW!"
  | undecryptable => some "Failed to decrypt!"
  | notBase64 => none
  | notText => none

/-- A key made ready, if its material is valid. -/
def load (key : Keyset.Key) : Except Error LoadedKey :=
  match key.material with
  | .error error => .error (.keyset error)
  | .ok material =>
    match Siv.Key.ofBytes? material with
    | none => .error (.unusableKey key.id)
    | some loaded => .ok ⟨key.id, key.header, loaded⟩

/-- Every key made ready, or the error of the first one that cannot be. -/
def loadAll : List Keyset.Key → Except Error (List LoadedKey)
  | [] => .ok []
  | key :: rest => do
    let loaded ← load key
    let others ← loadAll rest
    .ok (loaded :: others)

/-- The cipher of a keyset. -/
def ofKeyset (keyset : Keyset) : Except Error Cipher :=
  match keyset.primary with
  | .error error => .error (.keyset error)
  | .ok primary => do
    let keys ← loadAll keyset.enabled
    match keys.find? fun key => key.id = primary.id with
    | none => .error (.primaryNotLoaded primary.id)
    | some loaded => .ok ⟨loaded, keys⟩

/-- The header of the primary key, then the encryption under its material. -/
def encrypt (cipher : Cipher) (plaintext associated : Bytes) : Bytes :=
  cipher.primary.header ++ Siv.encrypt cipher.primary.key associated plaintext

/-- The keys that a ciphertext is tried with and what each of them is to decrypt: first those whose
header it begins with, if anything follows the header, then those without one. -/
def candidates (cipher : Cipher) (ciphertext : Bytes) : List (Siv.Key × Bytes) :=
  let headed :=
    if headerLength < ciphertext.length then
      cipher.keys.filter fun key => key.header = ciphertext.take headerLength
    else []
  let bare := cipher.keys.filter fun key => key.header = []
  headed.map (fun key => (key.key, ciphertext.drop headerLength)) ++
    bare.map (fun key => (key.key, ciphertext))

/-- The plaintext under the first key that fits. -/
def decrypt (cipher : Cipher) (ciphertext associated : Bytes) : Except Error Bytes :=
  let attempts := cipher.candidates ciphertext
  match attempts.findSome? fun attempt => Siv.decrypt? attempt.1 associated attempt.2 with
  | some plaintext => .ok plaintext
  | none => .error .undecryptable

/-- The plaintext of a ciphertext without a header, under the primary key. -/
def decryptBare (cipher : Cipher) (ciphertext associated : Bytes) : Except Error Bytes :=
  match Siv.decrypt? cipher.primary.key associated ciphertext with
  | some plaintext => .ok plaintext
  | none => .error .undecryptable

/-- A cipher as it is shown, without any material. -/
def shown (cipher : Cipher) : String :=
  s!"DeterministicCipher \x7b primary_key_id: {cipher.primary.id}, " ++
    s!"keys: {cipher.keys.length} \x7d"

end Cipher

end LogProbe
