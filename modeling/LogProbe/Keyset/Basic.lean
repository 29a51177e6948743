/-
**Keysets.** A keyset is a list of keys, each with an identifier, a status and the header that
marks its ciphertexts, and the identifier of the key that encrypts.

* `Keyset`, `Keyset.Key` — the types; identifiers may repeat.
* `HeaderKind.bytes` — the header of a key: a version byte and the identifier, or nothing.
* `Keyset.primary`, `Keyset.enabled` — the encrypting key, and the keys that decrypt.
* `Keyset.Key.material` — the sixty-four bytes that a key carries, decoded and checked.
* `Keyset.Error` — what can be wrong with a keyset, and how it is put into words.
-/

import LogProbe.Base64
import LogProbe.Siv.Mode
import LogProbe.Text.Utf8
import LogProbe.Wire.KeyMaterial

namespace LogProbe

/-- Whether a key is in use. -/
inductive KeyStatus where
  | enabled
  | disabled
  | destroyed
deriving DecidableEq

/-- How the ciphertexts of a key are marked. -/
inductive HeaderKind where
  | tink
  | legacy
  | raw
  | crunchy
deriving DecidableEq

/-- How many bytes a header has, unless it is empty. -/
def headerLength : Nat := 5

/-- The bytes in front of every ciphertext of a key. -/
def HeaderKind.bytes (kind : HeaderKind) (id : UInt32) : Bytes :=
  match kind with
  | raw => []
  | tink => 0x01 :: Bytes.bigEndian32 id
  | legacy | crunchy => 0x00 :: Bytes.bigEndian32 id

/-- The material of a key as it is stored: what kind of key it is for, and base64 text. -/
structure KeyData where
  typeUrl : String
  value : String
  materialType : String
deriving DecidableEq

/-- A key of a keyset. -/
structure Keyset.Key where
  data : KeyData
  status : KeyStatus
  id : UInt32
  headerKind : HeaderKind
deriving DecidableEq

/-- The keys, and which of them encrypts. -/
structure Keyset where
  primaryId : UInt32
  keys : List Keyset.Key
deriving DecidableEq

namespace Keyset

/-- What can be wrong with a keyset. -/
inductive Error where
  | malformed
  | empty
  | missingPrimary (id : UInt32)
  | primaryNotEnabled (id : UInt32)
  | unsupportedType (id : UInt32) (typeUrl : String)
  | notBase64 (id : UInt32)
  | notMaterial (id : UInt32)
  | unsupportedVersion (id : UInt32) (version : UInt32)
  | invalidLength (id : UInt32) (length : Nat)
deriving DecidableEq

/-- The only kind of key that is supported. -/
def sivTypeUrl : String := "type.googleapis.com/google.crypto.tink.AesSivKey"

/-- An error in words. -/
def Error.message : Error → String
  | malformed => "Failed to parse keyset JSON!"
  | empty => "keyset has no keys"
  | missingPrimary id => s!"primary key {id} is not present in the keyset"
  | primaryNotEnabled id => s!"primary key {id} is not enabled"
  | unsupportedType id typeUrl => s!"key {id} has unsupported type {typeUrl}"
  | notBase64 id => s!"Key {id} value is not valid base64!"
  | notMaterial id => s!"Key {id} value is not a valid AesSivKey!"
  | unsupportedVersion id version => s!"key {id} has unsupported version {version}"
  | invalidLength id length =>
    s!"key {id} has {length} bytes of key material, expected {Siv.keyLength}"

/-- The encrypting key: the first one with the primary identifier, which must be enabled. -/
def primary (keyset : Keyset) : Except Error Key :=
  match keyset.keys.find? fun key => key.id = keyset.primaryId with
  | none => .error (.missingPrimary keyset.primaryId)
  | some key => if key.status = .enabled then .ok key else .error (.primaryNotEnabled key.id)

/-- The keys in use, in their order. -/
def enabled (keyset : Keyset) : List Key := keyset.keys.filter fun key => key.status = .enabled

namespace Key

/-- The bytes in front of every ciphertext of the key. -/
def header (key : Key) : Bytes := key.headerKind.bytes key.id

/-- The material of the key: its type is the supported one, its value is base64 of a message whose
version is zero and whose value has the length of a key. -/
def material (key : Key) : Except Error Bytes :=
  if key.data.typeUrl ≠ sivTypeUrl then
    .error (.unsupportedType key.id key.data.typeUrl)
  else
    match Base64.decode? key.data.value with
    | none => .error (.notBase64 key.id)
    | some bytes =>
      match Wire.KeyMaterial.read? bytes with
      | none => .error (.notMaterial key.id)
      | some material =>
        if material.version ≠ 0 then .error (.unsupportedVersion key.id material.version)
        else if material.value.length ≠ Siv.keyLength then
          .error (.invalidLength key.id material.value.length)
        else .ok material.value

end Key

end Keyset

end LogProbe
