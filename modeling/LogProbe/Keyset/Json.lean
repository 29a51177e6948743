/-
**Keysets in JSON.**

* `Keyset.toValue` — a keyset as a value of JSON, its fields in their usual order.
* `Keyset.ofText` — the keyset of a text. It has at least one key.
* `Keyset.embedded` — the keyset that is used when no other is given.
-/

import LogProbe.Json.Record
import LogProbe.Keyset.Basic

namespace LogProbe

open Json

namespace KeyStatus

/-- The name of a status. -/
def name : KeyStatus → String
  | enabled => "ENABLED"
  | disabled => "DISABLED"
  | destroyed => "DESTROYED"

/-- The status of a name. -/
def ofName? : String → Option KeyStatus
  | "ENABLED" => some enabled
  | "DISABLED" => some disabled
  | "DESTROYED" => some destroyed
  | _ => none

end KeyStatus

namespace HeaderKind

/-- The name of a kind. -/
def name : HeaderKind → String
  | tink => "TINK"
  | legacy => "LEGACY"
  | raw => "RAW"
  | crunchy => "CRUNCHY"

/-- The kind of a name. -/
def ofName? : String → Option HeaderKind
  | "TINK" => some tink
  | "LEGACY" => some legacy
  | "RAW" => some raw
  | "CRUNCHY" => some crunchy
  | _ => none

end HeaderKind

namespace KeyData

/-- Stored material as a value. -/
def toValue (data : KeyData) : Value :=
  .object [("typeUrl", .string data.typeUrl), ("value", .string data.value),
    ("keyMaterialType", .string data.materialType)]

/-- Stored material from a document. -/
def ofDocument? (document : Document) : Option KeyData := do
  match ← document.record? ["typeUrl", "value", "keyMaterialType"] with
  | [typeUrl, value, materialType] =>
    let typeUrl ← Document.required? Document.text? typeUrl
    let value ← Document.required? Document.text? value
    let materialType ← Document.required? Document.text? materialType
    some ⟨typeUrl, value, materialType⟩
  | _ => none

end KeyData

namespace Keyset

/-- An identifier from a document. -/
def idOf? (document : Document) : Option UInt32 := do
  let value ← document.natural? UInt32.size
  some (UInt32.ofNat value)

/-- A key as a value. -/
def Key.toValue (key : Key) : Value :=
  .object [("keyData", key.data.toValue), ("status", .string key.status.name),
    ("keyId", .natural key.id.toNat), ("outputPrefixType", .string key.headerKind.name)]

/-- A key from a document. -/
def Key.ofDocument? (document : Document) : Option Key := do
  match ← document.record? ["keyData", "status", "keyId", "outputPrefixType"] with
  | [data, status, id, headerKind] =>
    let data ← Document.required? KeyData.ofDocument? data
    let status ← KeyStatus.ofName? (← Document.required? Document.choice? status)
    let id ← Document.required? idOf? id
    let headerKind ← HeaderKind.ofName? (← Document.required? Document.choice? headerKind)
    some ⟨data, status, id, headerKind⟩
  | _ => none

/-- A keyset as a value. -/
def toValue (keyset : Keyset) : Value :=
  .object [("primaryKeyId", .natural keyset.primaryId.toNat),
    ("key", .array (keyset.keys.map Key.toValue))]

/-- The text of a keyset. -/
def text (keyset : Keyset) : String := keyset.toValue.text

/-- A keyset from a document. -/
def ofDocument? (document : Document) : Option Keyset := do
  match ← document.record? ["primaryKeyId", "key"] with
  | [primaryId, keys] =>
    let primaryId ← Document.required? idOf? primaryId
    let items ← Document.required? Document.items? keys
    let keys ← items.mapM Key.ofDocument?
    some ⟨primaryId, keys⟩
  | _ => none

/-- The keyset of a text. -/
def ofText (text : String) : Except Error Keyset :=
  match (do ofDocument? (← Document.read? (Utf8.bytesOf text)) : Option Keyset) with
  | none => .error .malformed
  | some keyset => if keyset.keys = [] then .error .empty else .ok keyset

/-- The text of the keyset that is shared with the service. -/
def embeddedText : String :=
  "\x7b\"primaryKeyId\":2939429116,\"key\":[\x7b\"keyData\":\x7b\"typeUrl\":" ++
  "\"type.googleapis.com/google.crypto.tink.AesSivKey\",\"value\":" ++
  "\"EkDqH9D86ii0QPF8EBhcZI1PkBKKdDGMPDS2wFITqqfjQ77RQbDROhhAXI8m5qUcYNbflns8Xo//" ++
  "BORbgtX0msbf\",\"keyMaterialType\":\"SYMMETRIC\"\x7d,\"status\":\"ENABLED\"," ++
  "\"keyId\":2939429116,\"outputPrefixType\":\"TINK\"\x7d]\x7d"

/-- The keyset that is used when no other is given. -/
def embedded : Except Error Keyset := ofText embeddedText

end Keyset

end LogProbe
