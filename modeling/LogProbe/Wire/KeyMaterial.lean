/-
**Key material as a message.** Field 1 is the version of the material, field 2 its bytes.

* `Wire.KeyMaterial.write` — the message; a field that holds zero or nothing is left out.
* `Wire.KeyMaterial.read?` — the material of a message. The last occurrence of a field counts, a
  missing one is zero or empty, other fields are passed over, and fields 1 and 2 must have the
  form of a number and of a byte string.
-/

import LogProbe.Wire.Field

namespace LogProbe.Wire

/-- Versioned key material. -/
structure KeyMaterial where
  version : UInt32
  value : Bytes
deriving DecidableEq

namespace KeyMaterial

/-- The material before any field is read. -/
def blank : KeyMaterial := ⟨0, []⟩

/-- The material after one more field. A version keeps the low 32 bits of its number. -/
def take? (material : KeyMaterial) (field : Field) : Option KeyMaterial :=
  if field.number = 1 then
    match field.payload with
    | .varint value => some { material with version := UInt32.ofNat value }
    | _ => none
  else if field.number = 2 then
    match field.payload with
    | .delimited bytes => some { material with value := bytes }
    | _ => none
  else some material

/-- The material of a message. -/
def read? (bytes : Bytes) : Option KeyMaterial := do
  let fields ← readFields? bytes
  fields.foldlM take? blank

/-- The fields that are neither zero nor empty. -/
def fields (material : KeyMaterial) : List Field :=
  (if material.version = 0 then [] else [⟨1, .varint material.version.toNat⟩]) ++
    (if material.value = [] then [] else [⟨2, .delimited material.value⟩])

/-- The message for key material. -/
def write (material : KeyMaterial) : Bytes := writeFields material.fields

end KeyMaterial

end LogProbe.Wire
