/-
**Keysets come back from JSON.** A keyset is written with all its fields, and whatever document
spells what was written is read as the same keyset: its keys in their order, repeated ones included.

* `KeyData.ofDocument?_of_spells`, `Keyset.Key.ofDocument?_of_spells`,
  `Keyset.ofDocument?_of_spells` — a document that spells the value of a keyset, or of a part of it,
  is read as that.
* `Keyset.embedded_eq` — the keyset that the embedded text stands for, as a case of it.
* `Keyset.comes_back_from_text` — the round trip.
-/

import LogProbe.Keyset.Json
import LogProbe.Proofs.Json.Record
import LogProbe.Proofs.Json.RoundTrip

namespace LogProbe

open Json

theorem KeyStatus.ofName?_name (status : KeyStatus) : ofName? status.name = some status := by
  cases status <;> rfl

theorem HeaderKind.ofName?_name (kind : HeaderKind) : ofName? kind.name = some kind := by
  cases kind <;> rfl

/-- The stored material of a key comes back. -/
theorem KeyData.ofDocument?_of_spells {document : Document} {data : KeyData}
    (spells : document.Spells data.toValue) : ofDocument? document = some data := by
  obtain ⟨given, gives, each⟩ : ∃ given,
      document.Gives ["typeUrl", "value", "keyMaterialType"] given ∧
        List.Forall₂ (Option.Rel Document.Spells) given [some (.string data.typeUrl),
          some (.string data.value), some (.string data.materialType)] :=
    Document.exists_gives_of_spells spells (Value.extends_refl _ _) (by simp [OnlyOf])
  rcases each with _ | ⟨⟨typeUrl⟩, _ | ⟨⟨value⟩, _ | ⟨⟨materialType⟩, ⟨⟩⟩⟩⟩
  unfold ofDocument?
  rw [Document.record?_eq_some_iff.mpr gives]
  simp only [Option.bind_eq_bind, Option.bind_some, Document.required?,
    Document.text?_of_spells typeUrl, Document.text?_of_spells value,
    Document.text?_of_spells materialType]

namespace Keyset

theorem idOf?_of_spells {document : Document} {id : UInt32}
    (spells : document.Spells (.natural id.toNat)) : idOf? document = some id := by
  unfold idOf?
  rw [Document.natural?_of_spells (by decide) spells id.toNat_lt]
  simp only [Option.bind_eq_bind, Option.bind_some, UInt32.ofNat_toNat]

/-- A key comes back. -/
theorem Key.ofDocument?_of_spells {document : Document} {key : Key}
    (spells : document.Spells key.toValue) : ofDocument? document = some key := by
  obtain ⟨given, gives, each⟩ : ∃ given,
      document.Gives ["keyData", "status", "keyId", "outputPrefixType"] given ∧
        List.Forall₂ (Option.Rel Document.Spells) given [some key.data.toValue,
          some (.string key.status.name), some (.natural key.id.toNat),
          some (.string key.headerKind.name)] :=
    Document.exists_gives_of_spells spells (Value.extends_refl _ _) (by simp [OnlyOf])
  rcases each with _ | ⟨⟨data⟩, _ | ⟨⟨status⟩, _ | ⟨⟨id⟩, _ | ⟨⟨headerKind⟩, ⟨⟩⟩⟩⟩⟩
  unfold ofDocument?
  rw [Document.record?_eq_some_iff.mpr gives]
  simp only [Option.bind_eq_bind, Option.bind_some, Document.required?,
    KeyData.ofDocument?_of_spells data, Document.choice?_of_spells status,
    KeyStatus.ofName?_name, idOf?_of_spells id, Document.choice?_of_spells headerKind,
    HeaderKind.ofName?_name]

/-- **A document that spells a keyset is read as that keyset.** -/
theorem ofDocument?_of_spells {document : Document} {keyset : Keyset}
    (spells : document.Spells keyset.toValue) : ofDocument? document = some keyset := by
  obtain ⟨given, gives, each⟩ : ∃ given, document.Gives ["primaryKeyId", "key"] given ∧
      List.Forall₂ (Option.Rel Document.Spells) given [some (.natural keyset.primaryId.toNat),
        some (.array (keyset.keys.map Key.toValue))] :=
    Document.exists_gives_of_spells spells (Value.extends_refl _ _) (by simp [OnlyOf])
  rcases each with _ | ⟨⟨primaryId⟩, _ | ⟨⟨keys⟩, ⟨⟩⟩⟩
  obtain ⟨documents, rfl, items⟩ := Document.exists_items_of_spells keys
  have read : documents.mapM Key.ofDocument? = some keyset.keys := by
    rw [List.forall₂_map_right_iff] at items
    exact mapM_eq_some_iff.mpr (items.imp fun document key => Key.ofDocument?_of_spells)
  unfold ofDocument?
  rw [Document.record?_eq_some_iff.mpr gives]
  simp only [Option.bind_eq_bind, Option.bind_some, Document.required?, idOf?_of_spells primaryId,
    Document.items?, read]

/-- What was accepted has a key. -/
theorem keys_ne_nil_of_ofText {text : String} {keyset : Keyset}
    (accepted : ofText text = .ok keyset) : keyset.keys ≠ [] := by
  unfold ofText at accepted
  split at accepted
  · cases accepted
  · split at accepted
    · cases accepted
    · rename_i keys
      cases accepted
      exact keys

/-- A keyset is read from its text, and is refused only for want of keys. -/
theorem ofText_text (keyset : Keyset) :
    ofText keyset.text = if keyset.keys = [] then .error .empty else .ok keyset := by
  obtain ⟨document, read, spells⟩ := Value.exists_read?_text keyset.toValue
  unfold ofText text
  simp only [read, Option.bind_eq_bind, Option.bind_some, ofDocument?_of_spells spells]

/-- The keyset that is shared with the service. -/
def shared : Keyset :=
  let data : KeyData := ⟨"type.googleapis.com/google.crypto.tink.AesSivKey",
    "EkDqH9D86ii0QPF8EBhcZI1PkBKKdDGMPDS2wFITqqfjQ77RQbDROhhAXI8m5qUcYNbflns8Xo//BORbgtX0msbf",
    "SYMMETRIC"⟩
  ⟨2939429116, [⟨data, .enabled, 2939429116, .tink⟩]⟩

theorem text_shared : shared.text = embeddedText := by decide +kernel

/-- **The keyset that is used when no other is given** is the shared one. -/
theorem embedded_eq : embedded = .ok shared := by
  unfold embedded
  rw [← text_shared, ofText_text]
  exact if_neg (List.cons_ne_nil _ _)

/-- **Keysets come back from JSON.** A keyset with a key at least is read from its own text as it
is, whatever its identifiers, statuses, kinds of headers and texts are, and whether or not keys
repeat. So what is accepted from any text comes back from the text that it is written as. -/
theorem comes_back_from_text (keyset : Keyset) :
    (keyset.keys ≠ [] → ofText keyset.text = .ok keyset) ∧
      ∀ text, ofText text = .ok keyset → ofText keyset.text = .ok keyset := by
  have back : keyset.keys ≠ [] → ofText keyset.text = .ok keyset := by
    intro keys
    rw [ofText_text, if_neg keys]
  exact ⟨back, fun text accepted => back (keys_ne_nil_of_ofText accepted)⟩

/-- A key with texts that have to be escaped, twice, in a keyset that has no primary key. -/
def repeatedKeyset : Keyset :=
  let key : Key := ⟨⟨"\"\\\n", "\u0001/é😀", ""⟩, .destroyed, 4294967295, .crunchy⟩
  ⟨0, [key, key]⟩

/-- It comes back from its text, and from the text of what that is read as. -/
theorem repeated_comes_back_from_text :
    ofText repeatedKeyset.text = .ok repeatedKeyset ∧
      ∃ text keyset, ofText text = .ok keyset ∧ ofText keyset.text = .ok keyset := by
  have once : ofText repeatedKeyset.text = .ok repeatedKeyset :=
    (comes_back_from_text repeatedKeyset).1 (List.cons_ne_nil _ _)
  exact ⟨once, _, repeatedKeyset, once, (comes_back_from_text repeatedKeyset).2 _ once⟩

end Keyset

end LogProbe
