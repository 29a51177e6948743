/-
**The layouts of encrypted fields.** An encrypted field with a header is that header in front of the
field without one; and the field without one is also what a primary key writes that has no header
at all, so that a service may be set up with the bare key and still read it.

* `Keyset.Key.bare`, `Keyset.withBarePrimary` — a key, and the primary key of a keyset, without a
  header.
* `Cipher.exists_ofKeyset_withBarePrimary` — nothing else about the primary key changes.
* `FieldEncryptor.ofKeyset_simple_eq_ok`, `FieldEncryptor.exists_ofKeyset_simple_eq_error` — where
  headers can be left out.
* `FieldEncryptor.layouts_agree` — the law.
-/

import LogProbe.Proofs.Cipher.Field

namespace LogProbe

/-! ### Keys without a header -/

namespace Keyset

/-- The key without a header. -/
def Key.bare (key : Key) : Key := { key with headerKind := .raw }

@[simp] theorem Key.header_bare (key : Key) : key.bare.header = [] := rfl

@[simp] theorem Key.material_bare (key : Key) : key.bare.material = key.material := rfl

/-- The keyset whose primary key has no header: the first key with the primary identifier is made
bare. -/
def withBarePrimary (keyset : Keyset) : Keyset :=
  { keyset with
    keys := keyset.keys.modify (keyset.keys.findIdx fun key => key.id = keyset.primaryId) Key.bare }

variable {keyset : Keyset} {leading : Key}

/-- Only the leading key is made bare, and it stays where it is. -/
theorem keys_withBarePrimary {before after : List Key}
    (split : keyset.keys = before ++ leading :: after) (own : leading.id = keyset.primaryId)
    (others : ∀ other ∈ before, other.id ≠ keyset.primaryId) :
    keyset.withBarePrimary.keys = before ++ leading.bare :: after := by
  have place : (keyset.keys.findIdx fun key => key.id = keyset.primaryId) = before.length := by
    have none : (before.findIdx fun key => key.id = keyset.primaryId) = before.length :=
      List.findIdx_eq_length.mpr fun other member => by simpa using others other member
    rw [split, List.findIdx_append, none, if_neg (Nat.lt_irrefl _), List.findIdx_cons]
    simp [own]
  unfold withBarePrimary
  rw [place, List.modify_eq_take_cons_drop (by simp [split])]
  simp [split]

theorem IsLeading.bare (leads : keyset.IsLeading leading) :
    keyset.withBarePrimary.IsLeading leading.bare := by
  obtain ⟨before, after, split, own, others⟩ := leads
  exact ⟨before, after, keys_withBarePrimary split own others, own, others⟩

/-- A key of the changed keyset is one of the original keyset, but perhaps for its header. -/
theorem IsLeading.exists_of_mem (leads : keyset.IsLeading leading) {key : Key}
    (member : key ∈ keyset.withBarePrimary.keys) :
    ∃ original ∈ keyset.keys, key.status = original.status ∧ key.material = original.material := by
  obtain ⟨before, after, split, own, others⟩ := leads
  rw [keys_withBarePrimary split own others] at member
  rcases List.mem_append.mp member with inside | inside
  · exact ⟨key, by simp [split, inside], rfl, rfl⟩
  rcases List.mem_cons.mp inside with rfl | inside
  · exact ⟨leading, by simp [split], rfl, rfl⟩
  · exact ⟨key, by simp [split, inside], rfl, rfl⟩

/-- The header of a key that has one: a byte for its kind and four for its identifier. -/
theorem Key.exists_header_eq {key : Key} (headed : key.headerKind ≠ .raw) :
    ∃ id : Bytes, key.header = (if key.headerKind = .tink then 1 else 0) :: id ∧ id.length = 4 ∧
      Bytes.toNat id = key.id.toNat := by
  refine ⟨Bytes.bigEndian32 key.id, ?_, rfl, Bytes.toNat_bigEndian32 key.id⟩
  unfold Key.header
  cases kind : key.headerKind with
  | raw => exact absurd kind headed
  | tink => rfl
  | legacy => rfl
  | crunchy => rfl

theorem Key.header_eq_nil_iff {key : Key} : key.header = [] ↔ key.headerKind = .raw := by
  unfold Key.header
  cases key.headerKind <;> simp [HeaderKind.bytes]

end Keyset

/-! ### Ciphers without the header of their primary key -/

namespace Cipher

variable {keyset : Keyset} {leading : Keyset.Key}

/-- The primary of a cipher is loaded from the leading key. -/
theorem loads_of_isLeading (leads : keyset.IsLeading leading) {cipher : Cipher}
    (accepted : ofKeyset keyset = .ok cipher) :
    leading.status = .enabled ∧ Loads leading cipher.primary := by
  obtain ⟨primary, -, -, found, -, -, loaded⟩ := exists_primary accepted
  obtain ⟨leadsToo, inUse⟩ := Keyset.primary_eq_ok_iff.mp found
  have same := Keyset.find?_eq_some_iff_isLeading.mpr leads
  rw [Keyset.find?_eq_some_iff_isLeading.mpr leadsToo] at same
  cases same
  exact ⟨inUse, load_eq_ok_iff.mp loaded⟩

/-- **With a bare primary key** a keyset is accepted as before. The primary has the same material,
and no header. -/
theorem exists_ofKeyset_withBarePrimary (leads : keyset.IsLeading leading) {cipher : Cipher}
    (accepted : ofKeyset keyset = .ok cipher) :
    ∃ bare, ofKeyset keyset.withBarePrimary = .ok bare ∧ bare.primary.header = [] ∧
      bare.primary.key = cipher.primary.key := by
  obtain ⟨inUse, loads⟩ := loads_of_isLeading leads accepted
  have usable : ∃ bare, ofKeyset keyset.withBarePrimary = .ok bare := by
    refine exists_ofKeyset_iff.mpr ⟨⟨leading.bare, leads.bare, inUse⟩, fun key member status => ?_⟩
    obtain ⟨original, inside, sameStatus, sameMaterial⟩ := leads.exists_of_mem member
    rw [sameMaterial]
    exact (exists_ofKeyset_iff.mp ⟨cipher, accepted⟩).2 original inside (sameStatus ▸ status)
  obtain ⟨bare, made⟩ := usable
  obtain ⟨-, bareLoads⟩ := loads_of_isLeading leads.bare made
  refine ⟨bare, made, bareLoads.header, ?_⟩
  exact key_eq_of_load (load_eq_ok_iff.mpr bareLoads) loads.material

end Cipher

/-! ### Layouts -/

namespace FieldEncryptor

variable {keyset : Keyset} {leading : Keyset.Key}

/-- The variant with headers takes every cipher. -/
theorem ofKeyset_tink_eq_ok {cipher : Cipher} (made : Cipher.ofKeyset keyset = .ok cipher) :
    ofKeyset keyset .tink = .ok ⟨cipher, .tink⟩ := by
  simp [ofKeyset, made, bind, Except.bind]

theorem exists_ofKeyset_tink_iff :
    (∃ encryptor, ofKeyset keyset .tink = .ok encryptor) ↔
      ∃ cipher, Cipher.ofKeyset keyset = .ok cipher := by
  constructor
  · rintro ⟨encryptor, accepted⟩
    exact ⟨encryptor.cipher, (ofKeyset_eq_ok accepted).1⟩
  · rintro ⟨cipher, made⟩
    exact ⟨_, ofKeyset_tink_eq_ok made⟩

/-- The variant without headers takes a cipher whose primary has one. -/
theorem ofKeyset_simple_eq_ok {cipher : Cipher} (made : Cipher.ofKeyset keyset = .ok cipher)
    (headed : cipher.primary.header.length = headerLength) :
    ofKeyset keyset .simple = .ok ⟨cipher, .simple⟩ := by
  simp [ofKeyset, made, bind, Except.bind, headed]

/-- It takes no keyset whose leading key has none. -/
theorem exists_ofKeyset_simple_eq_error (leads : keyset.IsLeading leading)
    (raw : leading.headerKind = .raw) : ∃ error, ofKeyset keyset .simple = .error error := by
  cases made : ofKeyset keyset .simple with
  | error error => exact ⟨error, rfl⟩
  | ok encryptor =>
    obtain ⟨accepted, -, size⟩ := ofKeyset_eq_ok made
    have header := (Cipher.loads_of_isLeading leads accepted).2.header
    rw [Keyset.Key.header_eq_nil_iff.mpr raw] at header
    have long := size rfl
    rw [header] at long
    cases long

/-- **The layouts of encrypted fields agree.** Let a keyset with a header on its primary key be
accepted; the header is a byte for its kind and the identifier in big-endian order. Then there are
encryptors of both variants, and one with headers for the keyset whose primary key is made bare.
For every text, the form without header is sixteen bytes longer than the text; the form with header
is the header in front of it; it is the very text that the bare primary key gives; and what is left
of the form with header without its first five bytes comes back in the variant without headers.
Where the primary key has no header, there is no encryptor that leaves it out, and one with headers
exactly if the keyset is accepted at all. -/
theorem layouts_agree (leads : keyset.IsLeading leading) :
    (leading.headerKind ≠ .raw → (∃ cipher, Cipher.ofKeyset keyset = .ok cipher) →
      (∃ id : Bytes, leading.header = (if leading.headerKind = .tink then 1 else 0) :: id ∧
        id.length = 4 ∧ Bytes.toNat id = leading.id.toNat) ∧
      ∃ tink simple bare, ofKeyset keyset .tink = .ok tink ∧
        ofKeyset keyset .simple = .ok simple ∧
        ofKeyset keyset.withBarePrimary .tink = .ok bare ∧
        ∀ text, ∃ sealed, Base64.decode? (simple.encrypt text) = some sealed ∧
          sealed.length = 16 + (Utf8.bytesOf text).length ∧
          Base64.decode? (tink.encrypt text) = some (leading.header ++ sealed) ∧
          simple.encrypt text = bare.encrypt text ∧
          simple.decrypt (Base64.encode ((leading.header ++ sealed).drop 5)) = .ok text) ∧
    (leading.headerKind = .raw →
      (∃ error, ofKeyset keyset .simple = .error error) ∧
      ((∃ encryptor, ofKeyset keyset .tink = .ok encryptor) ↔
        ∃ cipher, Cipher.ofKeyset keyset = .ok cipher)) := by
  refine ⟨fun headed ⟨cipher, made⟩ => ⟨Keyset.Key.exists_header_eq headed, ?_⟩,
    fun raw => ⟨exists_ofKeyset_simple_eq_error leads raw, exists_ofKeyset_tink_iff⟩⟩
  have header : cipher.primary.header = leading.header :=
    (Cipher.loads_of_isLeading leads made).2.header
  have length : leading.header.length = headerLength :=
    Keyset.Key.length_header (mt Keyset.Key.header_eq_nil_iff.mp headed)
  obtain ⟨bareCipher, bareMade, noHeader, sameKey⟩ :=
    Cipher.exists_ofKeyset_withBarePrimary leads made
  have tink := ofKeyset_tink_eq_ok made
  have simple := ofKeyset_simple_eq_ok made (header ▸ length)
  have bare := ofKeyset_tink_eq_ok bareMade
  refine ⟨_, _, _, tink, simple, bare, fun text => ?_⟩
  have simpleText := encrypt_simple simple rfl text
  refine ⟨Siv.encrypt cipher.primary.key [] (Utf8.bytesOf text), ?_, Siv.length_encrypt _ _ _, ?_,
    ?_, ?_⟩
  · rw [simpleText, Base64.decode?_encode]
  · rw [encrypt_tink tink rfl, Base64.decode?_encode, Cipher.encrypt, header]
  · rw [simpleText, encrypt_tink bare rfl, Cipher.encrypt, noHeader, sameKey, List.nil_append]
  · rw [List.drop_left' (show leading.header.length = 5 from length), ← simpleText]
    exact decrypt_encrypt simple (isUndisputed_of_simple simple rfl text)

/-- The first key of two that share their identifier and header leads, and both layouts agree for
it; with a bare primary key the same keyset has no encryptor that leaves headers out. -/
theorem layouts_agree_sharedHeader :
    (∃ tink simple, ofKeyset sharedHeaderKeyset .tink = .ok tink ∧
      ofKeyset sharedHeaderKeyset .simple = .ok simple ∧
      ∀ text, ∃ sealed, Base64.decode? (simple.encrypt text) = some sealed ∧
        Base64.decode? (tink.encrypt text) = some ([0, 0, 0, 0, 7] ++ sealed)) ∧
    ∃ error, ofKeyset sharedHeaderKeyset.withBarePrimary .simple = .error error := by
  have leads : sharedHeaderKeyset.IsLeading ⟨plainData, .enabled, 7, .legacy⟩ :=
    ⟨[], [⟨Cipher.sampleData, .enabled, 7, .crunchy⟩], rfl, rfl, List.forall_mem_nil _⟩
  obtain ⟨encryptor, accepted⟩ := exists_ofKeyset_sharedHeader
  obtain ⟨-, tink, simple, bare, tinkMade, simpleMade, -, agree⟩ :=
    (layouts_agree leads).1 (by decide) ⟨encryptor.cipher, (ofKeyset_eq_ok accepted).1⟩
  refine ⟨⟨tink, simple, tinkMade, simpleMade, fun text => ?_⟩,
    ((layouts_agree leads.bare).2 rfl).1⟩
  obtain ⟨sealed, bareText, -, headedText, -⟩ := agree text
  exact ⟨sealed, bareText, headedText⟩

end FieldEncryptor

end LogProbe
