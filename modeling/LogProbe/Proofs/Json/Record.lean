/-
**Records of a document.** What a record is read from is a grammar: an object gives each of its
named fields at most once, whatever its other members are, and an array gives the fields in their
order, of which the last ones may be missing.

* `Json.Document.Gives` — the documents that a record gives for its fields, and
  `Json.Document.record?_eq_some_iff`.
* `Json.Document.IsText`, `Json.Document.IsNatural` — what a field holds.
* `Json.Value.Extends` — an object with other fields besides those of another one.
* `Json.Document.exists_gives_of_spells` — a document that spells such an object gives its fields.
-/

import LogProbe.Proofs.Json.Spelling

namespace LogProbe.Json

/-- Readers of items succeed on a list exactly if they do on each item. -/
theorem mapM_eq_some_iff {α β : Type} {read? : α → Option β} {items : List α} {results : List β} :
    items.mapM read? = some results ↔
      List.Forall₂ (fun item result => read? item = some result) items results := by
  constructor
  · intro read
    induction items generalizing results with
    | nil =>
      cases read
      exact .nil
    | cons item rest ih =>
      rw [List.mapM_cons] at read
      obtain ⟨result, first, read⟩ := Option.bind_eq_some_iff.mp read
      obtain ⟨others, readOthers, built⟩ := Option.bind_eq_some_iff.mp read
      cases built
      exact .cons first (ih readOthers)
  · intro each
    induction each with
    | nil => rfl
    | cons first _ ih =>
      rw [List.mapM_cons, first, ih]
      rfl

/-- What stands under a name in a list of entries: one value or nothing, and never two. -/
def OnlyOf {α : Type} (entries : List (String × α)) (name : String) (value : Option α) : Prop :=
  (entries.filter fun entry => entry.1 = name).map Prod.snd = value.toList

namespace Document

/-! ### Fields that are given -/

/-- The documents that a record gives for fields with the given names. -/
inductive Gives (names : List String) : Document → List (Option Document) → Prop
  | object {members : List (List Piece × Document)} {named : List (String × Document)}
      {given : List (Option Document)} (read : named? members = some named)
      (once : List.Forall₂ (OnlyOf named) names given) : Gives names (.object members) given
  | array {items : List Document} {missing : Nat}
      (counted : items.length + missing = names.length) :
      Gives names (.array items) (items.map some ++ List.replicate missing none)

theorem only?_eq_some_iff {members : List (String × Document)} {name : String}
    {given : Option Document} : only? members name = some given ↔ OnlyOf members name given := by
  unfold only? OnlyOf
  cases given with
  | none =>
    split
    · rename_i nothing
      simp [nothing]
    · rename_i single
      simp [single]
    · rename_i notNil _
      simpa using notNil
  | some document =>
    split
    · rename_i nothing
      simp [nothing]
    · rename_i single
      simp [single]
    · rename_i notSingle
      refine ⟨nofun, fun single => ?_⟩
      obtain ⟨member, lone, -⟩ := List.map_eq_singleton_iff.mp single
      exact absurd lone (notSingle member)

/-- **What a record gives is what is read of it.** -/
theorem record?_eq_some_iff {names : List String} {document : Document}
    {given : List (Option Document)} :
    document.record? names = some given ↔ document.Gives names given := by
  constructor
  · intro read
    cases document with
    | object members =>
      obtain ⟨named, readNames, read⟩ := Option.bind_eq_some_iff.mp read
      refine .object readNames ((mapM_eq_some_iff.mp read).imp fun name given => ?_)
      exact only?_eq_some_iff.mp
    | array items =>
      obtain ⟨short, built⟩ := Option.ite_none_right_eq_some.mp read
      cases built
      exact .array (Nat.add_sub_of_le short)
    | null | boolean | number | string => cases read
  · rintro (⟨readNames, once⟩ | ⟨counted⟩)
    · have each := mapM_eq_some_iff.mpr (once.imp fun name given => only?_eq_some_iff.mpr)
      simp only [record?, readNames, Option.bind_eq_bind, Option.bind_some, each]
    · rename_i items missing
      show (if items.length ≤ names.length then _ else none) = _
      rw [if_pos (by omega), ← counted, Nat.add_sub_cancel_left]

/-! ### What a field holds -/

/-- A document is a string of a text. -/
def IsText (document : Document) (text : String) : Prop :=
  ∃ pieces, document = .string pieces ∧ textOf? pieces = some text

/-- A document is a numeral of a natural number. -/
def IsNatural (document : Document) (value : Nat) : Prop :=
  ∃ numeral, document = .number numeral ∧ numeral.Denotes value

theorem text?_eq_some_iff {document : Document} {text : String} :
    document.text? = some text ↔ document.IsText text := by
  constructor
  · intro read
    cases document with
    | string pieces => exact ⟨pieces, rfl, read⟩
    | null | boolean | number | array | object => cases read
  · rintro ⟨pieces, rfl, meant⟩
    exact meant

end Document

/-- The numeral of an integer that was read denotes it. -/
theorem Numeral.denotes_of_integer? {numeral : Numeral} {value : Int}
    (read : numeral.integer? = some value) : numeral.Denotes value := by
  unfold integer? at read
  dsimp only at read
  split at read
  · cases read
  rename_i whole
  split at read
  · rename_i negative
    obtain ⟨range, built⟩ := Option.ite_none_right_eq_some.mp read
    cases built
    exact ⟨by simpa using whole, by rw [negative, decide_eq_true (by omega)], by omega⟩
  · rename_i positive
    obtain ⟨range, built⟩ := Option.ite_none_right_eq_some.mp read
    cases built
    refine ⟨by simpa using whole, ?_, by omega⟩
    rw [decide_eq_false (by omega)]
    simpa using positive

namespace Document

theorem natural?_eq_some_iff {bound value : Nat} (small : bound ≤ UInt64.size)
    {document : Document} :
    document.natural? bound = some value ↔ document.IsNatural value ∧ value < bound := by
  constructor
  · intro read
    cases document with
    | number numeral =>
      unfold natural? at read
      dsimp only at read
      split at read
      · rename_i integer
        obtain ⟨below, built⟩ := Option.ite_none_right_eq_some.mp read
        cases built
        exact ⟨⟨numeral, rfl, Numeral.denotes_of_integer? integer⟩, below⟩
      · cases read
    | null | boolean | string | array | object => cases read
  · rintro ⟨⟨numeral, rfl, denotes⟩, below⟩
    have fits : Fits value := by
      unfold Fits
      omega
    unfold natural?
    simp only [denotes.integer? fits]
    exact if_pos below

theorem required?_eq_some_iff {α : Type} {read? : Document → Option α} {given : Option Document}
    {value : α} :
    required? read? given = some value ↔ ∃ document, given = some document ∧
      read? document = some value := by
  cases given with
  | none => exact ⟨nofun, nofun⟩
  | some document =>
    refine ⟨fun read => ⟨document, rfl, read⟩, ?_⟩
    rintro ⟨_, ⟨⟩, read⟩
    exact read

theorem defaulted?_eq_some_iff {α : Type} {default : α} {read? : Document → Option α}
    {given : Option Document} {value : α} :
    defaulted? default read? given = some value ↔ (given = none ∧ value = default) ∨
      ∃ document, given = some document ∧ read? document = some value := by
  cases given with
  | none =>
    refine ⟨fun read => .inl ⟨rfl, (Option.some.inj read).symm⟩, ?_⟩
    rintro (⟨-, rfl⟩ | ⟨_, ⟨⟩, -⟩)
    rfl
  | some document =>
    refine ⟨fun read => .inr ⟨document, rfl, read⟩, ?_⟩
    rintro (⟨⟨⟩, -⟩ | ⟨_, ⟨⟩, read⟩)
    exact read

/-- A field that is missing or null, or holds a text. -/
def IsTextOrNone (given : Option Document) (text : Option String) : Prop :=
  ((given = none ∨ given = some .null) ∧ text = none) ∨
    ∃ document own, given = some document ∧ document.IsText own ∧ text = some own

theorem optional?_eq_some_iff {given : Option Document} {text : Option String} :
    optional? text? given = some text ↔ IsTextOrNone given text := by
  unfold IsTextOrNone
  cases given with
  | none =>
    refine ⟨fun read => .inl ⟨.inl rfl, (Option.some.inj read).symm⟩, ?_⟩
    rintro (⟨-, rfl⟩ | ⟨_, _, ⟨⟩, -⟩)
    rfl
  | some document =>
    by_cases null : document = .null
    · subst null
      refine ⟨fun read => .inl ⟨.inr rfl, (Option.some.inj read).symm⟩, ?_⟩
      rintro (⟨-, rfl⟩ | ⟨_, _, ⟨⟩, ⟨_, ⟨⟩, -⟩, -⟩)
      rfl
    · have read : optional? text? (some document) = (text? document).map some := by
        cases document with
        | null => exact absurd rfl null
        | boolean | number | string | array | object => rfl
      rw [read, Option.map_eq_some_iff]
      constructor
      · rintro ⟨own, found, rfl⟩
        exact .inr ⟨document, own, rfl, text?_eq_some_iff.mp found, rfl⟩
      · rintro (⟨missing | isNull, -⟩ | ⟨_, own, ⟨⟩, found, rfl⟩)
        · cases missing
        · exact absurd (Option.some.inj isNull) null
        · exact ⟨own, text?_eq_some_iff.mpr found, rfl⟩

end Document

/-! ### Fields that are spelled -/

/-- An object has the fields of another one under some names. What it has under other names is left
open, and so is the order. -/
def Value.Extends (names : List String) (wide narrow : Value) : Prop :=
  ∃ fields own, wide = .object fields ∧ narrow = .object own ∧
    ∀ name ∈ names, fields.filter (fun field => field.1 = name) =
      own.filter fun field => field.1 = name

theorem Value.extends_refl (names : List String) (fields : List (String × Value)) :
    Value.Extends names (.object fields) (.object fields) :=
  ⟨fields, fields, rfl, rfl, fun _ _ => rfl⟩

namespace Document

/-- A document that spells a text is that text. -/
theorem isText_of_spells {document : Document} {text : String}
    (spells : document.Spells (.string text)) : document.IsText text := by
  cases spells with
  | string meant => exact ⟨_, rfl, meant⟩

theorem text?_of_spells {document : Document} {text : String}
    (spells : document.Spells (.string text)) : document.text? = some text :=
  text?_eq_some_iff.mpr (isText_of_spells spells)

/-- A field that spells a text, or is missing, is that. -/
theorem isTextOrNone_of_spells {given : Option Document} {text : Option String}
    (spells : Option.Rel Spells given (text.map .string)) : IsTextOrNone given text := by
  cases text with
  | none =>
    cases spells
    exact .inl ⟨.inl rfl, rfl⟩
  | some text =>
    cases spells with
    | some spells => exact .inr ⟨_, text, rfl, isText_of_spells spells, rfl⟩

/-- A string is a name alone. -/
theorem choice?_of_spells {document : Document} {text : String}
    (spells : document.Spells (.string text)) : document.choice? = some text := by
  cases spells with
  | string meant => exact meant

/-- A document that spells a natural number is that number. -/
theorem isNatural_of_spells {document : Document} {value : Nat}
    (spells : document.Spells (.natural value)) : document.IsNatural value := by
  cases spells with
  | integer denotes => exact ⟨_, rfl, denotes⟩

theorem natural?_of_spells {bound : Nat} (small : bound ≤ UInt64.size) {document : Document}
    {value : Nat} (spells : document.Spells (.natural value)) (below : value < bound) :
    document.natural? bound = some value :=
  (natural?_eq_some_iff small).mpr ⟨isNatural_of_spells spells, below⟩

/-- A document that spells an array has documents for its items. -/
theorem exists_items_of_spells {document : Document} {items : List Value}
    (spells : document.Spells (.array items)) :
    ∃ documents, document = .array documents ∧ List.Forall₂ Spells documents items := by
  cases spells with
  | array each => exact ⟨_, rfl, each⟩

/-- The member of a name spells the field of that name, if there is one field of it at most. -/
theorem exists_given_of_spells {named : List (String × Document)} {fields : List (String × Value)}
    (each : List.Forall₂ SpellsField named fields) (name : String) {value : Option Value}
    (once : OnlyOf fields name value) :
    ∃ given, OnlyOf named name given ∧ Option.Rel Spells given value := by
  have kept : List.Forall₂ SpellsField (named.filter fun member => member.1 = name)
      (fields.filter fun field => field.1 = name) := by
    refine List.rel_filter (fun member field spells => ?_) each
    simp only [decide_eq_true_eq, spells.name]
  cases value with
  | none =>
    rw [List.map_eq_nil_iff.mp once, List.forall₂_nil_right_iff] at kept
    exact ⟨none, by rw [OnlyOf, kept]; rfl, .none⟩
  | some value =>
    obtain ⟨field, lone, rfl⟩ := List.map_eq_singleton_iff.mp once
    rw [lone] at kept
    obtain ⟨member, rest, spells, nothing, alone⟩ := List.forall₂_cons_right_iff.mp kept
    rw [List.forall₂_nil_right_iff.mp nothing] at alone
    exact ⟨some member.2, by rw [OnlyOf, alone]; rfl, .some spells.value⟩

/-- **A document that spells an object gives its fields**, if each of the names has one field at
most. Other fields besides may be there. -/
theorem exists_gives_of_spells {names : List String} {document : Document} {wide : Value}
    (spells : document.Spells wide) {own : List (String × Value)}
    (wider : wide.Extends names (.object own)) {values : List (Option Value)}
    (once : List.Forall₂ (OnlyOf own) names values) :
    ∃ given, document.Gives names given ∧ List.Forall₂ (Option.Rel Spells) given values := by
  obtain ⟨fields, _, rfl, ⟨⟩, same⟩ := wider
  obtain ⟨members, rfl⟩ : ∃ members, document = .object members := by
    cases spells with
    | object => exact ⟨_, rfl⟩
  obtain ⟨named, read, each⟩ := exists_named?_of_spells spells
  obtain ⟨given, all, related⟩ : ∃ given, List.Forall₂ (OnlyOf named) names given ∧
      List.Forall₂ (Option.Rel Spells) given values := by
    clear read spells
    induction once with
    | nil => exact ⟨[], .nil, .nil⟩
    | @cons name value names values first _ ih =>
      obtain ⟨sameFirst, sameOthers⟩ := List.forall_mem_cons.mp same
      obtain ⟨given, all, related⟩ := ih sameOthers
      rw [OnlyOf, ← sameFirst] at first
      obtain ⟨document, only, spells⟩ := exists_given_of_spells each name first
      exact ⟨document :: given, .cons only all, .cons spells related⟩
  exact ⟨given, .object read all, related⟩

end Document

end LogProbe.Json
