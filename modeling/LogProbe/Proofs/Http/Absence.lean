/-
**Responses that found nothing.** `Http.Response.isAbsent` takes every status outside the two
hundreds for an absence, and within them asks the body.

* `Http.HoldsNothing` — the bodies that hold nothing.
* `Json.Value.ofBytes?_of_blank` — a blank body is no value of JSON.
* `Http.Response.isAbsent_iff` — absence by status and body.
* `Http.holdsNothing_iff` — the grammar of the bodies that hold nothing, byte by byte.
* `Http.Response.isAbsent_iff_grammar` — absence by status and grammar.
-/

import LogProbe.Http.Response
import LogProbe.Proofs.Json.Empty
import Mathlib.Tactic.Tauto

namespace LogProbe

/-- A blank body is no value of JSON. -/
theorem Json.Value.ofBytes?_of_blank {body : Bytes}
    (blank : body.all Http.Response.isBlank = true) : ofBytes? body = none := by
  have unread : Document.read? body = none := by
    unfold Document.read? readDocument?
    cases left : skipBlanks body with
    | nil => rfl
    | cons byte rest =>
      have first : Json.isBlank byte = false := by
        have head := List.head?_dropWhile_not Json.isBlank body
        rw [← skipBlanks, left] at head
        simpa using head
      have inside : byte ∈ body := by
        have suffix : byte :: rest <:+ body := left ▸ List.dropWhile_suffix Json.isBlank
        exact suffix.subset List.mem_cons_self
      have feed : byte = 0x0C := by
        simpa [Http.Response.isBlank, first] using List.all_eq_true.mp blank byte inside
      subst feed
      rfl
  unfold ofBytes?
  rw [unread]
  rfl

namespace Http

/-- A body that holds nothing: it is blank, or one of `null`, `[]` and `{}`. -/
def HoldsNothing (body : Bytes) : Prop :=
  body.all Response.isBlank = true ∨ Json.Value.ofBytes? body = some .null ∨
    Json.Value.ofBytes? body = some (.array []) ∨ Json.Value.ofBytes? body = some (.object [])

/-- **Absence by status and body.** A response is absent if its status is no success, whatever went
wrong, or if its body holds nothing. -/
theorem Response.isAbsent_iff (response : Response) :
    response.isAbsent = true ↔
      response.status.isSuccess = false ∨ HoldsNothing response.body := by
  unfold isAbsent json? HoldsNothing
  cases success : response.status.isSuccess with
  | false => simp
  | true =>
    cases parsed : Json.Value.ofBytes? response.body with
    | none => simp
    | some value =>
      have solid : response.body.all isBlank = false := by
        cases blank : response.body.all isBlank with
        | false => rfl
        | true =>
          rw [Json.Value.ofBytes?_of_blank blank] at parsed
          cases parsed
      cases value <;> simp [solid]

/-! ### The grammar of absence -/

/-- A blank body: spaces, tabs, line feeds, form feeds and carriage returns, or no byte at all. -/
def IsBlankBody (body : Bytes) : Prop := ∀ byte ∈ body, byte ∈ [0x20, 0x09, 0x0A, 0x0C, 0x0D]

theorem Response.isBlank_iff {byte : UInt8} :
    isBlank byte = true ↔ byte ∈ [0x20, 0x09, 0x0A, 0x0C, 0x0D] := by
  simp only [isBlank, Bool.or_eq_true, Json.isBlank_iff, beq_iff_eq, List.mem_cons,
    List.not_mem_nil, or_false]
  tauto

/-- A form feed leaves a body blank, but it is no white space of JSON. -/
theorem isBlank_of_isGap {gap : Bytes} (isGap : Json.IsGap gap) :
    ∀ byte ∈ gap, Response.isBlank byte = true := by
  intro byte member
  unfold Response.isBlank
  rw [Json.isBlank_iff.mpr (isGap byte member), Bool.true_or]

/-- **A body holds nothing exactly if it is blank or the text of an empty value.** -/
theorem holdsNothing_iff {body : Bytes} :
    HoldsNothing body ↔ IsBlankBody body ∨ Json.IsEmptyText body := by
  have blank : body.all Response.isBlank = true ↔ IsBlankBody body := by
    simp only [List.all_eq_true, Response.isBlank_iff, IsBlankBody]
  rw [← Json.Value.exists_ofBytes?_isEmpty_iff, ← blank]
  refine or_congr_right ⟨?_, ?_⟩
  · rintro (null | array | object)
    · exact ⟨_, null, .null⟩
    · exact ⟨_, array, .array⟩
    · exact ⟨_, object, .object⟩
  · rintro ⟨value, found, empty⟩
    cases empty with
    | null => exact .inl found
    | array => exact .inr (.inl found)
    | object => exact .inr (.inr found)

/-- What stands in a body besides white space. -/
def solidBytes (body : Bytes) : Bytes := body.filter fun byte => !Response.isBlank byte

theorem solidBytes_of_isGap {gap : Bytes} (isGap : Json.IsGap gap) : solidBytes gap = [] :=
  List.filter_eq_nil_iff.mpr fun byte member => by simp [isBlank_of_isGap isGap byte member]

theorem solidBytes_append (front back : Bytes) :
    solidBytes (front ++ back) = solidBytes front ++ solidBytes back := List.filter_append _ _

/-- The words that a body without content may consist of, and no word at all. -/
def emptyWords : List Bytes :=
  ["", "null", "[]", "\x7b\x7d"].map fun word => word.toList.map Json.code

/-- A body that holds nothing has no content but one of the words for nothing. -/
theorem solidBytes_mem_emptyWords {body : Bytes}
    (nothing : IsBlankBody body ∨ Json.IsEmptyText body) : solidBytes body ∈ emptyWords := by
  rcases nothing with blank | ⟨document, front, word, back, leads, spells, trails, rfl⟩
  · have none : solidBytes body = [] := List.filter_eq_nil_iff.mpr fun byte member => by
      simp [Response.isBlank_iff.mpr (blank byte member)]
    rw [none]
    exact List.mem_cons_self
  · rw [solidBytes_append, solidBytes_append, solidBytes_of_isGap leads,
      solidBytes_of_isGap trails, List.append_nil, List.nil_append]
    cases spells with
    | null => decide
    | @array gap inside =>
      have split : Json.code '[' :: gap ++ [Json.code ']'] =
          [Json.code '['] ++ gap ++ [Json.code ']'] := by simp
      rw [split, solidBytes_append, solidBytes_append, solidBytes_of_isGap inside]
      decide
    | @object gap inside =>
      have split : Json.code '\x7b' :: gap ++ [Json.code '\x7d'] =
          [Json.code '\x7b'] ++ gap ++ [Json.code '\x7d'] := by simp
      rw [split, solidBytes_append, solidBytes_append, solidBytes_of_isGap inside]
      decide

theorem Response.expectAbsent_eq_ok_iff {response : Response} :
    response.expectAbsent = .ok response ↔ response.isAbsent = true := by
  unfold expectAbsent
  split <;> simp_all

/-- **Absence by status and grammar.** A response is absent exactly if its status is none of the two
hundreds, or its body is blank, or its body is `null`, `[]` or `{}` with white space around it
and between the brackets; and exactly then it passes where an absence is expected. So no body of a
success with any other content is ever taken for an absence. -/
theorem Response.isAbsent_iff_grammar (response : Response) :
    (response.isAbsent = true ↔
      ¬ (200 ≤ response.status.code ∧ response.status.code < 300) ∨
        IsBlankBody response.body ∨ Json.IsEmptyText response.body) ∧
    (response.expectAbsent = .ok response ↔
      ¬ (200 ≤ response.status.code ∧ response.status.code < 300) ∨
        IsBlankBody response.body ∨ Json.IsEmptyText response.body) ∧
    (200 ≤ response.status.code → response.status.code < 300 →
      solidBytes response.body ∉ emptyWords → response.isAbsent = false) := by
  have status : response.status.isSuccess = false ↔
      ¬ (200 ≤ response.status.code ∧ response.status.code < 300) := by
    simp [Status.isSuccess]
  have grammar := response.isAbsent_iff
  rw [status, holdsNothing_iff] at grammar
  refine ⟨grammar, expectAbsent_eq_ok_iff.trans grammar, fun low high content => ?_⟩
  rw [← Bool.not_eq_true, grammar]
  rintro (refused | nothing)
  · exact refused ⟨low, high⟩
  · exact content (solidBytes_mem_emptyWords nothing)

/-- A success with a given body. -/
def foundReply (body : Bytes) : Response :=
  ⟨.get, ⟨"http", none, .plain [], none, none⟩, .ok, body⟩

/-- A list with nothing but a line break in it is an absence, a list with a null in it is not. -/
theorem Response.isAbsent_iff_grammar_list :
    (foundReply (" [\n]\t".toList.map Json.code)).isAbsent = true ∧
      (foundReply ("[null]".toList.map Json.code)).isAbsent = false := by
  constructor
  · exact (isAbsent_iff_grammar _).1.mpr (.inr (.inr ⟨_, [0x20], _, [0x09], by simp [Json.IsGap],
      @Json.SpellsEmpty.array [0x0A] (by simp [Json.IsGap]), by simp [Json.IsGap], rfl⟩))
  · exact (isAbsent_iff_grammar _).2.2 (by decide) (by decide) (by decide)

end Http

end LogProbe
