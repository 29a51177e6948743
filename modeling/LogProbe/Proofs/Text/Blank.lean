/-
**Text without the characters of a kind at its ends.** Nothing but characters of the kind is taken
off, and whatever stands in front of a text or behind it is taken off with the rest if it is of the
kind.

* `Text.exists_eq_strip` — a text is what is left of it, between characters of the kind.
* `Text.strip_append` — characters of the kind around a text make no difference.
* `Text.strip_eq_self` — nothing is taken off a text without them.
-/

import LogProbe.Text.Blank
import Mathlib.Data.List.TakeWhile

namespace LogProbe.Text

variable {kind : Char → Bool}

/-- **A text is what is left of it, between characters of the kind.** -/
theorem exists_eq_strip (kind : Char → Bool) (text : List Char) :
    ∃ front back, text = front ++ strip kind text ++ back ∧ (∀ c ∈ front, kind c = true) ∧
      ∀ c ∈ back, kind c = true := by
  have first : text.takeWhile kind ++ text.dropWhile kind = text := List.takeWhile_append_dropWhile
  have last : strip kind text ++ ((text.dropWhile kind).reverse.takeWhile kind).reverse =
      text.dropWhile kind := by
    unfold strip
    rw [← List.reverse_append, List.takeWhile_append_dropWhile, List.reverse_reverse]
  refine ⟨text.takeWhile kind, ((text.dropWhile kind).reverse.takeWhile kind).reverse, ?_,
    fun c member => List.mem_takeWhile_imp member, fun c member => ?_⟩
  · rw [List.append_assoc, last, first]
  · exact List.mem_takeWhile_imp (List.mem_reverse.mp member)

/-- **Characters of the kind around a text make no difference.** -/
theorem strip_append {front text back : List Char} (before : ∀ c ∈ front, kind c = true)
    (after : ∀ c ∈ back, kind c = true) :
    strip kind (front ++ text ++ back) = strip kind text := by
  have turned : ∀ c ∈ back.reverse, kind c = true := fun c member =>
    after c (List.mem_reverse.mp member)
  unfold strip
  rw [List.append_assoc, List.dropWhile_append_of_pos before, List.dropWhile_append]
  -- a text of nothing but such characters is taken off whole, and what stands behind it as well
  split
  · rename_i nothing
    rw [List.isEmpty_iff.mp nothing, List.dropWhile_eq_nil_iff.mpr after]
  · rw [List.reverse_append, List.dropWhile_append_of_pos turned]

/-- **Nothing is taken off a text without characters of the kind.** -/
theorem strip_eq_self {text : List Char} (none : ∀ c ∈ text, kind c = false) :
    strip kind text = text := by
  have kept {other : List Char} (none : ∀ c ∈ other, kind c = false) :
      other.dropWhile kind = other := by
    cases other with
    | nil => rfl
    | cons c rest => exact List.dropWhile_cons_of_neg (by simpa using none c List.mem_cons_self)
  have turned : ∀ c ∈ text.reverse, kind c = false := fun c member =>
    none c (List.mem_reverse.mp member)
  unfold strip
  rw [kept none, kept turned, List.reverse_reverse]

end LogProbe.Text
