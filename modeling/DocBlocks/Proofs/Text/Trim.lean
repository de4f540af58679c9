/-
This file describes texts without the white space at their ends.
-/

import DocBlocks.Text.Blank
import Mathlib.Data.List.TakeWhile

namespace DocBlocks.Text

/-- The text ends in something other than white space. -/
def Solid (text : Text) : Prop :=
  ∃ front last, text = front ++ [last] ∧ isBlank last = false

/-- Nothing is left of white space alone. -/
theorem trimStart_eq_nil {text : Text} :
    trimStart text = [] ↔ ∀ character ∈ text, isBlank character = true :=
  List.dropWhile_eq_nil_iff

/-- Nothing is trimmed from a text that begins with a visible character, whatever stands before
it. -/
theorem trimStart_append (front : Text) {rest : Text} {first : Char} (starts : rest.head? = some first)
    (visible : isBlank first = false) : trimStart (front ++ rest) = trimStart front ++ rest := by
  have kept : trimStart rest = rest := by
    cases rest with
    | nil => rfl
    | cons head rest =>
        cases starts
        exact List.dropWhile_cons_of_neg (by simp [visible])
  rw [trimStart, List.dropWhile_append]
  split
  · rename_i blank
    rw [List.isEmpty_iff] at blank
    rw [trimStart, blank]
    exact kept
  · rfl

/-- A text is the trimmed one with white space after it. -/
theorem exists_blanks (text : Text) :
    ∃ blanks : Text, text = trimEnd text ++ blanks ∧
      ∀ character ∈ blanks, isBlank character = true := by
  refine ⟨(text.reverse.takeWhile isBlank).reverse, ?_, ?_⟩
  · rw [trimEnd, ← List.reverse_append, List.takeWhile_append_dropWhile, List.reverse_reverse]
  · intro character member
    exact List.mem_takeWhile_imp (List.mem_reverse.mp member)

/-- White space after a text that ends in something else is trimmed away, and no more. -/
theorem Solid.trimEnd_append {text blanks : Text} (solid : Solid text)
    (blank : ∀ character ∈ blanks, isBlank character = true) : trimEnd (text ++ blanks) = text := by
  obtain ⟨front, last, rfl, visible⟩ := solid
  rw [trimEnd, List.reverse_append,
    List.dropWhile_append_of_pos fun character member => blank character (List.mem_reverse.mp member)]
  simp [visible]

/-- A text that ends with a visible character is not trimmed there. -/
theorem Solid.trimEnd {text : Text} (solid : Solid text) : trimEnd text = text := by
  have kept := solid.trimEnd_append (List.forall_mem_nil _)
  rwa [List.append_nil] at kept

theorem trimEnd_blank {text : Text} (blank : allBlank text = true) : trimEnd text = [] := by
  rw [trimEnd, List.reverse_eq_nil_iff, List.dropWhile_eq_nil_iff]
  exact fun character member => List.all_eq_true.mp blank character (List.mem_reverse.mp member)

/-- A trimmed text ends in what can be seen of it. -/
theorem solid_trimEnd {text : Text} (visible : allBlank text = false) : Solid (trimEnd text) := by
  cases ending : text.reverse.dropWhile isBlank with
  | nil =>
      have blank : allBlank text = true := List.all_eq_true.mpr fun character member =>
        List.dropWhile_eq_nil_iff.mp ending character (List.mem_reverse.mpr member)
      exact absurd (blank.symm.trans visible) (by decide)
  | cons last others =>
      have seen := List.head?_dropWhile_not isBlank text.reverse
      rw [ending] at seen
      refine ⟨others.reverse, last, ?_, by simpa using seen⟩
      rw [trimEnd, ending, List.reverse_cons]

/-- Whatever stands before a text does not change how it ends. -/
theorem Solid.append {text : Text} (solid : Solid text) (front : Text) : Solid (front ++ text) := by
  obtain ⟨inner, last, rfl, visible⟩ := solid
  exact ⟨front ++ inner, last, (List.append_assoc _ _ _).symm, visible⟩

/-- Only a text of white space is trimmed away as a whole. -/
theorem trimEnd_cons (character : Char) (rest : Text) :
    trimEnd (character :: rest) =
      if trimEnd rest = [] ∧ isBlank character = true then [] else character :: trimEnd rest := by
  rw [trimEnd, trimEnd, List.reverse_cons, List.dropWhile_append]
  by_cases away : rest.reverse.dropWhile isBlank = []
  · by_cases blank : isBlank character = true <;> simp [away, blank]
  · simp [away]

/-- A trimmed text ends in a marker if the marker stands at the end of the text without its first
character, or at the very beginning with white space after it. -/
theorem suffix_trimEnd_cons {marker : Text} (solid : Solid marker) (character : Char) (rest : Text) :
    marker <:+ trimEnd (character :: rest) ↔
      marker <:+ trimEnd rest ∨
        ∃ blanks, character :: rest = marker ++ blanks ∧ trimStart blanks = [] := by
  have present : marker ≠ [] := by
    obtain ⟨front, last, rfl, _⟩ := solid
    simp
  constructor
  · intro ends
    rw [trimEnd_cons] at ends
    split at ends
    · exact absurd (List.suffix_nil.mp ends) present
    · refine (List.suffix_cons_iff.mp ends).symm.imp_right fun same => ?_
      obtain ⟨blanks, whole, blank⟩ := exists_blanks rest
      exact ⟨blanks, by rw [same, List.cons_append, ← whole], trimStart_eq_nil.mpr blank⟩
  · rintro (ends | ⟨blanks, whole, blank⟩)
    · have visible : trimEnd rest ≠ [] := fun away => present (List.suffix_nil.mp (away ▸ ends))
      rw [trimEnd_cons, if_neg fun away => visible away.1]
      exact ends.trans (List.suffix_cons _ _)
    · rewrite [whole, solid.trimEnd_append (trimStart_eq_nil.mp blank)]
      exact List.suffix_rfl

end DocBlocks.Text
