/-
This file says what settings are valid, and that settings which can be read are.
-/

import DocBlocks.Proofs.Detection.Quiet
import DocBlocks.Settings.Encoding
import Mathlib.Data.List.Forall2

namespace DocBlocks.Settings

/-- Previews have a reasonable length, and no time is zero. -/
structure WithinBounds (settings : Settings) : Prop where
  shortest : 4 ≤ settings.previewLength
  longest : settings.previewLength ≤ 500
  cacheTtl : 0 < settings.cacheTtl
  cleanupInterval : 0 < settings.cleanupInterval

/-- Valid settings are within their bounds, and their patterns compile. -/
theorem bounds_of_valid {settings : Settings} (valid : settings.validate = .ok ()) :
    settings.WithinBounds ∧ ∃ custom, settings.compilePatterns = .ok custom := by
  unfold validate at valid
  split at valid
  · cases valid
  · rename_i length
    split at valid
    · cases valid
    · rename_i ttl
      split at valid
      · cases valid
      · rename_i interval
        simp only [Bool.or_eq_true, decide_eq_true_eq, not_or, Nat.not_lt] at length
        obtain ⟨custom, compiled, _⟩ := Except.ok_of_bind valid
        exact ⟨⟨length.1, length.2, Nat.pos_of_ne_zero ttl, Nat.pos_of_ne_zero interval⟩,
          custom, compiled⟩

/-- Patterns are compiled one by one. -/
theorem compileFrom_ok {index : Nat} {specs : List PatternSpec} {custom : List Pattern}
    (compiled : compileFrom index specs = .ok custom) :
    List.Forall₂ (fun spec pattern => spec.compile = .ok pattern) specs custom := by
  induction specs generalizing index custom with
  | nil =>
      cases compiled
      exact List.Forall₂.nil
  | cons spec specs ih =>
      obtain ⟨pattern, first, compiled⟩ := Except.ok_of_bind compiled
      obtain ⟨patterns, others, compiled⟩ := Except.ok_of_bind compiled
      cases compiled
      exact List.Forall₂.cons (Except.ok_of_mapError first) (ih others)

/-- Whatever settings are read from a value are valid. -/
theorem valid_of_ofValue {value : Json} {settings : Settings} (read : ofValue value = .ok settings) :
    settings.validate = .ok () := by
  unfold ofValue at read
  split at read
  · cases read
    rfl
  · obtain ⟨_, _, read⟩ := Except.ok_of_bind read
    obtain ⟨_, valid, read⟩ := Except.ok_of_bind read
    cases read
    exact valid

end DocBlocks.Settings
