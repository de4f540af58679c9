/-
This file says what a detection finds when no pattern is left out, and that every detection which
is not stopped finds just that.
-/

import DocBlocks.Detection.Basic
import Mathlib.Data.List.Basic

namespace DocBlocks.Detector

/-- What each pattern finds on its own, in the order of the patterns. -/
def candidatesOf (lines : List Text) (patterns : List Pattern) : List (Span × Family) :=
  patterns.flatMap fun pattern =>
    ((Span.scan pattern lines).outcome.getD []).map fun span => (span, pattern.family)

/-- The blocks of a text, with no pattern of its language left out. -/
def thorough (detector : Detector) (text : Text) (language : String) : List Block :=
  (distinct [] (candidatesOf text.lines (detector.registry.lookup language))).map
    fun (span, family) => buildBlock text.lines language detector.previewLength span family

/-- A pass that is not stopped collects the finds of all patterns. -/
theorem pass_candidates (lines : List Text) (cancelledBy : Nat → Bool) (index : Nat)
    (cancels : Bool) (patterns : List Pattern)
    (unstopped : (pass lines cancelledBy index cancels patterns).stopped = false) :
    (pass lines cancelledBy index cancels patterns).candidates = candidatesOf lines patterns := by
  induction patterns generalizing index cancels with
  | nil => rfl
  | cons pattern patterns ih =>
      rw [pass] at unstopped ⊢
      split at unstopped
      · cases unstopped
      · rename_i running
        rw [if_neg running]
        have rest := ih (index + 1) (Span.scan pattern lines).cancels unstopped
        simp only [rest, candidatesOf, List.flatMap_cons]

/-- A pass is stopped only by a matcher or from outside. -/
theorem pass_stopped (lines : List Text) (cancelledBy : Nat → Bool) (index : Nat)
    (cancels : Bool) (patterns : List Pattern)
    (stopped : (pass lines cancelledBy index cancels patterns).stopped = true) :
    (pass lines cancelledBy index cancels patterns).cancels = true ∨
      ∃ position, cancelledBy position = true := by
  induction patterns generalizing index cancels with
  | nil => cases stopped
  | cons pattern patterns ih =>
      rw [pass] at stopped ⊢
      split at stopped
      · rename_i halted
        rw [if_pos halted]
        rcases Bool.or_eq_true_iff.mp halted with own | outside
        · exact Or.inl own
        · exact Or.inr ⟨index, outside⟩
      · rename_i running
        rw [if_neg running]
        exact ih (index + 1) (Span.scan pattern lines).cancels stopped

/-- A pass is stopped at once if it is cancelled and there is a pattern to run. -/
theorem pass_halted (lines : List Text) (cancelledBy : Nat → Bool) (index : Nat)
    (cancels : Bool) (patterns : List Pattern) (present : patterns ≠ [])
    (halted : cancelledBy index = true) :
    (pass lines cancelledBy index cancels patterns).stopped = true := by
  cases patterns with
  | nil => exact absurd rfl present
  | cons pattern patterns => simp [pass, halted]

/-- A detection that is not stopped is thorough. -/
theorem detectionOf_thorough (detector : Detector) (text : Text) (language : String)
    (cancelledBy : Nat → Bool)
    (unstopped : (detector.passOver text language cancelledBy).stopped = false) :
    (detector.detectionOf text language (detector.passOver text language cancelledBy)).blocks =
      detector.thorough text language := by
  simp only [detectionOf, thorough, passOver]
  rw [pass_candidates _ _ _ _ _ unstopped]

end DocBlocks.Detector
