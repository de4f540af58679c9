/-
This file takes steps that may fail and may cancel a detection apart, and compares them.
-/

import DocBlocks.Pattern.Matcher

namespace DocBlocks.Trial

variable {α β γ : Type}

@[simp] theorem pure_outcome (value : α) : (Pure.pure value : Trial α).outcome = some value := rfl

@[simp] theorem pure_cancels (value : α) : (Pure.pure value : Trial α).cancels = false := rfl

@[simp] theorem ofOption_outcome (outcome : Option α) : (ofOption outcome).outcome = outcome := rfl

@[simp] theorem ofOption_cancels (outcome : Option α) : (ofOption outcome).cancels = false := rfl

/-- A value that is there is given as it is. -/
@[simp] theorem ofOption_some (value : α) : ofOption (some value) = Pure.pure value := rfl

/-- The second step is tried if the first does not fail. -/
theorem bind_outcome (first : Trial α) (next : α → Trial β) :
    (first >>= next).outcome = first.outcome.bind fun value => (next value).outcome := by
  change (first.bind next).outcome = _
  unfold bind
  cases first.outcome <;> rfl

/-- Steps have an outcome only if each of them has one. -/
theorem of_bind {first : Trial α} {next : α → Trial β} {result : β}
    (done : (first >>= next).outcome = some result) :
    ∃ value, first.outcome = some value ∧ (next value).outcome = some result := by
  rw [bind_outcome] at done
  exact Option.bind_eq_some_iff.mp done

/-- Steps have an outcome if each of them has one. -/
theorem bind_returns {first : Trial α} {next : α → Trial β} (returns : first.outcome.isSome = true)
    (onward : ∀ value, first.outcome = some value → (next value).outcome.isSome = true) :
    (first >>= next).outcome.isSome = true := by
  obtain ⟨value, done⟩ := Option.isSome_iff_exists.mp returns
  rw [bind_outcome, done]
  exact onward value done

/-- What the first step cancels stays cancelled, whatever the next one does. -/
theorem bind_of_outcome {first : Trial α} {value : α} (done : first.outcome = some value)
    (next : α → Trial β) :
    first >>= next = ⟨(next value).outcome, first.cancels || (next value).cancels⟩ := by
  change first.bind next = _
  unfold bind
  rw [done]

/-- A step that fails is the last one. -/
theorem bind_of_failed {first : Trial α} (failed : first.outcome = none) (next : α → Trial β) :
    first >>= next = ⟨none, first.cancels⟩ := by
  change first.bind next = _
  unfold bind
  rw [failed]

/-- Later steps matter only for what the first one gives. -/
theorem bind_congr (first : Trial α) {next after : α → Trial β}
    (same : ∀ value, first.outcome = some value → next value = after value) :
    first >>= next = first >>= after := by
  cases done : first.outcome with
  | none => rw [bind_of_failed done, bind_of_failed done]
  | some value => rw [bind_of_outcome done, bind_of_outcome done, same value done]

/-- A step that only gives a value is no step. -/
@[simp] theorem pure_bind (value : α) (next : α → Trial β) :
    (Pure.pure value >>= next : Trial β) = next value := by
  rw [bind_of_outcome (pure_outcome value)]
  simp

/-- Steps can be grouped in either way. -/
theorem bind_assoc (first : Trial α) (next : α → Trial β) (last : β → Trial γ) :
    first >>= next >>= last = first >>= fun value => next value >>= last := by
  cases done : first.outcome with
  | none => rw [bind_of_failed done, bind_of_failed done, bind_of_failed rfl]
  | some value =>
      rw [bind_of_outcome done, bind_of_outcome done]
      cases onward : (next value).outcome with
      | none => rw [bind_of_failed rfl, bind_of_failed onward]
      | some result => rw [bind_of_outcome rfl, bind_of_outcome onward, Bool.or_assoc]

/-- The trials have one outcome. If only one of them cancels, then that makes no difference because
the detection is known to be cancelled. -/
structure Alike (known : Bool) (one other : Trial α) : Prop where
  outcome : one.outcome = other.outcome
  cancels : (known || one.cancels) = (known || other.cancels)

namespace Alike

variable {known : Bool} {one other : Trial α}

/-- A trial is like itself. -/
theorem refl (known : Bool) (trial : Trial α) : Alike known trial trial :=
  ⟨rfl, rfl⟩

/-- Trials that are alike where nothing is known to be cancelled are one trial. -/
theorem eq (alike : Alike false one other) : one = other := by
  obtain ⟨outcome, cancels⟩ := alike
  cases one
  cases other
  simp_all

/-- Trials stay alike with alike steps after them, for which it is known what the first
cancelled. -/
theorem bind (alike : Alike known one other) {next after : α → Trial β}
    (onward : ∀ value, one.outcome = some value →
      Alike (known || one.cancels) (next value) (after value)) :
    Alike known (one >>= next) (other >>= after) := by
  cases done : one.outcome with
  | none =>
      rw [bind_of_failed done, bind_of_failed (alike.outcome ▸ done)]
      exact ⟨rfl, alike.cancels⟩
  | some value =>
      obtain ⟨outcome, cancels⟩ := onward value done
      have both := alike.cancels
      rw [bind_of_outcome done, bind_of_outcome (alike.outcome ▸ done)]
      refine ⟨outcome, ?_⟩
      cases known <;> cases left : one.cancels <;> simp_all

/-- The same first step, with alike steps after it. -/
theorem step (first : Trial α) {next after : α → Trial β}
    (onward : ∀ value, first.outcome = some value →
      Alike (known || first.cancels) (next value) (after value)) :
    Alike known (first >>= next) (first >>= after) :=
  (refl known first).bind onward

end Alike

end DocBlocks.Trial
