/-
This file says what it means that one text is found inside another.
-/

import DocBlocks.Text.Search
import Mathlib.Data.List.Infix

namespace DocBlocks.Text

/-- What follows a marker is found exactly if the text begins with the marker. -/
theorem after?_eq_some (marker text rest : Text) :
    after? marker text = some rest ↔ text = marker ++ rest := by
  fun_induction after? marker text with
  | case1 text => simp [eq_comm]
  | case2 => simp
  | case3 first marker text ih => simp [ih]
  | case4 first marker character text different =>
      simp only [List.cons_append, List.cons.injEq, reduceCtorEq, false_iff, not_and]
      exact fun same => absurd same.symm different

/-- More text may follow. -/
theorem after?_append {marker text rest : Text} (found : after? marker text = some rest)
    (more : Text) : after? marker (text ++ more) = some (rest ++ more) := by
  rw [after?_eq_some] at found ⊢
  rw [found, List.append_assoc]

/-- A marker that fits into a text is not found there only because the text goes on. -/
theorem after?_append_none {marker text : Text} (missing : after? marker text = none)
    (fits : marker.length ≤ text.length) (more : Text) : after? marker (text ++ more) = none := by
  cases found : after? marker (text ++ more) with
  | none => rfl
  | some rest =>
      have whole := (after?_eq_some _ _ _).mp found
      obtain ⟨left, divided⟩ : marker <+: text :=
        List.prefix_of_prefix_length_le ⟨rest, whole.symm⟩ (List.prefix_append text more) fits
      cases missing.symm.trans ((after?_eq_some _ _ _).mpr divided.symm)

/-- A text is cut into what stands before the marker, the marker and the rest. -/
theorem of_cutAt? {marker text before rest : Text} (cut : cutAt? marker text = some (before, rest)) :
    text = before ++ marker ++ rest := by
  induction text generalizing before with
  | nil =>
      obtain ⟨left, found, same⟩ := Option.map_eq_some_iff.mp cut
      cases same
      simpa using (after?_eq_some _ _ _).mp found
  | cons character text ih =>
      rw [cutAt?] at cut
      split at cut
      · rename_i found
        cases cut
        simpa using (after?_eq_some _ _ _).mp found
      · obtain ⟨⟨inside, left⟩, found, same⟩ := Option.map_eq_some_iff.mp cut
        cases same
        simp [ih found]

/-- The marker is found in a text that holds it. -/
theorem exists_cutAt? (before marker rest : Text) :
    ∃ front back, cutAt? marker (before ++ marker ++ rest) = some (front, back) := by
  induction before with
  | nil =>
      have found : after? marker (marker ++ rest) = some rest := (after?_eq_some _ _ _).mpr rfl
      rw [List.nil_append]
      cases whole : marker ++ rest with
      | nil =>
          rw [whole] at found
          exact ⟨[], rest, by rw [cutAt?, found]; rfl⟩
      | cons first others =>
          rw [whole] at found
          exact ⟨[], rest, by rw [cutAt?, found]⟩
  | cons character before ih =>
      obtain ⟨front, back, found⟩ := ih
      rw [List.cons_append, List.cons_append, cutAt?, found]
      split
      · exact ⟨_, _, rfl⟩
      · exact ⟨_, _, rfl⟩

/-- No occurrence of the marker comes before the one that is found. -/
theorem cutAt?_first {marker text front back : Text} (cut : cutAt? marker text = some (front, back))
    (before rest : Text) (holds : text = before ++ marker ++ rest) : front.length ≤ before.length := by
  induction text generalizing front before with
  | nil =>
      obtain ⟨left, _, same⟩ := Option.map_eq_some_iff.mp cut
      cases same
      exact Nat.zero_le _
  | cons character text ih =>
      rw [cutAt?] at cut
      split at cut
      · cases cut
        exact Nat.zero_le _
      · rename_i missing
        obtain ⟨⟨inside, left⟩, found, same⟩ := Option.map_eq_some_iff.mp cut
        cases same
        cases before with
        | nil => cases missing.symm.trans ((after?_eq_some _ _ _).mpr holds)
        | cons first before => exact Nat.succ_le_succ (ih found before (List.cons.inj holds).2)

/-- What follows the first occurrence of a marker has nothing to do with where that is. -/
theorem cutAt?_exchange {marker before rest : Text}
    (cut : cutAt? marker (before ++ marker ++ rest) = some (before, rest)) (other : Text) :
    cutAt? marker (before ++ marker ++ other) = some (before, other) := by
  obtain ⟨front, back, found⟩ := exists_cutAt? before marker other
  have whole := of_cutAt? found
  have early := cutAt?_first found before other rfl
  -- An earlier occurrence would end before the rest, so it would have been found as well.
  have within : front ++ marker <+: before ++ marker := by
    refine List.prefix_of_prefix_length_le (whole ▸ List.prefix_append _ _)
      (List.prefix_append _ other) ?_
    simpa using early
  obtain ⟨between, divided⟩ := within
  have late := cutAt?_first cut front (between ++ rest) (by rw [← divided, List.append_assoc])
  rw [List.append_assoc, List.append_assoc] at whole
  obtain ⟨same, left⟩ := List.append_inj whole (Nat.le_antisymm late early)
  rw [found, same, List.append_cancel_left left]

/-- A marker that has been found is found in a longer text too. -/
theorem cutAt?_append {marker text front back : Text} (cut : cutAt? marker text = some (front, back))
    (more : Text) : cutAt? marker (text ++ more) = some (front, back ++ more) := by
  have whole := of_cutAt? cut
  rw [whole] at cut
  rw [whole, List.append_assoc]
  exact cutAt?_exchange cut _

/-- What stands before a marker is a front of the text. -/
theorem before_isPrefix (marker text : Text) : before marker text <+: text := by
  unfold before
  split
  · rename_i found
    rw [of_cutAt? found, List.append_assoc]
    exact List.prefix_append _ _
  · exact List.prefix_rfl

/-- What follows the last occurrence of `marker`. -/
def afterLast? (marker : Text) : Text → Option Text
  | [] => after? marker []
  | character :: text => afterLast? marker text <|> after? marker (character :: text)

/-- A text without the letter that may stand in front. -/
def withoutLetter (allowed : List Char) : Text → Text
  | [] => []
  | character :: text => if character ∈ allowed then text else character :: text

/-- At most one of the letters is left out. -/
theorem withoutLetter_eq_iff {allowed : List Char} {text rest : Text} {first : Char}
    (starts : rest.head? = some first) (noLetter : first ∉ allowed) :
    withoutLetter allowed text = rest ↔ text = rest ∨ ∃ letter ∈ allowed, text = letter :: rest := by
  cases text with
  | nil => simp [withoutLetter]
  | cons character text =>
      rw [withoutLetter]
      split
      · rename_i letter
        refine ⟨fun same => Or.inr ⟨character, letter, by rw [same]⟩, ?_⟩
        rintro (same | ⟨other, _, same⟩)
        · rw [← same] at starts
          cases starts
          exact absurd letter noLetter
        · exact (List.cons.inj same).2
      · rename_i noLetter
        refine ⟨Or.inl, ?_⟩
        rintro (same | ⟨other, member, same⟩)
        · exact same
        · exact absurd ((List.cons.inj same).1 ▸ member) noLetter

/-- What follows the last marker follows a marker. -/
theorem of_afterLast? {marker text rest : Text} (found : afterLast? marker text = some rest) :
    ∃ before, text = before ++ marker ++ rest := by
  induction text with
  | nil => exact ⟨[], (after?_eq_some _ _ _).mp found⟩
  | cons character text ih =>
      rw [afterLast?] at found
      cases later : afterLast? marker text with
      | some left =>
          rw [later] at found
          obtain ⟨before, whole⟩ := ih (later.trans found)
          exact ⟨character :: before, by rw [whole]; rfl⟩
      | none =>
          rw [later] at found
          exact ⟨[], (after?_eq_some _ _ _).mp found⟩

/-- What a text does not hold, a later part of it does not hold either. -/
theorem afterLast?_drop {marker text : Text} (missing : afterLast? marker text = none) (count : Nat) :
    afterLast? marker (text.drop count) = none := by
  induction count generalizing text with
  | zero => exact missing
  | succ count ih =>
      cases text with
      | nil => exact missing
      | cons character text =>
          have later : afterLast? marker text = none := by
            cases found : afterLast? marker text with
            | none => rfl
            | some rest => simp [afterLast?, found] at missing
          exact ih later

/-- Without a last marker there is no first one. -/
theorem cutAt?_of_afterLast? {marker text : Text} (missing : afterLast? marker text = none) :
    cutAt? marker text = none := by
  induction text with
  | nil =>
      have here : after? marker [] = none := missing
      rw [cutAt?, here]
      rfl
  | cons character text ih =>
      have both : afterLast? marker text = none ∧ after? marker (character :: text) = none := by
        simpa [afterLast?] using missing
      simp [cutAt?, both.2, ih both.1]

end DocBlocks.Text
