/-
This file shows that the search for closing markers may stop short after it was once in vain: the
scan finds the same blocks, and fails on the same texts, as one that always searches to the end.
-/

import DocBlocks.Proofs.Detection.Within

namespace DocBlocks.Span

/-- Searches the lines one by one for the closing marker, where so many lines have been passed: how
many lines stand before the marker, and the column after it. -/
def searchClosing (closing : Matcher) (passed : Nat) : List Text → Trial (Option (Nat × Nat))
  | [] => pure none
  | line :: later => do
    match ← closing.find line with
    | some range => return some (passed, ← columnOf line range.stop)
    | none => searchClosing closing (passed + 1) later

/-- The blocks between opening and closing markers, where the end of each block is searched for in
all lines that follow. -/
def scanPlain (pattern : Pattern) (index : Nat) : List Text → Trial (List Span)
  | [] => pure []
  | line :: later => do
    match ← pattern.opening.find line with
    | none => scanPlain pattern (index + 1) later
    | some opening =>
      let column ← markerColumn line opening.start
      match ← singleLineEnd pattern line with
      | some endColumn =>
        return ⟨index, column, index, endColumn⟩ :: (← scanPlain pattern (index + 1) later)
      | none =>
        let remainder ← Trial.ofOption (line.dropBytes? opening.stop)
        match ← pattern.closing.find remainder with
        | some range =>
          let endColumn ← columnOf line (opening.stop + range.stop)
          return ⟨index, column, index, endColumn⟩ :: (← scanPlain pattern (index + 1) later)
        | none =>
          match ← searchClosing pattern.closing 0 later with
          | some (before, endColumn) =>
            let endLine := index + 1 + before
            return ⟨index, column, endLine, endColumn⟩ ::
              (← scanPlain pattern (endLine + 1) (later.drop (before + 1)))
          | none => scanPlain pattern (index + 1) later
termination_by lines => lines.length
decreasing_by all_goals simp; try omega

/-- The same, where lines from the index `markerless` on are left out of the search, and that index
is lowered whenever the search was in vain. -/
def scanBounded (pattern : Pattern) (markerless index : Nat) : List Text → Trial (List Span)
  | [] => pure []
  | line :: later => do
    match ← pattern.opening.find line with
    | none => scanBounded pattern markerless (index + 1) later
    | some opening =>
      let column ← markerColumn line opening.start
      match ← singleLineEnd pattern line with
      | some endColumn =>
        return ⟨index, column, index, endColumn⟩ ::
          (← scanBounded pattern markerless (index + 1) later)
      | none =>
        let searched := later.take (max markerless (index + 1) - (index + 1))
        match ← closingOf pattern opening line searched false with
        | .sameLine endColumn =>
          return ⟨index, column, index, endColumn⟩ ::
            (← scanBounded pattern markerless (index + 1) later)
        | .laterLine before endColumn =>
          let endLine := index + 1 + before
          return ⟨index, column, endLine, endColumn⟩ ::
            (← scanBounded pattern markerless (endLine + 1) (later.drop (before + 1)))
        | .missing => scanBounded pattern (min markerless (index + 1)) (index + 1) later
termination_by lines => lines.length
decreasing_by all_goals simp; try omega

/-- The search has found what the lines it has not passed yet lead to. -/
theorem searchClosing_eq (closing : Matcher) (passed : Nat) (lines : List Text) :
    searchClosing closing passed lines = (do
      match ← findClosing closing lines with
      | some (before, last, stop) => return some (passed + before, ← columnOf last stop)
      | none => pure none) := by
  induction lines generalizing passed with
  | nil => rw [searchClosing, findClosing, Trial.pure_bind]
  | cons line later ih =>
      rw [searchClosing, findClosing, Trial.bind_assoc]
      apply Trial.bind_congr
      intro found _
      cases found with
      | some range => rw [Trial.pure_bind]; rfl
      | none =>
          dsimp only
          rw [ih, Trial.bind_assoc]
          apply Trial.bind_congr
          intro place _
          rw [Trial.pure_bind]
          rcases place with _ | ⟨before, last, stop⟩
          · rfl
          · simp only [Option.map_some, Nat.add_assoc, Nat.add_comm 1]

/-- What the plain scan does with a line, in the words of the other scans. -/
theorem scanPlain_cons (pattern : Pattern) (index : Nat) (line : Text) (later : List Text) :
    scanPlain pattern index (line :: later) = (do
      match ← pattern.opening.find line with
      | none => scanPlain pattern (index + 1) later
      | some opening =>
        let column ← markerColumn line opening.start
        match ← singleLineEnd pattern line with
        | some endColumn =>
          return ⟨index, column, index, endColumn⟩ :: (← scanPlain pattern (index + 1) later)
        | none =>
          match ← closingOf pattern opening line later false with
          | .sameLine endColumn =>
            return ⟨index, column, index, endColumn⟩ :: (← scanPlain pattern (index + 1) later)
          | .laterLine before endColumn =>
            let endLine := index + 1 + before
            return ⟨index, column, endLine, endColumn⟩ ::
              (← scanPlain pattern (endLine + 1) (later.drop (before + 1)))
          | .missing => scanPlain pattern (index + 1) later) := by
  rw [scanPlain]
  apply Trial.bind_congr
  intro found _
  cases found with
  | none => rfl
  | some opening =>
      apply Trial.bind_congr
      intro column _
      apply Trial.bind_congr
      intro single _
      cases single with
      | some endColumn => rfl
      | none =>
          dsimp only
          rw [closingOf, Trial.bind_assoc]
          apply Trial.bind_congr
          intro remainder _
          rw [Trial.bind_assoc]
          apply Trial.bind_congr
          intro closed _
          cases closed with
          | some range =>
              dsimp only
              rw [Trial.bind_assoc]
              apply Trial.bind_congr
              intro endColumn _
              rw [Trial.pure_bind]
          | none =>
              dsimp only
              rw [searchClosing_eq, Trial.bind_assoc, Trial.bind_assoc]
              apply Trial.bind_congr
              intro place _
              rcases place with _ | ⟨before, last, stop⟩
              · rfl
              · dsimp only
                rw [Trial.bind_assoc, Trial.bind_assoc]
                apply Trial.bind_congr
                intro endColumn _
                rw [Trial.pure_bind, Trial.pure_bind, Nat.zero_add]

/-- A search of the lines finds no closing marker. What it cancels is known. -/
structure Fruitless (closing : Matcher) (known : Bool) (lines : List Text) : Prop where
  outcome : (findClosing closing lines).outcome = some none
  cancels : (findClosing closing lines).cancels = true → known = true

namespace Fruitless

variable {closing : Matcher} {known : Bool}

/-- If the marker is on none of the lines, then it is on none of those after the first. -/
theorem tail {line : Text} {later : List Text} (fruitless : Fruitless closing known (line :: later)) :
    Fruitless closing known later := by
  obtain ⟨outcome, cancels⟩ := fruitless
  rw [findClosing] at outcome cancels
  obtain ⟨found, first, rest⟩ := Trial.of_bind outcome
  rw [Trial.bind_of_outcome first] at cancels
  cases found with
  | some range => cases rest
  | none =>
      obtain ⟨place, searched, same⟩ := Trial.of_bind rest
      rw [Trial.bind_of_outcome searched] at cancels
      cases place with
      | some place => cases same
      | none => exact ⟨searched, fun cancelled => cancels (by simp [cancelled])⟩

/-- A search that is in vain stays so from any later line on. -/
theorem drop {lines : List Text} (fruitless : Fruitless closing known lines) (count : Nat) :
    Fruitless closing known (lines.drop count) := by
  induction count generalizing lines with
  | zero => exact fruitless
  | succ count ih =>
      cases lines with
      | nil => exact fruitless
      | cons line later => exact ih fruitless.tail

/-- More may become known of what was cancelled. -/
theorem learn {lines : List Text} (fruitless : Fruitless closing known lines) (more : Bool) :
    Fruitless closing (known || more) lines :=
  ⟨fruitless.outcome, fun cancelled => by rw [fruitless.cancels cancelled, Bool.true_or]⟩

end Fruitless

/-- A block is found to be open after a search of all lines that follow. -/
theorem closingOf_missing {pattern : Pattern} {opening : ByteRange} {line : Text}
    {later : List Text}
    (missing : (closingOf pattern opening line later false).outcome = some .missing) :
    Fruitless pattern.closing (closingOf pattern opening line later false).cancels later := by
  unfold closingOf at missing ⊢
  obtain ⟨remainder, cut, missing⟩ := Trial.of_bind missing
  rw [Trial.bind_of_outcome cut]
  obtain ⟨found, looked, missing⟩ := Trial.of_bind missing
  rw [Trial.bind_of_outcome looked]
  cases found with
  | some range =>
      obtain ⟨column, _, missing⟩ := Trial.of_bind missing
      cases missing
  | none =>
      obtain ⟨place, searched, missing⟩ := Trial.of_bind missing
      dsimp only
      rw [Trial.bind_of_outcome searched]
      cases place with
      | some place =>
          obtain ⟨column, _, missing⟩ := Trial.of_bind missing
          cases missing
      | none => exact ⟨searched, fun cancelled => by simp_all⟩

/-- To leave out a search that finds nothing makes no difference. -/
theorem closingOf_alike (pattern : Pattern) (opening : ByteRange) (line : Text)
    {later : List Text} {known : Bool} (fruitless : Fruitless pattern.closing known later) :
    Trial.Alike known (closingOf pattern opening line later true)
      (closingOf pattern opening line later false) := by
  unfold closingOf
  apply Trial.Alike.step
  intro remainder _
  apply Trial.Alike.step
  intro found _
  cases found with
  | some range => exact .refl _ _
  | none =>
      have skipped (more : Bool) : Trial.Alike (known || more) (findClosing pattern.closing [])
          (findClosing pattern.closing later) := by
        refine ⟨fruitless.outcome.symm, ?_⟩
        cases searched : (findClosing pattern.closing later).cancels with
        | false => rfl
        | true => simp [fruitless.cancels searched]
      rw [Bool.or_assoc]
      exact (skipped _).bind fun place _ => .refl _ _

/-- A scan that leaves out no search but fruitless ones is like the plain one. -/
theorem scanBlocks_alike (pattern : Pattern) (noneLater : Bool) (index : Nat) (lines : List Text)
    (known : Bool) (fruitless : noneLater = true → Fruitless pattern.closing known lines) :
    Trial.Alike known (scanBlocks pattern noneLater index lines) (scanPlain pattern index lines) := by
  induction noneLater, index, lines using scanBlocks.induct generalizing known with
  | case1 noneLater index =>
      rw [scanBlocks, scanPlain]
      exact .refl _ _
  | case2 noneLater index line later next afterBlock afterMissing =>
      rw [scanBlocks, scanPlain_cons]
      have rest (more : Bool) (vain : noneLater = true) :
          Fruitless pattern.closing (known || more) later := (fruitless vain).tail.learn more
      apply Trial.Alike.step
      intro found _
      cases found with
      | none => exact next _ fun vain => rest _ vain
      | some opening =>
          apply Trial.Alike.step
          intro column _
          apply Trial.Alike.step
          intro single _
          simp only [Bool.or_assoc]
          cases single with
          | some endColumn => exact (next _ fun vain => rest _ vain).bind fun _ _ => .refl _ _
          | none =>
              have closing (more : Bool) : Trial.Alike (known || more)
                  (closingOf pattern opening line later noneLater)
                  (closingOf pattern opening line later false) := by
                cases noneLater with
                | true => exact closingOf_alike pattern opening line (rest more rfl)
                | false => exact .refl _ _
              apply (closing _).bind
              intro place located
              simp only [Bool.or_assoc]
              cases place with
              | sameLine endColumn =>
                  exact (next _ fun vain => rest _ vain).bind fun _ _ => .refl _ _
              | laterLine before endColumn =>
                  exact (afterBlock before _ fun vain => (rest _ vain).drop _).bind
                    fun _ _ => .refl _ _
              | missing =>
                  apply afterMissing
                  intro _
                  cases noneLater with
                  | true => exact rest _ rfl
                  | false =>
                      have vain := closingOf_missing located
                      simp only [← Bool.or_assoc]
                      exact ⟨vain.outcome, fun cancelled => by simp [vain.cancels cancelled]⟩

/-- The index from which on lines are left out of the search is the end of the text, or lines are
left out by the flag and that index has been passed. -/
def Marks (noneLater : Bool) (markerless index count : Nat) : Prop :=
  noneLater = false ∧ markerless = index + count ∨ noneLater = true ∧ markerless ≤ index

/-- The index says the same for the lines further on. -/
theorem Marks.onward {noneLater : Bool} {markerless index : Nat} {line : Text} {later : List Text}
    (marks : Marks noneLater markerless index (line :: later).length) {count : Nat}
    (inside : count ≤ later.length) :
    Marks noneLater markerless (index + 1 + count) (later.drop count).length := by
  rw [List.length_cons] at marks
  rw [List.length_drop]
  rcases marks with ⟨whole, bound⟩ | ⟨vain, bound⟩
  · exact Or.inl ⟨whole, by omega⟩
  · exact Or.inr ⟨vain, by omega⟩

/-- Either all lines that follow are searched, or the search ends before it has begun. -/
theorem take_searched {noneLater : Bool} {markerless index : Nat} {line : Text} {later : List Text}
    (marks : Marks noneLater markerless index (line :: later).length) :
    later.take (max markerless (index + 1) - (index + 1)) = if noneLater then [] else later := by
  rw [List.length_cons] at marks
  rcases marks with ⟨whole, bound⟩ | ⟨vain, bound⟩
  · rw [whole]
    apply List.take_of_length_le
    omega
  · have none : max markerless (index + 1) - (index + 1) = 0 := by omega
    rw [vain, none]
    rfl

/-- The search bounded by an index is the search with a flag. -/
theorem scanBounded_eq_scanBlocks (pattern : Pattern) (noneLater : Bool) (index : Nat)
    (lines : List Text) (markerless : Nat) (marks : Marks noneLater markerless index lines.length) :
    scanBounded pattern markerless index lines = scanBlocks pattern noneLater index lines := by
  induction noneLater, index, lines using scanBlocks.induct generalizing markerless with
  | case1 noneLater index => rw [scanBlocks, scanBounded]
  | case2 noneLater index line later next afterBlock afterMissing =>
      have searched := take_searched marks
      have onward : Marks noneLater markerless (index + 1) later.length :=
        marks.onward (Nat.zero_le _)
      rw [scanBlocks, scanBounded]
      apply Trial.bind_congr
      intro found _
      cases found with
      | none => exact next markerless onward
      | some opening =>
          apply Trial.bind_congr
          intro column _
          apply Trial.bind_congr
          intro single _
          cases single with
          | some endColumn => simp only [next markerless onward]
          | none =>
              have closing : closingOf pattern opening line
                  (later.take (max markerless (index + 1) - (index + 1))) false =
                    closingOf pattern opening line later noneLater := by
                rw [searched]
                rfl
              dsimp only
              rw [closing]
              apply Trial.bind_congr
              intro place located
              cases place with
              | sameLine endColumn => simp only [next markerless onward]
              | laterLine before endColumn =>
                  obtain ⟨last, present, _⟩ := closingOf_place located
                  have inside := (List.getElem?_eq_some_iff.mp present).1
                  have further : Marks noneLater markerless (index + 1 + before + 1)
                      (later.drop (before + 1)).length := marks.onward (Nat.succ_le_of_lt inside)
                  simp only [afterBlock before markerless further]
              | missing =>
                  apply afterMissing
                  exact Or.inr ⟨rfl, Nat.min_le_right _ _⟩

/-- The scan finds the blocks of the plain scan, and fails or cancels where that does. So does the
scan that keeps the index from which on it need not search. -/
theorem scanBlocks_eq_scanPlain (pattern : Pattern) (lines : List Text) :
    scanBlocks pattern false 0 lines = scanPlain pattern 0 lines ∧
      scanBounded pattern lines.length 0 lines = scanPlain pattern 0 lines := by
  have plain := (scanBlocks_alike pattern false 0 lines false fun vain => by cases vain).eq
  have bounded := scanBounded_eq_scanBlocks pattern false 0 lines lines.length
    (Or.inl ⟨rfl, (Nat.zero_add _).symm⟩)
  exact ⟨plain, bounded.trans plain⟩

-- The search for the end of the second block is in vain, so none is made for the third one.
example :
    let opening : Matcher := .custom fun line =>
      pure (if "/*".toList.isPrefixOf line then some ⟨0, 2⟩ else none)
    let closing : Matcher := .custom fun line =>
      pure (if "*/".toList.isPrefixOf line then some ⟨0, 2⟩ else none)
    let pattern : Pattern := ⟨"comment", "c", opening, closing, none, true, .blockComment⟩
    let lines := ["/* One", "*/", "/* Two", "three", "/* Four"].map String.toList
    scanPlain pattern 0 lines = pure [⟨0, 0, 1, 2⟩] ∧
      scanBlocks pattern false 0 lines = pure [⟨0, 0, 1, 2⟩] ∧
      scanBounded pattern lines.length 0 lines = pure [⟨0, 0, 1, 2⟩] := by
  decide +kernel

end DocBlocks.Span
