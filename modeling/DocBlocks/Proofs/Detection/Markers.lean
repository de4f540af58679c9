/-
This file finds the blocks of a comment syntax by comparing texts alone, and shows that a pattern
whose rules find the markers of that syntax finds the same blocks.
-/

import DocBlocks.Proofs.Detection.Shortcut
import DocBlocks.Proofs.Text.Search
import DocBlocks.Proofs.Text.Slice

namespace DocBlocks

open Text

/-- A comment syntax. A block that does not end on the line it opens on ends at the first closing
marker of a later line. -/
structure Markers where
  /-- What follows the opening marker, on a line that opens a block. -/
  opened? : Text → Option Text
  /-- The end column of a block that ends on the line it opens on, where `rest` follows the opening
  marker. -/
  endOnLine? : (line rest : Text) → Option Nat
  closing : Text

namespace Markers

/-- The column at which the rest of a line begins. -/
def columnOfRest (line rest : Text) : Nat :=
  line.length - rest.length

/-- The first of the lines that holds the closing marker: how many lines stand before it, and the
column just past the first marker on it. -/
def firstClosing? (closing : Text) : List Text → Option (Nat × Nat)
  | [] => none
  | line :: lines =>
    match cutAt? closing line with
    | some (_, rest) => some (0, columnOfRest line rest)
    | none => (firstClosing? closing lines).map fun (before, column) => (before + 1, column)

/-- The blocks of the syntax, where the first line has the number `index`. A block that is never
closed is dropped. -/
def spans (markers : Markers) (index : Nat) : List Text → List Span
  | [] => []
  | line :: later =>
    match markers.opened? line with
    | none => spans markers (index + 1) later
    | some rest =>
      let column := (line.takeWhile isBlank).length
      match markers.endOnLine? line rest with
      | some endColumn => ⟨index, column, index, endColumn⟩ :: spans markers (index + 1) later
      | none =>
        match firstClosing? markers.closing later with
        | some (before, endColumn) =>
          let endLine := index + 1 + before
          ⟨index, column, endLine, endColumn⟩ ::
            spans markers (endLine + 1) (later.drop (before + 1))
        | none => spans markers (index + 1) later
termination_by lines => lines.length
decreasing_by all_goals simp; try omega

/-- The span begins on one of the lines, and that line opens a block. -/
def OpensAt (markers : Markers) (index : Nat) (lines : List Text) (span : Span) : Prop :=
  index ≤ span.startLine ∧
    ∃ line, lines[span.startLine - index]? = some line ∧ (markers.opened? line).isSome = true

/-- Where a block opens does not depend on the lines above it. -/
theorem OpensAt.of_drop {markers : Markers} {index : Nat} {lines : List Text} {span : Span}
    (count : Nat) (opens : markers.OpensAt (index + count) (lines.drop count) span) :
    markers.OpensAt index lines span := by
  obtain ⟨after, line, found, opened⟩ := opens
  have position : count + (span.startLine - (index + count)) = span.startLine - index := by omega
  rw [List.getElem?_drop, position] at found
  exact ⟨by omega, line, found, opened⟩

/-- Every block begins on a line that opens one. -/
theorem spans_open (markers : Markers) (index : Nat) (lines : List Text) :
    ∀ span ∈ markers.spans index lines, markers.OpensAt index lines span := by
  have next {index : Nat} {line : Text} {later : List Text} {span : Span}
      (opens : markers.OpensAt (index + 1) later span) : markers.OpensAt index (line :: later) span :=
    .of_drop 1 opens
  have here {index column endLine endColumn : Nat} {line rest : Text} {later : List Text}
      (opened : markers.opened? line = some rest) :
      markers.OpensAt index (line :: later) ⟨index, column, endLine, endColumn⟩ :=
    ⟨Nat.le_refl index, line, by simp, by rw [opened]; rfl⟩
  fun_induction spans markers index lines with
  | case1 => exact fun _ member => nomatch member
  | case2 index line later closed ih => exact fun span member => next (ih span member)
  | case3 index line later rest opened column endColumn ending ih =>
      rintro span (_ | ⟨_, member⟩)
      · exact here opened
      · exact next (ih span member)
  | case4 index line later rest opened column unended before endColumn closed endLine ih =>
      rintro span (_ | ⟨_, member⟩)
      · exact here opened
      · refine .of_drop (before + 2) ?_
        have shifted : index + (before + 2) = endLine + 1 := by omega
        rw [shifted]
        exact ih span member
  | case5 index line later rest opened unended unclosed ih =>
      exact fun span member => next (ih span member)

/-- Blocks begin on different lines, one after another. -/
theorem spans_increase (markers : Markers) (index : Nat) (lines : List Text) :
    (markers.spans index lines).Pairwise fun first second => first.startLine < second.startLine := by
  fun_induction spans markers index lines with
  | case1 => exact .nil
  | case2 index line later closed ih => exact ih
  | case3 index line later rest opened column endColumn ending ih =>
      exact .cons (fun span member => (spans_open markers _ _ span member).1) ih
  | case4 index line later rest opened column unended before endColumn closed endLine ih =>
      refine .cons (fun span member => ?_) ih
      have after := (spans_open markers _ _ span member).1
      change index < span.startLine
      omega
  | case5 index line later rest opened unended unclosed ih => exact ih

/-- No block is found twice. -/
theorem spans_nodup (markers : Markers) (index : Nat) (lines : List Text) :
    (markers.spans index lines).Nodup :=
  (markers.spans_increase index lines).imp fun increasing same =>
    Nat.ne_of_lt increasing (congrArg Span.startLine same)

/-- Syntaxes that do not open on one and the same line have no block in common. -/
theorem spans_apart {one other : Markers} (apart : ∀ line rest, one.opened? line = some rest →
    other.opened? line = none) {index : Nat} {lines : List Text} {first second : Span}
    (ofOne : first ∈ one.spans index lines) (ofOther : second ∈ other.spans index lines) :
    first ≠ second := by
  rintro rfl
  obtain ⟨_, line, found, opened⟩ := one.spans_open index lines first ofOne
  obtain ⟨_, same, alsoFound, alsoOpened⟩ := other.spans_open index lines first ofOther
  cases found.symm.trans alsoFound
  obtain ⟨rest, opens⟩ := Option.isSome_iff_exists.mp opened
  rw [apart line rest opens] at alsoOpened
  cases alsoOpened

end Markers

/-- The rules of the pattern find the markers of the syntax on lines. -/
structure Pattern.Finds (pattern : Pattern) (markers : Markers) : Prop where
  multiline : pattern.multiline = true
  closing : ∀ text, pattern.closing.find text = pure ((cutAt? markers.closing text).map
    fun (before, _) => ⟨byteLength before, byteLength before + byteLength markers.closing⟩)
  unopened : ∀ line, '\n' ∉ line → markers.opened? line = none → pattern.opening.find line = pure none
  /-- The opening rule may take more than the opening marker. -/
  opened : ∀ line rest, '\n' ∉ line → markers.opened? line = some rest →
    ∃ taken left single, line = taken ++ left ∧
      pattern.opening.find line = pure (some ⟨0, byteLength taken⟩) ∧
      Span.singleLineEnd pattern line = pure single ∧
      markers.endOnLine? line rest =
        (single <|> (cutAt? markers.closing left).map fun (_, rest) => Markers.columnOfRest line rest)

namespace Span

open Markers (columnOfRest firstClosing?)

theorem columnOf_append (before after : Text) :
    columnOf (before ++ after) (byteLength before) = pure before.length := by
  rw [columnOf, takeBytes?_append]
  rfl

/-- The column just past a marker is where the rest of the line begins. -/
theorem columnOf_rest {line before rest : Text} (whole : line = before ++ rest) :
    columnOf line (byteLength before) = pure (columnOfRest line rest) := by
  rw [whole, columnOf_append, columnOfRest, List.length_append, Nat.add_sub_cancel]

/-- The column of a marker is found by passing over the white space behind a part of the line. -/
theorem markerColumn_append (before rest : Text) :
    markerColumn (before ++ rest) (byteLength before) =
      pure (before.length + (rest.takeWhile isBlank).length) := by
  have column := columnOf_append (before ++ rest.takeWhile isBlank) (rest.dropWhile isBlank)
  rw [List.append_assoc, List.takeWhile_append_dropWhile, List.length_append] at column
  rw [markerColumn, dropBytes?_append, Trial.ofOption_some, Trial.pure_bind, ← byteLength_append]
  exact column

/-- From the start of the line, the marker stands after all white space. -/
theorem markerColumn_zero (line : Text) :
    markerColumn line 0 = pure (line.takeWhile isBlank).length := by
  have column := markerColumn_append [] line
  rwa [List.length_nil, Nat.zero_add] at column

variable {pattern : Pattern} {markers : Markers}

/-- A later line ends a block just past its first closing marker. -/
theorem findClosing_finds (finds : pattern.Finds markers) (lines : List Text) :
    findClosing pattern.closing lines = pure none ∧ firstClosing? markers.closing lines = none ∨
      ∃ before last stop column, findClosing pattern.closing lines = pure (some (before, last, stop)) ∧
        columnOf last stop = pure column ∧
        firstClosing? markers.closing lines = some (before, column) := by
  induction lines with
  | nil => exact Or.inl ⟨rfl, rfl⟩
  | cons line lines ih =>
      rw [findClosing, finds.closing line, firstClosing?]
      cases cut : cutAt? markers.closing line with
      | some place =>
          obtain ⟨front, rest⟩ := place
          refine Or.inr ⟨0, line, _, _, rfl, ?_, rfl⟩
          dsimp only
          rw [← byteLength_append]
          exact columnOf_rest (of_cutAt? cut)
      | none =>
          rcases ih with ⟨searched, none⟩ | ⟨before, last, stop, column, searched, located, first⟩
          · exact Or.inl ⟨by simp [searched], by rw [none]; rfl⟩
          · refine Or.inr ⟨before + 1, last, stop, column, ?_, located, by rw [first]; rfl⟩
            simp [searched]

/-- Where a block ends that is not closed by the pattern's own rule for single lines. -/
theorem closingOf_finds (finds : pattern.Finds markers) {line taken left : Text}
    (whole : line = taken ++ left) (later : List Text) :
    closingOf pattern ⟨0, byteLength taken⟩ line later false = pure
      (match (cutAt? markers.closing left).map fun (_, rest) => columnOfRest line rest with
      | some column => .sameLine column
      | none =>
        match firstClosing? markers.closing later with
        | some (before, column) => .laterLine before column
        | none => .missing) := by
  have cutOff : line.dropBytes? (byteLength taken) = some left := whole ▸ dropBytes?_append taken left
  rw [closingOf, cutOff, Trial.ofOption_some, Trial.pure_bind, finds.closing left, Trial.pure_bind]
  cases cut : cutAt? markers.closing left with
  | some place =>
      obtain ⟨front, rest⟩ := place
      have column :
          columnOf line (byteLength taken + (byteLength front + byteLength markers.closing)) =
            pure (columnOfRest line rest) := by
        rw [← byteLength_append, ← byteLength_append]
        apply columnOf_rest
        rw [whole, of_cutAt? cut, ← List.append_assoc]
      simp [column]
  | none =>
      rcases findClosing_finds finds later with
        ⟨searched, none⟩ | ⟨before, last, stop, column, searched, located, first⟩
      · simp [searched, none]
      · simp [searched, located, first]

/-- The pattern finds the blocks of the syntax. -/
theorem scanPlain_finds (finds : pattern.Finds markers) (index : Nat) (lines : List Text)
    (feedless : ∀ line ∈ lines, '\n' ∉ line) :
    scanPlain pattern index lines = pure (markers.spans index lines) := by
  induction index, lines using scanPlain.induct with
  | case1 index => rw [scanPlain, Markers.spans]
  | case2 index line later next afterBlock =>
      have lineFeedless := feedless line List.mem_cons_self
      have laterFeedless : ∀ line ∈ later, '\n' ∉ line :=
        fun line member => feedless line (List.mem_cons_of_mem _ member)
      rw [scanPlain_cons, Markers.spans]
      cases opens : markers.opened? line with
      | none =>
          rw [finds.unopened line lineFeedless opens, Trial.pure_bind]
          exact next laterFeedless
      | some rest =>
          obtain ⟨taken, left, single, whole, opening, alone, ending⟩ :=
            finds.opened line rest lineFeedless opens
          rw [opening, Trial.pure_bind]
          dsimp only
          rw [markerColumn_zero, Trial.pure_bind, alone, Trial.pure_bind, ending]
          cases single with
          | some endColumn => simp [next laterFeedless]
          | none =>
              dsimp only
              rw [closingOf_finds finds whole, Trial.pure_bind]
              cases (cutAt? markers.closing left).map fun (_, rest) => columnOfRest line rest with
              | some column => simp [next laterFeedless]
              | none =>
                  cases closed : firstClosing? markers.closing later with
                  | none => simpa using next laterFeedless
                  | some place =>
                      obtain ⟨before, column⟩ := place
                      have rest := afterBlock before fun line member =>
                        laterFeedless line (List.mem_of_mem_drop member)
                      simp [rest]

end Span

end DocBlocks
