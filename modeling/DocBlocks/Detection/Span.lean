/-
This file finds where blocks begin and end, one pattern at a time.
-/

import DocBlocks.Pattern.Basic
import DocBlocks.Text.Slice

namespace DocBlocks

/-- The place of a block in the lines of a text. -/
structure Span where
  startLine : Nat
  startColumn : Nat
  endLine : Nat
  endColumn : Nat
deriving DecidableEq, Repr

namespace Span

/-- The number of characters before a byte offset. -/
def columnOf (line : Text) (offset : Nat) : Trial Nat :=
  return (← Trial.ofOption (line.takeBytes? offset)).length

/-- The column of the first character at or after a byte offset that is not white space. -/
def markerColumn (line : Text) (offset : Nat) : Trial Nat := do
  let rest ← Trial.ofOption (line.dropBytes? offset)
  columnOf line (offset + Text.byteLength (rest.takeWhile Text.isBlank))

/-- The column after a range of the line without the white space at its end. -/
def trimmedColumn (line : Text) (range : ByteRange) : Trial Nat := do
  let matched ← Trial.ofOption (line.sliceBytes? range.start range.stop)
  columnOf line (range.start + matched.trimEnd.byteLength)

/-- The first of the lines that has a closing marker: how many lines stand before it, and the
column after the marker. -/
def findClosing (closing : Matcher) : List Text → Trial (Option (Nat × Text × Nat))
  | [] => pure none
  | line :: lines => do
    match ← closing.find line with
    | some range => pure (some (0, line, range.stop))
    | none =>
      return (← findClosing closing lines).map fun (before, line, stop) => (before + 1, line, stop)

/-- Where a block that opens on the first line is closed. -/
inductive Closing where
  | sameLine (column : Nat)
  | laterLine (before : Nat) (column : Nat)
  | missing

/-- Looks for the end of a block that opens on `line`. The lines after it are left out of the
search if it is known that none of them has a closing marker. -/
def closingOf (pattern : Pattern) (opening : ByteRange) (line : Text) (later : List Text)
    (noneLater : Bool) : Trial Closing := do
  let remainder ← Trial.ofOption (line.dropBytes? opening.stop)
  match ← pattern.closing.find remainder with
  | some range => return .sameLine (← columnOf line (opening.stop + range.stop))
  | none =>
    match ← findClosing pattern.closing (if noneLater then [] else later) with
    | some (before, last, stop) => return .laterLine before (← columnOf last stop)
    | none => return .missing

/-- The end column of a block that opens and closes on one line by the pattern's own rule. -/
def singleLineEnd (pattern : Pattern) (line : Text) : Trial (Option Nat) :=
  match pattern.singleLine with
  | none => pure none
  | some matcher => do
    match ← matcher.find line with
    | some range => return some (← trimmedColumn line range)
    | none => pure none

/-- The blocks between opening and closing markers. After a search to the end of the text in vain,
`noneLater` keeps later openings from searching again. -/
def scanBlocks (pattern : Pattern) (noneLater : Bool) (index : Nat) :
    List Text → Trial (List Span)
  | [] => pure []
  | line :: later => do
    match ← pattern.opening.find line with
    | none => scanBlocks pattern noneLater (index + 1) later
    | some opening =>
      let column ← markerColumn line opening.start
      match ← singleLineEnd pattern line with
      | some endColumn =>
        return ⟨index, column, index, endColumn⟩ ::
          (← scanBlocks pattern noneLater (index + 1) later)
      | none =>
        match ← closingOf pattern opening line later noneLater with
        | .sameLine endColumn =>
          return ⟨index, column, index, endColumn⟩ ::
            (← scanBlocks pattern noneLater (index + 1) later)
        | .laterLine before endColumn =>
          let endLine := index + 1 + before
          return ⟨index, column, endLine, endColumn⟩ ::
            (← scanBlocks pattern noneLater (endLine + 1) (later.drop (before + 1)))
        | .missing => scanBlocks pattern true (index + 1) later
termination_by lines => lines.length
decreasing_by all_goals simp; try omega

/-- How many of the lines, from the first on, have the opening marker, and the last of these. -/
def runLength (opening : Matcher) (last : Text) : List Text → Trial (Nat × Text)
  | [] => pure (0, last)
  | line :: lines => do
    if ← opening.isMatch line then
      return (fun (count, last) => (count + 1, last)) (← runLength opening line lines)
    else pure (0, last)

/-- The runs of lines that all have the opening marker. -/
def scanRuns (pattern : Pattern) (index : Nat) : List Text → Trial (List Span)
  | [] => pure []
  | line :: later => do
    match ← pattern.opening.find line with
    | none => scanRuns pattern (index + 1) later
    | some opening =>
      let (more, last) ← runLength pattern.opening line later
      let column ← markerColumn line opening.start
      return ⟨index, column, index + more, last.trimEnd.length⟩ ::
        (← scanRuns pattern (index + more + 1) (later.drop more))
termination_by lines => lines.length
decreasing_by all_goals simp; try omega

/-- The blocks one pattern finds. -/
def scan (pattern : Pattern) (lines : List Text) : Trial (List Span) :=
  if pattern.multiline then scanBlocks pattern false 0 lines else scanRuns pattern 0 lines

end Span

end DocBlocks
