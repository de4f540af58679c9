/-
This file says on which lines blocks between markers begin and end: an opening line is paired with
the line that closes it, unless it lies inside of another block or nothing closes it.
-/

import DocBlocks.Pattern.Builtin
import DocBlocks.Proofs.Detection.Runs
import DocBlocks.Proofs.Regex.Finding
import DocBlocks.Proofs.Text.Trim

namespace DocBlocks

open Text

/-- The range can be cut out of the line. -/
def ByteRange.Fits (range : ByteRange) (line : Text) : Prop :=
  (line.sliceBytes? range.start range.stop).isSome = true

/-- A range fits a line if it is that of a piece of the line. -/
theorem ByteRange.fits_iff {range : ByteRange} {line : Text} :
    range.Fits line ↔ ∃ before piece after, line = before ++ piece ++ after ∧
      range = ⟨byteLength before, byteLength before + byteLength piece⟩ := by
  constructor
  · intro fits
    obtain ⟨piece, cut⟩ := Option.isSome_iff_exists.mp fits
    obtain ⟨before, after, whole, starts, stops⟩ := of_sliceBytes? cut
    exact ⟨before, piece, after, whole, by rw [← stops, ← starts]⟩
  · rintro ⟨before, piece, after, rfl, rfl⟩
    rw [Fits, sliceBytes?_append]
    rfl

/-- A range that fits ends between two characters of the line. -/
theorem ByteRange.Fits.divides {range : ByteRange} {line : Text} (fits : range.Fits line) :
    ∃ front rest, line = front ++ rest ∧ range.stop = byteLength front := by
  obtain ⟨before, piece, after, whole, rfl⟩ := fits_iff.mp fits
  exact ⟨before ++ piece, after, whole, (byteLength_append _ _).symm⟩

namespace Matcher

/-- The range that the rule names on a line. -/
def found? (matcher : Matcher) (line : Text) : Option ByteRange :=
  (matcher.find line).outcome.join

/-- The rule names a range on the line. -/
def marks (matcher : Matcher) (line : Text) : Bool :=
  (matcher.found? line).isSome

/-- The rule never fails, and the ranges it names can be cut out of the line. -/
def Proper (matcher : Matcher) : Prop :=
  ∀ line, ∃ found, (matcher.find line).outcome = some found ∧
    ∀ range, found = some range → range.Fits line

/-- A rule that returns finds what it answers. -/
theorem found?_of_find {matcher : Matcher} {line : Text} {found : Option ByteRange}
    (answer : (matcher.find line).outcome = some found) : matcher.found? line = found := by
  rw [found?, answer]
  rfl

/-- A rule that returns marks a line exactly if it finds something there. -/
theorem marks_of_find {matcher : Matcher} {line : Text} {found : Option ByteRange}
    (answer : (matcher.find line).outcome = some found) : matcher.marks line = found.isSome := by
  rw [marks, found?_of_find answer]

/-- Expressions name pieces of the line. -/
theorem regex_proper (expression : Regex.Expression) : (regex expression).Proper := by
  intro line
  refine ⟨_, rfl, fun range named => ?_⟩
  obtain ⟨⟨start, stop⟩, found, rfl⟩ := Option.map_eq_some_iff.mp named
  obtain ⟨before, piece, after, whole, rfl, rfl⟩ := Regex.find?_piece found
  exact ByteRange.fits_iff.mpr ⟨before, piece, after, whole, rfl⟩

end Matcher

namespace Pattern

structure Proper (pattern : Pattern) : Prop where
  opening : pattern.opening.Proper
  closing : pattern.closing.Proper
  singleLine : ∀ matcher, pattern.singleLine = some matcher → matcher.Proper

/-- The pattern's rule for single lines takes the line. -/
def closesAlone (pattern : Pattern) (line : Text) : Bool :=
  pattern.singleLine.any fun matcher => matcher.marks line

/-- A closing marker follows the opening marker of the line. -/
def closesBehind (pattern : Pattern) (line : Text) : Bool :=
  match pattern.opening.found? line with
  | none => false
  | some opening => (line.dropBytes? opening.stop).any pattern.closing.marks

variable (pattern : Pattern) (lines : List Text)

/-- A block that opens on the line `first` ends on the line `last`. That is the same line if the
rule for single lines takes it or a closing marker follows the opening one, and otherwise the first
later line with a closing marker. -/
def EndsOn (first last : Nat) : Prop :=
  if markedAt pattern.closesAlone lines first then last = first
  else if markedAt pattern.closesBehind lines first then last = first
  else first < last ∧ markedAt pattern.closing.marks lines last = true ∧
    ∀ index < last, first < index → markedAt pattern.closing.marks lines index = false

/-- Nothing closes a block that opens on the line `first`. -/
structure Unclosed (first : Nat) : Prop where
  alone : markedAt pattern.closesAlone lines first = false
  behind : markedAt pattern.closesBehind lines first = false
  later : ∀ index, first < index → markedAt pattern.closing.marks lines index = false

/-- The spans are those of the blocks on the lines from `index` on. -/
structure Pairs (index : Nat) (spans : List Span) : Prop where
  after : ∀ span ∈ spans, index ≤ span.startLine
  ordered : ∀ span ∈ spans, span.startLine ≤ span.endLine
  apart : spans.Pairwise fun one other => one.endLine < other.startLine
  opened : ∀ span ∈ spans, markedAt pattern.opening.marks lines span.startLine = true
  closed : ∀ span ∈ spans, pattern.EndsOn lines span.startLine span.endLine
  /-- No block is lost. -/
  unclosed : ∀ first, index ≤ first → markedAt pattern.opening.marks lines first = true →
    (∀ span ∈ spans, ¬ (span.startLine ≤ first ∧ first ≤ span.endLine)) →
      pattern.Unclosed lines first

namespace Pairs

variable {pattern : Pattern} {lines : List Text} {index : Nat} {spans : List Span}

/-- There are no blocks behind the last line. -/
theorem none (outside : lines.length ≤ index) : pattern.Pairs lines index [] where
  after := List.forall_mem_nil _
  ordered := List.forall_mem_nil _
  apart := List.Pairwise.nil
  opened := List.forall_mem_nil _
  closed := List.forall_mem_nil _
  unclosed first later opens _ := by
    have inside := lt_of_markedAt opens
    omega

/-- A line may be passed over if nothing closes a block that opens on it. -/
theorem skip (rest : pattern.Pairs lines (index + 1) spans)
    (passed : markedAt pattern.opening.marks lines index = true → pattern.Unclosed lines index) :
    pattern.Pairs lines index spans where
  after span member := Nat.le_of_succ_le (rest.after span member)
  ordered := rest.ordered
  apart := rest.apart
  opened := rest.opened
  closed := rest.closed
  unclosed first later opens outside := by
    rcases Nat.eq_or_lt_of_le later with rfl | beyond
    · exact passed opens
    · exact rest.unclosed first beyond opens outside

/-- After a block, the next one begins behind its last line. -/
theorem cons (span : Span) (rest : pattern.Pairs lines (span.endLine + 1) spans)
    (ordered : span.startLine ≤ span.endLine)
    (opens : markedAt pattern.opening.marks lines span.startLine = true)
    (ends : pattern.EndsOn lines span.startLine span.endLine) :
    pattern.Pairs lines span.startLine (span :: spans) where
  after := List.forall_mem_cons.mpr
    ⟨Nat.le_refl _, fun other member => by have beyond := rest.after other member; omega⟩
  ordered := List.forall_mem_cons.mpr ⟨ordered, rest.ordered⟩
  apart := List.Pairwise.cons rest.after rest.apart
  opened := List.forall_mem_cons.mpr ⟨opens, rest.opened⟩
  closed := List.forall_mem_cons.mpr ⟨ends, rest.closed⟩
  unclosed first later opens outside := by
    obtain ⟨behind, others⟩ := List.forall_mem_cons.mp outside
    exact rest.unclosed first (by omega) opens others

end Pairs

end Pattern

namespace Span

variable {pattern : Pattern}

/-- A block closes on its own line exactly if the search for such an end finds a column. -/
theorem singleLineEnd_closesAlone {line : Text} {single : Option Nat}
    (found : (singleLineEnd pattern line).outcome = some single) :
    pattern.closesAlone line = single.isSome := by
  unfold singleLineEnd at found
  rw [Pattern.closesAlone]
  cases rule : pattern.singleLine with
  | none =>
      rw [rule] at found
      cases found
      rfl
  | some matcher =>
      rw [rule] at found
      obtain ⟨range, searched, found⟩ := Trial.of_bind found
      rw [Option.any_some, Matcher.marks_of_find searched]
      cases range with
      | none =>
          cases found
          rfl
      | some range =>
          obtain ⟨column, _, same⟩ := Trial.of_bind found
          cases same
          rfl

/-- The first of the lines that has a closing marker is found, if there is one. -/
theorem findClosing_first {closing : Matcher} {lines : List Text}
    {place : Option (Nat × Text × Nat)}
    (found : (findClosing closing lines).outcome = some place) :
    match place with
    | none => ∀ index, markedAt closing.marks lines index = false
    | some (before, _, _) => markedAt closing.marks lines before = true ∧
        ∀ index < before, markedAt closing.marks lines index = false := by
  induction lines generalizing place with
  | nil =>
      cases found
      exact fun index => rfl
  | cons line lines ih =>
      rw [findClosing] at found
      obtain ⟨range, searched, found⟩ := Trial.of_bind found
      have marks := Matcher.marks_of_find searched
      cases range with
      | some range =>
          cases found
          exact ⟨marks, fun index inside => absurd inside (Nat.not_lt_zero index)⟩
      | none =>
          obtain ⟨rest, later, same⟩ := Trial.of_bind found
          cases same
          have others := ih later
          cases rest with
          | none =>
              intro index
              cases index with
              | zero => exact marks
              | succ index => exact others index
          | some rest =>
              refine ⟨others.1, fun index inside => ?_⟩
              cases index with
              | zero => exact marks
              | succ index => exact others.2 index (Nat.lt_of_succ_lt_succ inside)

/-- How a block is closed that opens on a line, unless the rule for single lines closes it. -/
theorem closingOf_closes {opening : ByteRange} {line : Text} {later : List Text} {closing : Closing}
    (opened : pattern.opening.found? line = some opening)
    (found : (closingOf pattern opening line later false).outcome = some closing) :
    match closing with
    | .sameLine _ => pattern.closesBehind line = true
    | .laterLine before _ => pattern.closesBehind line = false ∧
        markedAt pattern.closing.marks later before = true ∧
        ∀ index < before, markedAt pattern.closing.marks later index = false
    | .missing => pattern.closesBehind line = false ∧
        ∀ index, markedAt pattern.closing.marks later index = false := by
  unfold closingOf at found
  obtain ⟨remainder, cut, found⟩ := Trial.of_bind found
  obtain ⟨range, searched, found⟩ := Trial.of_bind found
  have behind : pattern.closesBehind line = range.isSome := by
    have cutOff : line.dropBytes? opening.stop = some remainder := cut
    rw [Pattern.closesBehind, opened]
    dsimp only
    rw [cutOff, Option.any_some, Matcher.marks_of_find searched]
  cases range with
  | some range =>
      obtain ⟨column, _, same⟩ := Trial.of_bind found
      cases same
      exact behind
  | none =>
      obtain ⟨place, searched, found⟩ := Trial.of_bind found
      have first := findClosing_first searched
      cases place with
      | none =>
          cases found
          exact ⟨behind, first⟩
      | some place =>
          obtain ⟨column, _, same⟩ := Trial.of_bind found
          cases same
          exact ⟨behind, first⟩

/-- Whatever the rules of the pattern do: if the scan does not fail, then it pairs the opening lines
with the lines that close them. -/
theorem scanPlain_pairs (whole : List Text) (index : Nat) (lines : List Text)
    (onward : whole.drop index = lines) (spans : List Span)
    (found : (scanPlain pattern index lines).outcome = some spans) :
    pattern.Pairs whole index spans := by
  induction index, lines using scanPlain.induct generalizing spans with
  | case1 index =>
      rw [scanPlain] at found
      cases found
      exact .none (List.drop_eq_nil_iff.mp onward)
  | case2 index line later next afterBlock =>
      have tail : whole.drop (index + 1) = later := by rw [← List.tail_drop, onward]; rfl
      have here (marked : Text → Bool) : markedAt marked whole index = marked line := by
        rw [← Nat.add_zero index, ← markedAt_drop, onward]
        rfl
      have beyond (marked : Text → Bool) (count : Nat) :
          markedAt marked whole (index + 1 + count) = markedAt marked later count := by
        rw [← tail, markedAt_drop]
      rw [scanPlain_cons] at found
      obtain ⟨range, searched, found⟩ := Trial.of_bind found
      have opens : markedAt pattern.opening.marks whole index = range.isSome :=
        (here _).trans (Matcher.marks_of_find searched)
      cases range with
      | none => exact (next tail spans found).skip fun marks => by cases opens.symm.trans marks
      | some opening =>
          obtain ⟨column, _, found⟩ := Trial.of_bind found
          obtain ⟨single, looked, found⟩ := Trial.of_bind found
          have alone := (here _).trans (singleLineEnd_closesAlone looked)
          cases single with
          | some endColumn =>
              obtain ⟨others, scanned, same⟩ := Trial.of_bind found
              cases same
              have ends : pattern.EndsOn whole index index := by simp [Pattern.EndsOn, alone]
              exact .cons ⟨index, column, index, endColumn⟩ (next tail others scanned)
                (Nat.le_refl index) opens ends
          | none =>
              obtain ⟨closing, placed, found⟩ := Trial.of_bind found
              have closes := closingOf_closes (Matcher.found?_of_find searched) placed
              cases closing with
              | sameLine endColumn =>
                  obtain ⟨others, scanned, same⟩ := Trial.of_bind found
                  cases same
                  have behind := (here _).trans closes
                  have ends : pattern.EndsOn whole index index := by
                    simp [Pattern.EndsOn, alone, behind]
                  exact .cons ⟨index, column, index, endColumn⟩ (next tail others scanned)
                    (Nat.le_refl index) opens ends
              | laterLine before endColumn =>
                  obtain ⟨others, scanned, same⟩ := Trial.of_bind found
                  cases same
                  obtain ⟨notBehind, marks, unmarked⟩ := closes
                  have behind := (here _).trans notBehind
                  have ends : pattern.EndsOn whole index (index + 1 + before) := by
                    rw [Pattern.EndsOn, alone, behind]
                    refine ⟨by omega, (beyond _ before).trans marks, fun other inside after => ?_⟩
                    rw [← Nat.add_sub_cancel' after, beyond]
                    exact unmarked _ (by omega)
                  have further : whole.drop (index + 1 + before + 1) = later.drop (before + 1) := by
                    rw [← tail, List.drop_drop, Nat.add_assoc (index + 1)]
                  exact .cons ⟨index, column, index + 1 + before, endColumn⟩
                    (afterBlock before further others scanned) (by simp only; omega) opens ends
              | missing =>
                  obtain ⟨notBehind, unmarked⟩ := closes
                  refine (next tail spans found).skip fun _ => ⟨alone, (here _).trans notBehind, ?_⟩
                  intro other after
                  rw [← Nat.add_sub_cancel' after, beyond]
                  exact unmarked _

/-- A column is found wherever a line can be divided. -/
theorem columnOf_returns {line before after : Text} (whole : line = before ++ after) :
    (columnOf line (byteLength before)).outcome.isSome = true := by
  rw [whole, columnOf_append]
  rfl

/-- The column of a marker that fits the line is found. -/
theorem markerColumn_returns {line : Text} {range : ByteRange} (fits : range.Fits line) :
    (markerColumn line range.start).outcome.isSome = true := by
  obtain ⟨before, piece, after, whole, rfl⟩ := ByteRange.fits_iff.mp fits
  rw [whole, List.append_assoc, markerColumn_append]
  rfl

/-- The column after the last visible character of a marker that fits the line is found. -/
theorem trimmedColumn_returns {line : Text} {range : ByteRange} (fits : range.Fits line) :
    (trimmedColumn line range).outcome.isSome = true := by
  obtain ⟨before, piece, after, whole, rfl⟩ := ByteRange.fits_iff.mp fits
  obtain ⟨blanks, trimmed, _⟩ := exists_blanks piece
  have visible : line = (before ++ trimEnd piece) ++ (blanks ++ after) := by
    rw [List.append_assoc, ← List.append_assoc _ blanks, ← trimmed, ← List.append_assoc]
    exact whole
  rw [trimmedColumn, whole, sliceBytes?_append, Trial.ofOption_some, Trial.pure_bind,
    ← byteLength_append, ← whole]
  exact columnOf_returns visible

/-- A proper pattern can tell for any line whether a block ends on it. -/
theorem singleLineEnd_returns (proper : pattern.Proper) (line : Text) :
    (singleLineEnd pattern line).outcome.isSome = true := by
  unfold singleLineEnd
  cases rule : pattern.singleLine with
  | none => rfl
  | some matcher =>
      obtain ⟨found, answer, fits⟩ := proper.singleLine matcher rule line
      refine Trial.bind_returns (by rw [answer]; rfl) fun value same => ?_
      cases answer.symm.trans same
      cases found with
      | none => rfl
      | some range => exact Trial.bind_returns (trimmedColumn_returns (fits range rfl)) fun _ _ => rfl

/-- The search for a closing marker does not fail, and neither does a cut behind the marker. -/
theorem findClosing_returns {closing : Matcher} (proper : closing.Proper) (lines : List Text) :
    ∃ place, (findClosing closing lines).outcome = some place ∧
      ∀ before last stop, place = some (before, last, stop) →
        (columnOf last stop).outcome.isSome = true := by
  induction lines with
  | nil => exact ⟨none, rfl, fun _ _ _ same => nomatch same⟩
  | cons line lines ih =>
      obtain ⟨found, answer, fits⟩ := proper line
      rw [findClosing, Trial.bind_outcome, answer, Option.bind_some]
      cases found with
      | some range =>
          refine ⟨_, rfl, fun before last stop same => ?_⟩
          cases same
          obtain ⟨front, rest, whole, stops⟩ := (fits range rfl).divides
          rw [stops]
          exact columnOf_returns whole
      | none =>
          obtain ⟨place, searched, cuts⟩ := ih
          refine ⟨_, by rw [Trial.bind_outcome, searched]; rfl, fun before last stop same => ?_⟩
          obtain ⟨⟨count, line, offset⟩, known, shifted⟩ := Option.map_eq_some_iff.mp same
          cases shifted
          exact cuts _ _ _ known

/-- A proper pattern can tell for any opening marker where its block ends. -/
theorem closingOf_returns (proper : pattern.Proper) {opening : ByteRange} {line : Text}
    (fits : opening.Fits line) (later : List Text) (noneLater : Bool) :
    (closingOf pattern opening line later noneLater).outcome.isSome = true := by
  obtain ⟨front, rest, whole, stops⟩ := fits.divides
  have remainder : line.dropBytes? opening.stop = some rest := by
    rw [stops, whole, dropBytes?_append]
  obtain ⟨found, answer, cuts⟩ := proper.closing rest
  rw [closingOf, remainder, Trial.ofOption_some, Trial.pure_bind]
  refine Trial.bind_returns (by rw [answer]; rfl) fun value same => ?_
  cases answer.symm.trans same
  cases found with
  | some range =>
      obtain ⟨inner, last, divided, ends⟩ := (cuts range rfl).divides
      refine Trial.bind_returns ?_ fun _ _ => rfl
      rw [stops, ends, ← byteLength_append]
      apply columnOf_returns
      rw [List.append_assoc, ← divided]
      exact whole
  | none =>
      obtain ⟨place, searched, columns⟩ :=
        findClosing_returns proper.closing (if noneLater then [] else later)
      refine Trial.bind_returns (by rw [searched]; rfl) fun value same => ?_
      cases searched.symm.trans same
      cases place with
      | none => rfl
      | some place =>
          obtain ⟨before, last, stop⟩ := place
          exact Trial.bind_returns (columns before last stop rfl) fun _ _ => rfl

/-- The scan does not fail if none of the rules does. -/
theorem scanPlain_returns (proper : pattern.Proper) (index : Nat) (lines : List Text) :
    (scanPlain pattern index lines).outcome.isSome = true := by
  induction index, lines using scanPlain.induct with
  | case1 index =>
      rw [scanPlain]
      rfl
  | case2 index line later next afterBlock =>
      obtain ⟨found, answer, fits⟩ := proper.opening line
      rw [scanPlain_cons]
      refine Trial.bind_returns (by rw [answer]; rfl) fun value same => ?_
      cases answer.symm.trans same
      cases found with
      | none => exact next
      | some opening =>
          have opens := fits opening rfl
          refine Trial.bind_returns (markerColumn_returns opens) fun column _ => ?_
          refine Trial.bind_returns (singleLineEnd_returns proper line) fun single _ => ?_
          cases single with
          | some endColumn => exact Trial.bind_returns next fun _ _ => rfl
          | none =>
              refine Trial.bind_returns (closingOf_returns proper opens later false) fun closing _ => ?_
              cases closing with
              | sameLine endColumn => exact Trial.bind_returns next fun _ _ => rfl
              | laterLine before endColumn =>
                  exact Trial.bind_returns (afterBlock before) fun _ _ => rfl
              | missing => exact next

/-- A scan with rules that do not fail finds blocks that lie one after another. Each of them begins
on an opening line and ends on the line that closes it, and only opening lines that nothing closes
are outside of all of them. -/
theorem scanBlocks_pairs (pattern : Pattern) (proper : pattern.Proper) (lines : List Text) :
    ∃ spans, (scanBlocks pattern false 0 lines).outcome = some spans ∧
      pattern.Pairs lines 0 spans := by
  rw [(scanBlocks_alike pattern false 0 lines false fun vain => nomatch vain).eq]
  obtain ⟨spans, found⟩ := Option.isSome_iff_exists.mp (scanPlain_returns proper 0 lines)
  exact ⟨spans, found, scanPlain_pairs lines 0 lines rfl spans found⟩

/-- One string ends by the rule for single lines, one with quotes behind the opening ones, and one
on a later line. The last one is never closed. -/
theorem scanBlocks_pairs_strings :
    let pattern := Pattern.tripleQuotes "strings" "\"\"\""
    let lines : List Text := ["\"\"\"a\"\"\"".toList, "  r\"\"\"b\"\"\" c".toList, "\"\"\"d".toList,
      "e".toList, "f\"\"\" g".toList, "\"\"\"h".toList]
    let spans : List Span := [⟨0, 0, 0, 7⟩, ⟨1, 2, 1, 10⟩, ⟨2, 0, 4, 4⟩]
    pattern.Proper ∧ (scanBlocks pattern false 0 lines).outcome = some spans ∧
      pattern.Pairs lines 0 spans ∧ pattern.Unclosed lines 5 := by
  intro pattern lines spans
  have proper : pattern.Proper :=
    ⟨Matcher.regex_proper _, Matcher.regex_proper _, fun _ rule => by
      cases rule
      exact Matcher.regex_proper _⟩
  have scanned : (scanBlocks pattern false 0 lines).outcome = some spans := by decide +kernel
  obtain ⟨others, found, pairs⟩ := scanBlocks_pairs pattern proper lines
  cases scanned.symm.trans found
  exact ⟨proper, scanned, pairs, pairs.unclosed 5 (by decide) (by decide +kernel) (by decide)⟩

end Span

end DocBlocks
