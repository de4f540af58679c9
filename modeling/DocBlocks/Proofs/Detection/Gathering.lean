/-
This file shows that a pattern which goes from line to line finds the maximal runs of the lines that
its opening rule matches, wherever on these lines the rule finds its marker.
-/

import DocBlocks.Proofs.Detection.Pairing
import DocBlocks.Proofs.Detection.Within

namespace DocBlocks

namespace Text

/-- The column is that of the first visible character after so many bytes of the line, or that of
the end of the line if only white space comes after them. -/
def VisibleFrom (line : Text) (offset column : Nat) : Prop :=
  ∃ before blanks rest, line = before ++ (blanks ++ rest) ∧ byteLength before = offset ∧
    allBlank blanks = true ∧ rest.head?.any isBlank = false ∧
    column = before.length + blanks.length

/-- The column is that of the end of the line without the white space that stands there. -/
def VisibleTo (line : Text) (column : Nat) : Prop :=
  ∃ kept blanks, line = kept ++ blanks ∧ (kept = [] ∨ Solid kept) ∧ allBlank blanks = true ∧
    column = kept.length

/-- A line without the white space at its end is as long as what can be seen of it. -/
theorem visibleTo_trimEnd (line : Text) : VisibleTo line (trimEnd line).length := by
  obtain ⟨blanks, whole, blank⟩ := exists_blanks line
  refine ⟨trimEnd line, blanks, whole, ?_, List.all_eq_true.mpr blank, rfl⟩
  cases visible : allBlank line with
  | true => exact Or.inl (trimEnd_blank visible)
  | false => exact Or.inr (solid_trimEnd visible)

end Text

open Text

namespace Matcher

/-- The rule never fails, and no range that it names begins outside of the line or inside of a
character. -/
def Aligned (matcher : Matcher) : Prop :=
  ∀ line, ∃ found, (matcher.find line).outcome = some found ∧
    ∀ range, found = some range → (line.dropBytes? range.start).isSome = true

/-- Every expression is such a rule. -/
theorem regex_aligned (expression : Regex.Expression) : (regex expression).Aligned := by
  intro line
  obtain ⟨found, answer, fits⟩ := regex_proper expression line
  refine ⟨found, answer, fun range named => ?_⟩
  obtain ⟨before, piece, after, whole, rfl⟩ := ByteRange.fits_iff.mp (fits range named)
  rw [whole, List.append_assoc, dropBytes?_append]
  rfl

/-- A rule matches a line if it finds something there, and fails where it fails to search. -/
theorem isMatch_outcome (matcher : Matcher) (line : Text) :
    (matcher.isMatch line).outcome = (matcher.find line).outcome.map Option.isSome := by
  rw [isMatch, Trial.bind_outcome]
  cases (matcher.find line).outcome <;> rfl

/-- A rule that answers at all answers whether it marks the line. -/
theorem marks_of_isMatch {matcher : Matcher} {line : Text} {matched : Bool}
    (answer : (matcher.isMatch line).outcome = some matched) : matcher.marks line = matched := by
  rw [isMatch_outcome] at answer
  obtain ⟨found, searched, rfl⟩ := Option.map_eq_some_iff.mp answer
  exact marks_of_find searched

end Matcher

namespace MaximalRun

variable {marked : Text → Bool} {lines : List Text} {first last : Nat}

/-- Runs that have a line in common are one run. -/
theorem eq_of_shared (run : MaximalRun marked lines first last) {start stop index : Nat}
    (other : MaximalRun marked lines start stop) (inside : first ≤ index ∧ index ≤ last)
    (shared : start ≤ index ∧ index ≤ stop) : first = start ∧ last = stop := by
  have same : first = start := by
    rcases Nat.lt_trichotomy first start with before | same | after
    · have apart := run.apart other before
      omega
    · exact same
    · have apart := other.apart run after
      omega
  subst same
  exact ⟨rfl, run.unique other⟩

end MaximalRun

namespace Pattern

variable (pattern : Pattern) (lines : List Text)

/-- The span is a maximal run of lines that match. It begins at the first visible character from the
marker of its first line on, and it ends at the last visible character of its last line. -/
structure Gathers (span : Span) : Prop where
  run : MaximalRun pattern.opening.marks lines span.startLine span.endLine
  start : ∃ line range, lines[span.startLine]? = some line ∧
    pattern.opening.found? line = some range ∧ VisibleFrom line range.start span.startColumn
  stop : ∃ line, lines[span.endLine]? = some line ∧ VisibleTo line span.endColumn

/-- The spans are all the runs on the lines from `index` on, and no two of them touch. -/
structure GathersFrom (index : Nat) (spans : List Span) : Prop where
  after : ∀ span ∈ spans, index ≤ span.startLine
  each : ∀ span ∈ spans, pattern.Gathers lines span
  apart : spans.Pairwise fun one other => one.endLine + 1 < other.startLine
  covered : ∀ line, index ≤ line → markedAt pattern.opening.marks lines line = true →
    ∃ span ∈ spans, span.startLine ≤ line ∧ line ≤ span.endLine

namespace GathersFrom

variable {pattern : Pattern} {lines : List Text} {index : Nat} {spans : List Span}

theorem none (outside : lines.length ≤ index) : pattern.GathersFrom lines index [] where
  after := List.forall_mem_nil _
  each := List.forall_mem_nil _
  apart := List.Pairwise.nil
  covered line later matched := by
    have inside := lt_of_markedAt matched
    omega

/-- A line that does not match is passed over. -/
theorem skip (unmatched : markedAt pattern.opening.marks lines index = false)
    (rest : pattern.GathersFrom lines (index + 1) spans) : pattern.GathersFrom lines index spans where
  after span member := Nat.le_of_succ_le (rest.after span member)
  each := rest.each
  apart := rest.apart
  covered line later matched := by
    have different : line ≠ index := by
      rintro rfl
      cases unmatched.symm.trans matched
    exact rest.covered line (by omega) matched

/-- The line right after a run does not match, so that the next run begins behind that line. -/
theorem cons (span : Span) (gathers : pattern.Gathers lines span)
    (rest : pattern.GathersFrom lines (span.endLine + 1) spans) :
    pattern.GathersFrom lines span.startLine (span :: spans) where
  after := by
    refine List.forall_mem_cons.mpr ⟨Nat.le_refl _, fun other member => ?_⟩
    have ordered := gathers.run.ordered
    have beyond := rest.after other member
    omega
  each := List.forall_mem_cons.mpr ⟨gathers, rest.each⟩
  apart := by
    refine List.Pairwise.cons (fun other member => ?_) rest.apart
    refine Nat.lt_of_le_of_ne (rest.after other member) fun adjacent => ?_
    have matched := (rest.each other member).run.first_marked
    rw [← adjacent] at matched
    cases gathers.run.after.symm.trans matched
  covered line later matched := by
    by_cases inside : line ≤ span.endLine
    · exact ⟨span, List.mem_cons_self, later, inside⟩
    · obtain ⟨other, member, holds⟩ := rest.covered line (by omega) matched
      exact ⟨other, List.mem_cons_of_mem _ member, holds⟩

/-- One of the runs lies behind another, and a line that does not match lies between them. -/
theorem divided (gathers : pattern.GathersFrom lines index spans) :
    spans.Pairwise fun one other => ∃ line, one.endLine < line ∧ line < other.startLine ∧
      markedAt pattern.opening.marks lines line = false := by
  refine gathers.apart.imp_of_mem fun {one other} member _ apart => ?_
  exact ⟨one.endLine + 1, Nat.lt_succ_self _, apart, (gathers.each one member).run.after⟩

/-- The lines of the runs are those that match. -/
theorem covered_iff (gathers : pattern.GathersFrom lines 0 spans) (line : Nat) :
    (∃ span ∈ spans, span.startLine ≤ line ∧ line ≤ span.endLine) ↔
      markedAt pattern.opening.marks lines line = true := by
  constructor
  · rintro ⟨span, member, later, inside⟩
    exact (gathers.each span member).run.inside line inside later
  · exact gathers.covered line (Nat.zero_le line)

/-- No maximal run is left out. -/
theorem complete (gathers : pattern.GathersFrom lines 0 spans) {first last : Nat}
    (run : MaximalRun pattern.opening.marks lines first last) :
    ∃ span ∈ spans, span.startLine = first ∧ span.endLine = last := by
  obtain ⟨span, member, holds⟩ := gathers.covered first (Nat.zero_le first) run.first_marked
  exact ⟨span, member,
    (gathers.each span member).run.eq_of_shared run holds ⟨Nat.le_refl first, run.ordered⟩⟩

end GathersFrom

end Pattern

namespace Span

variable {pattern : Pattern}

/-- The column of a marker has nothing but white space before it, from the offset on. -/
theorem markerColumn_visible {line : Text} {offset column : Nat}
    (found : (markerColumn line offset).outcome = some column) : VisibleFrom line offset column := by
  obtain ⟨rest, cut, _⟩ := Trial.of_bind found
  obtain ⟨before, rfl, rfl⟩ := of_dropBytes? cut
  rw [markerColumn_append] at found
  refine ⟨before, rest.takeWhile isBlank, rest.dropWhile isBlank, ?_, rfl, ?_, ?_, ?_⟩
  · rw [List.takeWhile_append_dropWhile]
  · exact List.all_eq_true.mpr fun _ member => List.mem_takeWhile_imp member
  · have visible := List.head?_dropWhile_not isBlank rest
    cases shape : rest.dropWhile isBlank with
    | nil => rfl
    | cons first others => simpa [shape] using visible
  · exact (Option.some.inj found).symm

/-- As many lines are counted as match one after another. -/
theorem runLength_count {opening : Matcher} {first last : Text} {lines : List Text} {count : Nat}
    (found : (runLength opening first lines).outcome = some (count, last)) :
    count = (lines.takeWhile opening.marks).length := by
  induction lines generalizing first count with
  | nil =>
      cases found
      rfl
  | cons line lines ih =>
      rw [runLength] at found
      obtain ⟨matched, answer, found⟩ := Trial.of_bind found
      have marks := Matcher.marks_of_isMatch answer
      cases matched with
      | false =>
          cases found
          rw [List.takeWhile_cons_of_neg (by simp [marks])]
          rfl
      | true =>
          obtain ⟨⟨more, other⟩, later, same⟩ := Trial.of_bind found
          cases same
          rw [List.takeWhile_cons_of_pos marks, List.length_cons, ← ih later]

/-- Whatever the rule of the pattern does: if the scan does not fail, then it gathers the runs, as
long as it does not begin inside of one. -/
theorem scanRuns_gathers (whole : List Text) (index : Nat) (lines : List Text)
    (onward : whole.drop index = lines) (severed : Severed pattern.opening.marks whole index)
    (spans : List Span) (found : (scanRuns pattern index lines).outcome = some spans) :
    pattern.GathersFrom whole index spans := by
  induction index, lines using scanRuns.induct generalizing spans with
  | case1 index =>
      rw [scanRuns] at found
      cases found
      exact .none (List.drop_eq_nil_iff.mp onward)
  | case2 index line later next afterRun =>
      have tail : whole.drop (index + 1) = later := by rw [← List.tail_drop, onward]; rfl
      have reached (count : Nat) : whole[index + count]? = (line :: later)[count]? := by
        rw [← onward, List.getElem?_drop]
      rw [scanRuns] at found
      obtain ⟨range, searched, found⟩ := Trial.of_bind found
      have matched : markedAt pattern.opening.marks whole index = range.isSome := by
        rw [markedAt, ← Nat.add_zero index, reached]
        exact Matcher.marks_of_find searched
      cases range with
      | none => exact (next tail (Severed.succ matched) spans found).skip matched
      | some opening =>
          obtain ⟨⟨more, last⟩, counted, found⟩ := Trial.of_bind found
          obtain ⟨column, marked, found⟩ := Trial.of_bind found
          obtain ⟨others, scanned, same⟩ := Trial.of_bind found
          cases same
          have run : MaximalRun pattern.opening.marks whole index (index + more) := by
            rw [runLength_count counted, ← tail]
            exact MaximalRun.of_takeWhile severed matched
          have further : whole.drop (index + more + 1) = later.drop more := by
            rw [← tail, List.drop_drop, Nat.add_right_comm]
          -- The scan goes on at the line after the run. That line does not match, so it is inside
          -- of no run.
          refine .cons ⟨index, column, index + more, last.trimEnd.length⟩ ⟨run, ?_, ?_⟩
            (afterRun more further (Severed.of_unmarked run.after) others scanned)
          · exact ⟨line, opening, reached 0, Matcher.found?_of_find searched,
              markerColumn_visible marked⟩
          · exact ⟨last, (reached more).trans (runLength_line counted), visibleTo_trimEnd last⟩

/-- The runs that a scan finds are those of the lines with the marker. -/
theorem gathers_of_scanRuns {lines : List Text} {spans : List Span}
    (found : (scanRuns pattern 0 lines).outcome = some spans) : pattern.GathersFrom lines 0 spans :=
  scanRuns_gathers lines 0 lines rfl (fun positive => absurd positive (Nat.lt_irrefl 0)) spans found

/-- The length of a run is found if the rule does not fail. -/
theorem runLength_returns {opening : Matcher} (aligned : opening.Aligned) (first : Text)
    (lines : List Text) : (runLength opening first lines).outcome.isSome = true := by
  induction lines generalizing first with
  | nil => rfl
  | cons line lines ih =>
      obtain ⟨found, answer, _⟩ := aligned line
      rw [runLength]
      refine Trial.bind_returns (by rw [Matcher.isMatch_outcome, answer]; rfl) fun matched _ => ?_
      cases matched with
      | false => rfl
      | true => exact Trial.bind_returns (ih line) fun _ _ => rfl

/-- The scan does not fail if the rule never does. -/
theorem scanRuns_returns (aligned : pattern.opening.Aligned) (index : Nat) (lines : List Text) :
    (scanRuns pattern index lines).outcome.isSome = true := by
  induction index, lines using scanRuns.induct with
  | case1 index =>
      rw [scanRuns]
      rfl
  | case2 index line later next afterRun =>
      obtain ⟨found, answer, begins⟩ := aligned line
      rw [scanRuns]
      refine Trial.bind_returns (by rw [answer]; rfl) fun value same => ?_
      cases answer.symm.trans same
      cases found with
      | none => exact next
      | some opening =>
          refine Trial.bind_returns (runLength_returns aligned line later) fun counted _ => ?_
          have measured : (markerColumn line opening.start).outcome.isSome = true := by
            obtain ⟨rest, cut⟩ := Option.isSome_iff_exists.mp (begins opening rfl)
            obtain ⟨before, rfl, starts⟩ := of_dropBytes? cut
            rw [starts, markerColumn_append]
            rfl
          exact Trial.bind_returns measured fun _ _ =>
            Trial.bind_returns (afterRun counted.1) fun _ _ => rfl

/-- A scan from line to line finds just the maximal runs of the lines that match, in order and with
a line that does not match between any two of them. -/
theorem scanRuns_maximal (pattern : Pattern) (aligned : pattern.opening.Aligned)
    (lines : List Text) :
    ∃ spans, (scanRuns pattern 0 lines).outcome = some spans ∧
      (∀ line, (∃ span ∈ spans, span.startLine ≤ line ∧ line ≤ span.endLine) ↔
        markedAt pattern.opening.marks lines line = true) ∧
      (spans.Pairwise fun one other => ∃ line, one.endLine < line ∧ line < other.startLine ∧
        markedAt pattern.opening.marks lines line = false) ∧
      (∀ span ∈ spans, pattern.Gathers lines span) ∧
      ∀ first last, MaximalRun pattern.opening.marks lines first last →
        ∃ span ∈ spans, span.startLine = first ∧ span.endLine = last := by
  obtain ⟨spans, found⟩ := Option.isSome_iff_exists.mp (scanRuns_returns aligned 0 lines)
  have gathers := gathers_of_scanRuns found
  exact ⟨spans, found, gathers.covered_iff, gathers.divided, gathers.each,
    fun first last run => gathers.complete run⟩

/-- The rule takes a white space with a hash or the end of the line behind it. The run in the middle
is one line, visible only before the marker, and the last run goes to the end of the lines. -/
theorem scanRuns_maximal_trailing :
    let opening : Matcher := .regex ⟨"\\s(#|$)", Regex.sequence
      [Regex.one .blank, .either (Regex.literal '#') (Regex.look .textEnd)]⟩
    let pattern : Pattern := ⟨"hashes", "notes", opening, opening, none, false, .linePrefix⟩
    let lines : List Text := ["é  # a".toList, "b ".toList, "c".toList, "ü  ".toList, "".toList,
      " # d".toList, "e #".toList]
    let spans : List Span := [⟨0, 3, 1, 1⟩, ⟨3, 3, 3, 1⟩, ⟨5, 1, 6, 3⟩]
    opening.Aligned ∧ (scanRuns pattern 0 lines).outcome = some spans ∧
      (∀ line, (∃ span ∈ spans, span.startLine ≤ line ∧ line ≤ span.endLine) ↔
        markedAt opening.marks lines line = true) ∧
      ∀ span ∈ spans, pattern.Gathers lines span := by
  intro opening pattern lines spans
  have aligned : opening.Aligned := Matcher.regex_aligned _
  have scanned : (scanRuns pattern 0 lines).outcome = some spans := by decide +kernel
  obtain ⟨others, found, covered, _, each, _⟩ := scanRuns_maximal pattern aligned lines
  cases scanned.symm.trans found
  exact ⟨aligned, scanned, covered, each⟩

end Span

end DocBlocks
