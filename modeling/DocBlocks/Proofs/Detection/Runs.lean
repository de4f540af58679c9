/-
This file describes the runs of marked lines, and shows that a pattern which recognises the marked
lines one by one finds just these runs.
-/

import DocBlocks.Proofs.Detection.Markers
import DocBlocks.Proofs.Text.Lines
import Mathlib.Data.List.Sort

namespace DocBlocks

open Text

/-- There is a line of this number, and it is marked. -/
def markedAt (marked : Text → Bool) (lines : List Text) (index : Nat) : Bool :=
  lines[index]?.any marked

/-- The lines from `first` to `last` are marked, and the lines next to them, where there are any,
are not. -/
structure MaximalRun (marked : Text → Bool) (lines : List Text) (first last : Nat) : Prop where
  ordered : first ≤ last
  inside : ∀ index ≤ last, first ≤ index → markedAt marked lines index = true
  before : 0 < first → markedAt marked lines (first - 1) = false
  after : markedAt marked lines (last + 1) = false

instance (marked : Text → Bool) (lines : List Text) (first last : Nat) :
    Decidable (MaximalRun marked lines first last) :=
  decidable_of_iff
    (first ≤ last ∧ (∀ index ≤ last, first ≤ index → markedAt marked lines index = true) ∧
      (0 < first → markedAt marked lines (first - 1) = false) ∧
      markedAt marked lines (last + 1) = false)
    ⟨fun parts => ⟨parts.1, parts.2.1, parts.2.2.1, parts.2.2.2⟩,
      fun run => ⟨run.ordered, run.inside, run.before, run.after⟩⟩

/-- The place of a run, from the first visible character of its first line to the last visible
character of its last line. -/
def Span.ofRun (lines : List Text) (first last : Nat) : Span where
  startLine := first
  startColumn := ((lines.getD first []).takeWhile isBlank).length
  endLine := last
  endColumn := (trimEnd (lines.getD last [])).length

/-- The places of all maximal runs of marked lines, in the order of the lines. -/
def runs (marked : Text → Bool) (lines : List Text) : List Span :=
  (List.range lines.length).flatMap fun first =>
    ((List.range lines.length).filter fun last => MaximalRun marked lines first last).map
      (Span.ofRun lines first)

variable {marked : Text → Bool} {lines : List Text}

/-- A marked line is there. -/
theorem line_of_markedAt {index : Nat} (present : markedAt marked lines index = true) :
    ∃ line, lines[index]? = some line ∧ marked line = true := by
  rw [markedAt] at present
  cases found : lines[index]? with
  | none =>
      rw [found] at present
      cases present
  | some line =>
      rw [found] at present
      exact ⟨line, rfl, present⟩

/-- No line behind the last one is marked. -/
theorem lt_of_markedAt {index : Nat} (present : markedAt marked lines index = true) :
    index < lines.length := by
  obtain ⟨line, found, _⟩ := line_of_markedAt present
  exact (List.getElem?_eq_some_iff.mp found).1

namespace MaximalRun

variable {first last : Nat}

theorem first_marked (run : MaximalRun marked lines first last) :
    markedAt marked lines first = true :=
  run.inside first run.ordered (Nat.le_refl first)

theorem last_marked (run : MaximalRun marked lines first last) :
    markedAt marked lines last = true :=
  run.inside last (Nat.le_refl last) run.ordered

/-- A run that begins later begins after the end of an earlier one. -/
theorem apart (run : MaximalRun marked lines first last) {later stop : Nat}
    (other : MaximalRun marked lines later stop) (order : first < later) : last < later := by
  by_contra overlap
  have unmarked := other.before (by omega)
  rw [run.inside (later - 1) (by omega) (by omega)] at unmarked
  cases unmarked

/-- A run is determined by its first line. -/
theorem unique (run : MaximalRun marked lines first last) {stop : Nat}
    (other : MaximalRun marked lines first stop) : last = stop := by
  have bounded {one two : Nat} (short : MaximalRun marked lines first one)
      (long : MaximalRun marked lines first two) : two ≤ one := by
    by_contra longer
    have ordered := short.ordered
    have unmarked := short.after
    rw [long.inside (one + 1) (by omega) (by omega)] at unmarked
    cases unmarked
  exact Nat.le_antisymm (bounded other run) (bounded run other)

end MaximalRun

/-- One span ends on an earlier line than another. -/
def Span.EndsBefore (one other : Span) : Prop :=
  one.endLine < other.endLine

instance : Std.Irrefl Span.EndsBefore :=
  ⟨fun span => Nat.lt_irrefl span.endLine⟩

instance : Std.Antisymm Span.EndsBefore :=
  ⟨fun _ _ before after => absurd after (Nat.lt_asymm before)⟩

/-- The spans are those of the runs that begin on the line `index` or later, in order. -/
structure RunsFrom (marked : Text → Bool) (lines : List Text) (index : Nat) (spans : List Span) :
    Prop where
  ordered : spans.Pairwise Span.EndsBefore
  exact : ∀ span, span ∈ spans ↔
    ∃ first last, index ≤ first ∧ MaximalRun marked lines first last ∧
      span = Span.ofRun lines first last

namespace RunsFrom

variable {index : Nat} {spans : List Span}

/-- There are no runs behind the last line. -/
theorem none (outside : lines.length ≤ index) : RunsFrom marked lines index [] where
  ordered := List.Pairwise.nil
  exact span := by
    constructor
    · exact fun member => nomatch member
    · rintro ⟨first, last, later, run, _⟩
      have inside := lt_of_markedAt run.first_marked
      omega

/-- No run begins on a line that is not marked. -/
theorem skip (unmarked : markedAt marked lines index = false)
    (rest : RunsFrom marked lines (index + 1) spans) : RunsFrom marked lines index spans where
  ordered := rest.ordered
  exact span := by
    rw [rest.exact]
    constructor
    · rintro ⟨first, last, later, run, same⟩
      exact ⟨first, last, by omega, run, same⟩
    · rintro ⟨first, last, later, run, same⟩
      have different : first ≠ index := by
        rintro rfl
        cases unmarked.symm.trans run.first_marked
      exact ⟨first, last, by omega, run, same⟩

/-- After a run, the next one begins behind its end. -/
theorem cons {last : Nat} (run : MaximalRun marked lines index last)
    (rest : RunsFrom marked lines (last + 1) spans) :
    RunsFrom marked lines index (Span.ofRun lines index last :: spans) where
  ordered := by
    refine List.Pairwise.cons (fun span member => ?_) rest.ordered
    obtain ⟨first, other, later, next, rfl⟩ := (rest.exact span).mp member
    have ordered := next.ordered
    change last < other
    omega
  exact span := by
    rw [List.mem_cons, rest.exact]
    constructor
    · rintro (same | ⟨first, other, later, next, same⟩)
      · exact ⟨index, last, Nat.le_refl index, run, same⟩
      · have ordered := run.ordered
        exact ⟨first, other, by omega, next, same⟩
    · rintro ⟨first, other, later, next, rfl⟩
      rcases Nat.eq_or_lt_of_le later with rfl | beyond
      · rw [run.unique next]
        exact Or.inl rfl
      · exact Or.inr ⟨first, other, run.apart next beyond, next, rfl⟩

/-- There is no other list of the runs. -/
theorem unique (one : RunsFrom marked lines index spans) {others : List Span}
    (other : RunsFrom marked lines index others) : spans = others :=
  one.ordered.eq_of_mem_iff other.ordered fun span => (one.exact span).trans (other.exact span).symm

end RunsFrom

/-- The runs of all the lines are those from the first line on. -/
theorem runs_all (marked : Text → Bool) (lines : List Text) :
    RunsFrom marked lines 0 (runs marked lines) where
  ordered := by
    rw [runs, List.pairwise_flatMap]
    constructor
    · intro first _
      rw [List.pairwise_map]
      exact (List.pairwise_lt_range.filter _).imp fun order => order
    · refine List.pairwise_lt_range.imp fun order one ofFirst other ofLater => ?_
      simp only [List.mem_map, List.mem_filter, decide_eq_true_eq] at ofFirst ofLater
      obtain ⟨last, ⟨_, run⟩, rfl⟩ := ofFirst
      obtain ⟨stop, ⟨_, next⟩, rfl⟩ := ofLater
      exact Nat.lt_of_lt_of_le (run.apart next order) next.ordered
  exact span := by
    simp only [runs, List.mem_flatMap, List.mem_map, List.mem_filter, List.mem_range,
      decide_eq_true_eq]
    constructor
    · rintro ⟨first, _, last, ⟨_, run⟩, rfl⟩
      exact ⟨first, last, Nat.zero_le first, run, rfl⟩
    · rintro ⟨first, last, _, run, rfl⟩
      exact ⟨first, lt_of_markedAt run.first_marked, last,
        ⟨lt_of_markedAt run.last_marked, run⟩, rfl⟩

/-- No run is listed twice. -/
theorem runs_nodup (marked : Text → Bool) (lines : List Text) : (runs marked lines).Nodup :=
  (runs_all marked lines).ordered.imp fun order same => Nat.ne_of_lt order (congrArg Span.endLine same)

/-- Runs of lines that are marked in different ways do not take the same place. -/
theorem runs_apart {other : Text → Bool}
    (apart : ∀ line, marked line = true → other line = true → False) {first second : Span}
    (ofOne : first ∈ runs marked lines) (ofOther : second ∈ runs other lines) : first ≠ second := by
  rintro rfl
  obtain ⟨start, _, _, run, rfl⟩ := ((runs_all marked lines).exact first).mp ofOne
  obtain ⟨same, _, _, again, places⟩ := ((runs_all other lines).exact _).mp ofOther
  have beginning : start = same := congrArg Span.startLine places
  subst beginning
  obtain ⟨line, found, marks⟩ := line_of_markedAt run.first_marked
  obtain ⟨copy, alsoFound, alsoMarks⟩ := line_of_markedAt again.first_marked
  cases found.symm.trans alsoFound
  exact apart line marks alsoMarks

/-- No run goes on from the line before `index` to the line `index`. -/
def Severed (marked : Text → Bool) (lines : List Text) (index : Nat) : Prop :=
  0 < index → markedAt marked lines index = true → markedAt marked lines (index - 1) = false

/-- No run goes on to a line that is not marked. -/
theorem Severed.of_unmarked {index : Nat} (unmarked : markedAt marked lines index = false) :
    Severed marked lines index :=
  fun _ present => by cases unmarked.symm.trans present

/-- No run goes on from a line that is not marked. -/
theorem Severed.succ {index : Nat} (unmarked : markedAt marked lines index = false) :
    Severed marked lines (index + 1) :=
  fun _ _ => unmarked

/-- Lines keep their marks when those before them are left out. -/
theorem markedAt_drop (marked : Text → Bool) (lines : List Text) (count index : Nat) :
    markedAt marked (lines.drop count) index = markedAt marked lines (count + index) := by
  rw [markedAt, List.getElem?_drop, markedAt]

/-- The marked lines at the beginning are as many as there are before the first other line. -/
theorem markedAt_takeWhile (marked : Text → Bool) (lines : List Text) :
    (∀ index < (lines.takeWhile marked).length, markedAt marked lines index = true) ∧
      markedAt marked lines (lines.takeWhile marked).length = false := by
  induction lines with
  | nil => simp [markedAt]
  | cons line lines ih =>
      by_cases present : marked line = true
      · rw [List.takeWhile_cons_of_pos present]
        refine ⟨fun index inside => ?_, ?_⟩
        · cases index with
          | zero => exact present
          | succ index => exact ih.1 index (Nat.lt_of_succ_lt_succ inside)
        · exact ih.2
      · rw [List.takeWhile_cons_of_neg present]
        have unmarked : marked line = false := by simpa using present
        exact ⟨fun index inside => absurd inside (Nat.not_lt_zero index), unmarked⟩

/-- A marked line and the marked lines right after it are a run, if no run goes on to them. -/
theorem MaximalRun.of_takeWhile {index : Nat} (severed : Severed marked lines index)
    (present : markedAt marked lines index = true) :
    MaximalRun marked lines index
      (index + ((lines.drop (index + 1)).takeWhile marked).length) := by
  obtain ⟨counted, ended⟩ := markedAt_takeWhile marked (lines.drop (index + 1))
  refine ⟨Nat.le_add_right _ _, fun other within later => ?_,
    fun positive => severed positive present, ?_⟩
  · rcases Nat.eq_or_lt_of_le later with rfl | beyond
    · exact present
    · have marks := counted (other - (index + 1)) (by omega)
      rw [markedAt_drop] at marks
      rwa [Nat.add_sub_cancel' beyond] at marks
  · rw [markedAt_drop] at ended
    rwa [Nat.add_right_comm]

/-- The opening rule of the pattern finds the marked lines, each from its beginning on. -/
structure Pattern.Recognises (pattern : Pattern) (marked : Text → Bool) : Prop where
  perLine : pattern.multiline = false
  found : ∀ line, '\n' ∉ line → ∃ stop,
    pattern.opening.find line = pure (if marked line then some ⟨0, stop⟩ else none)

namespace Span

variable {pattern : Pattern}

/-- The length of a run is the number of marked lines that follow. -/
theorem runLength_recognises (recognises : pattern.Recognises marked) (last : Text)
    (later : List Text) (feedless : ∀ line ∈ later, '\n' ∉ line) :
    runLength pattern.opening last later = pure ((later.takeWhile marked).length,
      (last :: later).getD (later.takeWhile marked).length []) := by
  induction later generalizing last with
  | nil => rfl
  | cons line later ih =>
      obtain ⟨stop, found⟩ := recognises.found line (feedless line List.mem_cons_self)
      have rest := ih line fun other member => feedless other (List.mem_cons_of_mem line member)
      rw [runLength, Matcher.isMatch, found]
      by_cases present : marked line = true
      · simp [present, rest]
      · simp [present]

/-- The place of a run of lines that come next. -/
theorem ofRun_of_drop {index : Nat} {line : Text} {later : List Text}
    (onward : lines.drop index = line :: later) (count : Nat) :
    ofRun lines index (index + count) =
      ⟨index, (line.takeWhile isBlank).length, index + count,
        (trimEnd ((line :: later).getD count [])).length⟩ := by
  have next (count : Nat) : lines.getD (index + count) [] = (line :: later).getD count [] := by
    rw [← onward, List.getD_eq_getElem?_getD, List.getD_eq_getElem?_getD, List.getElem?_drop]
  have first : lines.getD index [] = line := next 0
  rw [ofRun, first, next count]

/-- The scan finds the runs, wherever it begins, as long as it does not begin inside of one. -/
theorem scanRuns_recognises (recognises : pattern.Recognises marked)
    (feedless : ∀ line ∈ lines, '\n' ∉ line) (index : Nat) (rest : List Text)
    (onward : lines.drop index = rest) (severed : Severed marked lines index) :
    ∃ spans, scanRuns pattern index rest = pure spans ∧ RunsFrom marked lines index spans := by
  induction index, rest using scanRuns.induct with
  | case1 index =>
      rw [scanRuns]
      exact ⟨[], rfl, RunsFrom.none (List.drop_eq_nil_iff.mp onward)⟩
  | case2 index line later next afterRun =>
      have here : lines[index]? = some line := by
        rw [← Nat.add_zero index, ← List.getElem?_drop, onward]
        rfl
      have tail : lines.drop (index + 1) = later := by
        rw [← List.tail_drop, onward]
        rfl
      have laterFeedless : ∀ other ∈ later, '\n' ∉ other := fun other member =>
        feedless other (List.mem_of_mem_drop (tail ▸ member))
      obtain ⟨stop, found⟩ := recognises.found line (feedless line (List.mem_of_getElem? here))
      have marks : markedAt marked lines index = marked line := by rw [markedAt, here]; rfl
      rw [scanRuns, found]
      by_cases present : marked line = true
      · have run := MaximalRun.of_takeWhile severed (marks.trans present)
        rw [tail] at run
        have beyond : lines.drop (index + (later.takeWhile marked).length + 1) =
            later.drop (later.takeWhile marked).length := by
          rw [← tail, List.drop_drop, Nat.add_right_comm]
        obtain ⟨spans, scanned, others⟩ := afterRun (later.takeWhile marked).length beyond
          (Severed.of_unmarked run.after)
        refine ⟨_, ?_, others.cons run⟩
        rw [ofRun_of_drop onward]
        simp [present, runLength_recognises recognises line later laterFeedless, markerColumn_zero,
          scanned]
      · have unmarked : markedAt marked lines index = false := by simpa [marks] using present
        obtain ⟨spans, scanned, others⟩ := next tail (Severed.succ unmarked)
        exact ⟨spans, by simp [present, scanned], others.skip unmarked⟩

/-- A pattern that recognises marked lines finds their runs, without failing. -/
theorem scan_recognises (recognises : pattern.Recognises marked) (text : Text) :
    scan pattern text.lines = pure (runs marked text.lines) := by
  have start : Severed marked text.lines 0 := fun positive => absurd positive (Nat.lt_irrefl 0)
  obtain ⟨spans, scanned, all⟩ :=
    scanRuns_recognises recognises (lines_no_feed text) 0 text.lines rfl start
  rw [scan, recognises.perLine, if_neg Bool.false_ne_true, scanned,
    all.unique (runs_all marked text.lines)]

end Span

end DocBlocks
