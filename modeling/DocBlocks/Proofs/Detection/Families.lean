/-
This file compares the family that a block is shown in with that of the pattern which has found it.
They differ only where an earlier pattern opens the same line, or where the opening marker includes
a carriage return that the text of the block has lost.
-/

import DocBlocks.Proofs.Detection.Tails

namespace DocBlocks

open Text

/-- A line matches a rule exactly if the rule marks it. -/
theorem Matcher.isMatch_eq_marks (matcher : Matcher) (line : Text) :
    ((matcher.isMatch line).outcome == some true) = matcher.marks line := by
  rw [isMatch_outcome, marks, found?]
  rcases (matcher.find line).outcome with _ | _ | _ <;> rfl

namespace Span

/-- A pattern finds nothing but what begins on a line with its opening marker. -/
theorem scan_opened {pattern : Pattern} {lines : List Text} {spans : List Span}
    (found : (scan pattern lines).outcome = some spans) :
    ∀ span ∈ spans, markedAt pattern.opening.marks lines span.startLine = true := by
  unfold scan at found
  split at found
  · have plain := (scanBlocks_alike pattern false 0 lines false
      fun vain => absurd vain Bool.false_ne_true).eq
    rw [plain] at found
    exact (scanPlain_pairs lines 0 lines rfl spans found).opened
  · exact fun span member => ((gathers_of_scanRuns found).each span member).run.first_marked

end Span

namespace Hover

/-- The family that a line is taken to open: that of the first pattern whose marker is there. -/
def familyOpening (patterns : List Pattern) (line : Text) : Family :=
  match patterns.find? (·.opening.marks line) with
  | some pattern => pattern.family
  | none => .blockComment

/-- A block is shown in the family that its first line is taken to open. -/
theorem familyOf_eq (block : Block) (patterns : List Pattern) :
    familyOf block patterns = familyOpening patterns (block.rawContent.lines.headD []) := by
  unfold familyOf familyOpening
  dsimp only
  have same : (fun pattern : Pattern =>
      (pattern.opening.isMatch (block.rawContent.lines.headD [])).outcome == some true) =
        fun pattern => pattern.opening.marks (block.rawContent.lines.headD []) :=
    funext fun pattern => pattern.opening.isMatch_eq_marks _
  rewrite [same]
  rfl

/-- Asks the patterns in turn which family the line opens. An opening rule that fails ends the
search. -/
def seekFamily : List Pattern → Text → Trial Family
  | [], _ => pure .blockComment
  | pattern :: patterns, line => do
    if ← pattern.opening.isMatch line then
      return pattern.family
    else
      seekFamily patterns line

/-- A search that comes to an end has found the family that the line opens. -/
theorem seekFamily_finds {patterns : List Pattern} {line : Text} {family : Family}
    (found : (seekFamily patterns line).outcome = some family) :
    family = familyOpening patterns line := by
  induction patterns with
  | nil =>
      cases found
      rfl
  | cons pattern patterns ih =>
      rw [seekFamily] at found
      obtain ⟨matched, answer, rest⟩ := Trial.of_bind found
      have opened := Matcher.marks_of_isMatch answer
      cases matched with
      | true =>
          cases rest
          rw [familyOpening, List.find?_cons_of_pos (by simp [opened])]
      | false =>
          rw [familyOpening, List.find?_cons_of_neg (by simp [opened])]
          exact ih rest

/-- The search comes to an end if no opening rule fails on the line. -/
theorem seekFamily_returns {patterns : List Pattern} {line : Text}
    (answers : ∀ pattern ∈ patterns, (pattern.opening.isMatch line).outcome ≠ none) :
    (seekFamily patterns line).outcome = some (familyOpening patterns line) := by
  suffices ends : ∃ family, (seekFamily patterns line).outcome = some family by
    obtain ⟨family, found⟩ := ends
    rw [found, seekFamily_finds found]
  induction patterns with
  | nil => exact ⟨_, rfl⟩
  | cons pattern patterns ih =>
      obtain ⟨matched, answer⟩ :=
        Option.ne_none_iff_exists'.mp (answers pattern List.mem_cons_self)
      rw [seekFamily, Trial.bind_outcome, answer, Option.bind_some]
      cases matched with
      | true => exact ⟨_, rfl⟩
      | false => exact ih fun other member => answers other (List.mem_cons_of_mem _ member)

/-- The first of the patterns before a pattern that opens the line is of another family. -/
def Overtaken (front : List Pattern) (first : Pattern) (line : Text) : Prop :=
  ∃ rival, front.find? (·.opening.marks line) = some rival ∧ rival.family ≠ first.family

/-- Neither a pattern nor one before it opens the line, and it is taken for another family. -/
structure Lost (front : List Pattern) (first : Pattern) (back : List Pattern) (line : Text) : Prop where
  before : ∀ pattern ∈ front, pattern.opening.marks line = false
  own : first.opening.marks line = false
  behind : familyOpening back line ≠ first.family

/-- A line opens the family of a pattern unless an earlier one gets ahead of it or it has lost its
marker. -/
theorem familyOpening_iff (front : List Pattern) (first : Pattern) (back : List Pattern) (line : Text) :
    familyOpening (front ++ first :: back) line = first.family ↔
      ¬Overtaken front first line ∧ ¬Lost front first back line := by
  cases found : front.find? (·.opening.marks line) with
  | some rival =>
      have shown : familyOpening (front ++ first :: back) line = rival.family := by
        rw [familyOpening, List.find?_append, found]
        rfl
      have opened : rival.opening.marks line = true := by simpa using List.find?_some found
      have present : ¬Lost front first back line := fun lost => by
        rw [lost.before rival (List.mem_of_find?_eq_some found)] at opened
        cases opened
      rw [shown]
      constructor
      · rintro same
        refine ⟨?_, present⟩
        rintro ⟨other, otherFound, differs⟩
        cases found.symm.trans otherFound
        exact differs same
      · rintro ⟨untaken, _⟩
        by_contra differs
        exact untaken ⟨rival, found, differs⟩
  | none =>
      have unopened : ∀ pattern ∈ front, pattern.opening.marks line = false := fun pattern member =>
        Bool.eq_false_iff.mpr (List.find?_eq_none.mp found pattern member)
      have untaken : ¬Overtaken front first line := by
        rintro ⟨other, otherFound, _⟩
        cases found.symm.trans otherFound
      rw [familyOpening, List.find?_append, found, Option.none_or]
      cases opened : first.opening.marks line with
      | true =>
          rw [List.find?_cons_of_pos (by simp [opened])]
          refine iff_of_true rfl ⟨untaken, fun lost => ?_⟩
          cases opened.symm.trans lost.own
      | false =>
          rw [List.find?_cons_of_neg (by simp [opened])]
          constructor
          · exact fun same => ⟨untaken, fun lost => lost.behind same⟩
          · rintro ⟨_, kept⟩
            by_contra differs
            exact kept ⟨unopened, opened, differs⟩

end Hover

namespace Detector

section

variable {lines : List Text} {span : Span} {line : Text}

/-- The first line of the text of a block is the line that the block begins on, which loses a
carriage return at its end if another line follows. -/
theorem rawContent_head (feedless : ∀ line ∈ lines, '\n' ∉ line) (within : span.Within lines)
    (starts : lines[span.startLine]? = some line) :
    (rawContent lines span).lines.headD [] =
      if span.startLine = span.endLine then line else withoutReturn line := by
  have plain : '\n' ∉ line := feedless line (List.mem_of_getElem? starts)
  obtain ⟨last, ends, _⟩ := within.stop
  split
  · rename_i same
    have alone : rawContent lines span = line := by
      have none : leadingLines lines span = [] := by
        rw [leadingLines, same, Nat.sub_self, List.take_zero]
      rw [rawContent_eq within.ordered (same ▸ starts), none]
      exact List.intercalate_singleton
    rw [alone]
    by_cases empty : line = []
    · rw [empty]
      rfl
    · rw [lines_of_feedless empty plain]
      rfl
  · rename_i different
    have beyond : span.startLine < span.endLine := Nat.lt_of_le_of_ne within.ordered different
    obtain ⟨between, leading⟩ := leadingLines_cons beyond starts
    have more : between ++ [last] ≠ [] := List.append_ne_nil_of_right_ne_nil _ (List.cons_ne_nil _ _)
    rw [rawContent_eq within.ordered ends, leading, List.cons_append, joinLines_cons line more,
      lines_append_feed plain]
    rfl

end

/-- The block stands at a place that the pattern finds and none before it, and is made by its
family. -/
def Emits (detector : Detector) (text : Text) (language : String) (front : List Pattern)
    (first : Pattern) (block : Block) : Prop :=
  ∃ span ∈ spansOf text.lines first, (∀ earlier ∈ front, span ∉ spansOf text.lines earlier) ∧
    block = buildBlock text.lines language detector.previewLength span first.family

/-- The candidate that is kept for a span is of the family of the first pattern that finds it. -/
theorem family_of_distinct {lines : List Text} {patterns : List Pattern} {span : Span} {family : Family}
    (kept : (span, family) ∈ distinct [] (candidatesOf lines patterns)) :
    ∃ first, earliest? lines patterns span = some first ∧ family = first.family := by
  have listed := List.mem_map_of_mem (f := Prod.fst) kept
  obtain ⟨pattern, member, found⟩ :=
    mem_candidatesOf.mp (((distinct_spans [] (candidatesOf lines patterns)).2 span).mp listed).1
  obtain ⟨first, earliest⟩ := earliest?_isSome member found
  have same := List.inj_on_of_nodup_map (distinct_spans [] (candidatesOf lines patterns)).1 kept
    (mem_distinct_earliest earliest) rfl
  exact ⟨first, earliest, congrArg Prod.snd same⟩

/-- Each block of a search that was not cancelled comes from the first pattern which finds its
place. -/
theorem run_emits {detector : Detector} {text : Text} {language : String} {cancelledBy : Nat → Bool}
    (uncancelled : (detector.run text language cancelledBy).cancelled = false) {block : Block}
    (member : block ∈ (detector.run text language cancelledBy).blocks) :
    ∃ front first back, detector.registry.lookup language = front ++ first :: back ∧
      detector.Emits text language front first block := by
  have whole : (detector.run text language cancelledBy).blocks = detector.thorough text language :=
    detectionOf_thorough detector text language cancelledBy uncancelled
  rw [whole, thorough] at member
  obtain ⟨⟨span, family⟩, kept, rfl⟩ := List.mem_map.mp member
  obtain ⟨first, earliest, rfl⟩ := family_of_distinct kept
  obtain ⟨holds, front, back, divided, missing⟩ := List.find?_eq_some_iff_append.mp earliest
  refine ⟨front, first, back, divided, span, List.contains_iff_mem.mp holds, ?_, rfl⟩
  intro earlier earlierMember found
  have absent := missing earlier earlierMember
  rw [List.contains_iff_mem.mpr found] at absent
  cases absent

/-- What a pattern finds begins on a line with its opening marker. -/
theorem spansOf_opened {lines : List Text} {pattern : Pattern} {span : Span}
    (member : span ∈ spansOf lines pattern) :
    span.Within lines ∧
      ∃ line, lines[span.startLine]? = some line ∧ pattern.opening.marks line = true := by
  rw [spansOf] at member
  cases found : (Span.scan pattern lines).outcome with
  | none =>
      rw [found] at member
      cases member
  | some spans =>
      rw [found, Option.getD_some] at member
      exact ⟨Span.scan_within pattern lines spans found span member,
        line_of_markedAt (Span.scan_opened found span member)⟩

/-- Each block of a search that is not cancelled is made by the first pattern that finds its place,
and that pattern opens the line it begins on. It is shown in the family of this pattern unless an
earlier pattern of another family opens the line as well, or no pattern up to this one opens the
line any more. The latter happens only to blocks of several lines, by the loss of a carriage return.
Patterns that are asked in turn give this family if they come to an end, as they do if no opening
rule fails on the line. -/
theorem family_shown_iff (detector : Detector) (text : Text) (language : String)
    (cancelledBy : Nat → Bool)
    (uncancelled : (detector.run text language cancelledBy).cancelled = false)
    (block : Block) (member : block ∈ (detector.run text language cancelledBy).blocks) :
    let patterns := detector.registry.lookup language
    ∃ front first back line, patterns = front ++ first :: back ∧
      detector.Emits text language front first block ∧
      text.lines[block.startLine]? = some line ∧ first.opening.marks line = true ∧
      let seen := if block.isSingleLine then line else withoutReturn line
      (Hover.familyOf block patterns = first.family ↔
        ¬Hover.Overtaken front first seen ∧ ¬Hover.Lost front first back seen) ∧
      (Hover.Lost front first back seen → block.isSingleLine = false ∧ line = seen ++ ['\r']) ∧
      (∀ family, (Hover.seekFamily patterns seen).outcome = some family →
        family = Hover.familyOf block patterns) ∧
      ((∀ pattern ∈ patterns, (pattern.opening.isMatch seen).outcome ≠ none) →
        (Hover.seekFamily patterns seen).outcome = some (Hover.familyOf block patterns)) := by
  intro patterns
  obtain ⟨front, first, back, divided, emits⟩ := run_emits uncancelled member
  obtain ⟨span, found, unfound, rfl⟩ := emits
  obtain ⟨within, line, starts, opened⟩ := spansOf_opened found
  have shown : Hover.familyOf (buildBlock text.lines language detector.previewLength span first.family)
      patterns = Hover.familyOpening patterns
        (if (buildBlock text.lines language detector.previewLength span first.family).isSingleLine
          then line else withoutReturn line) := by
    rw [Hover.familyOf_eq]
    change Hover.familyOpening _ ((rawContent text.lines span).lines.headD []) = _
    rw [rawContent_head (lines_no_feed text) within starts]
    simp only [buildBlock, beq_iff_eq]
  refine ⟨front, first, back, line, divided, ⟨span, found, unfound, rfl⟩, starts, opened, ?_, ?_,
    fun family sought => shown ▸ Hover.seekFamily_finds sought,
    fun answers => shown ▸ Hover.seekFamily_returns answers⟩
  · rw [shown, show patterns = front ++ first :: back from divided]
    exact Hover.familyOpening_iff front first back _
  · intro lost
    cases single : (buildBlock text.lines language detector.previewLength span
        first.family).isSingleLine with
    | true =>
        -- The line is the one that the pattern opens.
        have unopened := lost.own
        rw [single, if_pos rfl, opened] at unopened
        cases unopened
    | false =>
        refine ⟨rfl, ?_⟩
        rw [if_neg Bool.false_ne_true]
        rcases withoutReturn_cases line with same | returned
        · have unopened := lost.own
          rw [single, if_neg Bool.false_ne_true, ← same, opened] at unopened
          cases unopened
        · exact returned

/-- A comment whose first line is a banner by an earlier pattern, which finds no second banner to
close it. The comment is found as a run of lines and shown with its markers, as if it were the
banner's. -/
theorem family_shown_iff_banner :
    let marker : Matcher := .custom fun line =>
      pure (if line = "///".toList then some ⟨0, 3⟩ else none)
    let banner : Pattern := ⟨"banner", "zig", marker, marker, none, true, .blockComment⟩
    let slashes : Pattern := Pattern.tripleSlashFor "zig"
    let detector : Detector := ⟨⟨[banner, slashes]⟩, 60⟩
    let text : Text := "///\n/// Adds one.".toList
    let block : Block := ⟨0, 0, 1, 13, text, "Adds one.".toList, "zig", false⟩
    detector.run text "zig" (fun _ => false) = ⟨[block], false⟩ ∧
      (Hover.ofBlock block [banner, slashes]).value = text ∧
      (∃ line, detector.Emits text "zig" [banner] slashes block ∧ text.lines[0]? = some line ∧
        Hover.Overtaken [banner] slashes (withoutReturn line)) ∧
      Hover.familyOf block [banner, slashes] ≠ slashes.family := by
  intro marker banner slashes detector text block
  have found : detector.run text "zig" (fun _ => false) = ⟨[block], false⟩ := by decide +kernel
  have shown : Hover.familyOf block [banner, slashes] = .blockComment := by decide +kernel
  have unclosed : spansOf text.lines banner = [] := by decide +kernel
  refine ⟨found, by decide +kernel, ?_, by rw [shown]; decide⟩
  obtain ⟨front, first, back, line, divided, emits, starts, _⟩ :=
    family_shown_iff detector text "zig" (fun _ => false) (by rw [found]) block
      (by rw [found]; exact List.mem_singleton_self block)
  have listed : detector.registry.lookup "zig" = [banner, slashes] := rfl
  rw [listed] at divided
  rcases front with _ | ⟨earlier, _ | ⟨next, others⟩⟩
  · cases divided
    obtain ⟨span, member, _⟩ := emits
    rw [unclosed] at member
    cases member
  · cases divided
    have same : line = "///".toList := Option.some.inj (starts.symm.trans (by decide +kernel))
    subst same
    exact ⟨_, emits, starts, banner, List.find?_cons_of_pos (by decide +kernel), by decide⟩
  · simp at divided

end Detector

end DocBlocks
