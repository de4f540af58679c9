/-
This file shows that patterns which come first take precedence: what a further pattern finds is
added after their blocks, as far as they have not found it themselves.
-/

import DocBlocks.Proofs.Detection.Blocks
import DocBlocks.Proofs.Detection.Builtin
import DocBlocks.Proofs.Detection.Gathering

namespace DocBlocks

namespace Span

/-- The place that a block of the span has. -/
def positionKey (span : Span) : Nat × Nat × Nat × Nat :=
  (span.startLine, span.startColumn, span.endLine, span.endColumn)

/-- Blocks in the same place have the same span. -/
theorem positionKey_injective {one other : Span} (same : one.positionKey = other.positionKey) :
    one = other := by
  cases one
  cases other
  simpa [positionKey] using same

/-- A pattern finds nothing twice, whatever its rules do. -/
theorem scan_nodup {pattern : Pattern} {lines : List Text} {spans : List Span}
    (found : (scan pattern lines).outcome = some spans) : spans.Nodup := by
  have increasing : spans.Pairwise fun one other => one.startLine < other.startLine := by
    unfold scan at found
    split at found
    · rw [(scanBlocks_alike pattern false 0 lines false fun vain => nomatch vain).eq] at found
      have pairs := scanPlain_pairs lines 0 lines rfl spans found
      refine pairs.apart.imp_of_mem fun member _ apart => ?_
      exact Nat.lt_of_le_of_lt (pairs.ordered _ member) apart
    · have gathers := gathers_of_scanRuns found
      refine gathers.apart.imp_of_mem fun {one other} member _ apart => ?_
      have ordered := (gathers.each one member).run.ordered
      omega
  exact increasing.imp fun order same => Nat.ne_of_lt order (congrArg Span.startLine same)

end Span

namespace Detector

/-- Which candidates are kept depends only on which spans have been seen. -/
theorem distinct_congr {seen others : List Span} (same : ∀ span, span ∈ seen ↔ span ∈ others)
    (candidates : List (Span × Family)) : distinct seen candidates = distinct others candidates := by
  induction candidates generalizing seen others with
  | nil => rfl
  | cons candidate candidates ih =>
      obtain ⟨span, family⟩ := candidate
      have known : seen.contains span = others.contains span := by
        rw [Bool.eq_iff_iff, List.contains_iff_mem, List.contains_iff_mem]
        exact same span
      have more : ∀ other, other ∈ span :: seen ↔ other ∈ span :: others := fun other => by
        rw [List.mem_cons, List.mem_cons, same]
      rw [distinct, distinct, known, ih same, ih more]

/-- Candidates that come later change nothing about those before them. -/
theorem distinct_append (seen : List Span) (candidates others : List (Span × Family)) :
    distinct seen (candidates ++ others) =
      distinct seen candidates ++ distinct (candidates.map Prod.fst ++ seen) others := by
  induction candidates generalizing seen with
  | nil => rfl
  | cons candidate candidates ih =>
      obtain ⟨span, family⟩ := candidate
      rw [List.cons_append, distinct, distinct, List.map_cons, List.cons_append]
      split
      · rename_i known
        rw [ih]
        refine congrArg _ (distinct_congr (fun other => ?_) others)
        rw [List.mem_cons, iff_or_self]
        rintro rfl
        exact List.mem_append_right _ (List.contains_iff_mem.mp known)
      · rw [ih, List.cons_append]
        refine congrArg _ (congrArg _ (distinct_congr (fun other => ?_) others))
        simp only [List.mem_append, List.mem_cons]
        exact or_left_comm

/-- Each span is kept that has not been seen, and none is kept twice. -/
theorem distinct_spans (seen : List Span) (candidates : List (Span × Family)) :
    ((distinct seen candidates).map Prod.fst).Nodup ∧
      ∀ span, span ∈ (distinct seen candidates).map Prod.fst ↔
        span ∈ candidates.map Prod.fst ∧ span ∉ seen := by
  induction candidates generalizing seen with
  | nil => simp [distinct]
  | cons candidate candidates ih =>
      obtain ⟨first, family⟩ := candidate
      rw [distinct]
      split
      · rename_i known
        obtain ⟨different, kept⟩ := ih seen
        refine ⟨different, fun span => ?_⟩
        rw [kept, List.map_cons, List.mem_cons]
        refine ⟨fun both => ⟨Or.inr both.1, both.2⟩, fun both => ⟨both.1.resolve_left ?_, both.2⟩⟩
        rintro rfl
        exact both.2 (List.contains_iff_mem.mp known)
      · rename_i fresh
        have unseen : first ∉ seen := fun member => fresh (List.contains_iff_mem.mpr member)
        obtain ⟨different, kept⟩ := ih (first :: seen)
        refine ⟨List.nodup_cons.mpr ⟨fun again => ?_, different⟩, fun span => ?_⟩
        · exact ((kept first).mp again).2 List.mem_cons_self
        · rw [List.map_cons, List.mem_cons, kept, List.map_cons, List.mem_cons, List.mem_cons]
          by_cases same : span = first
          · simp [same, unseen]
          · simp [same]

/-- Of spans that are different from each other those are kept that have not been seen. -/
theorem distinct_family (family : Family) (seen : List Span) {spans : List Span}
    (different : spans.Nodup) :
    distinct seen (spans.map fun span => (span, family)) =
      (spans.filter fun span => !seen.contains span).map fun span => (span, family) := by
  induction spans generalizing seen with
  | nil => rfl
  | cons span spans ih =>
      obtain ⟨alone, others⟩ := List.nodup_cons.mp different
      rw [List.map_cons, distinct, List.filter_cons, ih seen others, ih (span :: seen) others]
      cases known : seen.contains span with
      | true => rfl
      | false =>
          have unmet : spans.filter (fun other => !(span :: seen).contains other) =
              spans.filter fun other => !seen.contains other := by
            refine List.filter_congr fun other member => ?_
            have apart : other ≠ span := fun same => alone (same ▸ member)
            simp [apart]
          rw [unmet]
          rfl

/-- What a pattern finds in the lines. A pattern that fails finds nothing. -/
def spansOf (lines : List Text) (pattern : Pattern) : List Span :=
  (Span.scan pattern lines).outcome.getD []

/-- A pattern finds no block twice. -/
theorem spansOf_nodup (lines : List Text) (pattern : Pattern) : (spansOf lines pattern).Nodup := by
  rw [spansOf]
  cases found : (Span.scan pattern lines).outcome with
  | none => exact List.nodup_nil
  | some spans => exact Span.scan_nodup found

theorem candidatesOf_append (lines : List Text) (patterns others : List Pattern) :
    candidatesOf lines (patterns ++ others) =
      candidatesOf lines patterns ++ candidatesOf lines others :=
  List.flatMap_append

/-- The candidates are the spans that one of the patterns finds. -/
theorem mem_candidatesOf {lines : List Text} {patterns : List Pattern} {span : Span} :
    span ∈ (candidatesOf lines patterns).map Prod.fst ↔
      ∃ pattern ∈ patterns, span ∈ spansOf lines pattern := by
  simp only [candidatesOf, List.map_flatMap, List.map_map, List.mem_flatMap]
  exact exists_congr fun pattern => and_congr_right fun _ => by simp [spansOf]

/-- The first of the patterns that finds a span. -/
def earliest? (lines : List Text) (patterns : List Pattern) (span : Span) : Option Pattern :=
  patterns.find? fun pattern => (spansOf lines pattern).contains span

/-- A span that is found is found by a first pattern. -/
theorem earliest?_isSome {lines : List Text} {patterns : List Pattern} {pattern : Pattern} {span : Span}
    (member : pattern ∈ patterns) (found : span ∈ spansOf lines pattern) :
    ∃ first, earliest? lines patterns span = some first := by
  rw [← Option.isSome_iff_exists, earliest?, List.find?_isSome]
  exact ⟨pattern, member, List.contains_iff_mem.mpr found⟩

/-- The candidate that is kept for a span has the family of the first pattern that finds it. -/
theorem mem_distinct_earliest {lines : List Text} {patterns : List Pattern} {span : Span}
    {first : Pattern} (earliest : earliest? lines patterns span = some first) :
    (span, first.family) ∈ distinct [] (candidatesOf lines patterns) := by
  obtain ⟨holds, front, back, rfl, missing⟩ := List.find?_eq_some_iff_append.mp earliest
  have unseen : span ∉ (candidatesOf lines front).map Prod.fst ++ [] := by
    rw [List.append_nil, mem_candidatesOf]
    rintro ⟨pattern, member, found⟩
    have absent := missing pattern member
    rw [List.contains_iff_mem.mpr found] at absent
    cases absent
  have own : candidatesOf lines (first :: back) =
      (spansOf lines first).map (fun span => (span, first.family)) ++ candidatesOf lines back := rfl
  rw [candidatesOf_append, own, distinct_append, distinct_append,
    distinct_family _ _ (spansOf_nodup lines first)]
  apply List.mem_append_right
  apply List.mem_append_left
  refine List.mem_map_of_mem (List.mem_filter.mpr ⟨List.contains_iff_mem.mp holds, ?_⟩)
  simpa using unseen

/-- Each block stands at the place of the candidate it is made of. -/
theorem thorough_keys (detector : Detector) (text : Text) (language : String) :
    (detector.thorough text language).map Block.positionKey =
      ((distinct [] (candidatesOf text.lines (detector.registry.lookup language))).map Prod.fst).map
        Span.positionKey := by
  rw [thorough, List.map_map, List.map_map]
  rfl

/-- No two blocks of a thorough search are in the same place. -/
theorem thorough_keys_nodup (detector : Detector) (text : Text) (language : String) :
    ((detector.thorough text language).map Block.positionKey).Nodup := by
  rw [thorough_keys]
  exact (distinct_spans [] _).1.map fun _ _ same => Span.positionKey_injective same

/-- There is a block at the place of a span if one of the patterns finds the span. -/
theorem mem_thorough_keys {detector : Detector} {text : Text} {language : String} {span : Span} :
    span.positionKey ∈ (detector.thorough text language).map Block.positionKey ↔
      span ∈ (candidatesOf text.lines (detector.registry.lookup language)).map Prod.fst := by
  rw [thorough_keys, List.mem_map]
  constructor
  · rintro ⟨other, kept, same⟩
    cases Span.positionKey_injective same
    exact ((distinct_spans [] _).2 span).mp kept |>.1
  · exact fun found => ⟨span, ((distinct_spans [] _).2 span).mpr ⟨found, List.not_mem_nil⟩, rfl⟩

/-- Where all patterns of a language have one family, its blocks are those of what they find. -/
theorem mem_thorough {detector : Detector} {text : Text} {language : String} {family : Family}
    (alike : ∀ pattern ∈ detector.registry.lookup language, pattern.family = family) {block : Block} :
    block ∈ detector.thorough text language ↔
      ∃ pattern ∈ detector.registry.lookup language, ∃ span ∈ spansOf text.lines pattern,
        block = buildBlock text.lines language detector.previewLength span family := by
  have origin {candidate : Span × Family}
      (kept : candidate ∈ distinct [] (candidatesOf text.lines (detector.registry.lookup language))) :
      ∃ pattern ∈ detector.registry.lookup language, candidate.1 ∈ spansOf text.lines pattern ∧
        candidate.2 = family := by
    obtain ⟨pattern, listed, found⟩ := List.mem_flatMap.mp (mem_distinct _ _ _ kept)
    obtain ⟨span, scanned, rfl⟩ := List.mem_map.mp found
    exact ⟨pattern, listed, scanned, alike pattern listed⟩
  rw [thorough, List.mem_map]
  constructor
  · rintro ⟨⟨span, found⟩, kept, rfl⟩
    obtain ⟨pattern, listed, scanned, rfl⟩ := origin kept
    exact ⟨pattern, listed, span, scanned, rfl⟩
  · rintro ⟨pattern, listed, span, scanned, rfl⟩
    have present := ((distinct_spans [] _).2 span).mpr
      ⟨mem_candidatesOf.mpr ⟨pattern, listed, scanned⟩, List.not_mem_nil⟩
    obtain ⟨⟨_, found⟩, kept, rfl⟩ := List.mem_map.mp present
    obtain ⟨_, _, _, rfl⟩ := origin kept
    exact ⟨_, kept, rfl⟩

theorem lookup_register (registry : Registry) (pattern : Pattern) :
    (registry.register pattern).lookup pattern.language =
      registry.lookup pattern.language ++ [pattern] := by
  simp [Registry.lookup, Registry.register, List.filter_append]

/-- What a further pattern finds is added to the blocks, as far as there is no block at its
place. -/
theorem thorough_register (detector : Detector) (pattern : Pattern) (text : Text) :
    ({ detector with registry := detector.registry.register pattern } : Detector).thorough text
        pattern.language =
      detector.thorough text pattern.language ++
        ((spansOf text.lines pattern).filter fun span =>
          span.positionKey ∉ (detector.thorough text pattern.language).map Block.positionKey).map
            fun span => buildBlock text.lines pattern.language detector.previewLength span
              pattern.family := by
  have own : candidatesOf text.lines [pattern] =
      (spansOf text.lines pattern).map fun span => (span, pattern.family) := List.append_nil _
  have fresh : ((spansOf text.lines pattern).filter fun span =>
        !((candidatesOf text.lines (detector.registry.lookup pattern.language)).map Prod.fst ++
          []).contains span) =
      (spansOf text.lines pattern).filter fun span =>
        span.positionKey ∉ (detector.thorough text pattern.language).map Block.positionKey := by
    refine List.filter_congr fun span _ => ?_
    rw [List.append_nil, decide_not, Bool.not_inj_iff, Bool.eq_iff_iff, List.contains_iff_mem,
      decide_eq_true_iff, mem_thorough_keys]
  rw [thorough, lookup_register, candidatesOf_append, own, distinct_append,
    distinct_family _ _ (spansOf_nodup text.lines pattern), fresh, List.map_append, List.map_map]
  rfl

/-- To register one more pattern leaves the blocks as they are and adds what the pattern finds at
other places. No two blocks stand at the same place, and whatever some pattern finds has a block,
made by the family of the first pattern that finds it. -/
theorem complete_register (detector : Detector) (quiet : detector.registry.Quiet) (pattern : Pattern)
    (patternQuiet : pattern.Quiet) (text : Text) :
    let language := pattern.language
    let extended : Detector := { detector with registry := detector.registry.register pattern }
    let blocks := detector.complete text language
    let all := extended.complete text language
    all = blocks ++ ((spansOf text.lines pattern).filter fun span =>
        span.positionKey ∉ blocks.map Block.positionKey).map (fun span =>
          buildBlock text.lines language detector.previewLength span pattern.family) ∧
      (all.map Block.positionKey).Nodup ∧
      ∀ other ∈ extended.registry.lookup language, ∀ span ∈ spansOf text.lines other,
        ∃ first, earliest? text.lines (extended.registry.lookup language) span = some first ∧
          buildBlock text.lines language detector.previewLength span first.family ∈ all := by
  intro language extended blocks all
  have extendedQuiet : extended.registry.Quiet :=
    Registry.registerAll_quiet detector.registry [pattern] quiet
      (List.forall_mem_singleton.mpr patternQuiet)
  have before : blocks = detector.thorough text language := complete_thorough quiet text language
  have after : all = extended.thorough text language := complete_thorough extendedQuiet text language
  refine ⟨?_, ?_, fun other member span found => ?_⟩
  · rw [after, before]
    exact thorough_register detector pattern text
  · rw [after]
    exact thorough_keys_nodup extended text language
  · obtain ⟨first, earliest⟩ := earliest?_isSome member found
    refine ⟨first, earliest, ?_⟩
    rw [after]
    exact List.mem_map.mpr ⟨_, mem_distinct_earliest earliest, rfl⟩

/-- A further pattern takes each line that starts with a slash for a string. On a comment it finds
the place that is known already, and the block there keeps the preview of a comment. -/
theorem complete_register_overlapping :
    let whole : Matcher := .custom fun line =>
      pure (if line.head? = some '/' then some ⟨0, line.byteLength⟩ else none)
    let pattern : Pattern := ⟨"slashes", "c", whole, whole, some whole, true, .tripleQuote⟩
    let detector : Detector := ⟨Registry.builtin, 60⟩
    let text : Text := "/** a */\n/ b".toList
    let comment : Block := ⟨0, 0, 0, 8, "/** a */".toList, "a".toList, "c", true⟩
    let other : Block := ⟨1, 0, 1, 3, "/ b".toList, "/ b".toList, "c", true⟩
    detector.registry.Quiet ∧ pattern.Quiet ∧ detector.complete text "c" = [comment] ∧
      spansOf text.lines pattern = [⟨0, 0, 0, 8⟩, ⟨1, 0, 1, 3⟩] ∧
      ({ detector with registry := detector.registry.register pattern } : Detector).complete text "c" =
        [comment, other] := by
  intro whole pattern detector text comment other
  have whole_quiet : whole.Quiet := fun _ => rfl
  have pattern_quiet : pattern.Quiet :=
    ⟨whole_quiet, whole_quiet, fun _ rule => by
      cases rule
      exact whole_quiet⟩
  have blocks : detector.complete text "c" = [comment] := by decide +kernel
  have spans : spansOf text.lines pattern = [⟨0, 0, 0, 8⟩, ⟨1, 0, 1, 3⟩] := by decide +kernel
  refine ⟨Registry.builtin_quiet, pattern_quiet, blocks, spans, ?_⟩
  have added := (complete_register detector Registry.builtin_quiet pattern pattern_quiet text).1
  rw [blocks, spans] at added
  exact added.trans (by decide +kernel)

end Detector

end DocBlocks
