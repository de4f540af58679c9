/-
This file shows what is left of a search that is cancelled before all patterns have run, and that a
pattern which fails is as good as none.
-/

import DocBlocks.Proofs.Detection.Precedence

namespace DocBlocks

/-- Patterns of a language are all looked up again in a registry of their own. -/
theorem Registry.lookup_of_subset {registry : Registry} {language : String} {patterns : List Pattern}
    (subset : patterns ⊆ registry.lookup language) :
    (⟨patterns⟩ : Registry).lookup language = patterns :=
  List.filter_eq_self.mpr fun _ member => (List.mem_filter.mp (subset member)).2

namespace Detector

/-- By the time the pattern of this number is about to run, the search is cancelled, from outside or
by a matcher of a pattern before it. -/
def cancelledBefore (lines : List Text) (cancelledBy : Nat → Bool) (patterns : List Pattern)
    (index : Nat) : Bool :=
  cancelledBy index || (patterns.take index).any fun pattern => (Span.scan pattern lines).cancels

/-- The number of the first pattern that does not run because the search is cancelled. -/
def stoppedAt? (lines : List Text) (cancelledBy : Nat → Bool) (patterns : List Pattern) : Option Nat :=
  (List.range patterns.length).find? (cancelledBefore lines cancelledBy patterns)

/-- The pattern does not fail on the lines. -/
def succeeds (lines : List Text) (pattern : Pattern) : Bool :=
  (Span.scan pattern lines).outcome.isSome

/-- The numbers of the patterns that do not fail, counted from `index` on. -/
def successes (lines : List Text) (index : Nat) (patterns : List Pattern) : List Nat :=
  ((patterns.zipIdx index).filter fun numbered => succeeds lines numbered.1).map Prod.snd

/-- The search without the patterns that fail is cancelled before a pattern if it is in the search
with them. -/
def withoutFailed (lines : List Text) (cancelledBy : Nat → Bool) (patterns : List Pattern)
    (position : Nat) : Bool :=
  (successes lines 0 patterns)[position]?.any (cancelledBefore lines cancelledBy patterns)

variable {lines : List Text} {cancelledBy : Nat → Bool}

/-- After the patterns `done` a pass that is not stopped yet has it right whether the next of the
patterns may run. -/
def Aware (lines : List Text) (cancelledBy : Nat → Bool) (done patterns : List Pattern)
    (cancels : Bool) : Prop :=
  (cancels || cancelledBy done.length) =
    cancelledBefore lines cancelledBy (done ++ patterns) done.length

/-- Before a pattern, the detection is cancelled from outside or by one of the earlier patterns. -/
theorem cancelledBefore_length (done patterns : List Pattern) :
    cancelledBefore lines cancelledBy (done ++ patterns) done.length =
      (cancelledBy done.length || done.any fun pattern => (Span.scan pattern lines).cancels) := by
  rw [cancelledBefore, List.take_left]

/-- At first nothing has been cancelled. -/
theorem Aware.start (patterns : List Pattern) : Aware lines cancelledBy [] patterns false := by
  rw [Aware, cancelledBefore_length]
  simp

/-- Once a pattern has run, the pass knows whether that has cancelled the search. -/
theorem Aware.next {done patterns : List Pattern} {pattern : Pattern}
    (running : cancelledBefore lines cancelledBy (done ++ pattern :: patterns) done.length = false) :
    Aware lines cancelledBy (done ++ [pattern]) patterns (Span.scan pattern lines).cancels := by
  rw [cancelledBefore_length, Bool.or_eq_false_iff] at running
  rw [Aware, cancelledBefore_length, List.any_append, running.2, Bool.false_or, Bool.or_comm]
  simp

/-- The number of the first pattern that does not run, where the patterns `done` have run. -/
def haltAfter? (lines : List Text) (cancelledBy : Nat → Bool) (done patterns : List Pattern) :
    Option Nat :=
  (List.range' done.length patterns.length).find?
    (cancelledBefore lines cancelledBy (done ++ patterns))

/-- The detection halts before the first pattern that finds it cancelled. -/
theorem haltAfter?_cons (done patterns : List Pattern) (pattern : Pattern) :
    haltAfter? lines cancelledBy done (pattern :: patterns) =
      if cancelledBefore lines cancelledBy (done ++ pattern :: patterns) done.length then
        some done.length
      else haltAfter? lines cancelledBy (done ++ [pattern]) patterns := by
  rw [haltAfter?, haltAfter?, List.length_cons, List.range'_succ, List.find?_cons, ← List.append_cons,
    List.length_append, List.length_singleton]
  cases cancelledBefore lines cancelledBy (done ++ pattern :: patterns) done.length <;> rfl

theorem le_haltAfter? (lines : List Text) (cancelledBy : Nat → Bool) (done patterns : List Pattern) :
    done.length ≤ (haltAfter? lines cancelledBy done patterns).getD (done ++ patterns).length := by
  cases halt : haltAfter? lines cancelledBy done patterns with
  | none => simp
  | some index => exact (List.mem_range'_1.mp (List.mem_of_find?_eq_some halt)).1

/-- The patterns before the first one that the search is cancelled before are those that run. -/
theorem pass_halts (done patterns : List Pattern) (cancels : Bool)
    (aware : Aware lines cancelledBy done patterns cancels) :
    let halt? := haltAfter? lines cancelledBy done patterns
    let found := pass lines cancelledBy done.length cancels patterns
    found.stopped = halt?.isSome ∧
      found.candidates = candidatesOf lines
        (patterns.take (halt?.getD (done ++ patterns).length - done.length)) := by
  induction patterns generalizing done cancels with
  | nil => exact ⟨rfl, by rw [List.take_nil]; rfl⟩
  | cons pattern patterns ih =>
      dsimp only
      rw [pass, haltAfter?_cons, aware]
      split
      · rw [Option.getD_some, Nat.sub_self]
        exact ⟨rfl, rfl⟩
      · rename_i running
        rw [Bool.not_eq_true] at running
        obtain ⟨stopped, candidates⟩ := ih (done ++ [pattern]) _ (Aware.next running)
        have beyond := le_haltAfter? lines cancelledBy (done ++ [pattern]) patterns
        rw [← List.append_cons] at candidates beyond
        rw [List.length_append, List.length_singleton] at stopped candidates beyond
        refine ⟨stopped, ?_⟩
        obtain ⟨more, stop⟩ := Nat.exists_eq_add_of_le beyond
        rw [stop, Nat.add_sub_cancel_left] at candidates
        have ran : done.length + 1 + more - done.length = more + 1 := by omega
        rw [stop, ran, List.take_succ_cons]
        exact congrArg _ candidates

/-- A detection goes as far as the patterns run. -/
theorem run_halts (detector : Detector) (text : Text) (language : String) (cancelledBy : Nat → Bool) :
    let patterns := detector.registry.lookup language
    let halt? := stoppedAt? text.lines cancelledBy patterns
    detector.run text language cancelledBy =
      ⟨(distinct [] (candidatesOf text.lines (patterns.take (halt?.getD patterns.length)))).map
        fun (span, family) => buildBlock text.lines language detector.previewLength span family,
        halt?.isSome⟩ := by
  intro patterns halt?
  have same : haltAfter? text.lines cancelledBy [] patterns = halt? :=
    congrArg (List.find? _) List.range_eq_range'.symm
  obtain ⟨stopped, candidates⟩ := pass_halts [] patterns false (Aware.start patterns)
  rw [same] at stopped candidates
  rw [run, detectionOf, passOver]
  exact congrArg₂ _ (congrArg _ (congrArg _ candidates)) stopped

/-- A search that nothing stops is thorough. -/
theorem run_unstopped (detector : Detector) (text : Text) (language : String)
    (cancelledBy : Nat → Bool)
    (unstopped : stoppedAt? text.lines cancelledBy (detector.registry.lookup language) = none) :
    detector.run text language cancelledBy = ⟨detector.thorough text language, false⟩ := by
  rw [run_halts, unstopped, Option.getD_none, List.take_length]
  rfl

theorem successes_cons (index : Nat) (pattern : Pattern) (patterns : List Pattern) :
    successes lines index (pattern :: patterns) =
      if succeeds lines pattern then index :: successes lines (index + 1) patterns
      else successes lines (index + 1) patterns := by
  rw [successes, List.zipIdx_cons, List.filter_cons]
  split <;> rfl

/-- No number is less than the one counted from. -/
theorem le_of_mem_successes {index position : Nat} {patterns : List Pattern}
    (member : position ∈ successes lines index patterns) : index ≤ position := by
  obtain ⟨⟨pattern, number⟩, numbered, rfl⟩ := List.mem_map.mp member
  exact (List.mk_mem_zipIdx_iff_le_and_getElem?_sub.mp (List.mem_of_mem_filter numbered)).1

/-- The search stays cancelled before later patterns. -/
theorem cancelledBefore_mono
    (lasting : ∀ index, cancelledBy index = true → cancelledBy (index + 1) = true)
    {patterns : List Pattern} {first second : Nat} (order : first ≤ second)
    (cancelled : cancelledBefore lines cancelledBy patterns first = true) :
    cancelledBefore lines cancelledBy patterns second = true := by
  rw [cancelledBefore, Bool.or_eq_true] at cancelled ⊢
  refine cancelled.imp (fun outside => ?_) fun inside => ?_
  · induction order with
    | refl => exact outside
    | step _ later => exact lasting _ later
  · obtain ⟨pattern, member, cancels⟩ := List.any_eq_true.mp inside
    exact List.any_eq_true.mpr ⟨pattern, List.take_subset_take_left _ order member, cancels⟩

/-- There are as many numbers as patterns that do not fail. -/
theorem successes_length (lines : List Text) (index : Nat) (patterns : List Pattern) :
    (successes lines index patterns).length = (patterns.filter (succeeds lines)).length := by
  induction patterns generalizing index with
  | nil => rfl
  | cons pattern patterns ih =>
      rw [successes_cons, List.filter_cons]
      split
      · rw [List.length_cons, List.length_cons, ih]
      · exact ih (index + 1)

/-- A pass that is cancelled at its start finds nothing. -/
theorem pass_halted_candidates {index : Nat} {cancels : Bool} {patterns : List Pattern}
    (halted : cancelledBy index = true) :
    (pass lines cancelledBy index cancels patterns).candidates = [] := by
  cases patterns with
  | nil => rfl
  | cons pattern patterns => simp [pass, halted]

/-- A pass that goes on collects what its first pattern finds and what the others find. -/
theorem pass_running_candidates {index : Nat} {cancels : Bool} (pattern : Pattern)
    (patterns : List Pattern) (running : (cancels || cancelledBy index) = false) :
    (pass lines cancelledBy index cancels (pattern :: patterns)).candidates =
      (spansOf lines pattern).map (fun span => (span, pattern.family)) ++
        (pass lines cancelledBy (index + 1) (Span.scan pattern lines).cancels patterns).candidates := by
  rw [pass, running]
  rfl

/-- Once the search is cancelled, none of the patterns that do not fail runs any more. -/
theorem pass_cancelled {schedule : Nat → Bool} {noticed : Nat → Bool} {index position : Nat}
    {cancels : Bool} {patterns : List Pattern}
    (agrees : schedule position = (successes lines index patterns)[0]?.any noticed)
    (cancelled : ∀ later, index ≤ later → noticed later = true) :
    (pass lines schedule position cancels (patterns.filter (succeeds lines))).candidates = [] := by
  have counted := successes_length lines index patterns
  cases numbers : successes lines index patterns with
  | nil =>
      rw [numbers, List.length_nil, eq_comm, List.length_eq_zero_iff] at counted
      rw [counted]
      rfl
  | cons number others =>
      have member : number ∈ successes lines index patterns := by
        rw [numbers]
        exact List.mem_cons_self
      apply pass_halted_candidates
      rw [agrees, numbers]
      exact cancelled number (le_of_mem_successes member)

/-- To leave out the patterns that fail changes nothing, if the other ones are cancelled as
before. -/
theorem pass_without_failed
    (lasting : ∀ index, cancelledBy index = true → cancelledBy (index + 1) = true)
    (done patterns : List Pattern) (cancels : Bool)
    (aware : Aware lines cancelledBy done patterns cancels) (schedule : Nat → Bool) (position : Nat)
    (cancelled : Bool)
    (agrees : ∀ count, schedule (position + count) = (successes lines done.length patterns)[count]?.any
      (cancelledBefore lines cancelledBy (done ++ patterns)))
    (known : cancelled = true →
      cancelledBefore lines cancelledBy (done ++ patterns) done.length = true) :
    (pass lines schedule position cancelled (patterns.filter (succeeds lines))).candidates =
      (pass lines cancelledBy done.length cancels patterns).candidates := by
  induction patterns generalizing done cancels position cancelled with
  | nil => rfl
  | cons pattern patterns ih =>
      have start : schedule position = _ := agrees 0
      cases noticed : cancelledBefore lines cancelledBy (done ++ pattern :: patterns) done.length with
      | true =>
          rw [pass_cancelled start fun later order => cancelledBefore_mono lasting order noticed, pass,
            aware, noticed]
          rfl
      | false =>
          have unknown : cancelled = false := by simpa [noticed] using known
          have next := ih (done ++ [pattern]) _ (Aware.next noticed)
          rw [← List.append_cons, List.length_append, List.length_singleton] at next
          rw [successes_cons] at agrees start
          rw [List.filter_cons, pass_running_candidates pattern patterns (aware.trans noticed)]
          split
          · rename_i succeeded
            rw [if_pos succeeded] at agrees start
            have running : (cancelled || schedule position) = false := by
              rw [unknown]
              exact start.trans noticed
            rw [pass_running_candidates pattern _ running]
            refine congrArg _ (next (position + 1) _ (fun count => ?_) fun cancels => ?_)
            · rw [Nat.add_assoc, Nat.add_comm 1]
              exact agrees (count + 1)
            · rw [cancelledBefore, List.any_eq_true.mpr ⟨pattern, ?_, cancels⟩, Bool.or_true]
              rw [List.append_cons, ← List.length_singleton, ← List.length_append, List.take_left]
              simp
          · rename_i failed
            rw [if_neg failed] at agrees
            have nothing : spansOf lines pattern = [] := by
              rw [succeeds, Option.not_isSome_iff_eq_none] at failed
              rw [spansOf, failed]
              rfl
            rw [nothing]
            exact next position cancelled agrees fun cancels =>
              absurd (unknown.symm.trans cancels) Bool.false_ne_true

/-- The patterns that run before a search is cancelled run to their end if there are no other
ones. -/
theorem stoppedAt?_take {patterns : List Pattern} {count : Nat}
    (stopped : stoppedAt? lines cancelledBy patterns = some count) :
    stoppedAt? lines (fun _ => false) (patterns.take count) = none := by
  obtain ⟨_, _, running⟩ := List.find?_range_eq_some.mp stopped
  rw [stoppedAt?, List.find?_eq_none]
  intro index inside
  have before : index < count :=
    Nat.lt_of_lt_of_le (List.mem_range.mp inside) (List.length_take_le count patterns)
  have unnoticed : cancelledBefore lines cancelledBy patterns index = false := by
    simpa using running index before
  rw [cancelledBefore, Bool.or_eq_false_iff] at unnoticed
  rw [cancelledBefore, List.take_take, Nat.min_eq_left (Nat.le_of_lt before), unnoticed.2]
  exact Bool.false_ne_true

/-- The blocks of a search that is cancelled are those of the patterns before, and the first of
all. -/
theorem run_blocks_isPrefix (detector : Detector) (text : Text) (language : String)
    (cancelledBy : Nat → Bool) :
    (detector.run text language cancelledBy).blocks <+: detector.thorough text language := by
  rw [run_halts, thorough]
  apply List.IsPrefix.map
  generalize (stoppedAt? _ _ _).getD _ = count
  have divided := candidatesOf_append text.lines ((detector.registry.lookup language).take count)
    ((detector.registry.lookup language).drop count)
  rw [List.take_append_drop] at divided
  rw [divided, distinct_append]
  exact List.prefix_append _ _

/-- If a search is cancelled before a pattern, then its blocks are those of a search with the
patterns before that one, and they are the first blocks of a search that is not cancelled. A pattern
that fails changes nothing about the blocks. -/
theorem run_interrupted (detector : Detector) (text : Text) (language : String)
    (cancelledBy : Nat → Bool)
    (lasting : ∀ index, cancelledBy index = true → cancelledBy (index + 1) = true) :
    let patterns := detector.registry.lookup language
    let withOnly (patterns : List Pattern) : Detector := { detector with registry := ⟨patterns⟩ }
    let result := detector.run text language cancelledBy
    (∀ count, stoppedAt? text.lines cancelledBy patterns = some count → result.cancelled = true ∧
      (withOnly (patterns.take count)).run text language (fun _ => false) = ⟨result.blocks, false⟩) ∧
    result.blocks <+: detector.thorough text language ∧
    (∀ others, stoppedAt? text.lines others patterns = none →
      detector.run text language others = ⟨detector.thorough text language, false⟩) ∧
    ((withOnly (patterns.filter (succeeds text.lines))).run text language
      (withoutFailed text.lines cancelledBy patterns)).blocks = result.blocks := by
  intro patterns withOnly result
  have ran : result = _ := run_halts detector text language cancelledBy
  refine ⟨fun count stopped => ?_, run_blocks_isPrefix detector text language cancelledBy,
    run_unstopped detector text language, ?_⟩
  · have looked : (withOnly (patterns.take count)).registry.lookup language = patterns.take count :=
      Registry.lookup_of_subset (List.take_subset count patterns)
    have unstopped : stoppedAt? text.lines (fun _ => false)
        ((withOnly (patterns.take count)).registry.lookup language) = none := by
      rw [looked]
      exact stoppedAt?_take stopped
    rw [run_unstopped _ text language _ unstopped, ran, stopped, thorough, looked]
    exact ⟨rfl, rfl⟩
  · have looked : (withOnly (patterns.filter (succeeds text.lines))).registry.lookup language =
        patterns.filter (succeeds text.lines) :=
      Registry.lookup_of_subset fun _ => List.mem_of_mem_filter
    have same := pass_without_failed lasting [] patterns false (Aware.start patterns)
      (withoutFailed text.lines cancelledBy patterns) 0 false
      (fun count => by rw [Nat.zero_add]; rfl) fun cancels => absurd cancels Bool.false_ne_true
    refine congrArg (List.map _) (congrArg _ ?_)
    rw [passOver, looked]
    exact same

/-- The second of four patterns fails, and the search is cancelled before the last one. -/
theorem run_interrupted_failing :
    let pattern (rule : Matcher) : Pattern :=
      ⟨"pattern", "c", rule, rule, some rule, true, .blockComment⟩
    let lineOf (first : Char) : Pattern := pattern (.custom fun line =>
      pure (if line.head? = some first then some ⟨0, line.byteLength⟩ else none))
    let failing := pattern (.custom fun _ => .failed)
    let withOnly (patterns : List Pattern) : Detector := ⟨⟨patterns⟩, 60⟩
    let patterns := [lineOf 'b', failing, lineOf 'a', lineOf 'c']
    let text : Text := "a\nb\nc".toList
    let cancelledBy (index : Nat) : Bool := 3 ≤ index
    let block (index : Nat) (line : Text) : Block := ⟨index, 0, index, 1, line, line, "c", true⟩
    let found := [block 1 ['b'], block 0 ['a']]
    (∀ index, cancelledBy index = true → cancelledBy (index + 1) = true) ∧
      stoppedAt? text.lines cancelledBy patterns = some 3 ∧
      (withOnly patterns).run text "c" cancelledBy = ⟨found, true⟩ ∧
      (withOnly (patterns.take 3)).run text "c" (fun _ => false) = ⟨found, false⟩ ∧
      found <+: (withOnly patterns).thorough text "c" ∧
      ((withOnly (patterns.filter (succeeds text.lines))).run text "c"
        (withoutFailed text.lines cancelledBy patterns)).blocks = found := by
  intro pattern lineOf failing withOnly patterns text cancelledBy block found
  have lasting : ∀ index, cancelledBy index = true → cancelledBy (index + 1) = true := by
    intro index cancelled
    exact decide_eq_true (Nat.le_succ_of_le (of_decide_eq_true cancelled))
  have stopped : stoppedAt? text.lines cancelledBy patterns = some 3 := by decide +kernel
  have ran : (withOnly patterns).run text "c" cancelledBy = ⟨found, true⟩ := by decide +kernel
  have looked : (withOnly patterns).registry.lookup "c" = patterns := rfl
  have interrupted := run_interrupted (withOnly patterns) text "c" cancelledBy lasting
  dsimp only at interrupted
  rw [looked, ran] at interrupted
  obtain ⟨before, first, _, without⟩ := interrupted
  exact ⟨lasting, stopped, ran, (before 3 stopped).2, first, without⟩

end Detector

end DocBlocks
