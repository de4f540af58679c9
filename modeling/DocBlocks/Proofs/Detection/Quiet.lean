/-
This file shows that patterns whose rules never cancel the detection leave its token alone.
-/

import DocBlocks.Proofs.Detection.Thorough
import DocBlocks.Settings.Basic
import DocBlocks.Worker

/-- Steps succeed only if each of them does. -/
theorem Except.ok_of_bind {ε α β : Type} {first : Except ε α} {next : α → Except ε β} {result : β}
    (done : (first >>= next) = .ok result) :
    ∃ value, first = .ok value ∧ next value = .ok result := by
  cases first with
  | error cause => cases done
  | ok value => exact ⟨value, rfl, done⟩

theorem Except.ok_of_mapError {ε ε' α : Type} {first : Except ε α} {explain : ε → ε'} {value : α}
    (done : first.mapError explain = .ok value) : first = .ok value := by
  cases first with
  | error cause => cases done
  | ok value => cases done; rfl

namespace DocBlocks

/-- The rule is a plain function of the line. It may fail, but it cancels nothing. -/
def Matcher.Quiet (matcher : Matcher) : Prop :=
  ∀ line, (matcher.find line).cancels = false

structure Pattern.Quiet (pattern : Pattern) : Prop where
  opening : pattern.opening.Quiet
  closing : pattern.closing.Quiet
  singleLine : ∀ matcher, pattern.singleLine = some matcher → matcher.Quiet

def Registry.Quiet (registry : Registry) : Prop :=
  ∀ pattern ∈ registry.patterns, pattern.Quiet

namespace Trial

/-- Steps cancel nothing if none of them does. -/
theorem bind_cancels {α β : Type} (first : Trial α) (next : α → Trial β)
    (quiet : first.cancels = false) (nextQuiet : ∀ value, (next value).cancels = false) :
    (first >>= next).cancels = false := by
  change (first.bind next).cancels = false
  unfold bind
  split
  · exact quiet
  · simp only [quiet, nextQuiet, Bool.or_self]

end Trial

namespace Span

theorem columnOf_cancels (line : Text) (offset : Nat) : (columnOf line offset).cancels = false :=
  Trial.bind_cancels _ _ rfl fun _ => rfl

theorem markerColumn_cancels (line : Text) (offset : Nat) :
    (markerColumn line offset).cancels = false :=
  Trial.bind_cancels _ _ rfl fun _ => columnOf_cancels _ _

theorem trimmedColumn_cancels (line : Text) (range : ByteRange) :
    (trimmedColumn line range).cancels = false :=
  Trial.bind_cancels _ _ rfl fun _ => columnOf_cancels _ _

/-- The search for a closing marker cancels nothing if the rule does not. -/
theorem findClosing_cancels (closing : Matcher) (quiet : closing.Quiet) (lines : List Text) :
    (findClosing closing lines).cancels = false := by
  induction lines with
  | nil => rfl
  | cons line lines ih =>
      rw [findClosing]
      apply Trial.bind_cancels _ _ (quiet line)
      intro found
      cases found with
      | some range => rfl
      | none => exact Trial.bind_cancels _ _ ih fun _ => rfl

/-- The search for the end of a block cancels nothing. -/
theorem closingOf_cancels (pattern : Pattern) (quiet : pattern.Quiet) (opening : ByteRange)
    (line : Text) (later : List Text) (noneLater : Bool) :
    (closingOf pattern opening line later noneLater).cancels = false := by
  apply Trial.bind_cancels _ _ rfl
  intro remainder
  apply Trial.bind_cancels _ _ (quiet.closing remainder)
  intro found
  cases found with
  | some range => exact Trial.bind_cancels _ _ (columnOf_cancels _ _) fun _ => rfl
  | none =>
      apply Trial.bind_cancels _ _ (findClosing_cancels _ quiet.closing _)
      intro closed
      cases closed with
      | some place => exact Trial.bind_cancels _ _ (columnOf_cancels _ _) fun _ => rfl
      | none => rfl

/-- The search for an end on the opening line cancels nothing. -/
theorem singleLineEnd_cancels (pattern : Pattern) (quiet : pattern.Quiet) (line : Text) :
    (singleLineEnd pattern line).cancels = false := by
  unfold singleLineEnd
  split
  · rfl
  · rename_i matcher present
    apply Trial.bind_cancels _ _ (quiet.singleLine matcher present line)
    intro found
    cases found with
    | some range => exact Trial.bind_cancels _ _ (trimmedColumn_cancels _ _) fun _ => rfl
    | none => rfl

/-- The search for blocks with two markers cancels nothing. -/
theorem scanBlocks_cancels (pattern : Pattern) (quiet : pattern.Quiet) (noneLater : Bool)
    (index : Nat) (lines : List Text) :
    (scanBlocks pattern noneLater index lines).cancels = false := by
  induction noneLater, index, lines using scanBlocks.induct with
  | case1 noneLater index => rw [scanBlocks]; rfl
  | case2 noneLater index line later next afterBlock afterMissing =>
      rw [scanBlocks]
      apply Trial.bind_cancels _ _ (quiet.opening line)
      intro found
      cases found with
      | none => exact next
      | some opening =>
          apply Trial.bind_cancels _ _ (markerColumn_cancels _ _)
          intro column
          apply Trial.bind_cancels _ _ (singleLineEnd_cancels pattern quiet line)
          intro single
          cases single with
          | some endColumn => exact Trial.bind_cancels _ _ next fun _ => rfl
          | none =>
              apply Trial.bind_cancels _ _ (closingOf_cancels pattern quiet _ _ _ _)
              intro closing
              cases closing with
              | sameLine endColumn => exact Trial.bind_cancels _ _ next fun _ => rfl
              | laterLine before endColumn =>
                  exact Trial.bind_cancels _ _ (afterBlock before) fun _ => rfl
              | missing => exact afterMissing

/-- The search for the end of a run cancels nothing. -/
theorem runLength_cancels (opening : Matcher) (quiet : opening.Quiet) (last : Text)
    (lines : List Text) : (runLength opening last lines).cancels = false := by
  induction lines generalizing last with
  | nil => rfl
  | cons line lines ih =>
      rw [runLength]
      apply Trial.bind_cancels _ _ (Trial.bind_cancels _ _ (quiet line) fun _ => rfl)
      intro isMatch
      cases isMatch with
      | true => exact Trial.bind_cancels _ _ (ih line) fun _ => rfl
      | false => rfl

/-- The search for runs of marked lines cancels nothing. -/
theorem scanRuns_cancels (pattern : Pattern) (quiet : pattern.Quiet) (index : Nat)
    (lines : List Text) : (scanRuns pattern index lines).cancels = false := by
  induction index, lines using scanRuns.induct with
  | case1 index => rw [scanRuns]; rfl
  | case2 index line later next afterRun =>
      rw [scanRuns]
      apply Trial.bind_cancels _ _ (quiet.opening line)
      intro found
      cases found with
      | none => exact next
      | some opening =>
          apply Trial.bind_cancels _ _ (runLength_cancels _ quiet.opening _ _)
          intro run
          apply Trial.bind_cancels _ _ (markerColumn_cancels _ _)
          intro column
          exact Trial.bind_cancels _ _ (afterRun run.1) fun _ => rfl

/-- The scan of a quiet pattern cancels nothing. -/
theorem scan_cancels (pattern : Pattern) (quiet : pattern.Quiet) (lines : List Text) :
    (scan pattern lines).cancels = false := by
  unfold scan
  split
  · exact scanBlocks_cancels pattern quiet false 0 lines
  · exact scanRuns_cancels pattern quiet 0 lines

end Span

/-- An expression is a plain function of the line. -/
theorem Matcher.regex_quiet (expression : Regex.Expression) : (Matcher.regex expression).Quiet :=
  fun _ => rfl

namespace Registry

theorem registerAll_patterns (registry : Registry) (patterns : List Pattern) :
    (registry.registerAll patterns).patterns = registry.patterns ++ patterns := by
  induction patterns generalizing registry with
  | nil => simp [registerAll]
  | cons pattern patterns ih =>
      change ((registry.register pattern).registerAll patterns).patterns = _
      rw [ih (registry.register pattern)]
      simp [register]

/-- A registry stays quiet if the patterns it is given are. -/
theorem registerAll_quiet (registry : Registry) (patterns : List Pattern)
    (quiet : registry.Quiet) (patternsQuiet : ∀ pattern ∈ patterns, pattern.Quiet) :
    (registry.registerAll patterns).Quiet := by
  intro pattern member
  rw [registerAll_patterns, List.mem_append] at member
  exact member.elim (quiet pattern) (patternsQuiet pattern)

/-- The patterns that are known from the start are all made of expressions. -/
theorem builtin_quiet : Registry.builtin.Quiet := by
  apply registerAll_quiet
  · exact fun _ member => by cases member
  · intro pattern member
    simp only [Pattern.builtins, List.mem_append, List.mem_cons, List.mem_map, List.not_mem_nil,
      or_false] at member
    rcases member with (((same | same) | ⟨language, _, same⟩) | ⟨language, _, same⟩) | same
    · subst same
      exact ⟨Matcher.regex_quiet _, Matcher.regex_quiet _,
        fun _ present => by cases present; exact Matcher.regex_quiet _⟩
    · subst same
      exact ⟨Matcher.regex_quiet _, Matcher.regex_quiet _,
        fun _ present => by cases present; exact Matcher.regex_quiet _⟩
    · subst same
      exact ⟨Matcher.regex_quiet _, Matcher.regex_quiet _,
        fun _ present => by cases present; exact Matcher.regex_quiet _⟩
    · subst same
      exact ⟨Matcher.regex_quiet _, Matcher.regex_quiet _, fun _ absent => by cases absent⟩
    · subst same
      exact ⟨Matcher.regex_quiet _, Matcher.regex_quiet _, fun _ absent => by cases absent⟩

end Registry

namespace Pattern

/-- What compiles is an expression, so it is quiet. -/
theorem compile_quiet {language : String} {part : Part} {source : String} {matcher : Matcher}
    (compiled : compile language part source = .ok matcher) : matcher.Quiet := by
  unfold compile at compiled
  split at compiled
  · cases compiled
    exact Matcher.regex_quiet _
  · cases compiled

/-- The same holds for a rule that may be left out. -/
theorem compileOptional_quiet {language : String} {part : Part} {source : Option String}
    {found : Option Matcher} (compiled : compileOptional language part source = .ok found)
    (matcher : Matcher) (present : found = some matcher) : matcher.Quiet := by
  subst present
  cases source with
  | none => cases compiled
  | some source =>
      change (compile language part source).map some = _ at compiled
      cases inner : compile language part source with
      | error cause => rw [inner] at compiled; cases compiled
      | ok matcher => rw [inner] at compiled; cases compiled; exact compile_quiet inner

end Pattern

/-- A pattern that is described by expressions is quiet. -/
theorem PatternSpec.compile_quiet {spec : PatternSpec} {pattern : Pattern}
    (compiled : spec.compile = .ok pattern) : pattern.Quiet := by
  obtain ⟨_, _, compiled⟩ := Except.ok_of_bind compiled
  obtain ⟨opening, openingCompiled, compiled⟩ := Except.ok_of_bind compiled
  obtain ⟨closing, closingCompiled, compiled⟩ := Except.ok_of_bind compiled
  obtain ⟨single, singleCompiled, compiled⟩ := Except.ok_of_bind compiled
  cases compiled
  exact {
    opening := Pattern.compile_quiet openingCompiled
    closing := Pattern.compile_quiet closingCompiled
    singleLine := Pattern.compileOptional_quiet singleCompiled }

/-- The patterns of settings are quiet. -/
theorem Settings.compileFrom_quiet (specs : List PatternSpec) (index : Nat)
    (patterns : List Pattern) (compiled : compileFrom index specs = .ok patterns) :
    ∀ pattern ∈ patterns, pattern.Quiet := by
  induction specs generalizing index patterns with
  | nil => cases compiled; simp
  | cons spec specs ih =>
      obtain ⟨head, headCompiled, compiled⟩ := Except.ok_of_bind compiled
      obtain ⟨tail, tailCompiled, compiled⟩ := Except.ok_of_bind compiled
      cases compiled
      intro pattern member
      rcases List.mem_cons.mp member with same | later
      · subst pattern
        exact PatternSpec.compile_quiet (Except.ok_of_mapError headCompiled)
      · exact ih (index + 1) tail tailCompiled pattern later

namespace Detector

/-- A pass over quiet patterns cancels nothing. -/
theorem pass_cancels (lines : List Text) (cancelledBy : Nat → Bool) (index : Nat)
    (patterns : List Pattern) (quiet : ∀ pattern ∈ patterns, pattern.Quiet) :
    (pass lines cancelledBy index false patterns).cancels = false := by
  induction patterns generalizing index with
  | nil => rfl
  | cons pattern patterns ih =>
      rw [pass]
      split
      · rfl
      · dsimp only
        rw [Span.scan_cancels pattern (quiet pattern List.mem_cons_self) lines]
        exact ih (index + 1) fun other member => quiet other (List.mem_cons_of_mem _ member)

/-- A pass of a quiet detector over a text cancels nothing. -/
theorem passOver_cancels (detector : Detector) (quiet : detector.registry.Quiet) (text : Text)
    (language : String) (cancelledBy : Nat → Bool) :
    (detector.passOver text language cancelledBy).cancels = false :=
  pass_cancels _ _ _ _ fun pattern member => quiet pattern (List.mem_of_mem_filter member)

end Detector

/-- A search with quiet patterns leaves all tokens as they are. -/
theorem Worker.Request.run_cancellation (request : Request)
    (quiet : request.detector.registry.Quiet) (cancellation : Cancellation) :
    (request.run cancellation).2 = cancellation := by
  simp [run, Detector.passOver_cancels _ quiet]

end DocBlocks
