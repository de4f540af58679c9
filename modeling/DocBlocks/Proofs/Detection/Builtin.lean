/-
This file compares the blocks that the patterns known from the start find with those of the comment
syntaxes they are meant for, and so reads their expressions as conditions on texts.
-/

import DocBlocks.Proofs.Detection.Markers
import DocBlocks.Proofs.Detection.Quiet
import DocBlocks.Proofs.Regex.Leftover
import DocBlocks.Proofs.Text.Lines
import DocBlocks.Proofs.Text.Trim

namespace DocBlocks

open Text
open Regex (Leave ofParts letters leftLast? withoutOther?)

namespace Markers

/-- Comments that open with `/**` at the end of a line or before a character other than `/` and
`*`, and end with the last `*/` of the line they open on, or else with the first of a later line. -/
def comments : Markers where
  opened? line := (after? "/**".toList (trimStart line)).filter fun rest =>
    rest.head?.all fun character => character ≠ '/' ∧ character ≠ '*'
  endOnLine? line rest := (afterLast? "*/".toList rest).map (columnOfRest line)
  closing := "*/".toList

/-- The letters that may stand before the quotes of a string. -/
def stringLetters : List Char :=
  ['r', 'R', 'u', 'U', 'b', 'B']

/-- Strings between quotes. If the quotes are the last visible characters of the line the string
opens on, then it ends there. Otherwise it ends with the first quotes that follow. -/
def strings (quotes : Text) : Markers where
  opened? line := after? quotes (withoutLetter stringLetters (trimStart line))
  endOnLine? line rest :=
    if quotes <:+ trimEnd rest then some (trimEnd line).length
    else (cutAt? quotes rest).map fun (_, left) => columnOfRest line left
  closing := quotes

end Markers

open Markers (comments strings stringLetters columnOfRest)

/-- The rule is what the text of its expression compiles to. -/
def Matcher.Compiled (matcher : Matcher) : Prop :=
  ∃ expression, matcher = .regex expression ∧
    Regex.Expression.compile expression.source = .ok expression

/-- A rule is compiled if its expression is what compiling its text leaves as an option. -/
theorem Matcher.compiled_of_toOption {expression : Regex.Expression}
    (same : (Regex.Expression.compile expression.source).toOption = some expression) :
    (Matcher.regex expression).Compiled := by
  refine ⟨expression, rfl, ?_⟩
  cases compiled : Regex.Expression.compile expression.source with
  | ok other =>
      rw [compiled] at same
      exact congrArg Except.ok (Option.some.inj same)
  | error cause =>
      rw [compiled] at same
      cases same

namespace Pattern

/-- All rules of the pattern are what their texts compile to. -/
structure Compiled (pattern : Pattern) : Prop where
  opening : pattern.opening.Compiled
  closing : pattern.closing.Compiled
  singleLine : ∀ matcher, pattern.singleLine = some matcher → matcher.Compiled

/-- The rules for comments are what their texts compile to. -/
theorem blockCommentFor_compiled (language : String) : (blockCommentFor language).Compiled where
  opening := Matcher.compiled_of_toOption (by decide +kernel)
  closing := Matcher.compiled_of_toOption (by decide +kernel)
  singleLine matcher rule := by
    cases rule
    exact Matcher.compiled_of_toOption (by decide +kernel)

/-- The rule for three slashes is what its text compiles to. -/
theorem tripleSlashFor_compiled (language : String) : (tripleSlashFor language).Compiled := by
  have compiled : (Matcher.regex slashOpening).Compiled :=
    Matcher.compiled_of_toOption (by decide +kernel)
  exact ⟨compiled, compiled, fun matcher rule => by cases rule⟩

/-- The rule for inner comments is what its text compiles to. -/
theorem innerDoc_compiled : innerDoc.Compiled := by
  have compiled : (Matcher.regex innerOpening).Compiled :=
    Matcher.compiled_of_toOption (by decide +kernel)
  exact ⟨compiled, compiled, fun matcher rule => by cases rule⟩

/-- The rules for both kinds of quotes are what their texts compile to. -/
theorem tripleQuotes_compiled (name : String) {quote : String}
    (known : quote ∈ ["\"\"\"", "'''"]) : (tripleQuotes name quote).Compiled := by
  rcases List.mem_pair.mp known with rfl | rfl
  all_goals
    refine ⟨Matcher.compiled_of_toOption (by decide +kernel),
      Matcher.compiled_of_toOption (by decide +kernel), fun matcher rule => ?_⟩
    cases rule
    exact Matcher.compiled_of_toOption (by decide +kernel)

/-- The rules of the patterns known from the start are written twice, as texts and as expressions.
The expressions are what the texts compile to. -/
theorem builtins_compiled : ∀ pattern ∈ builtins, pattern.Compiled := by
  intro pattern member
  simp only [builtins, List.mem_append, List.mem_map, List.mem_cons, List.not_mem_nil, or_false]
    at member
  rcases member with (((rfl | rfl) | ⟨language, _, rfl⟩) | ⟨language, _, rfl⟩) | rfl
  · exact tripleQuotes_compiled _ (by decide)
  · exact tripleQuotes_compiled _ (by decide)
  · exact blockCommentFor_compiled language
  · exact tripleSlashFor_compiled language
  · exact innerDoc_compiled

/-- The expression that opens a comment is a row of simple parts. -/
theorem commentOpening_parts : commentOpening.regex = ofParts (.edge .textStart :: .many .blank ::
    (letters "/**".toList ++ [.oneOrEdge (.complement (.ofChars ['/', '*'])) .textEnd])) := rfl

theorem commentClosing_parts : commentClosing.regex = ofParts (letters "*/".toList) := rfl

/-- The expression for a comment on a single line is a row of simple parts. -/
theorem commentSingle_parts : commentSingle.regex = ofParts (.edge .textStart :: .many .blank ::
    (letters "/**".toList ++ .many (.complement (.single '\n')) :: (letters "*/".toList ++ []))) := rfl

/-- A text is written as the letters of a marker. -/
theorem characters_eq (text : String) :
    characters text = (letters text.toList).map Regex.Part.regex := by
  rw [letters, List.map_map]
  rfl

/-- The expression that opens a string is a row of simple parts. -/
theorem quoteOpening_parts (quote : String) : (quoteOpening quote).regex =
    ofParts (.edge .textStart :: .many .blank :: .atMostOne (.ofChars stringLetters) ::
      (letters quote.toList ++ [])) := by
  change Regex.sequence ([.look .textStart, blanks, stringLetter] ++ characters quote) = _
  rw [characters_eq, List.append_nil]
  rfl

/-- The expression for a string on a single line is a row of simple parts. -/
theorem quoteSingle_parts (quote : String) : (quoteSingle quote).regex =
    ofParts (.edge .textStart :: .many .blank :: .atMostOne (.ofChars stringLetters) ::
      (letters quote.toList ++ .many (.complement (.single '\n')) ::
        (letters quote.toList ++ [.many .blank, .edge .textEnd]))) := by
  change Regex.sequence ([.look .textStart, blanks, stringLetter] ++ characters quote ++ [anything] ++
    characters quote ++ [blanks, .look .textEnd]) = _
  rw [characters_eq, ofParts]
  simp only [List.map_cons, List.map_append, List.append_assoc]
  rfl

theorem quoteClosing_parts (quote : String) :
    (quoteClosing quote).regex = ofParts (letters quote.toList) :=
  congrArg Regex.sequence (characters_eq quote)

/-- A rule for a closing marker finds it where it first occurs. -/
theorem find_letters {expression : Regex.Expression} {marker : Text}
    (parts : expression.regex = ofParts (letters marker)) (text : Text) :
    (Matcher.regex expression).find text = pure ((cutAt? marker text).map fun (before, _) =>
      ⟨byteLength before, byteLength before + byteLength marker⟩) := by
  rw [Matcher.find, parts, Regex.find?_letters, Option.map_map]
  rfl

/-- A rule that is bound to the start of the line takes what it does not leave. -/
theorem find_anchored {expression : Regex.Expression} {parts : List Regex.Part}
    {left? : Text → Option Text} (row : expression.regex = ofParts (.edge .textStart :: parts))
    (leave : Leave parts left?) {line : Text} (feedless : '\n' ∉ line) :
    left? line = none ∧ (Matcher.regex expression).find line = pure none ∨
      ∃ taken rest, left? line = some rest ∧ line = taken ++ rest ∧
        (Matcher.regex expression).find line = pure (some ⟨0, byteLength taken⟩) := by
  obtain ⟨length, measures, found⟩ := leave.find? feedless
  rw [Matcher.find, row, found]
  generalize left : left? line = remaining at measures
  cases measures with
  | failed => exact Or.inl ⟨rfl, rfl⟩
  | read taken rest whole => exact Or.inr ⟨taken, rest, rfl, whole, rfl⟩

/-- A marker is not found where its first character is not. -/
theorem after?_stops {marker : Text} {first character : Char} (starts : marker.head? = some first)
    (other : first ≠ character) (rest : Text) : after? marker (character :: rest) = none := by
  cases marker with
  | nil => cases starts
  | cons head marker =>
      cases starts
      rw [after?, if_neg other]

/-- A visible character differs from a blank one. -/
theorem ne_of_blank {first character : Char} (visible : isBlank first = false)
    (blank : isBlank character = true) : first ≠ character := by
  rintro rfl
  rw [visible] at blank
  cases blank

/-- White space before a marker is skipped as a whole, because a marker does not begin with it. -/
theorem leave_marker {marker : Text} {first : Char} (starts : marker.head? = some first)
    (visible : isBlank first = false) {parts : List Regex.Part} {left? : Text → Option Text}
    (leave : Leave parts left?) :
    Leave (.many .blank :: (letters marker ++ parts))
      fun line => (after? marker (trimStart line)).bind left? := by
  refine (leave.letters marker).blanks fun character rest blank => ?_
  rw [after?_stops starts (ne_of_blank visible blank)]
  rfl

/-- The opening rule of comments leaves what follows the marker and the character after it. -/
theorem commentOpening_leaves :
    Leave (.many .blank :: (letters "/**".toList ++
      [.oneOrEdge (.complement (.ofChars ['/', '*'])) .textEnd]))
      fun line => (after? "/**".toList (trimStart line)).bind (withoutOther? ['/', '*']) :=
  leave_marker rfl (by decide) (.otherThan (Regex.ofChars_contains ['/', '*']))

/-- As many characters as possible before a marker leave what follows the last of the markers. -/
theorem leftLast?_after (marker text : Text) :
    leftLast? (fun text => (after? marker text).bind some) text = afterLast? marker text := by
  induction text with
  | nil => exact Option.bind_fun_some _
  | cons character rest ih => rw [leftLast?, ih, Option.bind_fun_some, afterLast?]

/-- The rule for a comment on one line leaves what follows the last closing marker. -/
theorem commentSingle_leaves :
    Leave (.many .blank :: (letters "/**".toList ++
      .many (.complement (.single '\n')) :: (letters "*/".toList ++ [])))
      fun line => (after? "/**".toList (trimStart line)).bind (afterLast? "*/".toList) := by
  have last := (Leave.nothing.letters "*/".toList).anything.congr fun line _ =>
    leftLast?_after "*/".toList line
  exact leave_marker rfl (by decide) last

/-- As many characters as possible before a marker at the end of a line, white space apart, leave
nothing. -/
theorem leftLast?_ending {marker : Text} (solid : Solid marker) (line : Text) :
    leftLast? (fun text => (after? marker text).bind fun rest =>
      if trimStart rest = [] then some [] else none) line =
        if marker <:+ trimEnd line then some [] else none := by
  induction line with
  | nil =>
      obtain ⟨front, last, rfl, _⟩ := solid
      cases front <;> simp [leftLast?, after?, trimEnd]
  | cons character rest ih =>
      rw [leftLast?, ih]
      have ends := suffix_trimEnd_cons solid character rest
      by_cases later : marker <:+ trimEnd rest
      · rw [if_pos later, if_pos (ends.mpr (Or.inl later))]
        rfl
      · rw [if_neg later]
        cases left : after? marker (character :: rest) with
        | none =>
            have unended : ¬ marker <:+ trimEnd (character :: rest) := by
              rintro ended
              obtain ⟨blanks, whole, _⟩ := (ends.mp ended).resolve_left later
              rw [(after?_eq_some _ _ _).mpr whole] at left
              cases left
            rw [if_neg unended]
            rfl
        | some blanks =>
            have whole := (after?_eq_some _ _ _).mp left
            have blank : trimStart blanks = [] ↔ marker <:+ trimEnd (character :: rest) := by
              refine ⟨fun blank => ends.mpr (Or.inr ⟨blanks, whole, blank⟩), fun ended => ?_⟩
              obtain ⟨others, same, blank⟩ := (ends.mp ended).resolve_left later
              rwa [List.append_cancel_left (whole.symm.trans same)]
            simp [blank]

/-- What the quotes of a string must be like for their expressions to read as intended. -/
structure Quoting (quotes : Text) : Prop where
  starts : ∃ first, quotes.head? = some first ∧ isBlank first = false ∧ first ∉ stringLetters
  solid : Solid quotes

/-- Neither white space nor a letter is skipped in vain before quotes. -/
theorem Quoting.skips {quotes : Text} (quoting : Quoting quotes) {parts : List Regex.Part}
    {left? : Text → Option Text} (leave : Leave parts left?) :
    Leave (.many .blank :: .atMostOne (.ofChars stringLetters) :: (letters quotes ++ parts))
      fun line => (after? quotes (withoutLetter stringLetters (trimStart line))).bind left? := by
  obtain ⟨first, starts, visible, noLetter⟩ := quoting.starts
  have stops {character : Char} (other : first ≠ character) (rest : Text) :
      (after? quotes (character :: rest)).bind left? = none := by
    rw [after?_stops starts other]
    rfl
  refine ((leave.letters quotes).letter stringLetters fun character rest member => ?_).blanks
    fun character rest blank => ?_
  · exact stops (fun same => noLetter (same ▸ member)) rest
  · have visibleLetters : (stringLetters.all fun letter => !isBlank letter) = true := by decide
    have unlettered : character ∉ stringLetters := fun member =>
      ne_of_blank (by simpa using List.all_eq_true.mp visibleLetters character member) blank rfl
    rw [withoutLetter, if_neg unlettered]
    exact stops (ne_of_blank visible blank) rest

/-- The rule for a string on one line leaves nothing if the quotes are the last that is visible. -/
theorem Quoting.single {quotes : Text} (quoting : Quoting quotes) :
    Leave (.many .blank :: .atMostOne (.ofChars stringLetters) ::
      (letters quotes ++ .many (.complement (.single '\n')) ::
        (letters quotes ++ [.many .blank, .edge .textEnd])))
      fun line => (after? quotes (withoutLetter stringLetters (trimStart line))).bind fun rest =>
        if quotes <:+ trimEnd rest then some [] else none := by
  have ending := Leave.lineEnd.blanks fun _ _ _ => rfl
  exact quoting.skips ((ending.letters quotes).anything.congr fun line _ =>
    leftLast?_ending quoting.solid line)

/-- The end column by the rule for single lines is that of the visible part of what it takes. -/
theorem singleLineEnd_taken {pattern : Pattern} {matcher : Matcher} {line taken rest : Text}
    (rule : pattern.singleLine = some matcher) (whole : line = taken ++ rest)
    (found : matcher.find line = pure (some ⟨0, byteLength taken⟩)) :
    Span.singleLineEnd pattern line = pure (some (trimEnd taken).length) := by
  obtain ⟨blanks, trimmed, _⟩ := exists_blanks taken
  have slice : line.sliceBytes? 0 (byteLength taken) = some taken := by
    rw [sliceBytes?, if_pos (Nat.zero_le _), whole, takeBytes?_append]
    exact dropBytes?_append [] taken
  have column : Span.columnOf line (byteLength (trimEnd taken)) = pure (trimEnd taken).length := by
    rw [whole]
    nth_rewrite 1 [trimmed]
    rw [List.append_assoc, Span.columnOf_append]
  rw [Span.singleLineEnd, rule]
  simp [found, Span.trimmedColumn, slice, column]

/-- Without a match of the rule, no block ends on its own line by it. -/
theorem singleLineEnd_missing {pattern : Pattern} {matcher : Matcher} {line : Text}
    (rule : pattern.singleLine = some matcher) (missing : matcher.find line = pure none) :
    Span.singleLineEnd pattern line = pure none := by
  rw [Span.singleLineEnd, rule]
  simp [missing]

/-- The opening rule takes the character after the opening marker too, if there is one. -/
theorem comments_opened (line : Text) :
    (after? "/**".toList (trimStart line)).bind (withoutOther? ['/', '*']) =
      (comments.opened? line).map (List.drop 1) := by
  change _ = ((after? "/**".toList (trimStart line)).filter _).map _
  cases after? "/**".toList (trimStart line) with
  | none => rfl
  | some rest =>
      cases rest with
      | nil => rfl
      | cons character rest =>
          by_cases slash : character = '/'
          · simp [withoutOther?, Option.filter, slash]
          · by_cases star : character = '*' <;> simp [withoutOther?, Option.filter, slash, star]

/-- What the rule for single lines takes ends in the closing marker. -/
theorem comment_solid {line rest taken remaining : Text}
    (opened : after? "/**".toList (trimStart line) = some rest)
    (closed : afterLast? "*/".toList rest = some remaining) (divided : line = taken ++ remaining) :
    Solid taken := by
  obtain ⟨inner, comment⟩ := of_afterLast? closed
  have whole : line =
      (line.takeWhile isBlank ++ "/**".toList ++ inner ++ "*/".toList) ++ remaining := by
    have body : trimStart line = "/**".toList ++ rest := (after?_eq_some _ _ _).mp opened
    calc
      line = line.takeWhile isBlank ++ trimStart line := List.takeWhile_append_dropWhile.symm
      _ = _ := by rw [body, comment]; simp only [List.append_assoc]
  have visible : Solid "*/".toList := ⟨['*'], '/', rfl, by decide⟩
  rw [List.append_cancel_right (divided.symm.trans whole)]
  exact visible.append _

/-- The patterns for comments find comments. -/
theorem blockCommentFor_finds (language : String) : (blockCommentFor language).Finds comments where
  multiline := rfl
  closing := find_letters commentClosing_parts
  unopened line feedless closed := by
    rcases find_anchored commentOpening_parts commentOpening_leaves feedless with
      ⟨_, found⟩ | ⟨taken, left, isLeft, _, _⟩
    · exact found
    · rw [comments_opened, closed] at isLeft
      cases isLeft
  opened line rest feedless opened := by
    have after : after? "/**".toList (trimStart line) = some rest :=
      (Option.filter_eq_some_iff.mp opened).1
    rcases find_anchored commentOpening_parts commentOpening_leaves feedless with
      ⟨isLeft, _⟩ | ⟨taken, left, isLeft, whole, opening⟩
    · rw [comments_opened, opened] at isLeft
      cases isLeft
    · rw [comments_opened, opened] at isLeft
      cases isLeft
      rcases find_anchored commentSingle_parts commentSingle_leaves feedless with
        ⟨isMissing, missing⟩ | ⟨all, remaining, isLast, divided, found⟩
      · rw [after] at isMissing
        -- The search for the end begins after the character that the opening rule takes as well.
        have unclosed : cutAt? comments.closing (rest.drop 1) = none :=
          cutAt?_of_afterLast? (afterLast?_drop isMissing 1)
        refine ⟨taken, _, none, whole, opening, singleLineEnd_missing rfl missing, ?_⟩
        rw [unclosed]
        exact congrArg (Option.map _) isMissing
      · rw [after, Option.bind_some] at isLast
        have column : (trimEnd all).length = columnOfRest line remaining := by
          rw [(comment_solid after isLast divided).trimEnd, columnOfRest, divided, List.length_append,
            Nat.add_sub_cancel]
        refine ⟨taken, _, some (columnOfRest line remaining), whole, opening, ?_, ?_⟩
        · rw [← column]
          exact singleLineEnd_taken rfl divided found
        · exact congrArg (Option.map _) isLast

/-- The patterns for quotes find strings. -/
theorem tripleQuotes_finds (name quote : String) (quoting : Quoting quote.toList) :
    (tripleQuotes name quote).Finds (strings quote.toList) where
  multiline := rfl
  closing := find_letters (quoteClosing_parts quote)
  unopened line feedless closed := by
    rcases find_anchored (quoteOpening_parts quote) (quoting.skips .nothing) feedless with
      ⟨_, found⟩ | ⟨taken, left, isLeft, _, _⟩
    · exact found
    · rw [Option.bind_fun_some] at isLeft
      cases closed.symm.trans isLeft
  opened line rest feedless opened := by
    rcases find_anchored (quoteOpening_parts quote) (quoting.skips .nothing) feedless with
      ⟨isLeft, _⟩ | ⟨taken, left, isLeft, whole, opening⟩
    · rw [Option.bind_fun_some] at isLeft
      cases isLeft.symm.trans opened
    · rw [Option.bind_fun_some] at isLeft
      cases isLeft.symm.trans opened
      have after : after? quote.toList (withoutLetter stringLetters (trimStart line)) = some rest :=
        opened
      rcases find_anchored (quoteSingle_parts quote) quoting.single feedless with
        ⟨isMissing, missing⟩ | ⟨all, remaining, isLast, divided, found⟩
      · refine ⟨taken, rest, none, whole, opening, singleLineEnd_missing rfl missing, ?_⟩
        rw [after, Option.bind_some, ite_eq_right_iff] at isMissing
        exact if_neg fun ended => nomatch isMissing ended
      · rw [after, Option.bind_some, Option.ite_none_right_eq_some] at isLast
        obtain ⟨ended, nothing⟩ := isLast
        cases nothing
        rw [List.append_nil] at divided
        subst divided
        exact ⟨taken, rest, _, whole, opening,
          singleLineEnd_taken rfl (List.append_nil line).symm found, if_pos ended⟩

end Pattern

/-- A pattern that finds the markers of a syntax finds its blocks, without failing. -/
theorem Span.scan_finds {pattern : Pattern} {markers : Markers} (finds : pattern.Finds markers)
    (text : Text) : scan pattern text.lines = pure (markers.spans 0 text.lines) := by
  have plain := (scanBlocks_alike pattern false 0 text.lines false fun vain => nomatch vain).eq
  rw [scan, if_pos finds.multiline, plain]
  exact scanPlain_finds finds 0 text.lines (lines_no_feed text)

namespace Detector

/-- What the first pattern finds stands before the other candidates. -/
theorem candidatesOf_scan {pattern : Pattern} {lines : List Text} {spans : List Span}
    (scanned : Span.scan pattern lines = pure spans) (patterns : List Pattern) :
    candidatesOf lines (pattern :: patterns) =
      spans.map (fun span => (span, pattern.family)) ++ candidatesOf lines patterns := by
  rw [candidatesOf, List.flatMap_cons, scanned]
  rfl

/-- A pattern that finds the markers of a syntax adds its blocks to the candidates. -/
theorem candidatesOf_cons {pattern : Pattern} {markers : Markers} (finds : pattern.Finds markers)
    (text : Text) (patterns : List Pattern) :
    candidatesOf text.lines (pattern :: patterns) =
      (markers.spans 0 text.lines).map (fun span => (span, pattern.family)) ++
        candidatesOf text.lines patterns :=
  candidatesOf_scan (Span.scan_finds finds text) patterns

/-- Nothing is left out of spans that are different from each other. -/
theorem distinct_of_nodup (family : Family) {seen spans : List Span}
    (fresh : ∀ span ∈ spans, span ∉ seen) (different : spans.Nodup) :
    distinct seen (spans.map fun span => (span, family)) = spans.map fun span => (span, family) := by
  induction spans generalizing seen with
  | nil => rfl
  | cons span spans ih =>
      obtain ⟨alone, others⟩ := List.nodup_cons.mp different
      have unseen : seen.contains span = false := by simpa using fresh span List.mem_cons_self
      rw [List.map_cons, distinct, unseen, if_neg Bool.false_ne_true]
      refine congrArg _ (ih (fun other member => ?_) others)
      rw [List.mem_cons, not_or]
      exact ⟨fun same => alone (same ▸ member), fresh other (List.mem_cons_of_mem _ member)⟩

/-- The blocks of candidates that are different from each other and of one family. -/
theorem thorough_of_nodup (detector : Detector) (text : Text) (language : String) (family : Family)
    {spans : List Span} (different : spans.Nodup)
    (candidates : candidatesOf text.lines (detector.registry.lookup language) =
      spans.map fun span => (span, family)) :
    detector.thorough text language =
      spans.map fun span => buildBlock text.lines language detector.previewLength span family := by
  rw [thorough, candidates, distinct_of_nodup family (fun _ _ => List.not_mem_nil) different,
    List.map_map]
  rfl

/-- A detector whose patterns cancel nothing runs all of them. -/
theorem complete_thorough {detector : Detector} (quiet : detector.registry.Quiet) (text : Text)
    (language : String) : detector.complete text language = detector.thorough text language := by
  apply detectionOf_thorough
  cases stopped : (detector.passOver text language fun _ => false).stopped with
  | false => rfl
  | true =>
      have cancels := detector.passOver_cancels quiet text language fun _ => false
      rcases pass_stopped _ _ _ _ _ stopped with cancelled | ⟨_, cancelled⟩
      · cases cancels.symm.trans cancelled
      · cases cancelled

/-- A language with block comments has one pattern. -/
theorem lookup_blockComment {language : String} (member : language ∈ Pattern.blockCommentLanguages) :
    Registry.builtin.lookup language = [Pattern.blockCommentFor language] := by
  simp only [Pattern.blockCommentLanguages, List.mem_cons, List.not_mem_nil, or_false] at member
  rcases member with rfl | rfl | rfl | rfl | rfl | rfl | rfl | rfl | rfl | rfl | rfl | rfl <;> rfl

/-- The language of strings has a pattern for each kind of quotes. -/
theorem lookup_python : Registry.builtin.lookup "python" =
    [Pattern.tripleQuotes "python-triple-double" "\"\"\"",
      Pattern.tripleQuotes "python-triple-single" "'''"] := rfl

theorem double_quoting : Pattern.Quoting "\"\"\"".toList :=
  ⟨⟨'"', rfl, by decide, by decide⟩, ['"', '"'], '"', rfl, by decide⟩

theorem single_quoting : Pattern.Quoting "'''".toList :=
  ⟨⟨'\'', rfl, by decide, by decide⟩, ['\'', '\''], '\'', rfl, by decide⟩

/-- A line that opens a string with double quotes opens none with single quotes. -/
theorem quotes_apart (line rest : Text) (double : (strings "\"\"\"".toList).opened? line = some rest) :
    (strings "'''".toList).opened? line = none := by
  have opening : withoutLetter stringLetters (trimStart line) = "\"\"\"".toList ++ rest :=
    (after?_eq_some _ _ _).mp double
  change after? "'''".toList (withoutLetter stringLetters (trimStart line)) = none
  rw [opening]
  rfl

/-- The block comments and the strings in triple quotes that are found with the patterns known from
the start are those that a direct comparison of texts finds. -/
theorem complete_builtin_spans (previewLength : Nat) (text : Text) :
    let detector : Detector := ⟨Registry.builtin, previewLength⟩
    (∀ language ∈ Pattern.blockCommentLanguages, detector.complete text language =
      (comments.spans 0 text.lines).map fun span =>
        buildBlock text.lines language previewLength span .blockComment) ∧
    detector.complete text "python" =
      ((strings "\"\"\"".toList).spans 0 text.lines ++ (strings "'''".toList).spans 0 text.lines).map
        fun span => buildBlock text.lines "python" previewLength span .tripleQuote := by
  intro detector
  have complete (language : String) : detector.complete text language =
      detector.thorough text language := complete_thorough Registry.builtin_quiet text language
  constructor
  · intro language member
    rw [complete]
    apply thorough_of_nodup detector _ _ _ (comments.spans_nodup 0 text.lines)
    rw [lookup_blockComment member, candidatesOf_cons (Pattern.blockCommentFor_finds language)]
    exact List.append_nil _
  · rw [complete]
    apply thorough_of_nodup detector
    · rw [List.nodup_append]
      exact ⟨Markers.spans_nodup _ _ _, Markers.spans_nodup _ _ _,
        fun first ofDouble second ofSingle => Markers.spans_apart quotes_apart ofDouble ofSingle⟩
    · rw [lookup_python, candidatesOf_cons (Pattern.tripleQuotes_finds _ _ double_quoting),
        candidatesOf_cons (Pattern.tripleQuotes_finds _ _ single_quoting), List.map_append]
      exact congrArg _ (List.append_nil _)

/-- Several closing markers on a line, markers that only look like opening ones, a comment that is
never closed, and runs of four and of six quotes. -/
theorem complete_builtin_spans_overlapping :
    let detector : Detector := ⟨Registry.builtin, 60⟩
    let commented : Text :=
      "  /** a */ b */ c\n/**/ x */\n/*** y */\n\t/**\n z */ w */\n/** open".toList
    let quoted : Text :=
      "'''one\n  r\"\"\"a\"\"\" \"\"\" b\ntwo'''\nb\"\"\"\"\nc\"\"\" d\n\"\"\"\"\"\" \nrb'''no'''\n".toList
    "kotlin" ∈ Pattern.blockCommentLanguages ∧
    detector.complete commented "kotlin" = [⟨0, 2, 0, 15⟩, ⟨3, 1, 4, 5⟩].map (fun span =>
      buildBlock commented.lines "kotlin" 60 span .blockComment) ∧
    detector.complete quoted "python" =
      [⟨1, 2, 1, 10⟩, ⟨3, 0, 4, 4⟩, ⟨5, 0, 5, 6⟩, ⟨0, 0, 2, 6⟩].map (fun span =>
        buildBlock quoted.lines "python" 60 span .tripleQuote) := by
  intro detector commented quoted
  have listed : "kotlin" ∈ Pattern.blockCommentLanguages := by decide
  have commentSpans : comments.spans 0 commented.lines = [⟨0, 2, 0, 15⟩, ⟨3, 1, 4, 5⟩] := by
    decide +kernel
  have stringSpans : (strings "\"\"\"".toList).spans 0 quoted.lines ++
      (strings "'''".toList).spans 0 quoted.lines =
        [⟨1, 2, 1, 10⟩, ⟨3, 0, 4, 4⟩, ⟨5, 0, 5, 6⟩, ⟨0, 0, 2, 6⟩] := by decide +kernel
  refine ⟨listed, ?_, ?_⟩
  · rw [← commentSpans]
    exact (complete_builtin_spans 60 commented).1 "kotlin" listed
  · rw [← stringSpans]
    exact (complete_builtin_spans 60 quoted).2

end Detector

end DocBlocks
