/-
This file shows that what follows a block on the line it ends on is left out of its preview and of
its hover, except behind a comment whose last line begins with `/**/`.
-/

import DocBlocks.Hover
import DocBlocks.Proofs.Detection.Precedence
import DocBlocks.Proofs.Preview.Closings

namespace DocBlocks

open Text
open Family (IsQuotes StringLines)
open Markers (comments strings OpensString)

namespace Detector

/-- The lines of a span before the last one. -/
def leadingLines (lines : List Text) (span : Span) : List Text :=
  (lines.drop span.startLine).take (span.endLine - span.startLine)

/-- What a span covers of its last line. -/
def lastPart (lines : List Text) (span : Span) : Text :=
  (lines.getD span.endLine []).take span.endColumn

/-- The text of a span up to its end column. -/
def markedContent (lines : List Text) (span : Span) : Text :=
  joinLines (leadingLines lines span ++ [lastPart lines span])

section

variable {lines : List Text} {span : Span} {last : Text}

theorem lastPart_eq (found : lines[span.endLine]? = some last) :
    lastPart lines span = last.take span.endColumn := by
  rw [lastPart, List.getD_eq_getElem?_getD, found]
  rfl

theorem rawContent_eq (ordered : span.startLine ≤ span.endLine)
    (found : lines[span.endLine]? = some last) :
    rawContent lines span = joinLines (leadingLines lines span ++ [last]) := by
  have count : span.endLine + 1 - span.startLine = span.endLine - span.startLine + 1 := by omega
  have place : span.startLine + (span.endLine - span.startLine) = span.endLine := by omega
  rw [rawContent, count, List.take_add_one, List.getElem?_drop, place, found]
  rfl

theorem leadingLines_feedless (feedless : ∀ line ∈ lines, '\n' ∉ line) :
    ∀ line ∈ leadingLines lines span, '\n' ∉ line :=
  fun line member => feedless line (List.mem_of_mem_drop (List.mem_of_mem_take member))

/-- The lines of the text of a block lose the carriage returns before the last one. -/
theorem lines_rawContent (feedless : ∀ line ∈ lines, '\n' ∉ line)
    (ordered : span.startLine ≤ span.endLine) (found : lines[span.endLine]? = some last)
    (present : last ≠ []) :
    (rawContent lines span).lines = (leadingLines lines span).map withoutReturn ++ [last] := by
  rw [rawContent_eq ordered found]
  exact lines_joinLines _ (leadingLines_feedless feedless) present
    (feedless last (List.mem_of_getElem? found))

theorem lines_markedContent (feedless : ∀ line ∈ lines, '\n' ∉ line)
    (found : lines[span.endLine]? = some last) (present : lastPart lines span ≠ []) :
    (markedContent lines span).lines =
      (leadingLines lines span).map withoutReturn ++ [lastPart lines span] := by
  refine lines_joinLines _ (leadingLines_feedless feedless) present fun feed => ?_
  rw [lastPart_eq found] at feed
  exact feedless last (List.mem_of_getElem? found) (List.mem_of_mem_take feed)

theorem leadingLines_cons {first : Text} (beyond : span.startLine < span.endLine)
    (starts : lines[span.startLine]? = some first) :
    ∃ between, leadingLines lines span = first :: between := by
  obtain ⟨inside, here⟩ := List.getElem?_eq_some_iff.mp starts
  obtain ⟨count, more⟩ : ∃ count, span.endLine - span.startLine = count + 1 :=
    ⟨span.endLine - span.startLine - 1, by omega⟩
  refine ⟨(lines.drop (span.startLine + 1)).take count, ?_⟩
  rw [leadingLines, List.drop_eq_getElem_cons inside, more, List.take_succ_cons, here]

/-- A line that is ended otherwise is still one line. -/
theorem feedless_retailed (feedless : ∀ line ∈ lines, '\n' ∉ line) (index column : Nat) {tail : Text}
    (free : '\n' ∉ tail) :
    ∀ line ∈ lines.modify index fun line => line.take column ++ tail, '\n' ∉ line := by
  intro line member
  obtain ⟨position, found⟩ := List.mem_iff_getElem?.mp member
  rw [List.getElem?_modify] at found
  obtain ⟨original, here, rfl⟩ := Option.map_eq_some_iff.mp found
  have whole := feedless original (List.mem_of_getElem? here)
  split
  · rw [List.mem_append, not_or]
    exact ⟨fun feed => whole (List.mem_of_mem_take feed), free⟩
  · exact whole

/-- What follows the end column on the last line is no part of the marked text. -/
theorem markedContent_retailed (ordered : span.startLine ≤ span.endLine)
    (found : lines[span.endLine]? = some last) (within : span.endColumn ≤ last.length) (tail : Text) :
    let others := lines.modify span.endLine fun line => line.take span.endColumn ++ tail
    lastPart others span = lastPart lines span ∧
      markedContent others span = markedContent lines span := by
  intro others
  have leading : leadingLines others span = leadingLines lines span := by
    rw [leadingLines, List.drop_modify_of_ge _ _ _ _ ordered, List.take_modify, List.modify_eq_self]
    · rfl
    · exact List.length_take_le _ _
  have part : lastPart others span = lastPart lines span := by
    have changed : others[span.endLine]? = some (last.take span.endColumn ++ tail) := by
      rw [List.getElem?_modify_eq, found]
      rfl
    rw [lastPart_eq changed, lastPart_eq found]
    exact List.take_left' (List.length_take_of_le within)
  exact ⟨part, by rw [markedContent, leading, part, markedContent]⟩

end

section

variable {lines : List Text} (feedless : ∀ line ∈ lines, '\n' ∉ line) {span : Span}
include feedless

/-- The lines of a comment, and those of what stands before its end column. -/
theorem lines_comment (member : span ∈ comments.spans 0 lines) :
    ∃ front tail, lines[span.endLine]? = some (front ++ "*/".toList ++ tail) ∧
      lastPart lines span = front ++ "*/".toList ∧
      (rawContent lines span).lines =
        (leadingLines lines span).map withoutReturn ++ [front ++ "*/".toList ++ tail] ∧
      (markedContent lines span).lines =
        (leadingLines lines span).map withoutReturn ++ [front ++ "*/".toList] := by
  obtain ⟨last, found, ends⟩ := comments.spans_end 0 lines span member
  obtain ⟨front, tail, whole, column⟩ := ends.closed Markers.comments_sound
  change last = front ++ "*/".toList ++ tail at whole
  have part : lastPart lines span = front ++ "*/".toList := by
    rw [lastPart_eq found, column, whole]
    exact List.take_left
  refine ⟨front, tail, whole ▸ found, part, ?_, ?_⟩
  · rw [lines_rawContent feedless ends.ordered found (by simp [whole]), whole]
  · rw [lines_markedContent feedless found (by simp [part]), part]

/-- The text of a comment without markers is that of what stands before its end column. -/
theorem stripMarkers_comment (member : span ∈ comments.spans 0 lines)
    (proper : trimStart (lastPart lines span) ≠ "/**/".toList) :
    Family.blockComment.stripMarkers (rawContent lines span) =
      Family.blockComment.stripMarkers (markedContent lines span) := by
  obtain ⟨front, tail, _, part, raw, marked⟩ := lines_comment feedless member
  rw [part, ne_eq, Family.trimStart_shared] at proper
  rw [Family.stripMarkers, Family.stripMarkers, raw, marked, List.map_append, List.map_append,
    List.map_singleton, List.map_singleton, Family.stripCommentLine_closed proper]

/-- The lines of a string, and those of what stands before its end column. -/
theorem lines_string {quotes : Text} (kind : IsQuotes quotes)
    (member : span ∈ (strings quotes).spans 0 lines) :
    StringLines quotes (rawContent lines span).lines (markedContent lines span).lines := by
  have sound := Markers.strings_sound kind.quoting
  obtain ⟨last, found, ends⟩ := (strings quotes).spans_end 0 lines span member
  have ordered := ends.ordered
  cases ends with
  | opening rest same opened ended =>
      obtain ⟨front, opens, whole⟩ := (Markers.strings_opened kind.quoting).mp opened
      obtain ⟨inner, tail, behind, column⟩ := sound.ended last rest _ opened ended
      have closed : rest = inner ++ quotes ++ tail := behind
      have alone : leadingLines lines span = [] := by
        rw [leadingLines, same, Nat.sub_self, List.take_zero]
      have divided : last = front ++ (inner ++ quotes) ++ tail := by
        rw [whole, closed, List.append_assoc front]
      have part : lastPart lines span = front ++ (inner ++ quotes) := by
        rw [lastPart_eq found, column, divided, Markers.columnOfRest_append, List.take_left]
      have present : quotes ≠ [] := kind.present
      rw [lines_rawContent feedless ordered found (by simp [divided, present]),
        lines_markedContent feedless found (by simp [part, present]), alone, part, whole, closed]
      exact .single front inner tail opens
  | later before tail beyond cut column =>
      obtain ⟨_, first, starts, opened⟩ := (strings quotes).spans_open 0 lines span member
      obtain ⟨rest, opened⟩ := Option.isSome_iff_exists.mp opened
      obtain ⟨front, opens, whole⟩ := (Markers.strings_opened kind.quoting).mp opened
      obtain ⟨between, leading⟩ := leadingLines_cons beyond starts
      have closed : last = before ++ quotes ++ tail := of_cutAt? cut
      have part : lastPart lines span = before ++ quotes := by
        rw [lastPart_eq found, column, closed, Markers.columnOfRest_append, List.take_left]
      have present : quotes ≠ [] := kind.present
      rw [lines_rawContent feedless ordered found (by simp [closed, present]),
        lines_markedContent feedless found (by simp [part, present]), leading, part, List.map_cons,
        whole, Family.withoutReturn_opens kind opens, closed]
      exact .several front (withoutReturn rest) (between.map withoutReturn) before tail opens
        (closed ▸ cut)

end

theorem spansOf_finds {pattern : Pattern} {markers : Markers} (finds : pattern.Finds markers)
    (text : Text) : spansOf text.lines pattern = markers.spans 0 text.lines := by
  rw [spansOf, Span.scan_finds finds]
  rfl

/-- The blocks of a text in a language with block comments, with the patterns known from the
start. -/
theorem mem_complete_comments {language : String} (known : language ∈ Pattern.blockCommentLanguages)
    {previewLength : Nat} {text : Text} {block : Block} :
    block ∈ (⟨Registry.builtin, previewLength⟩ : Detector).complete text language ↔
      ∃ span ∈ comments.spans 0 text.lines,
        block = buildBlock text.lines language previewLength span .blockComment := by
  have alike : ∀ pattern ∈ Registry.builtin.lookup language, pattern.family = .blockComment := by
    simp [lookup_blockComment known, Pattern.blockCommentFor]
  rw [complete_thorough Registry.builtin_quiet, mem_thorough alike, lookup_blockComment known]
  simp [spansOf_finds (Pattern.blockCommentFor_finds language)]

/-- The pattern for a kind of quotes finds the strings in these quotes. -/
theorem exists_tripleQuotes {quotes : Text} (kind : IsQuotes quotes) :
    ∃ pattern ∈ Registry.builtin.lookup "python", pattern.Finds (strings quotes) := by
  rw [lookup_python]
  rcases kind with rfl | rfl
  · exact ⟨_, List.mem_cons_self, Pattern.tripleQuotes_finds _ _ double_quoting⟩
  · exact ⟨_, List.mem_cons_of_mem _ List.mem_cons_self, Pattern.tripleQuotes_finds _ _ single_quoting⟩

theorem tripleQuotes_family : ∀ pattern ∈ Registry.builtin.lookup "python",
    pattern.family = .tripleQuote ∧ ∃ quotes, IsQuotes quotes ∧ pattern.Finds (strings quotes) := by
  rw [lookup_python, List.forall_mem_cons, List.forall_mem_singleton]
  exact ⟨⟨rfl, _, .inl rfl, Pattern.tripleQuotes_finds _ _ double_quoting⟩,
    ⟨rfl, _, .inr rfl, Pattern.tripleQuotes_finds _ _ single_quoting⟩⟩

/-- The blocks of a text in the language with strings, with the patterns known from the start. -/
theorem mem_complete_strings {previewLength : Nat} {text : Text} {block : Block} :
    block ∈ (⟨Registry.builtin, previewLength⟩ : Detector).complete text "python" ↔
      ∃ quotes, IsQuotes quotes ∧ ∃ span ∈ (strings quotes).spans 0 text.lines,
        block = buildBlock text.lines "python" previewLength span .tripleQuote := by
  rw [complete_thorough Registry.builtin_quiet,
    mem_thorough fun pattern member => (tripleQuotes_family pattern member).1]
  constructor
  · rintro ⟨pattern, listed, span, found, rfl⟩
    obtain ⟨_, quotes, kind, finds⟩ := tripleQuotes_family pattern listed
    rw [spansOf_finds finds] at found
    exact ⟨quotes, kind, span, found, rfl⟩
  · rintro ⟨quotes, kind, span, found, rfl⟩
    obtain ⟨pattern, listed, finds⟩ := exists_tripleQuotes kind
    exact ⟨pattern, listed, span, by rwa [spansOf_finds finds], rfl⟩

end Detector

namespace Hover

/-- Patterns of one family show a block in it if one of them opens the first line. A block whose
first line none of them opens is taken for a comment. -/
theorem familyOf_alike {block : Block} {patterns : List Pattern} {family : Family}
    (alike : ∀ pattern ∈ patterns, pattern.family = family)
    (opened : family = .blockComment ∨ ∃ pattern ∈ patterns,
      (pattern.opening.isMatch (block.rawContent.lines.headD [])).outcome = some true) :
    familyOf block patterns = family := by
  rw [familyOf]
  split
  · rename_i pattern found
    exact alike pattern (List.mem_of_find?_eq_some found)
  · rename_i missing
    rcases opened with comment | ⟨pattern, listed, opens⟩
    · exact comment.symm
    · have unmatched := List.find?_eq_none.mp missing pattern listed
      rw [opens] at unmatched
      exact absurd rfl unmatched

theorem familyOf_comment {language : String} (known : language ∈ Pattern.blockCommentLanguages)
    (block : Block) : familyOf block (Registry.builtin.lookup language) = .blockComment := by
  refine familyOf_alike (fun pattern listed => ?_) (Or.inl rfl)
  rw [Detector.lookup_blockComment known, List.mem_singleton] at listed
  rw [listed]
  rfl

/-- A string still opens on the first line of its text. -/
theorem familyOf_string {quotes : Text} {marked : List Text} (kind : IsQuotes quotes) {block : Block}
    (lines : StringLines quotes block.rawContent.lines marked) :
    familyOf block (Registry.builtin.lookup "python") = .tripleQuote := by
  have opens : ∃ front rest others, OpensString quotes front ∧
      block.rawContent.lines = (front ++ rest) :: others := by
    generalize block.rawContent.lines = whole at lines
    cases lines with
    | single front inner tail opens => exact ⟨front, _, _, opens, rfl⟩
    | several front rest between before tail opens => exact ⟨front, _, _, opens, rfl⟩
  obtain ⟨front, rest, others, opens, shape⟩ := opens
  obtain ⟨pattern, listed, finds⟩ := Detector.exists_tripleQuotes kind
  have feedless : '\n' ∉ front ++ rest :=
    lines_no_feed block.rawContent _ (shape ▸ List.mem_cons_self)
  obtain ⟨_, _, _, _, found, _⟩ := finds.opened (front ++ rest) rest feedless
    ((Markers.strings_opened kind.quoting).mpr ⟨front, opens, rfl⟩)
  refine familyOf_alike (fun other member => (Detector.tripleQuotes_family other member).1)
    (Or.inr ⟨pattern, listed, ?_⟩)
  rw [shape, List.headD_cons, Matcher.isMatch, found]
  rfl

/-- The text of a block is shown as a whole, unless it is blank. -/
theorem ofBlock_value {block : Block} {patterns : List Pattern} {family : Family}
    (same : familyOf block patterns = family)
    (visible : allBlank (family.content block.rawContent) = false) :
    (ofBlock block patterns).value = family.content block.rawContent := by
  rw [ofBlock, same]
  exact if_neg (by simp [visible])

end Hover

namespace Block

/-- The blocks have one preview, and one hover among the patterns. -/
def ShownLike (patterns : List Pattern) (one other : Block) : Prop :=
  one.preview = other.preview ∧ Hover.ofBlock one patterns = Hover.ofBlock other patterns

/-- The lines of the other text differ at most in what follows the block on the line it ends on. -/
def Retailed (block : Block) (text other : Text) : Prop :=
  ∃ tail, other.lines =
    text.lines.modify block.endLine fun line => line.take block.endColumn ++ tail

end Block

namespace Detector

section

variable {lines others : List Text} {language : String} {previewLength : Nat} {span : Span}
  {family : Family} {patterns : List Pattern}

/-- Two blocks at one place are shown alike if they are alike without their markers. -/
theorem shown_congr
    (same : family.stripMarkers (rawContent others span) = family.stripMarkers (rawContent lines span))
    (ofOthers : Hover.familyOf (buildBlock others language previewLength span family) patterns = family)
    (ofLines : Hover.familyOf (buildBlock lines language previewLength span family) patterns = family) :
    Block.ShownLike patterns (buildBlock others language previewLength span family)
      (buildBlock lines language previewLength span family) := by
  have preview : (buildBlock others language previewLength span family).preview =
      (buildBlock lines language previewLength span family).preview :=
    Family.preview_congr same previewLength
  have content : family.content (buildBlock others language previewLength span family).rawContent =
      family.content (buildBlock lines language previewLength span family).rawContent :=
    Family.content_congr same
  refine ⟨preview, ?_⟩
  rw [Hover.ofBlock, Hover.ofBlock, ofOthers, ofLines, content, preview]
  rfl

/-- A block of a sound syntax ends at a column of its last line, just past a closing marker. -/
theorem ends_within {markers : Markers} (sound : markers.Sound)
    (member : span ∈ markers.spans 0 lines) :
    span.startLine ≤ span.endLine ∧ markers.closing <:+ lastPart lines span ∧
      ∃ last, lines[span.endLine]? = some last ∧ span.endColumn ≤ last.length := by
  obtain ⟨last, found, ends⟩ := markers.spans_end 0 lines span member
  obtain ⟨front, tail, whole, column⟩ := ends.closed sound
  have part : lastPart lines span = front ++ markers.closing := by
    rw [lastPart_eq found, column, whole, List.take_left]
  refine ⟨ends.ordered, part ▸ List.suffix_append _ _, last, found, ?_⟩
  rw [column, whole]
  exact (List.prefix_append _ tail).length_le

end

/-- What follows the end column of a block on its last line is no part of its marked text. -/
theorem marked_retailed {markers : Markers} (sound : markers.Sound) {lines others : List Text}
    {span : Span} (member : span ∈ markers.spans 0 lines) {tail : Text}
    (retailed : others = lines.modify span.endLine fun line => line.take span.endColumn ++ tail) :
    lastPart others span = lastPart lines span ∧
      markedContent others span = markedContent lines span := by
  obtain ⟨ordered, _, last, found, within⟩ := ends_within sound member
  rw [retailed]
  exact markedContent_retailed ordered found within tail

/-- A string does not end in what may look like the opening marker of a comment. -/
theorem string_proper {quotes : Text} (kind : IsQuotes quotes) {lines : List Text} {span : Span}
    (member : span ∈ (strings quotes).spans 0 lines) :
    trimStart (lastPart lines span) ≠ "/**/".toList := by
  intro improper
  have closing : quotes <:+ lastPart lines span :=
    (ends_within (Markers.strings_sound kind.quoting) member).2.1
  have trimmed : "/**/".toList <:+ lastPart lines span := improper ▸ List.dropWhile_suffix _
  have short : quotes.length ≤ "/**/".toList.length := by rcases kind with rfl | rfl <;> decide
  have inside := List.suffix_of_suffix_length_le closing trimmed short
  rcases kind with rfl | rfl
  · exact absurd inside (by decide)
  · exact absurd inside (by decide)

/-- What follows a string on its last line is not shown. -/
theorem string_hidden {quotes others : Text} (kind : IsQuotes quotes) (otherKind : IsQuotes others)
    {text other tail : Text} {span : Span} (previewLength : Nat)
    (member : span ∈ (strings quotes).spans 0 text.lines)
    (otherMember : span ∈ (strings others).spans 0 other.lines)
    (retailed : other.lines =
      text.lines.modify span.endLine fun line => line.take span.endColumn ++ tail) :
    Block.ShownLike (Registry.builtin.lookup "python")
      (buildBlock other.lines "python" previewLength span .tripleQuote)
      (buildBlock text.lines "python" previewLength span .tripleQuote) := by
  have whole := lines_string (lines_no_feed text) kind member
  have otherWhole := lines_string (lines_no_feed other) otherKind otherMember
  have kept := marked_retailed (Markers.strings_sound kind.quoting) member retailed
  refine shown_congr ?_ (Hover.familyOf_string otherKind otherWhole) (Hover.familyOf_string kind whole)
  rw [Family.stripMarkers, Family.stripMarkers, Family.stripQuotes_closed otherKind otherWhole, kept.2,
    Family.stripQuotes_closed kind whole]

/-- What follows a comment on its last line is not shown, unless its markers share a star there. -/
theorem comment_hidden {language : String} (known : language ∈ Pattern.blockCommentLanguages)
    {text other tail : Text} {span : Span} (previewLength : Nat)
    (member : span ∈ comments.spans 0 text.lines) (otherMember : span ∈ comments.spans 0 other.lines)
    (retailed : other.lines =
      text.lines.modify span.endLine fun line => line.take span.endColumn ++ tail)
    (proper : trimStart (lastPart text.lines span) ≠ "/**/".toList) :
    Block.ShownLike (Registry.builtin.lookup language)
      (buildBlock other.lines language previewLength span .blockComment)
      (buildBlock text.lines language previewLength span .blockComment) := by
  have kept := marked_retailed Markers.comments_sound member retailed
  refine shown_congr ?_ (Hover.familyOf_comment known _) (Hover.familyOf_comment known _)
  rw [stripMarkers_comment (lines_no_feed other) otherMember (kept.1 ▸ proper), kept.2,
    stripMarkers_comment (lines_no_feed text) member proper]

/-- A comment that ends on the line it opens on has two markers that share no star. -/
theorem comment_continued {lines : List Text} {span : Span} (member : span ∈ comments.spans 0 lines)
    (improper : trimStart (lastPart lines span) = "/**/".toList) : span.startLine < span.endLine := by
  obtain ⟨last, found, ends⟩ := comments.spans_end 0 lines span member
  cases ends with
  | later before rest beyond => exact beyond
  | opening rest same opened ended =>
      obtain ⟨inner, tail, behind, column⟩ := Markers.comments_sound.ended last rest _ opened ended
      have body : trimStart last = "/**".toList ++ rest :=
        (after?_eq_some _ _ _).mp (Option.filter_eq_some_iff.mp opened).1
      have whole :
          last = last.takeWhile isBlank ++ ("/**".toList ++ (inner ++ "*/".toList)) ++ tail := by
        calc
          last = last.takeWhile isBlank ++ trimStart last := List.takeWhile_append_dropWhile.symm
          _ = _ := by rw [body, behind]; simp only [List.append_assoc]; rfl
      have part : lastPart lines span =
          last.takeWhile isBlank ++ ("/**".toList ++ (inner ++ "*/".toList)) := by
        rw [lastPart_eq found, column]
        nth_rewrite 1 2 [whole]
        rw [Markers.columnOfRest_append, List.take_left]
      have visible : isBlank '/' = false := by decide
      rw [part, trimStart_append _ rfl visible] at improper
      have long := congrArg List.length improper
      simp only [List.length_append, String.reduceToList, List.length_cons, List.length_nil] at long
      omega

/-- A block that ends on a later line than it begins on stands at the same place in a text where
something else follows it. -/
theorem exists_retailed {markers : Markers} {text : Text} {span : Span}
    (member : span ∈ markers.spans 0 text.lines) (beyond : span.startLine < span.endLine) {tail : Text}
    (free : '\n' ∉ tail) :
    ∃ other : Text, other.lines =
        text.lines.modify span.endLine (fun line => line.take span.endColumn ++ tail) ∧
      span ∈ markers.spans 0 other.lines := by
  have divided := lines_ofLines
    (feedless_retailed (lines_no_feed text) span.endLine span.endColumn free)
  refine ⟨_, divided, ?_⟩
  rw [divided]
  exact markers.mem_spans_retailed tail 0 text.lines span member beyond

/-- Where the last line of a comment begins with `/**/`, a letter after that is the last one
shown. -/
theorem comment_reopened {language : String} (known : language ∈ Pattern.blockCommentLanguages)
    {text other : Text} {span : Span} (previewLength : Nat)
    (member : span ∈ comments.spans 0 text.lines) (otherMember : span ∈ comments.spans 0 other.lines)
    (improper : trimStart (lastPart text.lines span) = "/**/".toList) {letter : Char}
    (visible : isBlank letter = false)
    (retailed : other.lines =
      text.lines.modify span.endLine fun line => line.take span.endColumn ++ [letter]) :
    ∃ front, (Hover.ofBlock (buildBlock other.lines language previewLength span .blockComment)
      (Registry.builtin.lookup language)).value = front ++ [letter] := by
  have kept := (marked_retailed Markers.comments_sound member retailed).1
  obtain ⟨front, tail, line, part, raw, _⟩ := lines_comment (lines_no_feed other) otherMember
  have shared : trimStart front = "/*".toList := by
    rwa [← kept, part, Family.trimStart_shared] at improper
  have ending : tail = [letter] := by
    obtain ⟨_, _, last, found, _⟩ := ends_within Markers.comments_sound member
    have same : front ++ "*/".toList = last.take span.endColumn := by
      rw [← part, kept, lastPart_eq found]
    rw [retailed, List.getElem?_modify_eq, found, same] at line
    exact (List.append_cancel_left (Option.some.inj line)).symm
  have stripped : Family.blockComment.stripMarkers (rawContent other.lines span) =
      ((leadingLines other.lines span).map withoutReturn).map Family.stripCommentLine ++
        [['/', letter]] := by
    rw [Family.stripMarkers, raw, List.map_append, List.map_singleton, ending,
      Family.stripCommentLine_reopened shared]
  obtain ⟨shown, content⟩ := Family.content_ends stripped (by decide) visible
  have seen : allBlank (shown ++ [letter]) = false := by simp [allBlank, visible]
  refine ⟨shown, ?_⟩
  rw [← content] at seen ⊢
  exact Hover.ofBlock_value (Hover.familyOf_comment known _) seen

/-- With the patterns known from the start, what follows a block on the line it ends on is shown
neither in its preview nor in its hover, unless all that the block covers of this line is `/**/`. -/
theorem tail_hidden_iff (previewLength : Nat) (text : Text) (language : String)
    (known : language ∈ "python" :: Pattern.blockCommentLanguages) :
    let detector : Detector := ⟨Registry.builtin, previewLength⟩
    ∀ block ∈ detector.complete text language,
      (∀ other, block.Retailed text other → ∀ changed ∈ detector.complete other language,
        changed.positionKey = block.positionKey →
          changed.ShownLike (Registry.builtin.lookup language) block) ↔
        trimStart ((text.lines.getD block.endLine []).take block.endColumn) ≠ "/**/".toList := by
  intro detector block member
  rcases List.mem_cons.mp known with rfl | known
  · obtain ⟨quotes, kind, span, found, rfl⟩ := mem_complete_strings.mp member
    refine iff_of_true ?_ (string_proper kind found)
    rintro other ⟨tail, retailed⟩ changed detected place
    obtain ⟨others, otherKind, same, otherFound, rfl⟩ := mem_complete_strings.mp detected
    cases Span.positionKey_injective place
    exact string_hidden kind otherKind previewLength found otherFound retailed
  · obtain ⟨span, found, rfl⟩ := (mem_complete_comments known).mp member
    constructor
    · intro hidden improper
      -- The hover would end in every letter that can be put behind the block.
      have ends {letter : Char} (visible : isBlank letter = false) (free : '\n' ∉ [letter]) : ∃ front,
          (Hover.ofBlock (buildBlock text.lines language previewLength span .blockComment)
            (Registry.builtin.lookup language)).value = front ++ [letter] := by
        obtain ⟨other, retailed, otherFound⟩ :=
          exists_retailed found (comment_continued found improper) free
        obtain ⟨front, shown⟩ :=
          comment_reopened known previewLength found otherFound improper visible retailed
        have alike := hidden other ⟨_, retailed⟩ _
          ((mem_complete_comments known).mpr ⟨span, otherFound, rfl⟩) rfl
        exact ⟨front, alike.2 ▸ shown⟩
      obtain ⟨front, endsInA⟩ := ends (by decide : isBlank 'a' = false) (by decide)
      obtain ⟨back, endsInB⟩ := ends (by decide : isBlank 'b' = false) (by decide)
      cases (List.append_inj' (endsInA.symm.trans endsInB) rfl).2
    · rintro proper other ⟨tail, retailed⟩ changed detected place
      obtain ⟨same, otherFound, rfl⟩ := (mem_complete_comments known).mp detected
      cases Span.positionKey_injective place
      exact comment_hidden known previewLength found otherFound retailed proper

/-- Two comments, of which the first ends with a line that opens one again. Code behind it is shown,
and code behind the second is not. -/
theorem tail_hidden_iff_reopened :
    let detector : Detector := ⟨Registry.builtin, 60⟩
    let patterns := Registry.builtin.lookup "java"
    let text : Text := "/**\n/**/ int x;\n  /** a\n   * b */ /** c */ int y;".toList
    let reopened := buildBlock text.lines "java" 60 ⟨0, 0, 1, 4⟩ .blockComment
    let plain := buildBlock text.lines "java" 60 ⟨2, 2, 3, 9⟩ .blockComment
    "java" ∈ "python" :: Pattern.blockCommentLanguages ∧
    reopened ∈ detector.complete text "java" ∧ plain ∈ detector.complete text "java" ∧
    (∃ other, reopened.Retailed text other ∧ ∃ changed ∈ detector.complete other "java",
      changed.positionKey = reopened.positionKey ∧ ¬ changed.ShownLike patterns reopened) ∧
    ∀ other, plain.Retailed text other → ∀ changed ∈ detector.complete other "java",
      changed.positionKey = plain.positionKey → changed.ShownLike patterns plain := by
  intro detector patterns text reopened plain
  have listed : "java" ∈ Pattern.blockCommentLanguages := by decide
  have known : "java" ∈ "python" :: Pattern.blockCommentLanguages := List.mem_cons_of_mem _ listed
  have spans : comments.spans 0 text.lines = [⟨0, 0, 1, 4⟩, ⟨2, 2, 3, 9⟩] := by decide +kernel
  have first : reopened ∈ detector.complete text "java" :=
    (mem_complete_comments listed).mpr ⟨_, by rw [spans]; exact List.mem_cons_self, rfl⟩
  have second : plain ∈ detector.complete text "java" :=
    (mem_complete_comments listed).mpr
      ⟨_, by rw [spans]; exact List.mem_cons_of_mem _ List.mem_cons_self, rfl⟩
  have improper : trimStart ((text.lines.getD 1 []).take 4) = "/**/".toList := by decide +kernel
  have proper : trimStart ((text.lines.getD 3 []).take 9) ≠ "/**/".toList := by decide +kernel
  refine ⟨known, first, second, ?_, (tail_hidden_iff 60 text "java" known plain second).mpr proper⟩
  by_contra hidden
  push Not at hidden
  exact (tail_hidden_iff 60 text "java" known reopened first).mp hidden improper

end Detector

end DocBlocks
