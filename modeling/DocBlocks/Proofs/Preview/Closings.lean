/-
This file compares what is taken out of the text of a block with what stands before its closing
marker. The preview and the whole documentation text depend only on the lines without markers.
-/

import DocBlocks.Preview.Basic
import DocBlocks.Preview.Content
import DocBlocks.Proofs.Detection.Endings

namespace DocBlocks

open Text
open Markers (OpensString stringLetters)

namespace Family

theorem isBlank_star : isBlank '*' = false := by decide

/-- White space is trimmed before a closing marker as it is without one. -/
theorem trimStart_closed (front : Text) :
    trimStart (front ++ "*/".toList) = trimStart front ++ "*/".toList :=
  trimStart_append front rfl isBlank_star

/-- It makes no difference to trimming what follows a closing marker. -/
theorem trimStart_continued (front tail : Text) :
    trimStart (front ++ "*/".toList ++ tail) = trimStart front ++ "*/".toList ++ tail := by
  rw [List.append_assoc, trimStart_append front rfl isBlank_star, List.append_assoc]

/-- The markers share a star where nothing but they stands before the end of the comment. -/
theorem trimStart_shared {front : Text} :
    trimStart (front ++ "*/".toList) = "/**/".toList ↔ trimStart front = "/*".toList := by
  have whole : "/**/".toList = "/*".toList ++ "*/".toList := rfl
  rw [trimStart_closed, whole, List.append_left_inj]

/-- Behind an opening marker there is a whole closing marker, unless both share a star. -/
theorem closing_behind_opening {body rest : Text} (proper : body ≠ "/*".toList)
    (whole : body ++ "*/".toList = "/**".toList ++ rest) : ∃ inner, rest = inner ++ "*/".toList := by
  match body with
  | [] => simp at whole
  | [_] => simp at whole
  | [_, _] => simp_all
  | _ :: _ :: _ :: inner =>
      simp only [List.cons_append, String.reduceToList, List.cons.injEq] at whole
      exact ⟨inner, whole.2.2.2.symm⟩

/-- What follows the first closing marker on a line is no documentation, unless the line begins with
an opening marker that shares its last star with the closing marker. -/
theorem stripCommentLine_closed {front : Text} (proper : trimStart front ≠ "/*".toList) (tail : Text) :
    stripCommentLine (front ++ "*/".toList ++ tail) = stripCommentLine (front ++ "*/".toList) := by
  rw [stripCommentLine, stripCommentLine, trimStart_continued, trimStart_closed]
  generalize trimStart front = body at proper
  have held (inner : Text) :
      ∃ inside back, cutAt? ['*', '/'] (inner ++ "*/".toList) = some (inside, back) := by
    have found := exists_cutAt? inner "*/".toList []
    rwa [List.append_nil] at found
  cases opened : after? ['/', '*', '*'] (body ++ "*/".toList) with
  | none =>
      have still : after? ['/', '*', '*'] (body ++ "*/".toList ++ tail) = none := by
        cases body with
        | nil => rfl
        | cons character others => exact after?_append_none opened (by simp) tail
      obtain ⟨inside, back, cut⟩ := held body
      simp only [still, Option.getD_none, cut, cutAt?_append cut tail]
  | some rest =>
      obtain ⟨inner, rfl⟩ := closing_behind_opening proper ((after?_eq_some _ _ _).mp opened)
      obtain ⟨inside, back, cut⟩ := held inner
      simp only [after?_append opened tail, Option.getD_some, cut, cutAt?_append cut tail,
        Option.isSome_some]

/-- Where the markers share a star, the rest of the closing marker and what follows it are shown. -/
theorem stripCommentLine_reopened {front : Text} (shared : trimStart front = "/*".toList)
    (character : Char) :
    stripCommentLine (front ++ "*/".toList ++ [character]) = ['/', character] := by
  rw [stripCommentLine, trimStart_continued, shared]
  by_cases star : character = '*'
  · rw [star]
    rfl
  · simp [after?, cutAt?, Ne.symm star, dropStars, isStar, trimStart, isBlank]

/-- The kinds of quotes that strings are written with. -/
def IsQuotes (quotes : Text) : Prop :=
  quotes = "\"\"\"".toList ∨ quotes = "'''".toList

/-- The expressions for quotes of either kind read as intended. -/
theorem IsQuotes.quoting {quotes : Text} (kind : IsQuotes quotes) : Pattern.Quoting quotes := by
  rcases kind with rfl | rfl
  · exact Detector.double_quoting
  · exact Detector.single_quoting

/-- Quotes are not empty. -/
theorem IsQuotes.present {quotes : Text} (kind : IsQuotes quotes) : quotes ≠ [] := by
  rcases kind with rfl | rfl <;> exact List.cons_ne_nil _ _

/-- Quotes are no carriage return, so that one at the end of the line stands behind them. -/
theorem withoutReturn_opens {quotes front : Text} (kind : IsQuotes quotes)
    (opens : OpensString quotes front) (rest : Text) :
    withoutReturn (front ++ rest) = front ++ withoutReturn rest := by
  have behind : withoutReturn (quotes ++ rest) = quotes ++ withoutReturn rest := by
    rcases kind with rfl | rfl <;> simp [withoutReturn]
  have present : quotes ++ rest ≠ [] := List.append_ne_nil_of_left_ne_nil kind.present rest
  cases opens with
  | plain blanks blank =>
      rw [List.append_assoc, withoutReturn_append blanks present, behind, List.append_assoc]
  | lettered blanks blank letter allowed =>
      rw [List.append_cons, List.append_assoc, withoutReturn_append (blanks ++ [letter]) present,
        behind, ← List.append_assoc]

/-- At most two letters before quotes are read over. -/
theorem openingQuotes?_trimmed {line quotes rest : Text} (kind : IsQuotes quotes) (letters : Text)
    (few : letters.length ≤ 2) (lettered : ∀ letter ∈ letters, isStringLetter letter = true)
    (trimmed : trimStart line = letters ++ (quotes ++ rest)) :
    openingQuotes? line = some (quotes, rest) := by
  have stops : (quotes ++ rest).takeWhile isStringLetter = [] ∧
      (quotes ++ rest).dropWhile isStringLetter = quotes ++ rest := by
    rcases kind with rfl | rfl <;> exact ⟨rfl, rfl⟩
  rw [openingQuotes?, trimmed, List.takeWhile_append_of_pos lettered,
    List.dropWhile_append_of_pos lettered, stops.1, stops.2, List.append_nil, if_pos few]
  rcases kind with rfl | rfl <;> rfl

/-- A line that opens a string is read as such, whatever follows the quotes. -/
theorem openingQuotes?_opens {quotes front : Text} (kind : IsQuotes quotes)
    (opens : OpensString quotes front) (rest : Text) :
    openingQuotes? (front ++ rest) = some (quotes, rest) := by
  obtain ⟨first, starts, visible, _⟩ := kind.quoting.starts
  have begins : (quotes ++ rest).head? = some first := by
    rw [List.head?_append, starts]
    rfl
  cases opens with
  | plain blanks blank =>
      refine openingQuotes?_trimmed kind [] (Nat.zero_le 2) (List.forall_mem_nil _) ?_
      rw [List.append_assoc, trimStart_append blanks begins visible, trimStart_eq_nil.mpr blank]
  | lettered blanks blank letter allowed =>
      have known : (stringLetters.all isStringLetter) = true := by decide
      have lettered : ∀ other ∈ [letter], isStringLetter other = true := by
        simpa using List.all_eq_true.mp known letter allowed
      refine openingQuotes?_trimmed kind [letter] (Nat.le_succ 1) lettered ?_
      rw [List.append_assoc, trimStart_append blanks rfl (Markers.visible_of_letter allowed),
        trimStart_eq_nil.mpr blank]
      rfl

/-- The lines of a string as a whole, and those up to the quotes that close it. -/
inductive StringLines (quotes : Text) : (whole marked : List Text) → Prop
  | single (front inner tail : Text) (opens : OpensString quotes front) :
      StringLines quotes [front ++ (inner ++ quotes ++ tail)] [front ++ (inner ++ quotes)]
  | several (front rest : Text) (between : List Text) (before tail : Text)
      (opens : OpensString quotes front)
      (cut : cutAt? quotes (before ++ quotes ++ tail) = some (before, tail)) :
      StringLines quotes ((front ++ rest) :: (between ++ [before ++ quotes ++ tail]))
        ((front ++ rest) :: (between ++ [before ++ quotes]))

/-- What follows the closing quotes of a string is no documentation. -/
theorem stripQuotes_closed {quotes raw marked : Text} (kind : IsQuotes quotes)
    (lines : StringLines quotes raw.lines marked.lines) : stripQuotes raw = stripQuotes marked := by
  rw [stripQuotes, stripQuotes]
  generalize raw.lines = whole at lines
  generalize marked.lines = kept at lines
  cases lines with
  | single front inner tail opens =>
      obtain ⟨inside, back, cut⟩ := exists_cutAt? inner quotes []
      rw [List.append_nil] at cut
      simp only [openingQuotes?_opens kind opens, Text.before, cut, cutAt?_append cut tail]
  | several front rest between before tail opens cut =>
      have closed := cutAt?_exchange cut []
      rw [List.append_nil] at closed
      simp only [openingQuotes?_opens kind opens, List.map_append, List.map_cons, List.map_nil,
        Text.before, cut, closed]

/-- Blocks that are alike without their markers have the same preview. -/
theorem preview_congr {family : Family} {raw other : Text}
    (same : family.stripMarkers raw = family.stripMarkers other) (limit : Nat) :
    family.preview raw limit = family.preview other limit := by
  rw [preview, preview, previewSource, previewSource, same]

/-- Blocks that are alike without their markers have the same content. -/
theorem content_congr {family : Family} {raw other : Text}
    (same : family.stripMarkers raw = family.stripMarkers other) :
    family.content raw = family.content other := by
  rw [content, content, same]

/-- The last line is kept if it is not blank. -/
theorem body_append {line : Text} (visible : allBlank line = false) (lines : List Text) :
    ∃ kept, body (lines ++ [line]) = kept ++ [line] := by
  have kept : (lines ++ [line]).dropWhile allBlank = lines.dropWhile allBlank ++ [line] := by
    rw [List.dropWhile_append]
    split
    · rename_i blank
      rw [List.isEmpty_iff.mp blank, List.dropWhile_cons_of_neg (by simp [visible])]
      rfl
    · rfl
  refine ⟨lines.dropWhile allBlank, ?_⟩
  rw [body, kept, List.reverse_append, List.reverse_singleton, List.singleton_append,
    List.dropWhile_cons_of_neg (by simp [visible]), List.reverse_cons, List.reverse_reverse]

/-- There is no common indentation where a line begins with a visible character. -/
theorem commonIndent_eq_zero {lines : List Text} {line : Text} (member : line ∈ lines)
    (visible : allBlank line = false) (flush : indentOf line = 0) : commonIndent lines = 0 := by
  have least : ((lines.filter fun line => !line.allBlank).map indentOf).min? = some 0 := by
    refine List.min?_eq_some_iff.mpr ⟨?_, fun _ _ => Nat.zero_le _⟩
    exact List.mem_map.mpr ⟨line, List.mem_filter.mpr ⟨member, by simp [visible]⟩, flush⟩
  rw [commonIndent, least]
  rfl

/-- The text of a block ends with its last line, up to the last visible character. -/
theorem content_ends {family : Family} {raw : Text} {lines : List Text} {first last : Char}
    (stripped : family.stripMarkers raw = lines ++ [[first, last]]) (opening : isBlank first = false)
    (closing : isBlank last = false) : ∃ front, family.content raw = front ++ [last] := by
  have visible : allBlank [first, last] = false := by simp [allBlank, opening]
  obtain ⟨kept, isBody⟩ := body_append visible lines
  have flush : indentOf [first, last] = 0 := by
    rw [indentOf, List.takeWhile_cons_of_neg (by simp [opening])]
    rfl
  have solid : Solid [first, last] := ⟨[first], last, rfl, closing⟩
  have dedented : dedent 0 [first, last] = [first, last] := solid.trimEnd
  have flat : commonIndent (kept ++ [[first, last]]) = 0 :=
    commonIndent_eq_zero (List.mem_append_right _ List.mem_cons_self) visible flush
  rw [content, stripped, isBody, flat, List.map_append, List.map_singleton, dedented]
  obtain ⟨front, joined⟩ := joinLines_append (kept.map (dedent 0)) [first, last]
  exact ⟨front ++ [first], by rw [joined, List.append_assoc]; rfl⟩

end Family

end DocBlocks
