/-
This file takes previews out of blocks by byte offsets, where each cut may fail, and shows that none
of them does.
-/

import DocBlocks.Preview.Basic
import DocBlocks.Proofs.Text.Search
import DocBlocks.Proofs.Text.Slice

/-- Steps of which none fails make a list of results. -/
theorem List.mapM_of_forall {α β : Type} {step : α → Option β} {result : α → β} (list : List α)
    (succeeds : ∀ element ∈ list, step element = some (result element)) :
    list.mapM step = some (list.map result) := by
  induction list with
  | nil => rfl
  | cons element list ih =>
      rw [List.mapM_cons, succeeds element List.mem_cons_self,
        ih fun other member => succeeds other (List.mem_cons_of_mem _ member)]
      rfl

namespace DocBlocks

namespace Text

/-- The byte offset at which a marker is first found. -/
def offsetOf? (marker text : Text) : Option Nat :=
  (cutAt? marker text).map fun (before, _) => byteLength before

/-- The text up to the offset of a marker, or up to its end. -/
def upTo? (offset : Option Nat) (text : Text) : Option Text :=
  text.takeBytes? (offset.getD text.byteLength)

/-- A slice up to the end of a front is that front. -/
theorem takeBytes?_of_prefix {before text : Text} (starts : before <+: text) :
    text.takeBytes? (byteLength before) = some before := by
  obtain ⟨rest, rfl⟩ := starts
  exact takeBytes?_append before rest

/-- The front before a marker ends at the offset of the marker. -/
theorem before_byteLength (marker text : Text) :
    byteLength (before marker text) = (offsetOf? marker text).getD text.byteLength := by
  unfold offsetOf? before
  split
  · rename_i found
    rw [found]
    rfl
  · rename_i missing
    rw [missing]
    rfl

/-- A slice up to a marker that is looked for is never refused. -/
theorem upTo?_offsetOf? (marker text : Text) :
    upTo? (offsetOf? marker text) text = some (before marker text) := by
  rw [upTo?, ← before_byteLength]
  exact takeBytes?_of_prefix (before_isPrefix marker text)

/-- A front has no more bytes than the text. -/
theorem byteLength_le_of_prefix {before text : Text} (starts : before <+: text) :
    byteLength before ≤ byteLength text := by
  obtain ⟨rest, rfl⟩ := starts
  simp

end Text

namespace Family

/-- The quotes that open a string and the byte offset after them. -/
def openingEnd? (line : Text) : Option (Text × Nat) :=
  (openingQuotes? line).map fun (quotes, _) =>
    (quotes, Text.byteLength (line.takeWhile Text.isBlank) +
      Text.byteLength (line.trimStart.takeWhile isStringLetter) + Text.byteLength quotes)

/-- The byte offset of the first three quotes of either kind. -/
def quotesOffset (line : Text) : Nat :=
  min ((Text.offsetOf? doubleQuotes line).getD line.byteLength)
    ((Text.offsetOf? singleQuotes line).getD line.byteLength)

/-- Removes quotes by slices. There is no result if one of them is out of bounds. -/
def stripQuotes? (raw : Text) : Option (List Text) :=
  match raw.lines with
  | [] => some []
  | first :: others =>
    match openingEnd? first with
    | some (quotes, stop) => do
      let rest ← first.dropBytes? stop
      let opening ← Text.upTo? (Text.offsetOf? quotes rest) rest
      let later ← others.mapM fun line => Text.upTo? (Text.offsetOf? quotes line) line
      return opening :: later
    | none => (first :: others).mapM fun line => line.takeBytes? (quotesOffset line)

/-- What stands before the closing of a comment. -/
def beforeClosing? (body : Text) : Option Text :=
  match Text.offsetOf? ['*', '/'] body with
  | some offset => (body.takeBytes? offset).map dropStarsAtEnd
  | none => some body

/-- Removes the markers of a comment from a line by slices. -/
def stripCommentLine? (line : Text) : Option Text := do
  let trimmed := line.trimStart
  let opened := Text.after? ['/', '*', '*'] trimmed
  let body ← beforeClosing? (opened.getD trimmed)
  let body := if opened.isSome then dropStars body else body
  return match body.trimStart with
    | '*' :: rest => rest
    | _ => body

def stripMarkers? (family : Family) (raw : Text) : Option (List Text) :=
  match family with
  | tripleQuote => stripQuotes? raw
  | blockComment => raw.lines.mapM stripCommentLine?
  | linePrefix => some (raw.lines.map stripSlashes)

/-- A line that opens a string consists of white space, letters, quotes and the rest. -/
theorem openingQuotes?_parts {line quotes rest : Text}
    (found : openingQuotes? line = some (quotes, rest)) :
    line = line.takeWhile Text.isBlank ++ (line.trimStart.takeWhile isStringLetter ++
      (quotes ++ rest)) := by
  have quoted : line.trimStart.dropWhile isStringLetter = quotes ++ rest := by
    unfold openingQuotes? at found
    dsimp only at found
    split at found
    · split at found
      · rename_i double
        cases found
        exact (Text.after?_eq_some _ _ _).mp double
      · obtain ⟨left, single, same⟩ := Option.map_eq_some_iff.mp found
        cases same
        exact (Text.after?_eq_some _ _ _).mp single
    · cases found
  rw [← quoted, List.takeWhile_append_dropWhile]
  exact (List.takeWhile_append_dropWhile (p := Text.isBlank) (l := line)).symm

/-- A slice from the end of the opening quotes on is never refused. -/
theorem dropBytes?_openingEnd? {line quotes rest : Text}
    (found : openingQuotes? line = some (quotes, rest)) :
    line.dropBytes? (Text.byteLength (line.takeWhile Text.isBlank) +
      Text.byteLength (line.trimStart.takeWhile isStringLetter) + Text.byteLength quotes) =
        some rest := by
  have whole := openingQuotes?_parts found
  generalize line.takeWhile Text.isBlank = blanks at whole ⊢
  generalize line.trimStart.takeWhile isStringLetter = letters at whole ⊢
  rw [whole, ← List.append_assoc, ← List.append_assoc, ← Text.byteLength_append,
    ← Text.byteLength_append]
  exact Text.dropBytes?_append _ _

/-- The first quotes of either kind stand at the end of the shorter text before quotes. -/
theorem takeBytes?_quotesOffset (line : Text) :
    line.takeBytes? (quotesOffset line) = some (beforeQuotes line) := by
  have double := Text.before_isPrefix doubleQuotes line
  have single := Text.before_isPrefix singleQuotes line
  rw [quotesOffset, ← Text.before_byteLength, ← Text.before_byteLength, beforeQuotes]
  split
  · rename_i shorter
    have inner := List.prefix_of_prefix_length_le double single shorter
    rw [Nat.min_eq_left (Text.byteLength_le_of_prefix inner)]
    exact Text.takeBytes?_of_prefix double
  · rename_i longer
    rw [Nat.min_eq_right (Text.byteLength_le_of_prefix
      (List.prefix_of_prefix_length_le single double (Nat.le_of_not_le longer)))]
    exact Text.takeBytes?_of_prefix single

/-- Slices of a string are never refused. -/
theorem stripQuotes?_eq (raw : Text) : stripQuotes? raw = some (stripQuotes raw) := by
  unfold stripQuotes? stripQuotes
  cases raw.lines with
  | nil => rfl
  | cons first others =>
      cases opening : openingQuotes? first with
      | none =>
          simp only [openingEnd?, opening, Option.map_none]
          exact List.mapM_of_forall _ fun line _ => takeBytes?_quotesOffset line
      | some found =>
          obtain ⟨quotes, rest⟩ := found
          have later := List.mapM_of_forall others fun line _ => Text.upTo?_offsetOf? quotes line
          simp only [openingEnd?, opening, Option.map_some, dropBytes?_openingEnd? opening,
            Option.bind_eq_bind, Option.bind_some, Text.upTo?_offsetOf? quotes rest, later]
          rfl

/-- The slice before the end of a comment is never refused. -/
theorem beforeClosing?_eq (body : Text) :
    beforeClosing? body = some (match Text.cutAt? ['*', '/'] body with
      | some (inside, _) => dropStarsAtEnd inside
      | none => body) := by
  unfold beforeClosing?
  cases found : Text.cutAt? ['*', '/'] body with
  | none => simp [Text.offsetOf?, found]
  | some parts =>
      obtain ⟨inside, rest⟩ := parts
      have whole := Text.of_cutAt? found
      rw [List.append_assoc] at whole
      simp only [Text.offsetOf?, found, Option.map_some]
      rw [whole, Text.takeBytes?_append]
      rfl

/-- Slices of a line of a comment are never refused. -/
theorem stripCommentLine?_eq (line : Text) :
    stripCommentLine? line = some (stripCommentLine line) := by
  unfold stripCommentLine? stripCommentLine
  dsimp only
  rw [beforeClosing?_eq]
  rfl

/-- Markers of any family are stripped without a slice that is refused. -/
theorem stripMarkers?_eq (family : Family) (raw : Text) :
    family.stripMarkers? raw = some (family.stripMarkers raw) := by
  cases family with
  | tripleQuote => exact stripQuotes?_eq raw
  | blockComment => exact List.mapM_of_forall _ fun line _ => stripCommentLine?_eq line
  | linePrefix => rfl

end Family

/-- What is left of a length after some of it is taken away. There is no result below zero. -/
def lessBy? (length less : Nat) : Option Nat :=
  if less ≤ length then some (length - less) else none

/-- Cuts a text to a length, where the room beside the dots is computed without going below zero. -/
def truncate? (text : Text) (limit : Nat) : Option Text :=
  if text.length ≤ limit then some text
  else if limit < ellipsis.length then some (text.take limit)
  else return text.take (← lessBy? limit ellipsis.length) ++ ellipsis

/-- A text is cut short between two characters. -/
theorem truncate?_eq (text : Text) (limit : Nat) :
    truncate? text limit = some (truncate text limit) := by
  unfold truncate? truncate
  split
  · rfl
  · split
    · rfl
    · rename_i room
      rw [lessBy?, if_pos (Nat.le_of_not_lt room)]
      rfl

/-- The preview of a block, taken out of it by slices. -/
def Family.preview? (family : Family) (raw : Text) (limit : Nat) : Option Text := do
  let text := Text.joinLines (← family.stripMarkers? raw)
  let source := if family.interpretsMarkup then Markup.stripTags (Markup.summary text) else text
  truncate? ((firstLine? source).getD family.fallback) limit

/-- No slice is out of bounds while a preview is made. -/
theorem Family.preview?_eq (family : Family) (raw : Text) (limit : Nat) :
    family.preview? raw limit = some (family.preview raw limit) := by
  unfold preview? preview previewSource
  rw [stripMarkers?_eq]
  exact truncate?_eq _ _

end DocBlocks
