/-
This file makes the one-line previews of blocks.
-/

import DocBlocks.Preview.Markers
import DocBlocks.Preview.Markup

namespace DocBlocks

def ellipsis : Text := ['.', '.', '.']

/-- Cuts a text to a length. If there is room, dots take the place of the last three characters. -/
def truncate (text : Text) (limit : Nat) : Text :=
  if text.length ≤ limit then text
  else if limit < ellipsis.length then text.take limit
  else text.take (limit - ellipsis.length) ++ ellipsis

namespace Family

/-- The preview of a block without text. -/
def fallback : Family → Text
  | tripleQuote => "Docstring".toList
  | blockComment | linePrefix => "Documentation".toList

def interpretsMarkup : Family → Bool
  | tripleQuote => false
  | blockComment | linePrefix => true

/-- The text a preview is taken from. -/
def previewSource (family : Family) (raw : Text) : Text :=
  let text := Text.joinLines (family.stripMarkers raw)
  if family.interpretsMarkup then Markup.stripTags (Markup.summary text) else text

/-- The first line with text, without white space around it. -/
def firstLine? (text : Text) : Option Text :=
  (text.lines.map Text.trim).find? fun line => !line.isEmpty

/-- The preview of a block, in at most `limit` characters. -/
def preview (family : Family) (raw : Text) (limit : Nat) : Text :=
  truncate ((firstLine? (family.previewSource raw)).getD family.fallback) limit

end Family

end DocBlocks
