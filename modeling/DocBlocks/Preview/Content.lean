/-
This file takes the whole documentation text out of a block.
-/

import DocBlocks.Preview.Markers
import DocBlocks.Text.Slice

namespace DocBlocks.Family

/-- The lines from the first to the last that are not blank. -/
def body (lines : List Text) : List Text :=
  ((lines.dropWhile Text.allBlank).reverse.dropWhile Text.allBlank).reverse

/-- The bytes of white space before the text of a line. -/
def indentOf (line : Text) : Nat :=
  Text.byteLength (line.takeWhile Text.isBlank)

/-- The least indentation of a line that is not blank. -/
def commonIndent (lines : List Text) : Nat :=
  ((lines.filter fun line => !line.allBlank).map indentOf).min?.getD 0

/-- Takes the indentation off a line. White space that it would split goes as a whole. -/
def dedent (indent : Nat) (line : Text) : Text :=
  Text.trimEnd ((line.dropBytes? indent).getD line.trimStart)

/-- The text of a block without markers, without common indentation, and without blank lines at
its ends. -/
def content (family : Family) (raw : Text) : Text :=
  let lines := body (family.stripMarkers raw)
  Text.joinLines (lines.map (dedent (commonIndent lines)))

end DocBlocks.Family
