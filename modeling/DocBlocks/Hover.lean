/-
This file shows the text of the block under a position.
-/

import DocBlocks.Block
import DocBlocks.Document
import DocBlocks.Folding
import DocBlocks.Pattern.Basic
import DocBlocks.Preview.Content

namespace DocBlocks

structure Hover where
  value : Text
  start : Position
  stop : Position
deriving DecidableEq, Repr

namespace Hover

def contains (block : Block) (position : Position) : Bool :=
  block.containsLine position.line &&
    (position.line != block.startLine || block.startColumn ≤ position.character) &&
    (position.line != block.endLine || position.character ≤ block.endColumn)

/-- A block is further inside if it has fewer lines, or as many and starts earlier. -/
def isInside (left right : Block) : Bool :=
  left.lineCount < right.lineCount ||
    (left.lineCount == right.lineCount && left.startLine < right.startLine)

/-- The innermost of the blocks, the first one of several. -/
def innermost : List Block → Option Block
  | [] => none
  | block :: blocks =>
    some (blocks.foldl (fun best block => if isInside block best then block else best) block)

def blockAt (blocks : List Block) (position : Position) : Option Block :=
  innermost (blocks.filter (contains · position))

/-- The family of the first pattern whose opening marker is on the first line of the block. -/
def familyOf (block : Block) (patterns : List Pattern) : Family :=
  let firstLine := block.rawContent.lines.headD []
  match patterns.find? fun pattern => (pattern.opening.isMatch firstLine).outcome == some true with
  | some pattern => pattern.family
  | none => .blockComment

/-- Shows the text of a block, or its preview if there is none. -/
def ofBlock (block : Block) (patterns : List Pattern) : Hover :=
  let content := (familyOf block patterns).content block.rawContent
  { value := if Text.allBlank content then block.preview else content
    start := ⟨coordinate block.startLine, coordinate block.startColumn⟩
    stop := ⟨coordinate block.endLine, coordinate block.endColumn⟩ }

def positionJson (position : Position) : Json :=
  .object [("character", .nat position.character), ("line", .nat position.line)]

def toJson (hover : Hover) : Json :=
  .object [
    ("contents", .object [("kind", .string "markdown"), ("value", .text hover.value)]),
    ("range",
      .object [("end", positionJson hover.stop), ("start", positionJson hover.start)])]

end Hover

end DocBlocks
