/-
This file presents blocks as regions that an editor can fold.
-/

import DocBlocks.Block

namespace DocBlocks

/-- Coordinates of the editor protocol are numbers of 32 bits. -/
def coordinate (value : Nat) : Nat :=
  value % 4294967296

structure FoldingRange where
  startLine : Nat
  startCharacter : Nat
  endLine : Nat
  endCharacter : Nat
  collapsedText : Option Text
deriving DecidableEq, Repr

namespace FoldingRange

def ofBlock (showPreview : Bool) (block : Block) : FoldingRange where
  startLine := coordinate block.startLine
  startCharacter := coordinate block.startColumn
  endLine := coordinate block.endLine
  endCharacter := coordinate block.endColumn
  collapsedText := if showPreview then some block.preview else none

/-- The regions of the blocks that have more than one line, in the order of their places. -/
def ofBlocks (showPreview : Bool) (blocks : List Block) : List FoldingRange :=
  (Block.sorted (blocks.filter (!·.isSingleLine))).map (ofBlock showPreview)

def toJson (range : FoldingRange) : Json :=
  let collapsed := match range.collapsedText with
    | some text => [("collapsedText", Json.text text)]
    | none => []
  .object (collapsed ++ [
    ("endCharacter", .nat range.endCharacter),
    ("endLine", .nat range.endLine),
    ("kind", .string "comment"),
    ("startCharacter", .nat range.startCharacter),
    ("startLine", .nat range.startLine)])

end FoldingRange

end DocBlocks
