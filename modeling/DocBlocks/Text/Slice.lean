/-
This file cuts texts at byte offsets of their UTF-8 form.
-/

import DocBlocks.Text.Basic

namespace DocBlocks.Text

def byteLength (text : Text) : Nat :=
  text.foldr (fun character length => character.utf8Size + length) 0

/-- Divides the text at a byte offset. There is no result past the end or inside a character. -/
def splitAtByte? : Text → Nat → Option (Text × Text)
  | text, 0 => some ([], text)
  | [], _ + 1 => none
  | character :: rest, offset@(_ + 1) =>
    if character.utf8Size ≤ offset then
      (splitAtByte? rest (offset - character.utf8Size)).map fun (before, after) =>
        (character :: before, after)
    else none

def takeBytes? (text : Text) (stop : Nat) : Option Text :=
  (splitAtByte? text stop).map Prod.fst

def dropBytes? (text : Text) (start : Nat) : Option Text :=
  (splitAtByte? text start).map Prod.snd

/-- The text between two byte offsets. There is none if they are out of order. -/
def sliceBytes? (text : Text) (start stop : Nat) : Option Text :=
  if start ≤ stop then (takeBytes? text stop).bind (dropBytes? · start) else none

end DocBlocks.Text
