/-
This file reads domains with letters of all scripts and writes them in ASCII.
-/

import DocBlocks.Text.Composition
import DocBlocks.Uri.Domain.Direction
import DocBlocks.Uri.Domain.Joining
import DocBlocks.Uri.Domain.Mapping
import DocBlocks.Uri.Punycode

namespace DocBlocks.Uri.Domain

/-- The characters of ASCII that would end or confuse a host. -/
def isDenied (character : Char) : Bool :=
  character.toNat ≤ 0x20 || character.toNat == 0x7F ||
    ['%', '#', '/', ':', '<', '>', '?', '@', '[', '\\', ']', '^', '|'].contains character

def isAscii (label : Text) : Bool :=
  label.all (·.toNat < 0x80)

/-- What encoded labels begin with. -/
def encodedMark : Text := ['x', 'n', '-', '-']

/-- How long the encoded part of a label may be. -/
def encodedLimit : Nat := 2000

/-- How long a label may be that is to be encoded. -/
def labelLimit : Nat := 1000

/-- The label in the letters of its script. An encoded label must be the code of a label that is
read as itself. -/
def decoded? (label : Text) : Option Text :=
  match Text.after? encodedMark label with
  | none => some label
  | some encoded =>
    if !isAscii encoded || encoded.getLast?.all (· == '-') || encodedLimit < encoded.length then
      none
    else
      (Punycode.decode? encoded).filter fun inner =>
        inner.all isPlain && Text.composed inner == inner

def beginsWithMark (label : Text) : Bool :=
  label.head?.any (Text.Category.codesOf .seventeen Text.Category.marks).contains

/-- A label that does not mislead where it stands alone. -/
def isValid (label : Text) : Bool :=
  !label.any isDenied && !beginsWithMark label && joinsWell [] label

/-- A label of letters of all scripts in ASCII. -/
def encoded? (label : Text) : Option Text :=
  if isAscii label then some label
  else if labelLimit < label.length then none
  else some (encodedMark ++ Punycode.encode label)

/-- The labels of a domain, in the letters of their scripts. -/
def labels? (domain : Text) : Option (List Text) := do
  let mapped ← domain.mapM mapped?
  let labels ← (Text.split (· == '.') (Text.composed mapped.flatten)).mapM decoded?
  let keepOrder := labels.flatten.any turnsAround
  if labels.all fun label => isValid label && (!keepOrder || keepsDirection label) then some labels
  else none

/-- A domain in ASCII. -/
def ascii? (domain : Text) : Option Text := do
  let labels ← (← labels? domain).mapM encoded?
  some (List.intercalate ['.'] labels)

end DocBlocks.Uri.Domain
