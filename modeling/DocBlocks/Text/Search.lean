/-
This file looks for a piece of text inside another.
-/

import DocBlocks.Text.Basic

namespace DocBlocks.Text

/-- What follows `marker` in a text that starts with it. -/
def after? : (marker text : Text) → Option Text
  | [], text => some text
  | _ :: _, [] => none
  | first :: marker, character :: text =>
    if first = character then after? marker text else none

/-- What stands before and after the first occurrence of `marker`. -/
def cutAt? (marker : Text) : Text → Option (Text × Text)
  | [] => (after? marker []).map fun rest => ([], rest)
  | character :: text =>
    match after? marker (character :: text) with
    | some rest => some ([], rest)
    | none => (cutAt? marker text).map fun (before, rest) => (character :: before, rest)

/-- What stands before the first occurrence of `marker`, or the whole text. -/
def before (marker text : Text) : Text :=
  match cutAt? marker text with
  | some (before, _) => before
  | none => text

def contains (marker text : Text) : Bool :=
  (cutAt? marker text).isSome

/-- Divides a text at every mark. -/
def split (isMark : Char → Bool) : Text → List Text
  | [] => [[]]
  | character :: rest =>
    if isMark character then [] :: split isMark rest
    else
      match split isMark rest with
      | [] => [[character]]
      | part :: parts => (character :: part) :: parts

end DocBlocks.Text
