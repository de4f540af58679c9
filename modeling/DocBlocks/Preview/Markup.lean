/-
This file reads the markup that documentation may contain.
-/

import DocBlocks.Text.Basic
import DocBlocks.Text.CaseFold

namespace DocBlocks.Markup

/-- What follows `marker`, in any case, in a text that starts with it. -/
def after? : (marker text : Text) → Option Text
  | [], text => some text
  | _ :: _, [] => none
  | first :: marker, character :: text =>
    if Text.equalUpToCase first character then after? marker text else none

/-- What stands before and after the first occurrence of `marker`, in any case. -/
def cutAt? (marker : Text) : Text → Option (Text × Text)
  | [] => (after? marker []).map fun rest => ([], rest)
  | character :: text =>
    match after? marker (character :: text) with
    | some rest => some ([], rest)
    | none => (cutAt? marker text).map fun (before, rest) => (character :: before, rest)

/-- The text of the first summary element, or the whole text. -/
def summary (text : Text) : Text :=
  match cutAt? "<summary>".toList text with
  | none => text
  | some (_, rest) =>
    match cutAt? "</summary>".toList rest with
    | none => text
    | some (inside, _) => inside

def isAngle (character : Char) : Bool :=
  character == '<' || character == '>'

def skipSlash : Text → Text
  | '/' :: rest => rest
  | text => text

/-- What follows a tag, in a text that starts behind its opening angle. -/
def afterTag? (text : Text) : Option Text :=
  match skipSlash text with
  | [] => none
  | letter :: rest =>
    if letter.isAlpha then
      match rest.dropWhile (!isAngle ·) with
      | '>' :: rest => some rest
      | _ => none
    else none

theorem skipSlash_length_le (text : Text) : (skipSlash text).length ≤ text.length := by
  unfold skipSlash
  split <;> simp

theorem afterTag?_length_lt {text rest : Text} (found : afterTag? text = some rest) :
    rest.length < text.length := by
  have slash := skipSlash_length_le text
  unfold afterTag? at found
  split at found
  · simp at found
  · rename_i letter name shape
    have dropped : (name.dropWhile (!isAngle ·)).length ≤ name.length :=
      (List.dropWhile_suffix _).length_le
    split at found
    · split at found
      · rename_i tail tailShape
        simp only [Option.some.injEq] at found
        rw [shape] at slash
        rw [tailShape] at dropped
        subst found
        simp only [List.length_cons] at slash dropped
        omega
      · simp at found
    · simp at found

/-- The text without its tags. -/
def stripTags : Text → Text
  | [] => []
  | character :: text =>
    if character = '<' then
      match found : afterTag? text with
      | some rest =>
        have := afterTag?_length_lt found
        stripTags rest
      | none => character :: stripTags text
    else character :: stripTags text
termination_by text => text.length

end DocBlocks.Markup
