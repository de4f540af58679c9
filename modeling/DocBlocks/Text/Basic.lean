/-
This file fixes how texts are held, and divides them into lines, once for detection and once for
editing.
-/

namespace DocBlocks

/-- Documents, lines, contents and previews are lists of characters. Names, such as those of
languages, patterns and documents, are strings. -/
abbrev Text := List Char

namespace Text

/-- A line ends at a line feed, with or without a carriage return before it. A line ending at the
very end of the text opens no further line. -/
def lines : Text → List Text
  | [] => []
  | '\n' :: rest => [] :: lines rest
  | '\r' :: '\n' :: rest => [] :: lines rest
  | character :: rest =>
    match lines rest with
    | [] => [[character]]
    | line :: others => (character :: line) :: others

def joinLines (parts : List Text) : Text :=
  List.intercalate ['\n'] parts

/-- Line feed, vertical tab, form feed, carriage return, next line, line and paragraph separator. -/
def isBreak (character : Char) : Bool :=
  let code := character.toNat
  (0xA ≤ code && code ≤ 0xD) || code == 0x85 || code == 0x2028 || code == 0x2029

/-- Lines with their line breaks. A carriage return and a line feed together are one break. After
the last break there is one more line, which may be empty. -/
def editorLines : Text → List Text
  | [] => [[]]
  | '\r' :: '\n' :: rest => ['\r', '\n'] :: editorLines rest
  | character :: rest =>
    if isBreak character then [character] :: editorLines rest
    else
      match editorLines rest with
      | [] => [[character]]
      | line :: others => (character :: line) :: others

end Text

end DocBlocks
