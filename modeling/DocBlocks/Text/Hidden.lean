/-
This file holds the characters that have no picture of their own: controls, format characters,
separators other than the space, private and unassigned characters, fillers, and extending marks.
A string between quotes is written with escapes for them.
-/

import DocBlocks.Text.Category

namespace DocBlocks.Text

/-- Signs of other categories that extend the character before them. -/
def otherExtending : Ranges := .ofText
  "9BE 9D7 B3E B57 BBE BD7 CC0 CC2 CC7-CC8 CCA-CCB CD5-CD6 D3E D57 DCF DDF 1715 1734 1B35 1B3B
    1B3D 1B43-1B44 1BAA 1BF2-1BF3 200C 302E-302F A953 A9C0 FF9E-FF9F 111C0 11235 1133E 1134D 11357
    113B8 113C2 113C5 113C7-113C9 113CF 114B0 114BD 115AF 116B6 11930 1193D 11F41 16FF0-16FF1
    1D165-1D166 1D16D-1D172 E0020-E007F"

/-- The marks that extend the character before them. -/
def extendingRanges (edition : Edition) : Ranges :=
  (Category.codesOf edition [.nonspacingMark, .enclosingMark]).union
    (otherExtending.difference (Category.codes edition .unassigned))

/-- Letters that show nothing and only hold a place. -/
def fillerRanges : Ranges := #[(0x115F, 0x1160), (0x3164, 0x3164), (0xFFA0, 0xFFA0)]

/-- Marks that extend a character and yet stand as letters of their own. -/
def soundMarkRanges : Ranges := #[(0xFF9E, 0xFF9F)]

def hiddenRanges : Ranges :=
  let blanks := Category.codesOf .seventeen (Category.separators ++ Category.others)
  let marks := (extendingRanges .seventeen).difference soundMarkRanges
  (Ranges.unionOf [blanks, marks, fillerRanges]).difference #[(0x20, 0x20)]

def isHidden (character : Char) : Bool :=
  hiddenRanges.contains character

def hexadecimal (number : Nat) : String :=
  String.ofList (Nat.toDigits 16 number)

def escape (character : Char) : String :=
  if character.toNat == 0 then "\\0"
  else if character == '\t' then "\\t"
  else if character == '\r' then "\\r"
  else if character == '\n' then "\\n"
  else if character == '"' then "\\\""
  else if character == '\\' then "\\\\"
  else if isHidden character then "\\u\x7b" ++ hexadecimal character.toNat ++ "\x7d"
  else character.toString

def quoted (string : String) : String :=
  "\"" ++ String.join (string.toList.map escape) ++ "\""

end DocBlocks.Text
