/-
This file divides ranges of code points into sequences of byte ranges, so that the bytes of the
characters of a range are those that one of the sequences allows.
-/

import DocBlocks.Text.Ranges

namespace DocBlocks.Regex.Utf8

/-- Inclusive bounds of a byte. -/
abbrev ByteRange := Nat × Nat

def bytes (code : Nat) : List Nat :=
  if code < 0x80 then [code]
  else if code < 0x800 then [0xC0 + code / 0x40, 0x80 + code % 0x40]
  else if code < 0x10000 then
    [0xE0 + code / 0x1000, 0x80 + code / 0x40 % 0x40, 0x80 + code % 0x40]
  else
    [0xF0 + code / 0x40000, 0x80 + code / 0x1000 % 0x40, 0x80 + code / 0x40 % 0x40,
      0x80 + code % 0x40]

/-- The greatest code points that take one, two and three bytes. -/
def lengthEnds : List Nat := [0x7F, 0x7FF, 0xFFFF]

/-- Where a range is cut, so that the last bytes of what is left run through all their values. -/
def alignedCut? (first last : Nat) (block : Nat) : Option Nat :=
  if first / block == last / block then none
  else if first % block != 0 then some (first / block * block + block - 1)
  else if last % block != block - 1 then some (last / block * block - 1)
  else none

/-- The last code point of the first part of a range that is to be divided. -/
def cut? (first last : Nat) : Option Nat :=
  match lengthEnds.find? fun stop => first ≤ stop && stop < last with
  | some stop => some stop
  | none => if last ≤ 0x7F then none else [0x40, 0x1000, 0x40000].findSome? (alignedCut? first last)

/-- The sequences for one range, in increasing order. -/
def ofRange (first last : Nat) : List (List ByteRange) :=
  match cut? first last with
  | some cut =>
    if _inside : first ≤ cut ∧ cut < last then ofRange first cut ++ ofRange (cut + 1) last
    else [(bytes first).zip (bytes last)]
  | none => [(bytes first).zip (bytes last)]
termination_by last - first

/-- Code points that stand for no character. -/
def surrogates : Text.Ranges := #[(0xD800, 0xDFFF)]

/-- The sequences for all ranges of a table, in increasing order. -/
def sequences (codes : Text.Ranges) : List (List ByteRange) :=
  (codes.difference surrogates).toList.flatMap fun (first, last) => ofRange first last

end DocBlocks.Regex.Utf8
