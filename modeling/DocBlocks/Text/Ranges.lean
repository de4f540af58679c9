/-
This file defines sets of characters as sorted tables of code point ranges.
-/

namespace DocBlocks.Text

/-- Inclusive ranges of code points, in increasing order and disjoint. -/
abbrev Ranges := Array (Nat × Nat)

namespace Ranges

/-- The greatest code point. -/
def lastCode : Nat := 0x10FFFF

/-- Searches the entries from `low` up to `high`, by halving. -/
def search (table : Ranges) (code low high : Nat) : Bool :=
  if low < high then
    let middle := (low + high) / 2
    match table[middle]? with
    | none => false
    | some (first, last) =>
      if code < first then table.search code low middle
      else if last < code then table.search code (middle + 1) high
      else true
  else false
termination_by high - low

def covers (table : Ranges) (code : Nat) : Bool :=
  table.search code 0 table.size

def contains (table : Ranges) (character : Char) : Bool :=
  table.covers character.toNat

/-- Joins sorted ranges that overlap or touch. -/
def joined : List (Nat × Nat) → List (Nat × Nat)
  | [] => []
  | [range] => [range]
  | (first, last) :: (next, stop) :: rest =>
    if next ≤ last + 1 then joined ((first, max last stop) :: rest)
    else (first, last) :: joined ((next, stop) :: rest)
termination_by ranges => ranges.length

def comesBefore (left right : Nat × Nat) : Bool :=
  left.1 ≤ right.1

/-- The ranges of a list in any order. -/
def ofList (ranges : List (Nat × Nat)) : Ranges :=
  (joined (ranges.mergeSort comesBefore)).toArray

/-- The ranges of two sorted lists in order. -/
def merged : List (Nat × Nat) → List (Nat × Nat) → List (Nat × Nat)
  | [], right => right
  | left, [] => left
  | first :: left, second :: right =>
    if comesBefore first second then first :: merged left (second :: right)
    else second :: merged (first :: left) right
termination_by left right => left.length + right.length

def union (left right : Ranges) : Ranges :=
  (joined (merged left.toList right.toList)).toArray

def unionOf (tables : List Ranges) : Ranges :=
  ofList (tables.flatMap Array.toList)

/-- The code points from `next` on that lie between the ranges. -/
def gaps (next : Nat) : List (Nat × Nat) → List (Nat × Nat)
  | [] => if next ≤ lastCode then [(next, lastCode)] else []
  | (first, last) :: rest =>
    if next < first then (next, first - 1) :: gaps (last + 1) rest else gaps (last + 1) rest

def complement (table : Ranges) : Ranges :=
  (gaps 0 table.toList).toArray

def intersection (left right : Ranges) : Ranges :=
  (left.complement.union right.complement).complement

def difference (left right : Ranges) : Ranges :=
  (left.complement.union right).complement

/-- A table that is being read: the finished entries, the numbers of the present one before the
last, the last one, and whether it has digits. -/
structure Reading where
  entries : List (List Nat) := []
  numbers : List Nat := []
  number : Nat := 0
  started : Bool := false

def Reading.finish (reading : Reading) : Reading :=
  if reading.started then
    { entries := (reading.number :: reading.numbers).reverse :: reading.entries }
  else reading

def digitValue (digit : Char) : Nat :=
  if digit ≤ '9' then digit.toNat - '0'.toNat else digit.toNat - 'A'.toNat + 10

def Reading.step (reading : Reading) (character : Char) : Reading :=
  if character == ' ' || character == '\n' then reading.finish
  else if character == '-' || character == '/' then
    { reading with numbers := reading.number :: reading.numbers, number := 0 }
  else { reading with number := reading.number * 16 + digitValue character, started := true }

def expand : List Nat → List (Nat × Nat)
  | [first, last] => [(first, last)]
  | [first, last, step] =>
    (List.range ((last - first) / step + 1)).map fun index =>
      (first + index * step, first + index * step)
  | numbers => numbers.map fun code => (code, code)

/-- Reads a table written with hexadecimal numbers: `5F` for one code point, `41-5A` for a range
and `100-136/2` for every second code point of a range. -/
def ofText (text : String) : Ranges :=
  ((text.toList.foldl Reading.step {}).finish.entries.reverse.flatMap expand).toArray

end Ranges

end DocBlocks.Text
