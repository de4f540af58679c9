/-
This file defines tables of what characters are replaced by.
-/

import DocBlocks.Text.Ranges
import DocBlocks.Text.Search

namespace DocBlocks.Text

/-- Code points and what they are replaced by, in increasing order. -/
abbrev Replacements := Array (Nat × List Nat)

namespace Replacements

/-- Searches the entries from `low` up to `high`, by halving. -/
def search (table : Replacements) (code low high : Nat) : Option (List Nat) :=
  if low < high then
    let middle := (low + high) / 2
    match table[middle]? with
    | none => none
    | some (entry, targets) =>
      if code < entry then table.search code low middle
      else if entry < code then table.search code (middle + 1) high
      else some targets
  else none
termination_by high - low

def replacement? (table : Replacements) (code : Nat) : Option (List Nat) :=
  table.search code 0 table.size

def number (digits : Text) : Nat :=
  digits.foldl (fun value digit => value * 16 + Ranges.digitValue digit) 0

/-- Reads a word of a table: `BC>31.34,31.32` for code points in a row, each with what it is
replaced by, and `41-5A>61` or `100-12E/2>101` for a range of them, each by one at the same
distance. -/
def entries (word : Text) : List (Nat × List Nat) :=
  match cutAt? ['>'] word with
  | none => []
  | some (sources, targets) =>
    match (split (fun mark => mark == '-' || mark == '/') sources).map number with
    | [first] =>
      (split (· == ',') targets).mapIdx fun index target =>
        (first + index, (split (· == '.') target).map number)
    | first :: last :: rest =>
      let step := rest.headD 1
      (List.range ((last - first) / step + 1)).map fun index =>
        (first + index * step, [number targets + index * step])
    | [] => []

def ofText (text : String) : Replacements :=
  ((split (fun mark => mark == ' ' || mark == '\n') text.toList).flatMap entries).toArray

end Replacements

end DocBlocks.Text
