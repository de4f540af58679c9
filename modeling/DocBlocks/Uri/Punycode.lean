/-
This file writes labels of domain names with letters, digits and hyphens only, and reads labels
written so.
-/

import DocBlocks.Text.Basic

namespace DocBlocks.Uri.Punycode

def digit (value : Nat) : Char :=
  Char.ofNat (if value < 26 then 'a'.toNat + value else '0'.toNat + value - 26)

def threshold (position bias : Nat) : Nat :=
  if position ≤ bias then 1 else if bias + 26 ≤ position then 26 else position - bias

theorem thresholdBounds (position bias : Nat) :
    1 ≤ threshold position bias ∧ threshold position bias ≤ 26 := by
  unfold threshold
  split
  · omega
  · split <;> omega

/-- Brings a distance down to the range in which it sets the bias. -/
def shrink (distance rounds : Nat) : Nat × Nat :=
  if 455 < distance then shrink (distance / 35) (rounds + 36) else (distance, rounds)
termination_by distance

def adapt (distance count : Nat) (first : Bool) : Nat :=
  let halved := if first then distance / 700 else distance / 2
  let (distance, rounds) := shrink (halved + halved / count) 0
  rounds + 36 * distance / (distance + 38)

/-- The digits of a distance, the lowest first. -/
def digits (bias position distance : Nat) : Text :=
  let limit := threshold position bias
  if distance < limit then [digit distance]
  else
    digit (limit + (distance - limit) % (36 - limit)) ::
      digits bias (position + 36) ((distance - limit) / (36 - limit))
termination_by distance
decreasing_by
  have bounds := thresholdBounds position bias
  calc (distance - threshold position bias) / (36 - threshold position bias)
      ≤ distance - threshold position bias := Nat.div_le_self _ _
    _ < distance := by omega

structure State where
  output : Text
  distance : Nat
  bias : Nat
  handled : Nat

def visit (basic code : Nat) (state : State) (character : Char) : State :=
  if character.toNat < code then { state with distance := state.distance + 1 }
  else if character.toNat == code then
    { output := state.output ++ digits state.bias 36 state.distance
      distance := 0
      bias := adapt state.distance (state.handled + 1) (state.handled == basic)
      handled := state.handled + 1 }
  else state

/-- Inserts the characters with each of the codes, which stand in increasing order. -/
def insertCodes (label : Text) (basic : Nat) (next : Nat) (state : State) : List Nat → State
  | [] => state
  | code :: codes =>
    let moved := { state with distance := state.distance + (code - next) * (state.handled + 1) }
    let visited := label.foldl (visit basic code) moved
    insertCodes label basic (code + 1) { visited with distance := visited.distance + 1 } codes

/-- A label in its encoded form, without the mark of such labels. -/
def encode (label : Text) : Text :=
  let basic := label.filter (·.toNat < 0x80)
  let codes := ((label.filter (0x80 ≤ ·.toNat)).map Char.toNat).eraseDups.mergeSort
  let start := if basic.isEmpty then [] else basic ++ ['-']
  start ++ (insertCodes label basic.length 0x80 ⟨[], 0, 72, basic.length⟩ codes).output

def digitValue? (character : Char) : Option Nat :=
  if character.isAlpha then some (character.toLower.toNat - 'a'.toNat)
  else if character.isDigit then some (character.toNat - '0'.toNat + 26)
  else none

/-- A label that is being read: the characters so far, the code of the last one inserted, the place
after it, and the distance that is being read, with the worth and the position of its next digit. -/
structure Reading where
  output : Text
  code : Nat := 0x80
  place : Nat := 0
  distance : Nat := 0
  weight : Nat := 1
  position : Nat := 36
  bias : Nat := 72
  first : Bool := true

/-- Distances and weights are numbers below this one. -/
def numberLimit : Nat := 4294967296

/-- Inserts the character that the distance leads to. -/
def Reading.insert? (reading : Reading) : Option Reading :=
  let count := reading.output.length + 1
  let total := reading.place + reading.distance
  let code := reading.code + total / count
  let place := total % count
  if numberLimit ≤ total || !code.isValidChar then none
  else
    some { output := reading.output.take place ++ Char.ofNat code :: reading.output.drop place
           code
           place := place + 1
           bias := adapt reading.distance count reading.first
           first := false }

def Reading.step (reading : Reading) (character : Char) : Option Reading := do
  let value ← digitValue? character
  let limit := threshold reading.position reading.bias
  let distance := reading.distance + value * reading.weight
  let next := { reading with distance }
  if value < limit then next.insert?
  else if numberLimit ≤ reading.weight * (36 - limit) then none
  else
    some { next with
      weight := reading.weight * (36 - limit)
      position := reading.position + 36 }

/-- The label that was encoded, if it was. -/
def decode? (encoded : Text) : Option Text := do
  let digits := (encoded.reverse.takeWhile (· != '-')).reverse
  let basic := (encoded.take (encoded.length - digits.length)).dropLast
  let reading ← digits.foldlM Reading.step { output := basic }
  if reading.position == 36 then some reading.output else none

end DocBlocks.Uri.Punycode
