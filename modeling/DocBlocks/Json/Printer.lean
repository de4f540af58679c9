/-
This file writes JSON values as text.
-/

import DocBlocks.Json.Basic

namespace DocBlocks.Json

/-- Writes a number with a point if its leading digit is worth at least a hundred-thousandth and
less than ten to the sixteenth, and with an exponent otherwise. -/
def Binary64.print (value : Binary64) : String :=
  let sign := if value.negative then "-" else ""
  let (digits, unit) := value.shortest
  let written := Nat.toDigits 10 digits
  let count : Int := written.length
  let leading := count - 1 + unit
  let body :=
    if leading < -5 || 16 ≤ leading then
      let fraction := if written.length ≤ 1 then [] else '.' :: written.drop 1
      let mark := if leading < 0 then "e-" else "e+"
      String.ofList (written.take 1 ++ fraction) ++ mark ++ toString leading.natAbs
    else if 0 ≤ unit then
      String.ofList (written ++ List.replicate unit.toNat '0') ++ ".0"
    else if leading < 0 then
      "0." ++ String.ofList (List.replicate (-leading - 1).toNat '0' ++ written)
    else
      let whole := (leading + 1).toNat
      String.ofList (written.take whole ++ '.' :: written.drop whole)
  sign ++ body

def Number.print : Number → String
  | .whole value => toString value
  | .binary value => value.print

def hexDigit (digit : Nat) : Char :=
  (Nat.toDigits 16 digit).getLastD '0'

def printCharacter (character : Char) : List Char :=
  if character = '"' then ['\\', '"']
  else if character = '\\' then ['\\', '\\']
  else if character = '\n' then ['\\', 'n']
  else if character = '\r' then ['\\', 'r']
  else if character = '\t' then ['\\', 't']
  else if character = '\x08' then ['\\', 'b']
  else if character = '\x0c' then ['\\', 'f']
  else if character.toNat < 0x20 then
    ['\\', 'u', '0', '0', hexDigit (character.toNat / 16), hexDigit (character.toNat % 16)]
  else [character]

def printString (value : String) : String :=
  "\"" ++ String.ofList (value.toList.flatMap printCharacter) ++ "\""

mutual

def print : Json → String
  | null => "null"
  | bool value => if value then "true" else "false"
  | number value => value.print
  | string value => printString value
  | array elements => "[" ++ String.intercalate "," (printElements elements) ++ "]"
  | object fields => "\x7b" ++ String.intercalate "," (printFields fields) ++ "\x7d"

def printElements : List Json → List String
  | [] => []
  | element :: elements => print element :: printElements elements

def printFields : List (String × Json) → List String
  | [] => []
  | (name, value) :: fields => (printString name ++ ":" ++ print value) :: printFields fields

end

end DocBlocks.Json
