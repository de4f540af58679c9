/-
This file reads JSON values from text.
-/

import DocBlocks.Json.Basic

namespace DocBlocks.Json

/-- What is wrong with a text that is not JSON. -/
inductive SyntaxError where
  | unexpectedEnd
  | unexpectedCharacter (character : Char)
  | badEscape
  | numberOutOfRange
  | trailingCharacters
deriving DecidableEq, Repr

namespace Parser

def isSpace (character : Char) : Bool :=
  character == ' ' || character == '\n' || character == '\r' || character == '\t'

def skipSpace (input : List Char) : List Char :=
  input.dropWhile isSpace

def expected (input : List Char) : SyntaxError :=
  match input with
  | [] => .unexpectedEnd
  | character :: _ => .unexpectedCharacter character

def literal (word : List Char) (value : Json) (input : List Char) : Except SyntaxError (Json × List Char) :=
  if word.isPrefixOf input then .ok (value, input.drop word.length)
  else .error (expected input)

def hexValue? (character : Char) : Option Nat :=
  if '0' ≤ character && character ≤ '9' then some (character.toNat - '0'.toNat)
  else if 'a' ≤ character && character ≤ 'f' then some (character.toNat - 'a'.toNat + 10)
  else if 'A' ≤ character && character ≤ 'F' then some (character.toNat - 'A'.toNat + 10)
  else none

def fourHex : List Char → Except SyntaxError (Nat × List Char)
  | a :: b :: c :: d :: rest =>
    match hexValue? a, hexValue? b, hexValue? c, hexValue? d with
    | some a, some b, some c, some d => .ok (((a * 16 + b) * 16 + c) * 16 + d, rest)
    | _, _, _, _ => .error .badEscape
  | _ => .error .unexpectedEnd

/-- Reads the digits of a `\u` escape, with its second half if it is the first of a pair. -/
def codePoint (input : List Char) : Except SyntaxError (Char × List Char) := do
  let (first, rest) ← fourHex input
  if 0xD800 ≤ first && first ≤ 0xDBFF then
    match rest with
    | '\\' :: 'u' :: rest =>
      let (second, rest) ← fourHex rest
      if 0xDC00 ≤ second && second ≤ 0xDFFF then
        .ok (Char.ofNat (0x10000 + (first - 0xD800) * 0x400 + (second - 0xDC00)), rest)
      else .error .badEscape
    | _ => .error .badEscape
  else if 0xDC00 ≤ first && first ≤ 0xDFFF then .error .badEscape
  else .ok (Char.ofNat first, rest)

def simpleEscape? (character : Char) : Option Char :=
  match character with
  | '"' => some '"'
  | '\\' => some '\\'
  | '/' => some '/'
  | 'b' => some '\x08'
  | 'f' => some '\x0c'
  | 'n' => some '\n'
  | 'r' => some '\r'
  | 't' => some '\t'
  | _ => none

/-- Reads a string after its opening quote. -/
def stringBody : (fuel : Nat) → (done input : List Char) → Except SyntaxError (String × List Char)
  | 0, _, _ => .error .unexpectedEnd
  | _ + 1, _, [] => .error .unexpectedEnd
  | fuel + 1, done, character :: rest =>
    if character = '"' then .ok (String.ofList done.reverse, rest)
    else if character = '\\' then
      match rest with
      | [] => .error .unexpectedEnd
      | 'u' :: rest =>
        match codePoint rest with
        | .ok (character, rest) => stringBody fuel (character :: done) rest
        | .error error => .error error
      | escaped :: rest =>
        match simpleEscape? escaped with
        | some character => stringBody fuel (character :: done) rest
        | none => .error .badEscape
    else if character.toNat < 0x20 then .error (.unexpectedCharacter character)
    else stringBody fuel (character :: done) rest

def isDecimal (character : Char) : Bool :=
  '0' ≤ character && character ≤ '9'

def decimalValue (digits : List Char) : Nat :=
  digits.foldl (fun value digit => value * 10 + (digit.toNat - '0'.toNat)) 0

/-- Reads the digits after the point, if there is one. -/
def fraction (input : List Char) : Except SyntaxError (Option (List Char) × List Char) :=
  match input with
  | '.' :: rest =>
    let digits := rest.takeWhile isDecimal
    let rest := rest.dropWhile isDecimal
    if digits.isEmpty then .error (expected rest) else .ok (some digits, rest)
  | _ => .ok (none, input)

/-- Reads the exponent, if there is one. -/
def exponent (input : List Char) : Except SyntaxError (Option Int × List Char) :=
  let digitsOf (negative : Bool) (rest : List Char) : Except SyntaxError (Option Int × List Char) :=
    let digits := rest.takeWhile isDecimal
    let rest := rest.dropWhile isDecimal
    let value : Int := decimalValue digits
    if digits.isEmpty then .error (expected rest)
    else .ok (some (if negative then -value else value), rest)
  match input with
  | mark :: rest =>
    if mark = 'e' || mark = 'E' then
      match rest with
      | '-' :: rest => digitsOf true rest
      | '+' :: rest => digitsOf false rest
      | _ => digitsOf false rest
    else .ok (none, input)
  | [] => .ok (none, input)

def wholePart (input : List Char) : Except SyntaxError (List Char × List Char) :=
  match input with
  | '0' :: rest => .ok (['0'], rest)
  | _ =>
    let digits := input.takeWhile isDecimal
    if digits.isEmpty then .error (expected input)
    else .ok (digits, input.dropWhile isDecimal)

/-- Appends digits to a significand as long as it fits in 64 bits. -/
def appendDigits (significand : Nat) : List Char → Nat × List Char
  | [] => (significand, [])
  | digit :: rest =>
    let next := significand * 10 + (digit.toNat - '0'.toNat)
    if next ≤ 18446744073709551615 then appendDigits next rest else (significand, digit :: rest)

def wholeNumber? (negative : Bool) (value : Nat) : Option Number :=
  if !negative then some (.whole value)
  else if 0 < value && value ≤ 9223372036854775808 then some (.whole (-(value : Int)))
  else none

/-- Reads a number. The digits that its significand has no room for raise the exponent if they stand
before the point, and do not count if they stand after it. -/
def numberValue (input : List Char) : Except SyntaxError (Json × List Char) := do
  let (negative, input) := match input with
    | '-' :: rest => (true, rest)
    | _ => (false, input)
  let (whole, input) ← wholePart input
  let (decimals, input) ← fraction input
  let (power, input) ← exponent input
  let (significand, raising) := appendDigits 0 whole
  let places := decimals.getD []
  let (digits, ignored) := appendDigits significand places
  let scale := power.getD 0 + raising.length - (places.length - ignored.length : Nat)
  let binary : Except SyntaxError Number :=
    match Binary64.ofParts? negative digits scale with
    | some value => .ok (.binary value)
    | none => .error .numberOutOfRange
  if decimals.isNone && power.isNone && raising.isEmpty then
    match wholeNumber? negative digits with
    | some value => .ok (number value, input)
    | none => do .ok (number (← binary), input)
  else do .ok (number (← binary), input)

/-- Reads the name of a field and the colon after it. -/
def fieldName (input : List Char) : Except SyntaxError (String × List Char) := do
  match skipSpace input with
  | '"' :: rest =>
    let (name, rest) ← stringBody (rest.length + 1) [] rest
    match skipSpace rest with
    | ':' :: rest => .ok (name, rest)
    | rest => .error (expected rest)
  | rest => .error (expected rest)

mutual

/-- Reads a value after blanks. The fuel bounds the number of values that begin or go on. -/
def value : (fuel : Nat) → List Char → Except SyntaxError (Json × List Char)
  | 0, _ => .error .unexpectedEnd
  | fuel + 1, input =>
    match skipSpace input with
    | [] => .error .unexpectedEnd
    | '"' :: rest =>
      (stringBody (rest.length + 1) [] rest).map fun (value, rest) => (string value, rest)
    | '[' :: rest =>
      match skipSpace rest with
      | ']' :: rest => .ok (array [], rest)
      | rest => elements fuel [] rest
    | '{' :: rest =>
      match skipSpace rest with
      | '}' :: rest => .ok (object [], rest)
      | rest => fields fuel [] rest
    | 'n' :: rest => literal ['n', 'u', 'l', 'l'] null ('n' :: rest)
    | 't' :: rest => literal ['t', 'r', 'u', 'e'] (bool true) ('t' :: rest)
    | 'f' :: rest => literal ['f', 'a', 'l', 's', 'e'] (bool false) ('f' :: rest)
    | input => numberValue input

/-- Reads the elements of an array up to its end. -/
def elements : (fuel : Nat) → (done : List Json) → List Char → Except SyntaxError (Json × List Char)
  | 0, _, _ => .error .unexpectedEnd
  | fuel + 1, done, input => do
    let (element, input) ← value fuel input
    match skipSpace input with
    | ',' :: rest => elements fuel (element :: done) rest
    | ']' :: rest => .ok (array (element :: done).reverse, rest)
    | rest => .error (expected rest)

/-- Reads the fields of an object up to its end. -/
def fields : (fuel : Nat) → (done : List (String × Json)) → List Char → Except SyntaxError (Json × List Char)
  | 0, _, _ => .error .unexpectedEnd
  | fuel + 1, done, input => do
    let (name, input) ← fieldName input
    let (member, input) ← value fuel input
    match skipSpace input with
    | ',' :: rest => fields fuel ((name, member) :: done) rest
    | '}' :: rest => .ok (ofFields ((name, member) :: done).reverse, rest)
    | rest => .error (expected rest)

end

end Parser

/-- Reads one value with nothing but blanks around it. -/
def parse (input : String) : Except SyntaxError Json := do
  let characters := input.toList
  let (value, rest) ← Parser.value (2 * characters.length + 2) characters
  if (Parser.skipSpace rest).isEmpty then .ok value else .error .trailingCharacters

end DocBlocks.Json
