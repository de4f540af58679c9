/-
This file reads the character classes that regular expressions write between brackets.
-/

import DocBlocks.Regex.Escape

namespace DocBlocks.Regex.Bracket

/-- A class that was read, and how deep its parts nest. -/
structure Member where
  set : CharClass
  depth : Nat := 0

/-- The operators between the parts of a class. -/
inductive Operator where
  | intersection
  | difference
  | symmetricDifference

def Operator.apply : Operator → CharClass → CharClass → CharClass
  | intersection => .intersection
  | difference => .difference
  | symmetricDifference => .symmetricDifference

/-- A class that is being read: its sign, the part before the last operator, and the members since
then, the last one first. -/
structure Open where
  negative : Bool
  left : Option (Member × Operator) := none
  members : List Member := []

namespace Open

/-- The members since the last operator. -/
def right (current : Open) : Member :=
  match current.members with
  | [] => ⟨.nothing, 0⟩
  | [member] => member
  | members =>
    ⟨.unionOf (members.reverse.map Member.set),
      members.foldl (fun depth member => max depth member.depth) 0 + 1⟩

/-- The members since the last operator, joined to what stands before it. -/
def joined (mode : Mode) (current : Open) : Member :=
  match current.left with
  | none => current.right
  | some (left, operator) =>
    ⟨operator.apply (mode.fold left.set) (mode.fold current.right.set),
      max left.depth current.right.depth + 1⟩

/-- The finished class. -/
def closed (mode : Mode) (current : Open) : Except ParseError Member := do
  let whole := current.joined mode
  .ok ⟨← mode.signed current.negative (mode.fold whole.set), whole.depth + 1⟩

def push (current : Open) (member : Member) : Open :=
  { current with members := member :: current.members }

def operator (mode : Mode) (current : Open) (operator : Operator) : Open :=
  { current with left := some (current.joined mode, operator), members := [] }

end Open

/-- Reads the sign and the members that stand for themselves only at the beginning. -/
def start (mode : Mode) (input : List Char) : Except ParseError (Open × List Char) :=
  let input := mode.skip input
  let (negative, input) := match input with
    | '^' :: rest => (true, mode.skip rest)
    | input => (false, input)
  let (dashes, input) := mode.takeWhile (· == '-') input.length input
  let current : Open := { negative, members := dashes.map fun dash => ⟨.single dash, 0⟩ }
  match input with
  | [] => .error .unclosedClass
  | ']' :: rest =>
    if dashes.isEmpty then .ok (current.push ⟨.single ']', 0⟩, mode.skip rest)
    else .ok (current, input)
  | input => .ok (current, input)

def namedClass? (name : String) : Option CharClass :=
  match name with
  | "alnum" => some (.ofRanges [('0', '9'), ('A', 'Z'), ('a', 'z')])
  | "alpha" => some (.ofRanges [('A', 'Z'), ('a', 'z')])
  | "ascii" => some (.range '\x00' '\x7f')
  | "blank" => some (.ofChars ['\t', ' '])
  | "cntrl" => some (.ofRanges [('\x00', '\x1f'), ('\x7f', '\x7f')])
  | "digit" => some (.range '0' '9')
  | "graph" => some (.range '!' '~')
  | "lower" => some (.range 'a' 'z')
  | "print" => some (.range ' ' '~')
  | "punct" => some (.ofRanges [('!', '/'), (':', '@'), ('[', '`'), ('{', '~')])
  | "space" => some Escape.asciiBlank
  | "upper" => some (.range 'A' 'Z')
  | "word" => some Escape.asciiWord
  | "xdigit" => some (.ofRanges [('0', '9'), ('A', 'F'), ('a', 'f')])
  | _ => none

/-- Reads a class such as `[:alpha:]` after its first bracket, if there is one. -/
def named? (input : List Char) : Option (Bool × CharClass × List Char) :=
  match input with
  | ':' :: rest =>
    let (negative, rest) := match rest with
      | '^' :: rest => (true, rest)
      | rest => (false, rest)
    match rest.dropWhile (· != ':') with
    | ':' :: ']' :: after =>
      (namedClass? (String.ofList (rest.takeWhile (· != ':')))).map fun set =>
        (negative, set, after)
    | _ => none
  | _ => none

/-- Reads a member that is a character or an escape. -/
def item (mode : Mode) (input : List Char) : Except ParseError (Atom × List Char) :=
  match input with
  | [] => .error .unclosedClass
  | '\\' :: rest => Escape.parse mode rest
  | character :: rest => .ok (.literal character, rest)

/-- A character of a class. Without Unicode it takes one byte. -/
def literalOf (mode : Mode) : Atom → Except ParseError Char
  | .literal character =>
    if mode.unicode || character.toNat < 0x80 then .ok character else .error .invalidUnicode
  | _ => .error .notALiteral

def setOf (mode : Mode) : Atom → Except ParseError CharClass
  | .set set => .ok set
  | .assertion _ => .error .unknownEscape
  | atom => do .ok (.single (← literalOf mode atom))

/-- The dash before the text stands for itself. Where blanks do not count, the sign that begins a
comment does not count here either. -/
def dashIsLiteral (mode : Mode) (input : List Char) : Bool :=
  let rest :=
    if !mode.spaced then input
    else
      match input.dropWhile Text.isBlank with
      | '#' :: comment => comment.dropWhile Text.isBlank
      | rest => rest
  rest.head? == some ']' || rest.head? == some '-'

/-- Reads a member or a range of characters. -/
def range (mode : Mode) (input : List Char) : Except ParseError (CharClass × List Char) := do
  let (first, rest) ← item mode input
  match mode.skip rest with
  | [] => .error .unclosedClass
  | '-' :: after =>
    if dashIsLiteral mode after then .ok (← setOf mode first, '-' :: after)
    else
      let (last, rest) ← item mode (mode.skip after)
      let low ← literalOf mode first
      let high ← literalOf mode last
      if low ≤ high then .ok (.range low high, rest) else .error .invalidRange
  | rest => .ok (← setOf mode first, rest)

/-- Reads the members of a class up to its closing bracket, with further classes inside of it while
their number allows. -/
def members (mode : Mode) : (fuel allowed : Nat) → (current : Open) → List Char →
    Except ParseError (Member × List Char)
  | 0, _, _, _ => .error .unclosedClass
  | fuel + 1, allowed, current, input => do
    match mode.skip input with
    | [] => .error .unclosedClass
    | '[' :: rest =>
      match named? rest with
      | some (negative, set, rest) =>
        let set ← mode.signed negative (mode.fold set)
        members mode fuel allowed (current.push ⟨set, 0⟩) rest
      | none =>
        if allowed == 0 then .error .tooDeep
        else
          let (inner, rest) ← start mode rest
          let (member, rest) ← members mode fuel (allowed - 1) inner rest
          members mode fuel allowed (current.push member) rest
    | ']' :: rest => .ok (← current.closed mode, rest)
    | '&' :: '&' :: rest => members mode fuel allowed (current.operator mode .intersection) rest
    | '-' :: '-' :: rest => members mode fuel allowed (current.operator mode .difference) rest
    | '~' :: '~' :: rest =>
      members mode fuel allowed (current.operator mode .symmetricDifference) rest
    | input =>
      let (set, rest) ← range mode input
      members mode fuel allowed (current.push ⟨set, 0⟩) rest

/-- Reads a class after its opening bracket. -/
def parse (mode : Mode) (allowed : Nat) (input : List Char) :
    Except ParseError (Member × List Char) := do
  let (current, rest) ← start mode input
  members mode (2 * rest.length + 2) allowed current rest

end DocBlocks.Regex.Bracket
