/-
This file reads regular expressions from their text.
-/

import DocBlocks.Regex.Bracket
import DocBlocks.Regex.Footprint
import DocBlocks.Text.Letter

namespace DocBlocks.Regex

/-- How deep the parts of an expression may nest. -/
def depthLimit : Nat := 250

namespace Parser

/-- An expression with the depth of its parts. -/
structure Piece where
  tree : Tree
  depth : Nat := 0

def Piece.ofAtom (mode : Mode) : Atom → Piece
  | .literal character =>
    match mode.variants? character with
    | some set => ⟨.ofClass set, 0⟩
    | none => ⟨.ofChar character, 0⟩
  | .set set => ⟨.ofClass set, 0⟩
  | .assertion assertion => ⟨.look assertion, 0⟩

def deepest (pieces : List Piece) : Nat :=
  pieces.foldl (fun depth piece => max depth piece.depth) 0

/-- The parts of one alternative, last first. Flags stand in it as `none`. -/
abbrev Parts := List (Option Piece)

def Parts.joined (parts : Parts) : Piece :=
  let pieces := parts.reverse.filterMap id
  let depth := deepest pieces
  ⟨.join (pieces.map Piece.tree), if parts.length ≤ 1 then depth else depth + 1⟩

/-- Joins alternatives, of which the last comes first. -/
def joinAlternatives (pieces : List Piece) : Except ParseError Piece :=
  let whole : Piece := match pieces with
    | [piece] => piece
    | pieces => ⟨.choose (pieces.reverse.map Piece.tree), deepest pieces + 1⟩
  if depthLimit < whole.depth then .error .tooDeep else .ok whole

/-- How often something is repeated; without a greatest number there is no bound. -/
structure Count where
  least : Nat
  greatest : Option Nat

/-- Reads a decimal number with blanks around it. -/
def decimal (mode : Mode) (input : List Char) : Except ParseError (Nat × List Char) :=
  let input := input.dropWhile Text.isBlank
  let (digits, rest) := mode.takeWhile Char.isDigit input.length input
  let value := digits.foldl (fun value digit => value * 10 + (digit.toNat - '0'.toNat)) 0
  if digits.isEmpty then .error .missingCount
  else if 4294967295 < value then .error .countOutOfRange
  else .ok (value, mode.skip (rest.dropWhile Text.isBlank))

/-- Reads a count after its opening brace. -/
def counted (mode : Mode) (input : List Char) : Except ParseError (Count × List Char) := do
  let (least, rest) ← decimal mode (mode.skip input)
  let (count, rest) ←
    match rest with
    | ',' :: rest =>
      match mode.skip rest with
      | '}' :: rest => .ok (Count.mk least none, '}' :: rest)
      | rest => do
        let (greatest, rest) ← decimal mode rest
        .ok (Count.mk least (some greatest), rest)
    | rest => .ok (Count.mk least (some least), rest)
  match rest with
  | '}' :: rest =>
    if count.greatest.any (· < count.least) then .error .countsOutOfOrder
    else .ok (count, mode.skip rest)
  | _ => .error .unclosedCount

/-- Repeats the last of the parts. A question mark turns the preference around. -/
def repeatLast (mode : Mode) (parts : Parts) (count : Count) (input : List Char) :
    Except ParseError (Parts × List Char) :=
  let (greedy, rest) := match input with
    | '?' :: rest => (mode.lazyFirst, rest)
    | rest => (!mode.lazyFirst, rest)
  match parts with
  | some piece :: others =>
    let tree := Tree.rounds greedy count.least count.greatest piece.tree
    .ok (some ⟨tree, piece.depth + 1⟩ :: others, rest)
  | _ => .error .nothingToRepeat

/-- Reads flags up to the colon or parenthesis after them. -/
def flags : (mode : Mode) → (negative : Bool) → (seen : List Char) → List Char →
    Except ParseError (Mode × List Char × List Char)
  | _, _, _, [] => .error .invalidFlags
  | mode, negative, seen, flag :: rest =>
    if flag = ':' || flag = ')' then
      if seen.head? == some '-' then .error .invalidFlags else .ok (mode, seen, flag :: rest)
    else if seen.contains flag then .error .invalidFlags
    else if flag = '-' then flags mode true ('-' :: seen) rest
    else
      match mode.setFlag flag (!negative) with
      | some mode => flags mode negative (flag :: seen) rest
      | none => .error .invalidFlags

def isNameStart (character : Char) : Bool :=
  character == '_' || Text.isAlphabetic character

def isNameRest (character : Char) : Bool :=
  character == '_' || character == '.' || character == '[' || character == ']' ||
    Text.isAlphanumeric character

/-- Reads the name of a group up to its closing angle. -/
def groupName (names : List String) (input : List Char) :
    Except ParseError (List String × List Char) :=
  let name := input.takeWhile (· != '>')
  match name, input.dropWhile (· != '>') with
  | first :: others, _ :: rest =>
    let string := String.ofList name
    if !isNameStart first || !others.all isNameRest then .error .invalidGroupName
    else if names.contains string then .error .duplicateGroupName
    else .ok (string :: names, rest)
  | _, _ => .error .invalidGroupName

/-- What an opening parenthesis begins: a group, whose text is remembered or not, or flags for the
rest of the present one. -/
inductive Opening where
  | group (remembered : Bool) (mode : Mode)
  | flags (mode : Mode)

/-- Reads what follows an opening parenthesis. -/
def opening (mode : Mode) (names : List String) (input : List Char) :
    Except ParseError (Opening × List String × List Char) := do
  match mode.skip input with
  | '?' :: '=' :: _ | '?' :: '!' :: _ | '?' :: '<' :: '=' :: _ | '?' :: '<' :: '!' :: _ =>
    .error .lookAround
  | '?' :: 'P' :: '<' :: rest | '?' :: '<' :: rest =>
    let (names, rest) ← groupName names rest
    .ok (.group true mode, names, rest)
  | '?' :: rest =>
    let (inner, seen, rest) ← flags mode false [] rest
    match rest with
    | ')' :: rest => if seen.isEmpty then .error .nothingToRepeat else .ok (.flags inner, names, rest)
    | rest => .ok (.group false inner, names, rest.drop 1)
  | rest => .ok (.group true mode, names, rest)

/-- Reads one group, or the whole expression outside of all groups, where `nesting` counts the
groups around. -/
def level : (fuel : Nat) → (mode : Mode) → (names : List String) → (nesting : Nat) →
    (done : List Piece) → (parts : Parts) → List Char →
    Except ParseError (Piece × List String × List Char)
  | 0, _, _, _, _, _, _ => .error .tooLarge
  | fuel + 1, mode, names, nesting, done, parts, input => do
    match mode.skip input with
    | [] =>
      if nesting == 0 then .ok (← joinAlternatives (parts.joined :: done), names, [])
      else .error .unclosedGroup
    | '(' :: rest =>
      match ← opening mode names rest with
      | (.flags mode, names, rest) => level fuel mode names nesting done (none :: parts) rest
      | (.group remembered inner, names, rest) =>
        if nesting == depthLimit then .error .tooDeep
        else
          let (piece, names, rest) ← level fuel inner names (nesting + 1) [] [] rest
          let tree := if remembered then .group piece.tree else piece.tree
          level fuel mode names nesting done (some ⟨tree, piece.depth + 1⟩ :: parts) rest
    | ')' :: rest =>
      if nesting == 0 then .error .unopenedGroup
      else .ok (← joinAlternatives (parts.joined :: done), names, rest)
    | '|' :: rest => level fuel mode names nesting (parts.joined :: done) [] rest
    | '[' :: rest =>
      let (member, rest) ← Bracket.parse mode depthLimit rest
      level fuel mode names nesting done (some ⟨.ofClass member.set, member.depth⟩ :: parts) rest
    | '?' :: rest =>
      let (parts, rest) ← repeatLast mode parts ⟨0, some 1⟩ rest
      level fuel mode names nesting done parts rest
    | '*' :: rest =>
      let (parts, rest) ← repeatLast mode parts ⟨0, none⟩ rest
      level fuel mode names nesting done parts rest
    | '+' :: rest =>
      let (parts, rest) ← repeatLast mode parts ⟨1, none⟩ rest
      level fuel mode names nesting done parts rest
    | '{' :: rest =>
      let (count, rest) ← counted mode rest
      let (parts, rest) ← repeatLast mode parts count rest
      level fuel mode names nesting done parts rest
    | '\\' :: rest =>
      let (atom, rest) ← Escape.parse mode rest
      level fuel mode names nesting done (some (.ofAtom mode atom) :: parts) rest
    | '.' :: rest =>
      level fuel mode names nesting done (some ⟨.ofClass (← mode.dot), 0⟩ :: parts) rest
    | '^' :: rest =>
      level fuel mode names nesting done (some ⟨.look mode.lineStart, 0⟩ :: parts) rest
    | '$' :: rest =>
      level fuel mode names nesting done (some ⟨.look mode.lineEnd, 0⟩ :: parts) rest
    | character :: rest =>
      level fuel mode names nesting done (some (.ofAtom mode (.literal character)) :: parts) rest

/-- Reads a whole expression, which may not be too large to be matched. -/
def parse (input : List Char) : Except ParseError Tree := do
  let (piece, _, _) ← level (2 * input.length + 2) {} [] 0 [] [] input
  if piece.tree.fits then .ok piece.tree else .error .tooLarge

end Parser

/-- A regular expression together with its text. -/
structure Expression where
  source : String
  regex : Regex
deriving DecidableEq, Repr

/-- Reads a regular expression. -/
def Expression.compile (source : String) : Except ParseError Expression := do
  .ok ⟨source, (← Parser.parse source.toList).regex⟩

end DocBlocks.Regex
