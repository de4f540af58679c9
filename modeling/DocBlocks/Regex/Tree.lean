/-
This file defines regular expressions as they are written, with their groups and counts, and what
they mean. Expressions are built by functions that bring them into a simple form: parts of parts
are joined, neighbouring characters form one literal, and a choice between characters is a set.
-/

import DocBlocks.Regex.Basic

namespace DocBlocks.Regex

inductive Tree where
  | empty
  /-- One character or more, each of which stands for itself. -/
  | literal (characters : List Char)
  | set (characters : CharClass) (codes : Text.Ranges)
  | look (assertion : Assertion)
  | repeated (greedy : Bool) (least : Nat) (greatest : Option Nat) (inner : Tree)
  | group (inner : Tree)
  | sequence (parts : List Tree)
  | choice (parts : List Tree)

namespace Tree

mutual

/-- The two expressions are the same. -/
def same : Tree → Tree → Bool
  | empty, empty => true
  | literal left, literal right => left == right
  | set _ left, set _ right => left == right
  | look left, look right => left == right
  | repeated greedy least greatest inner, repeated greedy' least' greatest' inner' =>
    greedy == greedy' && least == least' && greatest == greatest' && same inner inner'
  | group left, group right => same left right
  | sequence left, sequence right | choice left, choice right => sameParts left right
  | _, _ => false

def sameParts : List Tree → List Tree → Bool
  | [], [] => true
  | left :: lefts, right :: rights => same left right && sameParts lefts rights
  | _, _ => false

end

/-- How many bytes the matches of an expression take: at least so many, if there can be a match,
and at most so many, if there can be one and there is a bound. -/
structure Extent where
  least : Option Nat
  greatest : Option Nat
deriving DecidableEq, Repr

namespace Extent

def exactly (length : Nat) : Extent :=
  ⟨some length, some length⟩

def combine (operation : Nat → Nat → Nat) : Option Nat → Option Nat → Option Nat
  | some left, some right => some (operation left right)
  | _, _ => none

def followedBy (first second : Extent) : Extent :=
  ⟨combine (· + ·) first.least second.least, combine (· + ·) first.greatest second.greatest⟩

def orElse (first second : Extent) : Extent :=
  ⟨combine min first.least second.least, combine max first.greatest second.greatest⟩

def times (extent : Extent) (least : Nat) (greatest : Option Nat) : Extent :=
  ⟨extent.least.map (· * least), combine (· * ·) extent.greatest greatest⟩

def ofCodes (codes : Text.Ranges) : Extent :=
  let length (code : Nat) := (Char.ofNat code).utf8Size
  ⟨codes[0]?.map fun (first, _) => length first, codes.back?.map fun (_, last) => length last⟩

end Extent

mutual

def extent : Tree → Extent
  | empty | look _ => .exactly 0
  | literal characters => .exactly (characters.foldl (fun total next => total + next.utf8Size) 0)
  | set _ codes => .ofCodes codes
  | repeated _ least greatest inner => inner.extent.times least greatest
  | group inner => inner.extent
  | sequence parts => sequenceExtent parts
  | choice parts => choiceExtent parts

def sequenceExtent : List Tree → Extent
  | [] => .exactly 0
  | part :: parts => part.extent.followedBy (sequenceExtent parts)

def choiceExtent : List Tree → Extent
  | [] => ⟨none, none⟩
  | [part] => part.extent
  | part :: parts => part.extent.orElse (choiceExtent parts)

end

/-- No match takes a character. -/
def takesNothing (tree : Tree) : Bool :=
  tree.extent.greatest == some 0

/-- Every match takes a character. -/
def takesSome (tree : Tree) : Bool :=
  tree.extent.least.any (0 < ·)

mutual

/-- Every match satisfies the assertion where it begins, or where it ends. -/
def isBoundBy (assertion : Assertion) (atEnd : Bool) : Tree → Bool
  | empty | literal _ | set _ _ => false
  | look other => other == assertion
  | repeated _ least _ inner => 0 < least && inner.isBoundBy assertion atEnd
  | group inner => inner.isBoundBy assertion atEnd
  | sequence parts => sequenceIsBoundBy assertion atEnd parts
  | choice parts => choiceIsBoundBy assertion atEnd parts

/-- One of the parts is bound by the assertion, of those that no character divides from it. -/
def sequenceIsBoundBy (assertion : Assertion) (atEnd : Bool) : List Tree → Bool
  | [] => false
  | part :: parts =>
    if atEnd then
      sequenceIsBoundBy assertion atEnd parts ||
        (parts.all takesNothing && part.isBoundBy assertion atEnd)
    else
      part.isBoundBy assertion atEnd ||
        (part.takesNothing && sequenceIsBoundBy assertion atEnd parts)

def choiceIsBoundBy (assertion : Assertion) (atEnd : Bool) : List Tree → Bool
  | [] => true
  | part :: parts =>
    part.isBoundBy assertion atEnd && choiceIsBoundBy assertion atEnd parts

end

def ofChar (character : Char) : Tree :=
  literal [character]

/-- A set of characters. A set of one is a literal. -/
def ofClass (characters : CharClass) : Tree :=
  let codes := characters.codes
  match codes.toList with
  | [(first, last)] => if first == last then ofChar (Char.ofNat first) else set characters codes
  | _ => set characters codes

/-- The parts of an expression, of which the empty one has none. -/
def parts : Tree → List Tree
  | empty => []
  | sequence parts => parts
  | tree => [tree]

/-- Joins neighbouring literals. -/
def joinLiterals : List Tree → List Tree
  | [] => []
  | part :: rest =>
    match part, joinLiterals rest with
    | literal characters, literal others :: rest => literal (characters ++ others) :: rest
    | part, rest => part :: rest

/-- One expression after the other. -/
def join (trees : List Tree) : Tree :=
  match joinLiterals (trees.flatMap parts) with
  | [] => empty
  | [part] => part
  | parts => sequence parts

def singleton? : Tree → Option Char
  | literal [character] => some character
  | _ => none

def class? : Tree → Option CharClass
  | set characters _ => some characters
  | _ => none

def sequence? : Tree → Option (List Tree)
  | sequence parts => some parts
  | _ => none

def branches : Tree → List Tree
  | choice parts => parts
  | tree => [tree]

/-- A choice between expressions, of which the first is preferred. -/
def chooseOne (trees : List Tree) : Tree :=
  match trees.flatMap branches with
  | [] => ofClass .nothing
  | [tree] => tree
  | trees =>
    match trees.mapM singleton?, trees.mapM class? with
    | some characters, _ => ofClass (.ofChars characters)
    | none, some classes => ofClass (.unionOf classes)
    | none, none => choice trees

/-- How many parts at the beginning are the same. -/
def commonParts : List Tree → List Tree → Nat
  | left :: lefts, right :: rights => if left.same right then commonParts lefts rights + 1 else 0
  | _, _ => 0

/-- How many parts at the beginning all of the sequences share. -/
def sharedParts : List (List Tree) → Nat
  | [] => 0
  | first :: others =>
    others.foldl (fun shared other => min shared (commonParts first other)) first.length

/-- A choice between expressions. What all of them begin with comes before it. -/
def choose (trees : List Tree) : Tree :=
  match chooseOne trees with
  | choice trees =>
    match trees.mapM sequence? with
    | none => choice trees
    | some sequences =>
      let shared := sharedParts sequences
      if shared == 0 then choice trees
      else
        let rests := sequences.map fun parts => join (parts.drop shared)
        join ((sequences.headD []).take shared ++ [chooseOne rests])
  | tree => tree

/-- Rounds of an expression. What takes no character is tried once at most. -/
def rounds (greedy : Bool) (least : Nat) (greatest : Option Nat) (inner : Tree) : Tree :=
  let (least, greatest) :=
    if inner.takesNothing then (min least 1, some (min (greatest.getD 1) 1)) else (least, greatest)
  if greatest == some 0 then empty
  else if least == 1 && greatest == some 1 then inner
  else repeated greedy least greatest inner

mutual

/-- What an expression matches. -/
def regex : Tree → Regex
  | empty => .empty
  | literal characters => Regex.sequence (characters.map Regex.literal)
  | set characters _ => .one characters
  | look assertion => .look assertion
  | repeated greedy least greatest inner =>
    match greatest with
    | none => Regex.atLeast greedy inner.regex least
    | some greatest => Regex.between greedy inner.regex least greatest
  | group inner => inner.regex
  | sequence parts => Regex.sequence (row parts)
  | choice parts => Regex.choice (alternatives parts)

/-- What the parts of a sequence match, with the characters of a literal one by one. -/
def row : List Tree → List Regex
  | [] => []
  | literal characters :: parts => characters.map Regex.literal ++ row parts
  | part :: parts => part.regex :: row parts

def alternatives : List Tree → List Regex
  | [] => []
  | tree :: trees => tree.regex :: alternatives trees

end

end Tree

end DocBlocks.Regex
