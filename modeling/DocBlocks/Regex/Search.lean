/-
This file finds the matches of regular expressions in a line. A match is the leftmost one; of those
that begin there it is the one an ordered trial of the alternatives reaches first.
-/

import DocBlocks.Regex.Residual

namespace DocBlocks.Regex

/-- How a match can go on from a position: it is complete, or it takes a character of a set. -/
inductive Move where
  | accept
  | take (set : CharClass) (rest : Regex)

/-- Collects moves in order. What is still to be matched is listed once it has been looked at, and
not looked at again. -/
abbrev Exploration := List Regex → List Move × List Regex

namespace Exploration

def nothing : Exploration := fun seen =>
  ([], seen)

def single (move : Move) : Exploration := fun seen =>
  ([move], seen)

/-- The moves of one exploration are preferred to those of another. -/
def before (first second : Exploration) : Exploration := fun seen =>
  let (preferred, seen) := first seen
  let (others, seen) := second seen
  (preferred ++ others, seen)

/-- Explores what is to be matched unless that has been done. -/
def once (goal : Regex) (exploration : Exploration) : Exploration := fun seen =>
  if seen.contains goal then ([], seen) else exploration (goal :: seen)

/-- Goes on with another round, or leaves. -/
def repeating (greedy : Bool) (another leaving : Exploration) : Exploration :=
  if greedy then another.before leaving else leaving.before another

/-- Explores one round after another, where `round` explores one of them, given what is to be
matched after it and the exploration of that. -/
def times (round : Regex → Exploration → Exploration) (inner rest : Regex) (next : Exploration) :
    Nat → Exploration
  | 0, seen => next seen
  | count + 1, seen =>
    round ((Regex.times count inner).andThen rest) (times round inner rest next count) seen

/-- Explores rounds of which each may be the last. -/
def upTo (round : Regex → Exploration → Exploration) (greedy : Bool) (inner rest : Regex)
    (next : Exploration) : Nat → Exploration
  | 0, seen => next seen
  | count + 1, seen =>
    once ((Regex.upTo greedy (count + 1) inner).andThen rest)
      (repeating greedy
        (round ((Regex.upTo greedy count inner).andThen rest)
          (upTo round greedy inner rest next count))
        next) seen

end Exploration

/-- Explores an expression between two characters, where `rest` is to be matched after it and
`next` explores that. A round that takes no character leads back to a repetition already seen. -/
def explore (before after : Option Char) : Regex → (rest : Regex) → (next : Exploration) →
    Exploration
  | empty, _, next, seen => next seen
  | one set, rest, _, seen =>
    Exploration.once ((one set).andThen rest) (.single (.take set rest)) seen
  | look assertion, rest, next, seen =>
    Exploration.once ((look assertion).andThen rest)
      (if assertion.holds before after then next else .nothing) seen
  | seq first second, rest, next, seen =>
    explore before after first (second.andThen rest) (explore before after second rest next) seen
  | either first second, rest, next, seen =>
    Exploration.once ((either first second).andThen rest)
      ((explore before after first rest next).before (explore before after second rest next)) seen
  | rounds greedy inner, rest, next, seen =>
    let again := (rounds greedy inner).andThen rest
    Exploration.once again
      (.repeating greedy (explore before after inner again .nothing) next) seen
  | plus greedy inner, rest, next, seen =>
    let again := (rounds greedy inner).andThen rest
    explore before after inner again
      (.once again (.repeating greedy (explore before after inner again .nothing) next)) seen
  | times count inner, rest, next, seen =>
    Exploration.times (explore before after inner) inner rest next count seen
  | upTo greedy count inner, rest, next, seen =>
    Exploration.upTo (explore before after inner) greedy inner rest next count seen

def exploreAll (before after : Option Char) : List Regex → Exploration
  | [] => .nothing
  | expression :: expressions =>
    (explore before after expression empty (.single .accept)).before
      (exploreAll before after expressions)

/-- The moves of expressions between two characters, the preferred ones first. -/
def moves (before after : Option Char) (expressions : List Regex) : List Move :=
  (exploreAll before after expressions []).1

/-- What is left to match after a character, for the moves preferred to the first acceptance. -/
def advance (character : Char) : List Move → List Regex
  | [] => []
  | .accept :: _ => []
  | .take set rest :: others =>
    if set.contains character then rest :: advance character others else advance character others

def accepts : List Move → Bool
  | [] => false
  | .accept :: _ => true
  | .take _ _ :: others => accepts others

/-- The byte length of the preferred match of one of the expressions at the start of a text. -/
def matchLength? (expressions : List Regex) (before : Option Char) : Text → Option Nat
  | [] => if accepts (moves before none expressions) then some 0 else none
  | character :: rest =>
    let current := moves before (some character) expressions
    let left := advance character current
    let longer := if left.isEmpty then none else matchLength? left (some character) rest
    match longer with
    | some length => some (character.utf8Size + length)
    | none => if accepts current then some 0 else none

/-- The byte offsets of the leftmost match at or after `offset`. -/
def findFrom? (expression : Regex) (before : Option Char) (offset : Nat) :
    Text → Option (Nat × Nat)
  | [] => (matchLength? [expression] before []).map fun length => (offset, offset + length)
  | character :: rest =>
    match matchLength? [expression] before (character :: rest) with
    | some length => some (offset, offset + length)
    | none => findFrom? expression (some character) (offset + character.utf8Size) rest

/-- The byte offsets at which the leftmost match begins and ends. -/
def find? (expression : Regex) (text : Text) : Option (Nat × Nat) :=
  if expression.mayMatch [] none text then findFrom? expression none 0 text else none

end DocBlocks.Regex
