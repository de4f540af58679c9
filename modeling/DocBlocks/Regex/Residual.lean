/-
This file tells lines that hold no match of an expression from those that may hold one. All places
to begin at are followed together, so one pass over the line is enough.
-/

import DocBlocks.Regex.Basic

namespace DocBlocks.Regex

/-- The expression can match nothing between two characters. -/
def admitsNothing (before after : Option Char) : Regex → Bool
  | empty | rounds _ _ | upTo _ _ _ => true
  | one _ => false
  | look assertion => assertion.holds before after
  | seq first second => admitsNothing before after first && admitsNothing before after second
  | either first second => admitsNothing before after first || admitsNothing before after second
  | plus _ inner => admitsNothing before after inner
  | times count inner => count == 0 || admitsNothing before after inner

/-- The numbers of rounds that may be left after the first one that takes a character, if there
are `count` rounds. -/
def roundsLeft (count : Nat) (roundsMayBeEmpty : Bool) : List Nat :=
  if roundsMayBeEmpty then List.range count
  else if count == 0 then [] else [count - 1]

/-- The sets from which an expression may take its first character, each with what is to be matched
after it, where `rest` is to be matched after the expression. -/
def leads (before after : Option Char) : Regex → (rest : Regex) → List (CharClass × Regex)
  | empty, _ | look _, _ => []
  | one set, rest => [(set, rest)]
  | seq first second, rest =>
    leads before after first (second.andThen rest) ++
      if admitsNothing before after first then leads before after second rest else []
  | either first second, rest => leads before after first rest ++ leads before after second rest
  | rounds greedy inner, rest | plus greedy inner, rest =>
    leads before after inner ((rounds greedy inner).andThen rest)
  | times count inner, rest =>
    (roundsLeft count (admitsNothing before after inner)).flatMap fun left =>
      leads before after inner ((times left inner).andThen rest)
  | upTo greedy count inner, rest =>
    (roundsLeft count (admitsNothing before after inner)).flatMap fun left =>
      leads before after inner ((upTo greedy left inner).andThen rest)

/-- What may be left to match after a character. -/
def residuals (before : Option Char) (character : Char) (expression : Regex) : List Regex :=
  (leads before (some character) expression empty).filterMap fun (set, rest) =>
    if set.contains character then some rest else none

/-- The greatest number of residuals that are followed together. -/
def mostResiduals : Nat := 20

/-- Decides whether the line may hold a match, where `begun` is left of matches that began earlier.
The answer is yes as soon as there are too many of them. -/
def mayMatch (expression : Regex) (begun : List Regex) (before : Option Char) : Text → Bool
  | [] => (expression :: begun).any (admitsNothing before none)
  | character :: rest =>
    if (expression :: begun).any (admitsNothing before (some character)) then true
    else
      let left := (expression :: begun).flatMap (residuals before character)
      if mostResiduals < left.length then true
      else expression.mayMatch left.eraseDups (some character) rest

end DocBlocks.Regex
