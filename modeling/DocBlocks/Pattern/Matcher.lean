/-
This file defines the rules that recognise a marker on one line.
-/

import DocBlocks.Regex.Parser
import DocBlocks.Regex.Search
import DocBlocks.Text.Hidden

namespace DocBlocks

/-- Byte offsets on a line, of which nothing is known if they come from a custom rule. -/
structure ByteRange where
  start : Nat
  stop : Nat
deriving DecidableEq, Repr

/-- The result of steps that may fail and that may cancel the detection they are part of. -/
structure Trial (α : Type) where
  /-- There is no outcome if a step failed. -/
  outcome : Option α
  cancels : Bool
deriving DecidableEq, Repr

namespace Trial

def pure {α : Type} (value : α) : Trial α :=
  ⟨some value, false⟩

def failed {α : Type} : Trial α :=
  ⟨none, false⟩

def ofOption {α : Type} (outcome : Option α) : Trial α :=
  ⟨outcome, false⟩

def bind {α β : Type} (first : Trial α) (next : α → Trial β) : Trial β :=
  match first.outcome with
  | none => ⟨none, first.cancels⟩
  | some value =>
    let second := next value
    ⟨second.outcome, first.cancels || second.cancels⟩

instance : Monad Trial where
  pure := Trial.pure
  bind := Trial.bind

end Trial

/-- A rule that finds a marker: a regular expression, or any function of the line. -/
inductive Matcher where
  | regex (expression : Regex.Expression)
  | custom (rule : Text → Trial (Option ByteRange))

namespace Matcher

def find (matcher : Matcher) (line : Text) : Trial (Option ByteRange) :=
  match matcher with
  | regex expression =>
    Trial.pure ((expression.regex.find? line).map fun (start, stop) => ⟨start, stop⟩)
  | custom rule => rule line

def isMatch (matcher : Matcher) (line : Text) : Trial Bool :=
  return (← matcher.find line).isSome

def source? : Matcher → Option String
  | regex expression => some expression.source
  | custom _ => none

/-- The matcher as it is shown in diagnostics. -/
def shown : Matcher → String
  | regex expression => "Regex(" ++ Text.quoted expression.source ++ ")"
  | custom _ => "Custom(<fn>)"

end Matcher

end DocBlocks
