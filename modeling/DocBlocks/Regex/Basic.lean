/-
This file defines regular expressions.
-/

import DocBlocks.Regex.CharClass
import DocBlocks.Text.Basic

namespace DocBlocks

/-- Places at the edges of words and inside of them. -/
inductive Regex.Edge where
  | boundary
  | interior
  | start
  | stop
  /-- There is no word before. -/
  | startHalf
  /-- There is no word after. -/
  | stopHalf
deriving DecidableEq, Repr

/-- What is asked of the characters around a position. -/
inductive Regex.Assertion where
  | textStart
  | textEnd
  | lineStart
  | lineEnd
  | returnLineStart
  | returnLineEnd
  | word (edge : Regex.Edge) (ascii : Bool)
deriving DecidableEq, Repr

/-- Where two choices are possible the first is preferred. -/
inductive Regex where
  | empty
  | one (set : Regex.CharClass)
  | look (assertion : Regex.Assertion)
  | seq (first second : Regex)
  | either (first second : Regex)
  /-- Any number of rounds; a greedy repetition prefers to go on. -/
  | rounds (greedy : Bool) (inner : Regex)
  /-- One round or more. -/
  | plus (greedy : Bool) (inner : Regex)
  /-- A fixed number of rounds. -/
  | times (count : Nat) (inner : Regex)
  /-- A number of rounds up to a greatest one. -/
  | upTo (greedy : Bool) (count : Nat) (inner : Regex)
deriving DecidableEq, Repr

namespace Regex

def isAsciiWord (character : Char) : Bool :=
  character.isAlphanum || character == '_'

/-- Decides whether a place between two characters is at an edge, for some idea of words. -/
def Edge.holds (edge : Edge) (isWord : Char → Bool) (before after : Option Char) : Bool :=
  match edge with
  | boundary => before.any isWord != after.any isWord
  | interior => before.any isWord == after.any isWord
  | start => !before.any isWord && after.any isWord
  | stop => before.any isWord && !after.any isWord
  | startHalf => !before.any isWord
  | stopHalf => !after.any isWord

/-- Decides an assertion between the character before a position and the one after it. -/
def Assertion.holds (assertion : Assertion) (before after : Option Char) : Bool :=
  match assertion with
  | textStart => before.isNone
  | textEnd => after.isNone
  | lineStart => before.isNone || before == some '\n'
  | lineEnd => after.isNone || after == some '\n'
  | returnLineStart =>
    before.isNone || before == some '\n' || (before == some '\r' && after != some '\n')
  | returnLineEnd =>
    after.isNone || after == some '\r' || (after == some '\n' && before != some '\r')
  | word edge ascii => edge.holds (if ascii then isAsciiWord else Text.isWord) before after

/-- One expression and then another. -/
def andThen (first second : Regex) : Regex :=
  match first, second with
  | empty, second | times 0 _, second | upTo _ 0 _, second => second
  | first, empty => first
  | first, second => seq first second

def literal (character : Char) : Regex :=
  one (.single character)

def sequence (parts : List Regex) : Regex :=
  match parts with
  | [] => empty
  | [part] => part
  | part :: parts => seq part (sequence parts)

def choice (parts : List Regex) : Regex :=
  match parts with
  | [] => one .nothing
  | [part] => part
  | part :: parts => either part (choice parts)

def optional (greedy : Bool) (inner : Regex) : Regex :=
  if greedy then either inner empty else either empty inner

/-- Some match of the expression takes no character. -/
def isNullable : Regex → Bool
  | empty | look _ | rounds _ _ | upTo _ _ _ => true
  | one _ => false
  | seq first second => first.isNullable && second.isNullable
  | either first second => first.isNullable || second.isNullable
  | plus _ inner => inner.isNullable
  | times count inner => count == 0 || inner.isNullable

/-- Any number of rounds. If a round can take no character, one such round is tried before none. -/
def star (greedy : Bool) (inner : Regex) : Regex :=
  if inner.isNullable then optional greedy (plus greedy inner) else rounds greedy inner

/-- At least a number of rounds. -/
def atLeast (greedy : Bool) (inner : Regex) : Nat → Regex
  | 0 => star greedy inner
  | 1 => plus greedy inner
  | count + 1 => seq (times count inner) (plus greedy inner)

/-- A number of rounds between two bounds. -/
def between (greedy : Bool) (inner : Regex) (least greatest : Nat) : Regex :=
  if least == greatest then times least inner
  else if least == 0 && greatest == 1 then optional greedy inner
  else if least == 0 then upTo greedy greatest inner
  else seq (times least inner) (upTo greedy (greatest - least) inner)

end Regex

end DocBlocks
