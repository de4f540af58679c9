/-
This file defines patterns, each of which describes one comment syntax of one language.
-/

import DocBlocks.Family
import DocBlocks.Pattern.Matcher

namespace DocBlocks

structure Pattern where
  name : String
  language : String
  opening : Matcher
  closing : Matcher
  /-- Recognises a block that opens and closes on one line. -/
  singleLine : Option Matcher
  /-- A block goes from an opening to a closing marker; otherwise it is a run of opening lines. -/
  multiline : Bool
  family : Family

/-- The expressions of a pattern, as errors name them. -/
inductive Pattern.Part where
  | opening
  | closing
  | singleLine
deriving DecidableEq, Repr

def Pattern.Part.name : Pattern.Part → String
  | opening => "start"
  | closing => "end"
  | singleLine => "singleLine"

/-- Why a pattern cannot be built. -/
inductive PatternError where
  | invalidExpression (language : String) (part : Pattern.Part) (cause : Regex.ParseError)
  | emptyLanguage
deriving DecidableEq, Repr

def PatternError.message : PatternError → String
  | invalidExpression language part _ =>
    "pattern for '" ++ language ++ "' has an invalid " ++ part.name ++ " expression"
  | emptyLanguage => "pattern language must not be empty"

namespace Pattern

def checkLanguage (language : String) : Except PatternError Unit :=
  if Text.allBlank language.toList then .error .emptyLanguage else .ok ()

def compile (language : String) (part : Part) (source : String) : Except PatternError Matcher :=
  match Regex.Expression.compile source with
  | .ok expression => .ok (.regex expression)
  | .error cause => .error (.invalidExpression language part cause)

def compileOptional (language : String) (part : Part) :
    Option String → Except PatternError (Option Matcher)
  | none => .ok none
  | some source => (compile language part source).map some

/-- A pattern for blocks between an opening and a closing marker. -/
def block (language : String) (family : Family) (opening closing : String)
    (singleLine : Option String) : Except PatternError Pattern := do
  checkLanguage language
  .ok {
    name := language ++ "-" ++ family.title
    language
    opening := ← compile language .opening opening
    closing := ← compile language .closing closing
    singleLine := ← compileOptional language .singleLine singleLine
    multiline := true
    family }

/-- A pattern for runs of lines that all have the opening marker. -/
def perLine (language : String) (family : Family) (opening : String) :
    Except PatternError Pattern := do
  checkLanguage language
  let opening ← compile language .opening opening
  .ok {
    name := language ++ "-" ++ family.title
    language
    opening
    closing := opening
    singleLine := none
    multiline := false
    family }

def named (pattern : Pattern) (name : String) : Pattern :=
  { pattern with name }

def forLanguage (pattern : Pattern) (language : String) : Pattern :=
  { pattern with language }

end Pattern

end DocBlocks
