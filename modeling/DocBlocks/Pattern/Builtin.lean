/-
This file holds the patterns that are known from the start.
-/

import DocBlocks.Pattern.Basic

namespace DocBlocks.Pattern

open Regex (literal look one sequence star optional)

def blanks : Regex :=
  star true (one .blank)

def characters (text : String) : List Regex :=
  text.toList.map literal

/-- Anything but the characters given, or the end of the line. -/
def otherThan (excluded : Regex.CharClass) : Regex :=
  .either (one (.complement excluded)) (look .textEnd)

/-- Any characters, as many as possible. -/
def anything : Regex :=
  star true (one (.complement (.single '\n')))

/-- The letters that may stand before the quotes of a string. -/
def stringLetter : Regex :=
  optional true (one (.ofChars ['r', 'R', 'u', 'U', 'b', 'B']))

def quoteOpening (quote : String) : Regex.Expression :=
  ⟨"^\\s*[rRuUbB]?" ++ quote,
    sequence ([look .textStart, blanks, stringLetter] ++ characters quote)⟩

def quoteClosing (quote : String) : Regex.Expression :=
  ⟨quote, sequence (characters quote)⟩

def quoteSingle (quote : String) : Regex.Expression :=
  ⟨"^\\s*[rRuUbB]?" ++ quote ++ ".*" ++ quote ++ "\\s*$",
    sequence ([look .textStart, blanks, stringLetter] ++ characters quote ++ [anything] ++
      characters quote ++ [blanks, look .textEnd])⟩

def tripleQuotes (name quote : String) : Pattern where
  name := name
  language := "python"
  opening := .regex (quoteOpening quote)
  closing := .regex (quoteClosing quote)
  singleLine := some (.regex (quoteSingle quote))
  multiline := true
  family := .tripleQuote

def commentOpening : Regex.Expression :=
  ⟨"^\\s*/\\*\\*([^/*]|$)",
    sequence ([look .textStart, blanks] ++ characters "/**" ++ [otherThan (.ofChars ['/', '*'])])⟩

def commentClosing : Regex.Expression :=
  ⟨"\\*/", sequence (characters "*/")⟩

def commentSingle : Regex.Expression :=
  ⟨"^\\s*/\\*\\*.*\\*/",
    sequence ([look .textStart, blanks] ++ characters "/**" ++ [anything] ++ characters "*/")⟩

def blockCommentFor (language : String) : Pattern where
  name := language ++ "-block-comment"
  language := language
  opening := .regex commentOpening
  closing := .regex commentClosing
  singleLine := some (.regex commentSingle)
  multiline := true
  family := .blockComment

def slashOpening : Regex.Expression :=
  ⟨"^\\s*///([^/]|$)",
    sequence ([look .textStart, blanks] ++ characters "///" ++ [otherThan (.single '/')])⟩

def tripleSlashFor (language : String) : Pattern where
  name := language ++ "-triple-slash"
  language := language
  opening := .regex slashOpening
  closing := .regex slashOpening
  singleLine := none
  multiline := false
  family := .linePrefix

def innerOpening : Regex.Expression :=
  ⟨"^\\s*//!", sequence ([look .textStart, blanks] ++ characters "//!")⟩

def innerDoc : Pattern where
  name := "rust-inner-doc"
  language := "rust"
  opening := .regex innerOpening
  closing := .regex innerOpening
  singleLine := none
  multiline := false
  family := .linePrefix

def blockCommentLanguages : List String :=
  ["javascript", "javascriptreact", "typescript", "typescriptreact", "java", "kotlin", "scala",
    "php", "c", "cpp", "objective-c", "groovy"]

def tripleSlashLanguages : List String :=
  ["rust", "csharp", "fsharp", "swift", "dart"]

/-- The patterns known from the start, in the order they are registered. -/
def builtins : List Pattern :=
  [tripleQuotes "python-triple-double" "\"\"\"", tripleQuotes "python-triple-single" "'''"] ++
    blockCommentLanguages.map blockCommentFor ++ tripleSlashLanguages.map tripleSlashFor ++
    [innerDoc]

end DocBlocks.Pattern
