/-
This file reads the commands that a client can ask for.
-/

import DocBlocks.Json.Basic
import DocBlocks.Uri.Parser

namespace DocBlocks

inductive Command where
  | clearCache
  | cacheStats
  | supportedLanguages
  | listBlocks (uri : Uri)
deriving DecidableEq, Repr

/-- Why a command cannot be run. -/
inductive CommandError where
  | unknown (name : String)
  | missingUri
  | invalidUri (text : String) (cause : UriError)
deriving DecidableEq, Repr

namespace Command

def clearCacheName : String := "docstrings.clearCache"

def cacheStatsName : String := "docstrings.cacheStats"

def supportedLanguagesName : String := "docstrings.supportedLanguages"

def listBlocksName : String := "docstrings.listBlocks"

/-- The names of all commands. -/
def names : List String :=
  [clearCacheName, cacheStatsName, supportedLanguagesName, listBlocksName]

def listBlocksOf : List Json → Except CommandError Command
  | .string text :: _ =>
    match Uri.parse text with
    | .ok uri => .ok (.listBlocks uri)
    | .error cause => .error (.invalidUri text cause)
  | _ => .error .missingUri

/-- Reads a command from its name and arguments. -/
def parse (name : String) (arguments : List Json) : Except CommandError Command :=
  if name = clearCacheName then .ok .clearCache
  else if name = cacheStatsName then .ok .cacheStats
  else if name = supportedLanguagesName then .ok .supportedLanguages
  else if name = listBlocksName then listBlocksOf arguments
  else .error (.unknown name)

end Command

def CommandError.message : CommandError → String
  | unknown name => "unknown command '" ++ name ++ "'"
  | missingUri =>
    "invalid arguments: " ++ Command.listBlocksName ++ " expects a document URI"
  | invalidUri text cause =>
    "invalid arguments: '" ++ text ++ "' is not a URI: " ++ cause.message

end DocBlocks
