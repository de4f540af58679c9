/-
This file defines documentation blocks and their JSON form.
-/

import DocBlocks.Json.Decode
import DocBlocks.Text.Basic

namespace DocBlocks

/-- A documentation block. Lines and columns count from zero, columns in characters, and the block
ends before its end column. -/
structure Block where
  startLine : Nat
  startColumn : Nat
  endLine : Nat
  endColumn : Nat
  rawContent : Text
  preview : Text
  language : String
  isSingleLine : Bool
deriving DecidableEq, Repr

namespace Block

def positionKey (block : Block) : Nat × Nat × Nat × Nat :=
  (block.startLine, block.startColumn, block.endLine, block.endColumn)

def lineCount (block : Block) : Nat :=
  block.endLine + 1 - block.startLine

def containsLine (block : Block) (line : Nat) : Bool :=
  block.startLine ≤ line && line ≤ block.endLine

/-- Blocks are listed by where they start, then by the line they end on. -/
def precedes (left right : Block) : Bool :=
  left.startLine < right.startLine ||
    (left.startLine == right.startLine &&
      (left.startColumn < right.startColumn ||
        (left.startColumn == right.startColumn && left.endLine ≤ right.endLine)))

/-- Blocks in the order they are listed in; those at one place keep their order. -/
def sorted (blocks : List Block) : List Block :=
  blocks.mergeSort precedes

def toJson (block : Block) : Json :=
  .object [
    ("endColumn", .nat block.endColumn),
    ("endLine", .nat block.endLine),
    ("isSingleLine", .bool block.isSingleLine),
    ("language", .string block.language),
    ("preview", .text block.preview),
    ("rawContent", .text block.rawContent),
    ("startColumn", .nat block.startColumn),
    ("startLine", .nat block.startLine)]

def ofFields (fields : List (String × Json)) : Except Json.DecodeError Block := do
  let endColumn ← Json.optionalField fields "endColumn" (Json.asNatural "usize")
  let endLine ← Json.optionalField fields "endLine" (Json.asNatural "usize")
  let isSingleLine ← Json.optionalField fields "isSingleLine" Json.asBool
  let language ← Json.optionalField fields "language" Json.asString
  let preview ← Json.optionalField fields "preview" Json.asString
  let rawContent ← Json.optionalField fields "rawContent" Json.asString
  let startColumn ← Json.optionalField fields "startColumn" (Json.asNatural "usize")
  let startLine ← Json.optionalField fields "startLine" (Json.asNatural "usize")
  .ok {
    startLine := ← Json.required "startLine" startLine
    startColumn := ← Json.required "startColumn" startColumn
    endLine := ← Json.required "endLine" endLine
    endColumn := ← Json.required "endColumn" endColumn
    rawContent := (← Json.required "rawContent" rawContent).toList
    preview := (← Json.required "preview" preview).toList
    language := ← Json.required "language" language
    isSingleLine := ← Json.required "isSingleLine" isSingleLine }

def ofElements (elements : List Json) : Except Json.DecodeError Block := do
  let expected := "struct DocumentationBlock with 8 elements"
  let startLine ← Json.requiredElement elements 0 expected (Json.asNatural "usize")
  let startColumn ← Json.requiredElement elements 1 expected (Json.asNatural "usize")
  let endLine ← Json.requiredElement elements 2 expected (Json.asNatural "usize")
  let endColumn ← Json.requiredElement elements 3 expected (Json.asNatural "usize")
  let rawContent ← Json.requiredElement elements 4 expected Json.asString
  let preview ← Json.requiredElement elements 5 expected Json.asString
  let language ← Json.requiredElement elements 6 expected Json.asString
  let isSingleLine ← Json.requiredElement elements 7 expected Json.asBool
  Json.noMoreThan elements 8
  .ok {
    startLine, startColumn, endLine, endColumn, language, isSingleLine
    rawContent := rawContent.toList
    preview := preview.toList }

/-- A block is an object, or the list of its fields in order. -/
def ofJson : Json.Decoder Block
  | .object fields => ofFields fields
  | .array elements => ofElements elements
  | other => .error (.wrongType other "struct DocumentationBlock")

end Block

end DocBlocks
