/-
This file describes patterns as users write them in settings.
-/

import DocBlocks.Pattern.Basic

namespace DocBlocks

structure PatternSpec where
  language : String
  name : Option String := none
  opening : String
  closing : String
  singleLine : Option String := none
  multiline : Bool := true
  family : Family := .blockComment
deriving DecidableEq, Repr

namespace PatternSpec

def compile (spec : PatternSpec) : Except PatternError Pattern := do
  Pattern.checkLanguage spec.language
  .ok {
    name := spec.name.getD (spec.language ++ "-custom")
    language := spec.language
    opening := ← Pattern.compile spec.language .opening spec.opening
    closing := ← Pattern.compile spec.language .closing spec.closing
    singleLine := ← Pattern.compileOptional spec.language .singleLine spec.singleLine
    multiline := spec.multiline
    family := spec.family }

def optionalJson : Option String → Json
  | some value => .string value
  | none => .null

def toJson (spec : PatternSpec) : Json :=
  .object [
    ("end", .string spec.closing),
    ("family", spec.family.toJson),
    ("language", .string spec.language),
    ("multiline", .bool spec.multiline),
    ("name", optionalJson spec.name),
    ("singleLine", optionalJson spec.singleLine),
    ("start", .string spec.opening)]

def ofFields (fields : List (String × Json)) : Except Json.DecodeError PatternSpec := do
  let closing ← Json.optionalField fields "end" Json.asString
  let family ← Json.optionalField fields "family" Family.ofJson
  let language ← Json.optionalField fields "language" Json.asString
  let multiline ← Json.optionalField fields "multiline" Json.asBool
  let name ← Json.optionalField fields "name" (Json.asOptional Json.asString)
  let singleLine ← Json.optionalField fields "singleLine" (Json.asOptional Json.asString)
  let opening ← Json.optionalField fields "start" Json.asString
  .ok {
    language := ← Json.required "language" language
    name := name.getD none
    opening := ← Json.required "start" opening
    closing := ← Json.required "end" closing
    singleLine := singleLine.getD none
    multiline := multiline.getD true
    family := family.getD .blockComment }

def ofElements (elements : List Json) : Except Json.DecodeError PatternSpec := do
  let expected := "struct PatternSpec with 7 elements"
  let language ← Json.requiredElement elements 0 expected Json.asString
  let name ← Json.optionalElement elements 1 (Json.asOptional Json.asString)
  let opening ← Json.requiredElement elements 2 expected Json.asString
  let closing ← Json.requiredElement elements 3 expected Json.asString
  let singleLine ← Json.optionalElement elements 4 (Json.asOptional Json.asString)
  let multiline ← Json.optionalElement elements 5 Json.asBool
  let family ← Json.optionalElement elements 6 Family.ofJson
  Json.noMoreThan elements 7
  .ok {
    language, opening, closing
    name := name.getD none
    singleLine := singleLine.getD none
    multiline := multiline.getD true
    family := family.getD .blockComment }

/-- A description is an object, or the list of its fields in order. -/
def ofJson : Json.Decoder PatternSpec
  | .object fields => ofFields fields
  | .array elements => ofElements elements
  | other => .error (.wrongType other "struct PatternSpec")

end PatternSpec

end DocBlocks
