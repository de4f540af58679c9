/-
This file reads where something is: documents, positions and ranges.
-/

import DocBlocks.Document
import DocBlocks.Json.Decode
import DocBlocks.Protocol.Message
import DocBlocks.Uri.Parser

namespace DocBlocks.Protocol

open Json (Decoder DecodeError Source optionalField required requiredElement)

def asUri : Decoder Uri
  | .string text =>
    match Uri.parse text with
    | .ok uri => .ok uri
    | .error cause => .error (.unreadable text cause.message)
  | other => .error (.wrongType other "a string representing an URL")

def asCoordinate : Decoder Nat := fun json =>
  (Json.asBounded "u32" 0 4294967295 json).map Int.toNat

def asInteger : Decoder Int :=
  Json.asBounded "i32" (-2147483648) 2147483647

/-- What a list is too short for. -/
def recordWith (name : String) (count : Nat) : String :=
  "struct " ++ name ++ " with " ++ Json.counted count "element"

/-- An object, or the list of its fields in order. -/
def asRecord {α : Type} (name : String)
    (ofFields : List (String × Json) → Except DecodeError α)
    (ofElements : List Json → Except DecodeError α) : Decoder α
  | .object fields => ofFields fields
  | .array elements => ofElements elements
  | other => .error (.wrongType other ("struct " ++ name))

/-- An object only. -/
def asObject {α : Type} (name : String)
    (ofFields : List (String × Json) → Except DecodeError α) : Decoder α
  | .object fields => ofFields fields
  | other => .error (.wrongType other ("struct " ++ name))

def asPosition (source : Source) : Decoder Position :=
  asRecord "Position"
    (fun fields => do
      let character ← optionalField fields "character" asCoordinate
      let line ← optionalField fields "line" asCoordinate
      .ok ⟨← required "line" line, ← required "character" character⟩)
    (fun elements => do
      let expected := recordWith "Position" 2
      let line ← requiredElement elements 0 expected asCoordinate
      let character ← requiredElement elements 1 expected asCoordinate
      source.noMoreThan elements 2
      .ok ⟨line, character⟩)

def asRange (source : Source) : Decoder (Position × Position) :=
  asRecord "Range"
    (fun fields => do
      let stop ← optionalField fields "end" (asPosition source)
      let start ← optionalField fields "start" (asPosition source)
      .ok (← required "start" start, ← required "end" stop))
    (fun elements => do
      let expected := recordWith "Range" 2
      let start ← requiredElement elements 0 expected (asPosition source)
      let stop ← requiredElement elements 1 expected (asPosition source)
      source.noMoreThan elements 2
      .ok (start, stop))

/-- The identifier of a document. -/
def asDocumentId (source : Source) : Decoder Uri :=
  asRecord "TextDocumentIdentifier"
    (fun fields => do required "uri" (← optionalField fields "uri" asUri))
    (fun elements => do
      let uri ← requiredElement elements 0 (recordWith "TextDocumentIdentifier" 1) asUri
      source.noMoreThan elements 1
      .ok uri)

/-- A number or a string that names a request or a report of its progress. -/
def asId : Decoder Id
  | .number (.whole value) =>
    if -2147483648 ≤ value && value ≤ 2147483647 then .ok (.number value)
    else .error (.noAlternative "NumberOrString")
  | .string value => .ok (.string value)
  | _ => .error (.noAlternative "NumberOrString")

end DocBlocks.Protocol
