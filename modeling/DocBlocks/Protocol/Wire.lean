/-
This file writes messages the way they are sent, and reads them.
-/

import DocBlocks.Json.Parser
import DocBlocks.Protocol.Message
import DocBlocks.Text.Blank
import DocBlocks.Text.Search

namespace DocBlocks.Protocol

def idOf? : Json → Option Id
  | .number (.whole value) => some (.number value)
  | .string value => some (.string value)
  | _ => none

/-- What is read from a client. -/
inductive Received where
  | message (message : Message)
  /-- An answer to something that was not asked for. -/
  | answer
  | malformed
  | invalid

def ofFields (fields : List (String × Json)) : Received :=
  match Json.field? "method" fields, Json.field? "id" fields with
  | some (.string method), none => .message ⟨none, method, Json.field? "params" fields⟩
  | some (.string method), some id =>
    match idOf? id with
    | some id => .message ⟨some id, method, Json.field? "params" fields⟩
    | none => .invalid
  | none, some _ => .answer
  | _, _ => .invalid

def receive (body : String) : Received :=
  match Json.parse body with
  | .error _ => .malformed
  | .ok (.object fields) => ofFields fields
  | .ok _ => .invalid

def envelope (fields : List (String × Json)) : Json :=
  .ofFields (("jsonrpc", .string "2.0") :: fields)

def errorJson (code : Int) (message : String) (data : Option Json) : Json :=
  .ofFields ([("code", .int code), ("message", .string message)] ++
    (data.map fun data => ("data", data)).toList)

def replyJson (id : Id) : Reply → Json
  | .ok result => envelope [("result", result), ("id", id.toJson)]
  | .error failure =>
    envelope [("error", errorJson failure.code failure.message failure.data), ("id", id.toJson)]

/-- The answer to what is not JSON. -/
def malformedJson : Json :=
  envelope [("error", errorJson (-32700) "Parse error" none), ("id", .null)]

/-- The answer to what is not a message. -/
def invalidJson : Json :=
  let failure := Failure.invalidRequest
  envelope [("error", errorJson failure.code failure.message none), ("id", .null)]

def noticeJson (notice : Notice) : Json :=
  envelope [("method", .string notice.method), ("params", notice.params)]

/-- A body with the header that says how many bytes it has. -/
def framed (body : Json) : String :=
  let text := body.print
  "Content-Length: " ++ toString text.utf8ByteSize ++ "\r\n\r\n" ++ text

/-- The number of bytes that a line of a header announces. -/
def announcedLength? (line : String) : Option Nat :=
  match Text.cutAt? [':'] line.toList with
  | none => none
  | some (name, value) =>
    if String.ofList (name.map Char.toLower) = "content-length" then
      (String.ofList (Text.trim value)).toNat?
    else none

/-- A header ends with an empty line. -/
def endsHeader (line : String) : Bool :=
  Text.allBlank line.toList

end DocBlocks.Protocol
