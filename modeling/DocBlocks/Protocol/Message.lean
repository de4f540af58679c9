/-
This file defines the messages that a client and the server exchange.
-/

import DocBlocks.Json.Printer

namespace DocBlocks.Protocol

/-- A number or a string that names a request. -/
inductive Id where
  | number (value : Int)
  | string (value : String)
deriving DecidableEq, Repr

def Id.toJson : Id → Json
  | number value => .int value
  | string value => .string value

/-- A message of a client. It is a request if it has an identifier, and a notification otherwise. -/
structure Message where
  id : Option Id
  method : String
  params : Option Json

/-- Why a request fails. -/
inductive Failure where
  | notInitialized
  | invalidRequest
  | unknownMethod (name : String)
  | unsupportedMethod
  | missingParams
  | unexpectedParams (params : Json)
  | invalidParams (reason : String)
  | cancelled
deriving Repr

namespace Failure

def code : Failure → Int
  | notInitialized => -32002
  | invalidRequest => -32600
  | unknownMethod _ | unsupportedMethod => -32601
  | missingParams | unexpectedParams _ | invalidParams _ => -32602
  | cancelled => -32800

def message : Failure → String
  | notInitialized => "Server not initialized"
  | invalidRequest => "Invalid request"
  | unknownMethod _ | unsupportedMethod => "Method not found"
  | missingParams => "Missing params field"
  | unexpectedParams params => "Unexpected params: " ++ params.print
  | invalidParams reason => reason
  | cancelled => "Canceled"

/-- What is sent along with the message. -/
def data : Failure → Option Json
  | unknownMethod name => some (.string name)
  | _ => none

end Failure

/-- The answer to a request. -/
abbrev Reply := Except Failure Json

/-- A message that the server sends of its own accord. -/
inductive Notice where
  | warning (text : String)
deriving DecidableEq, Repr

namespace Notice

def method : Notice → String
  | warning _ => "window/showMessage"

def params : Notice → Json
  | warning text => .object [("message", .string text), ("type", .nat 2)]

end Notice

end DocBlocks.Protocol
