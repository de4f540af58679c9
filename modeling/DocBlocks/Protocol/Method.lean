/-
This file lists the methods of the protocol.
-/

import DocBlocks.Protocol.Request

namespace DocBlocks.Protocol

/-- The methods that the server does something for, and the others that it knows. -/
inductive Method where
  | initialization
  | initialized
  | shutdown
  | exit
  | cancelRequest
  | didOpen
  | didChange
  | didClose
  | didChangeConfiguration
  | foldingRange
  | hover
  | executeCommand
  /-- A request that the server does not answer, with what its parameters look like. -/
  | otherRequest (params : Shape)
  | otherNotification

namespace Method

/-- Notifications that are part of the protocol and that the server takes no notice of. -/
def otherNotifications : List String := [
  "textDocument/willSave", "textDocument/didSave", "workspace/didChangeWorkspaceFolders",
  "workspace/didCreateFiles", "workspace/didRenameFiles", "workspace/didDeleteFiles",
  "workspace/didChangeWatchedFiles"]

def ofName? (name : String) : Option Method :=
  match name with
  | "initialize" => some initialization
  | "initialized" => some initialized
  | "shutdown" => some shutdown
  | "exit" => some exit
  | "$/cancelRequest" => some cancelRequest
  | "textDocument/didOpen" => some didOpen
  | "textDocument/didChange" => some didChange
  | "textDocument/didClose" => some didClose
  | "workspace/didChangeConfiguration" => some didChangeConfiguration
  | "textDocument/foldingRange" => some foldingRange
  | "textDocument/hover" => some hover
  | "workspace/executeCommand" => some executeCommand
  | name =>
    match Request.shape? name with
    | some params => some (otherRequest params)
    | none => if otherNotifications.contains name then some otherNotification else none

/-- Methods that do not answer. -/
def isNotification : Method → Bool
  | initialized | exit | cancelRequest | didOpen | didChange | didClose
  | didChangeConfiguration | otherNotification => true
  | _ => false

end Method

/-- Messages with an unknown method of this kind may be ignored. -/
def isOptional (name : String) : Bool :=
  "$/".toList.isPrefixOf name.toList

end DocBlocks.Protocol
