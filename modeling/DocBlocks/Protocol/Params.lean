/-
This file reads the parameters of the messages that clients send.
-/

import DocBlocks.Protocol.Capabilities

namespace DocBlocks.Protocol

open Json (Decoder DecodeError optionalField required requiredElement noMoreThan)

/-- An edit. The length of the replaced text is checked but not used. -/
def asEdit : Decoder Edit :=
  asRecord "TextDocumentContentChangeEvent"
    (fun fields => do
      let range ← optionalField fields "range" (Json.asOptional (asRange .direct))
      let _ ← optionalField fields "rangeLength" (Json.asOptional asCoordinate)
      let text ← optionalField fields "text" Json.asString
      .ok ⟨range.getD none, (← required "text" text).toList⟩)
    (fun elements => do
      let expected := recordWith "TextDocumentContentChangeEvent" 3
      let range ← requiredElement elements 0 expected (Json.asOptional (asRange .direct))
      let _ ← requiredElement elements 1 expected (Json.asOptional asCoordinate)
      let text ← requiredElement elements 2 expected Json.asString
      noMoreThan elements 3
      .ok ⟨range, text.toList⟩)

def asVersionedId : Decoder (Uri × Int) :=
  asRecord "VersionedTextDocumentIdentifier"
    (fun fields => do
      let uri ← optionalField fields "uri" asUri
      let version ← optionalField fields "version" asInteger
      .ok (← required "uri" uri, ← required "version" version))
    (fun elements => do
      let expected := recordWith "VersionedTextDocumentIdentifier" 2
      let uri ← requiredElement elements 0 expected asUri
      let version ← requiredElement elements 1 expected asInteger
      noMoreThan elements 2
      .ok (uri, version))

def asDocument : Decoder Document :=
  asRecord "TextDocumentItem"
    (fun fields => do
      let language ← optionalField fields "languageId" Json.asString
      let text ← optionalField fields "text" Json.asString
      let uri ← optionalField fields "uri" asUri
      let version ← optionalField fields "version" asInteger
      .ok {
        uri := (← required "uri" uri).text
        language := ← required "languageId" language
        version := ← required "version" version
        text := (← required "text" text).toList })
    (fun elements => do
      let expected := recordWith "TextDocumentItem" 4
      let uri ← requiredElement elements 0 expected asUri
      let language ← requiredElement elements 1 expected Json.asString
      let version ← requiredElement elements 2 expected asInteger
      let text ← requiredElement elements 3 expected Json.asString
      noMoreThan elements 4
      .ok { uri := uri.text, language, version, text := text.toList })

/-- A record with one field. -/
def asSingle {α : Type} (name field : String) (decode : Decoder α) : Decoder α :=
  asRecord name
    (fun fields => do required field (← optionalField fields field decode))
    (fun elements => do
      let value ← requiredElement elements 0 (recordWith name 1) decode
      noMoreThan elements 1
      .ok value)

def asOpened : Decoder Document :=
  asSingle "DidOpenTextDocumentParams" "textDocument" asDocument

def asClosed : Decoder Uri :=
  asSingle "DidCloseTextDocumentParams" "textDocument" (asDocumentId .direct)

/-- The settings that a client sends, whatever they are. -/
def asConfiguration : Decoder Json :=
  asSingle "DidChangeConfigurationParams" "settings" .ok

structure Changed where
  uri : Uri
  version : Int
  edits : List Edit

def asChanged : Decoder Changed :=
  asRecord "DidChangeTextDocumentParams"
    (fun fields => do
      let edits ← optionalField fields "contentChanges" (Json.asList asEdit)
      let document ← optionalField fields "textDocument" asVersionedId
      let (uri, version) ← required "textDocument" document
      .ok ⟨uri, version, ← required "contentChanges" edits⟩)
    (fun elements => do
      let expected := recordWith "DidChangeTextDocumentParams" 2
      let (uri, version) ← requiredElement elements 0 expected asVersionedId
      let edits ← requiredElement elements 1 expected (Json.asList asEdit)
      noMoreThan elements 2
      .ok ⟨uri, version, edits⟩)

/-- Checks the name of a progress report, which is never sent. -/
def checkProgress (fields : List (String × Json)) (name : String) : Except DecodeError Unit := do
  let _ ← optionalField fields name (Json.asOptional asId)
  .ok ()

/-- The document whose regions are asked for. -/
def asFolding : Decoder Uri :=
  asObject "FoldingRangeParams" fun fields => do
    let document ← optionalField fields "textDocument" (asDocumentId .direct)
    let uri ← required "textDocument" document
    checkProgress fields "workDoneToken"
    checkProgress fields "partialResultToken"
    .ok uri

/-- The document and the position that a hover is asked for. -/
def asHover : Decoder (Uri × Position) :=
  asObject "HoverParams" fun fields => do
    let position ← optionalField fields "position" (asPosition .deferred)
    let document ← optionalField fields "textDocument" (asDocumentId .deferred)
    let uri ← required "textDocument" document
    let position ← required "position" position
    checkProgress fields "workDoneToken"
    .ok (uri, position)

/-- The name and arguments of a command. -/
def asCommand : Decoder (String × List Json) :=
  asObject "ExecuteCommandParams" fun fields => do
    let arguments ← optionalField fields "arguments" (Json.asList .ok)
    let command ← optionalField fields "command" Json.asString
    let command ← required "command" command
    checkProgress fields "workDoneToken"
    .ok (command, arguments.getD [])

/-- The request that is to be cancelled. -/
def asCancelled : Decoder Id :=
  asSingle "CancelParams" "id" asId

def asClientInfo : Decoder Unit :=
  asRecord "ClientInfo"
    (fun fields => do
      let name ← optionalField fields "name" Json.asString
      let _ ← optionalField fields "version" (Json.asOptional Json.asString)
      let _ ← required "name" name
      .ok ())
    (fun elements => do
      let expected := recordWith "ClientInfo" 2
      let _ ← requiredElement elements 0 expected Json.asString
      let _ ← requiredElement elements 1 expected (Json.asOptional Json.asString)
      noMoreThan elements 2)

def asFolder : Decoder Unit :=
  asRecord "WorkspaceFolder"
    (fun fields => do
      let name ← optionalField fields "name" Json.asString
      let uri ← optionalField fields "uri" asUri
      let _ ← required "uri" uri
      let _ ← required "name" name
      .ok ())
    (fun elements => do
      let expected := recordWith "WorkspaceFolder" 2
      let _ ← requiredElement elements 0 expected asUri
      let _ ← requiredElement elements 1 expected Json.asString
      noMoreThan elements 2)

def asTrace : Decoder Unit :=
  Json.asVariant [("off", ()), ("messages", ()), ("verbose", ())]

/-- The settings that a client starts the server with, if any. -/
def asInitialization : Decoder (Option Json) :=
  asRecord "InitializeParams"
    (fun fields => do
      let capabilities ← optionalField fields "capabilities" (Capabilities.client.check .direct)
      let _ ← optionalField fields "clientInfo" (Json.asOptional asClientInfo)
      let options ← optionalField fields "initializationOptions" (Json.asOptional .ok)
      let _ ← optionalField fields "locale" (Json.asOptional Json.asString)
      let _ ← optionalField fields "processId" (Json.asOptional asCoordinate)
      let _ ← optionalField fields "rootPath" (Json.asOptional Json.asString)
      let _ ← optionalField fields "rootUri" (Json.asOptional asUri)
      let _ ← optionalField fields "trace" (Json.asOptional asTrace)
      let _ ← optionalField fields "workspaceFolders" (Json.asOptional (Json.asList asFolder))
      let _ ← required "capabilities" capabilities
      .ok (options.getD none))
    (fun elements => do
      let expected := recordWith "InitializeParams" 9
      let _ ← requiredElement elements 0 expected (Json.asOptional asCoordinate)
      let _ ← requiredElement elements 1 expected (Json.asOptional Json.asString)
      let _ ← Json.optionalElement elements 2 (Json.asOptional asUri)
      let options ← requiredElement elements 3 expected (Json.asOptional .ok)
      let _ ← requiredElement elements 4 expected (Capabilities.client.check .direct)
      let _ ← Json.optionalElement elements 5 (Json.asOptional asTrace)
      let _ ← requiredElement elements 6 expected (Json.asOptional (Json.asList asFolder))
      let _ ← requiredElement elements 7 expected (Json.asOptional asClientInfo)
      let _ ← requiredElement elements 8 expected (Json.asOptional Json.asString)
      noMoreThan elements 9
      .ok options)

end DocBlocks.Protocol
