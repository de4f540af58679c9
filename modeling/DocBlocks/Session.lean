/-
This file answers the messages of one client.
-/

import DocBlocks.Command
import DocBlocks.Protocol.Method
import DocBlocks.Protocol.Params
import DocBlocks.Workspace.Query

namespace DocBlocks

open Protocol

namespace Session

inductive Lifecycle where
  | uninitialized
  | initialized
  | shutDown
  | exited
deriving DecidableEq, Repr

/-- A request that waits for its answer, unless it has been cancelled. -/
structure Pending where
  id : Id
  waiting : Query.Waiting
  cancelled : Bool := false
deriving DecidableEq, Repr

/-- What becomes of a message. -/
inductive Outcome where
  /-- It is done with. A message that needs no answer has none. -/
  | done (reply : Option Reply)
  /-- The request waits. -/
  | pending (id : Id)
  /-- Nobody listens any more. -/
  | exited

end Session

structure Session where
  workspace : Workspace
  lifecycle : Session.Lifecycle := .uninitialized
  pending : List Session.Pending := []

namespace Session

def new (registry : Registry) : Session where
  workspace := Workspace.new (Service.new registry)

def wait (session : Session) (milliseconds : Nat) : Session :=
  { session with workspace := session.workspace.wait milliseconds }

/-- The outcome of a message, what is sent to the client besides, and the session after it. -/
structure Step where
  outcome : Outcome
  notices : List Notice := []
  session : Session

def reply (session : Session) (reply : Reply) : Step :=
  { outcome := .done (some reply), session }

def silence (session : Session) : Step :=
  { outcome := .done none, session }

/-- Fails, if the message is a request. -/
def refuse (session : Session) (message : Message) (failure : Failure) : Step :=
  { outcome := .done (message.id.map fun _ => .error failure), session }

def serverInfo : Json :=
  .object [("name", .string "docstring-language-server"), ("version", .string "0.1.0")]

/-- What the server can do: edits are sent one by one. -/
def capabilities : Json :=
  .object [
    ("executeCommandProvider", .object [("commands", .strings Command.names)]),
    ("foldingRangeProvider", .bool true),
    ("hoverProvider", .bool true),
    ("textDocumentSync", .nat 2)]

/-- Starts with the settings of the client, if they are valid. -/
def start (session : Session) (options : Option Json) : Step :=
  let workspace := match options.map session.workspace.configure with
    | some (.ok workspace) => workspace
    | _ => session.workspace
  { session with workspace, lifecycle := .initialized }.reply
    (.ok (.object [("capabilities", capabilities), ("serverInfo", serverInfo)]))

def configure (session : Session) (value : Json) : Step :=
  match session.workspace.configure value with
  | .ok workspace => { session with workspace }.silence
  | .error error =>
    { outcome := .done none
      notices := [.warning ("Docstring settings ignored: " ++ error.message)]
      session }

def replyOf (uri : String) : Query.Answer → Reply
  | .folding ranges =>
    .ok (ranges.elim .null fun ranges => .array (ranges.map FoldingRange.toJson))
  | .hover found => .ok (found.elim .null Hover.toJson)
  | .blocks (some blocks) => .ok (.array (blocks.map Block.toJson))
  | .blocks none => .error (.invalidParams ("document not open: " ++ uri))

def ask (session : Session) (id : Id) (query : Query) : Step :=
  match session.workspace.ask query with
  | (.answered answer, workspace) => { session with workspace }.reply (replyOf query.uri answer)
  | (.waiting waiting, workspace) =>
    { outcome := .pending id
      session := { session with workspace, pending := session.pending ++ [{ id, waiting }] } }

def execute (session : Session) (id : Id) (command : Command) : Step :=
  match command with
  | .clearCache => { session with workspace := session.workspace.clearCaches }.reply (.ok .null)
  | .cacheStats => session.reply (.ok session.workspace.statistics)
  | .supportedLanguages => session.reply (.ok (.strings session.workspace.service.languages))
  | .listBlocks uri => session.ask id (.blocks uri.text)

/-- Cancels a request that waits. -/
def cancel (session : Session) (id : Id) : Session :=
  { session with pending := session.pending.map fun request =>
      if request.id = id then { request with cancelled := true } else request }

/-- Stops listening and cancels all requests that wait. -/
def exit (session : Session) : Session :=
  { session with
    lifecycle := .exited
    pending := session.pending.map fun request => { request with cancelled := true } }

/-- Reads parameters that have to be there. -/
def decode {α : Type} (decoder : Json.Decoder α) (message : Message) : Except Failure α :=
  match message.params with
  | none => .error .missingParams
  | some params => (decoder params).mapError fun error => .invalidParams error.message

/-- Reads the parameters of a message and goes on with them. -/
def withParams {α : Type} (session : Session) (message : Message) (decoder : Json.Decoder α)
    (next : α → Step) : Step :=
  match decode decoder message with
  | .ok params => next params
  | .error failure => session.refuse message failure

/-- Answers a request that is allowed now. -/
def request (session : Session) (message : Message) (id : Id) (method : Method) : Step :=
  match method with
  | .initialization => session.withParams message asInitialization session.start
  | .shutdown =>
    match message.params with
    | none => { session with workspace := session.workspace.shutDown }.reply (.ok .null)
    | some params => session.reply (.error (.unexpectedParams params))
  | .foldingRange => session.withParams message asFolding fun uri => session.ask id (.folding uri.text)
  | .hover =>
    session.withParams message asHover fun (uri, position) => session.ask id (.hover uri.text position)
  | .executeCommand =>
    session.withParams message asCommand fun (name, arguments) =>
      match Command.parse name arguments with
      | .ok command => session.execute id command
      | .error error => session.reply (.error (.invalidParams error.message))
  | .otherRequest params =>
    session.withParams message (params.check .direct) fun _ =>
      session.reply (.error .unsupportedMethod)
  | _ => session.reply (.error .unsupportedMethod)

/-- Takes note of a notification that is allowed now. One that cannot be read is ignored. -/
def notify (session : Session) (message : Message) (method : Method) : Step :=
  match method with
  | .didOpen =>
    session.withParams message asOpened fun document =>
      { session with workspace := session.workspace.openDocument document }.silence
  | .didChange =>
    session.withParams message asChanged fun change =>
      { session with
        workspace := session.workspace.changeDocument change.uri.text change.version
          change.edits }.silence
  | .didClose =>
    session.withParams message asClosed fun uri =>
      { session with workspace := session.workspace.closeDocument uri.text }.silence
  | .didChangeConfiguration => session.withParams message asConfiguration session.configure
  | .cancelRequest => session.withParams message asCancelled fun id => (session.cancel id).silence
  | _ => session.silence

/-- Handles a message that is allowed now. A request needs a method that answers, a notification
one that does not. -/
def handle (session : Session) (message : Message) (method : Method) : Step :=
  match message.id, method.isNotification with
  | some id, false => session.request message id method
  | none, true => session.notify message method
  | some _, true => session.refuse message .invalidRequest
  | none, false => session.silence

/-- Refuses a message for which the session is not ready, or no longer. -/
def refuseNow (session : Session) (message : Message) : Step :=
  session.refuse message
    (if session.lifecycle = .uninitialized then .notInitialized else .invalidRequest)

/-- A request is waiting under this identifier. -/
def isBusy (session : Session) (id : Id) : Bool :=
  session.pending.any fun request => request.id = id && !request.cancelled

/-- Sees to it that messages come in order: one `initialize`, then anything, then one `shutdown`,
then `exit`. A `shutdown` counts even if its parameters are wrong. -/
def dispatch (session : Session) (message : Message) (method : Method) : Step :=
  match method with
  | .exit => session.exit.silence
  | .cancelRequest => session.handle message method
  | .initialization =>
    if session.lifecycle = .uninitialized then session.handle message method
    else session.refuse message .invalidRequest
  | .shutdown =>
    if session.lifecycle = .initialized then
      { session with lifecycle := .shutDown }.handle message method
    else session.refuseNow message
  | _ =>
    if session.lifecycle != .initialized then session.refuseNow message
    else if message.id.any session.isBusy then session.refuse message .invalidRequest
    else session.handle message method

/-- Takes a message and lets it go as far as it can. -/
def begin (session : Session) (message : Message) : Step :=
  if session.lifecycle = .exited then { outcome := .exited, session }
  else
    match Method.ofName? message.method with
    | some method => session.dispatch message method
    | none =>
      if isOptional message.method then session.silence
      else session.refuse message (.unknownMethod message.method)

def takePending (session : Session) (id : Id) : Option Pending × Session :=
  (session.pending.find? fun request => request.id = id,
    { session with pending := session.pending.filter fun request => request.id ≠ id })

/-- Waits for the answer to a request. -/
def finish (session : Session) (id : Id) : Reply × Session :=
  match session.takePending id with
  | (none, session) => (.error .cancelled, session)
  | (some request, session) =>
    if request.cancelled then
      (.error .cancelled, { session with workspace := session.workspace.giveUp request.waiting })
    else
      let (answer, workspace) := session.workspace.await request.waiting
      (replyOf request.waiting.query.uri answer, { session with workspace })

/-- Gives a request up without an answer. -/
def abandon (session : Session) (id : Id) : Session :=
  match session.takePending id with
  | (none, session) => session
  | (some request, session) =>
    { session with workspace := session.workspace.giveUp request.waiting }

/-- Takes a message and waits until it is done with. -/
def receive (session : Session) (message : Message) : Step :=
  let step := session.begin message
  match step.outcome with
  | .pending id =>
    let (reply, session) := step.session.finish id
    { outcome := .done (some reply), notices := step.notices, session }
  | _ => step

end Session

end DocBlocks
