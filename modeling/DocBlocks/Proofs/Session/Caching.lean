/-
This file shows that the caches of a session cannot be told from its answers.
-/

import DocBlocks.Proofs.Workspace.Answers
import DocBlocks.Session

namespace DocBlocks

open Protocol

namespace Session

variable {session : Session}

/-- Waits for the answer if the request waits. -/
def complete (step : Step) : Step :=
  match step.outcome with
  | .pending id =>
    let (reply, session) := step.session.finish id
    { outcome := .done (some reply), notices := step.notices, session }
  | _ => step

theorem receive_eq (session : Session) (message : Message) :
    session.receive message = complete (session.begin message) := rfl

/-- If no other request waits, a question is answered by the workspace. -/
theorem complete_ask (idle : session.pending = []) (id : Id) (query : Query) :
    complete (session.ask id query) =
      { session with workspace := (session.workspace.resolve query).2 }.reply
        (replyOf query.uri (session.workspace.resolve query).1) := by
  obtain ⟨workspace, lifecycle, pending⟩ := session
  subst idle
  rw [Workspace.resolve_eq]
  unfold ask
  dsimp only
  cases asked : workspace.ask query with
  | mk state after =>
      cases state with
      | answered answer => rfl
      | waiting waiting =>
          rw [← Workspace.ask_query asked]
          simp [complete, finish, takePending, reply, Workspace.settle]

/-- No request waits, and the workspace is coherent unless the session has been shut down. -/
structure Calm (session : Session) : Prop where
  idle : session.pending = []
  coherent : session.lifecycle = .uninitialized ∨ session.lifecycle = .initialized →
    session.workspace.Coherent

/-- A session is calm while its workspace is coherent and no request waits. -/
theorem calm_of_coherent (idle : session.pending = []) (coherent : session.workspace.Coherent) :
    session.Calm :=
  ⟨idle, fun _ => coherent⟩

/-- A step after which the session is calm, once it is complete. -/
def Step.Calms (step : Step) : Prop :=
  (complete step).session.Calm

/-- A message that can not be decoded changes nothing. -/
theorem withParams_calms {α : Type} {message : Message} {decoder : Json.Decoder α}
    {next : α → Step} (calm : session.Calm)
    (calms : ∀ params, decode decoder message = .ok params → (next params).Calms) :
    (session.withParams message decoder next).Calms := by
  unfold withParams
  cases decoded : decode decoder message with
  | ok params => exact calms params decoded
  | error failure => exact calm

/-- A query leaves the session calm when it has been answered. -/
theorem ask_calms (idle : session.pending = []) (coherent : session.workspace.Coherent) (id : Id)
    (query : Query) : (session.ask id query).Calms := by
  rw [Step.Calms, complete_ask idle]
  exact calm_of_coherent idle (Workspace.resolve_coherent coherent query).1

/-- The session is calm once it has started. -/
theorem start_calms (idle : session.pending = []) (coherent : session.workspace.Coherent)
    (options : Option Json) : (session.start options).Calms := by
  refine calm_of_coherent idle ?_
  change (session.start options).session.workspace.Coherent
  unfold start
  dsimp only [reply]
  split
  · rename_i configured
    obtain ⟨value, _, applied⟩ := Option.map_eq_some_iff.mp configured
    exact Workspace.configure_coherent coherent applied
  · exact coherent

/-- The session stays calm when it is configured. -/
theorem configure_calms (idle : session.pending = []) (coherent : session.workspace.Coherent)
    (value : Json) : (session.configure value).Calms := by
  unfold configure
  cases configured : session.workspace.configure value with
  | ok workspace => exact calm_of_coherent idle (Workspace.configure_coherent coherent configured)
  | error cause => exact calm_of_coherent idle coherent

/-- The session stays calm when it executes a command. -/
theorem execute_calms (idle : session.pending = []) (coherent : session.workspace.Coherent) (id : Id)
    (command : Command) : (session.execute id command).Calms := by
  cases command with
  | clearCache => exact calm_of_coherent idle (Workspace.clearCaches_coherent coherent)
  | cacheStats => exact calm_of_coherent idle coherent
  | supportedLanguages => exact calm_of_coherent idle coherent
  | listBlocks uri => exact ask_calms idle coherent id _

/-- Requests other than the last leave the workspace coherent. -/
theorem request_calms (idle : session.pending = []) (coherent : session.workspace.Coherent)
    (message : Message) (id : Id) (method : Method)
    (ending : method = .shutdown → session.lifecycle = .shutDown) :
    (session.request message id method).Calms := by
  have calm := calm_of_coherent idle coherent
  cases method with
  | initialization => exact withParams_calms calm fun options _ => start_calms idle coherent options
  | shutdown =>
      unfold request
      dsimp only
      split
      · refine ⟨idle, ?_⟩
        change session.lifecycle = _ ∨ session.lifecycle = _ → _
        rw [ending rfl]
        rintro (accepting | accepting) <;> cases accepting
      · exact calm
  | foldingRange => exact withParams_calms calm fun uri _ => ask_calms idle coherent id _
  | hover => exact withParams_calms calm fun place _ => ask_calms idle coherent id _
  | executeCommand =>
      refine withParams_calms calm fun order _ => ?_
      obtain ⟨name, arguments⟩ := order
      dsimp only
      cases Command.parse name arguments with
      | ok command => exact execute_calms idle coherent id command
      | error cause => exact calm
  | otherRequest params => exact withParams_calms calm fun _ _ => calm
  | _ => exact calm

/-- The session stays calm when a request is cancelled. -/
theorem cancel_calm (calm : session.Calm) (id : Id) : (session.cancel id).Calm := by
  refine ⟨?_, calm.coherent⟩
  rw [cancel, calm.idle]
  rfl

/-- The document that a message opens in this session. -/
def opened? (session : Session) (message : Message) : Option Document :=
  match session.lifecycle, message.id, Method.ofName? message.method with
  | .initialized, none, some .didOpen => (decode asOpened message).toOption
  | _, _, _ => none

/-- A message opens a document only if it is not open and its language has no number sign. -/
def Orderly (session : Session) (message : Message) : Prop :=
  ∀ document ∈ session.opened? message,
    session.workspace.document? document.uri = none ∧ '#' ∉ document.language.toList

instance (session : Session) (message : Message) : Decidable (session.Orderly message) :=
  inferInstanceAs (Decidable (∀ document ∈ session.opened? message, _))

/-- The session stays calm with every notification, if documents are opened in order. -/
theorem notify_calms (idle : session.pending = []) (coherent : session.workspace.Coherent)
    (message : Message) (method : Method)
    (orderly : method = .didOpen → ∀ document, decode asOpened message = .ok document →
      session.workspace.document? document.uri = none ∧ '#' ∉ document.language.toList) :
    (session.notify message method).Calms := by
  have calm := calm_of_coherent idle coherent
  cases method with
  | didOpen =>
      refine withParams_calms calm fun document decoded => calm_of_coherent idle ?_
      obtain ⟨closed, plain⟩ := orderly rfl document decoded
      exact Workspace.openDocument_coherent coherent closed plain
  | didChange =>
      exact withParams_calms calm fun change _ =>
        calm_of_coherent idle (Workspace.changeDocument_coherent coherent _ _ _)
  | didClose =>
      exact withParams_calms calm fun uri _ =>
        calm_of_coherent idle (Workspace.closeDocument_coherent coherent _)
  | didChangeConfiguration =>
      exact withParams_calms calm fun value _ => configure_calms idle coherent value
  | cancelRequest => exact withParams_calms calm fun id _ => cancel_calm calm id
  | _ => exact calm

/-- The session stays calm with a message if it does when that is a request or a notification. -/
theorem handle_calms (calm : session.Calm) (message : Message) (method : Method)
    (requests : ∀ id, message.id = some id → (session.request message id method).Calms)
    (notifies : message.id = none → (session.notify message method).Calms) :
    (session.handle message method).Calms := by
  unfold handle
  split
  · rename_i id request _
    exact requests id request
  · rename_i notification _
    exact notifies notification
  · exact calm
  · exact calm

/-- Most messages are handled only while the session is running. -/
theorem handle_running_calms (calm : session.Calm) {message : Message} {method : Method}
    (named : Method.ofName? message.method = some method) (orderly : session.Orderly message)
    (ordinary : method ≠ .shutdown) :
    (if session.lifecycle != .initialized then session.refuseNow message
      else if message.id.any session.isBusy then session.refuse message .invalidRequest
      else session.handle message method).Calms := by
  split
  · exact calm
  · rename_i initialized
    have ready : session.lifecycle = .initialized := by simpa using initialized
    have coherent := calm.coherent (Or.inr ready)
    split
    · exact calm
    · refine handle_calms calm message method ?_ ?_
      · intro id _
        exact request_calms calm.idle coherent message id method fun same => absurd same ordinary
      · intro notification
        refine notify_calms calm.idle coherent message method ?_
        intro same document decoded
        apply orderly document
        subst same
        simp [opened?, ready, notification, named, decoded, Except.toOption]

/-- The session stays calm with every message that is in order. -/
theorem dispatch_calms (calm : session.Calm) {message : Message} {method : Method}
    (named : Method.ofName? message.method = some method) (orderly : session.Orderly message) :
    (session.dispatch message method).Calms := by
  cases method with
  | exit =>
      refine ⟨?_, fun accepting => ?_⟩
      · change session.pending.map _ = []
        rw [calm.idle]
        rfl
      · rcases accepting with accepting | accepting <;> cases accepting
  | cancelRequest =>
      refine handle_calms calm message .cancelRequest (fun _ _ => calm) fun _ => ?_
      exact withParams_calms calm fun id _ => cancel_calm calm id
  | initialization =>
      unfold dispatch
      dsimp only
      split
      · rename_i unstarted
        have coherent := calm.coherent (Or.inl unstarted)
        refine handle_calms calm message .initialization ?_ fun _ => calm
        intro id _
        exact request_calms calm.idle coherent message id .initialization fun same => by cases same
      · exact calm
  | shutdown =>
      unfold dispatch
      dsimp only
      split
      · rename_i ready
        -- The tickets are about to be cancelled, but no question is taken from now on.
        have coherent := calm.coherent (Or.inr ready)
        have ended : Calm { session with lifecycle := .shutDown } :=
          calm_of_coherent calm.idle coherent
        refine handle_calms ended message .shutdown ?_ fun _ => ended
        intro id _
        exact request_calms ended.idle coherent message id .shutdown fun _ => rfl
      · exact calm
  | _ => exact handle_running_calms calm named orderly (by simp)

/-- A message leaves a calm session calm. -/
theorem receive_calm (calm : session.Calm) {message : Message} (orderly : session.Orderly message) :
    (session.receive message).session.Calm := by
  change (session.begin message).Calms
  unfold begin
  split
  · exact calm
  · split
    · rename_i named
      exact dispatch_calms calm named orderly
    · split <;> exact calm

/-- Time passes, expired entries are dropped, or a message comes and is waited for. -/
inductive Event where
  | wait (milliseconds : Nat)
  | sweep
  | receive (message : Message)

def step (session : Session) : Event → Session
  | .wait milliseconds => session.wait milliseconds
  | .sweep => { session with workspace := session.workspace.sweep }
  | .receive message => (session.receive message).session

def run (session : Session) (events : List Event) : Session :=
  events.foldl step session

/-- An event is admitted if it brings no message out of order. -/
def Admits (session : Session) : Event → Prop
  | .receive message => session.Orderly message
  | _ => True

instance (session : Session) (event : Event) : Decidable (session.Admits event) :=
  match event with
  | .receive message => inferInstanceAs (Decidable (session.Orderly message))
  | .wait _ => isTrue trivial
  | .sweep => isTrue trivial

/-- Every event is admitted when it comes. -/
def AdmitsAll (session : Session) : List Event → Prop
  | [] => True
  | event :: rest => session.Admits event ∧ (session.step event).AdmitsAll rest

instance decidableAdmitsAll (session : Session) : (events : List Event) →
    Decidable (session.AdmitsAll events)
  | [] => isTrue trivial
  | event :: rest =>
    have := decidableAdmitsAll (session.step event) rest
    inferInstanceAs (Decidable (session.Admits event ∧ (session.step event).AdmitsAll rest))

/-- The session stays calm with every event that is admitted. -/
theorem step_calm (calm : session.Calm) {event : Event} (admitted : session.Admits event) :
    (session.step event).Calm := by
  cases event with
  | wait milliseconds =>
      exact ⟨calm.idle, fun accepting =>
        Workspace.wait_coherent (calm.coherent accepting) milliseconds⟩
  | sweep => exact ⟨calm.idle, fun accepting => Workspace.sweep_coherent (calm.coherent accepting)⟩
  | receive message => exact receive_calm calm admitted

/-- The session stays calm in every run of events that are admitted. -/
theorem run_calm (calm : session.Calm) {events : List Event}
    (admitted : session.AdmitsAll events) : (session.run events).Calm := by
  induction events generalizing session with
  | nil => exact calm
  | cons event rest ih => exact ih (step_calm calm admitted.1) admitted.2

/-- A new session with quiet patterns is calm. -/
theorem new_calm {registry : Registry} (quiet : registry.Quiet) : (new registry).Calm :=
  calm_of_coherent rfl (Workspace.new_coherent quiet)

/-- The question that a command asks. -/
def commandQuery? (name : String) (arguments : List Json) : Option Query :=
  match Command.parse name arguments with
  | .ok (.listBlocks uri) => some (.blocks uri.text)
  | _ => none

/-- The question that a message asks. -/
def query? (message : Message) : Option Query :=
  match Method.ofName? message.method with
  | some .foldingRange =>
    (decode asFolding message).toOption.map fun uri => .folding uri.text
  | some .hover =>
    (decode asHover message).toOption.map fun (uri, position) => .hover uri.text position
  | some .executeCommand =>
    (decode asCommand message).toOption.bind fun (name, arguments) => commandQuery? name arguments
  | _ => none

theorem withParams_ok {α : Type} {message : Message} {decoder : Json.Decoder α} {params : α}
    (decoded : (decode decoder message).toOption = some params) (next : α → Step) :
    session.withParams message decoder next = next params := by
  unfold withParams
  cases parsed : decode decoder message with
  | error failure => rw [parsed] at decoded; cases decoded
  | ok found => rw [parsed] at decoded; cases decoded; rfl

/-- A running session in which nothing waits takes the requests that ask questions. -/
theorem begin_request (ready : session.lifecycle = .initialized) (idle : session.pending = [])
    {message : Message} {id : Id} (request : message.id = some id) {method : Method}
    (named : Method.ofName? message.method = some method)
    (asks : method = .foldingRange ∨ method = .hover ∨ method = .executeCommand) :
    session.begin message = session.request message id method := by
  have free : session.isBusy id = false := by simp [isBusy, idle]
  rcases asks with same | same | same <;> subst same <;>
    simp [begin, ready, named, dispatch, free, handle, request, Method.isNotification]

/-- It passes the questions on to its workspace. -/
theorem begin_question (ready : session.lifecycle = .initialized) (idle : session.pending = [])
    {message : Message} {id : Id} (request : message.id = some id) {query : Query}
    (asked : query? message = some query) : session.begin message = session.ask id query := by
  unfold query? at asked
  split at asked
  · rename_i named
    obtain ⟨uri, decoded, same⟩ := Option.map_eq_some_iff.mp asked
    subst same
    rw [begin_request ready idle request named (Or.inl rfl), Session.request, withParams_ok decoded]
  · rename_i named
    obtain ⟨⟨uri, position⟩, decoded, same⟩ := Option.map_eq_some_iff.mp asked
    subst same
    rw [begin_request ready idle request named (Or.inr (Or.inl rfl)), Session.request,
      withParams_ok decoded]
  · rename_i named
    obtain ⟨⟨name, arguments⟩, decoded, same⟩ := Option.bind_eq_some_iff.mp asked
    rw [begin_request ready idle request named (Or.inr (Or.inr rfl)), Session.request,
      withParams_ok decoded]
    dsimp only [commandQuery?] at same ⊢
    split at same
    · rename_i uri parsed
      cases same
      rw [parsed]
      rfl
    · cases same
  · cases asked

/-- The caches cannot be seen: whatever has happened before, a question about an open document is
answered from its present text, with the patterns and settings in force. -/
theorem run_receive_afresh {registry : Registry} (quiet : registry.Quiet) {events : List Event}
    (admitted : (new registry).AdmitsAll events)
    (ready : ((new registry).run events).lifecycle = .initialized) {message : Message} {id : Id}
    (request : message.id = some id) {query : Query} (asked : query? message = some query)
    {document : Document}
    (isOpen : ((new registry).run events).workspace.document? query.uri = some document) :
    (((new registry).run events).receive message).outcome =
      .done (some (replyOf query.uri
        (((new registry).run events).workspace.answerAfresh query document))) := by
  have calm := run_calm (new_calm quiet) admitted
  have coherent := calm.coherent (Or.inr ready)
  rw [receive_eq, begin_question ready calm.idle request asked, complete_ask calm.idle,
    (Workspace.resolve_coherent coherent query).2 document isOpen]
  rfl

/-- A message that opens a document at its first version. -/
def openingOf (uri text : String) : Message :=
  ⟨none, "textDocument/didOpen", some (.object [("textDocument", .object [
    ("languageId", .string "python"), ("text", .string text), ("uri", .string uri),
    ("version", .int 1)])])⟩

def messageAbout (uri : String) (id : Option Id) (method : String) : Message :=
  ⟨id, method, some (.object [("textDocument", .object [("uri", .string uri)])])⟩

/-- A message that writes a text at the start of a document, which gets its second version by
that. -/
def insertionInto (uri text : String) : Message :=
  let start : Json := .object [("character", .int 0), ("line", .int 0)]
  ⟨none, "textDocument/didChange", some (.object [
    ("contentChanges", .array [.object [
      ("range", .object [("end", start), ("start", start)]), ("text", .string text)]]),
    ("textDocument", .object [("uri", .string uri), ("version", .int 2)])])⟩

def foldingRequest (uri : String) (id : Nat) : Message :=
  messageAbout uri (some (.number id)) "textDocument/foldingRange"

/-- A document is closed, opened again at the same version with another text, and changed. The
preview is shortened at last. Before each of these steps the document is asked about. -/
def reopening : List Event := [
  .receive ⟨some (.number 1), "initialize", some (.object [("capabilities", .object [])])⟩,
  .receive (openingOf "file:///a.py" "\"\"\"One\n\"\"\""),
  .receive (foldingRequest "file:///a.py" 2),
  .wait 1000,
  .receive (messageAbout "file:///a.py" none "textDocument/didClose"),
  .receive (openingOf "file:///a.py" "one = 1\n\"\"\"Another\n\"\"\""),
  .sweep,
  .receive (foldingRequest "file:///a.py" 3),
  .receive (insertionInto "file:///a.py" "\n"),
  .receive (foldingRequest "file:///a.py" 4),
  .receive ⟨none, "workspace/didChangeConfiguration", some (.object [
    ("settings", .object [("maxPreviewLength", .int 5)])])⟩]

/-- The last answer comes from the changed text and the new settings. -/
theorem run_receive_afresh_reopened :
    (new Registry.builtin).AdmitsAll reopening ∧
      (((new Registry.builtin).run reopening).receive (foldingRequest "file:///a.py" 5)).outcome =
      .done (some (replyOf "file:///a.py" (.folding (some [⟨2, 0, 3, 3, some "An...".toList⟩])))) := by
  let changed : Document := ⟨"file:///a.py", "python", "\none = 1\n\"\"\"Another\n\"\"\"".toList, 2⟩
  have admitted : (new Registry.builtin).AdmitsAll reopening := by decide +kernel
  have ready : ((new Registry.builtin).run reopening).lifecycle = .initialized := by decide +kernel
  have asked : query? (foldingRequest "file:///a.py" 5) = some (.folding "file:///a.py") := by
    decide +kernel
  have isOpen : ((new Registry.builtin).run reopening).workspace.document? "file:///a.py" =
      some changed := by decide +kernel
  have found : ((new Registry.builtin).run reopening).workspace.answerAfresh
      (.folding "file:///a.py") changed =
      .folding (some [⟨2, 0, 3, 3, some "An...".toList⟩]) := by decide +kernel
  refine ⟨admitted, ?_⟩
  rw [← found]
  exact run_receive_afresh Registry.builtin_quiet admitted ready rfl asked isOpen

end Session

end DocBlocks
