/-
This file shows that the tokens of a document are all cancelled but the one in force, in whatever
order its requests and changes take their steps.
-/

import DocBlocks.Proofs.Workspace.Configuration

namespace DocBlocks

/-- A service that is in order stays so while it takes steps. -/
theorem Service.Consistent.of_ran {before after : Service}
    (consistent : Consistent (fun _ => True) before) (ran : ∃ events, after = before.run events) :
    Consistent (fun _ => True) after := by
  obtain ⟨events, rfl⟩ := ran
  exact run_consistent consistent events fun _ _ => trivial

/-- Tokens that are cancelled stay so. -/
theorem Service.run_grows {service : Service} (consistent : Consistent (fun _ => True) service)
    (events : List Event) :
    service.cancellation.Grows (service.run events).cancellation := by
  refine run_keeps (motive := fun next => service.cancellation.Grows next.cancellation)
    (fun next event consistent grown => grown.trans ?_) consistent (Cancellation.Grows.refl _) events
  rcases step_cases consistent event fun _ _ => trivial with ⟨on, _⟩ | ⟨_, renewed⟩
  · exact on.cancellation
  · exact renewed.persists.cancellation

namespace Workspace

/-- The token that is in force for a document. -/
def current? (workspace : Workspace) (uri : String) : Option Token :=
  (workspace.tickets.lookup uri).map Ticket.token

/-- What closing a document does after its searches have been cancelled. -/
def forget (workspace : Workspace) (uri : String) : Workspace :=
  { workspace with
    documents := workspace.documents.filter fun entry => entry.1 != uri
    service := (workspace.service.invalidateDocument uri).2
    folding := (workspace.folding.removeWhere (keyOfDocument uri)).2 }

/-- The service takes some steps, and the tickets stay as they are. -/
structure Passes (before after : Workspace) : Prop where
  tickets : after.tickets = before.tickets
  service : ∃ events, after.service = before.service.run events

theorem Passes.of_eq {before after : Workspace} (tickets : after.tickets = before.tickets)
    (service : after.service = before.service) : Passes before after :=
  ⟨tickets, [], service⟩

theorem Passes.of_step {before after : Workspace} (event : Service.Event)
    (tickets : after.tickets = before.tickets)
    (service : after.service = before.service.step event) : Passes before after :=
  ⟨tickets, [event], service⟩

theorem Passes.trans {first second third : Workspace} (early : Passes first second)
    (late : Passes second third) : Passes first third := by
  obtain ⟨former, formerRun⟩ := early.service
  obtain ⟨latter, latterRun⟩ := late.service
  refine ⟨late.tickets.trans early.tickets, former ++ latter, ?_⟩
  rw [Service.run_append, ← formerRun, latterRun]

/-- Answers are made without new tickets. -/
theorem answerFrom_passes (workspace : Workspace) (waiting : Query.Waiting) (blocks : List Block) :
    Passes workspace (workspace.answerFrom waiting blocks).2 := by
  unfold answerFrom
  split
  · unfold rememberFolding
    dsimp only
    split <;> exact Passes.of_eq rfl rfl
  · exact Passes.of_eq rfl rfl
  · exact Passes.of_eq rfl rfl

/-- A poll gives no new ticket. -/
theorem poll_passes (workspace : Workspace) (waiting : Query.Waiting) :
    Passes workspace (workspace.poll waiting).2 := by
  unfold poll
  split
  · have dropped : Passes workspace
        { workspace with service := workspace.service.drop waiting.call } :=
      Passes.of_step (.drop waiting.call) rfl rfl
    exact dropped.trans (answerFrom_passes _ waiting _)
  · exact Passes.of_eq rfl rfl

/-- Waiting for an answer gives no new ticket. -/
theorem await_passes (workspace : Workspace) (waiting : Query.Waiting) :
    Passes workspace (workspace.await waiting).2 := by
  have finished : Passes workspace
      { workspace with service := (workspace.service.finish waiting.call).2 } :=
    Passes.of_step (.finish waiting.call) rfl rfl
  exact finished.trans (answerFrom_passes _ waiting _)

/-- A configuration gives no new ticket. -/
theorem configure_passes (workspace : Workspace) (value : Json) :
    Passes workspace ((workspace.configure value).toOption.getD workspace) := by
  cases read : Settings.ofValue value with
  | error cause =>
      rw [configure_refused read]
      exact Passes.of_eq rfl rfl
  | ok settings =>
      obtain ⟨service, applied, configured⟩ := workspace.configure_read read
      rw [configured]
      refine Passes.of_step (.apply settings) rfl ?_
      rw [Service.step, applied]
      rfl

/-- The end of the session gives no new ticket. -/
theorem shutDown_passes (workspace : Workspace) : Passes workspace workspace.shutDown :=
  ⟨rfl, workspace.shutDown_proceeds.service⟩

/-- Tokens that are cancelled stay so, and a token that is no longer in force is cancelled. -/
structure Replaces (before after : Workspace) : Prop where
  grows : before.service.cancellation.Grows after.service.cancellation
  cancels : ∀ uri token, before.current? uri = some token →
    after.current? uri = some token ∨ after.service.isCancelled token = true

/-- Tokens stay in force without new tickets. -/
theorem Passes.replaces {before after : Workspace} (passes : Passes before after)
    (consistent : Service.Consistent (fun _ => True) before.service) : Replaces before after := by
  refine ⟨?_, fun uri token inForce => Or.inl ?_⟩
  · obtain ⟨events, ran⟩ := passes.service
    rw [ran]
    exact Service.run_grows consistent events
  · rw [current?, passes.tickets]
    exact inForce

/-- One ticket is set, and the others are as they were. -/
theorem setTicket_current? (workspace : Workspace) (uri other : String) (ticket : Ticket) :
    (workspace.setTicket uri ticket).current? other =
      if other = uri then some ticket.token else workspace.current? other := by
  rw [current?, setTicket, lookup_cons, lookup_filter]
  split <;> rfl

/-- No token of the document is in force any more. -/
theorem cancelSearches_current? (workspace : Workspace) (uri other : String) :
    (workspace.cancelSearches uri).current? other =
      if other = uri then none else workspace.current? other := by
  unfold cancelSearches
  cases found : workspace.tickets.lookup uri with
  | none =>
      dsimp only
      split
      · rename_i same
        rw [current?, same, found]
        rfl
      · rfl
  | some ticket =>
      dsimp only
      rw [current?, lookup_filter]
      split <;> rfl

/-- Tokens that are taken out of force with a document's searches are cancelled. -/
theorem cancelSearches_replaces (workspace : Workspace) (uri : String) :
    Replaces workspace (workspace.cancelSearches uri) := by
  refine ⟨?_, fun other token inForce => ?_⟩
  · unfold cancelSearches
    split
    · exact Cancellation.Grows.refl _
    · exact workspace.service.cancellation.cancel_grows _
  · rw [cancelSearches_current?]
    split
    · rename_i same
      subst same
      right
      obtain ⟨ticket, found, rfl⟩ := Option.map_eq_some_iff.mp inForce
      rw [cancelSearches, found]
      exact (Cancellation.cancel_isCancelled _ _ _).trans (by simp)
    · exact Or.inl inForce

/-- The token that a request is given is in force from then on. -/
theorem token_current? (workspace : Workspace) (uri : String) (version : Int) :
    (workspace.token uri version).2.current? uri = some (workspace.token uri version).1 := by
  have issued (before : Workspace) : (before.issueTicket uri version).2.current? uri =
      some (before.issueTicket uri version).1 :=
    (setTicket_current? _ uri uri _).trans (if_pos rfl)
  unfold token
  split
  · exact issued workspace
  · rename_i ticket found
    split
    · exact issued _
    · rw [current?, found]
      rfl

/-- A token that a new one replaces is cancelled. -/
theorem token_replaces (workspace : Workspace) (uri : String) (version : Int) :
    Replaces workspace (workspace.token uri version).2 := by
  unfold token
  split
  · rename_i missing
    refine ⟨workspace.service.cancellation.issue_grows, fun other token inForce => Or.inl ?_⟩
    change (setTicket _ uri _).current? other = _
    rw [setTicket_current?, if_neg, ← inForce]
    · rfl
    · rintro rfl
      rw [current?, missing] at inForce
      cases inForce
  · rename_i ticket found
    split
    · refine ⟨(workspace.service.cancellation.cancel_grows ticket.token).trans
        (Cancellation.issue_grows _), fun other token inForce => ?_⟩
      change (setTicket _ uri _).current? other = _ ∨ _
      rw [setTicket_current?]
      split
      · rename_i same
        subst same
        rw [current?, found] at inForce
        cases inForce
        exact Or.inr ((Cancellation.cancel_isCancelled _ _ _).trans (by simp))
      · exact Or.inl inForce
    · exact ⟨Cancellation.Grows.refl _, fun _ _ inForce => Or.inl inForce⟩

end Workspace

/-- A workspace, and the tokens that requests about its documents have been given so far. -/
structure Ledger where
  workspace : Workspace
  given : List (String × Token) := []

namespace Ledger

open Workspace (Passes)

/-- The steps of requests and notifications. Each may be followed by steps of others. -/
inductive Event where
  /-- Something happens to the service: a search is begun, polled or dropped, the worker answers, or
  time passes. -/
  | service (event : Service.Event)
  /-- A request for folding ranges looks whether they are remembered. -/
  | lookUpFolding (key : String)
  /-- A request is given the token for the version of the document that it has seen. The document
  may have another version by now, or be closed. -/
  | token (uri : String) (version : Int)
  | poll (waiting : Query.Waiting)
  | await (waiting : Query.Waiting)
  | giveUp (waiting : Query.Waiting)
  /-- A notification that a document is opened, changed or closed cancels its searches first. -/
  | cancelSearches (uri : String)
  /-- A document that has been opened or changed is stored. -/
  | setDocument (uri : String) (document : Document)
  /-- A document that has been closed is forgotten. -/
  | forget (uri : String)
  | configure (value : Json)
  | clearCaches
  | sweep
  | shutDown

def step (ledger : Ledger) : Event → Ledger
  | .service event => { ledger with workspace.service := ledger.workspace.service.step event }
  | .lookUpFolding key =>
    { ledger with
      workspace.folding := (ledger.workspace.folding.get ledger.workspace.service.now key).2 }
  | .token uri version =>
    let (token, workspace) := ledger.workspace.token uri version
    ⟨workspace, ledger.given ++ [(uri, token)]⟩
  | .poll waiting => { ledger with workspace := (ledger.workspace.poll waiting).2 }
  | .await waiting => { ledger with workspace := (ledger.workspace.await waiting).2 }
  | .giveUp waiting => { ledger with workspace := ledger.workspace.giveUp waiting }
  | .cancelSearches uri => { ledger with workspace := ledger.workspace.cancelSearches uri }
  | .setDocument uri document => { ledger with workspace := ledger.workspace.setDocument uri document }
  | .forget uri => { ledger with workspace := ledger.workspace.forget uri }
  | .configure value =>
    { ledger with workspace := (ledger.workspace.configure value).toOption.getD ledger.workspace }
  | .clearCaches => { ledger with workspace := ledger.workspace.clearCaches }
  | .sweep => { ledger with workspace := ledger.workspace.sweep }
  | .shutDown => { ledger with workspace := ledger.workspace.shutDown }

def run (ledger : Ledger) (events : List Event) : Ledger :=
  events.foldl step ledger

variable {ledger : Ledger}

/-- Events that neither cancel searches nor give a token leave the tickets. -/
theorem step_passes (ledger : Ledger) {event : Event}
    (keeps : ∀ uri, event ≠ .cancelSearches uri)
    (gives : ∀ uri version, event ≠ .token uri version) :
    Passes ledger.workspace (ledger.step event).workspace ∧
      (ledger.step event).given = ledger.given := by
  cases event with
  | service event => exact ⟨Passes.of_step event rfl rfl, rfl⟩
  | lookUpFolding key => exact ⟨Passes.of_eq rfl rfl, rfl⟩
  | token uri version => exact absurd rfl (gives uri version)
  | poll waiting => exact ⟨ledger.workspace.poll_passes waiting, rfl⟩
  | await waiting => exact ⟨ledger.workspace.await_passes waiting, rfl⟩
  | giveUp waiting => exact ⟨Passes.of_step (.drop waiting.call) rfl rfl, rfl⟩
  | cancelSearches uri => exact absurd rfl (keeps uri)
  | setDocument uri document => exact ⟨Passes.of_eq rfl rfl, rfl⟩
  | forget uri => exact ⟨Passes.of_step (.invalidateDocument uri) rfl rfl, rfl⟩
  | configure value => exact ⟨ledger.workspace.configure_passes value, rfl⟩
  | clearCaches => exact ⟨Passes.of_step .clear rfl rfl, rfl⟩
  | sweep => exact ⟨Passes.of_step .cleanup rfl rfl, rfl⟩
  | shutDown => exact ⟨ledger.workspace.shutDown_passes, rfl⟩

/-- A token that has been given for a document is in force, or it is cancelled. -/
structure Orderly (ledger : Ledger) : Prop where
  consistent : Service.Consistent (fun _ => True) ledger.workspace.service
  superseded : ∀ uri token, (uri, token) ∈ ledger.given →
    ledger.workspace.current? uri = some token ∨ ledger.workspace.service.isCancelled token = true

/-- A step keeps order if it replaces tokens properly and gives none but those in force. -/
theorem Orderly.replace (orderly : ledger.Orderly) {after : Ledger}
    (consistent : Service.Consistent (fun _ => True) after.workspace.service)
    (replaces : ledger.workspace.Replaces after.workspace)
    (given : ∀ uri token, (uri, token) ∈ after.given → (uri, token) ∈ ledger.given ∨
      after.workspace.current? uri = some token) : after.Orderly := by
  refine ⟨consistent, fun uri token member => ?_⟩
  rcases given uri token member with old | new
  · rcases orderly.superseded uri token old with inForce | cancelled
    · exact replaces.cancels uri token inForce
    · exact Or.inr (replaces.grows token cancelled)
  · exact Or.inl new

/-- Every event leaves the tokens in order. -/
theorem step_orderly (orderly : ledger.Orderly) (event : Event) : (ledger.step event).Orderly := by
  have consistent := orderly.consistent
  -- Only two kinds of steps touch the tickets. All others are steps of the service at most.
  by_cases cancels : ∃ uri, event = .cancelSearches uri
  · obtain ⟨uri, rfl⟩ := cancels
    exact orderly.replace (consistent.of_ran (ledger.workspace.cancelSearches_proceeds uri).service)
      (ledger.workspace.cancelSearches_replaces uri) fun _ _ member => Or.inl member
  by_cases gives : ∃ uri version, event = .token uri version
  · obtain ⟨uri, version, rfl⟩ := gives
    refine orderly.replace (consistent.of_ran (ledger.workspace.token_proceeds uri version).service)
      (ledger.workspace.token_replaces uri version) fun other token member => ?_
    rcases List.mem_append.mp member with old | new
    · exact Or.inl old
    · cases List.mem_singleton.mp new
      exact Or.inr (ledger.workspace.token_current? uri version)
  · obtain ⟨passes, same⟩ := ledger.step_passes (not_exists.mp cancels)
      fun uri version given => gives ⟨uri, version, given⟩
    exact orderly.replace (consistent.of_ran passes.service) (passes.replaces consistent)
      fun _ _ member => Or.inl (same ▸ member)

/-- Every run leaves the tokens in order. -/
theorem run_orderly (orderly : ledger.Orderly) (events : List Event) :
    (ledger.run events).Orderly := by
  induction events generalizing ledger with
  | nil => exact orderly
  | cons event events ih => exact ih (step_orderly orderly event)

/-- At most one token of a document is not cancelled. -/
theorem Orderly.unique (orderly : ledger.Orderly) {uri : String} {first second : Token}
    (firstGiven : (uri, first) ∈ ledger.given) (secondGiven : (uri, second) ∈ ledger.given)
    (firstLive : ledger.workspace.service.isCancelled first = false)
    (secondLive : ledger.workspace.service.isCancelled second = false) : first = second := by
  have inForce {token : Token} (given : (uri, token) ∈ ledger.given)
      (live : ledger.workspace.service.isCancelled token = false) :
      ledger.workspace.current? uri = some token :=
    (orderly.superseded uri token given).resolve_right fun cancelled =>
      Bool.false_ne_true (live.symm.trans cancelled)
  exact Option.some.inj ((inForce firstGiven firstLive).symm.trans (inForce secondGiven secondLive))

/-- Once the searches of a document are cancelled, all its tokens are. -/
theorem Orderly.cancelSearches (orderly : ledger.Orderly) {uri : String} {token : Token}
    (given : (uri, token) ∈ ledger.given) :
    (ledger.workspace.cancelSearches uri).service.isCancelled token = true := by
  have after := (step_orderly orderly (.cancelSearches uri)).superseded uri token given
  refine after.resolve_left fun inForce => ?_
  change (ledger.workspace.cancelSearches uri).current? uri = some token at inForce
  rw [Workspace.cancelSearches_current?, if_pos rfl] at inForce
  cases inForce

/-- No token has been given in a new workspace. -/
theorem new_orderly (registry : Registry) (earlier : List Service.Event) :
    Orderly { workspace := Workspace.new ((Service.new registry).run earlier) } :=
  ⟨Service.run_consistent (Service.new_consistent registry) earlier fun _ _ => trivial,
    fun _ _ => fun absent => absurd absent List.not_mem_nil⟩

/-- A search takes its token, begins and is polled. -/
theorem search_steps (ledger : Ledger) (query : Query) (snapshot : Snapshot) :
    ∃ events, (ledger.run events).workspace = (ledger.workspace.search query snapshot).2 := by
  let ticket := ledger.workspace.token query.uri snapshot.version
  let begun := ticket.2.service.begin snapshot ticket.1
  exact ⟨[.token query.uri snapshot.version, .service (.begin snapshot ticket.1),
    .poll ⟨query, snapshot, ticket.1, begun.1, ticket.2.epoch⟩], rfl⟩

/-- A question is asked in steps: ranges are looked up, a token is taken, and a search is begun. -/
theorem ask_steps (ledger : Ledger) (query : Query) :
    ∃ events, (ledger.run events).workspace = (ledger.workspace.ask query).2 := by
  unfold Workspace.ask
  split
  · exact ⟨[], rfl⟩
  · rename_i document _
    split
    · have looked : (ledger.step (.lookUpFolding document.snapshot.key)).workspace =
          { ledger.workspace with folding := (ledger.workspace.folding.get
            ledger.workspace.service.now document.snapshot.key).2 } := rfl
      unfold Workspace.lookUpFolding
      split
      · rename_i found
        rw [found] at looked
        exact ⟨[.lookUpFolding document.snapshot.key], looked⟩
      · rename_i missing
        rw [missing] at looked
        obtain ⟨events, ran⟩ := (ledger.step (.lookUpFolding document.snapshot.key)).search_steps _
          document.snapshot
        exact ⟨.lookUpFolding document.snapshot.key :: events, looked ▸ ran⟩
    · split
      · exact ledger.search_steps _ _
      · exact ⟨[], rfl⟩
    · exact ledger.search_steps _ _

/-- What is done with a workspace at once can be done in steps. -/
theorem desk_steps (ledger : Ledger) (pending : List Query.Waiting) (event : Desk.Event) :
    ∃ events, (ledger.run events).workspace =
      ((Desk.mk ledger.workspace pending).step event).workspace := by
  have file (outcome : Query.State × Workspace) (others : List Query.Waiting) :
      (Desk.file others outcome).workspace = outcome.2 := by
    obtain ⟨state, workspace⟩ := outcome
    cases state <;> rfl
  cases event with
  | service event => exact ⟨[.service event], rfl⟩
  | ask query =>
      obtain ⟨events, ran⟩ := ledger.ask_steps query
      exact ⟨events, ran.trans (file _ _).symm⟩
  | poll call =>
      refine Desk.resume_cases (motive := fun next => ∃ events, (ledger.run events).workspace =
        next.workspace) call _ ⟨[], rfl⟩ fun waiting _ others _ => ⟨[.poll waiting], ?_⟩
      exact (file _ _).symm
  | await call =>
      exact Desk.resume_cases (motive := fun next => ∃ events, (ledger.run events).workspace =
        next.workspace) call _ ⟨[], rfl⟩ fun waiting _ others _ => ⟨[.await waiting], rfl⟩
  | giveUp call =>
      exact Desk.resume_cases (motive := fun next => ∃ events, (ledger.run events).workspace =
        next.workspace) call _ ⟨[], rfl⟩ fun waiting _ others _ => ⟨[.giveUp waiting], rfl⟩
  | openDocument document =>
      exact ⟨[.cancelSearches document.uri, .setDocument document.uri document], rfl⟩
  | changeDocument uri version edits =>
      change ∃ events, _ = ledger.workspace.changeDocument uri version edits
      unfold Workspace.changeDocument
      split
      · exact ⟨[], rfl⟩
      · dsimp only
        split
        · rename_i changed _
          exact ⟨[.cancelSearches uri, .setDocument uri changed], rfl⟩
        · exact ⟨[.cancelSearches uri], rfl⟩
  | closeDocument uri => exact ⟨[.cancelSearches uri, .forget uri], rfl⟩
  | configure value => exact ⟨[.configure value], rfl⟩
  | clearCaches => exact ⟨[.clearCaches], rfl⟩
  | sweep => exact ⟨[.sweep], rfl⟩
  | shutDown => exact ⟨[.shutDown], rfl⟩

/-- What a desk does can be recorded in a ledger. -/
theorem desk_run_steps (ledger : Ledger) (desk : Desk) (same : desk.workspace = ledger.workspace)
    (requests : List Desk.Event) :
    ∃ events, (ledger.run events).workspace = (desk.run requests).workspace := by
  induction requests generalizing ledger desk with
  | nil => exact ⟨[], same.symm⟩
  | cons request requests ih =>
      obtain ⟨first, stepped⟩ := ledger.desk_steps desk.pending request
      rw [← same] at stepped
      obtain ⟨rest, ran⟩ := ih (ledger.run first) (desk.step request) stepped.symm
      exact ⟨first ++ rest, by rw [run, List.foldl_append]; exact ran⟩

/-- All tokens that have been given for the document are cancelled. -/
def Withdrawn (ledger : Ledger) (uri : String) (workspace : Workspace) : Prop :=
  ∀ token, (uri, token) ∈ ledger.given → workspace.service.isCancelled token = true

/-- Whatever steps the requests and notifications have taken so far, a token that has been given for
a document is cancelled unless it is the one in force, so that no two of them are not cancelled.
When the document is opened, changed or closed, all of them are. What is done with a workspace at
once can be done in such steps. -/
theorem superseded_tokens_cancelled (registry : Registry) (earlier : List Service.Event)
    (events : List Event) :
    let ledger := run { workspace := Workspace.new ((Service.new registry).run earlier) } events
    let workspace := ledger.workspace
    (∀ uri token, (uri, token) ∈ ledger.given → workspace.current? uri ≠ some token →
        workspace.service.isCancelled token = true) ∧
      (∀ uri first second, (uri, first) ∈ ledger.given → (uri, second) ∈ ledger.given →
        workspace.service.isCancelled first = false → workspace.service.isCancelled second = false →
        first = second) ∧
      (∀ uri, ledger.Withdrawn uri (workspace.cancelSearches uri) ∧
        ledger.Withdrawn uri (workspace.closeDocument uri) ∧
        (∀ document, document.uri = uri → ledger.Withdrawn uri (workspace.openDocument document)) ∧
        ∀ version edits, (workspace.document? uri).isSome →
          ledger.Withdrawn uri (workspace.changeDocument uri version edits)) ∧
      ∀ (desk : Desk) requests, desk.workspace = workspace →
        ∃ steps, (ledger.run steps).workspace = (desk.run requests).workspace := by
  intro ledger workspace
  have orderly : ledger.Orderly := run_orderly (new_orderly registry earlier) events
  have withdrawn (uri : String) : ledger.Withdrawn uri (workspace.cancelSearches uri) :=
    fun token given => orderly.cancelSearches given
  refine ⟨fun uri token given replaced => ?_, fun uri first second => orderly.unique,
    fun uri => ⟨withdrawn uri, withdrawn uri, ?_, fun version edits present => ?_⟩,
    fun desk requests same => ledger.desk_run_steps desk same requests⟩
  · exact (orderly.superseded uri token given).resolve_left replaced
  · rintro document rfl
    exact withdrawn document.uri
  · obtain ⟨document, found⟩ := Option.isSome_iff_exists.mp present
    intro token given
    have cancelled := withdrawn uri token given
    unfold Workspace.changeDocument
    rw [found]
    dsimp only
    split
    · exact cancelled
    · exact cancelled

/-- A request for the second version is given a token, then the document changes. A late request for
the first version brings a ticket back, and is superseded in turn. -/
theorem superseded_tokens_cancelled_late :
    let ledger := run { workspace := Workspace.new ((Service.new Registry.builtin).run []) }
      [.token "a" 2, .cancelSearches "a", .token "a" 1, .token "a" 2, .token "a" 1]
    ledger.given = [("a", 0), ("a", 1), ("a", 2), ("a", 2)] ∧
      ledger.workspace.current? "a" = some 2 ∧
      ledger.workspace.service.isCancelled 2 = false ∧
      ledger.workspace.service.isCancelled 0 = true ∧
      ledger.workspace.service.isCancelled 1 = true ∧
      (ledger.workspace.closeDocument "a").service.isCancelled 2 = true := by
  intro ledger
  have given : ledger.given = [("a", 0), ("a", 1), ("a", 2), ("a", 2)] := by decide +kernel
  have inForce : ledger.workspace.current? "a" = some 2 := by decide +kernel
  obtain ⟨superseded, _, withdrawn, _⟩ := superseded_tokens_cancelled Registry.builtin []
    [.token "a" 2, .cancelSearches "a", .token "a" 1, .token "a" 2, .token "a" 1]
  refine ⟨given, inForce, by decide +kernel, superseded "a" 0 ?_ ?_, superseded "a" 1 ?_ ?_,
    (withdrawn "a").2.1 2 ?_⟩ <;> decide +kernel

end Ledger

end DocBlocks
