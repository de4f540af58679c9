/-
This file shows that settings are applied to a workspace as a whole or not at all, whatever is being
searched for and asked at that moment.
-/

import DocBlocks.Proofs.Service.Renewal
import DocBlocks.Proofs.Workspace.Coherence

namespace DocBlocks

/-- A workspace and the questions that wait for their answers. -/
structure Desk where
  workspace : Workspace
  pending : List Query.Waiting := []

namespace Desk

/-- What may happen to a workspace. -/
inductive Event where
  /-- Something happens to the service: the worker answers, time passes, or somebody else uses
  it. -/
  | service (event : Service.Event)
  | ask (query : Query)
  | poll (call : Nat)
  | await (call : Nat)
  | giveUp (call : Nat)
  | openDocument (document : Document)
  | changeDocument (uri : String) (version : Int) (edits : List Edit)
  | closeDocument (uri : String)
  /-- Settings are applied, or refused if they cannot be read. -/
  | configure (value : Json)
  | clearCaches
  | sweep
  | shutDown

/-- Files a question that is not answered yet. -/
def file (pending : List Query.Waiting) : Query.State × Workspace → Desk
  | (.waiting waiting, workspace) => { workspace, pending := pending ++ [waiting] }
  | (.answered _, workspace) => { workspace, pending }

/-- Goes on with the question of a call. -/
def resume (desk : Desk) (call : Nat)
    (next : Query.Waiting → List Query.Waiting → Desk) : Desk :=
  match desk.pending.find? (·.call == call) with
  | none => desk
  | some waiting => next waiting (desk.pending.filter (·.call != call))

def step (desk : Desk) : Event → Desk
  | .service event =>
    { desk with workspace.service := desk.workspace.service.step event }
  | .ask query => file desk.pending (desk.workspace.ask query)
  | .poll call => desk.resume call fun waiting others => file others (desk.workspace.poll waiting)
  | .await call => desk.resume call fun waiting others => ⟨(desk.workspace.await waiting).2, others⟩
  | .giveUp call => desk.resume call fun waiting others => ⟨desk.workspace.giveUp waiting, others⟩
  | .openDocument document => { desk with workspace := desk.workspace.openDocument document }
  | .changeDocument uri version edits =>
    { desk with workspace := desk.workspace.changeDocument uri version edits }
  | .closeDocument uri => { desk with workspace := desk.workspace.closeDocument uri }
  | .configure value =>
    { desk with workspace := (desk.workspace.configure value).toOption.getD desk.workspace }
  | .clearCaches => { desk with workspace := desk.workspace.clearCaches }
  | .sweep => { desk with workspace := desk.workspace.sweep }
  | .shutDown => { desk with workspace := desk.workspace.shutDown }

def run (desk : Desk) (events : List Event) : Desk :=
  events.foldl step desk

end Desk

namespace Workspace

variable {workspace : Workspace}

/-- The service of a workspace takes some steps, and the cache of folding ranges may be replaced. -/
structure Proceeds (before after : Workspace) : Prop where
  service : ∃ events, after.service = before.service.run events
  epoch : before.epoch ≤ after.epoch

/-- A workspace proceeds by one step of its service. -/
theorem Proceeds.of_step {before after : Workspace} (event : Service.Event)
    (service : after.service = before.service.step event) (epoch : after.epoch = before.epoch) :
    Proceeds before after :=
  ⟨⟨[event], service⟩, Nat.le_of_eq epoch.symm⟩

/-- A workspace with the same service and the same time has proceeded. -/
theorem Proceeds.of_eq {before after : Workspace} (service : after.service = before.service)
    (epoch : after.epoch = before.epoch) : Proceeds before after :=
  ⟨⟨[], service⟩, Nat.le_of_eq epoch.symm⟩

/-- A workspace that has proceeded may proceed further. -/
theorem Proceeds.trans {first second third : Workspace} (early : Proceeds first second)
    (late : Proceeds second third) : Proceeds first third := by
  obtain ⟨former, formerRun⟩ := early.service
  obtain ⟨latter, latterRun⟩ := late.service
  refine ⟨⟨former ++ latter, ?_⟩, Nat.le_trans early.epoch late.epoch⟩
  rw [Service.run_append, ← formerRun, latterRun]

/-- Cancelling the searches of a document takes steps of the service only. -/
theorem cancelSearches_proceeds (workspace : Workspace) (uri : String) :
    Proceeds workspace (workspace.cancelSearches uri) := by
  unfold cancelSearches
  split
  · exact Proceeds.of_eq rfl rfl
  · rename_i ticket _
    exact Proceeds.of_step (.cancel ticket.token) rfl rfl

/-- A token is given by steps of the service. That of an older version is cancelled. -/
theorem token_proceeds (workspace : Workspace) (uri : String) (version : Int) :
    Proceeds workspace (workspace.token uri version).2 := by
  unfold token
  split
  · exact Proceeds.of_step .issueToken rfl rfl
  · rename_i ticket _
    split
    · have cancelled : Proceeds workspace
          { workspace with service := workspace.service.cancel ticket.token } :=
        Proceeds.of_step (.cancel ticket.token) rfl rfl
      exact cancelled.trans (Proceeds.of_step .issueToken rfl rfl)
    · exact Proceeds.of_eq rfl rfl

/-- Folding ranges are remembered without any step of the service. -/
theorem rememberFolding_proceeds (workspace : Workspace) (waiting : Query.Waiting)
    (ranges : List FoldingRange) : Proceeds workspace (workspace.rememberFolding waiting ranges) := by
  unfold rememberFolding
  split
  · exact Proceeds.of_eq rfl rfl
  · exact Proceeds.of_eq rfl rfl

/-- The answer is made from blocks without any step of the service. -/
theorem answerFrom_proceeds (workspace : Workspace) (waiting : Query.Waiting) (blocks : List Block) :
    Proceeds workspace (workspace.answerFrom waiting blocks).2 := by
  unfold answerFrom
  split
  · exact rememberFolding_proceeds workspace waiting _
  · exact Proceeds.of_eq rfl rfl
  · exact Proceeds.of_eq rfl rfl

/-- No question stems from a later time than the cache of folding ranges. -/
def Dated (epoch : Nat) (state : Query.State) : Prop :=
  ∀ waiting, state = .waiting waiting → waiting.epoch ≤ epoch

/-- A poll takes steps of the service, and the question keeps its time. -/
theorem poll_proceeds (workspace : Workspace) (waiting : Query.Waiting)
    (dated : waiting.epoch ≤ workspace.epoch) :
    Proceeds workspace (workspace.poll waiting).2 ∧
      Dated (workspace.poll waiting).2.epoch (workspace.poll waiting).1 := by
  unfold poll
  split
  · have dropped : Proceeds workspace
        { workspace with service := workspace.service.drop waiting.call } :=
      Proceeds.of_step (.drop waiting.call) rfl rfl
    exact ⟨dropped.trans (answerFrom_proceeds _ waiting _), fun _ absent => by cases absent⟩
  · refine ⟨Proceeds.of_eq rfl rfl, ?_⟩
    rintro _ ⟨⟩
    exact dated

/-- A search takes steps of the service, and its question has the time at which it is asked. -/
theorem search_proceeds (workspace : Workspace) (query : Query) (snapshot : Snapshot) :
    Proceeds workspace (workspace.search query snapshot).2 ∧
      Dated (workspace.search query snapshot).2.epoch (workspace.search query snapshot).1 := by
  have issued := token_proceeds workspace query.uri snapshot.version
  unfold search
  dsimp only
  generalize workspace.token query.uri snapshot.version = ticket at issued ⊢
  have begun : Proceeds ticket.2
      { ticket.2 with service := (ticket.2.service.begin snapshot ticket.1).2 } :=
    Proceeds.of_step (.begin snapshot ticket.1) rfl rfl
  obtain ⟨polled, dated⟩ := poll_proceeds
    { ticket.2 with service := (ticket.2.service.begin snapshot ticket.1).2 }
    ⟨query, snapshot, ticket.1, (ticket.2.service.begin snapshot ticket.1).1, ticket.2.epoch⟩
    (Nat.le_refl _)
  exact ⟨(issued.trans begun).trans polled, dated⟩

/-- Every question takes steps of the service only, and has the time at which it is asked. -/
theorem ask_proceeds (workspace : Workspace) (query : Query) :
    Proceeds workspace (workspace.ask query).2 ∧
      Dated (workspace.ask query).2.epoch (workspace.ask query).1 := by
  have answered (after : Workspace) (answer : Query.Answer) : Dated after.epoch (.answered answer) :=
    fun _ absent => by cases absent
  unfold ask
  split
  · exact ⟨Proceeds.of_eq rfl rfl, answered _ _⟩
  · split
    · unfold lookUpFolding
      split
      · exact ⟨Proceeds.of_eq rfl rfl, answered _ _⟩
      · obtain ⟨searched, dated⟩ := search_proceeds { workspace with folding := _ } _ _
        exact ⟨⟨searched.service, searched.epoch⟩, dated⟩
    · split
      · exact search_proceeds workspace _ _
      · exact ⟨Proceeds.of_eq rfl rfl, answered _ _⟩
    · exact search_proceeds workspace _ _

/-- An answer that is waited for takes steps of the service only. -/
theorem await_proceeds (workspace : Workspace) (waiting : Query.Waiting) :
    Proceeds workspace (workspace.await waiting).2 := by
  have finished : Proceeds workspace
      { workspace with service := (workspace.service.finish waiting.call).2 } :=
    Proceeds.of_step (.finish waiting.call) rfl rfl
  exact finished.trans (answerFrom_proceeds _ waiting _)

/-- A change of a document takes steps of the service only. -/
theorem changeDocument_proceeds (workspace : Workspace) (uri : String) (version : Int)
    (edits : List Edit) : Proceeds workspace (workspace.changeDocument uri version edits) := by
  have cancelled := cancelSearches_proceeds workspace uri
  unfold changeDocument
  split
  · exact Proceeds.of_eq rfl rfl
  · dsimp only
    split
    · exact ⟨cancelled.service, cancelled.epoch⟩
    · exact cancelled

/-- The end of the session takes steps of the service only. -/
theorem shutDown_proceeds (workspace : Workspace) : Proceeds workspace workspace.shutDown := by
  refine ⟨⟨(workspace.tickets.map fun entry => entry.2.token).map Service.Event.cancel, ?_⟩,
    Nat.le_refl _⟩
  rw [Service.run, List.foldl_map]
  rfl

/-- Settings that can not be read are refused for the cause that reading gives. -/
theorem configure_refused {value : Json} {cause : SettingsError}
    (unread : Settings.ofValue value = .error cause) : workspace.configure value = .error cause := by
  rw [configure, unread]
  rfl

/-- Settings that can be read can be applied. -/
theorem configure_read (workspace : Workspace) {value : Json} {settings : Settings}
    (read : Settings.ofValue value = .ok settings) :
    ∃ service, workspace.service.apply settings = .ok service ∧
      workspace.configure value = .ok { workspace with
        service
        folding := Service.freshCache settings service.now
        epoch := workspace.epoch + 1 } := by
  obtain ⟨service, applied⟩ := workspace.service.apply_of_valid (Settings.valid_of_ofValue read)
  refine ⟨service, applied, ?_⟩
  rw [configure, read]
  change (workspace.service.apply settings >>= _) = _
  rw [applied]
  rfl

/-- The settings are in force, and nothing is left of what was found with earlier ones. -/
structure Configured (settings : Settings) (before after : Workspace) : Prop where
  inForce : after.service.settings = settings
  bounds : settings.WithinBounds
  base : after.service.base = before.service.base
  patterns : ∃ custom,
    List.Forall₂ (fun spec pattern => spec.compile = .ok pattern) settings.customPatterns custom ∧
      ∀ language, after.service.patterns language =
        before.service.base.lookup language ++ Pattern.ofLanguage language custom
  inFlight : after.service.inFlight = []
  cache : after.service.cache.entries = [] ∧ after.service.cache.Timed settings
  folding : after.folding.entries = [] ∧ after.folding.Timed settings

/-- Settings that are applied are in force, with empty caches. -/
theorem configured_of_apply (timed : workspace.service.cache.Timed workspace.service.settings)
    {settings : Settings} {service : Service} (applied : workspace.service.apply settings = .ok service)
    (epoch : Nat) :
    Configured settings workspace { workspace with
      service
      folding := Service.freshCache settings service.now
      epoch } := by
  have renewed := Service.apply_renewed applied
  have cacheTimed := Service.apply_timed timed applied
  obtain ⟨valid, custom, compiled, same⟩ := Service.apply_ok applied
  refine ⟨by rw [same]; rfl, (Settings.bounds_of_valid valid).1, by rw [same]; rfl, ?_,
    renewed.inFlight, ⟨renewed.entries, cacheTimed⟩,
    ⟨rfl, Service.freshCache_timed settings service.now⟩⟩
  refine ⟨custom, Settings.compileFrom_ok compiled, fun language => ?_⟩
  rw [same]
  change (workspace.service.base.registerAll custom).patterns.filter _ = _
  rw [Registry.registerAll_patterns]
  exact Pattern.ofLanguage_append language _ custom

/-- An answer to a question from before the cache of folding ranges was replaced is not
remembered. -/
theorem answerFrom_folding (workspace : Workspace) {waiting : Query.Waiting}
    (older : waiting.epoch < workspace.epoch) (blocks : List Block) :
    (workspace.answerFrom waiting blocks).2.folding = workspace.folding := by
  have replaced : workspace.epoch ≠ waiting.epoch := by omega
  unfold answerFrom
  split
  · simp [rememberFolding, replaced]
  · rfl
  · rfl

/-- A poll of an older question does not touch the new cache of folding ranges. -/
theorem poll_folding {waiting : Query.Waiting} (older : waiting.epoch < workspace.epoch) :
    (workspace.poll waiting).2.folding = workspace.folding := by
  unfold poll
  split
  · exact answerFrom_folding { workspace with service := workspace.service.drop waiting.call } older _
  · rfl

/-- Waiting for the answer to an older question does not touch the new cache of folding ranges. -/
theorem await_folding {waiting : Query.Waiting} (older : waiting.epoch < workspace.epoch) :
    (workspace.await waiting).2.folding = workspace.folding :=
  answerFrom_folding { workspace with service := (workspace.service.finish waiting.call).2 } older _

end Workspace

namespace Desk

open Workspace (Proceeds)

variable {desk : Desk}

/-- No pending question stems from a later time than the cache of folding ranges. -/
def Dated (desk : Desk) : Prop :=
  ∀ waiting ∈ desk.pending, waiting.epoch ≤ desk.workspace.epoch

/-- Questions keep their times. -/
theorem Dated.keep (dated : desk.Dated) {after : Desk}
    (epoch : desk.workspace.epoch ≤ after.workspace.epoch)
    (pending : ∀ waiting ∈ after.pending, waiting ∈ desk.pending) : after.Dated :=
  fun waiting member => Nat.le_trans (dated waiting (pending waiting member)) epoch

/-- A question that is filed is not ahead of its time. -/
theorem file_proceeds (dated : desk.Dated) {pending : List Query.Waiting}
    (fewer : ∀ waiting ∈ pending, waiting ∈ desk.pending) {outcome : Query.State × Workspace}
    (proceeds : Proceeds desk.workspace outcome.2)
    (recent : Workspace.Dated outcome.2.epoch outcome.1) :
    Proceeds desk.workspace (file pending outcome).workspace ∧ (file pending outcome).Dated := by
  obtain ⟨state, workspace⟩ := outcome
  cases state with
  | answered answer => exact ⟨proceeds, dated.keep proceeds.epoch fewer⟩
  | waiting waiting =>
      refine ⟨proceeds, fun other member => ?_⟩
      rcases List.mem_append.mp member with old | new
      · exact Nat.le_trans (dated other (fewer other old)) proceeds.epoch
      · rw [List.mem_singleton.mp new]
        exact recent waiting rfl

/-- Either there is no question of the call, or it is one of the pending ones and the others
stay. -/
theorem resume_cases {motive : Desk → Prop} (call : Nat)
    (next : Query.Waiting → List Query.Waiting → Desk) (same : motive desk)
    (step : ∀ waiting ∈ desk.pending, ∀ others, (∀ other ∈ others, other ∈ desk.pending) →
      motive (next waiting others)) : motive (desk.resume call next) := by
  unfold resume
  split
  · exact same
  · rename_i waiting found
    exact step waiting (List.mem_of_find?_eq_some found) _ fun _ => List.mem_of_mem_filter

/-- Every event takes steps of the service, and leaves no question ahead of its time. -/
theorem step_proceeds (dated : desk.Dated) (event : Event) :
    Proceeds desk.workspace (desk.step event).workspace ∧ (desk.step event).Dated := by
  have keep {workspace : Workspace} (proceeds : Proceeds desk.workspace workspace) {others}
      (fewer : ∀ other ∈ others, other ∈ desk.pending) :
      Proceeds desk.workspace (Desk.mk workspace others).workspace ∧ (Desk.mk workspace others).Dated :=
    ⟨proceeds, dated.keep proceeds.epoch fewer⟩
  have stay {workspace : Workspace} (proceeds : Proceeds desk.workspace workspace) :
      Proceeds desk.workspace (Desk.mk workspace desk.pending).workspace ∧
        (Desk.mk workspace desk.pending).Dated :=
    keep proceeds fun _ member => member
  have unchanged : Proceeds desk.workspace desk.workspace ∧ desk.Dated :=
    stay (Proceeds.of_eq rfl rfl)
  cases event with
  | service event => exact stay (Proceeds.of_step event rfl rfl)
  | ask query =>
      obtain ⟨proceeds, recent⟩ := desk.workspace.ask_proceeds query
      exact file_proceeds dated (fun _ member => member) proceeds recent
  | poll call =>
      refine resume_cases (motive := fun next => Proceeds desk.workspace next.workspace ∧ next.Dated)
        call _ unchanged fun waiting member others fewer => ?_
      obtain ⟨proceeds, recent⟩ := desk.workspace.poll_proceeds waiting (dated waiting member)
      exact file_proceeds dated fewer proceeds recent
  | await call =>
      exact resume_cases (motive := fun next => Proceeds desk.workspace next.workspace ∧ next.Dated)
        call _ unchanged fun waiting _ _ fewer => keep (desk.workspace.await_proceeds waiting) fewer
  | giveUp call =>
      refine resume_cases (motive := fun next => Proceeds desk.workspace next.workspace ∧ next.Dated)
        call _ unchanged fun waiting _ _ fewer => keep ?_ fewer
      exact Proceeds.of_step (.drop waiting.call) rfl rfl
  | openDocument document =>
      have cancelled := desk.workspace.cancelSearches_proceeds document.uri
      exact stay ⟨cancelled.service, cancelled.epoch⟩
  | changeDocument uri version edits =>
      exact stay (desk.workspace.changeDocument_proceeds uri version edits)
  | closeDocument uri =>
      have cancelled := desk.workspace.cancelSearches_proceeds uri
      exact stay (cancelled.trans (Proceeds.of_step (.invalidateDocument uri) rfl rfl))
  | configure value =>
      cases read : Settings.ofValue value with
      | error cause =>
          rw [step, Workspace.configure_refused read]
          exact unchanged
      | ok settings =>
          obtain ⟨service, applied, configured⟩ := desk.workspace.configure_read read
          rw [step, configured]
          refine stay ⟨⟨[.apply settings], ?_⟩, Nat.le_succ _⟩
          rw [Service.run, List.foldl_cons, List.foldl_nil, Service.step, applied]
          rfl
  | clearCaches => exact stay (Proceeds.of_step .clear rfl rfl)
  | sweep => exact stay (Proceeds.of_step .cleanup rfl rfl)
  | shutDown => exact stay desk.workspace.shutDown_proceeds

/-- Every run takes steps of the service, and leaves no question ahead of its time. -/
theorem run_proceeds (dated : desk.Dated) (events : List Event) :
    Proceeds desk.workspace (desk.run events).workspace ∧ (desk.run events).Dated := by
  induction events generalizing desk with
  | nil => exact ⟨Proceeds.of_eq rfl rfl, dated⟩
  | cons event events ih =>
      obtain ⟨early, stepped⟩ := step_proceeds dated event
      obtain ⟨late, ran⟩ := ih stepped
      exact ⟨early.trans late, ran⟩

/-- Nothing is stored in the caches of a later time by what was begun before: neither by a search,
nor by any detection of the same generation or an earlier one, nor by an answer to a pending
question. -/
structure Outlasts (later : Workspace) (before : Desk) : Prop where
  searches : ∀ id < before.workspace.service.searchCount,
    (later.service.pollSearch id).2.cache = later.service.cache
  detections : ∀ generation ≤ before.workspace.service.generation, ∀ key detection,
    later.service.remember key generation detection = later.service
  questions : ∀ waiting ∈ before.pending, (later.poll waiting).2.folding = later.folding ∧
    (later.await waiting).2.folding = later.folding

/-- Whatever has happened to a workspace, a value that cannot be read as settings changes nothing.
Any other brings its settings into force, and nothing that was begun before is stored in a cache
afterwards. -/
theorem configure_all_or_nothing (registry : Registry) (earlier : List Service.Event)
    (events : List Event) (value : Json) :
    let desk := run { workspace := Workspace.new ((Service.new registry).run earlier) } events
    let next := desk.step (.configure value)
    match Settings.ofValue value with
    | .error cause => desk.workspace.configure value = .error cause ∧ next = desk
    | .ok settings =>
      desk.workspace.configure value = .ok next.workspace ∧
        Workspace.Configured settings desk.workspace next.workspace ∧
        ∀ later, Outlasts (next.run later).workspace desk := by
  intro desk next
  have fresh : Dated { workspace := Workspace.new ((Service.new registry).run earlier) } :=
    List.forall_mem_nil _
  obtain ⟨⟨⟨past, reached⟩, _⟩, dated⟩ := run_proceeds fresh events
  change desk.workspace.service = Service.run ((Service.new registry).run earlier) past at reached
  rw [← Service.run_append] at reached
  have consistent : Service.Consistent (fun _ => True) desk.workspace.service := by
    rw [reached]
    exact Service.run_consistent (Service.new_consistent registry) _ fun _ _ => trivial
  have timed : desk.workspace.service.cache.Timed desk.workspace.service.settings := by
    rw [reached]
    exact Service.run_timed registry _
  cases read : Settings.ofValue value with
  | error cause =>
      have refused : desk.workspace.configure value = .error cause := Workspace.configure_refused read
      refine ⟨refused, ?_⟩
      change Desk.mk _ _ = desk
      rw [refused]
      rfl
  | ok settings =>
      obtain ⟨service, applied, configured⟩ := desk.workspace.configure_read read
      have after : next.workspace = { desk.workspace with
          service
          folding := Service.freshCache settings service.now
          epoch := desk.workspace.epoch + 1 } := by
        change ((desk.workspace.configure value).toOption.getD desk.workspace) = _
        rw [configured]
        rfl
      have renewed := Service.apply_renewed applied
      refine ⟨after ▸ configured, after ▸ Workspace.configured_of_apply timed applied _,
        fun later => ?_⟩
      have nextDated : next.Dated := (step_proceeds dated (.configure value)).2
      obtain ⟨⟨⟨since, ran⟩, epoch⟩, _⟩ := run_proceeds nextDated later
      rw [after] at ran epoch
      have outdates := Service.run_outdates (renewed.consistent consistent)
        (renewed.outdates consistent.sound) since
      rw [← ran] at outdates
      refine ⟨fun id older => outdates.pollSearch older, fun generation begun key detection =>
        outdates.remember begun key detection, fun waiting member => ?_⟩
      have older : waiting.epoch < (next.run later).workspace.epoch :=
        Nat.lt_of_lt_of_le (Nat.lt_succ_of_le (dated waiting member)) epoch
      exact ⟨Workspace.poll_folding older, Workspace.await_folding older⟩

/-- A question is pending when settings come in. A second pattern that does not compile lets them
all be refused. Others are applied, and without them the answer to the question would be
remembered. -/
theorem configure_all_or_nothing_pending :
    let comment (opening : String) : Json := .object [("end", .string "--\\]\\]"),
      ("language", .string "lua"), ("start", .string opening)]
    let unbalanced : Json := .object [("maxPreviewLength", .int 20),
      ("customPatterns", .array [comment "--\\[\\[", comment "--[["])]
    let document : Document :=
      { uri := "a", language := "java", version := 1, text := "/** One\n * Two\n */".toList }
    let desk := run { workspace := Workspace.new ((Service.new Registry.builtin).run []) }
      [.openDocument document, .ask (.folding "a")]
    let served := Event.service (.serve fun _ => true)
    let later := ((desk.step (.configure .null)).run [served]).workspace
    desk.pending.map (·.call) = [0] ∧
      (desk.workspace.configure unbalanced).mapError SettingsError.message =
        .error "custom pattern #1: pattern for 'lua' has an invalid start expression" ∧
      desk.step (.configure unbalanced) = desk ∧
      (desk.run [served, .await 0]).workspace.folding.entries.length = 1 ∧
      ∀ waiting ∈ desk.pending, (later.await waiting).2.folding = later.folding := by
  intro comment unbalanced document desk served later
  have refused := configure_all_or_nothing Registry.builtin []
    [.openDocument document, .ask (.folding "a")] unbalanced
  have applied := configure_all_or_nothing Registry.builtin []
    [.openDocument document, .ask (.folding "a")] .null
  have message : (Settings.ofValue unbalanced).mapError SettingsError.message =
      .error "custom pattern #1: pattern for 'lua' has an invalid start expression" := by
    decide +kernel
  cases read : Settings.ofValue unbalanced with
  | ok settings =>
      rw [read] at message
      cases message
  | error cause =>
      rw [read] at refused message
      obtain ⟨configured, same⟩ := refused
      refine ⟨by decide +kernel, ?_, same, by decide +kernel, fun waiting member => ?_⟩
      · rw [show desk.workspace.configure unbalanced = .error cause from configured]
        exact congrArg Except.error (Except.error.inj message)
      · exact ((applied.2.2 [served]).questions waiting member).2

end Desk

end DocBlocks
