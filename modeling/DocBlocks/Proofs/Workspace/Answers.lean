/-
This file shows that a workspace answers questions about open documents as if it had no caches.
-/

import DocBlocks.Proofs.Workspace.Coherence

namespace DocBlocks.Workspace

variable {workspace after : Workspace} {query : Query} {document : Document}

/-- The answer to a question about an open document, as it follows from its text and from the
patterns and settings in force. -/
def answerAfresh (workspace : Workspace) (query : Query) (document : Document) : Query.Answer :=
  let service := workspace.service
  let blocks := service.afresh document.snapshot
  match query with
  | .folding _ => .folding (some (FoldingRange.ofBlocks service.settings.showPreview blocks))
  | .hover _ position =>
    .hover (if service.settings.enableHover then
      (Hover.blockAt blocks position).map (Hover.ofBlock · (service.patterns document.language))
    else none)
  | .blocks _ => .blocks (some (Block.sorted blocks))

/-- While the service goes on, the right answers are the same. -/
theorem answerAfresh_goesOn {known : Snapshot → Prop}
    (on : Service.GoesOn known workspace.service after.service) :
    after.answerAfresh = workspace.answerAfresh := by
  funext query document
  simp only [answerAfresh, on.afresh, on.settings, Service.patterns, on.registry]

/-- Hovers are only looked for if they are enabled. -/
def Admits (workspace : Workspace) : Query → Prop
  | .hover _ _ => workspace.service.settings.enableHover = true
  | _ => True

/-- The answer from blocks that are right is right, and so is what is remembered of it. -/
theorem answerFrom_coherent (coherent : workspace.Coherent)
    (found : workspace.document? query.uri = some document) (admitted : workspace.Admits query)
    (token : Token) (call epoch : Nat) :
    (workspace.answerFrom ⟨query, document.snapshot, token, call, epoch⟩
      (workspace.service.afresh document.snapshot)).1 = workspace.answerAfresh query document ∧
    (workspace.answerFrom ⟨query, document.snapshot, token, call, epoch⟩
      (workspace.service.afresh document.snapshot)).2.Coherent := by
  cases query with
  | folding uri =>
      refine ⟨rfl, ?_⟩
      change (rememberFolding _ _ _).Coherent
      unfold rememberFolding
      split
      · exact coherent
      · refine coherent.goOn rfl coherent.consistent.sound.stay coherent.rest coherent.live ?_
        intro entry member
        rcases Cache.mem_store _ _ _ _ entry member with new | ⟨old, _⟩
        · subst new
          exact ⟨document.snapshot, coherent.filed.knows found, rfl, rfl⟩
        · exact coherent.folded entry old
  | hover uri position =>
      have enabled : workspace.service.settings.enableHover = true := admitted
      refine ⟨?_, coherent⟩
      simp only [answerAfresh, enabled, if_true]
      rfl
  | blocks uri => exact ⟨rfl, coherent⟩

/-- The same after the service has gone on and come to rest. -/
theorem answerFrom_resumed (coherent : workspace.Coherent)
    (found : workspace.document? query.uri = some document) (admitted : workspace.Admits query)
    (token : Token) (call epoch : Nat) {service : Service}
    (resumed : Service.Resumed workspace.Knows workspace.service service) :
    let made := answerFrom { workspace with service } ⟨query, document.snapshot, token, call, epoch⟩
      (workspace.service.afresh document.snapshot)
    made.1 = workspace.answerAfresh query document ∧ made.2.Coherent := by
  intro made
  have rested : Coherent { workspace with service } := by
    refine coherent.goOn rfl resumed.on resumed.rest ?_ coherent.folded
    rw [Live, resumed.cancellation]
    exact coherent.live
  have stillAdmitted : Admits { workspace with service } query := by
    cases query with
    | hover uri position => exact (congrArg Settings.enableHover resumed.on.settings).trans admitted
    | _ => exact trivial
  have same : answerAfresh { workspace with service } = workspace.answerAfresh :=
    answerAfresh_goesOn resumed.on
  have right := answerFrom_coherent rested found stillAdmitted token call epoch
  rw [same, resumed.on.afresh] at right
  exact right

/-- Waits for an answer if it is not there yet. -/
def settle : Query.State × Workspace → Query.Answer × Workspace
  | (.answered answer, workspace) => (answer, workspace)
  | (.waiting waiting, workspace) => workspace.await waiting

/-- A question is resolved by asking it and settling what waits. -/
theorem resolve_eq (workspace : Workspace) (query : Query) :
    workspace.resolve query = settle (workspace.ask query) := by
  unfold resolve
  rcases workspace.ask query with ⟨_ | _, _⟩ <;> rfl

/-- The answer is made from the blocks of the call, which is brought to its end if need be. -/
theorem settle_poll (workspace : Workspace) (waiting : Query.Waiting) :
    settle (workspace.poll waiting) =
      if workspace.service.isFinished waiting.call then
        answerFrom { workspace with service := workspace.service.drop waiting.call } waiting
          (workspace.service.result waiting.call)
      else
        answerFrom { workspace with service := (workspace.service.finish waiting.call).2 } waiting
          (workspace.service.finish waiting.call).1 := by
  unfold poll
  split <;> rfl

/-- A call for the blocks of an open document leads to the right answer. -/
theorem poll_coherent (coherent : workspace.Coherent)
    (found : workspace.document? query.uri = some document) (admitted : workspace.Admits query)
    {token : Token} (uncancelled : workspace.service.isCancelled token = false) :
    let begun := (workspace.service.begin document.snapshot token).2
    let settled := settle (poll { workspace with service := begun }
      ⟨query, document.snapshot, token, workspace.service.callCount, workspace.epoch⟩)
    settled.1 = workspace.answerAfresh query document ∧ settled.2.Coherent := by
  intro begun settled
  obtain ⟨atOnce, later, resumed⟩ := Service.begin_afresh coherent.rest coherent.consistent
    coherent.quiet (coherent.filed.knows found) (coherent.filed.agrees found) uncancelled
  have answered {service : Service}
      (resumed : Service.Resumed workspace.Knows workspace.service service) :=
    answerFrom_resumed coherent found admitted token workspace.service.callCount workspace.epoch
      resumed
  simp only [settled, settle_poll]
  split
  · rename_i finished
    obtain ⟨blocks, dropped⟩ := atOnce finished
    rw [blocks]
    exact answered dropped
  · rw [later]
    exact answered resumed

/-- A search of a coherent workspace brings the right answer, and leaves it coherent. -/
theorem search_coherent (coherent : workspace.Coherent)
    (found : workspace.document? query.uri = some document) (admitted : workspace.Admits query) :
    (settle (workspace.search query document.snapshot)).1 = workspace.answerAfresh query document ∧
      (settle (workspace.search query document.snapshot)).2.Coherent := by
  obtain ⟨live, reticketed, uncancelled⟩ :=
    token_live coherent.live query.uri document.snapshot.version
  have calm := reticketed.coherent coherent live
  have same := answerAfresh_goesOn (reticketed.goesOn coherent)
  obtain ⟨_, _, _, ticketed⟩ := reticketed
  have stillFound : (workspace.token query.uri document.snapshot.version).2.document? query.uri =
      some document := by
    rw [ticketed]
    exact found
  have stillAdmitted : (workspace.token query.uri document.snapshot.version).2.Admits query := by
    rw [ticketed]
    exact admitted
  rw [← same]
  exact poll_coherent calm stillFound stillAdmitted uncancelled

/-- Folding ranges are remembered by the key of the revision. -/
theorem lookUpFolding_eq (workspace : Workspace) (query : Query) (snapshot : Snapshot) :
    workspace.lookUpFolding query snapshot =
      let (remembered, folding) := workspace.folding.get workspace.service.now snapshot.key
      match remembered with
      | some ranges => (.answered (.folding (some ranges)), { workspace with folding })
      | none => search { workspace with folding } query snapshot := by
  unfold lookUpFolding
  rcases workspace.folding.get workspace.service.now snapshot.key with ⟨_ | _, _⟩ <;> rfl

/-- Remembered folding ranges are those that would be made now. -/
theorem lookUpFolding_coherent (coherent : workspace.Coherent) {uri : String}
    (found : workspace.document? uri = some document) :
    let settled := settle (workspace.lookUpFolding (.folding uri) document.snapshot)
    settled.1 = workspace.answerAfresh (.folding uri) document ∧ settled.2.Coherent := by
  intro settled
  have looked : Coherent { workspace with
      folding := (workspace.folding.get workspace.service.now document.snapshot.key).2 } :=
    coherent.goOn rfl coherent.consistent.sound.stay coherent.rest coherent.live
      fun entry member => coherent.folded entry (Cache.mem_get _ _ _ entry member)
  simp only [settled, lookUpFolding_eq]
  cases hit : (workspace.folding.get workspace.service.now document.snapshot.key).1 with
  | none => exact search_coherent looked found trivial
  | some ranges =>
      obtain ⟨entry, member, key, value⟩ := Cache.get_found _ _ _ _ hit
      obtain ⟨snapshot, known, sameKey, right⟩ := coherent.folded entry member
      obtain ⟨text, language⟩ := coherent.filed.agrees found snapshot known (sameKey.trans key)
      refine ⟨?_, looked⟩
      change Query.Answer.folding (some ranges) = _
      rw [← value, right]
      simp only [answerAfresh, Service.afresh, text, language]

/-- Whatever is asked, the workspace stays coherent, and the answer about an open document is the
one that follows from its text. -/
theorem resolve_coherent (coherent : workspace.Coherent) (query : Query) :
    (workspace.resolve query).2.Coherent ∧
      ∀ document, workspace.document? query.uri = some document →
        (workspace.resolve query).1 = workspace.answerAfresh query document := by
  rw [resolve_eq]
  cases found : workspace.document? query.uri with
  | none =>
      have unopened : workspace.ask query = (.answered query.unopened, workspace) := by
        rw [ask, found]
      rw [unopened]
      exact ⟨coherent, fun _ absurdity => by cases absurdity⟩
  | some document =>
      have answered : (settle (workspace.ask query)).1 = workspace.answerAfresh query document ∧
          (settle (workspace.ask query)).2.Coherent := by
        rw [ask, found]
        cases query with
        | folding uri => exact lookUpFolding_coherent coherent found
        | hover uri position =>
            dsimp only
            split
            · rename_i enabled
              exact search_coherent coherent found enabled
            · rename_i disabled
              refine ⟨?_, coherent⟩
              simp only [answerAfresh, disabled]
              rfl
        | blocks uri => exact search_coherent coherent found trivial
      refine ⟨answered.2, ?_⟩
      intro other same
      cases same
      exact answered.1

/-- Polls do not change the question. -/
theorem poll_query {asked waiting : Query.Waiting}
    (polled : workspace.poll asked = (.waiting waiting, after)) : waiting.query = asked.query := by
  unfold poll at polled
  split at polled
  · cases polled
  · cases polled
    rfl

/-- A question that waits is the one that was asked. -/
theorem ask_query {waiting : Query.Waiting}
    (asked : workspace.ask query = (.waiting waiting, after)) : waiting.query = query := by
  unfold ask at asked
  split at asked
  · cases asked
  · split at asked
    · rw [lookUpFolding_eq] at asked
      dsimp only at asked
      split at asked
      · cases asked
      · exact poll_query asked
    · split at asked
      · exact poll_query asked
      · cases asked
    · exact poll_query asked

end DocBlocks.Workspace
