/-
This file follows a call from its first poll to its end.
-/

import DocBlocks.Proofs.Service.Calls
import Mathlib.Data.List.Induction

namespace DocBlocks.Service

variable {known : Snapshot → Prop} {service : Service}

/-- A property of the progress of a call for a snapshot that lasts while others act on the service,
and that the call itself keeps as long as it meets only allowed detectors. -/
structure Lasting (known : Snapshot → Prop) (allowed : Detector → Prop) (snapshot : Snapshot)
    (token : Token) (property : Service → Progress → Prop) : Prop where
  persists : ∀ {before after : Service} {progress : Progress}, Persists before after →
    property before progress → property after progress
  advances : ∀ {service : Service} {progress : Progress}, Sound known service →
    allowed service.detector → property service progress →
    property (service.advance snapshot token progress).2
      (service.advance snapshot token progress).1

/-- The call with a number is for the snapshot and has the property, as long as it is open. -/
structure Followed (property : Service → Progress → Prop) (snapshot : Snapshot) (token : Token)
    (id : Nat) (service : Service) : Prop where
  numbered : id < service.callCount
  holds : ∀ call ∈ service.calls, call.id = id →
    call.snapshot = snapshot ∧ call.token = token ∧ property service call.progress

section Follow

variable {allowed : Detector → Prop} {snapshot : Snapshot} {token : Token}
  {property : Service → Progress → Prop} {id : Nat}

/-- What only closes calls does no harm to those that are open. -/
theorem Followed.frame {before after : Service}
    (lasting : Lasting known allowed snapshot token property)
    (followed : Followed property snapshot token id before) (persists : Persists before after)
    (calls : ∀ call ∈ after.calls, call ∈ before.calls)
    (callCount : after.callCount = before.callCount) :
    Followed property snapshot token id after where
  numbered := callCount ▸ followed.numbered
  holds call member named := by
    obtain ⟨same, own, property⟩ := followed.holds call (calls call member) named
    exact ⟨same, own, lasting.persists persists property⟩

/-- A call is still followed after any call has been polled. -/
theorem poll_followed (lasting : Lasting known allowed snapshot token property)
    (consistent : Consistent known service) (detector : allowed service.detector)
    (followed : Followed property snapshot token id service) (other : Nat) :
    Followed property snapshot token id (service.poll other) := by
  have persists := (poll_consistent consistent other).1.toPersists
  cases found : service.call? other with
  | none =>
      have same : service.poll other = service := by rw [poll, found]
      rw [same]
      exact followed
  | some polled =>
      obtain ⟨polledMember, polledNamed⟩ := call?_mem found
      have advanced := advance_advanced service polled.snapshot polled.token polled.progress
      have sound := (advance_goesOn consistent.sound polled.snapshot polled.token
        (consistent.linked.known polled polledMember) polled.progress).sound
      rw [poll_eq found] at persists ⊢
      constructor
      · exact advanced.callCount ▸ followed.numbered
      · intro call member named
        rcases mem_withProgress member with ⟨old, _⟩ | ⟨old, oldMember, oldNamed, same⟩
        · rw [advanced.calls] at old
          obtain ⟨sameSnapshot, own, property⟩ := followed.holds call old named
          exact ⟨sameSnapshot, own, lasting.persists persists property⟩
        · rw [advanced.calls] at oldMember
          have identical := consistent.linked.unique oldMember polledMember
            (oldNamed.trans polledNamed.symm)
          subst identical same
          obtain ⟨sameSnapshot, own, property⟩ := followed.holds old oldMember named
          refine ⟨sameSnapshot, own, ?_⟩
          have went := lasting.advances consistent.sound detector property
          rw [← sameSnapshot, ← own] at went
          exact lasting.persists (dropUnwaited_goesOn sound _).toPersists went

/-- A new call stands behind the others, with the next number. -/
theorem opened_calls (linked : Linked known service) (snapshot : Snapshot) (token : Token) :
    (service.opened snapshot token).calls =
      service.calls ++ [⟨service.callCount, snapshot, token, (service.enter snapshot token).1⟩] :=
  congrArg (· ++ _) (enter_entered linked snapshot token).calls

/-- A call is followed while another one is made. -/
theorem begin_followed (lasting : Lasting known allowed snapshot token property)
    (consistent : Consistent known service) (detector : allowed service.detector)
    (followed : Followed property snapshot token id service) (next : Snapshot) (owner : Token)
    (nextKnown : known next) :
    Followed property snapshot token id (service.begin next owner).2 := by
  obtain ⟨on, linked⟩ := opened_consistent consistent next owner nextKnown
  apply poll_followed lasting ⟨on.sound, linked⟩ (on.detector ▸ detector)
  constructor
  · exact Nat.lt_succ_of_lt followed.numbered
  · intro call member named
    rw [opened_calls consistent.linked, List.mem_append, List.mem_singleton] at member
    rcases member with old | new
    · obtain ⟨same, own, property⟩ := followed.holds call old named
      exact ⟨same, own, lasting.persists on.toPersists property⟩
    · subst new named
      exact absurd followed.numbered (Nat.lt_irrefl _)

/-- A new call is followed if it has the property when it enters. -/
theorem begin_follows (lasting : Lasting known allowed snapshot token property)
    (consistent : Consistent known service) (detector : allowed service.detector)
    (snapshotKnown : known snapshot)
    (entered : property (service.opened snapshot token) (service.enter snapshot token).1) :
    Followed property snapshot token service.callCount (service.begin snapshot token).2 := by
  obtain ⟨on, linked⟩ := opened_consistent consistent snapshot token snapshotKnown
  apply poll_followed lasting ⟨on.sound, linked⟩ (on.detector ▸ detector)
  constructor
  · exact Nat.lt_succ_self _
  · intro call member named
    rw [opened_calls consistent.linked, List.mem_append, List.mem_singleton] at member
    rcases member with old | new
    · exact absurd (consistent.linked.numbered call old) (by rw [named]; exact Nat.lt_irrefl _)
    · subst new
      exact ⟨rfl, rfl, entered⟩

/-- A call is still followed after the worker has served some searches. -/
theorem serve_followed (lasting : Lasting known allowed snapshot token property)
    (sound : Sound known service) (followed : Followed property snapshot token id service)
    (chosen : Nat → Bool) : Followed property snapshot token id (service.serve chosen) := by
  apply followed.frame lasting (serve_goesOn sound chosen).toPersists
  · rw [serve_eq]
    exact fun _ member => member
  · rw [serve_eq]

/-- No call is added when one is given up. -/
theorem drop_calls (service : Service) (id : Nat) :
    (∀ call ∈ (service.drop id).calls, call ∈ service.calls) ∧
      (service.drop id).callCount = service.callCount := by
  unfold drop
  split
  · exact ⟨fun _ member => member, rfl⟩
  · rename_i call _
    cases call.progress <;> exact ⟨fun _ member => List.mem_of_mem_filter member, rfl⟩

/-- A call is still followed after any call has been given up. -/
theorem drop_followed (lasting : Lasting known allowed snapshot token property)
    (sound : Sound known service) (followed : Followed property snapshot token id service)
    (other : Nat) : Followed property snapshot token id (service.drop other) :=
  followed.frame lasting (drop_goesOn sound other).toPersists (service.drop_calls other).1
    (service.drop_calls other).2

/-- The service goes on in order, and so does the call that is followed. -/
structure FollowedOn (known : Snapshot → Prop) (property : Service → Progress → Prop)
    (snapshot : Snapshot) (token : Token) (id : Nat) (before after : Service) : Prop where
  on : GoesOn known before after
  linked : Linked known after
  followed : Followed property snapshot token id after

/-- One more poll keeps the service and the call in order. -/
theorem FollowedOn.poll {after : Service} (lasting : Lasting known allowed snapshot token property)
    (detector : allowed service.detector)
    (followedOn : FollowedOn known property snapshot token id service after) (other : Nat) :
    FollowedOn known property snapshot token id service (after.poll other) := by
  obtain ⟨on, linked, followed⟩ := followedOn
  have polled := poll_consistent ⟨on.sound, linked⟩ other
  refine ⟨on.trans polled.1, polled.2, ?_⟩
  exact poll_followed lasting ⟨on.sound, linked⟩ (on.detector ▸ detector) followed other

/-- One more turn of the worker keeps the service and the call in order. -/
theorem FollowedOn.serve {after : Service} (lasting : Lasting known allowed snapshot token property)
    (followedOn : FollowedOn known property snapshot token id service after)
    (chosen : Nat → Bool) :
    FollowedOn known property snapshot token id service (after.serve chosen) := by
  obtain ⟨on, linked, followed⟩ := followedOn
  exact ⟨on.trans (serve_goesOn on.sound chosen), serve_linked linked chosen,
    serve_followed lasting on.sound followed chosen⟩

/-- A call is followed while somebody waits for calls. -/
theorem await_followed (lasting : Lasting known allowed snapshot token property)
    (consistent : Consistent known service) (detector : allowed service.detector)
    (followed : Followed property snapshot token id service) (calls : List Nat) :
    FollowedOn known property snapshot token id service (service.await calls) :=
  awaitFor_induction (fun _ other on => on.poll lasting detector other)
    (fun _ chosen on => on.serve lasting chosen) 2 service calls
    ⟨consistent.sound.stay, consistent.linked, followed⟩

/-- A call is followed by every step. -/
theorem step_followed (lasting : Lasting known allowed snapshot token property)
    (consistent : Consistent known service) (detector : allowed service.detector)
    (followed : Followed property snapshot token id service) (event : Event)
    (submitted : ∀ snapshot, event.snapshot? = some snapshot → known snapshot) :
    Followed property snapshot token id (service.step event) := by
  have persists : Persists service (service.step event) := by
    rcases step_cases consistent event submitted with ⟨on, _⟩ | ⟨_, renewed⟩
    · exact on.toPersists
    · exact renewed.persists
  have untouched (calls : (service.step event).calls = service.calls)
      (callCount : (service.step event).callCount = service.callCount) :
      Followed property snapshot token id (service.step event) :=
    followed.frame lasting persists (by rw [calls]; exact fun _ member => member) callCount
  by_cases renews : event.renews = true
  · rcases step_renewed renews with same | renewed
    · rw [same]
      exact followed
    · exact untouched renewed.calls renewed.callCount
  · cases event with
    | begin next owner =>
        exact begin_followed lasting consistent detector followed next owner (submitted next rfl)
    | poll other => exact poll_followed lasting consistent detector followed other
    | finish other =>
        have awaited := await_followed lasting consistent detector followed [other]
        exact drop_followed lasting awaited.on.sound awaited.followed other
    | drop other => exact drop_followed lasting consistent.sound followed other
    | serve chosen => exact serve_followed lasting consistent.sound followed chosen
    | loseWorker =>
        apply untouched
        · rw [step, loseWorker_eq]
        · rw [step, loseWorker_eq]
    | detectNow next owner =>
        apply untouched
        · rw [step, detectNow_eq]
        · rw [step, detectNow_eq]
    | issueToken => exact untouched rfl rfl
    | cancel other => exact untouched rfl rfl
    | invalidateDocument uri => exact untouched rfl rfl
    | cleanup => exact untouched rfl rfl
    | wait milliseconds => exact untouched rfl rfl
    | _ => exact absurd rfl renews

/-- The detector was in force at some moment of a run. -/
def InForce (service : Service) (events : List Event) (detector : Detector) : Prop :=
  ∃ early, early <+: events ∧ detector = (service.run early).detector

/-- A call is followed by every run, and meets only detectors that are in force meanwhile. -/
theorem run_followed (property : (Detector → Prop) → Service → Progress → Prop)
    (weaken : ∀ {fewer more : Detector → Prop}, (∀ detector, fewer detector → more detector) →
      ∀ service progress, property fewer service progress → property more service progress)
    (lasting : ∀ allowed, Lasting known allowed snapshot token (property allowed))
    (consistent : Consistent known service)
    (followed : Followed (property (service.InForce [])) snapshot token id service)
    (events : List Event) (submitted : ∀ snapshot ∈ submitted events, known snapshot) :
    Followed (property (service.InForce events)) snapshot token id (service.run events) := by
  induction events using List.reverseRecOn with
  | nil => exact followed
  | append_singleton events event ih =>
      rw [submitted_append] at submitted
      have before := ih fun _ member => submitted _ (List.mem_append_left _ member)
      have ordered := run_consistent consistent events
        fun _ member => submitted _ (List.mem_append_left _ member)
      have current : service.InForce (events ++ [event]) (service.run events).detector :=
        ⟨events, List.prefix_append events [event], rfl⟩
      have weakened : Followed (property (service.InForce (events ++ [event]))) snapshot token id
          (service.run events) := by
        refine ⟨before.numbered, ?_⟩
        intro call member named
        obtain ⟨same, own, holds⟩ := before.holds call member named
        refine ⟨same, own, weaken ?_ _ _ holds⟩
        rintro detector ⟨early, initial, force⟩
        exact ⟨early, initial.trans (List.prefix_append events [event]), force⟩
      rw [run_append]
      apply step_followed (lasting _) ordered current weakened event
      intro snapshot present
      apply submitted
      simp [Service.submitted, present]

end Follow

/-- The search is for the text of a snapshot, with a detector that is allowed. -/
structure Order.Serves (order : Order) (allowed : Detector → Prop) (snapshot : Snapshot) : Prop where
  detector : allowed order.request.detector
  text : order.request.text = snapshot.text
  language : order.request.language = snapshot.language

/-- The call waits for a search that was begun for it. -/
def Progress.isOwn : Progress → Bool
  | waiting _ joined => !joined
  | repeating _ => true
  | finished _ => false

/-- The call waits for a search that serves it, or it returns all blocks of its snapshot unless it
is cancelled. -/
structure Attended (snapshot : Snapshot) (token : Token) (allowed : Detector → Prop)
    (service : Service) (progress : Progress) : Prop where
  numbered : ∀ id, progress.search? = some id → id < service.searchCount
  served : ∀ id, progress.search? = some id → ∀ order ∈ service.orders, order.id = id →
    order.Serves allowed snapshot ∧ (progress.isOwn = true → order.request.token = token)
  finished : ∀ blocks, progress = .finished blocks → service.isCancelled token = true ∨
    ∃ detector, allowed detector ∧ blocks = detector.thorough snapshot.text snapshot.language

section Attend

variable {snapshot : Snapshot} {token : Token} {allowed : Detector → Prop} {progress : Progress}

/-- More detectors may be allowed. -/
theorem Attended.weaken {fewer more : Detector → Prop}
    (weaker : ∀ detector, fewer detector → more detector)
    (attended : Attended snapshot token fewer service progress) :
    Attended snapshot token more service progress where
  numbered := attended.numbered
  served id waiting order member named := by
    obtain ⟨serves, own⟩ := attended.served id waiting order member named
    exact ⟨⟨weaker _ serves.detector, serves.text, serves.language⟩, own⟩
  finished blocks same := (attended.finished blocks same).imp_right
    fun ⟨detector, force, right⟩ => ⟨detector, weaker detector force, right⟩

/-- The call is attended as long as searches keep their orders. -/
theorem Attended.persists {before after : Service} (persists : Persists before after)
    (attended : Attended snapshot token allowed before progress) :
    Attended snapshot token allowed after progress where
  numbered id waiting := Nat.lt_of_lt_of_le (attended.numbered id waiting) persists.searchCount
  served id waiting order member named := by
    rcases persists.orders order member with old | ⟨new, _⟩
    · exact attended.served id waiting order old named
    · have below := attended.numbered id waiting
      omega
  finished blocks same :=
    (attended.finished blocks same).imp_left fun cancelled => persists.cancellation token cancelled

/-- What a call may return once it has the result of a search that serves it. -/
theorem Attended.answered {id : Nat} {search : Search} {detection : Detection}
    {cancellation : Cancellation} (attended : Attended snapshot token allowed service progress)
    (waiting : progress.search? = some id) (found : service.search? id = some search)
    (answered : search.request.Answered cancellation detection) :
    (detection.cancelled = false → ∃ detector, allowed detector ∧
      detection.blocks = detector.thorough snapshot.text snapshot.language) ∧
    (detection.cancelled = true → progress.isOwn = true → cancellation.isCancelled token = true) := by
  obtain ⟨member, named⟩ := search?_mem found
  obtain ⟨serves, own⟩ :=
    attended.served id waiting search.order (List.mem_map_of_mem member) named
  constructor
  · intro complete
    refine ⟨_, serves.detector, ?_⟩
    rw [answered.thorough complete, Worker.Request.thorough, ← serves.text, ← serves.language]
    rfl
  · intro cancelled mine
    rw [← own mine]
    exact answered.excused cancelled

/-- A call with a result of its own is attended to. -/
theorem attended_finished {blocks : List Block}
    (right : service.isCancelled token = true ∨ ∃ detector, allowed detector ∧
      blocks = detector.thorough snapshot.text snapshot.language) :
    Attended snapshot token allowed service (.finished blocks) where
  numbered _ absent := by cases absent
  served _ absent := by cases absent
  finished _ same := by
    cases same
    exact right

/-- A call that searches for itself is attended until it returns. -/
theorem pollRepeated_attended (sound : Sound known service) (id : Nat)
    (attended : Attended snapshot token allowed service (.repeating id)) :
    Attended snapshot token allowed (service.pollRepeated id).2 (service.pollRepeated id).1 := by
  obtain ⟨on, answers⟩ := pollSearch_goesOn sound id
  rw [pollRepeated_eq]
  cases polled : (service.pollSearch id).1 with
  | none => exact attended.persists on.toPersists
  | some detection =>
      obtain ⟨search, found, answered⟩ := answers detection polled
      obtain ⟨complete, excused⟩ := attended.answered rfl found answered
      apply attended_finished
      cases cancelled : detection.cancelled with
      | false => exact Or.inr (complete cancelled)
      | true => exact Or.inl (excused cancelled rfl)

/-- A call that begins a search is attended to. -/
theorem beginSearch_attended (sound : Sound known service) (detector : allowed service.detector)
    (progress : Progress) (waiting : progress.search? = some service.searchCount) :
    Attended snapshot token allowed (service.beginSearch snapshot token).2 progress where
  numbered id same := by
    cases waiting.symm.trans same
    exact Nat.lt_succ_self _
  served id same order member named := by
    cases waiting.symm.trans same
    rw [beginSearch_orders, List.mem_append] at member
    rcases member with old | new
    · obtain ⟨search, searchMember, ordered⟩ := List.mem_map.mp old
      have below := (sound.searches search searchMember).numbered
      rw [← ordered] at named
      exact absurd named (Nat.ne_of_lt below)
    · rw [List.mem_singleton.mp new]
      exact ⟨⟨detector, rfl, rfl⟩, fun _ => rfl⟩
  finished blocks same := by
    rw [same] at waiting
    cases waiting

/-- A call is attended to as it goes on. One that joined a search which somebody else cancelled
begins its own. -/
theorem advance_attended (sound : Sound known service) (snapshotKnown : known snapshot)
    (detector : allowed service.detector)
    (attended : Attended snapshot token allowed service progress) :
    Attended snapshot token allowed (service.advance snapshot token progress).2
      (service.advance snapshot token progress).1 := by
  cases progress with
  | finished blocks => exact attended
  | repeating id => exact pollRepeated_attended sound id attended
  | waiting id joined =>
      obtain ⟨on, answers⟩ := pollSearch_goesOn sound id
      rw [advance_waiting]
      cases polled : (service.pollSearch id).1 with
      | none => exact attended.persists on.toPersists
      | some detection =>
          obtain ⟨search, found, answered⟩ := answers detection polled
          obtain ⟨complete, excused⟩ := attended.answered rfl found answered
          have released := release_goesOn on.sound snapshot.key id
          dsimp only
          split
          · have begun := beginSearch_goesOn released.sound snapshot token snapshotKnown
            apply pollRepeated_attended begun.sound
            apply beginSearch_attended released.sound _ _ rfl
            rw [(on.trans released).detector]
            exact detector
          · rename_i ends
            apply attended_finished
            cases cancelled : detection.cancelled with
            | false => exact Or.inr (complete cancelled)
            | true =>
                -- An incomplete result ends the call only if its own token is cancelled.
                left
                cases joined with
                | false => exact excused cancelled rfl
                | true => simpa [repeats, cancelled] using ends

/-- To be attended lasts. -/
theorem attended_lasting (snapshotKnown : known snapshot) (allowed : Detector → Prop) :
    Lasting known allowed snapshot token (Attended snapshot token allowed) where
  persists := fun persists attended => attended.persists persists
  advances := fun sound detector attended => advance_attended sound snapshotKnown detector attended

/-- Snapshots with the key of this one have its text and its language. -/
def Agrees (known : Snapshot → Prop) (snapshot : Snapshot) : Prop :=
  ∀ other, known other → other.key = snapshot.key →
    other.text = snapshot.text ∧ other.language = snapshot.language

/-- A call that joins a search in flight, or begins one, is attended to. -/
theorem joinOrBegin_attended (consistent : Consistent known service) (agrees : Agrees known snapshot)
    (detector : allowed service.detector) :
    Attended snapshot token allowed (service.joinOrBegin snapshot token).2
      (service.joinOrBegin snapshot token).1 := by
  unfold joinOrBegin
  split
  · rename_i id found
    have listed := mem_of_lookup found
    constructor
    · intro other same
      cases same
      exact consistent.inFlight_lt listed
    · intro other same order member named
      cases same
      obtain ⟨search, searchMember, ordered⟩ := List.mem_map.mp member
      subst ordered
      obtain ⟨keyed, current⟩ := consistent.inFlight_search listed searchMember named
      have searchSound := consistent.sound.searches search searchMember
      obtain ⟨first, firstKnown, isFor⟩ := searchSound.begun
      obtain ⟨text, language⟩ := agrees first firstKnown (isFor.key.symm.trans keyed)
      refine ⟨⟨?_, isFor.text.trans text, isFor.language.trans language⟩, fun own => by cases own⟩
      change allowed search.request.detector
      rw [searchSound.current current]
      exact detector
    · exact fun _ same => by cases same
  · have begun : Attended snapshot token allowed (service.beginSearch snapshot token).2
        (.waiting service.searchCount false) :=
      beginSearch_attended consistent.sound detector _ rfl
    exact ⟨begun.numbered, begun.served, begun.finished⟩

/-- A call for an enabled language is attended to when it enters, from the cache or by a search. -/
theorem enter_attended (consistent : Consistent known service) (agrees : Agrees known snapshot)
    (detector : allowed service.detector)
    (enabled : service.settings.isEnabled snapshot.language = true) :
    Attended snapshot token allowed (service.opened snapshot token)
      (service.enter snapshot token).1 := by
  have entered : Attended snapshot token allowed (service.enter snapshot token).2
      (service.enter snapshot token).1 := by
    unfold enter
    simp only [enabled, Bool.not_true, Bool.false_eq_true, if_false]
    split
    · rename_i blocks next found
      obtain ⟨first, firstKnown, keyed, same⟩ :=
        lookUp_found consistent.sound snapshot.key blocks (by rw [found])
      obtain ⟨text, language⟩ := agrees first firstKnown keyed
      apply attended_finished
      exact Or.inr ⟨service.detector, detector, by rw [same, text, language]⟩
    · rename_i next missing
      have same : next = (service.lookUp snapshot.key).2 := by rw [missing]
      subst same
      have looked := lookUp_goesOn consistent.sound snapshot.key
      have evicted : Consistent known ((service.lookUp snapshot.key).2.evictOthers snapshot) :=
        ⟨(evictOthers_goesOn looked.sound snapshot).sound,
          evictOthers_linked (lookUp_linked consistent.linked snapshot.key) snapshot⟩
      exact joinOrBegin_attended evicted agrees detector
  exact ⟨entered.numbered, entered.served, entered.finished⟩

end Attend

end DocBlocks.Service
