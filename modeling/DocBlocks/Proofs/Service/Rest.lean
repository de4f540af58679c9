/-
This file shows what a call returns if it is the only one, and that it leaves nothing behind but its
result.
-/

import DocBlocks.Proofs.Service.Quiet
import DocBlocks.Proofs.Service.Results

namespace DocBlocks.Service

variable {known : Snapshot → Prop} {service : Service}

/-- No call is open and nothing is searched for. -/
structure AtRest (service : Service) : Prop where
  calls : service.calls = []
  searches : service.searches = []
  inFlight : service.inFlight = []

/-- A service at rest is in order if what it remembers is right. -/
theorem AtRest.consistent (rest : service.AtRest)
    (cached : ∀ entry ∈ service.cache.entries, service.Remembers known entry.key entry.value) :
    Consistent known service where
  sound := {
    distinct := by rw [rest.searches]; exact List.nodup_nil
    searches := by rw [rest.searches]; exact fun _ member => by cases member
    cached }
  linked := {
    known := by rw [rest.calls]; exact fun _ member => by cases member
    distinct := by rw [rest.calls]; exact List.nodup_nil
    numbered := by rw [rest.calls]; exact fun _ member => by cases member
    awaited := by rw [rest.calls]; exact fun _ member => by cases member
    listed := by rw [rest.inFlight]; exact fun _ _ member => by cases member
    fresh := by rw [rest.inFlight]; exact fun _ _ member => by cases member }

/-- With quiet patterns a call that goes on leaves all tokens as they are. -/
theorem advance_cancellation (sound : Sound known service) (quiet : service.Quiet)
    (snapshot : Snapshot) (token : Token) (snapshotKnown : known snapshot) (progress : Progress) :
    (service.advance snapshot token progress).2.cancellation = service.cancellation := by
  cases progress with
  | finished blocks => rfl
  | repeating id =>
      rw [advance, pollRepeated_eq]
      exact pollSearch_cancellation quiet id
  | waiting id joined =>
      have on := (pollSearch_goesOn sound id).1
      have tokens := pollSearch_cancellation quiet id
      rw [advance_waiting]
      cases (service.pollSearch id).1 with
      | none => exact tokens
      | some detection =>
          dsimp only
          split
          · have off := on.trans (release_goesOn on.sound snapshot.key id)
            have begun := off.trans (beginSearch_goesOn off.sound snapshot token snapshotKnown)
            rw [pollRepeated_eq]
            exact (pollSearch_cancellation (begun.quiet quiet) _).trans tokens
          · exact tokens

/-- A poll cancels nothing if the patterns are quiet. -/
theorem poll_cancellation (consistent : Consistent known service) (quiet : service.Quiet)
    (id : Nat) : (service.poll id).cancellation = service.cancellation := by
  cases found : service.call? id with
  | none => rw [poll, found]
  | some call =>
      rw [poll_eq found]
      exact advance_cancellation consistent.sound quiet call.snapshot call.token
        (consistent.linked.known call (call?_mem found).1) call.progress

/-- A poll neither opens nor closes a call. -/
theorem poll_ids (service : Service) (id : Nat) :
    (service.poll id).calls.map Call.id = service.calls.map Call.id := by
  cases found : service.call? id with
  | none => rw [poll, found]
  | some call =>
      rw [poll_eq found]
      change (withProgress _ id _).map Call.id = _
      rw [withProgress_ids, (advance_advanced service call.snapshot call.token call.progress).calls]

/-- The service has gone on in order with one open call, and all tokens are as they were. -/
structure Alone (known : Snapshot → Prop) (id : Nat) (before after : Service) : Prop where
  on : GoesOn known before after
  linked : Linked known after
  ids : after.calls.map Call.id = [id]
  cancellation : after.cancellation = before.cancellation

/-- The call is still the only one after a poll. -/
theorem Alone.poll {id : Nat} {after : Service} (quiet : service.Quiet)
    (alone : Alone known id service after) (call : Nat) :
    Alone known id service (after.poll call) := by
  have polled := poll_consistent ⟨alone.on.sound, alone.linked⟩ call
  refine ⟨alone.on.trans polled.1, polled.2, ?_, ?_⟩
  · rw [poll_ids]
    exact alone.ids
  · rw [poll_cancellation ⟨alone.on.sound, alone.linked⟩ (alone.on.quiet quiet)]
    exact alone.cancellation

/-- The call is still the only one after a turn of the worker. -/
theorem Alone.serve {id : Nat} {after : Service} (quiet : service.Quiet)
    (alone : Alone known id service after) (chosen : Nat → Bool) :
    Alone known id service (after.serve chosen) := by
  have same := serve_quiet alone.on.sound (alone.on.quiet quiet) chosen
  refine ⟨alone.on.trans (serve_goesOn alone.on.sound chosen), serve_linked alone.linked chosen, ?_, ?_⟩
  · rw [same]
    exact alone.ids
  · rw [same]
    exact alone.cancellation

/-- The call is still the only one after calls have been waited for. -/
theorem Alone.await {id : Nat} {after : Service} (quiet : service.Quiet)
    (alone : Alone known id service after) (calls : List Nat) :
    Alone known id service (after.await calls) :=
  awaitFor_induction (fun _ call alone => alone.poll quiet call)
    (fun _ chosen alone => alone.serve quiet chosen) 2 after calls alone

/-- The service has gone on in order and rests again, and all tokens are as they were. -/
structure Resumed (known : Snapshot → Prop) (before after : Service) : Prop where
  on : GoesOn known before after
  rest : after.AtRest
  cancellation : after.cancellation = before.cancellation

/-- Giving up a call cancels nothing. -/
theorem drop_cancellation (service : Service) (id : Nat) :
    (service.drop id).cancellation = service.cancellation := by
  unfold drop
  split
  · rfl
  · rename_i call _
    cases call.progress <;> rfl

/-- The one open call is found by its number. -/
theorem Alone.only {id : Nat} {after : Service} (alone : Alone known id service after) :
    ∃ call, after.calls = [call] ∧ call.id = id ∧ after.call? id = some call := by
  have count : after.calls.length = 1 := by
    have lengths := congrArg List.length alone.ids
    simpa using lengths
  obtain ⟨call, only⟩ := List.length_eq_one_iff.mp count
  have named : call.id = id := by simpa [only] using alone.ids
  exact ⟨call, only, named, by simp [call?, only, named]⟩

/-- Closing the only call leaves nothing to wait for. -/
theorem Alone.drop {id : Nat} {after : Service} (alone : Alone known id service after) :
    Resumed known service (after.drop id) := by
  have linked := drop_linked alone.linked id
  have closed : (after.drop id).calls = [] ∧ (after.drop id).searches = [] := by
    obtain ⟨call, only, named, found⟩ := alone.only
    unfold Service.drop
    rw [found]
    dsimp only
    cases call.progress <;> simp [dropUnwaited, release, only, named]
  refine ⟨alone.on.trans (drop_goesOn alone.on.sound id), ⟨closed.1, closed.2, ?_⟩, ?_⟩
  · rw [List.eq_nil_iff_forall_not_mem]
    rintro ⟨key, search⟩ member
    obtain ⟨call, callMember, _⟩ := linked.listed key search member
    rw [closed.1] at callMember
    cases callMember
  · rw [drop_cancellation]
    exact alone.cancellation

theorem joinOrBegin_cancellation (service : Service) (snapshot : Snapshot) (token : Token) :
    (service.joinOrBegin snapshot token).2.cancellation = service.cancellation := by
  unfold joinOrBegin
  split <;> rfl

/-- A new call cancels nothing. -/
theorem enter_cancellation (service : Service) (snapshot : Snapshot) (token : Token) :
    (service.enter snapshot token).2.cancellation = service.cancellation := by
  unfold enter
  split
  · rfl
  · split
    · rename_i blocks next hit
      have same : next = (service.lookUp snapshot.key).2 := by rw [hit]
      subst same
      rfl
    · rename_i next missing
      have same : next = (service.lookUp snapshot.key).2 := by rw [missing]
      subst same
      exact joinOrBegin_cancellation _ snapshot token

/-- A call to a service at rest is the only one. -/
theorem begin_alone (rest : service.AtRest) (consistent : Consistent known service)
    (quiet : service.Quiet) (snapshot : Snapshot) (token : Token) (snapshotKnown : known snapshot) :
    Alone known service.callCount service (service.begin snapshot token).2 := by
  obtain ⟨on, linked⟩ := opened_consistent consistent snapshot token snapshotKnown
  have opened : Alone known service.callCount service (service.opened snapshot token) := by
    refine ⟨on, linked, ?_, enter_cancellation service snapshot token⟩
    rw [opened_calls consistent.linked, rest.calls]
    rfl
  exact opened.poll quiet service.callCount

/-- The blocks of a snapshot as they are found without any cache. -/
def afresh (service : Service) (snapshot : Snapshot) : List Block :=
  if service.settings.isEnabled snapshot.language then
    service.detector.thorough snapshot.text snapshot.language
  else []

/-- What may be returned with one detector alone are the blocks that it finds. -/
theorem afresh_of_returns {snapshot : Snapshot} {blocks : List Block}
    (returns : Returns (service.settings.isEnabled snapshot.language) snapshot
      (· = service.detector) blocks) : blocks = service.afresh snapshot := by
  unfold afresh
  cases enabled : service.settings.isEnabled snapshot.language with
  | true =>
      rw [enabled] at returns
      obtain ⟨detector, same, found⟩ := returns
      subst same
      exact found
  | false =>
      rw [enabled] at returns
      exact returns

/-- The only call returns what is found without any cache, at once or after it was waited for, and
the service rests again after it. -/
theorem begin_afresh (rest : service.AtRest) (consistent : Consistent known service)
    (quiet : service.Quiet) {snapshot : Snapshot} {token : Token} (snapshotKnown : known snapshot)
    (agrees : Agrees known snapshot) (uncancelled : service.isCancelled token = false) :
    ((service.begin snapshot token).2.isFinished service.callCount = true →
      (service.begin snapshot token).2.result service.callCount = service.afresh snapshot ∧
        Resumed known service ((service.begin snapshot token).2.drop service.callCount)) ∧
    ((service.begin snapshot token).2.finish service.callCount).1 = service.afresh snapshot ∧
      Resumed known service ((service.begin snapshot token).2.finish service.callCount).2 := by
  have alone := begin_alone rest consistent quiet snapshot token snapshotKnown
  have lasting (allowed : Detector → Prop) : Lasting known allowed snapshot token
      (Due (service.settings.isEnabled snapshot.language) snapshot token allowed) :=
    due_lasting _ snapshotKnown allowed
  -- Nothing renews the service while the call is the only one, so its detector stays in force.
  have followed := begin_follows (lasting (· = service.detector)) consistent rfl snapshotKnown
    (enter_due consistent agrees rfl)
  have free {after : Service} (alone : Alone known service.callCount service after) :
      after.isCancelled token = false := by
    rw [isCancelled, alone.cancellation]
    exact uncancelled
  obtain ⟨call, _, _, found⟩ := alone.only
  refine ⟨?_, ?_, (alone.await quiet [service.callCount]).drop⟩
  · intro finished
    have ended : call.progress.search? = none := by
      simpa [isFinished, found] using finished
    obtain ⟨blocks, progress⟩ := eq_finished_of_search? ended
    have returned : (service.begin snapshot token).2.result service.callCount = blocks := by
      obtain ⟨_, _, _, _⟩ := call
      subst progress
      rw [result, found]
    refine ⟨?_, alone.drop⟩
    rw [returned]
    exact afresh_of_returns (followed.returns found progress (free alone))
  · have awaited := await_followed (lasting _) ⟨alone.on.sound, alone.linked⟩ alone.on.detector
      followed [service.callCount]
    obtain ⟨blocks, ended, same⟩ := await_ends ⟨alone.on.sound, alone.linked⟩ found
    rw [same]
    exact afresh_of_returns (awaited.followed.returns ended rfl
      (free (alone.await quiet [service.callCount])))

end DocBlocks.Service
