/-
This file says when a document that was invalidated stays out of the cache.
-/

import DocBlocks.Proofs.Revision.Key
import DocBlocks.Proofs.Service.Prospects
import DocBlocks.Proofs.Service.Quiet

namespace DocBlocks.Service

variable {known : Snapshot → Prop} {service : Service}

/-- Nothing is remembered or in flight under the chosen keys, and no call may bring such a key
back. -/
structure Spent (keys : String → Prop) (service : Service) : Prop where
  cache : ∀ entry ∈ service.cache.entries, ¬keys entry.key
  inFlight : ∀ entry ∈ service.inFlight, ¬keys entry.1
  calls : ∀ call ∈ service.calls, keys call.snapshot.key → ¬service.MayStore call

/-- What a step may do without bringing a chosen key back. -/
theorem Spent.frame {keys : String → Prop} {before after : Service} (spent : Spent keys before)
    (consistent : Consistent known before) (wanes : Wanes before after)
    (cache : ∀ entry ∈ after.cache.entries,
      entry ∈ before.cache.entries ∨ ¬keys entry.key)
    (inFlight : ∀ entry ∈ after.inFlight,
      entry ∈ before.inFlight ∨ ¬keys entry.1)
    (calls : ∀ call ∈ after.calls, call ∈ before.calls ∨
      ¬keys call.snapshot.key ∨ call.progress.search? = none) :
    Spent keys after where
  cache entry member := (cache entry member).elim (spent.cache entry) id
  inFlight entry member := (inFlight entry member).elim (spent.inFlight entry) id
  calls call member keyed may := by
    rcases calls call member with old | other | finished
    · exact spent.calls call old keyed (wanes.mayStore consistent old may)
    · exact other keyed
    · obtain ⟨_, _, waiting, _⟩ := may
      rw [finished] at waiting
      cases waiting

section Keep

variable {keys : String → Prop}

/-- A poll brings no chosen key back. -/
theorem poll_spent (consistent : Consistent known service) (spent : Spent keys service) (id : Nat) :
    Spent keys (service.poll id) := by
  cases found : service.call? id with
  | none =>
      have same : service.poll id = service := by rw [poll, found]
      rw [same]
      exact spent
  | some call =>
      obtain ⟨member, named⟩ := call?_mem found
      have advanced := advance_advanced service call.snapshot call.token call.progress
      obtain ⟨wanes, progress, cache⟩ := advance_polled consistent member
      have other (may : service.MayStore call) : ¬keys call.snapshot.key := by
        intro keyed
        exact spent.calls call member keyed may
      rw [poll_eq found]
      apply spent.frame consistent (wanes.trans (dropUnwaited_wanes _ _))
      · intro entry entryMember
        rcases cache entry entryMember with old | ⟨keyed, may⟩
        · exact Or.inl old
        · exact Or.inr (keyed ▸ other may)
      · intro entry entryMember
        rcases advanced.inFlight with ⟨_, same⟩ | kept
        · exact Or.inl (same ▸ entryMember)
        · exact Or.inl (kept entry entryMember).1
      · intro next nextMember
        rcases mem_withProgress nextMember with ⟨old, _⟩ | ⟨old, oldMember, oldNamed, same⟩
        · exact Or.inl (advanced.calls ▸ old)
        · have identical := consistent.linked.unique (advanced.calls ▸ oldMember) member
            (oldNamed.trans named.symm)
          subst identical same
          rcases progress with unchanged | finished | may
          · rw [unchanged]
            exact Or.inl member
          · exact Or.inr (Or.inr finished)
          · exact Or.inr (Or.inl (other may))

/-- A turn of the worker brings no chosen key back. -/
theorem serve_spent (consistent : Consistent known service) (spent : Spent keys service)
    (chosen : Nat → Bool) : Spent keys (service.serve chosen) := by
  apply spent.frame consistent (serve_wanes consistent.sound chosen)
  · rw [serve_eq]
    exact fun _ member => Or.inl member
  · rw [serve_eq]
    exact fun _ member => Or.inl member
  · rw [serve_eq]
    exact fun _ member => Or.inl member

/-- A call that is given up brings no chosen key back. -/
theorem drop_spent (consistent : Consistent known service) (spent : Spent keys service) (id : Nat) :
    Spent keys (service.drop id) := by
  unfold drop
  split
  · exact spent
  · rename_i call _
    cases call.progress with
    | waiting search joined =>
        apply spent.frame consistent
          ((service.release_wanes call.snapshot.key search).trans (dropUnwaited_wanes _ _))
        · exact fun _ member => Or.inl member
        · exact fun _ member => Or.inl (List.mem_of_mem_filter member)
        · exact fun _ member => Or.inl (List.mem_of_mem_filter member)
    | repeating search =>
        apply spent.frame consistent (dropUnwaited_wanes service _)
        · exact fun _ member => Or.inl member
        · exact fun _ member => Or.inl member
        · exact fun _ member => Or.inl (List.mem_of_mem_filter member)
    | finished blocks =>
        apply spent.frame consistent (dropUnwaited_wanes service _)
        · exact fun _ member => Or.inl member
        · exact fun _ member => Or.inl member
        · exact fun _ member => Or.inl (List.mem_of_mem_filter member)

/-- A call that returns brings no chosen key back. -/
theorem finish_spent (consistent : Consistent known service) (spent : Spent keys service) (id : Nat) :
    Spent keys (service.finish id).2 := by
  have kept : Consistent known (service.finish id).2 ∧ Spent keys (service.finish id).2 := by
    apply finish_induction (motive := fun next => Consistent known next ∧ Spent keys next)
    · intro next call ⟨consistent, spent⟩
      have polled := poll_consistent consistent call
      exact ⟨⟨polled.1.sound, polled.2⟩, poll_spent consistent spent call⟩
    · intro next chosen ⟨consistent, spent⟩
      exact ⟨⟨(serve_goesOn consistent.sound chosen).sound, serve_linked consistent.linked chosen⟩,
        serve_spent consistent spent chosen⟩
    · intro next call ⟨consistent, spent⟩
      exact ⟨⟨(drop_goesOn consistent.sound call).sound, drop_linked consistent.linked call⟩,
        drop_spent consistent spent call⟩
    · exact ⟨consistent, spent⟩
  exact kept.2

/-- A new call for another key brings no chosen key back. -/
theorem begin_spent (consistent : Consistent known service) (spent : Spent keys service)
    (snapshot : Snapshot) (token : Token) (snapshotKnown : known snapshot)
    (other : ¬keys snapshot.key) :
    Spent keys (service.begin snapshot token).2 := by
  have entered := enter_entered consistent.linked snapshot token
  obtain ⟨wanes, cache⟩ := service.enter_wanes snapshot token
  obtain ⟨on, linked⟩ := opened_consistent consistent snapshot token snapshotKnown
  have opened : Spent keys (service.opened snapshot token) := by
    have opening : Wanes service (service.opened snapshot token) :=
      ⟨wanes.cancellation, wanes.searchCount, wanes.searches⟩
    apply spent.frame consistent opening
    · exact fun entry member => Or.inl (cache entry member)
    · intro entry member
      rcases entered.inFlight entry member with old | ⟨new, _⟩
      · exact Or.inl old
      · rw [new]
        exact Or.inr other
    · intro call member
      rcases List.mem_append.mp member with old | new
      · exact Or.inl (entered.calls ▸ old)
      · rw [List.mem_singleton.mp new]
        exact Or.inr (Or.inl other)
  exact poll_spent ⟨on.sound, linked⟩ opened service.callCount

/-- A search made at once for another key brings no chosen key back. -/
theorem detectNow_spent (consistent : Consistent known service) (spent : Spent keys service)
    (snapshot : Snapshot) (token : Token) (snapshotKnown : known snapshot)
    (other : ¬keys snapshot.key) :
    Spent keys (service.detectNow snapshot token).2 := by
  have on := detectNow_goesOn consistent.sound snapshot token snapshotKnown
  have wanes : Wanes service (service.detectNow snapshot token).2 := by
    apply wanes_of_searches on.generation on.cancellation on.searchCount
    rw [detectNow_eq]
    exact fun _ member => Or.inr member
  apply spent.frame consistent wanes
  · intro entry member
    rcases mem_detectNow member with old | keyed
    · exact Or.inl old
    · rw [keyed]
      exact Or.inr other
  · rw [detectNow_eq]
    exact fun _ member => Or.inl member
  · rw [detectNow_eq]
    exact fun _ member => Or.inl member

/-- A step that forgets all results brings no chosen key back. -/
theorem Spent.renew {after : Service} (consistent : Consistent known service)
    (spent : Spent keys service) (renewed : Renewed service after) : Spent keys after := by
  apply spent.frame consistent (renewed.wanes consistent.sound)
  · rw [renewed.entries]
    exact fun _ member => by cases member
  · rw [renewed.inFlight]
    exact fun _ member => by cases member
  · rw [renewed.calls]
    exact fun _ member => Or.inl member

/-- Results and searches in flight may be taken away, and tokens cancelled. -/
theorem Spent.shrink {after : Service} (consistent : Consistent known service)
    (spent : Spent keys service) (generation : after.generation = service.generation)
    (grows : service.cancellation.Grows after.cancellation)
    (count : after.searchCount = service.searchCount)
    (searches : after.searches = service.searches) (calls : after.calls = service.calls)
    (cache : ∀ entry ∈ after.cache.entries, entry ∈ service.cache.entries)
    (inFlight : ∀ entry ∈ after.inFlight, entry ∈ service.inFlight) : Spent keys after := by
  have wanes : Wanes service after := wanes_of_searches generation grows (Nat.le_of_eq count.symm)
    (by rw [searches]; exact fun _ member => Or.inr member)
  apply spent.frame consistent wanes
  · exact fun entry member => Or.inl (cache entry member)
  · exact fun entry member => Or.inl (inFlight entry member)
  · rw [calls]
    exact fun _ member => Or.inl member

/-- Keys that are spent stay so until a new request is made with one of them. -/
theorem step_spent (consistent : Consistent known service) (spent : Spent keys service)
    (event : Event) (submitted : ∀ snapshot, event.snapshot? = some snapshot →
      known snapshot ∧ ¬keys snapshot.key) :
    Spent keys (service.step event) := by
  by_cases renews : event.renews = true
  · rcases step_renewed renews with same | renewed
    · rw [same]
      exact spent
    · exact spent.renew consistent renewed
  · cases event with
    | begin snapshot token =>
        obtain ⟨snapshotKnown, other⟩ := submitted snapshot rfl
        exact begin_spent consistent spent snapshot token snapshotKnown other
    | detectNow snapshot token =>
        obtain ⟨snapshotKnown, other⟩ := submitted snapshot rfl
        exact detectNow_spent consistent spent snapshot token snapshotKnown other
    | poll call => exact poll_spent consistent spent call
    | finish call => exact finish_spent consistent spent call
    | drop call => exact drop_spent consistent spent call
    | serve chosen => exact serve_spent consistent spent chosen
    | loseWorker =>
        apply spent.frame consistent (loseWorker_wanes consistent.sound)
        · rw [loseWorker_eq]
          exact fun _ member => Or.inl member
        · rw [loseWorker_eq]
          exact fun _ member => Or.inl member
        · rw [loseWorker_eq]
          exact fun _ member => Or.inl member
    | issueToken =>
        exact spent.shrink consistent rfl service.cancellation.issue_grows rfl rfl rfl
          (fun _ member => member) fun _ member => member
    | cancel token =>
        exact spent.shrink consistent rfl (service.cancellation.cancel_grows token) rfl rfl rfl
          (fun _ member => member) fun _ member => member
    | invalidateDocument other =>
        refine spent.shrink consistent rfl (Cancellation.Grows.refl _) rfl rfl rfl ?_ ?_
        · exact fun entry member => ((service.cache.mem_removeWhere _ entry).mp member).1
        · exact fun _ member => List.mem_of_mem_filter member
    | cleanup =>
        refine spent.shrink consistent rfl (Cancellation.Grows.refl _) rfl rfl rfl ?_ ?_
        · exact fun entry member => ((service.cache.mem_cleanup service.now entry).mp member).1
        · exact fun _ member => member
    | wait milliseconds =>
        exact spent.shrink consistent rfl (Cancellation.Grows.refl _) rfl rfl rfl
          (fun _ member => member) fun _ member => member
    | _ => exact absurd rfl renews

/-- Keys that are spent stay so in every run without a new request with one of them. -/
theorem run_spent (consistent : Consistent known service) (spent : Spent keys service)
    (events : List Event) (submitted : ∀ snapshot ∈ submitted events,
      known snapshot ∧ ¬keys snapshot.key) :
    Spent keys (service.run events) := by
  have kept : Consistent known (service.run events) ∧ Spent keys (service.run events) := by
    apply run_induction (motive := fun next => Consistent known next ∧ Spent keys next)
      (fun event => ∀ snapshot, event.snapshot? = some snapshot →
        known snapshot ∧ ¬keys snapshot.key)
      service events ⟨consistent, spent⟩
    · intro next event allowed ⟨consistent, spent⟩
      exact ⟨step_consistent consistent event fun snapshot present => (allowed snapshot present).1,
        step_spent consistent spent event allowed⟩
    · intro event member snapshot present
      exact submitted snapshot (List.mem_filterMap.mpr ⟨event, member, present⟩)
  exact kept.2

/-- Keys of a document are spent by its invalidation if no call for them may store anything. -/
theorem invalidateDocument_spent {uri : String}
    (within : ∀ key, keys key → keyOfDocument uri key = true)
    (none : ∀ call ∈ service.calls, keys call.snapshot.key → ¬service.MayStore call) :
    Spent keys (service.invalidateDocument uri).2 where
  cache entry member keyed := by
    have gone := ((service.cache.mem_removeWhere _ entry).mp member).2
    rw [within entry.key keyed] at gone
    cases gone
  inFlight entry member keyed := by
    have gone : (!keyOfDocument uri entry.1) = true := (List.mem_filter.mp member).2
    rw [within entry.1 keyed] at gone
    cases gone
  calls := none

end Keep

/-- A search is found by its number. -/
theorem search?_of_mem (sound : Sound known service) {search : Search}
    (member : search ∈ service.searches) : service.search? search.id = some search := by
  have present : (service.search? search.id).isSome = true := by
    rw [search?, List.find?_isSome]
    exact ⟨search, member, beq_self_eq_true search.id⟩
  obtain ⟨found, isFound⟩ := Option.isSome_iff_exists.mp present
  obtain ⟨foundMember, named⟩ := search?_mem isFound
  rw [isFound, sound.unique foundMember member named]

/-- A call is found by its number. -/
theorem call?_of_mem (linked : Linked known service) {call : Call} (member : call ∈ service.calls) :
    service.call? call.id = some call := by
  have present : (service.call? call.id).isSome = true := by
    rw [call?, List.find?_isSome]
    exact ⟨call, member, beq_self_eq_true call.id⟩
  obtain ⟨found, isFound⟩ := Option.isSome_iff_exists.mp present
  obtain ⟨foundMember, named⟩ := call?_mem isFound
  rw [isFound, linked.unique foundMember member named]

/-- A result for a key is in the cache. -/
def Holds (service : Service) (key : String) : Prop :=
  ∃ entry ∈ service.cache.entries, entry.key = key

/-- A complete result is in the cache once it is remembered. -/
theorem remember_holds (lives : 0 < service.cache.ttl) (key : String) {detection : Detection}
    (complete : detection.cancelled = false) :
    (service.remember key service.generation detection).Holds key := by
  refine ⟨⟨key, detection.blocks, service.now⟩, ?_, rfl⟩
  have kept : (detection.cancelled || service.generation != service.generation) = false := by
    simp [complete]
  rw [remember, kept]
  exact service.cache.store_mem service.now key detection.blocks lives

/-- A search that may complete and does not wait for the worker is remembered by the next poll. -/
theorem pollSearch_holds (regular : Regular known service) {search : Search}
    (member : search ∈ service.searches) (completes : search.MayComplete service)
    (ready : search.stage ≠ .queued) :
    ∃ detection, (service.pollSearch search.id).1 = some detection ∧ detection.cancelled = false ∧
      (service.pollSearch search.id).2.Holds search.request.key := by
  have found := search?_of_mem regular.sound member
  obtain ⟨current, prospect⟩ := completes
  rcases service.pollSearch_cases search.id with ⟨_, queued⟩ | ⟨other, detection, same, outcome⟩
  · exact absurd (queued search found) ready
  · rw [found] at same
    cases same
    rcases outcome with ⟨stage, _⟩ | ⟨stage, polled⟩ | ⟨stage, ran, polled⟩
    · simp [stage] at prospect
    · have complete : detection.cancelled = false := by simpa [stage] using prospect
      refine ⟨detection, by rw [polled], complete, ?_⟩
      rw [polled, settle, current]
      exact remember_holds regular.lives search.request.key complete
    · have complete : detection.cancelled = false := by
        simp only [stage] at prospect
        rw [ran]
        rcases prospect with uncancelled | unpatterned
        · exact search.request.run_uncancelled _ (regular.quiet.search member) uncancelled
        · exact search.request.run_unpatterned _ unpatterned
      have unchanged := search.request.run_cancellation (regular.quiet.search member)
        service.cancellation
      refine ⟨detection, by rw [polled], complete, ?_⟩
      rw [polled, unchanged, settle, current]
      exact remember_holds regular.lives search.request.key complete

/-- A poll of a call remembers the result of the search that it waits for. -/
theorem advance_holds (regular : Regular known service) {call : Call} {search : Search}
    (member : search ∈ service.searches) (waiting : call.progress.search? = some search.id)
    (completes : search.MayComplete service) (ready : search.stage ≠ .queued) :
    (service.advance call.snapshot call.token call.progress).2.Holds search.request.key := by
  obtain ⟨detection, polled, complete, holds⟩ := pollSearch_holds regular member completes ready
  cases progress : call.progress with
  | finished blocks =>
      rw [progress] at waiting
      cases waiting
  | repeating id =>
      rw [progress] at waiting
      cases waiting
      rw [advance, pollRepeated_eq]
      exact holds
  | waiting id joined =>
      rw [progress] at waiting
      cases waiting
      rw [advance_waiting, polled]
      simp only [repeats, complete, Bool.false_and, Bool.false_eq_true, if_false]
      exact holds

/-- A poll stores the result of a search that may complete, once the worker is done with it. -/
theorem poll_holds (linked : Linked known service) (regular : Regular known service) {call : Call}
    (callMember : call ∈ service.calls) {search : Search} (member : search ∈ service.searches)
    (waiting : call.progress.search? = some search.id) (completes : search.MayComplete service)
    (ready : search.stage ≠ .queued) : (service.poll call.id).Holds call.snapshot.key := by
  have holds := advance_holds regular member waiting completes ready
  rw [Consistent.awaited_key ⟨regular.sound, linked⟩ callMember member waiting] at holds
  rw [poll_eq (call?_of_mem linked callMember)]
  exact holds

/-- A search that may complete does so when the worker answers it. -/
theorem served_mayComplete (regular : Regular known service) {search : Search}
    (member : search ∈ service.searches) (completes : search.MayComplete service) :
    ∃ served ∈ (service.serve fun _ => true).searches, served.id = search.id ∧
      served.MayComplete (service.serve fun _ => true) ∧ served.stage ≠ .queued := by
  obtain ⟨current, prospect⟩ := completes
  rw [serve_quiet regular.sound regular.quiet]
  by_cases queued : search.stage = .queued
  · have complete : (search.request.run service.cancellation).1.cancelled = false := by
      simp only [queued] at prospect
      rcases prospect with uncancelled | unpatterned
      · exact search.request.run_uncancelled _ (regular.quiet.search member) uncancelled
      · exact search.request.run_unpatterned _ unpatterned
    refine ⟨search.answered service.cancellation, ?_, rfl, ⟨current, complete⟩, ?_⟩
    · exact List.mem_map.mpr ⟨search, member, by simp [queued]⟩
    · exact fun impossible => by cases impossible
  · refine ⟨search, List.mem_map.mpr ⟨search, member, by simp [queued]⟩, rfl, ?_, queued⟩
    exact ⟨current, prospect⟩

/-- A call waits for a search that may still be remembered. -/
def Awaits (service : Service) (call : Call) : Prop :=
  ∃ search ∈ service.searches, call.progress.search? = some search.id ∧
    search.MayComplete service

/-- Once the worker has answered, a call whose search may complete has its result remembered. -/
theorem served_holds (linked : Linked known service) (regular : Regular known service) {call : Call}
    (callMember : call ∈ service.calls) (awaits : service.Awaits call) :
    (service.run [.serve fun _ => true, .poll call.id]).Holds call.snapshot.key := by
  obtain ⟨search, member, waiting, completes⟩ := awaits
  obtain ⟨served, servedMember, named, still, ready⟩ :=
    served_mayComplete regular member completes
  have on := serve_goesOn regular.sound fun _ => true
  have stillOpen : call ∈ (service.serve fun _ => true).calls := by
    rw [serve_eq]
    exact callMember
  exact poll_holds (serve_linked linked _) (regular.goOn on) stillOpen servedMember
    (by rw [named, waiting]) still ready

/-- A search that is begun with a token that is not cancelled is remembered at once, or waits for
the worker with prospects. -/
theorem beginSearch_prospect (regular : Regular known service) (snapshot : Snapshot) (token : Token)
    (snapshotKnown : known snapshot) (uncancelled : service.isCancelled token = false) :
    ((service.beginSearch snapshot token).2.pollRepeated service.searchCount).2.Holds snapshot.key ∨
      (service.beginSearch snapshot token).2.pollRepeated service.searchCount =
          (.repeating service.searchCount, (service.beginSearch snapshot token).2) ∧
        (service.newSearch snapshot token).MayComplete (service.beginSearch snapshot token).2 := by
  have begun := regular.goOn (beginSearch_goesOn regular.sound snapshot token snapshotKnown)
  have member : service.newSearch snapshot token ∈ (service.beginSearch snapshot token).2.searches := by
    rw [beginSearch_searches]
    exact List.mem_append_right _ List.mem_cons_self
  have completes : (service.newSearch snapshot token).MayComplete
      (service.beginSearch snapshot token).2 := by
    have unanswered : (service.newSearch snapshot token).stage = .orphaned ∨
        (service.newSearch snapshot token).stage = .queued := by
      unfold newSearch
      dsimp only
      split
      · exact Or.inl rfl
      · exact Or.inr rfl
    refine ⟨rfl, ?_⟩
    rcases unanswered with stage | stage
    · rw [stage]
      exact Or.inl uncancelled
    · rw [stage]
      exact Or.inl uncancelled
  rw [pollRepeated_eq]
  by_cases queued : (service.newSearch snapshot token).stage = .queued
  · have unanswered : (service.beginSearch snapshot token).2.pollSearch service.searchCount =
        (none, (service.beginSearch snapshot token).2) := by
      have found : (service.beginSearch snapshot token).2.search? service.searchCount = _ :=
        search?_of_mem begun.sound member
      simp only [pollSearch, found, queued]
    rw [unanswered]
    exact Or.inr ⟨rfl, completes⟩
  · obtain ⟨_, _, _, holds⟩ := pollSearch_holds begun member completes queued
    exact Or.inl holds

/-- A call that has joined a search which turns out to be cancelled begins its own, with prospects,
unless the result is remembered at once. -/
theorem poll_repeats (linked : Linked known service) (regular : Regular known service) {call : Call}
    (callMember : call ∈ service.calls) {id : Nat} (waiting : call.progress = .waiting id true)
    {detection : Detection} (polled : (service.pollSearch id).1 = some detection)
    (cancelled : detection.cancelled = true)
    (uncancelled : (service.pollSearch id).2.isCancelled call.token = false) :
    (service.poll call.id).Holds call.snapshot.key ∨
      ∃ again ∈ (service.poll call.id).calls, again.id = call.id ∧
        again.snapshot = call.snapshot ∧ (service.poll call.id).Awaits again := by
  have on := (pollSearch_goesOn regular.sound id).1
  have off := on.trans (release_goesOn on.sound call.snapshot.key id)
  have free : ((service.pollSearch id).2.release call.snapshot.key id).isCancelled call.token =
      false := uncancelled
  have stepped := service.advance_waiting call.snapshot call.token id true
  rw [polled, ← waiting] at stepped
  generalize (service.pollSearch id).2.release call.snapshot.key id = released at off free stepped
  have repeated : released.repeats call.token true detection = true := by
    simp [repeats, cancelled, free]
  simp only [repeated, if_true] at stepped
  have calls := (advance_advanced service call.snapshot call.token call.progress).calls
  rw [poll_eq (call?_of_mem linked callMember)]
  rw [stepped] at calls ⊢
  rcases beginSearch_prospect (regular.goOn off) call.snapshot call.token
    (linked.known call callMember) free with holds | ⟨repeating, completes⟩
  · exact Or.inl holds
  · right
    rw [repeating] at calls ⊢
    have again : { call with progress := .repeating released.searchCount } ∈
        withProgress (released.beginSearch call.snapshot call.token).2.calls call.id
          (.repeating released.searchCount) :=
      List.mem_map.mpr ⟨call, calls ▸ callMember, by simp⟩
    refine ⟨{ call with progress := .repeating released.searchCount }, again, rfl, rfl,
      released.newSearch call.snapshot call.token, ?_, rfl, completes⟩
    apply List.mem_filter.mpr
    constructor
    · rw [beginSearch_searches]
      exact List.mem_append_right _ List.mem_cons_self
    · exact List.any_eq_true.mpr ⟨_, again, beq_self_eq_true _⟩

/-- A cancelled search that may stop and does not wait for the worker brings an incomplete
result. -/
theorem pollSearch_stops (sound : Sound known service) {search : Search}
    (member : search ∈ service.searches) (stops : search.MayStop)
    (cancelled : service.isCancelled search.request.token = true) (ready : search.stage ≠ .queued) :
    ∃ detection, (service.pollSearch search.id).1 = some detection ∧ detection.cancelled = true := by
  have found := search?_of_mem sound member
  rcases service.pollSearch_cases search.id with ⟨_, queued⟩ | ⟨other, detection, same, outcome⟩
  · exact absurd (queued search found) ready
  · rw [found] at same
    cases same
    rcases outcome with ⟨stage, polled⟩ | ⟨stage, polled⟩ | ⟨stage, ran, polled⟩
    · exact ⟨detection, by rw [polled], by simpa [Search.MayStop, stage] using stops⟩
    · exact ⟨detection, by rw [polled], by simpa [Search.MayStop, stage] using stops⟩
    · have patterned : search.request.detector.registry.lookup search.request.language ≠ [] := by
        simpa [Search.MayStop, stage] using stops
      refine ⟨detection, by rw [polled], ?_⟩
      rw [ran]
      exact search.request.run_halted service.cancellation patterned cancelled

/-- The worker may stop a cancelled search, and is done with it. -/
theorem served_mayStop (regular : Regular known service) {search : Search}
    (member : search ∈ service.searches) (stops : search.MayStop)
    (cancelled : service.isCancelled search.request.token = true) :
    ∃ served ∈ (service.serve fun _ => true).searches, served.request = search.request ∧
      served.MayStop ∧ served.stage ≠ .queued := by
  rw [serve_quiet regular.sound regular.quiet]
  by_cases queued : search.stage = .queued
  · have patterned : search.request.detector.registry.lookup search.request.language ≠ [] := by
      simpa [Search.MayStop, queued] using stops
    refine ⟨search.answered service.cancellation, ?_, rfl,
      search.request.run_halted service.cancellation patterned cancelled, ?_⟩
    · exact List.mem_map.mpr ⟨search, member, by simp [queued]⟩
    · exact fun impossible => by cases impossible
  · exact ⟨search, List.mem_map.mpr ⟨search, member, by simp [queued]⟩, rfl, stops, queued⟩

/-- A call that has joined a cancelled search can be brought to store the result of its own. -/
theorem joined_holds (linked : Linked known service) (regular : Regular known service) {call : Call}
    (callMember : call ∈ service.calls) {search : Search} (member : search ∈ service.searches)
    (joined : call.progress = .waiting search.id true)
    (uncancelled : service.isCancelled call.token = false)
    (cancelled : service.isCancelled search.request.token = true) (stops : search.MayStop) :
    ∃ events, submitted events = [] ∧ (service.run events).Holds call.snapshot.key := by
  obtain ⟨served, servedMember, request, still, ready⟩ :=
    served_mayStop regular member stops cancelled
  have on := serve_goesOn regular.sound fun _ => true
  have servedRegular := regular.goOn on
  have servedLinked := serve_linked linked fun _ => true
  have tokens : (service.serve fun _ => true).cancellation = service.cancellation := by
    rw [serve_quiet regular.sound regular.quiet]
  have stillOpen : call ∈ (service.serve fun _ => true).calls := by
    rw [serve_eq]
    exact callMember
  have named : served.id = search.id := congrArg Worker.Request.receiver request
  obtain ⟨detection, polled, incomplete⟩ := pollSearch_stops servedRegular.sound servedMember still
    (by rw [isCancelled, tokens, request]; exact cancelled) ready
  have free : ((service.serve fun _ => true).pollSearch served.id).2.isCancelled call.token =
      false := by
    rw [isCancelled, pollSearch_cancellation servedRegular.quiet, tokens]
    exact uncancelled
  rcases poll_repeats servedLinked servedRegular stillOpen (by rw [joined, named]) polled incomplete
    free with holds | ⟨again, againMember, sameId, sameSnapshot, awaits⟩
  · exact ⟨[.serve fun _ => true, .poll call.id], rfl, holds⟩
  · have went := poll_consistent ⟨servedRegular.sound, servedLinked⟩ call.id
    have holds := served_holds went.2 (servedRegular.goOn went.1) againMember awaits
    rw [sameSnapshot] at holds
    refine ⟨[.serve fun _ => true, .poll call.id] ++ [.serve fun _ => true, .poll again.id], rfl, ?_⟩
    rw [run_append]
    exact holds

/-- A call that may store something can be brought to do so without a new request. -/
theorem mayStore_holds (linked : Linked known service) (regular : Regular known service)
    {call : Call} (callMember : call ∈ service.calls) (may : service.MayStore call) :
    ∃ events, submitted events = [] ∧ (service.run events).Holds call.snapshot.key := by
  obtain ⟨search, member, waiting, completes | ⟨joined, uncancelled, other, stops⟩⟩ := may
  · exact ⟨_, rfl, served_holds linked regular callMember ⟨search, member, waiting, completes⟩⟩
  · -- With the token of the joined search cancelled, the call has to begin a search of its own.
    have on := cancellation_goesOn regular.sound _
      (service.cancellation.cancel_grows search.request.token)
    have stopped : Linked known (service.cancel search.request.token) :=
      linked.frame rfl rfl rfl fun _ member => ⟨member, rfl⟩
    have free : (service.cancel search.request.token).isCancelled call.token = false := by
      have apart : (call.token == search.request.token) = false := by
        simpa using fun same => other same.symm
      simp only [cancel, isCancelled, Cancellation.cancel_isCancelled, apart, Bool.false_or]
      exact uncancelled
    have bound : (service.cancel search.request.token).isCancelled search.request.token = true := by
      simp [cancel, isCancelled, Cancellation.cancel_isCancelled]
    obtain ⟨events, silent, holds⟩ :=
      joined_holds stopped (regular.goOn on) callMember member joined free bound stops
    exact ⟨.cancel search.request.token :: events, silent, holds⟩

/-- Nothing is remembered under the chosen keys, and whoever asks with one of them gets a search of
their own text. -/
structure Forgotten (keys : String → Prop) (service : Service) : Prop where
  cache : ∀ entry ∈ service.cache.entries, ¬keys entry.key
  call : ∀ snapshot token, keys snapshot.key →
    (service.enter snapshot token).1 =
      if service.settings.isEnabled snapshot.language then .waiting service.searchCount false
      else .finished []
  now : ∀ snapshot token, keys snapshot.key →
    (service.detectNow snapshot token).1 =
      if service.settings.isEnabled snapshot.language then
        ((service.newSearch snapshot token).request.run service.cancellation).1.blocks
      else []

section

variable {keys : String → Prop}

/-- Keys that no call can bring back are forgotten. -/
theorem Spent.forgotten (spent : Spent keys service) : Forgotten keys service := by
  have missed (snapshot : Snapshot) (keyed : keys snapshot.key) :
      service.lookUp snapshot.key = (none, (service.lookUp snapshot.key).2) := by
    have absent := service.cache.get_absent service.now snapshot.key fun entry member same =>
      spent.cache entry member (same ▸ keyed)
    exact Prod.ext absent rfl
  refine ⟨spent.cache, ?_, ?_⟩
  · intro snapshot token keyed
    cases enabled : service.settings.isEnabled snapshot.language with
    | false => simp [enter, enabled]
    | true =>
        have alone : ((service.lookUp snapshot.key).2.evictOthers snapshot).inFlight.lookup
            snapshot.key = none := by
          by_contra listed
          obtain ⟨id, found⟩ := Option.ne_none_iff_exists'.mp listed
          exact spent.inFlight _ (List.mem_of_mem_filter (mem_of_lookup found)) keyed
        simp only [enter, enabled, Bool.not_true, Bool.false_eq_true, if_false, if_true]
        rw [missed snapshot keyed]
        simp only [joinOrBegin, alone]
        rfl
  · intro snapshot token keyed
    cases enabled : service.settings.isEnabled snapshot.language with
    | false => simp [detectNow, enabled]
    | true =>
        simp only [detectNow, enabled, Bool.not_true, Bool.false_eq_true, if_false, if_true]
        rw [missed snapshot keyed]
        rfl

/-- Keys of a document stay forgotten after its invalidation exactly if no call for them may
store. -/
theorem forgotten_iff {uri : String} (linked : Linked known service) (regular : Regular known service)
    (within : ∀ key, keys key → keyOfDocument uri key = true) :
    (∀ later, (∀ snapshot ∈ submitted later, known snapshot ∧ ¬keys snapshot.key) →
      Forgotten keys ((service.invalidateDocument uri).2.run later)) ↔
    ∀ call ∈ service.calls, keys call.snapshot.key → ¬service.MayStore call := by
  rcases step_cases ⟨regular.sound, linked⟩ (.invalidateDocument uri)
    (fun _ submits => by cases submits) with ⟨on, stillLinked⟩ | ⟨renews, _⟩
  · constructor
    · intro lasting call member keyed may
      obtain ⟨later, silent, entry, stored, same⟩ :=
        mayStore_holds stillLinked (regular.goOn on) member may
      have forgotten := lasting later (by rw [silent]; exact fun _ absent => by cases absent)
      exact forgotten.cache entry stored (same ▸ keyed)
    · intro none later others
      have spent := invalidateDocument_spent within none
      exact (run_spent ⟨on.sound, stillLinked⟩ spent later others).forgotten
  · cases renews

end

/-- A document that was invalidated stays forgotten until a new request is made for it, whatever
happens meanwhile, exactly if none of the calls that were open for it may store anything. The
invalidation itself does not stop such a call. This holds with documents told apart as the service
does it, by how keys begin, and, as long as languages have no number sign, by their names as
well. -/
theorem invalidateDocument_lasting_iff (registry : Registry) (quiet : registry.Quiet)
    (events : List Event) (eventsQuiet : ∀ event ∈ events, event.Quiet) (uri : String) :
    let service := (new registry).run events
    ((∀ later, (∀ snapshot ∈ submitted later, keyOfDocument uri snapshot.key = false) →
      Forgotten (keyOfDocument uri · = true) ((service.invalidateDocument uri).2.run later)) ↔
    ∀ call ∈ service.calls, keyOfDocument uri call.snapshot.key = true →
      ¬service.MayStore call) ∧
    ((∀ snapshot ∈ submitted events, '#' ∉ snapshot.language.toList) →
      ((∀ later, (∀ snapshot ∈ submitted later,
          '#' ∉ snapshot.language.toList ∧ snapshot.uri ≠ uri) →
        Forgotten (RevisionOf uri) ((service.invalidateDocument uri).2.run later)) ↔
      ∀ call ∈ service.calls, call.snapshot.uri = uri → ¬service.MayStore call)) := by
  intro service
  constructor
  · obtain ⟨linked, regular⟩ : Linked (fun _ => True) service ∧ Regular (fun _ => True) service :=
      run_regular quiet events eventsQuiet fun _ _ => trivial
    have within : ∀ key, keyOfDocument uri key = true → keyOfDocument uri key = true :=
      fun _ keyed => keyed
    simpa only [true_and, Bool.not_eq_true] using forgotten_iff linked regular within
  · intro plain
    obtain ⟨linked, regular⟩ : Linked (fun snapshot => '#' ∉ snapshot.language.toList) service ∧
        Regular (fun snapshot => '#' ∉ snapshot.language.toList) service :=
      run_regular quiet events eventsQuiet plain
    have within : ∀ key, RevisionOf uri key → keyOfDocument uri key = true :=
      fun _ revision => revision.keyOfDocument
    have others (later : List Event) : (∀ snapshot ∈ submitted later,
        '#' ∉ snapshot.language.toList ∧ snapshot.uri ≠ uri) ↔ ∀ snapshot ∈ submitted later,
          '#' ∉ snapshot.language.toList ∧ ¬RevisionOf uri snapshot.key :=
      forall₂_congr fun snapshot _ => and_congr_right fun plain =>
        not_congr (Snapshot.revisionOf_iff plain uri).symm
    simp only [others]
    refine (forgotten_iff linked regular within).trans (forall₂_congr fun call member => ?_)
    rw [Snapshot.revisionOf_iff (linked.known call member)]

/-- A call that waits for its search when its document is invalidated brings the document back.
Without the call the document stays forgotten, also when another one is requested whose name begins
like it. -/
theorem invalidateDocument_lasting_iff_pending :
    let snapshot : Snapshot := ⟨"a.py", 1, "python", "\"\"\"One\"\"\"".toList⟩
    let fragment : Snapshot := ⟨"a.py#x", 1, "python", "\"\"\"Two\"\"\"".toList⟩
    let pending := (new Registry.builtin).run [.begin snapshot 0]
    let dropped := (new Registry.builtin).run [.begin snapshot 0, .drop 0]
    (¬∀ later, (∀ other ∈ submitted later, keyOfDocument "a.py" other.key = false) →
      Forgotten (keyOfDocument "a.py" · = true)
        ((pending.invalidateDocument "a.py").2.run later)) ∧
      keyOfDocument "a.py" fragment.key = true ∧
      Forgotten (RevisionOf "a.py")
        ((dropped.invalidateDocument "a.py").2.run [.begin fragment 0]) := by
  intro snapshot fragment pending dropped
  have waiting : ∀ event ∈ [Event.begin snapshot 0], event.Quiet := by
    intro event member
    rw [List.mem_singleton.mp member]
    trivial
  have dropping : ∀ event ∈ [Event.begin snapshot 0, .drop 0], event.Quiet := by
    rintro event (_ | ⟨_, _ | ⟨_, none⟩⟩)
    · trivial
    · trivial
    · cases none
  refine ⟨fun lasting => ?_, by decide +kernel, ?_⟩
  · have calls : ⟨0, snapshot, 0, .waiting 0 false⟩ ∈ pending.calls := by decide +kernel
    have searches : pending.searches = [(new Registry.builtin).newSearch snapshot 0] := rfl
    refine (invalidateDocument_lasting_iff Registry.builtin Registry.builtin_quiet _ waiting
      "a.py").1.mp lasting _ calls (by decide +kernel) ?_
    refine ⟨(new Registry.builtin).newSearch snapshot 0, ?_, rfl, Or.inl ⟨rfl, Or.inl rfl⟩⟩
    change _ ∈ pending.searches
    rw [searches]
    exact List.mem_cons_self
  · have plain : ∀ other ∈ submitted [Event.begin snapshot 0, .drop 0],
        '#' ∉ other.language.toList := by decide +kernel
    have calls : dropped.calls = [] := by decide +kernel
    refine ((invalidateDocument_lasting_iff Registry.builtin Registry.builtin_quiet _ dropping
      "a.py").2 plain).mpr (fun call member => ?_) [.begin fragment 0] (by decide +kernel)
    change call ∈ dropped.calls at member
    rw [calls] at member
    cases member

end DocBlocks.Service
