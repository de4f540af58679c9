/-
This file says what may still come of the searches and calls that are under way.
-/

import DocBlocks.Proofs.Service.Calls

namespace DocBlocks.Service

/-- The search may still bring a complete result that is remembered. -/
def Search.MayComplete (service : Service) (search : Search) : Prop :=
  search.generation = service.generation ∧
    match search.stage with
    | .delivered detection => detection.cancelled = false
    | .settled _ => False
    | _ => service.isCancelled search.request.token = false ∨
        search.request.detector.registry.lookup search.request.language = []

/-- The search may still bring an incomplete result. -/
def Search.MayStop (search : Search) : Prop :=
  match search.stage with
  | .delivered detection => detection.cancelled = true
  | .settled detection => detection.cancelled = true
  | _ => search.request.detector.registry.lookup search.request.language ≠ []

/-- The call waits for a search that may still be remembered, or it has joined a search that
somebody else may cancel, after which it begins its own. -/
def MayStore (service : Service) (call : Call) : Prop :=
  ∃ search ∈ service.searches, call.progress.search? = some search.id ∧
    (search.MayComplete service ∨
      call.progress = .waiting search.id true ∧ service.isCancelled call.token = false ∧
        search.request.token ≠ call.token ∧ search.MayStop)

/-- No search has better prospects than before, and tokens stay cancelled. -/
structure Wanes (before after : Service) : Prop where
  cancellation : before.cancellation.Grows after.cancellation
  searchCount : before.searchCount ≤ after.searchCount
  searches : ∀ search ∈ after.searches, before.searchCount ≤ search.id ∨
    ∃ old ∈ before.searches, old.request = search.request ∧
      (search.MayComplete after → old.MayComplete before) ∧ (search.MayStop → old.MayStop)

variable {known : Snapshot → Prop} {service : Service}

/-- What a search may bring depends on the generation and on its token only. -/
theorem Search.MayComplete.earlier {before after : Service} {search : Search}
    (completes : search.MayComplete after) (generation : after.generation = before.generation)
    (grows : before.cancellation.Grows after.cancellation) : search.MayComplete before := by
  refine ⟨completes.1.trans generation, ?_⟩
  have prospect := completes.2
  cases stage : search.stage with
  | delivered detection => simpa [stage] using prospect
  | settled detection => simp [stage] at prospect
  | queued =>
      simp only [stage] at prospect
      exact prospect.imp_left grows.uncancelled
  | orphaned =>
      simp only [stage] at prospect
      exact prospect.imp_left grows.uncancelled

/-- Prospects are no better as long as searches are only begun or dropped. -/
theorem wanes_of_searches {before after : Service} (generation : after.generation = before.generation)
    (grows : before.cancellation.Grows after.cancellation)
    (count : before.searchCount ≤ after.searchCount)
    (searches : ∀ search ∈ after.searches,
      before.searchCount ≤ search.id ∨ search ∈ before.searches) : Wanes before after where
  cancellation := grows
  searchCount := count
  searches search member := (searches search member).imp_right fun old =>
    ⟨search, old, rfl, fun completes => completes.earlier generation grows, fun stops => stops⟩

theorem Wanes.refl (service : Service) : Wanes service service :=
  wanes_of_searches rfl (Cancellation.Grows.refl _) (Nat.le_refl _) fun _ member => Or.inr member

/-- Prospects that do not get better by one step and by the next do not by both. -/
theorem Wanes.trans {first second third : Service} (early : Wanes first second)
    (late : Wanes second third) : Wanes first third where
  cancellation := early.cancellation.trans late.cancellation
  searchCount := Nat.le_trans early.searchCount late.searchCount
  searches search member := by
    rcases late.searches search member with new | ⟨middle, middleMember, request, completes, stops⟩
    · exact Or.inl (Nat.le_trans early.searchCount new)
    · rcases early.searches middle middleMember with new |
        ⟨old, oldMember, oldRequest, oldCompletes, oldStops⟩
      · left
        rw [Search.id, ← request]
        exact new
      · exact Or.inr ⟨old, oldMember, oldRequest.trans request,
          fun may => oldCompletes (completes may), fun may => oldStops (stops may)⟩

/-- An incomplete result tells that there were patterns to stop before. -/
theorem run_mayStop {search : Search} {moment : Cancellation}
    (unanswered : search.stage.detection? = none)
    (stopped : (search.request.run moment).1.cancelled = true) : search.MayStop := by
  have patterned : search.request.detector.registry.lookup search.request.language ≠ [] := by
    intro unpatterned
    rw [search.request.run_unpatterned moment unpatterned] at stopped
    cases stopped
  cases stage : search.stage with
  | queued => simpa [Search.MayStop, stage] using patterned
  | orphaned => simpa [Search.MayStop, stage] using patterned
  | delivered detection => rw [stage] at unanswered; cases unanswered
  | settled detection => rw [stage] at unanswered; cases unanswered

/-- A complete result tells that the search was not cancelled, or that it had no patterns. -/
theorem run_mayComplete {search : Search} {moment : Cancellation}
    (unanswered : search.stage.detection? = none)
    (current : search.generation = service.generation)
    (grows : service.cancellation.Grows moment)
    (complete : (search.request.run moment).1.cancelled = false) : search.MayComplete service := by
  have unstopped : service.isCancelled search.request.token = false ∨
      search.request.detector.registry.lookup search.request.language = [] := by
    by_cases unpatterned : search.request.detector.registry.lookup search.request.language = []
    · exact Or.inr unpatterned
    · left
      by_contra cancelled
      have halted := search.request.run_halted moment unpatterned
        (grows _ (eq_true_of_ne_false cancelled))
      rw [complete] at halted
      cases halted
  refine ⟨current, ?_⟩
  cases stage : search.stage with
  | queued => exact unstopped
  | orphaned => exact unstopped
  | delivered detection => rw [stage] at unanswered; cases unanswered
  | settled detection => rw [stage] at unanswered; cases unanswered

/-- Only a complete result of the present generation is remembered. -/
theorem mem_remember {key : String} {generation : Nat} {detection : Detection}
    {entry : Cache.Entry (List Block)}
    (member : entry ∈ (service.remember key generation detection).cache.entries) :
    entry ∈ service.cache.entries ∨
      entry.key = key ∧ detection.cancelled = false ∧ generation = service.generation := by
  unfold remember at member
  split at member
  · exact Or.inl member
  · rename_i kept
    have complete : detection.cancelled = false ∧ service.generation = generation := by
      simpa [not_or] using kept
    rcases service.cache.mem_store _ _ _ entry member with new | ⟨old, _⟩
    · subst new
      exact Or.inr ⟨rfl, complete.1, complete.2.symm⟩
    · exact Or.inl old

/-- A search has no prospects left once its result has been looked at, but for what it says. -/
theorem settle_wanes (sound : Sound known service) {search : Search} {detection : Detection}
    (member : search ∈ service.searches) (stops : detection.cancelled = true → search.MayStop) :
    Wanes service (service.settle search detection) where
  cancellation := by
    rw [settle_eq]
    exact Cancellation.Grows.refl _
  searchCount := Nat.le_of_eq (by rw [settle_eq])
  searches other otherMember := by
    right
    rcases mem_setStage otherMember with ⟨old, _⟩ | ⟨old, oldMember, named, same⟩
    · rw [remember_searches] at old
      refine ⟨other, old, rfl, ?_, fun may => may⟩
      intro completes
      exact completes.earlier (by rw [settle_eq]) (by rw [settle_eq]; exact Cancellation.Grows.refl _)
    · rw [remember_searches] at oldMember
      have identical := sound.unique oldMember member named
      subst identical same
      exact ⟨old, oldMember, rfl, fun impossible => impossible.2.elim, stops⟩

/-- What is in the cache after a search was there before, or is the complete result of the
search. -/
theorem mem_settle {search : Search} {detection : Detection} {entry : Cache.Entry (List Block)}
    (member : entry ∈ (service.settle search detection).cache.entries) :
    entry ∈ service.cache.entries ∨ entry.key = search.request.key ∧
      detection.cancelled = false ∧ search.generation = service.generation :=
  mem_remember member

/-- What a poll of a search may do: it brings an incomplete result only if the search may stop, and
it remembers a result only if the search may complete. -/
theorem pollSearch_prospects (sound : Sound known service) (id : Nat) :
    Wanes service (service.pollSearch id).2 ∧
    (∀ detection, (service.pollSearch id).1 = some detection → detection.cancelled = true →
      ∃ search, service.search? id = some search ∧ search.MayStop) ∧
    (∀ entry ∈ (service.pollSearch id).2.cache.entries, entry ∈ service.cache.entries ∨
      ∃ search, service.search? id = some search ∧ entry.key = search.request.key ∧
        search.MayComplete service) := by
  rcases service.pollSearch_cases id with ⟨polled, _⟩ | ⟨search, detection, found, outcome⟩
  · rw [polled]
    exact ⟨Wanes.refl service, (fun _ absent => by cases absent), fun _ member => Or.inl member⟩
  · have member := (search?_mem found).1
    rcases outcome with ⟨stage, polled⟩ | ⟨stage, polled⟩ | ⟨stage, ran, polled⟩
    · have stops (cancelled : detection.cancelled = true) : search.MayStop := by
        simpa [Search.MayStop, stage] using cancelled
      rw [polled]
      refine ⟨Wanes.refl service, ?_, fun _ member => Or.inl member⟩
      intro result same cancelled
      cases same
      exact ⟨search, found, stops cancelled⟩
    · have stops (cancelled : detection.cancelled = true) : search.MayStop := by
        simpa [Search.MayStop, stage] using cancelled
      rw [polled]
      refine ⟨settle_wanes sound member stops, ?_, ?_⟩
      · intro result same cancelled
        cases same
        exact ⟨search, found, stops cancelled⟩
      · intro entry entryMember
        refine (mem_settle entryMember).imp_right ?_
        rintro ⟨keyed, complete, current⟩
        exact ⟨search, found, keyed, current, by simpa [stage] using complete⟩
    · have unanswered : search.stage.detection? = none := by rw [stage]; rfl
      have grows := search.request.run_grows service.cancellation
      have stops (cancelled : detection.cancelled = true) : search.MayStop :=
        run_mayStop unanswered (ran ▸ cancelled)
      have ticked := cancellation_goesOn sound _ grows
      rw [polled]
      refine ⟨?_, ?_, ?_⟩
      · apply Wanes.trans _ (settle_wanes ticked.sound member stops)
        exact wanes_of_searches rfl grows (Nat.le_refl _) fun _ old => Or.inr old
      · intro result same cancelled
        cases same
        exact ⟨search, found, stops cancelled⟩
      · intro entry entryMember
        refine (mem_settle entryMember).imp_right ?_
        rintro ⟨keyed, complete, current⟩
        exact ⟨search, found, keyed, run_mayComplete unanswered current
          (Cancellation.Grows.refl _) (ran ▸ complete)⟩

/-- The worker betters no prospects. -/
theorem serve_wanes (sound : Sound known service) (chosen : Nat → Bool) :
    Wanes service (service.serve chosen) where
  cancellation := (serve_goesOn sound chosen).cancellation
  searchCount := (serve_goesOn sound chosen).searchCount
  searches search member := by
    have on := serve_goesOn sound chosen
    right
    rcases mem_serve sound chosen member with ⟨old, _⟩ |
      ⟨old, oldMember, queued, _, moment, early, _, same⟩
    · exact ⟨search, old, rfl, fun may => may.earlier on.generation on.cancellation, fun may => may⟩
    · have unanswered : old.stage.detection? = none := by rw [queued]; rfl
      subst same
      refine ⟨old, oldMember, rfl, ?_, run_mayStop unanswered⟩
      rintro ⟨current, complete⟩
      exact run_mayComplete unanswered (current.trans on.generation) early complete

/-- No prospects get better when the worker is lost. -/
theorem loseWorker_wanes (sound : Sound known service) : Wanes service service.loseWorker where
  cancellation := (loseWorker_goesOn sound).cancellation
  searchCount := (loseWorker_goesOn sound).searchCount
  searches search member := by
    have on := loseWorker_goesOn sound
    right
    rcases mem_loseWorker member with old | ⟨old, oldMember, queued, same⟩
    · exact ⟨search, old, rfl, fun may => may.earlier on.generation on.cancellation, fun may => may⟩
    · subst same
      refine ⟨old, oldMember, rfl, ?_, ?_⟩
      · intro may
        have earlier := may.earlier on.generation on.cancellation
        exact ⟨earlier.1, by rw [queued]; exact earlier.2⟩
      · intro may
        simpa [Search.MayStop, queued] using may

/-- Searches of generations that are over have no prospects of being remembered. -/
theorem Renewed.wanes {before after : Service} (renewed : Renewed before after)
    (sound : Sound known before) : Wanes before after where
  cancellation := renewed.persists.cancellation
  searchCount := renewed.persists.searchCount
  searches search member := by
    rw [renewed.searches] at member
    refine Or.inr ⟨search, member, rfl, ?_, fun may => may⟩
    intro may
    have past := (sound.searches search member).past
    have current := may.1
    rw [renewed.generation] at current
    omega

/-- A call that goes on waiting may store something only if it might before. -/
theorem Wanes.mayStore {before after : Service} (wanes : Wanes before after)
    (consistent : Consistent known before) {call : Call} (member : call ∈ before.calls)
    (may : after.MayStore call) : before.MayStore call := by
  obtain ⟨search, searchMember, waiting, prospect⟩ := may
  have below := consistent.awaited_lt member waiting
  rcases wanes.searches search searchMember with new |
    ⟨old, oldMember, request, completes, stops⟩
  · exact absurd below (Nat.not_lt.mpr new)
  · have named : old.id = search.id := congrArg Worker.Request.receiver request
    refine ⟨old, oldMember, by rw [named, waiting], ?_⟩
    rcases prospect with complete | ⟨joined, uncancelled, other, stop⟩
    · exact Or.inl (completes complete)
    · refine Or.inr ⟨by rw [named, joined], wanes.cancellation.uncancelled uncancelled, ?_, stops stop⟩
      rw [request]
      exact other

/-- No prospects get better when a search is taken off the list. -/
theorem release_wanes (service : Service) (key : String) (id : Nat) :
    Wanes service (service.release key id) :=
  wanes_of_searches rfl (Cancellation.Grows.refl _) (Nat.le_refl _) fun _ member => Or.inr member

/-- No prospects get better when another search begins. -/
theorem beginSearch_wanes (service : Service) (snapshot : Snapshot) (token : Token) :
    Wanes service (service.beginSearch snapshot token).2 := by
  refine wanes_of_searches rfl (Cancellation.Grows.refl service.cancellation)
    (Nat.le_succ service.searchCount) ?_
  intro search member
  rw [beginSearch_searches, List.mem_append] at member
  rcases member with old | new
  · exact Or.inr old
  · left
    rw [List.mem_singleton.mp new]
    exact Nat.le_refl _

/-- A search that has just been begun is found by its number. -/
theorem beginSearch_search? (sound : Sound known service) (snapshot : Snapshot) (token : Token)
    {search : Search}
    (found : (service.beginSearch snapshot token).2.search? service.searchCount = some search) :
    search = service.newSearch snapshot token := by
  obtain ⟨member, named⟩ := search?_mem found
  rw [beginSearch_searches, List.mem_append] at member
  rcases member with old | new
  · have below := (sound.searches search old).numbered
    exact absurd named (Nat.ne_of_lt below)
  · exact List.mem_singleton.mp new

/-- What a poll may do for a call: without prospects it goes on waiting or comes to its end, and
nothing is remembered. -/
structure Polled (service : Service) (call : Call) (progress : Progress) (next : Service) : Prop where
  wanes : Wanes service next
  progress : progress = call.progress ∨ progress.search? = none ∨ service.MayStore call
  cache : ∀ entry ∈ next.cache.entries, entry ∈ service.cache.entries ∨
    entry.key = call.snapshot.key ∧ service.MayStore call

/-- A call that begins its own search after one that it had joined might have been expected to. -/
theorem mayStore_of_repeats (sound : Sound known service) {call : Call} {id : Nat} {joined : Bool}
    {detection : Detection} (waiting : call.progress = .waiting id joined)
    (polled : (service.pollSearch id).1 = some detection)
    (repeated : (service.pollSearch id).2.repeats call.token joined detection = true) :
    service.MayStore call := by
  obtain ⟨⟨cancelled, isJoined⟩, uncancelled⟩ :
      (detection.cancelled = true ∧ joined = true) ∧
        (service.pollSearch id).2.isCancelled call.token = false := by
    simpa [repeats] using repeated
  obtain ⟨wanes, stops, _⟩ := pollSearch_prospects sound id
  obtain ⟨search, found, stop⟩ := stops detection polled cancelled
  obtain ⟨answering, same, answered⟩ := (pollSearch_goesOn sound id).2 detection polled
  rw [found] at same
  cases same
  obtain ⟨member, named⟩ := search?_mem found
  have excused := answered.excused cancelled
  subst isJoined named
  refine ⟨search, member, by rw [waiting]; rfl, Or.inr ⟨waiting, ?_, ?_, stop⟩⟩
  · exact wanes.cancellation.uncancelled uncancelled
  · intro own
    rw [own] at excused
    exact Bool.false_ne_true (uncancelled.symm.trans excused)

/-- No progress of a call does more than a poll may do. -/
theorem advance_polled (consistent : Consistent known service) {call : Call}
    (member : call ∈ service.calls) :
    Polled service call (service.advance call.snapshot call.token call.progress).1
      (service.advance call.snapshot call.token call.progress).2 := by
  have stored (id : Nat) (waiting : call.progress.search? = some id) :
      ∀ entry ∈ (service.pollSearch id).2.cache.entries, entry ∈ service.cache.entries ∨
        entry.key = call.snapshot.key ∧ service.MayStore call := by
    intro entry entryMember
    rcases (pollSearch_prospects consistent.sound id).2.2 entry entryMember with old |
      ⟨search, found, keyed, completes⟩
    · exact Or.inl old
    · obtain ⟨searchMember, named⟩ := search?_mem found
      subst named
      exact Or.inr ⟨keyed.trans (consistent.awaited_key member searchMember waiting),
        search, searchMember, waiting, Or.inl completes⟩
  cases progress : call.progress with
  | finished blocks =>
      exact ⟨Wanes.refl service, Or.inr (Or.inl rfl), fun _ old => Or.inl old⟩
  | repeating id =>
      have waiting : call.progress.search? = some id := by rw [progress]; rfl
      rw [advance, pollRepeated_eq]
      refine ⟨(pollSearch_prospects consistent.sound id).1, ?_, stored id waiting⟩
      cases (service.pollSearch id).1 with
      | none => exact Or.inl progress.symm
      | some detection => exact Or.inr (Or.inl rfl)
  | waiting id joined =>
      have waiting : call.progress.search? = some id := by rw [progress]; rfl
      obtain ⟨wanes, stops, _⟩ := pollSearch_prospects consistent.sound id
      rw [advance_waiting]
      cases polled : (service.pollSearch id).1 with
      | none => exact ⟨wanes, Or.inl progress.symm, stored id waiting⟩
      | some detection =>
          have released := wanes.trans
            ((service.pollSearch id).2.release_wanes call.snapshot.key id)
          dsimp only
          split
          · rename_i repeated
            have may := mayStore_of_repeats consistent.sound progress polled repeated
            have on := (pollSearch_goesOn consistent.sound id).1
            have off := release_goesOn on.sound call.snapshot.key id
            have begun := beginSearch_goesOn off.sound call.snapshot call.token
              (consistent.linked.known call member)
            obtain ⟨again, _, added⟩ := pollSearch_prospects begun.sound
              ((service.pollSearch id).2.release call.snapshot.key id).searchCount
            rw [pollRepeated_eq]
            refine ⟨(released.trans (beginSearch_wanes _ _ _)).trans again, Or.inr (Or.inr may), ?_⟩
            intro entry entryMember
            rcases added entry entryMember with old | ⟨search, found, keyed, _⟩
            · exact stored id waiting entry old
            · rw [beginSearch_search? off.sound _ _ found] at keyed
              exact Or.inr ⟨keyed, may⟩
          · exact ⟨released, Or.inr (Or.inl rfl), stored id waiting⟩

/-- No prospects get better when searches are dropped. -/
theorem dropUnwaited_wanes (service : Service) (calls : List Call) :
    Wanes service (dropUnwaited { service with calls }) :=
  wanes_of_searches rfl (Cancellation.Grows.refl service.cancellation)
    (Nat.le_refl service.searchCount) fun _ member => Or.inr (List.mem_of_mem_filter member)

/-- No prospects get better when a new call joins a search or begins one. -/
theorem joinOrBegin_wanes (service : Service) (snapshot : Snapshot) (token : Token) :
    Wanes service (service.joinOrBegin snapshot token).2 := by
  unfold joinOrBegin
  split
  · exact Wanes.refl service
  · have begun := service.beginSearch_wanes snapshot token
    exact ⟨begun.cancellation, begun.searchCount, begun.searches⟩

/-- A new call betters no prospects and makes no results. -/
theorem enter_wanes (service : Service) (snapshot : Snapshot) (token : Token) :
    Wanes service (service.enter snapshot token).2 ∧
      ∀ entry ∈ (service.enter snapshot token).2.cache.entries, entry ∈ service.cache.entries := by
  have looked : Wanes service (service.lookUp snapshot.key).2 :=
    wanes_of_searches rfl (Cancellation.Grows.refl _) (Nat.le_refl _) fun _ member => Or.inr member
  have found := service.cache.mem_get service.now snapshot.key
  unfold enter
  split
  · exact ⟨Wanes.refl service, fun _ member => member⟩
  · split
    · rename_i blocks next hit
      have same : next = (service.lookUp snapshot.key).2 := by rw [hit]
      subst same
      exact ⟨looked, found⟩
    · rename_i next missing
      have same : next = (service.lookUp snapshot.key).2 := by rw [missing]
      subst same
      have evicted : Wanes (service.lookUp snapshot.key).2
          ((service.lookUp snapshot.key).2.evictOthers snapshot) :=
        wanes_of_searches rfl (Cancellation.Grows.refl _) (Nat.le_refl _)
          fun _ member => Or.inr member
      refine ⟨(looked.trans evicted).trans (joinOrBegin_wanes _ snapshot token), ?_⟩
      unfold joinOrBegin
      split
      · exact found
      · exact found

/-- A search without the worker remembers its own key only. -/
theorem mem_detectNow {snapshot : Snapshot} {token : Token} {entry : Cache.Entry (List Block)}
    (member : entry ∈ (service.detectNow snapshot token).2.cache.entries) :
    entry ∈ service.cache.entries ∨ entry.key = snapshot.key := by
  have found := service.cache.mem_get service.now snapshot.key entry
  unfold detectNow at member
  split at member
  · exact Or.inl member
  · split at member
    · rename_i next hit
      have same : next = (service.lookUp snapshot.key).2 := by rw [hit]
      subst same
      exact Or.inl (found member)
    · rename_i next missing
      have same : next = (service.lookUp snapshot.key).2 := by rw [missing]
      subst same
      rcases mem_remember member with old | ⟨keyed, _⟩
      · exact Or.inl (found old)
      · exact Or.inr keyed

end DocBlocks.Service
