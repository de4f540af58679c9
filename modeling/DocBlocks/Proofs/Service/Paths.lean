/-
This file shows that a revision is detected alike with the worker, without it, and at once.
-/

import DocBlocks.Proofs.Service.Invalidation
import DocBlocks.Proofs.Service.Rest

namespace DocBlocks

namespace Worker

/-- The detection is that of the request, run at some moment between two states of the tokens. -/
def Request.RunBetween (request : Request) (before after : Cancellation) (detection : Detection) :
    Prop :=
  ∃ moment, before.Grows moment ∧ (request.run moment).2.Grows after ∧
    detection = (request.run moment).1

/-- More tokens may be cancelled afterwards. -/
theorem Request.RunBetween.grows {request : Request} {before after later : Cancellation}
    {detection : Detection} (ran : request.RunBetween before after detection)
    (grows : after.Grows later) : request.RunBetween before later detection := by
  obtain ⟨moment, early, late, same⟩ := ran
  exact ⟨moment, early, late.trans grows, same⟩

/-- Fewer tokens may have been cancelled before. -/
theorem Request.RunBetween.later {request : Request} {earlier before after : Cancellation}
    {detection : Detection} (ran : request.RunBetween before after detection)
    (grows : earlier.Grows before) : request.RunBetween earlier after detection := by
  obtain ⟨moment, early, late, same⟩ := ran
  exact ⟨moment, grows.trans early, late, same⟩

/-- A run asks for no token but its own. -/
theorem Request.run_congr (request : Request) {first second : Cancellation}
    (same : first.isCancelled request.token = second.isCancelled request.token) :
    (request.run first).1 = (request.run second).1 := by
  simp only [run, same]

/-- As long as its token stays as it was, a request might as well be run at once. -/
theorem Request.RunBetween.steady {request : Request} {before after : Cancellation}
    {detection : Detection} (ran : request.RunBetween before after detection)
    (steady : after.isCancelled request.token = before.isCancelled request.token) :
    detection = (request.run before).1 := by
  obtain ⟨moment, early, late, same⟩ := ran
  rw [same]
  apply request.run_congr
  cases start : before.isCancelled request.token with
  | true => exact early _ start
  | false =>
      rw [start] at steady
      exact ((request.run_grows moment).trans late).uncancelled steady

end Worker

namespace Service

variable {known : Snapshot → Prop} {service : Service}

/-- Whether a result is remembered does not depend on tokens. -/
theorem remember_tokens (service : Service) (cancellation : Cancellation) (key : String)
    (begun : Nat) (detection : Detection) :
    ({ service with cancellation }.remember key begun detection).cache =
      (service.remember key begun detection).cache := by
  unfold remember
  split <;> rfl

/-- Nothing has been looked up or remembered, and a result would be remembered as before. -/
structure Untouched (before after : Service) : Prop where
  cache : after.cache = before.cache
  now : after.now = before.now
  generation : after.generation = before.generation
  cancellation : before.cancellation.Grows after.cancellation

/-- What one step and the next leave untouched, both do. -/
theorem Untouched.trans {first second third : Service} (early : Untouched first second)
    (late : Untouched second third) : Untouched first third where
  cache := late.cache.trans early.cache
  now := late.now.trans early.now
  generation := late.generation.trans early.generation
  cancellation := early.cancellation.trans late.cancellation

/-- A result would be remembered as before. -/
theorem Untouched.remember_cache {before after : Service} (untouched : Untouched before after)
    (key : String) (begun : Nat) (detection : Detection) :
    (after.remember key begun detection).cache =
      (before.remember key begun detection).cache := by
  unfold remember
  rw [untouched.generation]
  split
  · exact untouched.cache
  · simp only [untouched.cache, untouched.now]

/-- A call has ended and left the cache as it is. -/
def Ended (id : Nat) (blocks : List Block) (cache : Cache (List Block)) (service : Service) : Prop :=
  service.cache = cache ∧ ∃ call, service.call? id = some call ∧ call.progress = .finished blocks

section Ending

variable {id : Nat} {blocks : List Block} {cache : Cache (List Block)}

/-- A call that gets as far as its end has ended when the poll is over. -/
theorem poll_ended {call : Call} {next : Service} (found : service.call? id = some call)
    (advanced : service.advance call.snapshot call.token call.progress = (.finished blocks, next)) :
    (service.poll id).Ended id blocks next.cache ∧
      (service.poll id).cancellation = next.cancellation := by
  refine ⟨⟨?_, _, poll_call? found, ?_⟩, ?_⟩
  · rw [poll_eq found, advanced]
    rfl
  · rw [advanced]
  · rw [poll_eq found, advanced]
    rfl

/-- A call that has ended stays so when it is polled. -/
theorem Ended.poll (ended : service.Ended id blocks cache) :
    (service.poll id).Ended id blocks cache ∧
      (service.poll id).cancellation = service.cancellation := by
  obtain ⟨kept, call, found, finished⟩ := ended
  subst kept
  apply poll_ended found
  rw [finished]
  rfl

/-- A call that has ended stays so when the worker works. -/
theorem Ended.work (ended : service.Ended id blocks cache) :
    service.work.Ended id blocks cache := by
  rw [work_eq_serve, serve_eq]
  exact ended

/-- Waiting for one call is a matter of its polls and of work. -/
theorem awaitFor_single {motive : Service → Prop}
    (poll : ∀ service, motive service → motive (service.poll id))
    (work : ∀ service, motive service → motive service.work)
    (rounds : Nat) (service : Service) (start : motive service) :
    motive (service.awaitFor rounds [id]) := by
  induction rounds generalizing service with
  | zero => exact poll service start
  | succ rounds ih =>
      have polled := poll service start
      change motive (if [id].all (service.poll id).isFinished then service.poll id
        else awaitFor rounds (service.poll id).work [id])
      split
      · exact polled
      · exact ih _ (work _ polled)

/-- Giving up a call does not touch the cache. -/
theorem drop_cache (service : Service) (id : Nat) : (service.drop id).cache = service.cache := by
  unfold drop
  split
  · rfl
  · rename_i call _
    cases call.progress <;> rfl

/-- A call that has ended returns its blocks. -/
theorem result_of_ended (ended : service.Ended id blocks cache) : service.result id = blocks := by
  obtain ⟨_, ⟨_, _, _, _⟩, found, finished⟩ := ended
  subst finished
  rw [result, found]

/-- Somebody who waits for a call that has ended gets its blocks. -/
theorem Ended.finish (ended : service.Ended id blocks cache) :
    (service.finish id).1 = blocks ∧ (service.finish id).2.cache = cache := by
  have awaited : (service.await [id]).Ended id blocks cache :=
    awaitFor_single (fun _ ended => ended.poll.1) (fun _ ended => ended.work) 2 service ended
  exact ⟨result_of_ended awaited, (drop_cache _ id).trans awaited.1⟩

end Ending

/-- A search that is made to order and has come so far. -/
def Order.at (order : Order) (stage : Stage) : Search :=
  ⟨order.request, order.generation, stage⟩

/-- A call waits for a search that it has begun itself. -/
structure AwaitsOwn (service : Service) (id : Nat) (order : Order) (stage : Stage) : Prop where
  call : ∃ call, service.call? id = some call ∧ call.progress = .waiting order.id false
  search : order.at stage ∈ service.searches

section Awaiting

variable {id : Nat} {order : Order} {stage : Stage}

/-- A search is found by the number of its order. -/
theorem search?_order (sound : Sound known service) (member : order.at stage ∈ service.searches) :
    service.search? order.id = some (order.at stage) :=
  search?_of_mem sound member

/-- A call whose search is queued goes on waiting when it is polled. -/
theorem AwaitsOwn.poll_queued (sound : Sound known service)
    (awaits : service.AwaitsOwn id order .queued) :
    (service.poll id).AwaitsOwn id order .queued ∧ Untouched service (service.poll id) := by
  obtain ⟨call, found, waiting⟩ := awaits.call
  have polled : service.pollSearch order.id = (none, service) := by
    rw [pollSearch, search?_order sound awaits.search]
    rfl
  have advanced : service.advance call.snapshot call.token call.progress =
      (call.progress, service) := by
    rw [waiting, advance_waiting, polled]
  have stillOpen : (service.poll id).call? id = some call := by
    rw [poll_call? found, advanced]
  refine ⟨⟨⟨call, stillOpen, waiting⟩, ?_⟩, ?_⟩
  · -- The search is not dropped, for the call still waits for it.
    have member := (call?_mem stillOpen).1
    rw [poll_eq found, advanced] at member ⊢
    refine List.mem_filter.mpr ⟨awaits.search, List.any_eq_true.mpr ⟨call, member, ?_⟩⟩
    rw [waiting]
    exact beq_self_eq_true (some order.id)
  · rw [poll_eq found, advanced]
    exact ⟨rfl, rfl, rfl, Cancellation.Grows.refl _⟩

/-- A call whose search has a result ends when it is polled. -/
theorem AwaitsOwn.poll_answered (awaits : service.AwaitsOwn id order stage)
    {detection : Detection} (polled : (service.pollSearch order.id).1 = some detection) :
    (service.poll id).Ended id detection.blocks (service.pollSearch order.id).2.cache ∧
      (service.poll id).cancellation = (service.pollSearch order.id).2.cancellation := by
  obtain ⟨call, found, waiting⟩ := awaits.call
  have advanced : service.advance call.snapshot call.token call.progress =
      (.finished detection.blocks,
        (service.pollSearch order.id).2.release call.snapshot.key order.id) := by
    rw [waiting, advance_waiting, polled]
    -- Only a call that joined a search of somebody else may have to repeat it.
    simp [repeats]
  apply poll_ended found advanced

/-- A detection that was delivered is the result, and is remembered. -/
theorem pollSearch_delivered (sound : Sound known service) {detection : Detection}
    (member : order.at (.delivered detection) ∈ service.searches) :
    (service.pollSearch order.id).1 = some detection ∧
      (service.pollSearch order.id).2.cache =
        (service.remember order.request.key order.generation detection).cache ∧
      (service.pollSearch order.id).2.cancellation = service.cancellation := by
  have polled : service.pollSearch order.id =
      (some detection, service.settle (order.at (.delivered detection)) detection) := by
    rw [pollSearch, search?_order sound member]
    rfl
  rw [polled]
  exact ⟨rfl, rfl, by rw [settle_eq]⟩

/-- Without the worker a search is made by the poll itself. -/
theorem pollSearch_orphaned (sound : Sound known service)
    (member : order.at .orphaned ∈ service.searches) :
    let detection := (order.request.run service.cancellation).1
    (service.pollSearch order.id).1 = some detection ∧
      (service.pollSearch order.id).2.cache =
        (service.remember order.request.key order.generation detection).cache := by
  intro detection
  have polled : service.pollSearch order.id =
      (some detection, settle
        { service with cancellation := (order.request.run service.cancellation).2 }
          (order.at .orphaned) detection) := by
    rw [pollSearch, search?_order sound member]
    rfl
  rw [polled]
  exact ⟨rfl, service.remember_tokens _ _ _ detection⟩

/-- Work delivers what is queued, and leaves the other searches as they are. -/
theorem work_order (sound : Sound known service) (member : order.at stage ∈ service.searches) :
    stage ≠ .queued ∧ order.at stage ∈ service.work.searches ∨
      stage = .queued ∧ ∃ detection, order.at (.delivered detection) ∈ service.work.searches ∧
        order.request.RunBetween service.cancellation service.work.cancellation detection := by
  rw [work_eq_serve]
  have ordered : order ∈ (service.serve fun _ => true).orders := by
    rw [serve_orders]
    exact List.mem_map_of_mem member
  obtain ⟨search, searchMember, same⟩ := List.mem_map.mp ordered
  rcases mem_serve sound _ searchMember with ⟨old, unchosen⟩ |
    ⟨old, oldMember, queued, _, moment, early, late, served⟩
  · have identical : search = order.at stage := sound.unique old member (congrArg Order.id same)
    subst identical
    exact Or.inl ⟨fun queued => Bool.noConfusion (unchosen queued), searchMember⟩
  · subst served
    have identical : old = order.at stage := sound.unique oldMember member (congrArg Order.id same)
    subst identical
    exact Or.inr ⟨queued, _, searchMember, moment, early, late, rfl⟩

/-- The worker does not touch the cache. -/
theorem work_untouched (sound : Sound known service) : Untouched service service.work := by
  rw [work_eq_serve]
  refine ⟨?_, ?_, ?_, (serve_goesOn sound _).cancellation⟩ <;> rw [serve_eq]

/-- A call still waits for its own search when the worker has worked. -/
theorem AwaitsOwn.of_work {next : Stage} (awaits : service.AwaitsOwn id order stage)
    (member : order.at next ∈ service.work.searches) : service.work.AwaitsOwn id order next where
  call := by
    rw [work_eq_serve, serve_eq]
    exact awaits.call
  search := member

/-- How far a call has come that began its own search: it waits for the worker, or for its own next
poll, or it has ended and its result was remembered. -/
inductive OnItsWay (before : Service) (order : Order) (id : Nat) (service : Service) : Prop
  | queued (awaits : service.AwaitsOwn id order .queued) (untouched : Untouched before service)
  | delivered (detection : Detection) (awaits : service.AwaitsOwn id order (.delivered detection))
      (untouched : Untouched before service)
      (ran : order.request.RunBetween before.cancellation service.cancellation detection)
  | ended (detection : Detection)
      (ended : service.Ended id detection.blocks
        (before.remember order.request.key order.generation detection).cache)
      (ran : order.request.RunBetween before.cancellation service.cancellation detection)

variable {before : Service}

/-- A poll brings the call on its way, if not to its end. -/
theorem OnItsWay.poll (sound : Sound known service) (way : OnItsWay before order id service) :
    OnItsWay before order id (service.poll id) := by
  cases way with
  | queued awaits untouched =>
      obtain ⟨stillWaits, still⟩ := awaits.poll_queued sound
      exact .queued stillWaits (untouched.trans still)
  | delivered detection awaits untouched ran =>
      obtain ⟨answered, stored, tokens⟩ := pollSearch_delivered sound awaits.search
      obtain ⟨ended, same⟩ := awaits.poll_answered answered
      rw [stored, untouched.remember_cache] at ended
      rw [tokens] at same
      exact .ended detection ended (same ▸ ran)
  | ended detection ended ran =>
      obtain ⟨still, same⟩ := ended.poll
      exact .ended detection still (same ▸ ran)

/-- The worker brings the call on its way too. -/
theorem OnItsWay.work (sound : Sound known service) (way : OnItsWay before order id service) :
    OnItsWay before order id service.work := by
  have still := work_untouched sound
  cases way with
  | queued awaits untouched =>
      rcases work_order sound awaits.search with ⟨passed, _⟩ | ⟨_, detection, member, ran⟩
      · exact absurd rfl passed
      · exact .delivered detection (awaits.of_work member) (untouched.trans still)
          (ran.later untouched.cancellation)
  | delivered detection awaits untouched ran =>
      rcases work_order sound awaits.search with ⟨_, member⟩ | ⟨queued, _⟩
      · exact .delivered detection (awaits.of_work member) (untouched.trans still)
          (ran.grows still.cancellation)
      · cases queued
  | ended detection ended ran =>
      exact .ended detection ended.work (ran.grows still.cancellation)

/-- Somebody who waits for a call gets the blocks of the search that it began, and the result is
remembered. -/
theorem OnItsWay.finish (consistent : Consistent known service)
    (way : OnItsWay before order id service) :
    ∃ detection,
      order.request.RunBetween before.cancellation (service.finish id).2.cancellation detection ∧
      (service.finish id).1 = detection.blocks ∧
      (service.finish id).2.cache =
        (before.remember order.request.key order.generation detection).cache := by
  have awaited : Consistent known (service.await [id]) ∧
      OnItsWay before order id (service.await [id]) := by
    refine awaitFor_single (motive := fun service =>
      Consistent known service ∧ OnItsWay before order id service) ?_ ?_ 2 service ⟨consistent, way⟩
    · rintro service ⟨consistent, way⟩
      obtain ⟨on, linked⟩ := poll_consistent consistent id
      exact ⟨⟨on.sound, linked⟩, way.poll consistent.sound⟩
    · rintro service ⟨consistent, way⟩
      refine ⟨?_, way.work consistent.sound⟩
      rw [work_eq_serve]
      exact ⟨(serve_goesOn consistent.sound _).sound, serve_linked consistent.linked _⟩
  obtain ⟨call, found⟩ : ∃ call, service.call? id = some call := by
    cases way with
    | queued awaits _ => exact awaits.call.imp fun _ known => known.1
    | delivered _ awaits _ _ => exact awaits.call.imp fun _ known => known.1
    | ended _ ended _ => exact ended.2.imp fun _ known => known.1
  obtain ⟨blocks, stopped, _⟩ := await_ends consistent found
  -- A call comes to its end, so that it is not on its way any more.
  have arrived {stage : Stage} (awaits : (service.await [id]).AwaitsOwn id order stage) : False := by
    obtain ⟨waiter, same, waiting⟩ := awaits.call
    rw [stopped, Option.some.injEq] at same
    subst same
    cases waiting
  cases awaited.2 with
  | queued awaits _ => exact (arrived awaits).elim
  | delivered _ awaits _ _ => exact (arrived awaits).elim
  | ended detection ended ran =>
      refine ⟨detection, ?_, result_of_ended ended, (drop_cache _ id).trans ended.1⟩
      change order.request.RunBetween _ ((service.await [id]).drop id).cancellation detection
      rw [drop_cancellation]
      exact ran

end Awaiting

section Detecting

variable {snapshot : Snapshot} {looked : Service}

theorem lookUp_eq {blocks : Option (List Block)} {key : String}
    (found : service.lookUp key = (blocks, looked)) :
    looked = { service with cache := looked.cache } := by
  have same : looked = (service.lookUp key).2 := by rw [found]
  rw [same]
  rfl

/-- A revision that is not in flight does not come into flight by evicting others. -/
theorem evictOthers_lookup (absent : service.inFlight.lookup snapshot.key = none) :
    (service.evictOthers snapshot).inFlight.lookup snapshot.key = none := by
  rw [List.lookup_eq_none_iff] at absent ⊢
  exact fun entry member => absent entry (List.mem_of_mem_filter member)

/-- A revision has to be searched for: it is neither remembered nor in flight. -/
structure Misses (service : Service) (snapshot : Snapshot) (looked : Service) : Prop where
  enabled : service.settings.isEnabled snapshot.language = true
  missing : service.lookUp snapshot.key = (none, looked)
  absent : service.inFlight.lookup snapshot.key = none

/-- A revision that has to be searched for is searched for by a new search. -/
theorem enter_missed (misses : service.Misses snapshot looked) (token : Token) :
    let evicted := looked.evictOthers snapshot
    service.enter snapshot token = (.waiting looked.searchCount false,
      { (evicted.beginSearch snapshot token).2 with
        inFlight := evicted.inFlight ++ [(snapshot.key, looked.searchCount)] }) := by
  intro evicted
  have unlisted : evicted.inFlight.lookup snapshot.key = none := by
    apply evictOthers_lookup
    rw [lookUp_eq misses.missing]
    exact misses.absent
  rw [enter, misses.enabled, misses.missing]
  change evicted.joinOrBegin snapshot token = _
  rw [joinOrBegin, unlisted]
  rfl

/-- A search made at once returns what it finds, and remembers that. -/
theorem detectNow_missed (misses : service.Misses snapshot looked) (token : Token) :
    let search := looked.newSearch snapshot token
    let detection := (search.request.run looked.cancellation).1
    (service.detectNow snapshot token).1 = detection.blocks ∧
      (service.detectNow snapshot token).2.cache =
        (looked.remember search.request.key search.generation detection).cache := by
  intro search detection
  rw [detectNow, misses.enabled, misses.missing]
  exact ⟨rfl, looked.remember_tokens _ _ _ detection⟩

/-- A new call is found by its number. -/
theorem opened_call? (consistent : Consistent known service) (snapshotKnown : known snapshot)
    (token : Token) :
    (service.opened snapshot token).call? service.callCount =
      some ⟨service.callCount, snapshot, token, (service.enter snapshot token).1⟩ := by
  have member : ⟨service.callCount, snapshot, token, (service.enter snapshot token).1⟩ ∈
      (service.opened snapshot token).calls := by
    rw [opened_calls consistent.linked]
    simp
  exact call?_of_mem (opened_consistent consistent snapshot token snapshotKnown).2 member

/-- A call that has nothing to wait for returns what it entered with. -/
theorem detect_of_finished (consistent : Consistent known service) (snapshotKnown : known snapshot)
    (token : Token) {blocks : List Block}
    (entered : (service.enter snapshot token).1 = .finished blocks) :
    (service.detect snapshot token).1 = blocks ∧
      (service.detect snapshot token).2.cache = (service.enter snapshot token).2.cache := by
  have ended : (service.opened snapshot token).Ended service.callCount blocks
      (service.enter snapshot token).2.cache :=
    ⟨rfl, _, opened_call? consistent snapshotKnown token, entered⟩
  exact ended.poll.1.finish

/-- A call for a revision that has to be searched for waits for a search of its own. -/
theorem opened_missed (consistent : Consistent known service) (snapshotKnown : known snapshot)
    (misses : service.Misses snapshot looked) (token : Token) :
    (service.opened snapshot token).AwaitsOwn service.callCount
        (looked.newSearch snapshot token).order (looked.newSearch snapshot token).stage ∧
      Untouched looked (service.opened snapshot token) ∧
      (service.opened snapshot token).cancellation = looked.cancellation := by
  have entered := enter_missed misses token
  refine ⟨⟨⟨_, opened_call? consistent snapshotKnown token, by rw [entered]; rfl⟩, ?_⟩, ?_, ?_⟩
  · rw [opened, entered]
    exact List.mem_append_right looked.searches List.mem_cons_self
  · rw [opened, entered]
    exact ⟨rfl, rfl, rfl, Cancellation.Grows.refl _⟩
  · rw [opened, entered]
    rfl

/-- Without the worker, a call that began a search runs it at once. -/
theorem detect_orphaned (consistent : Consistent known service) (snapshotKnown : known snapshot)
    (misses : service.Misses snapshot looked) (token : Token) (lost : service.engine = .lost) :
    let search := looked.newSearch snapshot token
    let detection := (search.request.run looked.cancellation).1
    (service.detect snapshot token).1 = detection.blocks ∧
      (service.detect snapshot token).2.cache =
        (looked.remember search.request.key search.generation detection).cache := by
  intro search detection
  have sound := (opened_consistent consistent snapshot token snapshotKnown).1.sound
  obtain ⟨awaits, untouched, tokens⟩ := opened_missed consistent snapshotKnown misses token
  have orphaned : search.stage = .orphaned := by
    have engine : looked.engine = .lost := by rw [lookUp_eq misses.missing, lost]
    exact if_pos engine
  rw [orphaned] at awaits
  obtain ⟨answered, stored⟩ := pollSearch_orphaned sound awaits.search
  have ended := (awaits.poll_answered answered).1
  rw [stored, untouched.remember_cache, tokens] at ended
  exact ended.finish

/-- With the worker, a call that began a search gets its result, from some moment in between. -/
theorem detect_queued (consistent : Consistent known service) (snapshotKnown : known snapshot)
    (misses : service.Misses snapshot looked) (token : Token) (present : service.engine ≠ .lost) :
    let search := looked.newSearch snapshot token
    ∃ detection,
      search.request.RunBetween looked.cancellation (service.detect snapshot token).2.cancellation
        detection ∧
      (service.detect snapshot token).1 = detection.blocks ∧
      (service.detect snapshot token).2.cache =
        (looked.remember search.request.key search.generation detection).cache := by
  intro search
  obtain ⟨on, linked⟩ := opened_consistent consistent snapshot token snapshotKnown
  obtain ⟨begun, begunLinked⟩ := poll_consistent ⟨on.sound, linked⟩ service.callCount
  obtain ⟨awaits, untouched, _⟩ := opened_missed consistent snapshotKnown misses token
  have queued : search.stage = .queued := by
    have engine : looked.engine ≠ .lost := by rw [lookUp_eq misses.missing]; exact present
    exact if_neg engine
  rw [queued] at awaits
  have way : OnItsWay looked search.order service.callCount (service.opened snapshot token) :=
    .queued awaits untouched
  exact (way.poll on.sound).finish ⟨begun.sound, begunLinked⟩

/-- A call for a disabled language or for a remembered revision enters with what is returned at
once. -/
theorem enter_finished (token : Token)
    (idle : ¬(service.settings.isEnabled snapshot.language = true ∧
      (service.lookUp snapshot.key).1 = none)) :
    ∃ blocks, (service.enter snapshot token).1 = .finished blocks ∧
      service.detectNow snapshot token = (blocks, (service.enter snapshot token).2) := by
  unfold enter detectNow
  cases enabled : service.settings.isEnabled snapshot.language with
  | false => exact ⟨[], rfl, rfl⟩
  | true =>
      rcases found : service.lookUp snapshot.key with ⟨_ | blocks, looked⟩
      · exact absurd ⟨enabled, by rw [found]⟩ idle
      · exact ⟨blocks, rfl, rfl⟩

/-- A call comes to the same as a search at once if its token stays as it was, and without the
worker in any case. -/
theorem detect_eq_detectNow (consistent : Consistent known service) (snapshotKnown : known snapshot)
    (token : Token) (absent : service.inFlight.lookup snapshot.key = none)
    (steady : service.engine = .lost ∨
      (service.detect snapshot token).2.isCancelled token = service.isCancelled token) :
    (service.detect snapshot token).1 = (service.detectNow snapshot token).1 ∧
      (service.detect snapshot token).2.cache = (service.detectNow snapshot token).2.cache := by
  by_cases begun : service.settings.isEnabled snapshot.language = true ∧
      (service.lookUp snapshot.key).1 = none
  · have misses : service.Misses snapshot (service.lookUp snapshot.key).2 :=
      ⟨begun.1, Prod.ext begun.2 rfl, absent⟩
    obtain ⟨blocks, cache⟩ := detectNow_missed misses token
    rw [blocks, cache]
    by_cases lost : service.engine = .lost
    · exact detect_orphaned consistent snapshotKnown misses token lost
    · obtain ⟨detection, ran, result, stored⟩ :=
        detect_queued consistent snapshotKnown misses token lost
      rw [← ran.steady (steady.resolve_left lost)]
      exact ⟨result, stored⟩
  · obtain ⟨blocks, entered, now⟩ := enter_finished token begun
    have detected := detect_of_finished consistent snapshotKnown token entered
    rw [now]
    exact detected

/-- A search at once does not ask for the worker. -/
theorem detectNow_loseWorker (service : Service) (snapshot : Snapshot) (token : Token) :
    (service.loseWorker.detectNow snapshot token).1 = (service.detectNow snapshot token).1 ∧
      (service.loseWorker.detectNow snapshot token).2.cache =
        (service.detectNow snapshot token).2.cache := by
  rw [loseWorker_eq]
  unfold detectNow lookUp
  dsimp only
  split
  · exact ⟨rfl, rfl⟩
  · rcases service.cache.get service.now snapshot.key with ⟨_ | blocks, cache⟩
    · refine ⟨rfl, ?_⟩
      dsimp only
      apply Untouched.remember_cache
      exact ⟨rfl, rfl, rfl, Cancellation.Grows.refl _⟩
    · exact ⟨rfl, rfl⟩

/-- A worker that does not run can not be lost. -/
theorem loseWorker_idle (idle : service.engine ≠ .running) : service.loseWorker = service := by
  unfold loseWorker
  split
  · contradiction
  · rfl

/-- A revision that is not in flight is detected alike in three ways: by a call while the worker
runs, by a call after the worker was lost, and at once. As long as the token of the call stays as it
was, they return the same blocks and leave the same cache, with the same count of hits and
misses. -/
theorem detection_paths_agree (registry : Registry) (events : List Event) (snapshot : Snapshot)
    (token : Token) (absent : ((new registry).run events).inFlight.lookup snapshot.key = none)
    (steady : (((new registry).run events).detect snapshot token).2.isCancelled token =
      ((new registry).run events).isCancelled token) :
    let service := (new registry).run events
    let worked := service.detect snapshot token
    let stranded := service.loseWorker.detect snapshot token
    let now := service.detectNow snapshot token
    (worked.1 = now.1 ∧ stranded.1 = now.1) ∧
      worked.2.cache = now.2.cache ∧ stranded.2.cache = now.2.cache := by
  intro service worked stranded now
  have consistent : Consistent (fun _ => True) service :=
    run_consistent (new_consistent registry) events fun _ _ => trivial
  obtain ⟨blocks, cache⟩ := detect_eq_detectNow consistent trivial token absent (Or.inr steady)
  by_cases running : service.engine = .running
  · have lost : service.loseWorker.engine = .lost := by rw [loseWorker, running]
    have unlisted : service.loseWorker.inFlight.lookup snapshot.key = none := by
      rw [loseWorker_eq]
      exact absent
    obtain ⟨alone, aloneCache⟩ := detect_eq_detectNow
      ⟨(loseWorker_goesOn consistent.sound).sound, loseWorker_linked consistent.linked⟩ trivial
      token unlisted (Or.inl lost)
    obtain ⟨same, sameCache⟩ := service.detectNow_loseWorker snapshot token
    exact ⟨⟨blocks, alone.trans same⟩, cache, aloneCache.trans sameCache⟩
  · have stays : stranded = worked := congrArg (·.detect snapshot token) (loseWorker_idle running)
    rw [stays]
    exact ⟨⟨blocks, blocks⟩, cache, cache⟩

/-- The worker runs, and the result of an earlier call has expired. -/
theorem detection_paths_agree_expired :
    let snapshot : Snapshot := ⟨"a.py", 1, "python", "\"\"\"One\"\"\"".toList⟩
    let events := [Event.begin snapshot 0, .finish 0, .wait 1000000]
    let blocks := [⟨0, 0, 0, 9, "\"\"\"One\"\"\"".toList, "One".toList, "python", true⟩]
    (((new Registry.builtin).run events).engine = .running ∧
      (((new Registry.builtin).run events).cache.entries.map Cache.Entry.value) = [blocks] ∧
      (((new Registry.builtin).run events).detectNow snapshot 0).2.cache.misses = 2 ∧
      (((new Registry.builtin).run events).detectNow snapshot 0).1 = blocks) ∧
    let service := (new Registry.builtin).run events
    let worked := service.detect snapshot 0
    let stranded := service.loseWorker.detect snapshot 0
    let now := service.detectNow snapshot 0
    (worked.1 = now.1 ∧ stranded.1 = now.1) ∧
      worked.2.cache = now.2.cache ∧ stranded.2.cache = now.2.cache := by
  intro snapshot events blocks
  refine ⟨by decide +kernel, ?_⟩
  exact detection_paths_agree Registry.builtin events snapshot 0 (by decide +kernel)
    (by decide +kernel)

end Detecting

end Service

end DocBlocks
