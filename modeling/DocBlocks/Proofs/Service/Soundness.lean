/-
This file states what the service knows about its searches and its results, and shows that nothing
that happens to the service makes it untrue.
-/

import DocBlocks.Proofs.Cache.Entries
import DocBlocks.Proofs.Service.Run
import Mathlib.Data.List.Nodup

namespace DocBlocks.Service

/-- The result that a search has by now. -/
def Stage.detection? : Stage → Option Detection
  | queued => none
  | orphaned => none
  | delivered detection => some detection
  | settled detection => some detection

/-- The search looks for the blocks of a snapshot. -/
structure Search.IsFor (search : Search) (snapshot : Snapshot) : Prop where
  key : search.request.key = snapshot.key
  text : search.request.text = snapshot.text
  language : search.request.language = snapshot.language

/-- The search was begun for a known snapshot, its result is right, and unless its generation is
over it searches with what is in force. -/
structure Search.Sound (known : Snapshot → Prop) (service : Service) (search : Search) : Prop where
  numbered : search.id < service.searchCount
  begun : ∃ snapshot, known snapshot ∧ search.IsFor snapshot
  past : search.generation ≤ service.generation
  current : search.generation = service.generation → search.request.detector = service.detector
  answered : ∀ detection, search.stage.detection? = some detection →
    search.request.Answered service.cancellation detection

/-- The blocks are all those of a known snapshot with this key, for what is in force. -/
def Remembers (service : Service) (known : Snapshot → Prop) (key : String) (blocks : List Block) :
    Prop :=
  ∃ snapshot, known snapshot ∧ snapshot.key = key ∧
    blocks = service.detector.thorough snapshot.text snapshot.language

/-- All searches and all cached results are in order. -/
structure Sound (known : Snapshot → Prop) (service : Service) : Prop where
  distinct : (service.searches.map Search.id).Nodup
  searches : ∀ search ∈ service.searches, search.Sound known service
  cached : ∀ entry ∈ service.cache.entries, service.Remembers known entry.key entry.value

/-- What a search is for, whatever has come of it. -/
structure Order where
  request : Worker.Request
  generation : Nat

def Order.id (order : Order) : Nat :=
  order.request.receiver

def Search.order (search : Search) : Order :=
  ⟨search.request, search.generation⟩

def orders (service : Service) : List Order :=
  service.searches.map Search.order

theorem orders_ids (service : Service) :
    service.orders.map Order.id = service.searches.map Search.id :=
  List.map_map

/-- Searches keep their orders, new ones have new numbers and search with what was in force, and
what is cancelled stays so. -/
structure Persists (before after : Service) : Prop where
  searchCount : before.searchCount ≤ after.searchCount
  cancellation : before.cancellation.Grows after.cancellation
  orders : ∀ order ∈ after.orders, order ∈ before.orders ∨
    before.searchCount ≤ order.id ∧ order.request.detector = before.detector

/-- The service goes on in order, with the same patterns and settings. -/
structure GoesOn (known : Snapshot → Prop) (before after : Service) : Prop
    extends Persists before after where
  base : after.base = before.base
  registry : after.registry = before.registry
  settings : after.settings = before.settings
  generation : after.generation = before.generation
  ttl : after.cache.ttl = before.cache.ttl
  interval : after.cache.interval = before.cache.interval
  sound : Sound known after

variable {known : Snapshot → Prop} {service : Service}

/-- While the service goes on, the detector is the same. -/
theorem GoesOn.detector {before after : Service} (on : GoesOn known before after) :
    after.detector = before.detector := by
  simp only [Service.detector, on.registry, on.settings]

/-- The service goes on in order by one step after another. -/
theorem GoesOn.trans {first second third : Service} (early : GoesOn known first second)
    (late : GoesOn known second third) : GoesOn known first third where
  base := late.base.trans early.base
  registry := late.registry.trans early.registry
  settings := late.settings.trans early.settings
  generation := late.generation.trans early.generation
  ttl := late.ttl.trans early.ttl
  interval := late.interval.trans early.interval
  searchCount := Nat.le_trans early.searchCount late.searchCount
  cancellation := early.cancellation.trans late.cancellation
  orders order member := by
    rcases late.orders order member with old | new
    · exact early.orders order old
    · exact Or.inr ⟨Nat.le_trans early.searchCount new.1, new.2.trans early.detector⟩
  sound := late.sound

/-- A search stays in order while the same patterns and settings are in force. -/
theorem Search.Sound.goOn {before after : Service} {search : Search}
    (sound : search.Sound known before) (generation : after.generation = before.generation)
    (detector : after.detector = before.detector) (count : before.searchCount ≤ after.searchCount)
    (grows : before.cancellation.Grows after.cancellation) : search.Sound known after where
  numbered := Nat.lt_of_lt_of_le sound.numbered count
  begun := sound.begun
  past := generation ▸ sound.past
  current same := (sound.current (same.trans generation)).trans detector.symm
  answered detection present := (sound.answered detection present).grows grows

/-- Whatever only takes searches and results away lets the service go on. -/
theorem Sound.shrink {before after : Service} (sound : Sound known before)
    (base : after.base = before.base) (registry : after.registry = before.registry)
    (settings : after.settings = before.settings) (generation : after.generation = before.generation)
    (ttl : after.cache.ttl = before.cache.ttl)
    (interval : after.cache.interval = before.cache.interval)
    (count : after.searchCount = before.searchCount)
    (grows : before.cancellation.Grows after.cancellation)
    (searches : after.searches.Sublist before.searches)
    (entries : ∀ entry ∈ after.cache.entries, entry ∈ before.cache.entries) :
    GoesOn known before after := by
  have detector : after.detector = before.detector := by
    simp only [Service.detector, registry, settings]
  exact {
    base, registry, settings, generation, ttl, interval
    searchCount := Nat.le_of_eq count.symm
    cancellation := grows
    orders := fun _ member => Or.inl ((searches.map Search.order).subset member)
    sound := {
      distinct := (searches.map Search.id).nodup sound.distinct
      searches := fun search member =>
        (sound.searches search (searches.subset member)).goOn generation detector
          (Nat.le_of_eq count.symm) grows
      cached := fun entry member => by
        rw [Remembers, detector]
        exact sound.cached entry (entries entry member) } }

/-- Calls, the list of searches in flight, the clock and the state of the worker do not matter. -/
theorem Sound.rearrange {before after : Service} (sound : Sound known before)
    (base : after.base = before.base) (registry : after.registry = before.registry)
    (settings : after.settings = before.settings) (generation : after.generation = before.generation)
    (cache : after.cache = before.cache) (count : after.searchCount = before.searchCount)
    (cancellation : after.cancellation = before.cancellation)
    (searches : after.searches = before.searches) : GoesOn known before after :=
  sound.shrink base registry settings generation (by rw [cache]) (by rw [cache]) count
    (by rw [cancellation]; exact Cancellation.Grows.refl _) (by rw [searches])
    (by rw [cache]; exact fun _ member => member)

/-- A service in order goes on by doing nothing. -/
theorem Sound.stay (sound : Sound known service) : GoesOn known service service :=
  sound.rearrange rfl rfl rfl rfl rfl rfl rfl rfl

/-- A look-up leaves the service in order. -/
theorem lookUp_goesOn (sound : Sound known service) (key : String) :
    GoesOn known service (service.lookUp key).2 :=
  sound.shrink rfl rfl rfl rfl (service.cache.get_ttl service.now key)
    (service.cache.get_interval service.now key) rfl (Cancellation.Grows.refl _) (List.Sublist.refl _)
    fun entry => service.cache.mem_get service.now key entry

/-- What is looked up is what is remembered. -/
theorem lookUp_found (sound : Sound known service) (key : String) (blocks : List Block)
    (found : (service.lookUp key).1 = some blocks) : service.Remembers known key blocks := by
  obtain ⟨entry, member, keyed, value⟩ := service.cache.get_found service.now key blocks found
  subst keyed value
  exact sound.cached entry member

/-- Calls may be changed and closed, and searches that no call waits for dropped. -/
theorem dropUnwaited_goesOn (sound : Sound known service) (calls : List Call) :
    GoesOn known service (dropUnwaited { service with calls }) :=
  sound.shrink rfl rfl rfl rfl rfl rfl rfl (Cancellation.Grows.refl _) List.filter_sublist
    fun _ member => member

/-- Tokens may be cancelled. -/
theorem cancellation_goesOn (sound : Sound known service) (cancellation : Cancellation)
    (grows : service.cancellation.Grows cancellation) :
    GoesOn known service { service with cancellation } :=
  sound.shrink rfl rfl rfl rfl rfl rfl rfl grows (List.Sublist.refl _) fun _ member => member

/-- A thorough result of a known snapshot may be remembered. -/
theorem remember_goesOn (sound : Sound known service) (key : String) (generation : Nat)
    (detection : Detection)
    (right : detection.cancelled = false → service.generation = generation →
      service.Remembers known key detection.blocks) :
    GoesOn known service (service.remember key generation detection) := by
  unfold remember
  split
  · exact sound.stay
  · rename_i kept
    have complete : detection.cancelled = false ∧ service.generation = generation := by
      simpa [not_or] using kept
    exact {
      base := rfl
      registry := rfl
      settings := rfl
      generation := rfl
      ttl := service.cache.store_ttl _ _ _
      interval := service.cache.store_interval _ _ _
      searchCount := Nat.le_refl _
      cancellation := Cancellation.Grows.refl _
      orders := fun _ member => Or.inl member
      sound := {
        distinct := sound.distinct
        searches := fun search member => (sound.searches search member).goOn rfl rfl (Nat.le_refl _)
          (Cancellation.Grows.refl _)
        cached := fun entry member => by
          rcases service.cache.mem_store _ _ _ entry member with new | old
          · subst entry
            exact right complete.1 complete.2
          · exact sound.cached entry old.1 } }

/-- Searches are told apart by their numbers. -/
theorem Sound.unique (sound : Sound known service) {first second : Search}
    (firstMember : first ∈ service.searches) (secondMember : second ∈ service.searches)
    (same : first.id = second.id) : first = second :=
  List.inj_on_of_nodup_map sound.distinct firstMember secondMember same

/-- A search that is found is one of the searches. -/
theorem search?_mem {id : Nat} {search : Search} (found : service.search? id = some search) :
    search ∈ service.searches ∧ search.id = id :=
  ⟨List.mem_of_find?_eq_some found, by simpa using List.find?_some found⟩

/-- A search keeps its order at every stage. -/
theorem setStage_orders (service : Service) (id : Nat) (stage : Stage) :
    (service.setStage id stage).orders = service.orders := by
  simp only [orders, setStage, List.map_map]
  apply List.map_congr_left
  intro search member
  simp only [Function.comp_apply]
  split <;> rfl

/-- A search whose number is that of a changed one is the changed one. -/
theorem mem_setStage {id : Nat} {stage : Stage} {search : Search}
    (member : search ∈ (service.setStage id stage).searches) :
    search ∈ service.searches ∧ search.id ≠ id ∨
      ∃ old ∈ service.searches, old.id = id ∧ search = { old with stage } := by
  obtain ⟨old, oldMember, same⟩ := List.mem_map.mp member
  split at same
  · rename_i named
    exact Or.inr ⟨old, oldMember, by simpa using named, same.symm⟩
  · rename_i other
    subst same
    exact Or.inl ⟨oldMember, by simpa using other⟩

/-- A search stays in order if it comes to a stage with a right result. -/
theorem Search.Sound.restage {search : Search} (sound : search.Sound known service) (stage : Stage)
    (answered : ∀ detection, stage.detection? = some detection →
      search.request.Answered service.cancellation detection) :
    Search.Sound known service { search with stage } where
  numbered := sound.numbered
  begun := sound.begun.imp fun _ begun => ⟨begun.1, begun.2.key, begun.2.text, begun.2.language⟩
  past := sound.past
  current := sound.current
  answered := answered

/-- A search may go on to a stage at which it has an answer. -/
theorem setStage_goesOn (sound : Sound known service) (search : Search) (stage : Stage)
    (member : search ∈ service.searches)
    (answered : ∀ detection, stage.detection? = some detection →
      search.request.Answered service.cancellation detection) :
    GoesOn known service (service.setStage search.id stage) where
  base := rfl
  registry := rfl
  settings := rfl
  generation := rfl
  ttl := rfl
  interval := rfl
  searchCount := Nat.le_refl _
  cancellation := Cancellation.Grows.refl _
  orders order orderMember := Or.inl (by rwa [setStage_orders] at orderMember)
  sound := {
    distinct := by
      rw [← orders_ids, setStage_orders, orders_ids]
      exact sound.distinct
    searches := fun other otherMember => by
      rcases mem_setStage otherMember with ⟨old, _⟩ | ⟨old, oldMember, named, same⟩
      · exact (sound.searches other old).goOn rfl rfl (Nat.le_refl _) (Cancellation.Grows.refl _)
      · have identical := sound.unique oldMember member named
        subst same identical
        exact ((sound.searches old oldMember).restage stage answered).goOn rfl rfl (Nat.le_refl _)
          (Cancellation.Grows.refl _)
    cached := sound.cached }

/-- Remembering does not touch searches. -/
theorem remember_searches (service : Service) (key : String) (generation : Nat)
    (detection : Detection) :
    (service.remember key generation detection).searches = service.searches := by
  unfold remember
  split <;> rfl

/-- Whoever looks first at the result of a search may remember it. -/
theorem settle_goesOn (sound : Sound known service) (search : Search) (detection : Detection)
    (member : search ∈ service.searches)
    (answered : search.request.Answered service.cancellation detection) :
    GoesOn known service (service.settle search detection) := by
  have searchSound := sound.searches search member
  have remembered := remember_goesOn sound search.request.key search.generation detection (by
    intro complete current
    obtain ⟨snapshot, snapshotKnown, isFor⟩ := searchSound.begun
    refine ⟨snapshot, snapshotKnown, isFor.key.symm, ?_⟩
    rw [answered.thorough complete, Worker.Request.thorough, searchSound.current current.symm,
      isFor.text, isFor.language])
  have stored :
      search ∈ (service.remember search.request.key search.generation detection).searches := by
    rw [remember_searches]
    exact member
  apply remembered.trans
  apply setStage_goesOn remembered.sound search _ stored
  intro result same
  cases same
  exact answered.grows remembered.cancellation

/-- What may come of a poll of a search. -/
theorem pollSearch_cases (service : Service) (id : Nat) :
    (service.pollSearch id = (none, service) ∧
      ∀ search, service.search? id = some search → search.stage = .queued) ∨
    ∃ search detection, service.search? id = some search ∧
      (search.stage = .settled detection ∧ service.pollSearch id = (some detection, service) ∨
        search.stage = .delivered detection ∧
          service.pollSearch id = (some detection, service.settle search detection) ∨
        search.stage = .orphaned ∧ detection = (search.request.run service.cancellation).1 ∧
          service.pollSearch id = (some detection,
            settle { service with cancellation := (search.request.run service.cancellation).2 }
              search detection)) := by
  unfold pollSearch
  cases found : service.search? id with
  | none => exact Or.inl ⟨rfl, fun _ absent => by cases absent⟩
  | some search =>
      cases stage : search.stage with
      | queued =>
          refine Or.inl ⟨by simp only [stage], ?_⟩
          intro other same
          cases same
          exact stage
      | delivered detection =>
          exact Or.inr ⟨search, detection, rfl, Or.inr (Or.inl ⟨stage, by simp only [stage]⟩)⟩
      | orphaned =>
          exact Or.inr ⟨search, _, rfl, Or.inr (Or.inr ⟨stage, rfl, by simp only [stage]⟩)⟩
      | settled detection =>
          exact Or.inr ⟨search, detection, rfl, Or.inl ⟨stage, by simp only [stage]⟩⟩

/-- A poll of a search gives a result that answers it, if it gives one. -/
theorem pollSearch_goesOn (sound : Sound known service) (id : Nat) :
    GoesOn known service (service.pollSearch id).2 ∧
      ∀ detection, (service.pollSearch id).1 = some detection →
        ∃ search, service.search? id = some search ∧
          search.request.Answered (service.pollSearch id).2.cancellation detection := by
  rcases service.pollSearch_cases id with ⟨polled, _⟩ | ⟨search, detection, found, outcome⟩
  · rw [polled]
    exact ⟨sound.stay, fun _ absent => by cases absent⟩
  · have member := (search?_mem found).1
    have searchSound := sound.searches search member
    rcases outcome with ⟨stage, polled⟩ | ⟨stage, polled⟩ | ⟨_, ran, polled⟩
    · have answered := searchSound.answered detection (by rw [stage]; rfl)
      rw [polled]
      refine ⟨sound.stay, ?_⟩
      intro result same
      cases same
      exact ⟨search, found, answered⟩
    · have answered := searchSound.answered detection (by rw [stage]; rfl)
      have on := settle_goesOn sound search detection member answered
      rw [polled]
      refine ⟨on, ?_⟩
      intro result same
      cases same
      exact ⟨search, found, answered.grows on.cancellation⟩
    · have cancelled := cancellation_goesOn sound _ (search.request.run_grows service.cancellation)
      have answered := search.request.run_answered service.cancellation
      rw [← ran] at answered
      have on := settle_goesOn cancelled.sound search detection member answered
      rw [polled]
      refine ⟨cancelled.trans on, ?_⟩
      intro result same
      cases same
      exact ⟨search, found, answered.grows on.cancellation⟩

/-- The search that is begun for a snapshot. -/
def newSearch (service : Service) (snapshot : Snapshot) (token : Token) : Search where
  request := {
    receiver := service.searchCount
    key := snapshot.key
    text := snapshot.text
    language := snapshot.language
    detector := service.detector
    token }
  generation := service.generation
  stage := if service.engine = .lost then .orphaned else .queued

/-- A new search stands behind the others. -/
theorem beginSearch_searches (service : Service) (snapshot : Snapshot) (token : Token) :
    (service.beginSearch snapshot token).2.searches =
      service.searches ++ [service.newSearch snapshot token] := rfl

/-- A new search is in order. -/
theorem newSearch_sound (service : Service) (snapshot : Snapshot) (token : Token)
    (snapshotKnown : known snapshot) :
    Search.Sound known (service.beginSearch snapshot token).2 (service.newSearch snapshot token) where
  numbered := Nat.lt_succ_self _
  begun := ⟨snapshot, snapshotKnown, rfl, rfl, rfl⟩
  past := Nat.le_refl _
  current _ := rfl
  answered detection present := by
    unfold newSearch at present
    dsimp only at present
    split at present <;> cases present

/-- A search for a known snapshot may be begun. -/
theorem beginSearch_goesOn (sound : Sound known service) (snapshot : Snapshot) (token : Token)
    (snapshotKnown : known snapshot) :
    GoesOn known service (service.beginSearch snapshot token).2 where
  base := rfl
  registry := rfl
  settings := rfl
  generation := rfl
  ttl := rfl
  interval := rfl
  searchCount := Nat.le_succ _
  cancellation := Cancellation.Grows.refl _
  orders order member := by
    rw [orders, beginSearch_searches, List.map_append, List.mem_append] at member
    rcases member with old | new
    · exact Or.inl old
    · rw [List.mem_singleton.mp new]
      exact Or.inr ⟨Nat.le_refl _, rfl⟩
  sound := {
    distinct := by
      rw [beginSearch_searches, List.map_append, List.nodup_append]
      refine ⟨sound.distinct, List.nodup_singleton _, ?_⟩
      intro old oldMember new newMember same
      obtain ⟨search, member, named⟩ := List.mem_map.mp oldMember
      have below := (sound.searches search member).numbered
      rw [named, same, List.mem_singleton.mp newMember] at below
      exact Nat.lt_irrefl _ below
    searches := fun search member => by
      rw [beginSearch_searches, List.mem_append] at member
      rcases member with old | new
      · exact (sound.searches search old).goOn rfl rfl (Nat.le_succ _) (Cancellation.Grows.refl _)
      · rw [List.mem_singleton.mp new]
        exact service.newSearch_sound snapshot token snapshotKnown
    cached := sound.cached }

/-- The list of searches in flight may lose one. -/
theorem release_goesOn (sound : Sound known service) (key : String) (id : Nat) :
    GoesOn known service (service.release key id) :=
  sound.rearrange rfl rfl rfl rfl rfl rfl rfl rfl

/-- The list may lose the searches of other revisions. -/
theorem evictOthers_goesOn (sound : Sound known service) (snapshot : Snapshot) :
    GoesOn known service (service.evictOthers snapshot) :=
  sound.rearrange rfl rfl rfl rfl rfl rfl rfl rfl

/-- A call that joins a search or begins one leaves the service in order. -/
theorem joinOrBegin_goesOn (sound : Sound known service) (snapshot : Snapshot) (token : Token)
    (snapshotKnown : known snapshot) :
    GoesOn known service (service.joinOrBegin snapshot token).2 := by
  unfold joinOrBegin
  split
  · exact sound.stay
  · have begun := beginSearch_goesOn sound snapshot token snapshotKnown
    exact begun.trans (begun.sound.rearrange rfl rfl rfl rfl rfl rfl rfl rfl)

/-- A new call leaves the service in order. -/
theorem enter_goesOn (sound : Sound known service) (snapshot : Snapshot) (token : Token)
    (snapshotKnown : known snapshot) : GoesOn known service (service.enter snapshot token).2 := by
  unfold enter
  split
  · exact sound.stay
  · have looked := lookUp_goesOn sound snapshot.key
    split
    · rename_i found
      rw [found] at looked
      exact looked
    · rename_i missing
      rw [missing] at looked
      have evicted := evictOthers_goesOn looked.sound snapshot
      exact (looked.trans evicted).trans
        (joinOrBegin_goesOn evicted.sound snapshot token snapshotKnown)

/-- A poll of a repeated search leaves the service in order. -/
theorem pollRepeated_goesOn (sound : Sound known service) (search : Nat) :
    GoesOn known service (service.pollRepeated search).2 := by
  have polled := (pollSearch_goesOn sound search).1
  unfold pollRepeated
  split
  · rename_i waiting
    rw [waiting] at polled
    exact polled
  · rename_i done
    rw [done] at polled
    exact polled

/-- Any progress of a call leaves the service in order. -/
theorem advance_goesOn (sound : Sound known service) (snapshot : Snapshot) (token : Token)
    (snapshotKnown : known snapshot) (progress : Progress) :
    GoesOn known service (service.advance snapshot token progress).2 := by
  cases progress with
  | finished blocks => exact sound.stay
  | repeating search => exact pollRepeated_goesOn sound search
  | waiting search joined =>
      have polled := (pollSearch_goesOn sound search).1
      unfold advance
      dsimp only
      split
      · rename_i waiting
        rw [waiting] at polled
        exact polled
      · rename_i detection next done
        rw [done] at polled
        have released := release_goesOn polled.sound snapshot.key search
        have on := polled.trans released
        split
        · have begun := beginSearch_goesOn released.sound snapshot token snapshotKnown
          exact (on.trans begun).trans (pollRepeated_goesOn begun.sound _)
        · exact on

/-- The searches that the worker is to answer. -/
def chosenSearches (service : Service) (chosen : Nat → Bool) : List Search :=
  service.searches.filter fun search => search.stage = .queued && chosen search.id

/-- The answers of the worker to the chosen searches, and the tokens after them. -/
def answersTo (service : Service) (chosen : Nat → Bool) : List Worker.Answer × Cancellation :=
  Worker.runAll service.cancellation ((service.chosenSearches chosen).map Search.request)

/-- A queued search is delivered if there is an answer for it. -/
def Search.deliver (answers : List Worker.Answer) (search : Search) : Search :=
  match search.stage, answers.find? (·.receiver == search.id) with
  | .queued, some answer => { search with stage := .delivered answer.detection }
  | _, _ => search

/-- The worker changes searches and tokens only. -/
theorem serve_eq (service : Service) (chosen : Nat → Bool) :
    service.serve chosen =
      { service with
        cancellation := (service.answersTo chosen).2
        searches := service.searches.map (Search.deliver (service.answersTo chosen).1) } := by
  unfold serve answer
  simp only [Worker.drain_attended]
  rfl

theorem serve_cancellation (service : Service) (chosen : Nat → Bool) :
    (service.serve chosen).cancellation = (service.answersTo chosen).2 := by
  rw [serve_eq]

/-- A search keeps its order when it is answered. -/
theorem deliver_order (answers : List Worker.Answer) (search : Search) :
    (search.deliver answers).order = search.order := by
  unfold Search.deliver
  split <;> rfl

/-- All searches keep their orders when the worker serves some of them. -/
theorem serve_orders (service : Service) (chosen : Nat → Bool) :
    (service.serve chosen).orders = service.orders := by
  rw [serve_eq]
  simp only [orders, List.map_map]
  exact List.map_congr_left fun search _ => deliver_order _ search

/-- The answer to a chosen search is its own. -/
theorem answersTo_found (sound : Sound known service) (chosen : Nat → Bool) (search : Search)
    (member : search ∈ service.searches) (answer : Worker.Answer)
    (found : (service.answersTo chosen).1.find? (·.receiver == search.id) = some answer) :
    chosen search.id = true ∧ ∃ moment, service.cancellation.Grows moment ∧
      (search.request.run moment).2.Grows (service.answersTo chosen).2 ∧
      answer.detection = (search.request.run moment).1 := by
  obtain ⟨request, requestMember, moment, early, late, same⟩ :=
    Worker.runAll_answer _ _ answer (List.mem_of_find?_eq_some found)
  obtain ⟨other, otherMember, named⟩ := List.mem_map.mp requestMember
  obtain ⟨stored, picked⟩ := List.mem_filter.mp otherMember
  have received : answer.receiver = search.id := by simpa using List.find?_some found
  have identical : other = search := by
    apply sound.unique stored member
    rw [← received, same, ← named]
    rfl
  subst identical named same
  exact ⟨(Bool.and_eq_true_iff.mp picked).2, moment, early, late, rfl⟩

/-- Every chosen search that is queued has an answer. -/
theorem answersTo_some (service : Service) (chosen : Nat → Bool) (search : Search)
    (member : search ∈ service.searches) (queued : search.stage = .queued)
    (picked : chosen search.id = true) :
    ∃ answer, (service.answersTo chosen).1.find? (·.receiver == search.id) = some answer := by
  have asked : search ∈ service.chosenSearches chosen :=
    List.mem_filter.mpr ⟨member, by simp [queued, picked]⟩
  have received : search.id ∈ (service.answersTo chosen).1.map Worker.Answer.receiver := by
    rw [answersTo, Worker.runAll_receivers]
    exact List.mem_map.mpr ⟨search.request, List.mem_map_of_mem asked, rfl⟩
  obtain ⟨answer, answerMember, named⟩ := List.mem_map.mp received
  have present : ((service.answersTo chosen).1.find? (·.receiver == search.id)).isSome = true := by
    rw [List.find?_isSome]
    exact ⟨answer, answerMember, by simp [named]⟩
  exact Option.isSome_iff_exists.mp present

/-- What the worker may do to a search. -/
theorem mem_serve (sound : Sound known service) (chosen : Nat → Bool) {search : Search}
    (member : search ∈ (service.serve chosen).searches) :
    (search ∈ service.searches ∧ (search.stage = .queued → chosen search.id = false)) ∨
      ∃ old ∈ service.searches, old.stage = .queued ∧ chosen old.id = true ∧
        ∃ moment, service.cancellation.Grows moment ∧
          (old.request.run moment).2.Grows (service.serve chosen).cancellation ∧
          search = { old with stage := .delivered (old.request.run moment).1 } := by
  rw [serve_eq] at member
  obtain ⟨old, oldMember, same⟩ := List.mem_map.mp member
  unfold Search.deliver at same
  split at same
  · rename_i answer queued found
    obtain ⟨picked, moment, early, late, result⟩ :=
      answersTo_found sound chosen old oldMember answer found
    rw [result] at same
    exact Or.inr ⟨old, oldMember, queued, picked, moment, early,
      by rwa [serve_cancellation], same.symm⟩
  · rename_i unanswered
    subst same
    refine Or.inl ⟨oldMember, ?_⟩
    intro queued
    by_contra picked
    obtain ⟨answer, found⟩ := service.answersTo_some chosen old oldMember queued
      (eq_true_of_ne_false picked)
    exact unanswered answer queued found

/-- The worker may answer searches. -/
theorem serve_goesOn (sound : Sound known service) (chosen : Nat → Bool) :
    GoesOn known service (service.serve chosen) := by
  have grows : service.cancellation.Grows (service.serve chosen).cancellation := by
    rw [serve_cancellation]
    exact Worker.runAll_grows _ _
  have same : (service.serve chosen).searches.map Search.id = service.searches.map Search.id := by
    rw [← orders_ids, serve_orders, orders_ids]
  refine {
    base := by rw [serve_eq]
    registry := by rw [serve_eq]
    settings := by rw [serve_eq]
    generation := by rw [serve_eq]
    ttl := by rw [serve_eq]
    interval := by rw [serve_eq]
    searchCount := Nat.le_of_eq (by rw [serve_eq])
    cancellation := grows
    orders := fun order member => Or.inl (by rwa [serve_orders] at member)
    sound := {
      distinct := same ▸ sound.distinct
      searches := fun search member => ?_
      cached := by rw [serve_eq]; exact sound.cached } }
  have kept {old : Search} (oldMember : old ∈ service.searches) :
      old.Sound known (service.serve chosen) :=
    (sound.searches old oldMember).goOn (by rw [serve_eq]) (by rw [serve_eq]; rfl)
      (Nat.le_of_eq (by rw [serve_eq])) grows
  rcases mem_serve sound chosen member with ⟨old, _⟩ |
    ⟨old, oldMember, _, _, moment, _, late, same⟩
  · exact kept old
  · subst same
    apply (kept oldMember).restage
    intro detection present
    cases present
    exact (old.request.run_answered moment).grows late

/-- The loss of the worker changes the worker and the searches only. -/
theorem loseWorker_eq (service : Service) :
    service.loseWorker =
      { service with
        engine := service.loseWorker.engine
        searches := service.loseWorker.searches } := by
  unfold loseWorker
  split <;> rfl

/-- Searches keep their orders when the worker is lost. -/
theorem loseWorker_orders (service : Service) : service.loseWorker.orders = service.orders := by
  unfold loseWorker
  split
  · simp only [orders, List.map_map]
    apply List.map_congr_left
    intro search _
    simp only [Function.comp_apply]
    split <;> rfl
  · rfl

/-- What becomes of a search when the worker is lost. -/
theorem mem_loseWorker {search : Search} (member : search ∈ service.loseWorker.searches) :
    search ∈ service.searches ∨
      ∃ old ∈ service.searches, old.stage = .queued ∧ search = { old with stage := .orphaned } := by
  unfold loseWorker at member
  split at member
  · obtain ⟨old, oldMember, same⟩ := List.mem_map.mp member
    split at same
    · rename_i queued
      exact Or.inr ⟨old, oldMember, queued, same.symm⟩
    · exact Or.inl (same ▸ oldMember)
  · exact Or.inl member

/-- The service stays in order when the worker is lost. -/
theorem loseWorker_goesOn (sound : Sound known service) :
    GoesOn known service service.loseWorker := by
  have same := service.loseWorker_eq
  have orders := service.loseWorker_orders
  have detector : service.loseWorker.detector = service.detector := by rw [same]; rfl
  have kept {old : Search} (oldMember : old ∈ service.searches) :
      old.Sound known service.loseWorker :=
    (sound.searches old oldMember).goOn (by rw [same]) detector
      (Nat.le_of_eq (by rw [same])) (by rw [same]; exact Cancellation.Grows.refl _)
  exact {
    base := by rw [same]
    registry := by rw [same]
    settings := by rw [same]
    generation := by rw [same]
    ttl := by rw [same]
    interval := by rw [same]
    searchCount := Nat.le_of_eq (by rw [same])
    cancellation := by rw [same]; exact Cancellation.Grows.refl _
    orders := fun order member => Or.inl (orders ▸ member)
    sound := {
      distinct := by
        rw [← orders_ids, orders, orders_ids]
        exact sound.distinct
      searches := fun search member => by
        rcases mem_loseWorker member with old | ⟨old, oldMember, _, restaged⟩
        · exact kept old
        · subst restaged
          exact (kept oldMember).restage .orphaned fun _ absent => by cases absent
      cached := by
        rw [same]
        exact sound.cached } }

/-- A call may be closed. -/
theorem drop_goesOn (sound : Sound known service) (id : Nat) :
    GoesOn known service (service.drop id) := by
  unfold drop
  split
  · exact sound.stay
  · rename_i call _
    cases call.progress with
    | waiting search joined =>
        have released := release_goesOn sound call.snapshot.key search
        exact released.trans (dropUnwaited_goesOn released.sound _)
    | repeating search => exact dropUnwaited_goesOn sound _
    | finished blocks => exact dropUnwaited_goesOn sound _

/-- A search without the worker may be made for a known snapshot. -/
theorem detectNow_goesOn (sound : Sound known service) (snapshot : Snapshot) (token : Token)
    (snapshotKnown : known snapshot) :
    GoesOn known service (service.detectNow snapshot token).2 := by
  unfold detectNow
  split
  · exact sound.stay
  · have looked := lookUp_goesOn sound snapshot.key
    split
    · rename_i found
      rw [found] at looked
      exact looked
    · rename_i next missing
      rw [missing] at looked
      let request := (next.newSearch snapshot token).request
      have cancelled := cancellation_goesOn looked.sound _ (request.run_grows next.cancellation)
      apply (looked.trans cancelled).trans
      apply remember_goesOn cancelled.sound
      intro complete _
      exact ⟨snapshot, snapshotKnown, rfl,
        (request.run_answered next.cancellation).thorough complete⟩

/-- New patterns and settings may come into force if all results are forgotten. -/
theorem Sound.renew {before after : Service} (sound : Sound known before)
    (generation : after.generation = before.generation + 1)
    (count : after.searchCount = before.searchCount)
    (cancellation : after.cancellation = before.cancellation)
    (searches : after.searches = before.searches) (entries : after.cache.entries = []) :
    Sound known after where
  distinct := searches ▸ sound.distinct
  searches search member := by
    have earlier := sound.searches search (searches ▸ member)
    have past := earlier.past
    exact {
      numbered := count ▸ earlier.numbered
      begun := earlier.begun
      past := by omega
      current := fun same => by omega
      answered := cancellation ▸ earlier.answered }
  cached entry member := by
    rw [entries] at member
    cases member

end DocBlocks.Service
