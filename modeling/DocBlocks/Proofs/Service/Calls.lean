/-
This file links the calls of the service to the searches that they wait for.
-/

import DocBlocks.Proofs.Service.Soundness

namespace DocBlocks.Service

/-- Every call waits for a search of its own key, and every search that is listed as in flight is
of the present generation and waited for by a call of that key. -/
structure Linked (known : Snapshot → Prop) (service : Service) : Prop where
  known : ∀ call ∈ service.calls, known call.snapshot
  distinct : (service.calls.map Call.id).Nodup
  numbered : ∀ call ∈ service.calls, call.id < service.callCount
  awaited : ∀ call ∈ service.calls, ∀ id, call.progress.search? = some id →
    ∃ order ∈ service.orders, order.id = id ∧ order.request.key = call.snapshot.key
  listed : ∀ key id, (key, id) ∈ service.inFlight → ∃ call ∈ service.calls,
    call.snapshot.key = key ∧ ∃ joined, call.progress = .waiting id joined
  fresh : ∀ key id, (key, id) ∈ service.inFlight → ∀ order ∈ service.orders,
    order.id = id → order.generation = service.generation

variable {known : Snapshot → Prop} {service : Service}

/-- Remembering changes the cache alone. -/
theorem remember_eq (service : Service) (key : String) (generation : Nat) (detection : Detection) :
    service.remember key generation detection =
      { service with cache := (service.remember key generation detection).cache } := by
  unfold remember
  split <;> rfl

/-- The end of a search changes the cache and the searches only. -/
theorem settle_eq (service : Service) (search : Search) (detection : Detection) :
    service.settle search detection =
      { service with
        cache := (service.settle search detection).cache
        searches := (service.settle search detection).searches } := by
  unfold settle
  rw [remember_eq]
  rfl

/-- The order of a search does not go with its end. -/
theorem settle_orders (service : Service) (search : Search) (detection : Detection) :
    (service.settle search detection).orders = service.orders := by
  rw [settle, setStage_orders, orders, remember_searches]
  rfl

/-- A poll of a search changes the search, the tokens and the cache only. -/
theorem pollSearch_eq (service : Service) (id : Nat) :
    (service.pollSearch id).2 =
      { service with
        cache := (service.pollSearch id).2.cache
        searches := (service.pollSearch id).2.searches
        cancellation := (service.pollSearch id).2.cancellation } := by
  rcases service.pollSearch_cases id with ⟨polled, _⟩ |
    ⟨search, detection, _, ⟨_, polled⟩ | ⟨_, polled⟩ | ⟨_, _, polled⟩⟩
  · rw [polled]
  · rw [polled]
  · rw [polled]
    dsimp only
    rw [settle_eq]
  · rw [polled]
    dsimp only
    rw [settle_eq]

/-- No order goes while a search is polled. -/
theorem pollSearch_orders (service : Service) (id : Nat) :
    (service.pollSearch id).2.orders = service.orders := by
  rcases service.pollSearch_cases id with ⟨polled, _⟩ |
    ⟨search, detection, _, ⟨_, polled⟩ | ⟨_, polled⟩ | ⟨_, _, polled⟩⟩
  · rw [polled]
  · rw [polled]
  · rw [polled]
    exact settle_orders _ _ _
  · rw [polled]
    exact settle_orders _ _ _

/-- A repeated search ends the call that waits for it. -/
theorem pollRepeated_eq (service : Service) (id : Nat) :
    service.pollRepeated id =
      ((service.pollSearch id).1.elim (.repeating id) fun detection => .finished detection.blocks,
        (service.pollSearch id).2) := by
  unfold pollRepeated
  rcases service.pollSearch id with ⟨_ | detection, next⟩ <;> rfl

/-- The call goes on after a search that it had joined was cancelled by somebody else. -/
def repeats (service : Service) (token : Token) (joined : Bool) (detection : Detection) : Bool :=
  detection.cancelled && joined && !service.isCancelled token

/-- A call that waits is told by the search how to go on. -/
theorem advance_waiting (service : Service) (snapshot : Snapshot) (token : Token) (search : Nat)
    (joined : Bool) :
    service.advance snapshot token (.waiting search joined) =
      match (service.pollSearch search).1 with
      | none => (.waiting search joined, (service.pollSearch search).2)
      | some detection =>
        let released := (service.pollSearch search).2.release snapshot.key search
        if released.repeats token joined detection then
          (released.beginSearch snapshot token).2.pollRepeated released.searchCount
        else (.finished detection.blocks, released) := by
  unfold advance
  dsimp only
  rcases service.pollSearch search with ⟨_ | detection, next⟩ <;> rfl

/-- The order of a new search stands behind the others. -/
theorem beginSearch_orders (service : Service) (snapshot : Snapshot) (token : Token) :
    (service.beginSearch snapshot token).2.orders =
      service.orders ++ [(service.newSearch snapshot token).order] := by
  rw [orders, beginSearch_searches, List.map_append]
  rfl

/-- What the progress of a call may do to calls, orders and the list of searches in flight. -/
structure Advanced (service : Service) (snapshot : Snapshot) (before after : Progress)
    (next : Service) : Prop where
  calls : next.calls = service.calls
  callCount : next.callCount = service.callCount
  orders : ∀ order ∈ service.orders, order ∈ next.orders
  awaited : after = before ∨ ∀ id, after.search? = some id →
    ∃ order ∈ next.orders, order.id = id ∧ order.request.key = snapshot.key
  inFlight : after = before ∧ next.inFlight = service.inFlight ∨
    ∀ entry ∈ next.inFlight, entry ∈ service.inFlight ∧
      ∀ id joined, before = .waiting id joined → entry ≠ (snapshot.key, id)

/-- A repeated search leaves calls and the list as they are. -/
theorem pollRepeated_advanced (service : Service) (snapshot : Snapshot) (id : Nat) :
    Advanced service snapshot (.repeating id) (service.pollRepeated id).1
      (service.pollRepeated id).2 where
  calls := by rw [pollRepeated_eq, pollSearch_eq]
  callCount := by rw [pollRepeated_eq, pollSearch_eq]
  orders order member := by
    rw [pollRepeated_eq, pollSearch_orders]
    exact member
  awaited := by
    rw [pollRepeated_eq]
    cases (service.pollSearch id).1 with
    | none => exact Or.inl rfl
    | some detection => exact Or.inr fun _ absent => by cases absent
  inFlight := by
    right
    rw [pollRepeated_eq, pollSearch_eq]
    exact fun entry member => ⟨member, fun _ _ impossible => by cases impossible⟩

/-- A call that has left its search may begin one of its own. -/
theorem beginAgain_advanced {next : Service} (snapshot : Snapshot) (token : Token) {search : Nat}
    {joined : Bool} (calls : next.calls = service.calls)
    (callCount : next.callCount = service.callCount)
    (orders : ∀ order ∈ service.orders, order ∈ next.orders)
    (left : ∀ entry ∈ next.inFlight, entry ∈ service.inFlight ∧ entry ≠ (snapshot.key, search)) :
    Advanced service snapshot (.waiting search joined)
      ((next.beginSearch snapshot token).2.pollRepeated next.searchCount).1
      ((next.beginSearch snapshot token).2.pollRepeated next.searchCount).2 := by
  have begun := next.beginSearch_orders snapshot token
  have again := pollRepeated_advanced (next.beginSearch snapshot token).2 snapshot next.searchCount
  refine ⟨again.calls.trans calls, again.callCount.trans callCount, ?_, Or.inr ?_, Or.inr ?_⟩
  · intro order member
    apply again.orders
    rw [begun]
    exact List.mem_append_left _ (orders order member)
  · intro id waiting
    rcases again.awaited with same | ordered
    · rw [same] at waiting
      cases waiting
      refine ⟨(next.newSearch snapshot token).order, again.orders _ ?_, rfl, rfl⟩
      rw [begun]
      exact List.mem_append_right _ List.mem_cons_self
    · exact ordered id waiting
  · intro entry member
    have kept : entry ∈ next.inFlight := by
      rcases again.inFlight with same | kept
      · rw [same.2] at member
        exact member
      · exact (kept entry member).1
    refine ⟨(left entry kept).1, ?_⟩
    intro id _ same
    cases same
    exact (left entry kept).2

/-- No progress of a call does more than it may do. -/
theorem advance_advanced (service : Service) (snapshot : Snapshot) (token : Token)
    (progress : Progress) :
    Advanced service snapshot progress (service.advance snapshot token progress).1
      (service.advance snapshot token progress).2 := by
  cases progress with
  | finished blocks =>
      exact ⟨rfl, rfl, fun _ member => member, Or.inl rfl, Or.inl ⟨rfl, rfl⟩⟩
  | repeating search => exact pollRepeated_advanced service snapshot search
  | waiting search joined =>
      rw [advance_waiting]
      have polled := service.pollSearch_eq search
      have polledOrders := service.pollSearch_orders search
      generalize (service.pollSearch search).2 = next at polled polledOrders
      have calls : next.calls = service.calls := by rw [polled]
      have callCount : next.callCount = service.callCount := by rw [polled]
      have inFlight : next.inFlight = service.inFlight := by rw [polled]
      have orders (order : Order) (member : order ∈ service.orders) : order ∈ next.orders :=
        polledOrders ▸ member
      cases (service.pollSearch search).1 with
      | none => exact ⟨calls, callCount, orders, Or.inl rfl, Or.inl ⟨rfl, inFlight⟩⟩
      | some detection =>
          dsimp only
          have left (entry : String × Nat)
              (member : entry ∈ (next.release snapshot.key search).inFlight) :
              entry ∈ service.inFlight ∧ entry ≠ (snapshot.key, search) := by
            obtain ⟨kept, other⟩ := List.mem_filter.mp member
            exact ⟨inFlight ▸ kept, by simpa using other⟩
          split
          · exact beginAgain_advanced snapshot token calls callCount orders left
          · refine ⟨calls, callCount, orders, Or.inr (fun _ absent => by cases absent), Or.inr ?_⟩
            intro entry member
            refine ⟨(left entry member).1, ?_⟩
            intro id _ same
            cases same
            exact (left entry member).2

/-- The orders that stay are those that some call waits for. -/
theorem mem_dropUnwaited (service : Service) (order : Order) :
    order ∈ service.dropUnwaited.orders ↔
      order ∈ service.orders ∧ ∃ call ∈ service.calls, call.progress.search? = some order.id := by
  simp only [orders, dropUnwaited, List.mem_map, List.mem_filter, List.any_eq_true, beq_iff_eq]
  constructor
  · rintro ⟨search, ⟨member, waited⟩, rfl⟩
    exact ⟨⟨search, member, rfl⟩, waited⟩
  · rintro ⟨⟨search, member, rfl⟩, waited⟩
    exact ⟨search, ⟨member, waited⟩, rfl⟩

/-- Calls with the progress of one of them changed. -/
def withProgress (calls : List Call) (id : Nat) (progress : Progress) : List Call :=
  calls.map fun other => if other.id == id then { other with progress } else other

/-- One call may have progressed, and the others are as they were. -/
theorem mem_withProgress {calls : List Call} {id : Nat} {progress : Progress} {call : Call}
    (member : call ∈ withProgress calls id progress) :
    call ∈ calls ∧ call.id ≠ id ∨ ∃ old ∈ calls, old.id = id ∧ call = { old with progress } := by
  obtain ⟨old, oldMember, same⟩ := List.mem_map.mp member
  split at same
  · rename_i named
    exact Or.inr ⟨old, oldMember, by simpa using named, same.symm⟩
  · rename_i other
    subst same
    exact Or.inl ⟨oldMember, by simpa using other⟩

theorem withProgress_mem {calls : List Call} {id : Nat} {progress : Progress} {call : Call}
    (member : call ∈ calls) (other : call.id ≠ id) : call ∈ withProgress calls id progress :=
  List.mem_map.mpr ⟨call, member, by simp [other]⟩

/-- Calls keep their numbers. -/
theorem withProgress_ids (calls : List Call) (id : Nat) (progress : Progress) :
    (withProgress calls id progress).map Call.id = calls.map Call.id := by
  rw [withProgress, List.map_map]
  apply List.map_congr_left
  intro call _
  simp only [Function.comp_apply]
  split <;> rfl

theorem call?_mem {id : Nat} {call : Call} (found : service.call? id = some call) :
    call ∈ service.calls ∧ call.id = id :=
  ⟨List.mem_of_find?_eq_some found, by simpa using List.find?_some found⟩

/-- A poll advances one call, and then drops searches that nobody waits for. -/
theorem poll_eq {id : Nat} {call : Call} (found : service.call? id = some call) :
    service.poll id =
      dropUnwaited { (service.advance call.snapshot call.token call.progress).2 with
        calls := withProgress (service.advance call.snapshot call.token call.progress).2.calls id
          (service.advance call.snapshot call.token call.progress).1 } := by
  unfold poll
  rw [found]
  rfl

/-- The service is in order as a whole. -/
structure Consistent (known : Snapshot → Prop) (service : Service) : Prop where
  sound : Sound known service
  linked : Linked known service

/-- Calls are told apart by their numbers. -/
theorem Linked.unique (linked : Linked known service) {first second : Call}
    (firstMember : first ∈ service.calls) (secondMember : second ∈ service.calls)
    (same : first.id = second.id) : first = second :=
  List.inj_on_of_nodup_map linked.distinct firstMember secondMember same

/-- The numbers of searches that are waited for have been given out. -/
theorem Consistent.awaited_lt (consistent : Consistent known service) {call : Call}
    (member : call ∈ service.calls) {id : Nat} (waiting : call.progress.search? = some id) :
    id < service.searchCount := by
  obtain ⟨order, orderMember, named, _⟩ := consistent.linked.awaited call member id waiting
  obtain ⟨search, searchMember, same⟩ := List.mem_map.mp orderMember
  have below := (consistent.sound.searches search searchMember).numbered
  rw [← named, ← same]
  exact below

/-- A search looks for the blocks of the key of every call that waits for it. -/
theorem Consistent.awaited_key (consistent : Consistent known service) {call : Call}
    (member : call ∈ service.calls) {search : Search} (searchMember : search ∈ service.searches)
    (waiting : call.progress.search? = some search.id) :
    search.request.key = call.snapshot.key := by
  obtain ⟨order, orderMember, named, keyed⟩ := consistent.linked.awaited call member _ waiting
  obtain ⟨other, otherMember, same⟩ := List.mem_map.mp orderMember
  subst same
  have identical := consistent.sound.unique otherMember searchMember named
  subst identical
  exact keyed

/-- Searches in flight have been counted. -/
theorem Consistent.inFlight_lt (consistent : Consistent known service) {key : String} {id : Nat}
    (member : (key, id) ∈ service.inFlight) : id < service.searchCount := by
  obtain ⟨call, callMember, _, joined, waiting⟩ := consistent.linked.listed key id member
  exact consistent.awaited_lt callMember (by rw [waiting]; rfl)

/-- A search in flight looks for the blocks of its key, with what is in force. -/
theorem Consistent.inFlight_search (consistent : Consistent known service) {key : String} {id : Nat}
    (listed : (key, id) ∈ service.inFlight) {search : Search} (member : search ∈ service.searches)
    (named : search.id = id) :
    search.request.key = key ∧ search.generation = service.generation := by
  obtain ⟨call, callMember, keyed, joined, waiting⟩ := consistent.linked.listed key id listed
  constructor
  · rw [← keyed]
    exact consistent.awaited_key callMember member (by rw [waiting, named]; rfl)
  · exact consistent.linked.fresh key id listed search.order (List.mem_map_of_mem member) named

/-- A call goes on and stays linked. -/
theorem Linked.advance (consistent : Consistent known service) (call : Call)
    (callMember : call ∈ service.calls) (progress : Progress) (next : Service)
    (on : GoesOn known service next)
    (advanced : Advanced service call.snapshot call.progress progress next) :
    Linked known (dropUnwaited { next with calls := withProgress next.calls call.id progress }) := by
  obtain ⟨sound, linked⟩ := consistent
  have calls := advanced.calls
  have earlier {other : Call} (member : other ∈ withProgress next.calls call.id progress) :
      other ∈ service.calls ∧ other.id ≠ call.id ∨ other = { call with progress } := by
    rcases mem_withProgress member with ⟨old, different⟩ | ⟨old, oldMember, named, same⟩
    · exact Or.inl ⟨calls ▸ old, different⟩
    · have identical := linked.unique (calls ▸ oldMember) callMember named
      subst identical
      exact Or.inr same
  have kept {entry : String × Nat} (member : entry ∈ next.inFlight) : entry ∈ service.inFlight := by
    rcases advanced.inFlight with ⟨_, same⟩ | kept
    · exact same ▸ member
    · exact (kept entry member).1
  constructor
  case known =>
    intro other member
    rcases earlier member with ⟨old, _⟩ | same
    · exact linked.known other old
    · subst same
      exact linked.known call callMember
  case distinct =>
    change ((withProgress next.calls call.id progress).map Call.id).Nodup
    rw [withProgress_ids, calls]
    exact linked.distinct
  case numbered =>
    intro other member
    change other.id < next.callCount
    rw [advanced.callCount]
    rcases earlier member with ⟨old, _⟩ | same
    · exact linked.numbered other old
    · subst same
      exact linked.numbered call callMember
  case awaited =>
    intro other member id waiting
    have ordered : ∃ order ∈ next.orders, order.id = id ∧ order.request.key = other.snapshot.key := by
      rcases earlier member with ⟨old, _⟩ | same
      · obtain ⟨order, orderMember, facts⟩ := linked.awaited other old id waiting
        exact ⟨order, advanced.orders order orderMember, facts⟩
      · subst same
        rcases advanced.awaited with same | ordered
        · obtain ⟨order, orderMember, facts⟩ := linked.awaited call callMember id (same ▸ waiting)
          exact ⟨order, advanced.orders order orderMember, facts⟩
        · exact ordered id waiting
    obtain ⟨order, orderMember, named, key⟩ := ordered
    refine ⟨order, (mem_dropUnwaited _ order).mpr ⟨orderMember, other, member, ?_⟩, named, key⟩
    rw [named, waiting]
  case listed =>
    intro key id member
    change (key, id) ∈ next.inFlight at member
    change ∃ other ∈ withProgress next.calls call.id progress, _
    obtain ⟨other, otherMember, keyed, joined, waiting⟩ := linked.listed key id (kept member)
    by_cases named : other.id = call.id
    · have identical := linked.unique otherMember callMember named
      subst identical
      rcases advanced.inFlight with ⟨same, _⟩ | released
      · refine ⟨{ other with progress }, ?_, keyed, joined, same.trans waiting⟩
        exact List.mem_map.mpr ⟨other, calls ▸ otherMember, by simp⟩
      · exact absurd (by rw [keyed]) ((released _ member).2 id joined waiting)
    · exact ⟨other, withProgress_mem (calls ▸ otherMember) named, keyed, joined, waiting⟩
  case fresh =>
    intro key id member order orderMember named
    change (key, id) ∈ next.inFlight at member
    change order.generation = next.generation
    rw [on.generation]
    rcases on.orders order ((mem_dropUnwaited _ order).mp orderMember).1 with old | ⟨new, _⟩
    · exact linked.fresh key id (kept member) order old named
    · -- A search that was begun just now is not listed.
      have below := Consistent.inFlight_lt ⟨sound, linked⟩ (kept member)
      omega

/-- The service is in order after a poll. -/
theorem poll_consistent (consistent : Consistent known service) (id : Nat) :
    GoesOn known service (service.poll id) ∧ Linked known (service.poll id) := by
  cases found : service.call? id with
  | none =>
      have same : service.poll id = service := by
        unfold poll
        rw [found]
      rw [same]
      exact ⟨consistent.sound.stay, consistent.linked⟩
  | some call =>
      obtain ⟨member, named⟩ := call?_mem found
      have on := advance_goesOn consistent.sound call.snapshot call.token
        (consistent.linked.known call member) call.progress
      rw [poll_eq found]
      constructor
      · exact on.trans (dropUnwaited_goesOn on.sound _)
      · rw [← named]
        exact Linked.advance consistent call member _ _ on
          (advance_advanced service call.snapshot call.token call.progress)

/-- What a new call may do to calls, orders and the list of searches in flight. -/
structure Entered (service : Service) (snapshot : Snapshot) (progress : Progress) (next : Service) :
    Prop where
  calls : next.calls = service.calls
  callCount : next.callCount = service.callCount
  orders : ∀ order ∈ service.orders, order ∈ next.orders
  begun : ∀ order ∈ next.orders, order ∈ service.orders ∨ order.generation = service.generation
  awaited : ∀ id, progress.search? = some id →
    ∃ order ∈ next.orders, order.id = id ∧ order.request.key = snapshot.key
  inFlight : ∀ entry ∈ next.inFlight, entry ∈ service.inFlight ∨
    entry = (snapshot.key, service.searchCount) ∧ progress = .waiting service.searchCount false

/-- What is looked up in a list is in the list. -/
theorem mem_of_lookup {β : Type} {entries : List (String × β)} {key : String} {value : β}
    (found : entries.lookup key = some value) : (key, value) ∈ entries := by
  obtain ⟨before, after, same, _⟩ := List.lookup_eq_some_iff.mp found
  rw [same]
  simp

/-- A call that joins a search or begins one does no more than a new call may do. -/
theorem joinOrBegin_entered (linked : Linked known service) (snapshot : Snapshot) (token : Token) :
    Entered service snapshot (service.joinOrBegin snapshot token).1
      (service.joinOrBegin snapshot token).2 := by
  unfold joinOrBegin
  split
  · rename_i search found
    obtain ⟨call, callMember, keyed, joined, waiting⟩ :=
      linked.listed snapshot.key search (mem_of_lookup found)
    refine ⟨rfl, rfl, fun _ member => member, fun _ member => Or.inl member, ?_,
      fun _ member => Or.inl member⟩
    intro id same
    cases same
    obtain ⟨order, member, named, key⟩ :=
      linked.awaited call callMember search (by rw [waiting]; rfl)
    exact ⟨order, member, named, key.trans keyed⟩
  · have begun := service.beginSearch_orders snapshot token
    refine ⟨rfl, rfl, ?_, ?_, ?_, ?_⟩
    · intro order member
      change order ∈ (service.beginSearch snapshot token).2.orders
      rw [begun]
      exact List.mem_append_left _ member
    · intro order member
      change order ∈ (service.beginSearch snapshot token).2.orders at member
      rw [begun, List.mem_append] at member
      rcases member with old | new
      · exact Or.inl old
      · rw [List.mem_singleton.mp new]
        exact Or.inr rfl
    · intro id same
      cases same
      refine ⟨(service.newSearch snapshot token).order, ?_, rfl, rfl⟩
      change _ ∈ (service.beginSearch snapshot token).2.orders
      rw [begun]
      exact List.mem_append_right _ List.mem_cons_self
    · intro entry member
      rcases List.mem_append.mp member with old | new
      · exact Or.inl old
      · exact Or.inr ⟨List.mem_singleton.mp new, rfl⟩

/-- Calls stay linked as long as they and the orders stay as they are, and nothing is newly listed
as in flight. -/
theorem Linked.frame {before after : Service} (linked : Linked known before)
    (calls : after.calls = before.calls) (callCount : after.callCount = before.callCount)
    (orders : after.orders = before.orders)
    (inFlight : ∀ entry ∈ after.inFlight,
      entry ∈ before.inFlight ∧ after.generation = before.generation) : Linked known after where
  known := calls ▸ linked.known
  distinct := calls ▸ linked.distinct
  numbered := by rw [calls, callCount]; exact linked.numbered
  awaited := by rw [calls, orders]; exact linked.awaited
  listed key id member := by rw [calls]; exact linked.listed key id (inFlight _ member).1
  fresh key id member := by
    rw [orders, (inFlight _ member).2]
    exact linked.fresh key id (inFlight _ member).1

/-- A look-up changes the cache alone. -/
theorem lookUp_linked (linked : Linked known service) (key : String) :
    Linked known (service.lookUp key).2 :=
  linked.frame rfl rfl rfl fun _ member => ⟨member, rfl⟩

/-- Searches that are taken off the list are still waited for. -/
theorem evictOthers_linked (linked : Linked known service) (snapshot : Snapshot) :
    Linked known (service.evictOthers snapshot) :=
  linked.frame rfl rfl rfl fun _ member => ⟨List.mem_of_mem_filter member, rfl⟩

/-- No new call does more than it may do. -/
theorem enter_entered (linked : Linked known service) (snapshot : Snapshot) (token : Token) :
    Entered service snapshot (service.enter snapshot token).1 (service.enter snapshot token).2 := by
  have looked := lookUp_linked linked snapshot.key
  unfold enter
  split
  · exact ⟨rfl, rfl, fun _ member => member, fun _ member => Or.inl member,
      (fun _ absent => by cases absent), fun _ member => Or.inl member⟩
  · split
    · rename_i blocks next found
      have same : next = (service.lookUp snapshot.key).2 := by rw [found]
      subst same
      exact ⟨rfl, rfl, fun _ member => member, fun _ member => Or.inl member,
        (fun _ absent => by cases absent), fun _ member => Or.inl member⟩
    · rename_i next missing
      have same : next = (service.lookUp snapshot.key).2 := by rw [missing]
      subst same
      have entered := joinOrBegin_entered (evictOthers_linked looked snapshot) snapshot token
      refine ⟨entered.calls, entered.callCount, entered.orders, entered.begun, entered.awaited, ?_⟩
      intro entry member
      rcases entered.inFlight entry member with old | new
      · exact Or.inl (List.mem_of_mem_filter old)
      · exact Or.inr new

/-- A new call is linked to the search that it waits for. -/
theorem Linked.enter (consistent : Consistent known service) (snapshot : Snapshot) (token : Token)
    (snapshotKnown : known snapshot) (progress : Progress) (next : Service)
    (on : GoesOn known service next) (entered : Entered service snapshot progress next) :
    Linked known { next with
      calls := next.calls ++ [⟨service.callCount, snapshot, token, progress⟩]
      callCount := service.callCount + 1 } := by
  obtain ⟨sound, linked⟩ := consistent
  have earlier {call : Call}
      (member : call ∈ next.calls ++ [⟨service.callCount, snapshot, token, progress⟩]) :
      call ∈ service.calls ∨ call = ⟨service.callCount, snapshot, token, progress⟩ := by
    rw [entered.calls, List.mem_append, List.mem_singleton] at member
    exact member
  constructor
  case known =>
    intro call member
    rcases earlier member with old | new
    · exact linked.known call old
    · subst new
      exact snapshotKnown
  case distinct =>
    dsimp only
    rw [entered.calls, List.map_append, List.nodup_append]
    refine ⟨linked.distinct, List.nodup_singleton _, ?_⟩
    intro old oldMember new newMember same
    obtain ⟨call, callMember, named⟩ := List.mem_map.mp oldMember
    have below := linked.numbered call callMember
    rw [named, same, List.mem_singleton.mp newMember] at below
    exact Nat.lt_irrefl _ below
  case numbered =>
    intro call member
    change call.id < service.callCount + 1
    rcases earlier member with old | new
    · exact Nat.lt_succ_of_lt (linked.numbered call old)
    · subst new
      exact Nat.lt_succ_self _
  case awaited =>
    intro call member id waiting
    rcases earlier member with old | new
    · obtain ⟨order, orderMember, facts⟩ := linked.awaited call old id waiting
      exact ⟨order, entered.orders order orderMember, facts⟩
    · subst new
      exact entered.awaited id waiting
  case listed =>
    intro key id member
    rcases entered.inFlight _ member with old | ⟨new, waiting⟩
    · obtain ⟨call, callMember, facts⟩ := linked.listed key id old
      refine ⟨call, ?_, facts⟩
      rw [entered.calls]
      exact List.mem_append_left _ callMember
    · cases new
      exact ⟨_, List.mem_append_right _ List.mem_cons_self, rfl, false, waiting⟩
  case fresh =>
    intro key id member order orderMember named
    change order.generation = next.generation
    rw [on.generation]
    rcases entered.begun order orderMember with old | new
    · rcases entered.inFlight _ member with listed | ⟨listed, _⟩
      · exact linked.fresh key id listed order old named
      · obtain ⟨search, searchMember, same⟩ := List.mem_map.mp old
        have below := (sound.searches search searchMember).numbered
        cases listed
        rw [← same] at named
        exact absurd named (Nat.ne_of_lt below)
    · exact new

/-- The service with a new call that has not been polled. -/
def opened (service : Service) (snapshot : Snapshot) (token : Token) : Service :=
  { (service.enter snapshot token).2 with
    calls := (service.enter snapshot token).2.calls ++
      [⟨service.callCount, snapshot, token, (service.enter snapshot token).1⟩]
    callCount := service.callCount + 1 }

/-- A new call that has not been polled leaves the service in order. -/
theorem opened_consistent (consistent : Consistent known service) (snapshot : Snapshot)
    (token : Token) (snapshotKnown : known snapshot) :
    GoesOn known service (service.opened snapshot token) ∧
      Linked known (service.opened snapshot token) := by
  have on := enter_goesOn consistent.sound snapshot token snapshotKnown
  refine ⟨on.trans (on.sound.rearrange rfl rfl rfl rfl rfl rfl rfl rfl), ?_⟩
  exact Linked.enter consistent snapshot token snapshotKnown _ _ on
    (enter_entered consistent.linked snapshot token)

/-- The service is in order after a new call. -/
theorem begin_consistent (consistent : Consistent known service) (snapshot : Snapshot)
    (token : Token) (snapshotKnown : known snapshot) :
    GoesOn known service (service.begin snapshot token).2 ∧
      Linked known (service.begin snapshot token).2 := by
  obtain ⟨on, linked⟩ := opened_consistent consistent snapshot token snapshotKnown
  have polled := poll_consistent ⟨on.sound, linked⟩ service.callCount
  exact ⟨on.trans polled.1, polled.2⟩

/-- The list may lose a search. -/
theorem release_linked (linked : Linked known service) (key : String) (id : Nat) :
    Linked known (service.release key id) :=
  linked.frame rfl rfl rfl fun _ member => ⟨List.mem_of_mem_filter member, rfl⟩

/-- Calls stay linked when one of them is closed for which nothing is listed as in flight. -/
theorem Linked.close (linked : Linked known service) (call : Call)
    (released : ∀ id joined, call.progress = .waiting id joined →
      (call.snapshot.key, id) ∉ service.inFlight) (callMember : call ∈ service.calls) :
    Linked known
      (dropUnwaited { service with calls := service.calls.filter (·.id != call.id) }) := by
  have earlier {other : Call} (member : other ∈ service.calls.filter (·.id != call.id)) :
      other ∈ service.calls := List.mem_of_mem_filter member
  constructor
  · exact fun other member => linked.known other (earlier member)
  · exact (List.filter_sublist.map Call.id).nodup linked.distinct
  · exact fun other member => linked.numbered other (earlier member)
  · intro other member id waiting
    obtain ⟨order, orderMember, named, key⟩ := linked.awaited other (earlier member) id waiting
    refine ⟨order, (mem_dropUnwaited _ order).mpr ⟨orderMember, other, member, ?_⟩, named, key⟩
    rw [named, waiting]
  · intro key id member
    obtain ⟨other, otherMember, keyed, joined, waiting⟩ := linked.listed key id member
    refine ⟨other, List.mem_filter.mpr ⟨otherMember, ?_⟩, keyed, joined, waiting⟩
    have different : other.id ≠ call.id := by
      intro same
      have identical := linked.unique otherMember callMember same
      subst identical keyed
      exact released id joined waiting member
    simpa using different
  · intro key id member order orderMember named
    exact linked.fresh key id member order ((mem_dropUnwaited _ order).mp orderMember).1 named

/-- A call that is given up takes its search off the list. -/
theorem drop_linked (linked : Linked known service) (id : Nat) :
    Linked known (service.drop id) := by
  unfold drop
  split
  · exact linked
  · rename_i call found
    obtain ⟨member, named⟩ := call?_mem found
    subst named
    cases progress : call.progress with
    | waiting search joined =>
        apply (release_linked linked call.snapshot.key search).close call ?_ member
        intro other _ same
        rw [progress] at same
        cases same
        simp [release]
    | repeating search =>
        exact linked.close call (fun _ _ same => by rw [progress] at same; cases same) member
    | finished blocks =>
        exact linked.close call (fun _ _ same => by rw [progress] at same; cases same) member

/-- The worker has no part in calls or in the list. -/
theorem serve_linked (linked : Linked known service) (chosen : Nat → Bool) :
    Linked known (service.serve chosen) := by
  have orders := service.serve_orders chosen
  rw [serve_eq] at orders ⊢
  exact linked.frame rfl rfl orders fun _ member => ⟨member, rfl⟩

/-- The loss of the worker has no part in calls or in the list. -/
theorem loseWorker_linked (linked : Linked known service) : Linked known service.loseWorker := by
  have orders := service.loseWorker_orders
  rw [loseWorker_eq] at orders ⊢
  exact linked.frame rfl rfl orders fun _ member => ⟨member, rfl⟩

/-- A search without the worker changes the cache and the tokens only. -/
theorem detectNow_eq (service : Service) (snapshot : Snapshot) (token : Token) :
    (service.detectNow snapshot token).2 =
      { service with
        cache := (service.detectNow snapshot token).2.cache
        cancellation := (service.detectNow snapshot token).2.cancellation } := by
  unfold detectNow
  split
  · rfl
  · split
    · rename_i next found
      have same : next = (service.lookUp snapshot.key).2 := by rw [found]
      subst same
      rfl
    · rename_i next missing
      have same : next = (service.lookUp snapshot.key).2 := by rw [missing]
      subst same
      dsimp only
      rw [remember_eq]
      rfl

/-- A search that is made at once leaves calls and the list as they are. -/
theorem detectNow_linked (linked : Linked known service) (snapshot : Snapshot) (token : Token) :
    Linked known (service.detectNow snapshot token).2 := by
  rw [detectNow_eq]
  exact linked.frame rfl rfl rfl fun _ member => ⟨member, rfl⟩

/-- The service is in order after a call has returned. -/
theorem finish_consistent (consistent : Consistent known service) (id : Nat) :
    GoesOn known service (service.finish id).2 ∧ Linked known (service.finish id).2 := by
  apply finish_induction (motive := fun next => GoesOn known service next ∧ Linked known next)
  · intro next call ⟨on, linked⟩
    have polled := poll_consistent ⟨on.sound, linked⟩ call
    exact ⟨on.trans polled.1, polled.2⟩
  · intro next chosen ⟨on, linked⟩
    exact ⟨on.trans (serve_goesOn on.sound chosen), serve_linked linked chosen⟩
  · intro next call ⟨on, linked⟩
    exact ⟨on.trans (drop_goesOn on.sound call), drop_linked linked call⟩
  · exact ⟨consistent.sound.stay, consistent.linked⟩

/-- All results are forgotten, and new patterns and settings may be in force. -/
structure Renewed (before after : Service) : Prop where
  generation : after.generation = before.generation + 1
  searchCount : after.searchCount = before.searchCount
  cancellation : after.cancellation = before.cancellation
  searches : after.searches = before.searches
  calls : after.calls = before.calls
  callCount : after.callCount = before.callCount
  inFlight : after.inFlight = []
  entries : after.cache.entries = []

/-- Searches keep their orders when all results are forgotten. -/
theorem Renewed.persists {before after : Service} (renewed : Renewed before after) :
    Persists before after where
  searchCount := Nat.le_of_eq renewed.searchCount.symm
  cancellation := by rw [renewed.cancellation]; exact Cancellation.Grows.refl _
  orders order member := by
    rw [orders, renewed.searches] at member
    exact Or.inl member

/-- The service stays in order when all results are forgotten. -/
theorem Renewed.consistent {before after : Service} (renewed : Renewed before after)
    (consistent : Consistent known before) : Consistent known after where
  sound := consistent.sound.renew renewed.generation renewed.searchCount renewed.cancellation
    renewed.searches renewed.entries
  linked := by
    refine consistent.linked.frame renewed.calls renewed.callCount
      (congrArg (List.map Search.order) renewed.searches) ?_
    intro entry member
    rw [renewed.inFlight] at member
    cases member

/-- Invalidation forgets all results. -/
theorem invalidate_renewed (service : Service) : Renewed service service.invalidate :=
  ⟨rfl, rfl, rfl, rfl, rfl, rfl, rfl, rfl⟩

/-- A registration forgets all results, unless there is nothing to register. -/
theorem register_renewed (service : Service) (patterns : List Pattern) :
    service.register patterns = service ∨ Renewed service (service.register patterns) := by
  unfold register
  split
  · exact Or.inl rfl
  · exact Or.inr ⟨rfl, rfl, rfl, rfl, rfl, rfl, rfl, rfl⟩

/-- Settings are applied only if they are valid and their patterns compile. -/
theorem apply_ok {settings : Settings} {after : Service}
    (applied : service.apply settings = .ok after) :
    settings.validate = .ok () ∧ ∃ patterns, settings.compilePatterns = .ok patterns ∧
      after = invalidate { service with
        registry := service.base.registerAll patterns
        settings
        cache := if service.settings.cacheTtl = settings.cacheTtl &&
            service.settings.cleanupInterval = settings.cleanupInterval
          then service.cache else freshCache settings service.now } := by
  obtain ⟨_, valid, applied⟩ := Except.ok_of_bind applied
  obtain ⟨patterns, compiled, applied⟩ := Except.ok_of_bind applied
  cases applied
  exact ⟨valid, patterns, compiled, rfl⟩

/-- Settings that are applied make the service forget all results. -/
theorem apply_renewed {settings : Settings} {after : Service}
    (applied : service.apply settings = .ok after) : Renewed service after := by
  obtain ⟨_, patterns, _, same⟩ := apply_ok applied
  subst same
  exact ⟨rfl, rfl, rfl, rfl, rfl, rfl, rfl, rfl⟩

/-- Settings are applied, or they are refused and nothing changes. -/
theorem step_apply (service : Service) (settings : Settings) :
    service.step (.apply settings) = service ∨
      service.apply settings = .ok (service.step (.apply settings)) := by
  cases applied : service.apply settings with
  | error cause => exact Or.inl (by rw [step, applied]; rfl)
  | ok after => exact Or.inr (by rw [step, applied]; rfl)

/-- An event of this kind changes nothing or makes the service forget all results. -/
theorem step_renewed {event : Event} (renews : event.renews = true) :
    service.step event = service ∨ Renewed service (service.step event) := by
  cases event with
  | register patterns => exact service.register_renewed patterns
  | apply settings => exact (service.step_apply settings).imp_right apply_renewed
  | clear => exact Or.inr service.invalidate_renewed
  | _ => cases renews

/-- A step either goes on with what is in force or forgets all results. -/
theorem step_cases (consistent : Consistent known service) (event : Event)
    (submitted : ∀ snapshot, event.snapshot? = some snapshot → known snapshot) :
    GoesOn known service (service.step event) ∧ Linked known (service.step event) ∨
      event.renews = true ∧ Renewed service (service.step event) := by
  obtain ⟨sound, linked⟩ := consistent
  by_cases renews : event.renews = true
  · rcases step_renewed renews with same | renewed
    · left
      rw [same]
      exact ⟨sound.stay, linked⟩
    · exact Or.inr ⟨renews, renewed⟩
  · left
    cases event with
    | issueToken =>
        exact ⟨cancellation_goesOn sound _ service.cancellation.issue_grows,
          linked.frame rfl rfl rfl fun _ member => ⟨member, rfl⟩⟩
    | cancel token =>
        exact ⟨cancellation_goesOn sound _ (service.cancellation.cancel_grows token),
          linked.frame rfl rfl rfl fun _ member => ⟨member, rfl⟩⟩
    | begin snapshot token =>
        exact begin_consistent ⟨sound, linked⟩ snapshot token (submitted snapshot rfl)
    | poll call => exact poll_consistent ⟨sound, linked⟩ call
    | finish call => exact finish_consistent ⟨sound, linked⟩ call
    | drop call => exact ⟨drop_goesOn sound call, drop_linked linked call⟩
    | serve chosen => exact ⟨serve_goesOn sound chosen, serve_linked linked chosen⟩
    | loseWorker => exact ⟨loseWorker_goesOn sound, loseWorker_linked linked⟩
    | detectNow snapshot token =>
        exact ⟨detectNow_goesOn sound snapshot token (submitted snapshot rfl),
          detectNow_linked linked snapshot token⟩
    | invalidateDocument uri =>
        refine ⟨sound.shrink rfl rfl rfl rfl rfl rfl rfl (Cancellation.Grows.refl _)
          (List.Sublist.refl _) ?_, ?_⟩
        · exact fun entry member => ((service.cache.mem_removeWhere _ entry).mp member).1
        · exact linked.frame rfl rfl rfl fun _ member => ⟨List.mem_of_mem_filter member, rfl⟩
    | cleanup =>
        refine ⟨sound.shrink rfl rfl rfl rfl rfl rfl rfl (Cancellation.Grows.refl _)
          (List.Sublist.refl _) ?_, linked.frame rfl rfl rfl fun _ member => ⟨member, rfl⟩⟩
        exact fun entry member => ((service.cache.mem_cleanup service.now entry).mp member).1
    | wait milliseconds =>
        exact ⟨sound.rearrange rfl rfl rfl rfl rfl rfl rfl rfl,
          linked.frame rfl rfl rfl fun _ member => ⟨member, rfl⟩⟩
    | _ => exact absurd rfl renews

/-- Every event leaves the service in order. -/
theorem step_consistent (consistent : Consistent known service) (event : Event)
    (submitted : ∀ snapshot, event.snapshot? = some snapshot → known snapshot) :
    Consistent known (service.step event) := by
  rcases step_cases consistent event submitted with ⟨on, linked⟩ | ⟨_, renewed⟩
  · exact ⟨on.sound, linked⟩
  · exact renewed.consistent consistent

/-- A new service is in order. -/
theorem new_consistent (registry : Registry) : Consistent known (new registry) where
  sound := {
    distinct := List.nodup_nil
    searches := fun _ member => by cases member
    cached := fun _ member => by cases member }
  linked := {
    known := fun _ member => by cases member
    distinct := List.nodup_nil
    numbered := fun _ member => by cases member
    awaited := fun _ member => by cases member
    listed := fun _ _ member => by cases member
    fresh := fun _ _ member => by cases member }

/-- The service stays in order in every run. -/
theorem run_consistent (consistent : Consistent known service) (events : List Event)
    (submitted : ∀ snapshot ∈ submitted events, known snapshot) :
    Consistent known (service.run events) := by
  apply run_induction
    (fun event => ∀ snapshot, event.snapshot? = some snapshot → known snapshot)
    service events consistent
  · exact fun next event allowed consistent => step_consistent consistent event allowed
  · intro event member snapshot present
    exact submitted snapshot (List.mem_filterMap.mpr ⟨event, member, present⟩)

/-- What each step keeps of a service in order is kept in every run, whatever revisions are
submitted. -/
theorem run_keeps {motive : Service → Prop}
    (step : ∀ service event, Consistent (fun _ => True) service → motive service →
      motive (service.step event))
    (consistent : Consistent (fun _ => True) service) (start : motive service) (events : List Event) :
    motive (service.run events) := by
  have kept : Consistent (fun _ => True) (service.run events) ∧ motive (service.run events) := by
    apply run_induction (motive := fun next => Consistent (fun _ => True) next ∧ motive next)
      (fun _ => True) service events ⟨consistent, start⟩
    · rintro next event - ⟨consistent, held⟩
      exact ⟨step_consistent consistent event fun _ _ => trivial, step next event consistent held⟩
    · exact fun _ _ => trivial
  exact kept.2

end DocBlocks.Service
