/-
This file shows who holds the searches in flight: each is listed as long as the call that began it
and all calls that joined it go on waiting, and no document has two of them.
-/

import DocBlocks.Proofs.Revision.Key
import DocBlocks.Proofs.Service.Paths

namespace DocBlocks.Service

variable {known : Snapshot → Prop} {service : Service}

/-- The search in flight that a call waits for, with the key that it is listed under. -/
def Call.entry? (call : Call) : Option (String × Nat) :=
  match call.progress with
  | .waiting search _ => some (call.snapshot.key, search)
  | _ => none

/-- The call has begun the search and waits for it. -/
def Call.Began (call : Call) (entry : String × Nat) : Prop :=
  call.snapshot.key = entry.1 ∧ call.progress = .waiting entry.2 false

theorem Call.Began.entry? {call : Call} {entry : String × Nat} (began : call.Began entry) :
    call.entry? = some entry := by
  rw [Call.entry?, began.2, began.1]

/-- A call waits for the search that it holds, under its own key. -/
theorem Call.search?_of_entry? {call : Call} {entry : String × Nat}
    (holds : call.entry? = some entry) :
    call.snapshot.key = entry.1 ∧ call.progress.search? = some entry.2 := by
  unfold Call.entry? at holds
  split at holds
  · rename_i search joined waiting
    cases holds
    exact ⟨rfl, by rw [waiting]; rfl⟩
  · cases holds

/-- Each search in flight is listed once and held by the call that began it. Calls that hold
different ones are for different documents. -/
structure Held (service : Service) : Prop where
  keys : (service.inFlight.map Prod.fst).Nodup
  began : ∀ entry ∈ service.inFlight, ∃ call ∈ service.calls, call.Began entry
  apart : ∀ one ∈ service.inFlight, ∀ other ∈ service.inFlight,
    ∀ first ∈ service.calls, ∀ second ∈ service.calls,
      first.entry? = some one → second.entry? = some other →
        first.snapshot.uri = second.snapshot.uri → one = other

/-- Nothing is newly listed, and what stays listed is held by the same calls as before. -/
structure Keeps (before after : Service) : Prop where
  inFlight : after.inFlight.Sublist before.inFlight
  holders : ∀ entry ∈ after.inFlight, ∀ call : Call, call.entry? = some entry →
    (call ∈ after.calls ↔ call ∈ before.calls)

/-- Calls that do not change hold what they held. -/
theorem Keeps.of_calls {before after : Service} (calls : after.calls = before.calls)
    (inFlight : after.inFlight.Sublist before.inFlight) : Keeps before after :=
  ⟨inFlight, fun _ _ _ _ => by rw [calls]⟩

/-- What is kept by one step and by the next is kept by both. -/
theorem Keeps.trans {first second third : Service} (early : Keeps first second)
    (late : Keeps second third) : Keeps first third where
  inFlight := late.inFlight.trans early.inFlight
  holders entry member call holds :=
    (late.holders entry member call holds).trans
      (early.holders entry (late.inFlight.subset member) call holds)

/-- Searches that stay listed are still held by the calls that began them. -/
theorem Held.keep {before after : Service} (held : Held before) (keeps : Keeps before after) :
    Held after where
  keys := (keeps.inFlight.map Prod.fst).nodup held.keys
  began entry member := by
    obtain ⟨call, callMember, began⟩ := held.began entry (keeps.inFlight.subset member)
    exact ⟨call, (keeps.holders entry member call began.entry?).mpr callMember, began⟩
  apart one oneMember other otherMember first firstMember second secondMember holdsOne holdsOther :=
    held.apart one (keeps.inFlight.subset oneMember) other (keeps.inFlight.subset otherMember)
      first ((keeps.holders one oneMember first holdsOne).mp firstMember)
      second ((keeps.holders other otherMember second holdsOther).mp secondMember) holdsOne holdsOther

/-- Besides, nothing has left the list but what the call with this number held. -/
structure Leaves (id : Nat) (before after : Service) : Prop extends Keeps before after where
  left : ∀ entry ∈ before.inFlight, entry ∉ after.inFlight →
    ∃ call ∈ before.calls, call.id = id ∧ call.entry? = some entry

/-- A step that changes neither calls nor the list takes nothing off it. -/
theorem Leaves.of_eq {before after : Service} (id : Nat) (calls : after.calls = before.calls)
    (inFlight : after.inFlight = before.inFlight) : Leaves id before after where
  toKeeps := .of_calls calls (by rw [inFlight])
  left entry member gone := absurd (inFlight ▸ member) gone

/-- One step after another takes off the list at most what the call holds. -/
theorem Leaves.trans {id : Nat} {first second third : Service} (early : Leaves id first second)
    (late : Leaves id second third) : Leaves id first third where
  toKeeps := early.toKeeps.trans late.toKeeps
  left entry member gone := by
    by_cases stayed : entry ∈ second.inFlight
    · obtain ⟨call, callMember, named, holds⟩ := late.left entry stayed gone
      exact ⟨call, (early.holders entry stayed call holds).mp callMember, named, holds⟩
    · exact early.left entry member stayed

/-- A call that ends takes what it holds off the list. -/
def listWithout (service : Service) (call : Call) : List (String × Nat) :=
  service.inFlight.filter fun entry => call.entry? != some entry

/-- A call that waits releases what it holds. -/
theorem release_listWithout (service : Service) {call : Call} {search : Nat} {joined : Bool}
    (waiting : call.progress = .waiting search joined) :
    (service.release call.snapshot.key search).inFlight = service.listWithout call := by
  refine List.filter_congr fun entry _ => ?_
  rw [Call.entry?, waiting, Bool.eq_iff_iff, bne_iff_ne, bne_iff_ne, ne_eq, ne_eq, Option.some_inj,
    eq_comm]

/-- A call that holds nothing takes nothing off the list. -/
theorem listWithout_none (service : Service) {call : Call} (holds : call.entry? = none) :
    service.listWithout call = service.inFlight := by
  rw [listWithout, List.filter_eq_self]
  intro entry _
  rw [holds]
  rfl

/-- A call that goes on either waits for the same search or has left what it held. -/
theorem advance_leaves (service : Service) (call : Call) :
    let next := service.advance call.snapshot call.token call.progress
    next.1 = call.progress ∧ next.2.inFlight = service.inFlight ∨
      Call.entry? { call with progress := next.1 } = none ∧
        next.2.inFlight = service.listWithout call := by
  dsimp only
  have repeated (other : Service) (search : Nat) :
      (other.pollRepeated search).2.inFlight = other.inFlight := by
    rw [pollRepeated_eq, pollSearch_eq]
  have unheld (other : Service) (search : Nat) :
      Call.entry? { call with progress := (other.pollRepeated search).1 } = none := by
    rw [pollRepeated_eq]
    cases (other.pollSearch search).1 <;> rfl
  cases going : call.progress with
  | finished blocks => exact Or.inl ⟨rfl, rfl⟩
  | repeating search =>
      have none : call.entry? = none := by rw [Call.entry?, going]
      exact Or.inr ⟨unheld service search,
        (repeated service search).trans (service.listWithout_none none).symm⟩
  | waiting search joined =>
      have polled : (service.pollSearch search).2.inFlight = service.inFlight := by
        rw [pollSearch_eq]
      have released : ((service.pollSearch search).2.release call.snapshot.key search).inFlight =
          service.listWithout call := by
        rw [release_listWithout _ going, listWithout, polled, listWithout]
      rw [advance_waiting]
      cases (service.pollSearch search).1 with
      | none => exact Or.inl ⟨rfl, polled⟩
      | some detection =>
          right
          dsimp only
          split
          · exact ⟨unheld _ _, (repeated _ _).trans released⟩
          · exact ⟨rfl, released⟩

/-- A call may end, as long as it takes what it holds off the list. -/
theorem Leaves.of_ended {after : Service} {call : Call} (linked : Linked known service)
    (member : call ∈ service.calls) (inFlight : after.inFlight = service.listWithout call)
    (calls : ∀ other : Call, other.entry? ≠ none →
      (other ∈ after.calls ↔ other ∈ service.calls ∧ other.id ≠ call.id)) :
    Leaves call.id service after where
  inFlight := by
    rw [inFlight]
    exact List.filter_sublist
  holders entry listed other holds := by
    rw [calls other (by rw [holds]; simp), and_iff_left_iff_imp]
    intro otherMember named
    rw [inFlight] at listed
    have kept := (List.mem_filter.mp listed).2
    rw [← linked.unique otherMember member named, holds] at kept
    simp at kept
  left entry listed gone := by
    refine ⟨call, member, rfl, ?_⟩
    rw [inFlight, listWithout, List.mem_filter, not_and] at gone
    simpa using gone listed

/-- A poll takes off the list at most what the call holds. -/
theorem poll_leaves (linked : Linked known service) (id : Nat) :
    Leaves id service (service.poll id) := by
  cases found : service.call? id with
  | none =>
      have same : service.poll id = service := by
        unfold poll
        rw [found]
      rw [same]
      exact .of_eq id rfl rfl
  | some call =>
      obtain ⟨member, named⟩ := call?_mem found
      have calls := (advance_advanced service call.snapshot call.token call.progress).calls
      rw [poll_eq found]
      subst named
      rcases service.advance_leaves call with ⟨same, inFlight⟩ | ⟨ended, inFlight⟩
      · -- The call that was polled is the only one with its number, and it is as it was.
        refine .of_eq call.id ?_ inFlight
        change withProgress _ call.id _ = service.calls
        rw [calls, same, withProgress]
        nth_rewrite 2 [← List.map_id service.calls]
        refine List.map_congr_left fun other otherMember => ?_
        split
        · rename_i alike
          rw [linked.unique otherMember member (by simpa using alike)]
          rfl
        · rfl
      · refine .of_ended linked member inFlight fun other holds => ?_
        change other ∈ withProgress _ call.id _ ↔ _
        rw [calls]
        constructor
        · intro changed
          rcases mem_withProgress changed with kept | ⟨old, oldMember, alike, same⟩
          · exact kept
          · rw [linked.unique oldMember member alike] at same
            rw [same] at holds
            exact absurd ended holds
        · exact fun kept => withProgress_mem kept.1 kept.2

/-- A call that is given up takes off the list at most what it holds. -/
theorem drop_leaves (linked : Linked known service) (id : Nat) :
    Leaves id service (service.drop id) := by
  cases found : service.call? id with
  | none =>
      have same : service.drop id = service := by
        unfold drop
        rw [found]
      rw [same]
      exact .of_eq id rfl rfl
  | some call =>
      obtain ⟨member, named⟩ := call?_mem found
      subst named
      have dropped : (service.drop call.id).inFlight = service.listWithout call ∧
          (service.drop call.id).calls = service.calls.filter (·.id != call.id) := by
        unfold drop
        rw [found]
        dsimp only
        cases going : call.progress with
        | waiting search joined => exact ⟨service.release_listWithout going, rfl⟩
        | repeating search =>
            exact ⟨(service.listWithout_none (by rw [Call.entry?, going])).symm, rfl⟩
        | finished blocks =>
            exact ⟨(service.listWithout_none (by rw [Call.entry?, going])).symm, rfl⟩
      refine .of_ended linked member dropped.1 fun other _ => ?_
      rw [dropped.2, List.mem_filter, bne_iff_ne]

/-- The worker takes nothing off the list. -/
theorem serve_leaves (service : Service) (chosen : Nat → Bool) (id : Nat) :
    Leaves id service (service.serve chosen) := by
  rw [serve_eq]
  exact .of_eq id rfl rfl

/-- A call that is driven to its end leaves what it holds, and nothing else. -/
theorem finish_leaves (consistent : Consistent known service) (id : Nat) :
    Leaves id service (service.finish id).2 := by
  have awaited : Consistent known (service.await [id]) ∧ Leaves id service (service.await [id]) := by
    refine awaitFor_single (motive := fun next => Consistent known next ∧ Leaves id service next)
      ?_ ?_ 2 service ⟨consistent, .of_eq id rfl rfl⟩
    · intro next ⟨consistent, leaves⟩
      obtain ⟨on, linked⟩ := poll_consistent consistent id
      exact ⟨⟨on.sound, linked⟩, leaves.trans (poll_leaves consistent.linked id)⟩
    · intro next ⟨consistent, leaves⟩
      rw [work_eq_serve]
      exact ⟨⟨(serve_goesOn consistent.sound _).sound, serve_linked consistent.linked _⟩,
        leaves.trans (serve_leaves next _ id)⟩
  exact awaited.2.trans (drop_leaves awaited.1.linked id)

/-- A call joins a search that is listed under its key, or lists a new one if there is none. -/
theorem joinOrBegin_lists (service : Service) (snapshot : Snapshot) (token : Token) :
    let next := service.joinOrBegin snapshot token
    (∃ search, next.1 = .waiting search true ∧ next.2.inFlight = service.inFlight ∧
      (snapshot.key, search) ∈ service.inFlight) ∨
    next.1 = .waiting service.searchCount false ∧
      next.2.inFlight = service.inFlight ++ [(snapshot.key, service.searchCount)] ∧
      snapshot.key ∉ service.inFlight.map Prod.fst := by
  dsimp only
  unfold joinOrBegin
  split
  · rename_i search listed
    exact Or.inl ⟨search, rfl, rfl, mem_of_lookup listed⟩
  · rename_i unlisted
    refine Or.inr ⟨rfl, rfl, fun member => ?_⟩
    obtain ⟨entry, entryMember, same⟩ := List.mem_map.mp member
    have other := List.lookup_eq_none_iff.mp unlisted entry entryMember
    rw [same, bne_self_eq_false] at other
    cases other

/-- The searches in flight that a new call for a revision leaves listed. -/
def listBeside (service : Service) (snapshot : Snapshot) : List (String × Nat) :=
  service.inFlight.filter fun (key, _) => key == snapshot.key || !keyOfDocument snapshot.uri key

/-- A new call is answered at once, or joins the search that is listed under its key, or lists one
that it has begun. -/
theorem enter_lists (service : Service) (snapshot : Snapshot) (token : Token) :
    let next := service.enter snapshot token
    let beside := service.listBeside snapshot
    next.1.search? = none ∧ next.2.inFlight = service.inFlight ∨
      (∃ search, next.1 = .waiting search true ∧ next.2.inFlight = beside ∧
        (snapshot.key, search) ∈ beside) ∨
      next.1 = .waiting service.searchCount false ∧
        next.2.inFlight = beside ++ [(snapshot.key, service.searchCount)] ∧
        snapshot.key ∉ beside.map Prod.fst := by
  dsimp only
  unfold enter
  split
  · exact Or.inl ⟨rfl, rfl⟩
  · split
    · rename_i blocks next found
      have same : next = (service.lookUp snapshot.key).2 := by rw [found]
      subst same
      exact Or.inl ⟨rfl, rfl⟩
    · rename_i next missing
      have same : next = (service.lookUp snapshot.key).2 := by rw [missing]
      subst same
      exact Or.inr (joinOrBegin_lists _ snapshot token)

/-- The searches in flight after a new call are told apart by their keys. Those that belong to its
document are the one that it waits for, and no other. -/
structure Cleared (service : Service) (snapshot : Snapshot) (search : Nat)
    (inFlight : List (String × Nat)) : Prop where
  keys : (inFlight.map Prod.fst).Nodup
  listed : (snapshot.key, search) ∈ inFlight
  others : ∀ entry ∈ inFlight, entry = (snapshot.key, search) ∨
    entry ∈ service.inFlight ∧ keyOfDocument snapshot.uri entry.1 = false

/-- What stays listed beside a revision is of that revision, or of another document. -/
theorem mem_listBeside {snapshot : Snapshot} {entry : String × Nat}
    (member : entry ∈ service.listBeside snapshot) :
    entry ∈ service.inFlight ∧
      (entry.1 = snapshot.key ∨ keyOfDocument snapshot.uri entry.1 = false) := by
  obtain ⟨listed, beside⟩ := List.mem_filter.mp member
  exact ⟨listed, by simpa using beside⟩

/-- A search that is joined is the one of its document. -/
theorem Held.cleared_joined (held : Held service) {snapshot : Snapshot} {search : Nat}
    (listed : (snapshot.key, search) ∈ service.listBeside snapshot) :
    Cleared service snapshot search (service.listBeside snapshot) where
  keys := (List.filter_sublist.map Prod.fst).nodup held.keys
  listed := listed
  others entry member := by
    obtain ⟨old, same | other⟩ := mem_listBeside member
    · exact Or.inl (List.inj_on_of_nodup_map held.keys old (mem_listBeside listed).1 same)
    · exact Or.inr ⟨old, other⟩

/-- A search that is begun is the one of its document. -/
theorem Held.cleared_begun (held : Held service) {snapshot : Snapshot} (search : Nat)
    (unlisted : snapshot.key ∉ (service.listBeside snapshot).map Prod.fst) :
    Cleared service snapshot search (service.listBeside snapshot ++ [(snapshot.key, search)]) where
  keys := by
    rw [List.map_append, List.map_singleton, ← List.concat_eq_append]
    exact ((List.filter_sublist.map Prod.fst).nodup held.keys).concat unlisted
  listed := List.mem_append_right _ List.mem_cons_self
  others entry member := by
    rcases List.mem_append.mp member with beside | new
    · obtain ⟨old, same | other⟩ := mem_listBeside beside
      · exact absurd (same ▸ List.mem_map_of_mem beside) unlisted
      · exact Or.inr ⟨old, other⟩
    · exact Or.inl (List.mem_singleton.mp new)

/-- A new call may wait for the only search in flight that belongs to its document. -/
theorem Held.enter (held : Held service) {after : Service} {call : Call} {search : Nat} {joined : Bool}
    (calls : after.calls = service.calls ++ [call])
    (waiting : call.progress = .waiting search joined)
    (cleared : Cleared service call.snapshot search after.inFlight)
    (began : joined = false ∨ (call.snapshot.key, search) ∈ service.inFlight)
    (unheld : ∀ old ∈ service.calls, ∀ entry ∈ after.inFlight, old.entry? = some entry →
      entry ∈ service.inFlight) : Held after := by
  have own : call.entry? = some (call.snapshot.key, search) := by rw [Call.entry?, waiting]
  have earlier {other : Call} (member : other ∈ after.calls) :
      other ∈ service.calls ∨ other = call := by
    rw [calls, List.mem_append, List.mem_singleton] at member
    exact member
  -- Another call for the document can hold nothing else, since all else of the document has left.
  have meets {other : Call} {entry : String × Nat} (listed : entry ∈ after.inFlight)
      (holds : other.entry? = some entry) (alike : other.snapshot.uri = call.snapshot.uri) :
      entry = (call.snapshot.key, search) := by
    refine (cleared.others entry listed).resolve_right fun away => ?_
    have owned := other.snapshot.keyOfDocument_key
    rw [alike, (Call.search?_of_entry? holds).1, away.2] at owned
    cases owned
  refine ⟨cleared.keys, fun entry listed => ?_,
    fun one oneListed other otherListed first firstMember second secondMember holdsOne holdsOther
      alike => ?_⟩
  · have kept (old : entry ∈ service.inFlight) : ∃ call ∈ after.calls, call.Began entry := by
      obtain ⟨holder, member, began⟩ := held.began entry old
      exact ⟨holder, calls ▸ List.mem_append_left _ member, began⟩
    rcases cleared.others entry listed with rfl | away
    · rcases began with rfl | old
      · exact ⟨call, calls ▸ List.mem_append_right _ List.mem_cons_self, rfl, waiting⟩
      · exact kept old
    · exact kept away.1
  · rcases earlier firstMember with firstOld | rfl <;> rcases earlier secondMember with secondOld | rfl
    · exact held.apart one (unheld first firstOld one oneListed holdsOne) other
        (unheld second secondOld other otherListed holdsOther) first firstOld second secondOld holdsOne
        holdsOther alike
    · rw [own] at holdsOther
      cases holdsOther
      exact meets oneListed holdsOne alike
    · rw [own] at holdsOne
      cases holdsOne
      exact (meets otherListed holdsOther alike.symm).symm
    · exact Option.some.inj (holdsOne.symm.trans holdsOther)

/-- Searches in flight are held after a new call that has not been polled. -/
theorem opened_held (consistent : Consistent known service) (held : Held service)
    (snapshot : Snapshot) (token : Token) : Held (service.opened snapshot token) := by
  have calls : (service.opened snapshot token).calls =
      service.calls ++ [⟨service.callCount, snapshot, token, (service.enter snapshot token).1⟩] :=
    congrArg (· ++ _) (enter_entered consistent.linked snapshot token).calls
  have inFlight : (service.opened snapshot token).inFlight =
      (service.enter snapshot token).2.inFlight := rfl
  rcases service.enter_lists snapshot token with ⟨answered, same⟩ |
    ⟨search, waiting, beside, listed⟩ | ⟨waiting, beside, unlisted⟩
  · refine held.keep ⟨by rw [inFlight, same], fun entry _ call holds => ?_⟩
    rw [calls, List.mem_append, List.mem_singleton, or_iff_left_iff_imp]
    rintro rfl
    have absent := (Call.search?_of_entry? holds).2
    rw [answered] at absent
    cases absent
  · refine held.enter calls waiting ?_ (Or.inr (mem_listBeside listed).1) fun _ _ entry member _ => ?_
    · rw [inFlight, beside]
      exact held.cleared_joined listed
    · rw [inFlight, beside] at member
      exact (mem_listBeside member).1
  · refine held.enter calls waiting ?_ (Or.inl rfl) fun old oldMember entry member holds => ?_
    · rw [inFlight, beside]
      exact held.cleared_begun service.searchCount unlisted
    · rw [inFlight, beside, List.mem_append, List.mem_singleton] at member
      rcases member with listed | rfl
      · exact (mem_listBeside listed).1
      · have below := consistent.awaited_lt oldMember (Call.search?_of_entry? holds).2
        exact absurd below (Nat.lt_irrefl _)

/-- Searches in flight are held after a new call. -/
theorem begin_held (consistent : Consistent known service) (held : Held service) (snapshot : Snapshot)
    (token : Token) (snapshotKnown : known snapshot) : Held (service.begin snapshot token).2 :=
  (opened_held consistent held snapshot token).keep
    (poll_leaves (opened_consistent consistent snapshot token snapshotKnown).2
      service.callCount).toKeeps

/-- A step that forgets all results changes no call, and lists nothing new. -/
theorem Renewed.keeps {before after : Service} (renewed : Renewed before after) : Keeps before after :=
  .of_calls renewed.calls (by rw [renewed.inFlight]; exact List.nil_sublist _)

/-- Every event leaves each search in flight with the call that began it. -/
theorem step_held (consistent : Consistent known service) (held : Held service) (event : Event)
    (submitted : ∀ snapshot, event.snapshot? = some snapshot → known snapshot) :
    Held (service.step event) := by
  by_cases renews : event.renews = true
  · rcases step_renewed renews with same | renewed
    · rw [same]
      exact held
    · exact held.keep renewed.keeps
  · cases event with
    | begin snapshot token => exact begin_held consistent held snapshot token (submitted snapshot rfl)
    | poll call => exact held.keep (poll_leaves consistent.linked call).toKeeps
    | finish call => exact held.keep (finish_leaves consistent call).toKeeps
    | drop call => exact held.keep (drop_leaves consistent.linked call).toKeeps
    | serve chosen => exact held.keep (service.serve_leaves chosen 0).toKeeps
    | loseWorker =>
        refine held.keep ?_
        rw [step, loseWorker_eq]
        exact .of_calls rfl (List.Sublist.refl _)
    | detectNow snapshot token =>
        refine held.keep ?_
        rw [step, detectNow_eq]
        exact .of_calls rfl (List.Sublist.refl _)
    | invalidateDocument uri => exact held.keep (.of_calls rfl List.filter_sublist)
    | register patterns => exact absurd rfl renews
    | apply settings => exact absurd rfl renews
    | clear => exact absurd rfl renews
    | _ => exact held.keep (.of_calls rfl (List.Sublist.refl _))

/-- Every run of a new service leaves each search in flight with the call that began it. -/
theorem run_held (registry : Registry) (events : List Event) :
    Consistent (fun _ => True) ((new registry).run events) ∧ Held ((new registry).run events) := by
  refine ⟨run_consistent (new_consistent registry) events fun _ _ => trivial, ?_⟩
  apply run_keeps _ (new_consistent registry) _ events
  · intro service event consistent held
    exact step_held consistent held event fun _ _ => trivial
  · exact ⟨List.nodup_nil, List.forall_mem_nil _, List.forall_mem_nil _⟩

/-- Whatever happens to the service and in whatever order, a search in flight is listed once, under
the key of the call that began it, and that call is open and waits for it. Open calls that wait for
different searches in flight are for different documents. A call that goes on, ends or is dropped
takes nothing off the list but the search that it waits for itself, and so does a new call that ends
at once, apart from what it takes off when it is opened. So nothing is left in flight when no call
waits. -/
theorem run_inFlight_held (registry : Registry) (events : List Event) :
    let service := (new registry).run events
    (service.inFlight.map Prod.fst).Nodup ∧
      (∀ entry ∈ service.inFlight, ∃ call ∈ service.calls, call.Began entry) ∧
      (∀ one ∈ service.inFlight, ∀ other ∈ service.inFlight,
        ∀ first ∈ service.calls, ∀ second ∈ service.calls,
          first.entry? = some one → second.entry? = some other →
            first.snapshot.uri = second.snapshot.uri → one = other) ∧
      (∀ id, ∀ event ∈ [Event.poll id, .finish id, .drop id],
        ∀ entry ∈ service.inFlight, entry ∉ (service.step event).inFlight →
          ∃ call ∈ service.calls, call.id = id ∧ call.entry? = some entry) ∧
      (∀ snapshot token, let opened := service.opened snapshot token
        ∀ entry ∈ opened.inFlight, entry ∉ (service.step (.begin snapshot token)).inFlight →
          ∃ call ∈ opened.calls, call.id = service.callCount ∧ call.entry? = some entry) ∧
      ((∀ call ∈ service.calls, call.progress.search? = none) → service.inFlight = []) := by
  intro service
  obtain ⟨consistent, held⟩ := run_held registry events
  refine ⟨held.keys, held.began, held.apart, fun id event ending => ?_, fun snapshot token => ?_,
    fun idle => ?_⟩
  · simp only [List.mem_cons, List.not_mem_nil, or_false] at ending
    rcases ending with rfl | rfl | rfl
    · exact (poll_leaves consistent.linked id).left
    · exact (finish_leaves consistent id).left
    · exact (drop_leaves consistent.linked id).left
  · exact (poll_leaves (opened_consistent consistent snapshot token trivial).2 service.callCount).left
  · refine List.eq_nil_iff_forall_not_mem.mpr fun entry listed => ?_
    obtain ⟨call, member, began⟩ := held.began entry listed
    have waits := idle call member
    rw [began.2] at waits
    cases waits

/-- A newer revision has taken the place of an older one, whose call is dropped afterwards. Of the
two calls that share the newer one, the call that joined is the first to end. -/
theorem run_inFlight_held_shared :
    let revision (uri : String) (version : Int) : Snapshot := ⟨uri, version, "python", ['1']⟩
    let events : List Event := [.begin (revision "a" 1) 0, .begin (revision "a" 2) 1,
      .begin (revision "a" 2) 2, .begin (revision "b" 1) 3, .drop 0]
    let service := (new Registry.builtin).run events
    service.inFlight = [("a#v2#python", 1), ("b#v1#python", 2)] ∧
      (service.step (.drop 2)).inFlight = [("b#v1#python", 2)] ∧
      (∃ call ∈ service.calls, call.Began ("a#v2#python", 1)) ∧
      ∃ call ∈ service.calls, call.id = 2 ∧ call.entry? = some ("a#v2#python", 1) := by
  intro revision events service
  have listed : service.inFlight = [("a#v2#python", 1), ("b#v1#python", 2)] := by decide +kernel
  have dropped : (service.step (.drop 2)).inFlight = [("b#v1#python", 2)] := by decide +kernel
  have shared : ("a#v2#python", 1) ∈ service.inFlight := by
    rw [listed]
    exact List.mem_cons_self
  obtain ⟨_, began, _, left, _, _⟩ := run_inFlight_held Registry.builtin events
  refine ⟨listed, dropped, began _ shared, left 2 (.drop 2) (by simp) _ shared ?_⟩
  change _ ∉ (service.step (.drop 2)).inFlight
  rw [dropped]
  decide

end DocBlocks.Service
