/-
This file shows what settings leave behind when they are applied: a cache with their times, in which
nothing is ever stored that was searched for before.
-/

import DocBlocks.Proofs.Service.Layers

namespace DocBlocks

/-- The cache keeps its entries for as long as the settings say. -/
structure Cache.Timed {α : Type} (cache : Cache α) (settings : Settings) : Prop where
  ttl : cache.ttl = settings.cacheTtl * 1000
  interval : cache.interval = settings.cleanupInterval * 1000

namespace Service

variable {known : Snapshot → Prop} {service : Service}

/-- A new cache is timed by the settings. -/
theorem freshCache_timed {α : Type} (settings : Settings) (now : Nat) :
    (freshCache settings now : Cache α).Timed settings :=
  ⟨rfl, rfl⟩

/-- The cache is timed by the settings that are applied. -/
theorem apply_timed (timed : service.cache.Timed service.settings) {settings : Settings}
    {after : Service} (applied : service.apply settings = .ok after) : after.cache.Timed settings := by
  obtain ⟨_, patterns, _, rfl⟩ := apply_ok applied
  change Cache.Timed (Cache.clear (if _ then _ else _)) settings
  split
  · rename_i same
    obtain ⟨ttl, interval⟩ := Bool.and_eq_true_iff.mp same
    rw [decide_eq_true_eq] at ttl interval
    exact ⟨ttl ▸ timed.ttl, interval ▸ timed.interval⟩
  · exact ⟨rfl, rfl⟩

/-- The times of the cache are those of the settings in force. -/
theorem step_timed (consistent : Consistent known service)
    (timed : service.cache.Timed service.settings) (event : Event)
    (submitted : ∀ snapshot, event.snapshot? = some snapshot → known snapshot) :
    (service.step event).cache.Timed (service.step event).settings := by
  rcases step_cases consistent event submitted with ⟨on, _⟩ | ⟨renews, _⟩
  · rw [on.settings]
    exact ⟨on.ttl.trans timed.ttl, on.interval.trans timed.interval⟩
  · cases event with
    | register patterns =>
        change (service.register patterns).cache.Timed (service.register patterns).settings
        unfold register
        split
        · exact timed
        · exact ⟨timed.ttl, timed.interval⟩
    | apply settings =>
        rcases service.step_apply settings with same | applied
        · rw [same]
          exact timed
        · have inForce : (service.step (.apply settings)).settings = settings := by
            obtain ⟨_, patterns, _, same⟩ := apply_ok applied
            rw [same]
            rfl
          rw [inForce]
          exact apply_timed timed applied
    | clear => exact ⟨timed.ttl, timed.interval⟩
    | _ => cases renews

/-- A generation is over, and all searches with smaller numbers are of that one or an earlier
one. -/
structure Outdates (count last : Nat) (service : Service) : Prop where
  searchCount : count ≤ service.searchCount
  generation : last < service.generation
  orders : ∀ order ∈ service.orders, order.id < count → order.generation ≤ last

/-- All searches that have begun are outdated when all results are forgotten. -/
theorem Renewed.outdates {before after : Service} (renewed : Renewed before after)
    (sound : Sound known before) : Outdates before.searchCount before.generation after where
  searchCount := Nat.le_of_eq renewed.searchCount.symm
  generation := Nat.lt_of_lt_of_eq (Nat.lt_succ_self _) renewed.generation.symm
  orders order member _ := by
    rw [orders, renewed.searches] at member
    obtain ⟨search, searchMember, rfl⟩ := List.mem_map.mp member
    exact (sound.searches search searchMember).past

variable {count last : Nat}

/-- Searches that are outdated stay so, whatever event comes. -/
theorem step_outdates (consistent : Consistent known service)
    (outdates : Outdates count last service) (event : Event)
    (submitted : ∀ snapshot, event.snapshot? = some snapshot → known snapshot) :
    Outdates count last (service.step event) := by
  have keep (persists : Persists service (service.step event))
      (later : service.generation ≤ (service.step event).generation) :
      Outdates count last (service.step event) := by
    refine ⟨Nat.le_trans outdates.searchCount persists.searchCount,
      Nat.lt_of_lt_of_le outdates.generation later, ?_⟩
    intro order member older
    rcases persists.orders order member with old | ⟨new, _⟩
    · exact outdates.orders order old older
    · -- A search that is begun in the step has a number that was not given before.
      have newer := Nat.le_trans outdates.searchCount new
      omega
  rcases step_cases consistent event submitted with ⟨on, _⟩ | ⟨_, renewed⟩
  · exact keep on.toPersists (Nat.le_of_eq on.generation.symm)
  · exact keep renewed.persists (by rw [renewed.generation]; exact Nat.le_succ _)

/-- The times of the cache are those of the settings in every run. -/
theorem run_timed (registry : Registry) (events : List Event) :
    ((new registry).run events).cache.Timed ((new registry).run events).settings :=
  run_keeps (motive := fun service => service.cache.Timed service.settings)
    (fun _ event consistent timed => step_timed consistent timed event fun _ _ => trivial)
    (new_consistent registry) (freshCache_timed _ _) events

/-- Searches that are outdated stay so in every run. -/
theorem run_outdates (consistent : Consistent (fun _ => True) service)
    (outdates : Outdates count last service) (events : List Event) :
    Outdates count last (service.run events) :=
  run_keeps (fun _ event consistent outdates =>
    step_outdates consistent outdates event fun _ _ => trivial) consistent outdates events

/-- A result of a generation that is over is not remembered. -/
theorem Outdates.remember (outdates : Outdates count last service) {earlier : Nat}
    (past : earlier ≤ last) (key : String) (detection : Detection) :
    service.remember key earlier detection = service := by
  have newer := outdates.generation
  have differs : service.generation ≠ earlier := by omega
  rw [Service.remember, if_pos (by simp [differs])]

/-- Whoever looks at an outdated search leaves the cache as it is. -/
theorem Outdates.pollSearch (outdates : Outdates count last service) {id : Nat}
    (older : id < count) : (service.pollSearch id).2.cache = service.cache := by
  rcases service.pollSearch_cases id with ⟨polled, _⟩ | ⟨search, detection, found, outcome⟩
  · rw [polled]
  · obtain ⟨member, named⟩ := search?_mem found
    have past : search.generation ≤ last :=
      outdates.orders search.order (List.mem_map_of_mem member) (by
        change search.id < count
        omega)
    rcases outcome with ⟨_, polled⟩ | ⟨_, polled⟩ | ⟨_, _, polled⟩
    · rw [polled]
    · rw [polled, settle, outdates.remember past]
      rfl
    · have cancelled : Outdates count last
          { service with cancellation := (search.request.run service.cancellation).2 } :=
        ⟨outdates.searchCount, outdates.generation, outdates.orders⟩
      rw [polled, settle, cancelled.remember past]
      rfl

end Service

end DocBlocks
