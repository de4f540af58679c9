/-
This file shows that a service with quiet patterns cancels nothing by itself, and that its cache is
never without a time to live.
-/

import DocBlocks.Proofs.Service.Calls
import DocBlocks.Proofs.Settings.Validity

namespace DocBlocks.Service

variable {known : Snapshot → Prop} {service : Service}

/-- All patterns in force, in reserve, and in use by a search are quiet. -/
structure Quiet (service : Service) : Prop where
  base : service.base.Quiet
  registry : service.registry.Quiet
  orders : ∀ order ∈ service.orders, order.request.detector.registry.Quiet

/-- Patterns that come from outside are quiet. -/
def Event.Quiet : Event → Prop
  | register patterns => ∀ pattern ∈ patterns, pattern.Quiet
  | _ => True

/-- A search has quiet patterns. -/
theorem Quiet.search (quiet : service.Quiet) {search : Search}
    (member : search ∈ service.searches) : search.request.detector.registry.Quiet :=
  quiet.orders search.order (List.mem_map_of_mem member)

/-- A service that goes on in order stays quiet. -/
theorem GoesOn.quiet {before after : Service} (on : GoesOn known before after)
    (quiet : before.Quiet) : after.Quiet where
  base := on.base ▸ quiet.base
  registry := on.registry ▸ quiet.registry
  orders order member := by
    rcases on.orders order member with old | ⟨_, current⟩
    · exact quiet.orders order old
    · rw [current]
      exact quiet.registry

/-- New patterns come into force, and searches go on with those of their beginning. -/
theorem Renewed.quiet {before after : Service} (renewed : Renewed before after)
    (quiet : before.Quiet) (base : after.base.Quiet) (registry : after.registry.Quiet) :
    after.Quiet where
  base := base
  registry := registry
  orders order member := by
    rw [Service.orders, renewed.searches] at member
    exact quiet.orders order member

/-- A service stays quiet if the patterns that are registered are. -/
theorem register_quiet (quiet : service.Quiet) (patterns : List Pattern)
    (patternsQuiet : ∀ pattern ∈ patterns, pattern.Quiet) : (service.register patterns).Quiet := by
  rcases service.register_renewed patterns with same | renewed
  · rw [same]
    exact quiet
  · apply renewed.quiet quiet
    · unfold register
      split
      · exact quiet.base
      · exact service.base.registerAll_quiet patterns quiet.base patternsQuiet
    · unfold register
      split
      · exact quiet.registry
      · exact service.registry.registerAll_quiet patterns quiet.registry patternsQuiet

/-- The patterns of settings are compiled from expressions, which are quiet. -/
theorem apply_quiet (quiet : service.Quiet) {settings : Settings} {after : Service}
    (applied : service.apply settings = .ok after) : after.Quiet := by
  apply (apply_renewed applied).quiet quiet
  · obtain ⟨_, patterns, _, same⟩ := apply_ok applied
    subst same
    exact quiet.base
  · obtain ⟨_, patterns, compiled, same⟩ := apply_ok applied
    subst same
    exact service.base.registerAll_quiet patterns quiet.base
      (Settings.compileFrom_quiet settings.customPatterns 0 patterns compiled)

/-- A service stays quiet whatever quiet event comes. -/
theorem step_quiet (consistent : Consistent known service) (quiet : service.Quiet) (event : Event)
    (eventQuiet : event.Quiet)
    (submitted : ∀ snapshot, event.snapshot? = some snapshot → known snapshot) :
    (service.step event).Quiet := by
  rcases step_cases consistent event submitted with ⟨on, _⟩ | ⟨renews, renewed⟩
  · exact on.quiet quiet
  · cases event with
    | register patterns => exact register_quiet quiet patterns eventQuiet
    | apply settings =>
        rcases service.step_apply settings with same | applied
        · rw [same]
          exact quiet
        · exact apply_quiet quiet applied
    | clear => exact renewed.quiet quiet quiet.base quiet.registry
    | _ => cases renews

/-- Results live for a while, whatever settings are applied. -/
theorem step_ttl (consistent : Consistent known service) (lives : 0 < service.cache.ttl)
    (event : Event)
    (submitted : ∀ snapshot, event.snapshot? = some snapshot → known snapshot) :
    0 < (service.step event).cache.ttl := by
  rcases step_cases consistent event submitted with ⟨on, _⟩ | ⟨renews, _⟩
  · exact on.ttl ▸ lives
  · cases event with
    | register patterns =>
        change 0 < (service.register patterns).cache.ttl
        unfold register
        split <;> exact lives
    | apply settings =>
        rcases service.step_apply settings with same | applied
        · rw [same]
          exact lives
        · obtain ⟨valid, patterns, _, built⟩ := apply_ok applied
          rw [built]
          change 0 < (if _ then service.cache else freshCache settings service.now).ttl
          split
          · exact lives
          · exact Nat.mul_pos (Settings.bounds_of_valid valid).1.cacheTtl (by decide)
    | clear => exact lives
    | _ => cases renews

/-- Searches and results are in order, patterns are quiet, and the cache keeps results. -/
structure Regular (known : Snapshot → Prop) (service : Service) : Prop where
  sound : Sound known service
  quiet : service.Quiet
  lives : 0 < service.cache.ttl

/-- A service that goes on in order stays regular. -/
theorem Regular.goOn {before after : Service} (regular : Regular known before)
    (on : GoesOn known before after) : Regular known after where
  sound := on.sound
  quiet := on.quiet regular.quiet
  lives := on.ttl ▸ regular.lives

/-- A new service with quiet patterns is regular. -/
theorem new_regular {registry : Registry} (quiet : registry.Quiet) :
    Regular known (new registry) where
  sound := (new_consistent registry).sound
  quiet := ⟨quiet, quiet, fun _ member => by cases member⟩
  lives := by
    change 0 < 300 * 1000
    decide

/-- A new service stays regular in every run that brings quiet patterns only. -/
theorem run_regular {registry : Registry} (quiet : registry.Quiet) (events : List Event)
    (eventsQuiet : ∀ event ∈ events, event.Quiet)
    (submitted : ∀ snapshot ∈ submitted events, known snapshot) :
    Linked known ((new registry).run events) ∧ Regular known ((new registry).run events) := by
  apply run_induction (motive := fun next => Linked known next ∧ Regular known next)
    (fun event => event.Quiet ∧ ∀ snapshot, event.snapshot? = some snapshot → known snapshot)
    (new registry) events ⟨(new_consistent registry).linked, new_regular quiet⟩
  · intro next event ⟨eventQuiet, allowed⟩ ⟨linked, regular⟩
    have after := step_consistent ⟨regular.sound, linked⟩ event allowed
    exact ⟨after.linked, after.sound,
      step_quiet ⟨regular.sound, linked⟩ regular.quiet event eventQuiet allowed,
      step_ttl ⟨regular.sound, linked⟩ regular.lives event allowed⟩
  · intro event member
    refine ⟨eventsQuiet event member, ?_⟩
    intro snapshot present
    exact submitted snapshot (List.mem_filterMap.mpr ⟨event, member, present⟩)

/-- The search with the answer that it gets if it is run now. -/
def Search.answered (cancellation : Cancellation) (search : Search) : Search :=
  { search with stage := .delivered (search.request.run cancellation).1 }

/-- With quiet patterns the worker answers every search under the tokens as they are. -/
theorem answersTo_quiet (quiet : service.Quiet) (chosen : Nat → Bool) :
    service.answersTo chosen =
      ((service.chosenSearches chosen).map fun search => ⟨search.id, search.request.key,
        (search.request.run service.cancellation).1⟩, service.cancellation) := by
  have asked : ∀ request ∈ (service.chosenSearches chosen).map Search.request,
      request.detector.registry.Quiet := by
    intro request member
    obtain ⟨search, searchMember, same⟩ := List.mem_map.mp member
    subst same
    exact quiet.search (List.mem_of_mem_filter searchMember)
  rw [answersTo, Worker.runAll_quiet service.cancellation _ asked, List.map_map]
  rfl

/-- The worker answers the chosen searches that wait for it, as if each were the only one. -/
theorem deliver_quiet (sound : Sound known service) (quiet : service.Quiet) (chosen : Nat → Bool)
    {search : Search} (member : search ∈ service.searches) :
    search.deliver (service.answersTo chosen).1 =
      if search.stage = .queued ∧ chosen search.id = true then search.answered service.cancellation
      else search := by
  split
  · rename_i picked
    obtain ⟨answer, found⟩ := service.answersTo_some chosen search member picked.1 picked.2
    have own : answer.detection = (search.request.run service.cancellation).1 := by
      have given := List.mem_of_find?_eq_some found
      rw [answersTo_quiet quiet] at given
      obtain ⟨other, otherMember, same⟩ := List.mem_map.mp given
      have received : answer.receiver = search.id := by simpa using List.find?_some found
      have identical : other = search := by
        apply sound.unique (List.mem_of_mem_filter otherMember) member
        rw [← received, ← same]
      rw [← same, identical]
    simp [Search.deliver, picked.1, found, own, Search.answered]
  · rename_i passed
    unfold Search.deliver
    split
    · rename_i answer queued found
      exact absurd ⟨queued, (answersTo_found sound chosen search member answer found).1⟩ passed
    · rfl

/-- With quiet patterns every chosen search is run under the tokens as they are. -/
theorem serve_quiet (sound : Sound known service) (quiet : service.Quiet) (chosen : Nat → Bool) :
    service.serve chosen =
      { service with searches := service.searches.map fun search =>
          if search.stage = .queued ∧ chosen search.id = true then
            search.answered service.cancellation
          else search } := by
  have tokens : (service.answersTo chosen).2 = service.cancellation := by rw [answersTo_quiet quiet]
  rw [serve_eq, tokens,
    List.map_congr_left fun _ member => deliver_quiet sound quiet chosen member]

/-- With quiet patterns a poll of a search leaves all tokens as they are. -/
theorem pollSearch_cancellation (quiet : service.Quiet) (id : Nat) :
    (service.pollSearch id).2.cancellation = service.cancellation := by
  rcases service.pollSearch_cases id with ⟨polled, _⟩ |
    ⟨search, detection, found, ⟨_, polled⟩ | ⟨_, polled⟩ | ⟨_, _, polled⟩⟩
  · rw [polled]
  · rw [polled]
  · rw [polled]
    dsimp only
    rw [settle_eq]
  · have unchanged := search.request.run_cancellation (quiet.search (search?_mem found).1)
      service.cancellation
    rw [polled]
    dsimp only
    rw [settle_eq, unchanged]

end DocBlocks.Service
