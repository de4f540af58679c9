/-
This file says what the service remembers and what its calls return.
-/

import DocBlocks.Proofs.Service.Callers
import DocBlocks.Proofs.Service.Completion

namespace DocBlocks.Service

/-- In every run, each remembered result holds all the blocks of a submitted snapshot with its key,
as the patterns and the preview length in force find them. -/
theorem run_cache_thorough (registry : Registry) (events : List Event)
    (entry : Cache.Entry (List Block))
    (member : entry ∈ ((new registry).run events).cache.entries) :
    ∃ snapshot ∈ submitted events, snapshot.key = entry.key ∧
      entry.value =
        ((new registry).run events).detector.thorough snapshot.text snapshot.language := by
  have consistent : Consistent (· ∈ submitted events) ((new registry).run events) :=
    run_consistent (new_consistent registry) events fun _ submitted => submitted
  exact consistent.sound.cached entry member

/-- The first call ends last and brings a preview of the settings before, which is not
remembered. -/
theorem run_cache_thorough_reapplied :
    let snapshot : Snapshot := ⟨"a.py", 1, "python", "\"\"\"One two\"\"\"".toList⟩
    let events : List Event :=
      [.begin snapshot 0, .apply { previewLength := 4 }, .begin snapshot 1, .finish 1, .finish 0]
    let entry : Cache.Entry (List Block) := ⟨"a.py#v1#python",
      [⟨0, 0, 0, 13, "\"\"\"One two\"\"\"".toList, "O...".toList, "python", true⟩], 0⟩
    entry ∈ ((new Registry.builtin).run events).cache.entries ∧
      ∃ submission ∈ submitted events, submission.key = entry.key ∧
        entry.value = ((new Registry.builtin).run events).detector.thorough submission.text
          submission.language := by
  intro snapshot events entry
  have member : entry ∈ ((new Registry.builtin).run events).cache.entries := by decide +kernel
  exact ⟨member, run_cache_thorough Registry.builtin events entry member⟩

section Return

variable {known : Snapshot → Prop} {service : Service} {snapshot : Snapshot} {token : Token}

/-- A call for a disabled language returns nothing, and any other one is attended to. -/
def Due (enabled : Bool) (snapshot : Snapshot) (token : Token) (allowed : Detector → Prop)
    (service : Service) (progress : Progress) : Prop :=
  if enabled then Attended snapshot token allowed service progress else progress = .finished []

/-- What is due stays so while others act on the service. -/
theorem due_lasting (enabled : Bool) (snapshotKnown : known snapshot) (allowed : Detector → Prop) :
    Lasting known allowed snapshot token (Due enabled snapshot token allowed) := by
  cases enabled with
  | true => exact attended_lasting snapshotKnown allowed
  | false =>
      constructor
      · exact fun _ same => same
      · intro service progress _ _ same
        cases same
        rfl

/-- More detectors may be allowed. -/
theorem Due.weaken {enabled : Bool} {fewer more : Detector → Prop}
    (weaker : ∀ detector, fewer detector → more detector) (progress : Progress)
    (due : Due enabled snapshot token fewer service progress) :
    Due enabled snapshot token more service progress := by
  cases enabled with
  | true => exact Attended.weaken weaker due
  | false => exact due

/-- A call has its due from the moment on at which it is opened. -/
theorem enter_due (consistent : Consistent known service) (agrees : Agrees known snapshot)
    {allowed : Detector → Prop} (detector : allowed service.detector) :
    Due (service.settings.isEnabled snapshot.language) snapshot token allowed
      (service.opened snapshot token) (service.enter snapshot token).1 := by
  cases enabled : service.settings.isEnabled snapshot.language with
  | true => exact enter_attended consistent agrees detector enabled
  | false => simp [Due, enter, enabled]

/-- A call is due what it is due in every run after its first poll. -/
theorem run_due (consistent : Consistent known service) (agrees : Agrees known snapshot)
    (snapshotKnown : known snapshot) (token : Token) (events : List Event)
    (submitted : ∀ snapshot ∈ submitted events, known snapshot) :
    Followed (Due (service.settings.isEnabled snapshot.language) snapshot token
        ((service.begin snapshot token).2.InForce events)) snapshot token service.callCount
      ((service.begin snapshot token).2.run events) := by
  obtain ⟨on, linked⟩ := begin_consistent consistent snapshot token snapshotKnown
  have current : (service.begin snapshot token).2.InForce [] service.detector :=
    ⟨[], List.prefix_rfl, on.detector.symm⟩
  apply run_followed (Due _ snapshot token) (fun weaker _ => Due.weaken weaker)
    (due_lasting _ snapshotKnown) ⟨on.sound, linked⟩ _ events submitted
  exact begin_follows (due_lasting _ snapshotKnown _) consistent current snapshotKnown
    (enter_due consistent agrees current)

/-- What a call for a snapshot may return: nothing if its language is disabled, and otherwise all
blocks that one of the detectors finds. -/
def Returns (enabled : Bool) (snapshot : Snapshot) (allowed : Detector → Prop)
    (blocks : List Block) : Prop :=
  if enabled then
    ∃ detector, allowed detector ∧ blocks = detector.thorough snapshot.text snapshot.language
  else blocks = []

/-- A call that is not cancelled ends with what it may return. -/
theorem Followed.returns {enabled : Bool} {allowed : Detector → Prop} {id : Nat} {call : Call}
    {blocks : List Block}
    (followed : Followed (Due enabled snapshot token allowed) snapshot token id service)
    (found : service.call? id = some call) (finished : call.progress = .finished blocks)
    (uncancelled : service.isCancelled token = false) : Returns enabled snapshot allowed blocks := by
  obtain ⟨member, named⟩ := call?_mem found
  obtain ⟨_, _, due⟩ := followed.holds call member named
  rw [finished] at due
  cases enabled with
  | true =>
      rcases Attended.finished due blocks rfl with cancelled | right
      · rw [uncancelled] at cancelled
        cases cancelled
      · exact right
  | false =>
      cases due
      rfl

end Return

/-- A call that nobody cancels returns nothing if its language was disabled at its first poll, and
otherwise all blocks of its own text, for what was in force at some moment since then. It does so
whenever it is found to have ended, and somebody who waits for it gets these blocks. -/
theorem uncancelled_call_returns (registry : Registry) (earlier later : List Event)
    (snapshot : Snapshot) (token : Token)
    (agrees : Agrees (· ∈ submitted (earlier ++ .begin snapshot token :: later)) snapshot) :
    let opened := (new registry).run earlier
    let call := (opened.begin snapshot token).1
    let begun := (opened.begin snapshot token).2
    let service := begun.run later
    let enabled := opened.settings.isEnabled snapshot.language
    (∀ ended blocks, service.call? call = some ended → ended.progress = .finished blocks →
      service.isCancelled token = false → Returns enabled snapshot (begun.InForce later) blocks) ∧
    ((service.call? call).isSome = true → (service.finish call).2.isCancelled token = false →
      Returns enabled snapshot (begun.InForce later) (service.finish call).1) := by
  intro opened call begun service enabled
  have submissions : submitted (earlier ++ .begin snapshot token :: later) =
      submitted earlier ++ snapshot :: submitted later := submitted_append _ _
  rw [submissions] at agrees
  have snapshotKnown : snapshot ∈ submitted earlier ++ snapshot :: submitted later := by simp
  have laterKnown (other : Snapshot) (member : other ∈ submitted later) :
      other ∈ submitted earlier ++ snapshot :: submitted later := by simp [member]
  have ordered := run_consistent (new_consistent registry) earlier
    fun _ member => List.mem_append_left (snapshot :: submitted later) member
  have due := run_due ordered agrees snapshotKnown token later laterKnown
  constructor
  · intro ended blocks found finished uncancelled
    exact due.returns found finished uncancelled
  · intro stillOpen uncancelled
    obtain ⟨on, linked⟩ := begin_consistent ordered snapshot token snapshotKnown
    have current := run_consistent ⟨on.sound, linked⟩ later laterKnown
    have awaited := await_followed (due_lasting _ snapshotKnown _) current
      ⟨later, List.prefix_rfl, rfl⟩ due [call]
    obtain ⟨_, found⟩ := Option.isSome_iff_exists.mp stillOpen
    obtain ⟨blocks, ended, same⟩ := await_ends current found
    have before : (service.await [call]).isCancelled token = false :=
      (drop_goesOn awaited.on.sound call).cancellation.uncancelled uncancelled
    rw [same]
    exact awaited.followed.returns ended rfl before

/-- The second caller joins the search of the first one, which is cancelled. -/
theorem uncancelled_call_returns_joined :
    let snapshot : Snapshot := ⟨"a.py", 1, "python", "\"\"\"One\"\"\"".toList⟩
    let begun := ((new Registry.builtin).run [.begin snapshot 0]).begin snapshot 1
    let service := begun.2.run [.cancel 0, .finish 0]
    (service.finish begun.1).1 =
        [⟨0, 0, 0, 9, "\"\"\"One\"\"\"".toList, "One".toList, "python", true⟩] ∧
      Returns true snapshot (begun.2.InForce [.cancel 0, .finish 0]) (service.finish begun.1).1 := by
  intro snapshot begun service
  have agrees : Agrees (· ∈ submitted [.begin snapshot 0, .begin snapshot 1, .cancel 0, .finish 0])
      snapshot := by
    intro other member _
    simp only [submitted, List.filterMap_cons, Event.snapshot?, List.filterMap_nil, List.mem_cons,
      List.not_mem_nil, or_false, or_self] at member
    rw [member]
    exact ⟨rfl, rfl⟩
  refine ⟨by decide +kernel, ?_⟩
  exact (uncancelled_call_returns Registry.builtin [.begin snapshot 0] [.cancel 0, .finish 0] snapshot 1
    agrees).2 (by decide +kernel) (by decide +kernel)

end DocBlocks.Service
