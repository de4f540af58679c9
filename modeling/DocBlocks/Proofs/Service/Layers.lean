/-
This file says in which order the patterns in force stand, whatever patterns are registered and
whatever settings are applied before.
-/

import DocBlocks.Proofs.Service.Calls
import DocBlocks.Proofs.Settings.RoundTrip
import DocBlocks.Proofs.Settings.Validity
import Mathlib.Data.List.DropRight

namespace DocBlocks

/-- The patterns of one language, in their order. -/
def Pattern.ofLanguage (language : String) (patterns : List Pattern) : List Pattern :=
  patterns.filter (·.language == language)

theorem Pattern.ofLanguage_append (language : String) (first second : List Pattern) :
    ofLanguage language (first ++ second) = ofLanguage language first ++ ofLanguage language second :=
  List.filter_append first second

/-- A detection depends on the patterns of its language and on the length of previews. -/
theorem Detector.run_congr (one other : Detector) {language : String}
    (patterns : one.registry.lookup language = other.registry.lookup language)
    (length : one.previewLength = other.previewLength) (text : Text) (cancelledBy : Nat → Bool) :
    one.run text language cancelledBy = other.run text language cancelledBy := by
  simp only [run, passOver, detectionOf, patterns, length]

namespace Service

variable {known : Snapshot → Prop} {service : Service}

/-- The patterns that an event registers. -/
def Event.registered : Event → List Pattern
  | register patterns => patterns
  | _ => []

/-- The event brings its settings into force. -/
def Event.applies : Event → Bool
  | apply settings => settings.validate.isOk
  | _ => false

/-- The patterns that are registered in a run, in order. -/
def registered (events : List Event) : List Pattern :=
  events.flatMap Event.registered

/-- The last event registers its patterns behind the others. -/
theorem registered_snoc (events : List Event) (event : Event) :
    registered (events ++ [event]) = registered events ++ event.registered := by
  simp [registered]

/-- The events up to the last one that applies settings. -/
def untilApplied (events : List Event) : List Event :=
  events.rdropWhile fun event => !event.applies

/-- The events after the last one that applies settings. -/
def sinceApplied (events : List Event) : List Event :=
  events.rtakeWhile fun event => !event.applies

/-- Patterns are registered before the last settings were applied, or since. -/
theorem registered_split (events : List Event) :
    registered (untilApplied events) ++ registered (sinceApplied events) = registered events := by
  rw [registered, registered, ← List.flatMap_append, untilApplied, sinceApplied,
    List.rdropWhile_append_rtakeWhile, registered]

/-- Valid settings are not refused. -/
theorem apply_of_valid (service : Service) {settings : Settings}
    (valid : settings.validate = .ok ()) : ∃ after, service.apply settings = .ok after := by
  obtain ⟨_, custom, compiled⟩ := Settings.bounds_of_valid valid
  unfold apply
  rw [valid, compiled]
  exact ⟨_, rfl⟩

/-- A registration adds its patterns to both registries, and keeps the settings. -/
theorem register_patterns (service : Service) (patterns : List Pattern) :
    (service.register patterns).base.patterns = service.base.patterns ++ patterns ∧
      (service.register patterns).registry.patterns = service.registry.patterns ++ patterns ∧
      (service.register patterns).settings = service.settings := by
  unfold register
  split
  · rename_i empty
    rw [List.isEmpty_iff.mp empty]
    simp
  · exact ⟨Registry.registerAll_patterns _ _, Registry.registerAll_patterns _ _, rfl⟩

/-- Settings that are not valid are refused. -/
theorem step_refused {settings : Settings} (unapplied : (Event.apply settings).applies = false) :
    service.step (.apply settings) = service := by
  rcases service.step_apply settings with same | applied
  · exact same
  · have accepted : (Event.apply settings).applies = true := by
      rw [Event.applies, (apply_ok applied).1]
      rfl
    cases unapplied.symm.trans accepted

/-- An event that applies no settings adds what it registers after the patterns in force and after
those that do not come from settings. -/
theorem step_unapplied (consistent : Consistent known service) {event : Event}
    (unapplied : event.applies = false)
    (submitted : ∀ snapshot, event.snapshot? = some snapshot → known snapshot) :
    (service.step event).base.patterns = service.base.patterns ++ event.registered ∧
      (service.step event).registry.patterns = service.registry.patterns ++ event.registered ∧
      (service.step event).settings = service.settings := by
  by_cases renews : event.renews = true
  · cases event with
    | register patterns => exact service.register_patterns patterns
    | apply settings =>
        rw [step_refused unapplied]
        simp [Event.registered]
    | clear => simp [step, invalidate, Event.registered]
    | _ => cases renews
  · have silent : event.registered = [] := by
      cases event with
      | register patterns => exact absurd rfl renews
      | _ => rfl
    rcases step_cases consistent event submitted with ⟨on, _⟩ | ⟨renewing, _⟩
    · rw [on.base, on.registry, on.settings, silent]
      simp
    · exact absurd renewing renews

/-- After the events of a run, the patterns of the settings stand between those that were
registered before the settings were applied and those that were registered since. -/
structure Stacked (registry : Registry) (events : List Event) (custom : List Pattern)
    (service : Service) : Prop where
  base : service.base.patterns = registry.patterns ++ registered events
  valid : service.settings.validate = .ok ()
  compiled : service.settings.compilePatterns = .ok custom
  inForce : service.registry.patterns =
    registry.patterns ++ registered (untilApplied events) ++ custom ++ registered (sinceApplied events)

variable {registry : Registry} {events : List Event} {custom : List Pattern}

/-- A new service has the patterns that it is given. -/
theorem new_stacked (registry : Registry) : Stacked registry [] [] (new registry) where
  base := (List.append_nil _).symm
  valid := rfl
  compiled := rfl
  inForce := by simp [untilApplied, sinceApplied, registered, new]

/-- Applied settings put their patterns on top of all others. -/
theorem apply_stacked (stacked : Stacked registry events custom service) {settings : Settings}
    {after : Service} (applied : service.apply settings = .ok after) :
    ∃ replaced, settings.compilePatterns = .ok replaced ∧
      after.settings = settings ∧ after.base = service.base ∧
      after.registry.patterns = registry.patterns ++ registered events ++ replaced := by
  obtain ⟨_, replaced, compiled, same⟩ := apply_ok applied
  subst same
  refine ⟨replaced, compiled, rfl, rfl, ?_⟩
  rw [← stacked.base]
  exact Registry.registerAll_patterns service.base replaced

/-- Every event keeps the patterns in that order. -/
theorem step_stacked (consistent : Consistent known service)
    (stacked : Stacked registry events custom service) (event : Event)
    (submitted : ∀ snapshot, event.snapshot? = some snapshot → known snapshot) :
    ∃ custom, Stacked registry (events ++ [event]) custom (service.step event) := by
  cases applies : event.applies with
  | false =>
      have passed : (!event.applies) = true := by rw [applies]; rfl
      have same : untilApplied (events ++ [event]) = untilApplied events :=
        List.rdropWhile_concat_pos _ _ event passed
      have longer : sinceApplied (events ++ [event]) = sinceApplied events ++ [event] :=
        List.rtakeWhile_concat_pos _ _ event passed
      obtain ⟨base, inForce, settings⟩ := step_unapplied consistent applies submitted
      refine ⟨custom, ?_, ?_, ?_, ?_⟩
      · rw [base, stacked.base, registered_snoc, List.append_assoc]
      · rw [settings]
        exact stacked.valid
      · rw [settings]
        exact stacked.compiled
      · rw [inForce, stacked.inForce, same, longer, registered_snoc,
          List.append_assoc _ _ event.registered]
  | true =>
      cases event with
      | apply settings =>
          have valid : settings.validate = .ok () := Settings.validate_of_isOk applies
          obtain ⟨after, applied⟩ := service.apply_of_valid valid
          have next : service.step (.apply settings) = after := by
            rw [step, applied]
            rfl
          have whole : untilApplied (events ++ [.apply settings]) = events ++ [.apply settings] :=
            List.rdropWhile_concat_neg _ _ _ (by simp [applies])
          have nothing : sinceApplied (events ++ [.apply settings]) = [] :=
            List.rtakeWhile_concat_neg _ _ _ (by simp [applies])
          have silent : registered (events ++ [.apply settings]) = registered events := by
            rw [registered_snoc]
            exact List.append_nil _
          obtain ⟨replaced, compiled, same, base, inForce⟩ := apply_stacked stacked applied
          rw [next]
          refine ⟨replaced, ?_, ?_, ?_, ?_⟩
          · rw [base, stacked.base, silent]
          · rw [same]
            exact valid
          · rw [same]
            exact compiled
          · rw [inForce, whole, nothing, silent]
            exact (List.append_nil _).symm
      | _ => cases applies

/-- Every run of a new service keeps its patterns in that order. -/
theorem run_stacked (registry : Registry) (events : List Event) :
    ∃ custom, Stacked registry events custom ((new registry).run events) := by
  induction events using List.reverseRecOn with
  | nil => exact ⟨[], new_stacked registry⟩
  | append_singleton events event ih =>
      obtain ⟨custom, stacked⟩ := ih
      have consistent : Consistent (fun _ => True) ((new registry).run events) :=
        run_consistent (new_consistent registry) events fun _ _ => trivial
      rw [run_append]
      exact step_stacked consistent stacked event fun _ _ => trivial

/-- The patterns of a language are in the same order. -/
theorem Stacked.patterns (stacked : Stacked registry events custom service) (language : String) :
    service.patterns language =
      Pattern.ofLanguage language (registry.patterns ++ registered (untilApplied events)) ++
        Pattern.ofLanguage language custom ++
        Pattern.ofLanguage language (registered (sinceApplied events)) := by
  rw [← Pattern.ofLanguage_append, ← Pattern.ofLanguage_append, ← stacked.inForce]
  rfl

/-- The patterns that were registered last may change places with those of the settings if that
makes no difference, and only then. -/
theorem registered_layered (registry : Registry) (events : List Event) (custom : List Pattern)
    (language : String) :
    let own := Pattern.ofLanguage language
    let recent := own (registered (sinceApplied events))
    own (registry.patterns ++ registered (untilApplied events)) ++ own custom ++ recent =
        own (registry.patterns ++ registered events) ++ own custom ↔
      own custom ++ recent = recent ++ own custom := by
  intro own recent
  have split : own (registry.patterns ++ registered events) =
      own (registry.patterns ++ registered (untilApplied events)) ++ recent := by
    rw [← registered_split events, ← List.append_assoc]
    exact Pattern.ofLanguage_append language _ _
  rw [split, List.append_assoc, List.append_assoc, List.append_right_inj]

/-- The patterns of the settings stand after all others of a language, as they do whenever the
settings are applied again, exactly if it makes no difference on which side of them the patterns
stand that were registered since. Otherwise applying the same settings again changes what is in
force. -/
theorem patterns_layered_iff (registry : Registry) (events : List Event) (language : String) :
    let service := (new registry).run events
    ∃ custom again, service.settings.compilePatterns = .ok custom ∧
      service.apply service.settings = .ok again ∧
      let own := Pattern.ofLanguage language
      let layered := own (registry.patterns ++ registered events) ++ own custom
      let recent := own (registered (sinceApplied events))
      service.patterns language =
        own (registry.patterns ++ registered (untilApplied events)) ++ own custom ++ recent ∧
      again.patterns language = layered ∧
      (service.patterns language = layered ↔ own custom ++ recent = recent ++ own custom) ∧
      (own custom ++ recent = recent ++ own custom → ∀ text cancelledBy,
        again.detector.run text language cancelledBy =
          service.detector.run text language cancelledBy) := by
  intro service
  obtain ⟨custom, stacked⟩ := run_stacked registry events
  obtain ⟨again, applied⟩ := service.apply_of_valid stacked.valid
  obtain ⟨replaced, compiled, settings, _, inForce⟩ := apply_stacked stacked applied
  cases stacked.compiled.symm.trans compiled
  have present := stacked.patterns language
  have restored : again.patterns language =
      Pattern.ofLanguage language (registry.patterns ++ registered events) ++
        Pattern.ofLanguage language custom := by
    rw [← Pattern.ofLanguage_append, ← inForce]
    rfl
  have layered := registered_layered registry events custom language
  refine ⟨custom, again, compiled, applied, present, restored, ?_, ?_⟩
  · rw [present]
    exact layered
  · intro commute text cancelledBy
    have unchanged : again.patterns language = service.patterns language := by
      rw [restored, present]
      exact (layered.mpr commute).symm
    exact Detector.run_congr again.detector service.detector unchanged
      (congrArg Settings.previewLength settings) text cancelledBy

/-- A pattern that is registered after settings with a pattern of the same language were applied
stands behind the pattern of the settings until these are applied again. -/
theorem patterns_layered_iff_registered_later :
    let settings : Settings := { customPatterns := [
      { language := "lua", name := some "settings", opening := "--<", closing := ">--" }] }
    let later := Pattern.tripleSlashFor "lua"
    let service := (new Registry.empty).run [.apply settings, .register [later]]
    ∃ custom again, service.settings.compilePatterns = .ok custom ∧
      service.apply service.settings = .ok again ∧
      again.patterns "lua" = [later] ++ Pattern.ofLanguage "lua" custom ∧
      service.patterns "lua" ≠ again.patterns "lua" := by
  intro settings later service
  obtain ⟨custom, again, compiled, applied, _, restored, layered, _⟩ :=
    patterns_layered_iff Registry.empty [.apply settings, .register [later]] "lua"
  refine ⟨custom, again, compiled, applied, restored, fun unchanged => ?_⟩
  have ofSettings : (service.settings.compilePatterns.toOption.map fun patterns =>
      (Pattern.ofLanguage "lua" patterns).map Pattern.name) = some ["settings"] := by
    decide +kernel
  have ofLater : (Pattern.ofLanguage "lua" (registered (sinceApplied
      [.apply settings, .register [later]]))).map Pattern.name = ["lua-triple-slash"] := by
    decide +kernel
  rw [compiled] at ofSettings
  have named : (Pattern.ofLanguage "lua" custom).map Pattern.name = ["settings"] :=
    Option.some.inj ofSettings
  have swapped := congrArg (List.map Pattern.name) (layered.mp (unchanged.trans restored))
  rw [List.map_append, List.map_append, ofLater, named] at swapped
  exact absurd swapped (by decide)

end Service

end DocBlocks
