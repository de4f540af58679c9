/-
This file shows that the languages of a registry do not depend on each other, and that it makes no
difference in which order one goes through them.
-/

import DocBlocks.Proofs.Service.Layers
import Mathlib.Data.String.Basic

namespace DocBlocks.Registry

/-- A call that registers patterns. -/
inductive Registration where
  | register (pattern : Pattern)
  | registerAll (patterns : List Pattern)
  | registerFor (language : String) (patterns : List Pattern)

/-- The patterns as they are after the call. -/
def Registration.patterns : Registration → List Pattern
  | register pattern => [pattern]
  | registerAll patterns => patterns
  | registerFor language patterns => patterns.map (·.forLanguage language)

def step (registry : Registry) : Registration → Registry
  | .register pattern => registry.register pattern
  | .registerAll patterns => registry.registerAll patterns
  | .registerFor language patterns => registry.registerFor language patterns

def run (registry : Registry) (calls : List Registration) : Registry :=
  calls.foldl step registry

/-- All patterns that are registered, in order. -/
def registered (calls : List Registration) : List Pattern :=
  calls.flatMap Registration.patterns

/-- A call adds its patterns behind the others. -/
theorem step_patterns (registry : Registry) (call : Registration) :
    (registry.step call).patterns = registry.patterns ++ call.patterns := by
  cases call with
  | register pattern => rfl
  | registerAll patterns => exact registry.registerAll_patterns patterns
  | registerFor language patterns => exact registry.registerAll_patterns _

/-- Any number of calls add their patterns behind the others. -/
theorem run_patterns (registry : Registry) (calls : List Registration) :
    (registry.run calls).patterns = registry.patterns ++ registered calls := by
  induction calls generalizing registry with
  | nil => exact (List.append_nil _).symm
  | cons call calls ih =>
      change ((registry.step call).run calls).patterns = _
      rw [ih, step_patterns, List.append_assoc]
      rfl

/-- A language has the patterns it had, and those registered for it. -/
theorem run_lookup (registry : Registry) (calls : List Registration) (language : String) :
    (registry.run calls).lookup language =
      registry.lookup language ++ Pattern.ofLanguage language (registered calls) := by
  rw [lookup, run_patterns]
  exact Pattern.ofLanguage_append language _ _

/-- The size counts every pattern, however often it is registered. -/
theorem run_size (registry : Registry) (calls : List Registration) :
    (registry.run calls).size = registry.size + (registered calls).length := by
  rw [size, run_patterns, List.length_append]
  rfl

/-- A language has patterns if one of the registry is for it. -/
theorem lookup_ne_nil_iff {registry : Registry} {language : String} :
    registry.lookup language ≠ [] ↔ ∃ pattern ∈ registry.patterns, pattern.language = language := by
  rw [lookup, Ne, List.filter_eq_nil_iff]
  simp

/-- The languages listed are those with patterns. -/
theorem mem_languages_iff {registry : Registry} {language : String} :
    language ∈ registry.languages ↔ registry.lookup language ≠ [] := by
  rw [languages, List.mem_mergeSort, List.mem_eraseDups, List.mem_map, lookup_ne_nil_iff]

theorem nodup_eraseDups (names : List String) : names.eraseDups.Nodup := by
  cases names with
  | nil => exact List.nodup_nil
  | cons name names =>
      rw [List.eraseDups_cons, List.nodup_cons, List.mem_eraseDups]
      exact ⟨by simp, nodup_eraseDups (names.filter fun other => !other == name)⟩
termination_by names.length
decreasing_by exact Nat.lt_succ_of_le (List.length_filter_le _ names)

/-- Names in order. -/
def sorted (names : List String) : List String :=
  names.mergeSort fun left right => decide (left ≤ right)

/-- Names that differ from each other stand in strictly increasing order once they are sorted. -/
theorem sorted_increasing {names : List String} (distinct : names.Nodup) :
    (sorted names).Pairwise (· < ·) := by
  have ordered : (sorted names).Pairwise fun left right => decide (left ≤ right) = true :=
    List.pairwise_mergeSort
      (fun _ _ _ first second => by simpa using le_trans (by simpa using first) (by simpa using second))
      (fun left right => by simpa using le_total left right) names
  have apart : (sorted names).Nodup := (List.mergeSort_perm names _).nodup_iff.mpr distinct
  exact (ordered.and apart).imp fun both => lt_of_le_of_ne (of_decide_eq_true both.1) both.2

/-- Languages are listed in their order, each of them once. -/
theorem languages_increasing (registry : Registry) : registry.languages.Pairwise (· < ·) :=
  sorted_increasing (nodup_eraseDups _)

/-- Names that stand in strictly increasing order are determined by which of them there are. -/
theorem eq_of_increasing {first second : List String} (firstIncreasing : first.Pairwise (· < ·))
    (secondIncreasing : second.Pairwise (· < ·)) (same : ∀ name, name ∈ first ↔ name ∈ second) :
    first = second := by
  have perm : first.Perm second :=
    (List.perm_ext_iff_of_nodup (firstIncreasing.imp ne_of_lt) (secondIncreasing.imp ne_of_lt)).mpr same
  exact perm.eq_of_pairwise (fun _ _ _ _ less greater => absurd less (lt_asymm greater))
    firstIncreasing secondIncreasing

/-- The patterns of a registry by their languages, in any order. -/
structure GroupedBy (registry : Registry) (groups : List (String × List Pattern)) : Prop where
  distinct : (groups.map Prod.fst).Nodup
  patterns : ∀ group ∈ groups, group.2 = registry.lookup group.1
  complete : ∀ language, registry.lookup language ≠ [] → language ∈ groups.map Prod.fst

/-- Each pattern is met once, with its language. -/
theorem perm_flatMap (names : List String) (distinct : names.Nodup) (patterns : List Pattern)
    (complete : ∀ pattern ∈ patterns, pattern.language ∈ names) :
    (names.flatMap fun name => Pattern.ofLanguage name patterns).Perm patterns := by
  induction names generalizing patterns with
  | nil =>
      have empty : patterns = [] := List.eq_nil_iff_forall_not_mem.mpr fun pattern member =>
        List.not_mem_nil (complete pattern member)
      rw [empty]
      rfl
  | cons name names ih =>
      obtain ⟨absent, distinct⟩ := List.nodup_cons.mp distinct
      have others (other : String) (member : other ∈ names) :
          Pattern.ofLanguage other (patterns.filter fun pattern => !pattern.language == name) =
            Pattern.ofLanguage other patterns := by
        rw [Pattern.ofLanguage, List.filter_filter]
        refine List.filter_congr fun pattern _ => ?_
        grind
      have listed (pattern : Pattern)
          (member : pattern ∈ patterns.filter fun pattern => !pattern.language == name) :
          pattern.language ∈ names := by
        have kept := List.mem_filter.mp member
        have named := List.mem_cons.mp (complete pattern kept.1)
        exact named.resolve_left (by simpa using kept.2)
      have rest := ih distinct _ listed
      rw [List.flatMap_congr others] at rest
      rw [List.flatMap_cons]
      exact (rest.append_left _).trans (List.filter_append_perm _ patterns)

variable {registry : Registry} {groups : List (String × List Pattern)}

/-- The languages of a registry are those of the groups that have a pattern. -/
theorem GroupedBy.languages (grouped : registry.GroupedBy groups) :
    sorted ((groups.filter fun group => !group.2.isEmpty).map Prod.fst) = registry.languages := by
  refine eq_of_increasing (sorted_increasing ?_) registry.languages_increasing fun language => ?_
  · exact grouped.distinct.sublist (List.filter_sublist.map Prod.fst)
  · rw [sorted, List.mem_mergeSort, mem_languages_iff, List.mem_map]
    constructor
    · rintro ⟨group, member, rfl⟩
      obtain ⟨member, patterned⟩ := List.mem_filter.mp member
      rw [← grouped.patterns group member]
      simpa using patterned
    · intro patterned
      obtain ⟨group, member, rfl⟩ := List.mem_map.mp (grouped.complete language patterned)
      refine ⟨group, List.mem_filter.mpr ⟨member, ?_⟩, rfl⟩
      simpa [grouped.patterns group member] using patterned

/-- The languages with their patterns are such groups. -/
theorem languages_groupedBy (registry : Registry) :
    registry.GroupedBy (registry.languages.map fun language =>
      (language, registry.lookup language)) := by
  have names : (registry.languages.map fun language => (language, registry.lookup language)).map
      Prod.fst = registry.languages := by
    rw [List.map_map]
    exact List.map_id _
  refine ⟨?_, fun group member => ?_, fun language patterned => ?_⟩
  · rw [names]
    exact registry.languages_increasing.imp ne_of_lt
  · obtain ⟨language, _, rfl⟩ := List.mem_map.mp member
    rfl
  · rw [names]
    exact mem_languages_iff.mpr patterned

/-- The groups together have the patterns of the registry, each as often. -/
theorem GroupedBy.perm (grouped : registry.GroupedBy groups) :
    (groups.flatMap Prod.snd).Perm registry.patterns := by
  have listed (pattern : Pattern) (member : pattern ∈ registry.patterns) :
      pattern.language ∈ groups.map Prod.fst :=
    grouped.complete _ (lookup_ne_nil_iff.mpr ⟨pattern, member, rfl⟩)
  have met := perm_flatMap _ grouped.distinct registry.patterns listed
  rw [List.flatMap_map] at met
  rw [List.flatMap_congr grouped.patterns]
  exact met

/-- Several registries, each at its place. -/
abbrev Shelf := List Registry

/-- What may be done with registries. -/
inductive Shelf.Action where
  /-- A copy of a registry is put at the end. -/
  | copy (place : Nat)
  | extend (place : Nat) (call : Registration)

def Shelf.step (shelf : Shelf) : Action → Shelf
  | .copy place => shelf ++ shelf[place]?.toList
  | .extend place call => shelf.modify place (Registry.step · call)

def Shelf.run (shelf : Shelf) (actions : List Action) : Shelf :=
  actions.foldl step shelf

/-- A registry changes only if it is extended itself. -/
theorem Shelf.step_kept {shelf : Shelf} {place : Nat} (present : shelf[place]? = some registry)
    {action : Action} (untouched : ∀ call, action ≠ .extend place call) :
    (shelf.step action)[place]? = some registry := by
  cases action with
  | copy other =>
      obtain ⟨within, _⟩ := List.getElem?_eq_some_iff.mp present
      rw [step, List.getElem?_append_left within, present]
  | extend other call =>
      have elsewhere : other ≠ place := fun same => untouched call (same ▸ rfl)
      rw [step, List.getElem?_modify, present]
      exact congrArg some (if_neg elsewhere)

/-- A registry stays as it is while only others are extended. -/
theorem Shelf.run_kept {shelf : Shelf} {place : Nat} (present : shelf[place]? = some registry)
    {actions : List Action} (untouched : ∀ call, Action.extend place call ∉ actions) :
    (shelf.run actions)[place]? = some registry := by
  induction actions generalizing shelf with
  | nil => exact present
  | cons action actions ih =>
      have stepped : (shelf.step action)[place]? = some registry :=
        step_kept present fun call same => untouched call (same ▸ List.mem_cons_self)
      exact ih stepped fun call member => untouched call (List.mem_cons_of_mem action member)

/-- Whatever is registered, a language has the patterns that end up under its name, and no detection
for it depends on any others or on how they come in between. The languages are listed in strictly
increasing order, those with a pattern and no others, and each pattern counts once, in whatever
order one goes through the languages. What is done with copies of a registry leaves it as it is. -/
theorem languages_independent (start : Registry) (first second : List Registration) :
    let registry := start.run first
    (∀ language, Pattern.ofLanguage language (registered first) =
          Pattern.ofLanguage language (registered second) →
        registry.lookup language = (start.run second).lookup language ∧
          ∀ length text cancelledBy, Detector.run ⟨registry, length⟩ text language cancelledBy =
            Detector.run ⟨start.run second, length⟩ text language cancelledBy) ∧
      registry.languages.Pairwise (· < ·) ∧
      (∀ language, language ∈ registry.languages ↔ registry.lookup language ≠ []) ∧
      registry.size = start.size + (registered first).length ∧
      registry.GroupedBy (registry.languages.map fun language =>
        (language, registry.lookup language)) ∧
      (∀ groups, registry.GroupedBy groups →
        sorted ((groups.filter fun group => !group.2.isEmpty).map Prod.fst) = registry.languages ∧
          (groups.flatMap Prod.snd).length = registry.size) ∧
      ∀ (shelf : Shelf) place, shelf[place]? = some registry →
        ∀ actions, (∀ call, Shelf.Action.extend place call ∉ actions) →
          (shelf.run actions)[place]? = some registry := by
  intro registry
  refine ⟨fun language same => ?_, registry.languages_increasing, fun language => mem_languages_iff,
    start.run_size first, registry.languages_groupedBy,
    fun groups grouped => ⟨grouped.languages, grouped.perm.length_eq⟩,
    fun shelf place present actions untouched => Shelf.run_kept present untouched⟩
  have alike : registry.lookup language = (start.run second).lookup language := by
    rw [run_lookup, run_lookup, same]
  exact ⟨alike, fun length text cancelledBy =>
    Detector.run_congr ⟨registry, length⟩ ⟨start.run second, length⟩ alike rfl text cancelledBy⟩

/-- The patterns of a language are registered at once or one by one, with those of another in
between, and a copy is extended. -/
theorem languages_independent_interleaved :
    let first : List Registration := [
      .registerFor "luau" [Pattern.innerDoc, Pattern.tripleSlashFor "dart"],
      .register (Pattern.blockCommentFor "zig")]
    let second : List Registration := [
      .register (Pattern.innerDoc.forLanguage "luau"),
      .registerFor "zig" [Pattern.blockCommentFor "java"],
      .registerAll [(Pattern.tripleSlashFor "dart").forLanguage "luau"]]
    let registry := builtin.run first
    (registered first).map Pattern.language = ["luau", "luau", "zig"] ∧
      (registered second).map Pattern.language = ["luau", "zig", "luau"] ∧
      (builtin.run second).lookup "luau" = registry.lookup "luau" ∧
      (registry.lookup "luau").length = 2 ∧ registry.size = builtin.size + 3 ∧
      (Shelf.run [registry] [.copy 0, .extend 1 (.register Pattern.innerDoc)])[0]? =
        some registry := by
  intro first second registry
  obtain ⟨alike, _, _, count, _, _, kept⟩ := languages_independent builtin first second
  refine ⟨rfl, rfl, (alike "luau" rfl).1.symm, by decide +kernel, count, kept [registry] 0 rfl _ ?_⟩
  simp

end DocBlocks.Registry
