/-
This file says what goes with a document that is invalidated.
-/

import DocBlocks.Proofs.Revision.Key
import DocBlocks.Proofs.Service.Calls

namespace DocBlocks.Service

/-- There is a result or a search in flight under the key. -/
def Lists (service : Service) (key : String) : Prop :=
  (∃ entry ∈ service.cache.entries, entry.key = key) ∨ ∃ entry ∈ service.inFlight, entry.1 = key

/-- Of the results and of the searches in flight those with the chosen keys are gone, and so many
results were removed. All else is as it was. -/
structure Forgets (chosen : String → Bool) (before : Service) (removed : Nat) (after : Service) :
    Prop where
  entries : after.cache.entries = before.cache.entries.filter fun entry => !chosen entry.key
  count : removed = (before.cache.entries.filter fun entry => chosen entry.key).length
  inFlight : after.inFlight = before.inFlight.filter fun entry => !chosen entry.1
  rest : after = { before with
    cache := { before.cache with entries := after.cache.entries }
    inFlight := after.inFlight }

variable {service : Service}

/-- Keys are chosen by the document whose name they begin with. -/
theorem invalidateDocument_forgets (service : Service) (uri : String) :
    Forgets (keyOfDocument uri) service (service.invalidateDocument uri).1
      (service.invalidateDocument uri).2 where
  entries := rfl
  count := by
    have parts := List.length_eq_length_filter_add (l := service.cache.entries)
      fun entry => keyOfDocument uri entry.key
    simp only [invalidateDocument, Cache.removeWhere]
    omega
  inFlight := rfl
  rest := rfl

section

variable {after : Service} {removed : Nat} {chosen other : String → Bool}

/-- Only the keys that are there matter. -/
theorem Forgets.congr (forgets : Forgets chosen service removed after)
    (same : ∀ key, service.Lists key → other key = chosen key) :
    Forgets other service removed after where
  entries := by
    rw [forgets.entries]
    apply List.filter_congr
    intro entry member
    rw [same entry.key (Or.inl ⟨entry, member, rfl⟩)]
  count := by
    rw [forgets.count]
    congr 1
    apply List.filter_congr
    intro entry member
    rw [same entry.key (Or.inl ⟨entry, member, rfl⟩)]
  inFlight := by
    rw [forgets.inFlight]
    apply List.filter_congr
    intro entry member
    rw [same entry.1 (Or.inr ⟨entry, member, rfl⟩)]
  rest := forgets.rest

/-- Filters that leave the same elements choose alike. -/
theorem eq_of_filter_eq {α : Type} {elements : List α} {one two : α → Bool}
    (same : elements.filter one = elements.filter two) {element : α} (member : element ∈ elements) :
    one element = two element := by
  have kept : element ∈ elements.filter one ↔ element ∈ elements.filter two := by rw [same]
  rw [List.mem_filter, List.mem_filter, and_iff_right member, and_iff_right member] at kept
  exact Bool.eq_iff_iff.mpr kept

/-- What is gone shows which of the keys were chosen. -/
theorem Forgets.chosen_eq (forgets : Forgets chosen service removed after)
    (forgetsOther : Forgets other service removed after) {key : String} (lists : service.Lists key) :
    other key = chosen key := by
  rcases lists with ⟨entry, member, rfl⟩ | ⟨entry, member, rfl⟩
  · exact Bool.not_inj (eq_of_filter_eq (forgetsOther.entries.symm.trans forgets.entries) member)
  · exact Bool.not_inj (eq_of_filter_eq (forgetsOther.inFlight.symm.trans forgets.inFlight) member)

end

/-- The key is that of a revision of some kind. -/
def isKeyOf (revisions : List Snapshot) (kind : Snapshot → Bool) (key : String) : Bool :=
  revisions.any fun snapshot => snapshot.key == key && kind snapshot

/-- One of the revisions has the key, and is of that kind. -/
theorem isKeyOf_iff {revisions : List Snapshot} {kind : Snapshot → Bool} {key : String} :
    isKeyOf revisions kind key = true ↔
      ∃ snapshot ∈ revisions, snapshot.key = key ∧ kind snapshot = true := by
  simp [isKeyOf]

/-- Whatever is listed has been submitted. -/
theorem Consistent.lists {known : Snapshot → Prop} (consistent : Consistent known service)
    {key : String} (lists : service.Lists key) : ∃ snapshot, known snapshot ∧ snapshot.key = key := by
  rcases lists with ⟨entry, member, rfl⟩ | ⟨⟨key, id⟩, member, rfl⟩
  · obtain ⟨snapshot, isKnown, keyed, _⟩ := consistent.sound.cached entry member
    exact ⟨snapshot, isKnown, keyed⟩
  · obtain ⟨call, callMember, keyed, _⟩ := consistent.linked.listed key id member
    exact ⟨call.snapshot, consistent.linked.known call callMember, keyed⟩

section

variable {revisions : List Snapshot} {key : String}

/-- The keys that are taken for those of a document are its own and those that begin like them. -/
theorem isKeyOf_resembling (plain : ∀ snapshot ∈ revisions, '#' ∉ snapshot.language.toList)
    (present : ∃ snapshot ∈ revisions, snapshot.key = key) (uri : String) :
    isKeyOf revisions (fun snapshot => snapshot.uri == uri || snapshot.resembles uri) key =
      keyOfDocument uri key := by
  rw [Bool.eq_iff_iff, isKeyOf_iff]
  constructor
  · rintro ⟨snapshot, member, rfl, kind⟩
    apply (Snapshot.keyOfDocument_iff (plain snapshot member) uri).mpr
    simpa using kind
  · intro taken
    obtain ⟨snapshot, member, rfl⟩ := present
    refine ⟨snapshot, member, rfl, ?_⟩
    simpa using (Snapshot.keyOfDocument_iff (plain snapshot member) uri).mp taken

/-- They are its own only if no revision with the key resembles the document. -/
theorem isKeyOf_document_iff (plain : ∀ snapshot ∈ revisions, '#' ∉ snapshot.language.toList)
    (present : ∃ snapshot ∈ revisions, snapshot.key = key) (uri : String) :
    isKeyOf revisions (fun snapshot => snapshot.uri == uri) key = keyOfDocument uri key ↔
      ∀ snapshot ∈ revisions, snapshot.key = key → snapshot.resembles uri = false := by
  constructor
  · rintro same snapshot member rfl
    by_contra resembles
    rw [Bool.not_eq_false] at resembles
    have taken := (Snapshot.keyOfDocument_iff (plain snapshot member) uri).mpr (Or.inr resembles)
    obtain ⟨other, otherMember, sameKey, named⟩ := isKeyOf_iff.mp (same.trans taken)
    have uris := (Snapshot.key_injective (plain other otherMember) (plain snapshot member) sameKey).1
    exact Snapshot.ne_of_resembles resembles (uris.symm.trans (beq_iff_eq.mp named))
  · intro none
    rw [Bool.eq_iff_iff, isKeyOf_iff]
    constructor
    · rintro ⟨snapshot, member, rfl, named⟩
      exact (Snapshot.keyOfDocument_iff (plain snapshot member) uri).mpr (Or.inl (beq_iff_eq.mp named))
    · intro taken
      obtain ⟨snapshot, member, rfl⟩ := present
      rcases (Snapshot.keyOfDocument_iff (plain snapshot member) uri).mp taken with named | resembles
      · exact ⟨snapshot, member, rfl, beq_iff_eq.mpr named⟩
      · rw [none snapshot member rfl] at resembles
        cases resembles

end

/-- Whatever happens to the service, every key that it lists is the key of a revision submitted, and
of one document only. When a document is invalidated, what is listed for it goes, and so does what
is listed for revisions that resemble it. The invalidation keeps to the document exactly if no such
revision is listed. -/
theorem invalidateDocument_exact_iff (registry : Registry) (events : List Event)
    (plain : ∀ snapshot ∈ submitted events, '#' ∉ snapshot.language.toList) (uri : String) :
    let service := (new registry).run events
    let result := service.invalidateDocument uri
    let revisions := submitted events
    (∀ key, service.Lists key → ∃ snapshot ∈ revisions, snapshot.key = key ∧
      ∀ other ∈ revisions, other.key = key → other.uri = snapshot.uri) ∧
    Forgets (isKeyOf revisions fun snapshot => snapshot.uri == uri || snapshot.resembles uri)
      service result.1 result.2 ∧
    (Forgets (isKeyOf revisions fun snapshot => snapshot.uri == uri) service result.1 result.2 ↔
      ∀ snapshot ∈ revisions, snapshot.resembles uri = true → ¬service.Lists snapshot.key) := by
  intro service result revisions
  have consistent : Consistent (· ∈ revisions) service :=
    run_consistent (new_consistent registry) events fun _ member => member
  have present {key : String} (lists : service.Lists key) :
      ∃ snapshot ∈ revisions, snapshot.key = key :=
    consistent.lists lists
  have forgets := service.invalidateDocument_forgets uri
  refine ⟨fun key lists => ?_, ?_, ?_⟩
  · obtain ⟨snapshot, member, keyed⟩ := present lists
    refine ⟨snapshot, member, keyed, fun other otherMember otherKeyed => ?_⟩
    exact (Snapshot.key_injective (plain other otherMember) (plain snapshot member)
      (otherKeyed.trans keyed.symm)).1
  · exact forgets.congr fun key lists => isKeyOf_resembling plain (present lists) uri
  · constructor
    · intro keeps snapshot member resembles lists
      have same := forgets.chosen_eq keeps lists
      have none := (isKeyOf_document_iff plain (present lists) uri).mp same snapshot member rfl
      exact absurd (none.symm.trans resembles) (by decide)
    · intro none
      refine forgets.congr fun key lists => (isKeyOf_document_iff plain (present lists) uri).mpr ?_
      rintro snapshot member rfl
      exact Bool.eq_false_iff.mpr fun resembles => none snapshot member resembles lists

/-- A document takes along the result for one whose name has a fragment, and a search in flight for
another. -/
theorem invalidateDocument_exact_iff_fragments :
    let revision (uri : String) : Snapshot := ⟨uri, 1, "python", "\"\"\"One\"\"\"".toList⟩
    let events : List Event := [.detectNow (revision "a") 0, .detectNow (revision "a#b") 0,
      .begin (revision "a#c") 0]
    let service := (new Registry.builtin).run events
    let result := service.invalidateDocument "a"
    service.inFlight = [("a#c#v1#python", 0)] ∧ result.1 = 2 ∧ result.2.inFlight = [] ∧
      ¬Forgets (isKeyOf (submitted events) fun snapshot => snapshot.uri == "a") service result.1
        result.2 := by
  intro revision events service result
  have plain : ∀ snapshot ∈ submitted events, '#' ∉ snapshot.language.toList := by decide
  have listed : service.inFlight = [("a#c#v1#python", 0)] := by decide +kernel
  have pending : service.Lists (revision "a#c").key := by
    refine Or.inr ⟨("a#c#v1#python", 0), ?_, by decide⟩
    rw [listed]
    exact List.mem_cons_self
  refine ⟨listed, by decide +kernel, by decide +kernel, fun keeps => ?_⟩
  exact (invalidateDocument_exact_iff Registry.builtin events plain "a").2.2.mp keeps (revision "a#c")
    (by decide) (by decide) pending

end DocBlocks.Service
