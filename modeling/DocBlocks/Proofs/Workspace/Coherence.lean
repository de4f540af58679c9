/-
This file shows that both caches of a workspace hold nothing but what its open documents give.
-/

import DocBlocks.Proofs.Revision.Key
import DocBlocks.Proofs.Service.Rest
import DocBlocks.Proofs.Workspace.Tickets
import DocBlocks.Workspace.Query

namespace DocBlocks

/-- While the service goes on, the blocks of a snapshot are the same. -/
theorem Service.GoesOn.afresh {known : Snapshot → Prop} {before after : Service}
    (on : GoesOn known before after) : after.afresh = before.afresh := by
  funext snapshot
  rw [Service.afresh, Service.afresh, on.detector, on.settings]

/-- A step that brings nothing new lets the service go on. -/
theorem Service.step_goesOn {known : Snapshot → Prop} {service : Service}
    (consistent : Consistent known service) (event : Event) (keeps : event.renews = false)
    (bringsNone : event.snapshot? = none) : GoesOn known service (service.step event) := by
  have submitted (snapshot : Snapshot) (brought : event.snapshot? = some snapshot) :
      known snapshot := by
    rw [bringsNone] at brought
    cases brought
  rcases step_cases consistent event submitted with ⟨on, _⟩ | ⟨renews, _⟩
  · exact on
  · exact absurd (renews.symm.trans keeps) (by decide)

namespace Workspace

variable {workspace after : Workspace}

/-- A revision that an open document has, or a version that it no longer has. -/
def Knows (workspace : Workspace) (snapshot : Snapshot) : Prop :=
  ∃ document, workspace.document? snapshot.uri = some document ∧
    snapshot.language = document.language ∧ snapshot.version ≤ document.version ∧
    (snapshot.version = document.version → snapshot.text = document.text)

/-- Folding ranges of a known revision, as they follow from the text and the settings. -/
def Folds (workspace : Workspace) (key : String) (ranges : List FoldingRange) : Prop :=
  ∃ snapshot, workspace.Knows snapshot ∧ snapshot.key = key ∧
    ranges = FoldingRange.ofBlocks workspace.service.settings.showPreview
      (workspace.service.afresh snapshot)

/-- Documents are filed under their identifiers, and their languages have no number sign. -/
def Filed (workspace : Workspace) : Prop :=
  ∀ uri document, workspace.document? uri = some document →
    document.uri = uri ∧ '#' ∉ document.language.toList

/-- Nothing is being searched for, no ticket is cancelled, and all that is remembered is right. -/
structure Coherent (workspace : Workspace) : Prop where
  filed : workspace.Filed
  live : workspace.Live
  rest : workspace.service.AtRest
  quiet : workspace.service.Quiet
  cached : ∀ entry ∈ workspace.service.cache.entries,
    workspace.service.Remembers workspace.Knows entry.key entry.value
  folded : ∀ entry ∈ workspace.folding.entries, workspace.Folds entry.key entry.value

/-- The service of a coherent workspace is in order. -/
theorem Coherent.consistent (coherent : workspace.Coherent) :
    Service.Consistent workspace.Knows workspace.service :=
  coherent.rest.consistent coherent.cached

/-- The revision that an open document has is known. -/
theorem Filed.knows (filed : workspace.Filed) {uri : String} {document : Document}
    (found : workspace.document? uri = some document) : workspace.Knows document.snapshot := by
  refine ⟨document, ?_, rfl, Int.le_refl _, fun _ => rfl⟩
  change workspace.document? document.uri = some document
  rw [(filed uri document found).1]
  exact found

/-- What is known under the key of an open document has its text and language. -/
theorem Filed.agrees (filed : workspace.Filed) {uri : String} {document : Document}
    (found : workspace.document? uri = some document) :
    Service.Agrees workspace.Knows document.snapshot := by
  rintro other ⟨owner, ownerFound, language, _, text⟩ sameKey
  obtain ⟨own, plain⟩ := filed uri document found
  have otherPlain : '#' ∉ other.language.toList := by
    rw [language]
    exact (filed _ owner ownerFound).2
  obtain ⟨uris, versions, languages⟩ := Snapshot.key_injective otherPlain plain sameKey
  have same : owner = document := by
    have shared : other.uri = uri := uris.trans own
    rw [shared, found] at ownerFound
    exact (Option.some.inj ownerFound).symm
  subst same
  exact ⟨text versions, languages⟩

/-- What is known depends on the documents alone. -/
theorem knows_congr (documents : after.documents = workspace.documents) :
    after.Knows = workspace.Knows := by
  funext snapshot
  rw [Knows, Knows, document?, document?, documents]

/-- The workspace stays coherent while the service goes on and rests again. -/
theorem Coherent.goOn (coherent : workspace.Coherent)
    (documents : after.documents = workspace.documents)
    (on : Service.GoesOn workspace.Knows workspace.service after.service)
    (rest : after.service.AtRest) (live : after.Live)
    (folded : ∀ entry ∈ after.folding.entries, workspace.Folds entry.key entry.value) :
    after.Coherent where
  filed uri document found := by
    rw [document?, documents] at found
    exact coherent.filed uri document found
  live := live
  rest := rest
  quiet := on.quiet coherent.quiet
  cached := by
    rw [knows_congr documents]
    exact on.sound.cached
  folded entry member := by
    rw [Folds, knows_congr documents, on.settings, on.afresh]
    exact folded entry member

/-- The workspace stays coherent when all that is remembered is forgotten. -/
theorem Coherent.renew (coherent : workspace.Coherent)
    (documents : after.documents = workspace.documents)
    (tickets : after.tickets = workspace.tickets)
    (renewed : Service.Renewed workspace.service after.service) (quiet : after.service.Quiet)
    (empty : after.folding.entries = []) : after.Coherent where
  filed uri document found := by
    rw [document?, documents] at found
    exact coherent.filed uri document found
  live := by
    rw [Live, tickets, renewed.cancellation]
    exact coherent.live
  rest := ⟨renewed.calls.trans coherent.rest.calls, renewed.searches.trans coherent.rest.searches,
    renewed.inFlight⟩
  quiet := quiet
  cached := by
    rw [renewed.entries]
    exact fun _ member => by cases member
  folded := by
    rw [empty]
    exact fun _ member => by cases member

/-- One of the caches has an entry with this key. -/
def Holds (workspace : Workspace) (key : String) : Prop :=
  (∃ entry ∈ workspace.service.cache.entries, entry.key = key) ∨
    ∃ entry ∈ workspace.folding.entries, entry.key = key

/-- The workspace stays coherent when documents change, as long as what is remembered is still
known. -/
theorem Coherent.refile (coherent : workspace.Coherent) (documents : List (String × Document))
    (filed : Filed { workspace with documents })
    (known : ∀ snapshot, workspace.Knows snapshot → workspace.Holds snapshot.key →
      Knows { workspace with documents } snapshot) : Coherent { workspace with documents } where
  filed := filed
  live := coherent.live
  rest := coherent.rest
  quiet := coherent.quiet
  cached entry member := by
    obtain ⟨snapshot, knows, key, blocks⟩ := coherent.cached entry member
    exact ⟨snapshot, known snapshot knows (Or.inl ⟨entry, member, key.symm⟩), key, blocks⟩
  folded entry member := by
    obtain ⟨snapshot, knows, key, ranges⟩ := coherent.folded entry member
    exact ⟨snapshot, known snapshot knows (Or.inr ⟨entry, member, key.symm⟩), key, ranges⟩

/-- New tickets let the service go on. -/
theorem Reticketed.goesOn (reticketed : Reticketed workspace after)
    (coherent : workspace.Coherent) :
    Service.GoesOn workspace.Knows workspace.service after.service := by
  obtain ⟨_, cancellation, grows, same⟩ := reticketed
  subst same
  exact Service.cancellation_goesOn coherent.consistent.sound cancellation grows

/-- New tickets leave the workspace coherent. -/
theorem Reticketed.coherent (reticketed : Reticketed workspace after)
    (coherent : workspace.Coherent) (live : after.Live) : after.Coherent := by
  have on := reticketed.goesOn coherent
  obtain ⟨_, cancellation, _, same⟩ := reticketed
  subst same
  exact coherent.goOn rfl on ⟨coherent.rest.calls, coherent.rest.searches, coherent.rest.inFlight⟩
    live coherent.folded

/-- The workspace stays coherent when searches are cancelled. -/
theorem cancelSearches_coherent (coherent : workspace.Coherent) (uri : String) :
    (workspace.cancelSearches uri).Coherent := by
  obtain ⟨live, reticketed⟩ := cancelSearches_live coherent.live uri
  exact reticketed.coherent coherent live

/-- No document changes when searches are cancelled. -/
theorem cancelSearches_document? (coherent : workspace.Coherent) (uri other : String) :
    (workspace.cancelSearches uri).document? other = workspace.document? other := by
  obtain ⟨_, _, _, _, same⟩ := cancelSearches_live coherent.live uri
  rw [same]
  rfl

/-- One document is set, and the others are as they were. -/
theorem setDocument_document? (workspace : Workspace) (uri other : String) (document : Document) :
    (workspace.setDocument uri document).document? other =
      if other = uri then some document else workspace.document? other := by
  rw [document?, setDocument, lookup_cons, lookup_filter]
  split <;> rfl

/-- A document may be filed that is new or a newer version of the one in its place. -/
theorem setDocument_coherent (coherent : workspace.Coherent) {uri : String} {document : Document}
    (own : document.uri = uri) (plain : '#' ∉ document.language.toList)
    (newer : ∀ old, workspace.document? uri = some old →
      old.language = document.language ∧ old.version < document.version) :
    (workspace.setDocument uri document).Coherent := by
  apply coherent.refile
  · intro other filed found
    have found : (workspace.setDocument uri document).document? other = some filed := found
    rw [setDocument_document?] at found
    split at found
    · rename_i same
      cases found
      exact ⟨own.trans same.symm, plain⟩
    · exact coherent.filed other filed found
  · rintro snapshot ⟨old, oldFound, language, version, text⟩ _
    change Knows (workspace.setDocument uri document) snapshot
    rw [Knows, setDocument_document?]
    split
    · -- Versions up to the old one are all outdated now, so their texts do not matter.
      rename_i same
      rw [same] at oldFound
      obtain ⟨sameLanguage, later⟩ := newer old oldFound
      refine ⟨document, rfl, language.trans sameLanguage, by omega, ?_⟩
      intro sameVersion
      omega
    · exact ⟨old, oldFound, language, version, text⟩

/-- The workspace stays coherent when a document is opened that was not open. -/
theorem openDocument_coherent (coherent : workspace.Coherent) {document : Document}
    (closed : workspace.document? document.uri = none)
    (plain : '#' ∉ document.language.toList) : (workspace.openDocument document).Coherent := by
  refine setDocument_coherent (cancelSearches_coherent coherent document.uri) rfl plain ?_
  intro old found
  rw [cancelSearches_document? coherent, closed] at found
  cases found

/-- The workspace stays coherent when a document is changed. -/
theorem changeDocument_coherent (coherent : workspace.Coherent) (uri : String) (version : Int)
    (edits : List Edit) : (workspace.changeDocument uri version edits).Coherent := by
  unfold changeDocument
  cases found : workspace.document? uri with
  | none => exact coherent
  | some document =>
      have calm := cancelSearches_coherent coherent uri
      dsimp only
      cases changed : document.change edits version with
      | error cause => exact calm
      | ok newer =>
          obtain ⟨own, plain⟩ := coherent.filed uri document found
          unfold Document.change at changed
          split at changed
          · cases changed
          · rename_i later
            cases changed
            refine setDocument_coherent calm own plain ?_
            intro old oldFound
            rw [cancelSearches_document? coherent, found] at oldFound
            cases oldFound
            exact ⟨rfl, Int.not_le.mp later⟩

/-- A closed document leaves nothing behind. -/
theorem closeDocument_coherent (coherent : workspace.Coherent) (uri : String) :
    (workspace.closeDocument uri).Coherent := by
  have calm := cancelSearches_coherent coherent uri
  have forgotten : Coherent { workspace.cancelSearches uri with
      service := ((workspace.cancelSearches uri).service.invalidateDocument uri).2
      folding := ((workspace.cancelSearches uri).folding.removeWhere (keyOfDocument uri)).2 } := by
    refine calm.goOn rfl (Service.step_goesOn calm.consistent (.invalidateDocument uri) rfl rfl)
      ⟨calm.rest.calls, calm.rest.searches, ?_⟩ calm.live ?_
    · change (workspace.cancelSearches uri).service.inFlight.filter _ = []
      rw [calm.rest.inFlight]
      rfl
    · intro entry member
      exact calm.folded entry ((Cache.mem_removeWhere _ _ entry).mp member).1
  refine forgotten.refile ((workspace.cancelSearches uri).documents.filter fun entry =>
    entry.1 != uri) ?_ ?_
  · intro other document found
    rw [document?, lookup_filter] at found
    split at found
    · cases found
    · exact calm.filed other document found
  · rintro snapshot ⟨document, found, recent⟩ held
    -- No key of the closed document is left in either cache.
    have other : snapshot.uri ≠ uri := by
      intro same
      have owned := snapshot.keyOfDocument_key
      rw [same] at owned
      rcases held with ⟨entry, member, key⟩ | ⟨entry, member, key⟩
      · have kept := ((Cache.mem_removeWhere _ _ entry).mp member).2
        rw [key, owned] at kept
        cases kept
      · have kept := ((Cache.mem_removeWhere _ _ entry).mp member).2
        rw [key, owned] at kept
        cases kept
    refine ⟨document, ?_, recent⟩
    rw [document?, lookup_filter, if_neg other]
    exact found

/-- The workspace stays coherent while time passes. -/
theorem wait_coherent (coherent : workspace.Coherent) (milliseconds : Nat) :
    (workspace.wait milliseconds).Coherent :=
  coherent.goOn rfl (Service.step_goesOn coherent.consistent (.wait milliseconds) rfl rfl)
    ⟨coherent.rest.calls, coherent.rest.searches, coherent.rest.inFlight⟩ coherent.live
    coherent.folded

/-- Drops the expired entries of both caches. -/
def sweep (workspace : Workspace) : Workspace :=
  { workspace with
    service := workspace.service.cleanup.2
    folding := (workspace.folding.cleanup workspace.service.now).2 }

/-- The workspace stays coherent when results that have expired are swept out. -/
theorem sweep_coherent (coherent : workspace.Coherent) : workspace.sweep.Coherent := by
  refine coherent.goOn rfl (Service.step_goesOn coherent.consistent .cleanup rfl rfl)
    ⟨coherent.rest.calls, coherent.rest.searches, coherent.rest.inFlight⟩ coherent.live ?_
  intro entry member
  exact coherent.folded entry ((Cache.mem_cleanup _ _ entry).mp member).1

/-- The workspace stays coherent when it is configured. -/
theorem configure_coherent (coherent : workspace.Coherent) {value : Json}
    (configured : workspace.configure value = .ok after) : after.Coherent := by
  obtain ⟨settings, _, configured⟩ := Except.ok_of_bind configured
  obtain ⟨service, applied, configured⟩ := Except.ok_of_bind configured
  cases configured
  exact coherent.renew rfl rfl (Service.apply_renewed applied)
    (Service.apply_quiet coherent.quiet applied) rfl

/-- The workspace stays coherent when the caches are cleared. -/
theorem clearCaches_coherent (coherent : workspace.Coherent) : workspace.clearCaches.Coherent := by
  have renewed := workspace.service.invalidate_renewed
  exact coherent.renew rfl rfl renewed
    (renewed.quiet coherent.quiet coherent.quiet.base coherent.quiet.registry) rfl

/-- A new workspace with quiet patterns is coherent. -/
theorem new_coherent {registry : Registry} (quiet : registry.Quiet) :
    (new (Service.new registry)).Coherent where
  filed := fun _ _ found => by cases found
  live := {
    issued := fun _ cancelled => by cases cancelled
    live := fun _ member => by cases member
    distinct := fun _ member => by cases member }
  rest := ⟨rfl, rfl, rfl⟩
  quiet := ⟨quiet, quiet, fun _ member => by cases member⟩
  cached := fun _ member => by cases member
  folded := fun _ member => by cases member

end Workspace

end DocBlocks
