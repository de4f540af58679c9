/-
This file shows what batches of edits make of an open document. A batch that makes no newer version
is refused as a whole, and any other one replaces, edit by edit, what stands between two places of
the text.
-/

import DocBlocks.Proofs.Document.Offset
import DocBlocks.Proofs.Workspace.Coherence

namespace DocBlocks

/-- The text without what stands between two offsets. There is none if they are out of order or past
the end. -/
def Text.remove? (text : Text) (start stop : Nat) : Option Text :=
  if start ≤ stop ∧ stop ≤ text.length then some (text.take start ++ text.drop stop) else none

/-- The text with something put in at an offset. There is none past the end. -/
def Text.insert? (text : Text) (offset : Nat) (inserted : Text) : Option Text :=
  if offset ≤ text.length then some (text.take offset ++ inserted ++ text.drop offset) else none

namespace Edit

/-- An edit made by a removal and an insertion, each of which may fail. -/
def applied? (edit : Edit) (text : Text) : Option Text :=
  match edit.range with
  | none => some edit.text
  | some (first, last) => do
    let start := first.offset text
    let rest ← text.remove? start (max (last.offset text) start)
    rest.insert? start edit.text

/-- Positions are taken to be inside the text. -/
theorem stop_le_length (first last : Position) (text : Text) :
    max (first.offset text) (last.offset text) ≤ text.length :=
  Nat.max_le.mpr ⟨first.offset_le_length text, last.offset_le_length text⟩

/-- Whatever its positions are, an edit takes nothing out and puts nothing in past the end. -/
theorem applied?_eq (edit : Edit) (text : Text) : edit.applied? text = some (edit.apply text) := by
  unfold applied? apply
  cases edit.range with
  | none => rfl
  | some range =>
      obtain ⟨first, last⟩ := range
      have stop := stop_le_length first last text
      have start : (text.take (first.offset text)).length = first.offset text :=
        List.length_take_of_le (first.offset_le_length text)
      simp only [Text.remove?, Nat.max_comm (last.offset text)]
      rw [if_pos ⟨Nat.le_max_left _ _, stop⟩]
      simp only [Option.bind_eq_bind, Option.bind_some, Text.insert?]
      rw [if_pos (by rw [List.length_append, start]; exact Nat.le_add_right _ _),
        List.take_left' start, List.drop_left' start]

/-- The edit replaces the whole text, or what stands between its two positions. Nothing is taken out
if the second position comes before the first. -/
inductive Replaces (edit : Edit) (text : Text) : Text → Prop
  | whole : edit.range = none → Replaces edit text edit.text
  | part {first last : Position} {before removed after : Text} :
    edit.range = some (first, last) → text = before ++ removed ++ after →
    before.length = first.offset text →
    (before ++ removed).length = max (first.offset text) (last.offset text) →
    Replaces edit text (before ++ edit.text ++ after)

/-- An edit replaces a part of the text as the program does it. -/
theorem replaces_iff {edit : Edit} {text result : Text} :
    edit.Replaces text result ↔ edit.apply text = result := by
  constructor
  · rintro (whole | ⟨part, parts, start, stop⟩)
    · rw [apply, whole]
    · rw [apply, part]
      dsimp only
      rw [← stop, ← start, parts, List.drop_left]
      simp
  · rintro rfl
    unfold apply
    cases shape : edit.range with
    | none => exact .whole shape
    | some range =>
        obtain ⟨first, last⟩ := range
        have inside := stop_le_length first last text
        generalize stops : max (first.offset text) (last.offset text) = stop at inside
        have ordered : first.offset text ≤ stop := stops ▸ Nat.le_max_left _ _
        have covered := Text.take_append_between text ordered
        have parts : text = text.take (first.offset text) ++
            (text.take stop).drop (first.offset text) ++ text.drop stop := by
          rw [covered, List.take_append_drop]
        simp only [stops]
        refine .part shape parts (List.length_take_of_le (Nat.le_trans ordered inside)) ?_
        rw [covered, stops, List.length_take_of_le inside]

/-- The edits lead from one text to another, each of them made in the text that the one before
left. -/
inductive Lead : List Edit → Text → Text → Prop
  | done {text : Text} : Lead [] text text
  | step {edit : Edit} {edits : List Edit} {text next last : Text} :
    edit.Replaces text next → Lead edits next last → Lead (edit :: edits) text last

/-- Edits lead to the text that the program makes by one after another. -/
theorem lead_iff {edits : List Edit} {text last : Text} :
    Lead edits text last ↔ edits.foldl (fun text edit => edit.apply text) text = last := by
  induction edits generalizing text with
  | nil =>
      constructor
      · rintro ⟨⟩
        rfl
      · rintro rfl
        exact .done
  | cons edit edits ih =>
      rw [List.foldl_cons, ← ih]
      constructor
      · rintro (_ | ⟨replaces, onward⟩)
        rwa [replaces_iff.mp replaces]
      · exact .step (replaces_iff.mpr rfl)

end Edit

/-- Edits that come together, and the version that they make. -/
structure Batch where
  version : Int
  edits : List Edit

namespace Document

/-- A document receives a batch. The answer is the version that it has then, or why it refuses. -/
def receive (document : Document) (batch : Batch) : Except DocumentError Int × Document :=
  match document.change batch.edits batch.version with
  | .ok changed => (.ok changed.version, changed)
  | .error error => (.error error, document)

/-- A document receives one batch after another. -/
def receiveAll (document : Document) : List Batch → List (Except DocumentError Int) × Document
  | [] => ([], document)
  | batch :: batches =>
    let received := document.receive batch
    let later := received.2.receiveAll batches
    (received.1 :: later.1, later.2)

/-- The answers that a document gives to batches, and the document that they leave. -/
inductive Takes : Document → List Batch → List (Except DocumentError Int) → Document → Prop
  | done {document : Document} : Takes document [] [] document
  | refuse {document last : Document} {batch : Batch} {batches : List Batch}
    {answers : List (Except DocumentError Int)} :
    batch.version ≤ document.version → Takes document batches answers last →
    Takes document (batch :: batches)
      (.error (.staleVersion batch.version document.version) :: answers) last
  | accept {document last : Document} {batch : Batch} {batches : List Batch}
    {answers : List (Except DocumentError Int)} {text : Text} :
    document.version < batch.version → Edit.Lead batch.edits document.text text →
    Takes { document with text, version := batch.version } batches answers last →
    Takes document (batch :: batches) (.ok batch.version :: answers) last

/-- A batch that is not newer changes nothing, and the answer has both versions. -/
theorem receive_stale {document : Document} {batch : Batch} (stale : batch.version ≤ document.version) :
    document.receive batch =
      (.error (.staleVersion batch.version document.version), document) := by
  rw [receive, change, if_pos stale]

/-- A newer batch is answered with its version. -/
theorem receive_newer {document : Document} {batch : Batch} (newer : document.version < batch.version)
    {text : Text} (leads : Edit.Lead batch.edits document.text text) :
    document.receive batch =
      (.ok batch.version, { document with text, version := batch.version }) := by
  rw [receive, change, if_neg (Int.not_le.mpr newer), ← Edit.lead_iff.mp leads]

/-- Batches are taken one after another, as the program does. -/
theorem takes_iff {document last : Document} {batches : List Batch}
    {answers : List (Except DocumentError Int)} :
    document.Takes batches answers last ↔ document.receiveAll batches = (answers, last) := by
  constructor
  · intro takes
    induction takes with
    | done => rfl
    | refuse stale _ ih => rw [receiveAll, receive_stale stale, ih]
    | accept newer leads _ ih => rw [receiveAll, receive_newer newer leads, ih]
  · intro received
    induction batches generalizing document answers with
    | nil =>
        cases received
        exact .done
    | cons batch batches ih =>
        rw [receiveAll] at received
        by_cases stale : batch.version ≤ document.version
        · rw [receive_stale stale] at received
          cases received
          exact .refuse stale (ih rfl)
        · have newer := Int.not_le.mp stale
          have leads : Edit.Lead batch.edits document.text _ := Edit.lead_iff.mpr rfl
          rw [receive_newer newer leads] at received
          cases received
          exact .accept newer leads (ih rfl)

end Document

namespace Workspace

/-- The changes of one document, in order. -/
def changeAll (workspace : Workspace) (uri : String) (batches : List Batch) : Workspace :=
  batches.foldl (fun workspace batch => workspace.changeDocument uri batch.version batch.edits)
    workspace

theorem cancelSearches_documents (workspace : Workspace) (uri : String) :
    (workspace.cancelSearches uri).documents = workspace.documents := by
  unfold cancelSearches
  split <;> rfl

/-- A change of an open document is one of the document that the workspace has. -/
theorem changeDocument_document? {workspace : Workspace} {uri : String} {document : Document}
    (opened : workspace.document? uri = some document) (batch : Batch) :
    (workspace.changeDocument uri batch.version batch.edits).document? uri =
      some (document.receive batch).2 := by
  rw [changeDocument, opened, Document.receive]
  dsimp only
  cases document.change batch.edits batch.version with
  | ok changed => rw [setDocument_document?, if_pos rfl]
  | error cause =>
      rw [document?, cancelSearches_documents]
      exact opened

/-- Any number of changes are made to the document that the workspace has. -/
theorem changeAll_document? {workspace : Workspace} {uri : String} {document : Document}
    (opened : workspace.document? uri = some document) (batches : List Batch) :
    (workspace.changeAll uri batches).document? uri = some (document.receiveAll batches).2 := by
  induction batches generalizing workspace document with
  | nil => exact opened
  | cons batch batches ih => exact ih (changeDocument_document? opened batch)

/-- However many batches change an open document, its text and its answers are those that follow
when each batch is refused as a whole or replaces, edit by edit, what stands between two places of
the text. Places never lie outside of the text, keep the order of their positions, and stay on their
lines. -/
theorem batches_replace {workspace : Workspace} {uri : String} {document : Document}
    (opened : workspace.document? uri = some document) (batches : List Batch) :
    (∀ answers last, document.Takes batches answers last ↔
      document.receiveAll batches = (answers, last)) ∧
    (∃ answers last, document.Takes batches answers last ∧
      (workspace.changeAll uri batches).document? uri = some last) ∧
    (∀ (edit : Edit) (text : Text), edit.applied? text = some (edit.apply text)) ∧
    ∀ (text : Text) (one : Position),
      one.offset text ≤ text.length ∧
      (one.line < text.editorLines.length → text.lineStart one.line ≤ one.offset text ∧
        one.offset text ≤ text.lineStart (one.line + 1)) ∧
      (text.editorLines.length ≤ one.line → one.offset text = text.length) ∧
      ∀ other, one.Precedes other → one.offset text ≤ other.offset text ∧
        max (one.offset text) (other.offset text) = other.offset text := by
  refine ⟨fun answers last => Document.takes_iff, ⟨_, _, Document.takes_iff.mpr rfl,
    changeAll_document? opened batches⟩, Edit.applied?_eq, fun text one => ?_⟩
  refine ⟨one.offset_le_length text, Position.offset_on_line, Position.offset_past,
    fun other ordered => ?_⟩
  have before := Position.offset_mono ordered text
  exact ⟨before, Nat.max_eq_right before⟩

/-- The first batch makes two edits, of which the second is made in the text that the first one left
and has its positions out of order and past the ends of their lines. The second batch is stale. -/
theorem batches_replace_stale :
    let document : Document := ⟨"file:///a.py", "python", "ab\r\ncd".toList, 1⟩
    let workspace := (Workspace.new (Service.new Registry.builtin)).openDocument document
    let edits : List Edit :=
      [⟨some (⟨1, 0⟩, ⟨7, 0⟩), "e\n".toList⟩, ⟨some (⟨0, 99⟩, ⟨0, 1⟩), "!".toList⟩]
    let batches : List Batch := [⟨3, edits⟩, ⟨3, [⟨none, []⟩]⟩]
    let changed : Document := { document with text := "ab!\r\ne\n".toList, version := 3 }
    workspace.document? "file:///a.py" = some document ∧
      document.Takes batches [.ok 3, .error (.staleVersion 3 3)] changed ∧
      (workspace.changeAll "file:///a.py" batches).document? "file:///a.py" = some changed := by
  intro document workspace edits batches changed
  have opened : workspace.document? "file:///a.py" = some document := by decide +kernel
  obtain ⟨takes, ⟨answers, last, taken, found⟩, _⟩ := batches_replace opened batches
  have received : document.receiveAll batches = ([.ok 3, .error (.staleVersion 3 3)], changed) := by
    rfl
  have same := ((takes answers last).mp taken).symm.trans received
  rw [(Prod.mk.inj same).2] at found
  exact ⟨opened, (takes _ _).mpr received, found⟩

end Workspace

end DocBlocks
