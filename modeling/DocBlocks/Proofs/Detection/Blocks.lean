/-
This file shows that a detection never fails, whatever the matchers of its patterns do, and that the
blocks it returns lie within the text and hold the lines they cover.
-/

import DocBlocks.Detection.Basic
import DocBlocks.Proofs.Detection.Within
import DocBlocks.Proofs.Preview.Slices
import DocBlocks.Proofs.Text.Lines
import Mathlib.Data.List.Basic

namespace DocBlocks

/-- The block lies within the lines, is marked with the language and holds the lines it covers. -/
structure Block.Covers (lines : List Text) (language : String) (block : Block) : Prop where
  ordered : block.startLine ≤ block.endLine
  inside : block.endLine < lines.length
  raw : block.rawContent =
    Text.joinLines (lines.extract block.startLine (block.endLine + 1))
  pieces : (block.rawContent.splitOn '\n').length = block.endLine - block.startLine + 1
  start : Span.OnLine lines block.startLine block.startColumn
  stop : Span.OnLine lines block.endLine block.endColumn
  single : block.isSingleLine = true ↔ block.startLine = block.endLine
  tagged : block.language = language

namespace Detector

/-- The lines from one index to another. There are none if the indices are out of order or past the
end. -/
def sliceLines? (lines : List Text) (first last : Nat) : Option (List Text) :=
  if first ≤ last + 1 ∧ last < lines.length then some (lines.extract first (last + 1)) else none

/-- The block of a span, taken out of the lines by slices. -/
def buildBlock? (lines : List Text) (language : String) (previewLength : Nat) (span : Span)
    (family : Family) : Option Block := do
  let raw := Text.joinLines (← sliceLines? lines span.startLine span.endLine)
  let preview ← family.preview? raw previewLength
  return { buildBlock lines language previewLength span family with rawContent := raw, preview }

/-- A detection in which a slice that is out of bounds leaves no result, unless that happens while
a single pattern is scanned for. -/
def run? (detector : Detector) (text : Text) (language : String) (cancelledBy : Nat → Bool) :
    Option Detection := do
  let found := detector.passOver text language cancelledBy
  let blocks ← (distinct [] found.candidates).mapM fun candidate =>
    buildBlock? text.lines language detector.previewLength candidate.1 candidate.2
  return ⟨blocks, found.stopped⟩

/-- Whatever the patterns find lies within the lines. -/
theorem pass_within (lines : List Text) (cancelledBy : Nat → Bool) (index : Nat) (cancels : Bool)
    (patterns : List Pattern) :
    ∀ candidate ∈ (pass lines cancelledBy index cancels patterns).candidates,
      candidate.1.Within lines := by
  induction patterns generalizing index cancels with
  | nil => simp [pass]
  | cons pattern patterns ih =>
      rw [pass]
      split
      · simp
      · intro candidate member
        rcases List.mem_append.mp member with own | other
        · obtain ⟨span, found, same⟩ := List.mem_map.mp own
          subst same
          cases scanned : (Span.scan pattern lines).outcome with
          | none => simp [scanned] at found
          | some spans =>
              rw [scanned] at found
              exact Span.scan_within pattern lines spans scanned span found
        · exact ih (index + 1) _ candidate other

/-- Leaving out repeated places adds none. -/
theorem mem_distinct (seen : List Span) (candidates : List (Span × Family)) :
    ∀ candidate ∈ distinct seen candidates, candidate ∈ candidates := by
  induction candidates generalizing seen with
  | nil => simp [distinct]
  | cons first candidates ih =>
      obtain ⟨span, family⟩ := first
      intro candidate member
      rw [distinct] at member
      split at member
      · exact List.mem_cons_of_mem _ (ih seen candidate member)
      · rcases List.mem_cons.mp member with same | later
        · rw [same]
          exact List.mem_cons_self
        · exact List.mem_cons_of_mem _ (ih (span :: seen) candidate later)

/-- The candidates of a whole pass lie within the lines of the text. -/
theorem passOver_within (detector : Detector) (text : Text) (language : String)
    (cancelledBy : Nat → Bool) :
    ∀ candidate ∈ distinct [] (detector.passOver text language cancelledBy).candidates,
      candidate.1.Within text.lines :=
  fun candidate member => pass_within _ _ _ _ _ candidate (mem_distinct _ _ candidate member)

theorem onLine_lt {lines : List Text} {index column : Nat}
    (place : Span.OnLine lines index column) : index < lines.length := by
  obtain ⟨line, found, _⟩ := place
  exact (List.getElem?_eq_some_iff.mp found).1

/-- A span within the lines can be sliced out of them. -/
theorem buildBlock?_eq {lines : List Text} {span : Span} (within : span.Within lines)
    (language : String) (previewLength : Nat) (family : Family) :
    buildBlock? lines language previewLength span family =
      some (buildBlock lines language previewLength span family) := by
  have bounds : span.startLine ≤ span.endLine + 1 ∧ span.endLine < lines.length :=
    ⟨Nat.le_succ_of_le within.ordered, onLine_lt within.stop⟩
  rw [buildBlock?, sliceLines?, if_pos bounds]
  simp only [Option.bind_eq_bind, Option.bind_some, Family.preview?_eq]
  rfl

/-- The block of a span within the lines of a text covers what the span covers. -/
theorem buildBlock_covers {text : Text} {span : Span} (within : span.Within text.lines)
    (language : String) (previewLength : Nat) (family : Family) :
    (buildBlock text.lines language previewLength span family).Covers text.lines language where
  ordered := within.ordered
  inside := onLine_lt within.stop
  raw := rfl
  pieces := by
    have inside := onLine_lt within.stop
    have ordered := within.ordered
    have count : (text.lines.extract span.startLine (span.endLine + 1)).length =
        span.endLine - span.startLine + 1 := by
      simp only [List.extract_eq_take_drop, List.length_take, List.length_drop]
      omega
    have present : text.lines.extract span.startLine (span.endLine + 1) ≠ [] := by
      intro empty
      rw [empty] at count
      simp at count
    have feeds : ∀ line ∈ text.lines.extract span.startLine (span.endLine + 1), '\n' ∉ line :=
      fun line member => Text.lines_no_feed text line
        (List.mem_of_mem_drop (List.mem_of_mem_take member))
    exact (congrArg List.length (Text.splitOn_joinLines present feeds)).trans count
  start := within.start
  stop := within.stop
  single := by simp [buildBlock]
  tagged := rfl

/-- Every block of a detection lies within the text. -/
theorem run_covers {detector : Detector} {text : Text} {language : String} {cancelledBy : Nat → Bool}
    {block : Block} (member : block ∈ (detector.run text language cancelledBy).blocks) :
    block.Covers text.lines language := by
  obtain ⟨candidate, found, rfl⟩ := List.mem_map.mp member
  exact buildBlock_covers (detector.passOver_within text language cancelledBy candidate found)
    language detector.previewLength candidate.2

/-- Whatever patterns are registered, and however their matchers fail, cancel the search or name
ranges that do not exist: a detection takes no slice that is out of bounds, and its blocks lie
within the text and hold the lines they cover. -/
theorem run_blocks_cover (detector : Detector) (text : Text) (language : String)
    (cancelledBy : Nat → Bool) :
    detector.run? text language cancelledBy = some (detector.run text language cancelledBy) ∧
      ∀ block ∈ (detector.run text language cancelledBy).blocks,
        block.Covers text.lines language := by
  have within := detector.passOver_within text language cancelledBy
  constructor
  · have built := List.mapM_of_forall _ fun candidate member =>
      buildBlock?_eq (within candidate member) language detector.previewLength candidate.2
    rw [run?, built]
    rfl
  · intro block member
    obtain ⟨candidate, found, same⟩ := List.mem_map.mp member
    subst same
    exact buildBlock_covers (within candidate found) language detector.previewLength candidate.2

/-- Of four patterns one names ranges that run backwards, one fails on every line, one cuts a
character in two, and the last takes every line as a whole for a marker. -/
theorem run_blocks_cover_unruly :
    let unruly (rule : Text → Option (Option ByteRange)) : Pattern :=
      let matcher := Matcher.custom fun line => ⟨rule line, false⟩
      ⟨"unruly", "c", matcher, matcher, none, true, .tripleQuote⟩
    let detector : Detector := { registry := ⟨[
      unruly fun _ => some (some ⟨4, 1⟩), unruly fun _ => none, unruly fun _ => some (some ⟨1, 1⟩),
      unruly fun line => some (if line = [] then none else some ⟨0, line.byteLength⟩)]⟩ }
    let text : Text := "é/\nb".toList
    let block : Block := ⟨0, 0, 1, 1, text, "é/".toList, "c", false⟩
    (detector.run text "c" fun _ => false).blocks = [block] ∧
      detector.run? text "c" (fun _ => false) = some (detector.run text "c" fun _ => false) ∧
      block.Covers text.lines "c" := by
  intro unruly detector text block
  have found : (detector.run text "c" fun _ => false).blocks = [block] := by decide +kernel
  obtain ⟨sliced, covered⟩ := run_blocks_cover detector text "c" fun _ => false
  exact ⟨found, sliced, covered block (by rw [found]; exact List.mem_singleton_self block)⟩

end Detector

end DocBlocks
