/-
This file shows that a preview keeps to its limit and has something to show, and that the preview
under a smaller limit is the one under a larger limit, cut once more.
-/

import DocBlocks.Detection.Basic
import DocBlocks.Proofs.Text.Lines
import DocBlocks.Proofs.Text.Trim

namespace DocBlocks

theorem Text.mem_of_mem_trim {line : Text} {character : Char} (member : character ∈ line.trim) :
    character ∈ line := by
  have kept : character ∈ line.trimStart :=
    List.mem_reverse.mp ((List.dropWhile_suffix _).subset (List.mem_reverse.mp member))
  exact (List.dropWhile_suffix _).subset kept

/-- What is left of a trimmed line begins with a visible character. -/
theorem Text.head_trim {line : Text} (present : line.trim ≠ []) :
    ∃ first, line.trim.head? = some first ∧ isBlank first = false := by
  cases started : line.trimStart with
  | nil => exact absurd (by rw [trim, started]; rfl) present
  | cons first rest =>
      have visible : isBlank first = false := by
        have head := List.head?_dropWhile_not isBlank line
        rw [← trimStart, started] at head
        exact Bool.eq_false_iff.mpr (by simpa using head)
      refine ⟨first, ?_, visible⟩
      rw [trim, started, trimEnd_cons, if_neg (by simp [visible])]
      rfl

/-- A text without line breaks whose first character is visible. -/
structure Headline (text : Text) : Prop where
  feedless : '\n' ∉ text
  visible : ∃ first, text.head? = some first ∧ Text.isBlank first = false

/-- The first line with text can be a headline. -/
theorem Family.headline_firstLine {text line : Text} (found : firstLine? text = some line) :
    Headline line := by
  have present := List.find?_some found
  obtain ⟨whole, member, rfl⟩ := List.mem_map.mp (List.mem_of_find?_eq_some found)
  constructor
  · exact fun feed => Text.lines_no_feed text whole member (Text.mem_of_mem_trim feed)
  · exact Text.head_trim (by simpa using present)

/-- The text shown in place of an empty block can be a headline. -/
theorem Family.headline_fallback (family : Family) : Headline family.fallback := by
  cases family <;> exact ⟨by decide, _, rfl, by decide⟩

/-- The text that a preview is cut from. -/
def Family.headline (family : Family) (raw : Text) : Text :=
  (firstLine? (family.previewSource raw)).getD family.fallback

/-- What a preview is made of is a headline. -/
theorem Family.headline_shows (family : Family) (raw : Text) : Headline (family.headline raw) := by
  unfold headline
  cases found : firstLine? (family.previewSource raw) with
  | none => exact family.headline_fallback
  | some line => exact headline_firstLine found

/-- A preview is never longer than its limit. -/
theorem truncate_length_le (text : Text) (limit : Nat) : (truncate text limit).length ≤ limit := by
  unfold truncate
  split
  · assumption
  · split
    · exact List.length_take_le limit text
    · have taken := List.length_take_le (limit - ellipsis.length) text
      rw [List.length_append]
      omega

/-- Nothing but dots is new in a text that is cut. -/
theorem mem_of_mem_truncate {text : Text} {limit : Nat} {character : Char}
    (member : character ∈ truncate text limit) : character ∈ text ∨ character = '.' := by
  unfold truncate at member
  split at member
  · exact Or.inl member
  · split at member
    · exact Or.inl (List.mem_of_mem_take member)
    · rcases List.mem_append.mp member with kept | dot
      · exact Or.inl (List.mem_of_mem_take kept)
      · exact Or.inr (by simpa [ellipsis] using dot)

/-- Either the dots or the first character of the text can be seen in what is left of it. -/
theorem Headline.truncate_visible {text : Text} (headline : Headline text) {limit : Nat}
    (positive : 1 ≤ limit) : Text.allBlank (truncate text limit) = false := by
  obtain ⟨first, head, visible⟩ := headline.visible
  have seen (shown : Text) (starts : shown.head? = some first) : Text.allBlank shown = false :=
    List.all_eq_false.mpr ⟨first, List.mem_of_mem_head? starts, by simp [visible]⟩
  unfold truncate
  split
  · exact seen text head
  · split
    · refine seen _ ?_
      rw [List.head?_take, if_neg (Nat.ne_of_gt positive)]
      exact head
    · exact List.all_eq_false.mpr ⟨'.', by simp [ellipsis], by decide⟩

/-- The dots of the first cut are cut away by the second one, unless it takes nothing away. -/
theorem truncate_truncate (text : Text) {small large : Nat} (room : ellipsis.length ≤ small)
    (ordered : small ≤ large) : truncate (truncate text large) small = truncate text small := by
  by_cases fits : text.length ≤ large
  · rw [truncate.eq_def text large, if_pos fits]
  · have roomy : ¬ large < ellipsis.length := by omega
    have cut : truncate text large = text.take (large - ellipsis.length) ++ ellipsis := by
      rw [truncate, if_neg fits, if_neg roomy]
    have length : (truncate text large).length = large := by
      rw [cut, List.length_append, List.length_take]
      omega
    rcases Nat.eq_or_lt_of_le ordered with rfl | smaller
    · rw [truncate.eq_def (truncate text small), if_pos (Nat.le_of_eq length)]
    · have again : ¬ (truncate text large).length ≤ small := by omega
      have kept : (truncate text large).take (small - ellipsis.length) =
          text.take (small - ellipsis.length) := by
        have inside : small - ellipsis.length ≤ (text.take (large - ellipsis.length)).length := by
          rw [List.length_take]
          omega
        rw [cut, List.take_append_of_le_length inside, List.take_take]
        congr 1
        omega
      rw [truncate.eq_def (truncate text large), if_neg again, if_neg (Nat.not_lt.mpr room), kept,
        truncate, if_neg (by omega), if_neg (Nat.not_lt.mpr room)]

/-- The preview under a smaller limit is cut from the one under a larger limit. -/
theorem Family.preview_truncate (family : Family) (raw : Text) {small large : Nat}
    (room : ellipsis.length ≤ small) (ordered : small ≤ large) :
    family.preview raw small = truncate (family.preview raw large) small :=
  (truncate_truncate (family.headline raw) room ordered).symm

namespace Detector

/-- What the patterns find does not depend on the length of previews, only the previews do. -/
theorem run_truncate (registry : Registry) (text : Text) (language : String)
    (cancelledBy : Nat → Bool) {small large : Nat} (room : ellipsis.length ≤ small)
    (ordered : small ≤ large) :
    ((⟨registry, small⟩ : Detector).run text language cancelledBy).blocks =
      ((⟨registry, large⟩ : Detector).run text language cancelledBy).blocks.map fun block =>
        { block with preview := truncate block.preview small } := by
  simp only [run, detectionOf, passOver, List.map_map]
  refine List.map_congr_left fun candidate _ => ?_
  simp only [Function.comp_apply, buildBlock, Block.mk.injEq, and_true, true_and]
  exact candidate.2.preview_truncate _ room ordered

/-- A preview has at least one character and at most as many as are allowed, stands on one line and
is not blank. Of two limits with room for the dots, the smaller one gives the previews of the larger
one, cut to the smaller one, and two detections with these limits find the same blocks otherwise. -/
theorem previews_within_limits :
    (∀ (family : Family) (raw : Text) (limit : Nat), 1 ≤ limit →
      1 ≤ (family.preview raw limit).length ∧ (family.preview raw limit).length ≤ limit ∧
        '\n' ∉ family.preview raw limit ∧ Text.allBlank (family.preview raw limit) = false) ∧
    (∀ (family : Family) (raw : Text) (small large : Nat), 3 ≤ small → small ≤ large →
      family.preview raw small = truncate (family.preview raw large) small) ∧
    ∀ (registry : Registry) (text : Text) (language : String) (cancelledBy : Nat → Bool)
      (small large : Nat), 3 ≤ small → small ≤ large →
      let narrow := (⟨registry, small⟩ : Detector).run text language cancelledBy
      let wide := (⟨registry, large⟩ : Detector).run text language cancelledBy
      narrow.cancelled = wide.cancelled ∧
        narrow.blocks = wide.blocks.map fun block =>
          { block with preview := truncate block.preview small } := by
  refine ⟨fun family raw limit positive => ?_, fun family raw small large room ordered => ?_,
    fun registry text language cancelledBy small large room ordered => ?_⟩
  · have headline := family.headline_shows raw
    have visible : Text.allBlank (family.preview raw limit) = false :=
      headline.truncate_visible positive
    refine ⟨?_, truncate_length_le _ limit, fun feed => ?_, visible⟩
    · refine List.length_pos_iff.mpr fun empty => ?_
      rw [empty] at visible
      exact absurd visible (by decide)
    · rcases mem_of_mem_truncate feed with inside | dot
      · exact headline.feedless inside
      · exact absurd dot (by decide)
  · exact family.preview_truncate raw room ordered
  · exact ⟨rfl, run_truncate registry text language cancelledBy room ordered⟩

/-- The limits three, eight and ten on a string of eleven characters: the dots alone, and eight
characters of which the dots are the last three, as they are of ten. -/
theorem previews_within_limits_string :
    let raw : Text := "\"\"\"Hello world\"\"\"".toList
    let preview (limit : Nat) : Text := Family.tripleQuote.preview raw limit
    let blocks (limit : Nat) : List Block :=
      ((⟨Registry.builtin, limit⟩ : Detector).run raw "python" fun _ => false).blocks
    preview 3 = "...".toList ∧ preview 8 = "Hello...".toList ∧ preview 10 = "Hello w...".toList ∧
      1 ≤ (preview 1).length ∧ (preview 1).length ≤ 1 ∧ Text.allBlank (preview 1) = false ∧
      truncate (preview 10) 8 = preview 8 ∧
      (blocks 10).length = 1 ∧
      blocks 8 = (blocks 10).map fun block =>
        { block with preview := truncate block.preview 8 } := by
  intro raw preview blocks
  obtain ⟨bounded, coherent, runs⟩ := previews_within_limits
  obtain ⟨present, short, _, visible⟩ := bounded .tripleQuote raw 1 (by decide)
  have narrower := coherent .tripleQuote raw 8 10 (by decide) (by decide)
  have narrowed := runs Registry.builtin raw "python" (fun _ => false) 8 10 (by decide) (by decide)
  exact ⟨by decide +kernel, by decide +kernel, by decide +kernel, present, short, visible,
    narrower.symm, by decide +kernel, narrowed.2⟩

end Detector

end DocBlocks
