/-
This file shows that the preview of a block without markup is the first line of its whole text.
-/

import DocBlocks.Proofs.Preview.Dedent

namespace DocBlocks

namespace Text

/-- White space behind a text is trimmed with what the text has at its end. -/
theorem trimEnd_append_blanks (text : Text) {blanks : Text} (blank : allBlank blanks = true) :
    trimEnd (text ++ blanks) = trimEnd text := by
  rw [trimEnd, List.reverse_append, List.dropWhile_append_of_pos fun character member =>
    List.all_eq_true.mp blank character (List.mem_reverse.mp member)]
  rfl

/-- White space before a text is trimmed with what the text has at its start. -/
theorem trimStart_blanks_append {blanks : Text} (blank : allBlank blanks = true) (text : Text) :
    trimStart (blanks ++ text) = trimStart text :=
  List.dropWhile_append_of_pos (List.all_eq_true.mp blank)

theorem trimStart_blank {text : Text} (blank : allBlank text = true) : trimStart text = [] :=
  trimStart_eq_nil.mpr (List.all_eq_true.mp blank)

/-- White space at the ends of a line makes no difference to the trimmed line. -/
theorem Trims.trim_eq {line kept : Text} (trims : Trims line kept) : kept.trim = line.trim := by
  obtain ⟨front, back, rfl, frontBlank, backBlank⟩ := trims
  rw [List.append_assoc, trim, trim, trimStart_blanks_append frontBlank]
  cases visible : allBlank kept with
  | true =>
      have blank : allBlank (kept ++ back) = true := by
        rw [allBlank_append, visible, backBlank]
        rfl
      rw [trimStart_blank visible, trimStart_blank blank]
  | false =>
      have seen : trimStart kept ≠ [] := ne_nil_of_visible ((allBlank_trimStart kept).trans visible)
      have started : trimStart (kept ++ back) = trimStart kept ++ back := by
        rw [trimStart, List.dropWhile_append, ← trimStart, if_neg (by simpa using seen)]
      rw [started, trimEnd_append_blanks _ backBlank]

/-- Nothing is left of a line exactly if it is blank. -/
theorem isEmpty_trim (line : Text) : line.trim.isEmpty = line.allBlank := by
  cases visible : allBlank line with
  | true =>
      rw [trim, trimStart_blank visible]
      rfl
  | false =>
      simpa using ne_nil_of_visible (allBlank_trim visible)

/-- A carriage return at the end of a line is white space. -/
theorem trims_withoutReturn (line : Text) : Trims line (withoutReturn line) := by
  rcases withoutReturn_cases line with same | returned
  · exact ⟨[], [], by rw [List.append_nil]; exact same, rfl, rfl⟩
  · exact ⟨[], ['\r'], returned, rfl, by decide⟩

theorem allBlank_withoutReturn (line : Text) : allBlank (withoutReturn line) = allBlank line := by
  rw [← isEmpty_trim, (trims_withoutReturn line).trim_eq, isEmpty_trim]

/-- The characters of joined lines are those of the lines, and line feeds. -/
theorem mem_joinLines {parts : List Text} {character : Char} (member : character ∈ joinLines parts) :
    character = '\n' ∨ ∃ part ∈ parts, character ∈ part := by
  induction parts with
  | nil => cases member
  | cons part parts ih =>
      cases parts with
      | nil =>
          rw [joinLines, List.intercalate_singleton] at member
          exact Or.inr ⟨part, List.mem_cons_self, member⟩
      | cons next parts =>
          rw [joinLines_cons part (List.cons_ne_nil _ _), List.mem_append, List.mem_cons] at member
          rcases member with here | feed | later
          · exact Or.inr ⟨part, List.mem_cons_self, here⟩
          · exact Or.inl feed
          · rcases ih later with feed | ⟨other, otherMember, inside⟩
            · exact Or.inl feed
            · exact Or.inr ⟨other, List.mem_cons_of_mem _ otherMember, inside⟩

/-- The first line that can be seen is the same before and after lines are joined and divided again,
but for white space around it. -/
theorem find?_lines_joinLines {parts : List Text} (feedless : ∀ part ∈ parts, '\n' ∉ part) :
    ((lines (joinLines parts)).find? fun line => !line.allBlank).map trim =
      (parts.find? fun line => !line.allBlank).map trim := by
  induction parts with
  | nil => rfl
  | cons part parts ih =>
      obtain ⟨here, later⟩ := List.forall_mem_cons.mp feedless
      cases parts with
      | nil =>
          rw [joinLines, List.intercalate_singleton]
          cases part with
          | nil => rfl
          | cons => rw [lines_of_feedless (List.cons_ne_nil _ _) here]
      | cons next parts =>
          -- The line may lose a carriage return here, which is white space.
          rw [joinLines_cons part (List.cons_ne_nil _ _), lines_append_feed here, List.find?_cons,
            List.find?_cons (a := part), allBlank_withoutReturn]
          cases allBlank part with
          | true => exact ih later
          | false => exact congrArg some (trims_withoutReturn part).trim_eq

/-- Something on the first line is something in the whole. -/
theorem joinLines_ne_nil {part : Text} (present : part ≠ []) (parts : List Text) :
    joinLines (part :: parts) ≠ [] := by
  cases parts with
  | nil =>
      rw [joinLines, List.intercalate_singleton]
      exact present
  | cons next parts =>
      rw [joinLines_cons part (List.cons_ne_nil _ _)]
      exact List.append_ne_nil_of_left_ne_nil present _

/-- The first of joined lines keeps all that can be seen of it. -/
theorem trims_head_lines {part : Text} (present : part ≠ []) (feedless : '\n' ∉ part)
    (parts : List Text) : Trims part ((lines (joinLines (part :: parts))).headD []) := by
  cases parts with
  | nil =>
      rw [joinLines, List.intercalate_singleton, lines_of_feedless present feedless]
      exact ⟨[], [], (List.append_nil part).symm, rfl, rfl⟩
  | cons next parts =>
      rw [joinLines_cons part (List.cons_ne_nil _ _), lines_append_feed feedless]
      exact trims_withoutReturn part

/-- Nothing but the angle itself equals it up to case. -/
theorem eq_angle_of_equalUpToCase {character : Char} (equal : equalUpToCase '<' character = true) :
    character = '<' := by
  -- The ranges lead to letters, and all letters stand above the angle.
  have targets : (foldRanges.all fun range => (60 : Int) < range.first + range.shift) = true := by
    decide
  have itself : foldCode '<'.toNat = 60 := by decide
  have folded : foldCode character.toNat = 60 := by
    rw [← itself]
    exact (beq_iff_eq.mp equal).symm
  unfold foldCode at folded
  cases found : foldRanges.find? (·.covers character.toNat) with
  | none =>
      rw [found] at folded
      exact Char.toNat_inj.mp folded
  | some range =>
      have above := List.all_eq_true.mp targets range (List.mem_of_find?_eq_some found)
      have covers := List.find?_some found
      rw [found] at folded
      simp only [FoldRange.covers, Bool.and_eq_true, decide_eq_true_eq] at covers above folded
      omega

end Text

namespace Markup

/-- No tag begins where there is no angle bracket. -/
theorem cutAt?_plain (marker : Text) {text : Text} (plain : '<' ∉ text) :
    cutAt? ('<' :: marker) text = none := by
  induction text with
  | nil => rfl
  | cons character text ih =>
      obtain ⟨here, later⟩ := List.ne_and_not_mem_of_not_mem_cons plain
      have differs : Text.equalUpToCase '<' character = false :=
        Bool.eq_false_iff.mpr fun equal => here (Text.eq_angle_of_equalUpToCase equal).symm
      rw [cutAt?, after?, if_neg (by simp [differs]), ih later]
      rfl

/-- A text without angle brackets is its own summary. -/
theorem summary_plain {text : Text} (plain : '<' ∉ text) : summary text = text := by
  have opening : "<summary>".toList = '<' :: "summary>".toList := rfl
  rw [summary, opening, cutAt?_plain _ plain]

/-- A text without angle brackets keeps all of its characters. -/
theorem stripTags_plain {text : Text} (plain : '<' ∉ text) : stripTags text = text := by
  induction text with
  | nil => rw [stripTags]
  | cons character text ih =>
      obtain ⟨here, later⟩ := List.ne_and_not_mem_of_not_mem_cons plain
      rw [stripTags, if_neg (Ne.symm here), ih later]

end Markup

namespace Family

open Text

/-- The first line with text may be looked for before the lines are trimmed. -/
theorem firstLine?_eq (text : Text) :
    firstLine? text = (text.lines.find? fun line => !line.allBlank).map trim := by
  have visible : (fun line : Text => !line.isEmpty) ∘ trim = fun line => !line.allBlank :=
    funext fun line => by rw [Function.comp_apply, isEmpty_trim]
  rw [firstLine?, List.find?_map, visible]

/-- Without markup to interpret, a preview is taken from the lines as they are. -/
theorem previewSource_plain {family : Family} {raw : Text}
    (plain : family ≠ .tripleQuote → ∀ line ∈ family.stripMarkers raw, '<' ∉ line) :
    family.previewSource raw = joinLines (family.stripMarkers raw) := by
  have angleless (markup : family ≠ .tripleQuote) : '<' ∉ joinLines (family.stripMarkers raw) := by
    intro member
    rcases mem_joinLines member with feed | ⟨line, listed, inside⟩
    · exact absurd feed (by decide)
    · exact plain markup line listed inside
  by_cases string : family = .tripleQuote
  · subst string
    rfl
  · have text := angleless string
    simp only [previewSource, Markup.summary_plain text, Markup.stripTags_plain text, ite_self]

/-- The body begins with the first line that can be seen. -/
theorem head?_body (lines : List Text) :
    (body lines).head? = lines.find? fun line => !line.allBlank := by
  obtain ⟨front, back, whole, frontBlank, backBlank⟩ := body_divides lines
  have skipped {blanks : List Text} (blank : ∀ line ∈ blanks, allBlank line = true) :
      (blanks.find? fun line => !line.allBlank) = none :=
    List.find?_eq_none.mpr fun line member => by simp [blank line member]
  nth_rewrite 2 [whole]
  rw [List.append_assoc, List.find?_append, skipped frontBlank, Option.none_or, List.find?_append,
    skipped backBlank, Option.or_none]
  cases shape : body lines with
  | nil => rfl
  | cons first others =>
      have visible : allBlank first = false := body_head (by rw [shape]; rfl)
      rw [List.find?_cons_of_pos (by simp [visible])]
      rfl

/-- The whole text begins with the first line that can be seen, and is empty if there is none. -/
theorem trim_head_content (family : Family) (raw : Text) :
    ((family.stripMarkers raw).find? fun line => !line.allBlank).map trim =
      if family.content raw = [] then none else some (((family.content raw).lines.headD []).trim) := by
  rw [← head?_body, content]
  cases shape : body (family.stripMarkers raw) with
  | nil => rfl
  | cons first others =>
      have visible : allBlank first = false := body_head (by rw [shape]; rfl)
      have within := (commonIndent_least (List.mem_cons_self : first ∈ first :: others) visible).1
      have present : dedent (commonIndent (first :: others)) first ≠ [] :=
        ne_nil_of_visible (allBlank_dedent visible within)
      have feedless : '\n' ∉ dedent (commonIndent (first :: others)) first := by
        rw [← shape]
        exact dedent_feedless (shape ▸ List.mem_cons_self)
      rw [List.map_cons, if_neg (joinLines_ne_nil present _),
        (trims_head_lines present feedless _).trim_eq, (dedent_trims fun _ => within).trim_eq]
      rfl

/-- The preview of a block is the first line of its whole text, cut to the limit. Where a family
gives angles a meaning, there are none in the text. -/
theorem preview_eq_content (family : Family) (raw : Text) (limit : Nat)
    (plain : family ≠ .tripleQuote → ∀ line ∈ family.stripMarkers raw, '<' ∉ line) :
    family.preview raw limit =
      truncate (if family.content raw = [] then family.fallback
        else ((family.content raw).lines.headD []).trim) limit := by
  have feedless : ∀ line ∈ family.stripMarkers raw, '\n' ∉ line := fun _ => stripMarkers_feedless
  have chosen : firstLine? (family.previewSource raw) =
      if family.content raw = [] then none
      else some (((family.content raw).lines.headD []).trim) := by
    calc
      firstLine? (family.previewSource raw) =
          ((joinLines (family.stripMarkers raw)).lines.find? fun line => !line.allBlank).map trim := by
        rw [previewSource_plain plain, firstLine?_eq]
      _ = ((family.stripMarkers raw).find? fun line => !line.allBlank).map trim :=
        find?_lines_joinLines feedless
      _ = _ := trim_head_content family raw
  rw [preview, chosen]
  split <;> rfl

/-- Carriage returns that are left on the lines, and a margin that would split a wide space. -/
theorem preview_eq_content_returns :
    let raw := "///\r\r\n///\u3000 Adds one.\r\r\n///  More.\n/// ".toList
    (∀ line ∈ linePrefix.stripMarkers raw, '<' ∉ line) ∧
      linePrefix.content raw = "Adds one.\nMore.".toList ∧
      linePrefix.preview raw 8 = "Adds ...".toList ∧
      linePrefix.preview raw 8 =
        truncate (if linePrefix.content raw = [] then linePrefix.fallback
          else ((linePrefix.content raw).lines.headD []).trim) 8 := by
  intro raw
  have plain : ∀ line ∈ linePrefix.stripMarkers raw, '<' ∉ line := by decide +kernel
  exact ⟨plain, by decide +kernel, by decide +kernel,
    preview_eq_content linePrefix raw 8 fun _ => plain⟩

end Family

end DocBlocks
