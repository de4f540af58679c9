/-
This file says where in a text a position is. A character past the end of its line stands for the
place before the line break, but only if the line is ended by a line feed or a carriage return.
-/

import DocBlocks.Document
import DocBlocks.Proofs.Text.Breaks

namespace DocBlocks

namespace Text

/-- The line breaks other than line feed and carriage return: vertical tab, form feed, next line,
line separator and paragraph separator. -/
def separators : List Char :=
  ['\x0b', '\x0c', '\u0085', '\u2028', '\u2029']

/-- A line is broken by a line feed, a carriage return, or a separator. -/
theorem isBreak_iff {character : Char} :
    isBreak character = true ↔ character = '\n' ∨ character = '\r' ∨ character ∈ separators := by
  have code (other : Char) : character = other ↔ character.toNat = other.toNat :=
    Char.toNat_inj.symm
  simp only [isBreak, separators, List.mem_cons, List.not_mem_nil, or_false, code, Bool.or_eq_true,
    Bool.and_eq_true, decide_eq_true_eq, beq_iff_eq, Char.reduceToNat]
  omega

/-- The line is ended by one of the separators. -/
def EndsInSeparator (line : Text) : Prop :=
  lineBreak line ∈ separators.map fun separator => [separator]

instance (line : Text) : Decidable (EndsInSeparator line) :=
  inferInstanceAs (Decidable (lineBreak line ∈ separators.map fun separator => [separator]))

theorem endsInSeparator_iff {line : Text} :
    EndsInSeparator line ↔ ∃ separator ∈ separators, lineBreak line = [separator] := by
  simp only [EndsInSeparator, List.mem_map, eq_comm]

/-- A separator is one character. -/
theorem EndsInSeparator.length {line : Text} (separated : EndsInSeparator line) :
    line.length = (beforeBreak line).length + 1 := by
  obtain ⟨separator, _, ends⟩ := endsInSeparator_iff.mp separated
  have whole := congrArg List.length (beforeBreak_append_lineBreak line)
  rw [List.length_append, ends, List.length_singleton] at whole
  exact whole.symm

/-- The text before one place and what stands between it and a later one make up the text before the
later one. -/
theorem take_append_between (text : Text) {start stop : Nat} (ordered : start ≤ stop) :
    text.take start ++ (text.take stop).drop start = text.take stop := by
  have front := List.take_append_drop start (text.take stop)
  rwa [List.take_take, Nat.min_eq_left ordered] at front

end Text

open Text

/-- Line feeds and carriage returns at the end of a line are counted in its line break only. -/
theorem endingLength_eq (line : Text) (returns : ∀ character ∈ lineBreak line,
    character = '\n' ∨ character = '\r') : endingLength line = (lineBreak line).length := by
  have whole : line.reverse = (lineBreak line).reverse ++ (beforeBreak line).reverse := by
    rw [← List.reverse_append, beforeBreak_append_lineBreak]
  have none : (beforeBreak line).reverse.takeWhile (fun character => character == '\n' ||
      character == '\r') = [] := by
    cases shape : (beforeBreak line).reverse with
    | nil => rfl
    | cons last rest =>
        have inside : last ∈ beforeBreak line := by
          rw [← List.mem_reverse, shape]
          exact List.mem_cons_self
        have plain := beforeBreak_unbroken line last inside
        refine List.takeWhile_cons_of_neg fun ends => ?_
        rcases (by simpa using ends : last = '\n' ∨ last = '\r') with rfl | rfl <;> cases plain
  rw [endingLength, whole, List.takeWhile_append_of_pos, none, List.append_nil, List.length_reverse]
  intro character member
  simpa using returns character (List.mem_reverse.mp member)

/-- The line break of a line is counted as its ending, unless it is a separator. -/
theorem endingLength_of_mem {text line : Text} (member : line ∈ text.editorLines) :
    endingLength line = if EndsInSeparator line then 0 else (lineBreak line).length := by
  split
  · rename_i separated
    obtain ⟨separator, listed, ends⟩ := endsInSeparator_iff.mp separated
    have whole := beforeBreak_append_lineBreak line
    rw [endingLength, ← whole, ends, List.reverse_append, List.reverse_singleton,
      List.singleton_append, List.takeWhile_cons_of_neg, List.length_nil]
    have apart : (separators.all fun other => !(other == '\n' || other == '\r')) = true := by decide
    simpa using List.all_eq_true.mp apart separator listed
  · rename_i unseparated
    refine endingLength_eq line fun character inside => ?_
    cases shape : lineBreak line with
    | nil => simp [shape] at inside
    | cons first rest =>
        rw [shape] at inside
        have ends := (lineBreak_of_mem line member).resolve_left (by simp [shape])
        rw [shape] at ends
        cases ends with
        | single breaks =>
            rw [List.mem_singleton.mp inside]
            rcases isBreak_iff.mp breaks with feed | ret | separates
            · exact Or.inl feed
            · exact Or.inr ret
            · exact absurd (endsInSeparator_iff.mpr ⟨first, separates, shape⟩) unseparated
        | pair => simpa [or_comm] using inside

namespace Position

/-- One position comes before another, or is the same. -/
def Precedes (one other : Position) : Prop :=
  one.line < other.line ∨ one.line = other.line ∧ one.character ≤ other.character

/-- A position on a line of the editor is kept before the ending of that line. -/
theorem offset_eq {text line : Text} {position : Position}
    (found : text.editorLines[position.line]? = some line) :
    position.offset text =
      text.lineStart position.line + min position.character (line.length - endingLength line) := by
  simp only [offset, found, lineStart]

/-- A position behind the last line is taken to be the end of the text. -/
theorem offset_past {text : Text} {position : Position}
    (past : text.editorLines.length ≤ position.line) : position.offset text = text.length := by
  simp only [offset, List.getElem?_eq_none past]

/-- No position is taken to be outside the text. -/
theorem offset_le_length (position : Position) (text : Text) : position.offset text ≤ text.length := by
  cases found : text.editorLines[position.line]? with
  | none => exact Nat.le_of_eq (offset_past (List.getElem?_eq_none_iff.mp found))
  | some line =>
      have next := text.lineStart_le_length (position.line + 1)
      rw [lineStart_succ found] at next
      rw [offset_eq found]
      omega

/-- A position on a line stands between the beginning of the line and that of the next line. -/
theorem offset_on_line {text : Text} {position : Position}
    (inside : position.line < text.editorLines.length) :
    text.lineStart position.line ≤ position.offset text ∧
      position.offset text ≤ text.lineStart (position.line + 1) := by
  have found := List.getElem?_eq_getElem inside
  rw [offset_eq found, lineStart_succ found]
  omega

/-- Positions keep their order. -/
theorem offset_mono {one other : Position} (ordered : one.Precedes other) (text : Text) :
    one.offset text ≤ other.offset text := by
  rcases Nat.lt_or_ge other.line text.editorLines.length with inside | past
  · rcases ordered with earlier | ⟨same, before⟩
    · have first := offset_on_line (Nat.lt_trans earlier inside)
      have second := offset_on_line inside
      have between := text.lineStart_mono (show one.line + 1 ≤ other.line from earlier)
      omega
    · have found := List.getElem?_eq_getElem inside
      have alike : text.editorLines[one.line]? = some text.editorLines[other.line] := by
        rw [same, found]
      rw [offset_eq found, offset_eq alike, same]
      omega
  · rw [offset_past past]
    exact one.offset_le_length text

/-- A character past the end of its line is clamped to before the line break, and to after it if
that is a separator. -/
theorem offset_clamped {text line : Text} {index : Nat}
    (found : text.editorLines[index]? = some line) (character : Nat) :
    (⟨index, character⟩ : Position).offset text = text.lineStart index +
      min character ((beforeBreak line).length + if EndsInSeparator line then 1 else 0) := by
  rw [offset_eq found, endingLength_of_mem (List.mem_of_getElem? found)]
  split
  · rename_i separated
    rw [separated.length, Nat.sub_zero]
  · have whole := congrArg List.length (beforeBreak_append_lineBreak line)
    rw [← whole, List.length_append, Nat.add_sub_cancel, Nat.add_zero]

section Clamping

variable {text line : Text} {index character : Nat} (found : text.editorLines[index]? = some line)
include found

/-- A position is kept on its line unless it is behind the end of one that a separator ends. -/
theorem offset_kept (kept : character ≤ (beforeBreak line).length ∨ ¬ EndsInSeparator line) :
    (⟨index, character⟩ : Position).offset text =
      text.lineStart index + min character (beforeBreak line).length := by
  rw [offset_clamped found]
  rcases kept with inside | unseparated
  · rw [Nat.min_eq_left inside, Nat.min_eq_left (Nat.le_add_right_of_le inside)]
  · rw [if_neg unseparated, Nat.add_zero]

/-- Behind the end of a line that a separator ends, a position is moved to the start of the next
line. -/
theorem offset_moved (beyond : (beforeBreak line).length < character)
    (separated : EndsInSeparator line) :
    (⟨index, character⟩ : Position).offset text = text.lineStart (index + 1) := by
  rw [offset_clamped found, if_pos separated, Nat.min_eq_right (Nat.succ_le_of_lt beyond),
    lineStart_succ found, separated.length]

end Clamping

end Position

namespace Edit

/-- Puts a text in at a position and takes nothing out. -/
def insertion (position : Position) (inserted : Text) : Edit :=
  ⟨some (position, position), inserted⟩

/-- An insertion where two parts of a text meet. -/
theorem apply_insertion {position : Position} {text front back : Text} (parts : text = front ++ back)
    (place : position.offset text = front.length) (inserted : Text) :
    (insertion position inserted).apply text = front ++ inserted ++ back := by
  simp only [insertion, apply, Nat.max_self]
  rw [place, parts, List.take_left, List.drop_left]

section Lines

variable {text line : Text} {index character : Nat} (found : text.editorLines[index]? = some line)
include found

/-- A text is inserted on the line, before what follows the position. -/
theorem insertion_kept (kept : character ≤ (beforeBreak line).length ∨ ¬ EndsInSeparator line)
    (inserted : Text) :
    (insertion ⟨index, character⟩ inserted).apply text =
      text.take (text.lineStart index) ++ (beforeBreak line).take character ++ inserted ++
        (beforeBreak line).drop character ++ lineBreak line ++
        text.drop (text.lineStart (index + 1)) := by
  have parts : text =
      (text.take (text.lineStart index) ++ (beforeBreak line).take character) ++
        ((beforeBreak line).drop character ++ lineBreak line ++
          text.drop (text.lineStart (index + 1))) :=
    calc text = text.take (text.lineStart index) ++ ((beforeBreak line).take character ++
          (beforeBreak line).drop character ++ lineBreak line) ++
          text.drop (text.lineStart (index + 1)) := by
          rw [List.take_append_drop, beforeBreak_append_lineBreak, ← around_line found]
      _ = _ := by simp only [List.append_assoc]
  have place : (⟨index, character⟩ : Position).offset text =
      (text.take (text.lineStart index) ++ (beforeBreak line).take character).length := by
    rw [Position.offset_kept found kept, List.length_append, List.length_take, List.length_take,
      Nat.min_eq_left (text.lineStart_le_length index)]
  rw [apply_insertion parts place]
  simp only [List.append_assoc]

/-- A text inserted at such a position stands behind the separator. -/
theorem insertion_moved (beyond : (beforeBreak line).length < character)
    (separated : EndsInSeparator line) (inserted : Text) :
    (insertion ⟨index, character⟩ inserted).apply text =
      text.take (text.lineStart index) ++ line ++ inserted ++
        text.drop (text.lineStart (index + 1)) := by
  refine apply_insertion (around_line found) ?_ inserted
  rw [Position.offset_moved found beyond separated, lineStart_succ found, List.length_append,
    List.length_take, Nat.min_eq_left (text.lineStart_le_length index)]

end Lines

end Edit

/-- A character past the end of its line stands for the place before the line break just if the line
does not end in a separator, and just then an insertion there stays on the line. Past the end of a
line that does end in a separator, a position is the beginning of the next line. -/
theorem Position.offset_clamps_iff {text line : Text} {index : Nat}
    (found : text.editorLines[index]? = some line) (character : Nat) :
    let position : Position := ⟨index, character⟩
    let content := beforeBreak line
    let kept := character ≤ content.length ∨ ¬ EndsInSeparator line
    (position.offset text = text.lineStart index + min character content.length ↔ kept) ∧
      ((∀ inserted, (Edit.insertion position inserted).apply text =
        text.take (text.lineStart index) ++ content.take character ++ inserted ++
          content.drop character ++ lineBreak line ++ text.drop (text.lineStart (index + 1))) ↔ kept) ∧
      (lineBreak line ≠ [] ∧ position.offset text = text.lineStart (index + 1) ↔ ¬ kept) := by
  intro position content kept
  have divided : content ++ lineBreak line = line := beforeBreak_append_lineBreak line
  have next : text.lineStart (index + 1) =
      text.lineStart index + (content.length + (lineBreak line).length) := by
    rw [lineStart_succ found, ← List.length_append, divided]
  by_cases keeps : kept
  · have place : position.offset text = text.lineStart index + min character content.length :=
      offset_kept found keeps
    refine ⟨iff_of_true place keeps, iff_of_true (Edit.insertion_kept found keeps) keeps,
      iff_of_false (fun moved => ?_) (not_not_intro keeps)⟩
    have broken := List.length_pos_iff.mpr moved.1
    omega
  · obtain ⟨inside, separated⟩ := not_or.mp keeps
    have beyond := Nat.lt_of_not_le inside
    replace separated := not_not.mp separated
    have place : position.offset text = text.lineStart (index + 1) :=
      offset_moved found beyond separated
    have moved := Edit.insertion_moved found beyond separated ['x']
    obtain ⟨separator, listed, ends⟩ := endsInSeparator_iff.mp separated
    rw [ends] at divided next
    refine ⟨iff_of_false (fun same => ?_) keeps, iff_of_false (fun stays => ?_) keeps,
      iff_of_true ⟨by simp [ends], place⟩ keeps⟩
    · rw [List.length_singleton] at next
      omega
    · -- The letter would have to stand both before and after the separator.
      have both := moved.symm.trans (stays ['x'])
      rw [List.take_of_length_le (Nat.le_of_lt beyond), List.drop_of_length_le (Nat.le_of_lt beyond),
        ends, ← divided] at both
      have same : separator = 'x' ∧ 'x' = separator := by simpa using both
      exact absurd listed (by rw [same.1]; decide)

/-- A form feed ends the first line. Past its end a letter is put in on the second line, while past
the end of the second line, which a carriage return and a line feed end, it stays there. -/
theorem Position.offset_clamps_iff_formFeed :
    let text : Text := "ab\x0ccd\r\n".toList
    text.editorLines = ["ab\x0c".toList, "cd\r\n".toList, []] ∧
      (⟨0, 99⟩ : Position).offset text = 3 ∧ text.lineStart 1 = 3 ∧
      (Edit.insertion ⟨0, 99⟩ ['!']).apply text = "ab\x0c!cd\r\n".toList ∧
      ¬ (⟨0, 99⟩ : Position).offset text = text.lineStart 0 + min 99 2 ∧
      (⟨1, 99⟩ : Position).offset text = text.lineStart 1 + min 99 2 ∧
      (Edit.insertion ⟨1, 99⟩ ['!']).apply text = "ab\x0ccd!\r\n".toList := by
  intro text
  have first : text.editorLines[0]? = some "ab\x0c".toList := by decide
  have second : text.editorLines[1]? = some "cd\r\n".toList := by decide
  have moved := (offset_clamps_iff first 99).1
  have kept := offset_clamps_iff second 99
  refine ⟨by decide, by decide, by decide, by decide, fun same => ?_, kept.1.mpr (by decide), ?_⟩
  · exact absurd (moved.mp same) (by decide)
  · exact (kept.2.1.mpr (by decide) ['!']).trans (by decide)

end DocBlocks
