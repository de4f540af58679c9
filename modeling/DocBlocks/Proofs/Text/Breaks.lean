/-
This file shows that the lines of the editor make up the text, and that each of them but the last is
ended by one line break.
-/

import DocBlocks.Text.Basic
import Mathlib.Data.List.TakeWhile

namespace DocBlocks.Text

/-- The text holds no line break of any kind. -/
def Unbroken (text : Text) : Prop :=
  ∀ character ∈ text, isBreak character = false

instance (text : Text) : Decidable (Unbroken text) :=
  decidable_of_iff (text.all (!isBreak ·) = true) (by simp [Unbroken])

/-- The characters of a line before its line break. -/
def beforeBreak (line : Text) : Text :=
  line.takeWhile (!isBreak ·)

/-- The line break of a line. The last line of a text has none. -/
def lineBreak (line : Text) : Text :=
  line.dropWhile (!isBreak ·)

/-- A line break is one character, or a carriage return with a line feed. -/
inductive LineBreak : Text → Prop
  | single {character : Char} : isBreak character = true → LineBreak [character]
  | pair : LineBreak ['\r', '\n']

/-- A line is what stands before its break, and the break. -/
theorem beforeBreak_append_lineBreak (line : Text) : beforeBreak line ++ lineBreak line = line :=
  List.takeWhile_append_dropWhile

/-- Nothing before the break breaks the line. -/
theorem beforeBreak_unbroken (line : Text) : Unbroken (beforeBreak line) := fun character member => by
  simpa using List.mem_takeWhile_imp member

/-- A character that breaks nothing belongs to the line. -/
theorem beforeBreak_cons {character : Char} (plain : isBreak character = false) (rest : Text) :
    beforeBreak (character :: rest) = character :: beforeBreak rest :=
  List.takeWhile_cons_of_pos (by simp [plain])

theorem lineBreak_cons {character : Char} (plain : isBreak character = false) (rest : Text) :
    lineBreak (character :: rest) = lineBreak rest :=
  List.dropWhile_cons_of_pos (by simp [plain])

/-- A break at the start leaves nothing before it. -/
theorem beforeBreak_break {character : Char} (breaks : isBreak character = true) (rest : Text) :
    beforeBreak (character :: rest) = [] :=
  List.takeWhile_cons_of_neg (by simp [breaks])

theorem lineBreak_break {character : Char} (breaks : isBreak character = true) (rest : Text) :
    lineBreak (character :: rest) = character :: rest :=
  List.dropWhile_cons_of_neg (by simp [breaks])

/-- The break is looked for after what does not break the line. -/
theorem beforeBreak_append {body : Text} (unbroken : Unbroken body) (rest : Text) :
    beforeBreak (body ++ rest) = body ++ beforeBreak rest :=
  List.takeWhile_append_of_pos fun character member => by simp [unbroken character member]

theorem lineBreak_append {body : Text} (unbroken : Unbroken body) (rest : Text) :
    lineBreak (body ++ rest) = lineBreak rest :=
  List.dropWhile_append_of_pos fun character member => by simp [unbroken character member]

/-- A character that breaks no line is the first one of the line it stands on. -/
theorem editorLines_cons {character : Char} (plain : isBreak character = false) (rest : Text) :
    editorLines (character :: rest) =
      (character :: (editorLines rest).headD []) :: (editorLines rest).tail := by
  rw [editorLines, if_neg (by simp [plain])]
  · cases editorLines rest <;> rfl
  · rintro others rfl
    exact absurd plain (by decide)

/-- The lines of the editor are the whole text. -/
theorem flatten_editorLines (text : Text) : text.editorLines.flatten = text := by
  fun_induction editorLines text with
  | case1 => rfl
  | case2 rest ih => simp [ih]
  | case3 character rest _ _ ih => simp [ih]
  | case4 character rest _ _ shape ih => simpa [shape] using ih
  | case5 character rest _ _ line others shape ih => simpa [shape] using ih

/-- A line of the editor has no characters after its line break. -/
theorem lineBreak_of_mem {text : Text} :
    ∀ line ∈ text.editorLines, lineBreak line = [] ∨ LineBreak (lineBreak line) := by
  fun_induction editorLines text with
  | case1 => exact List.forall_mem_singleton.mpr (Or.inl rfl)
  | case2 rest ih => exact List.forall_mem_cons.mpr ⟨Or.inr .pair, ih⟩
  | case3 character rest _ breaks ih =>
      refine List.forall_mem_cons.mpr ⟨Or.inr ?_, ih⟩
      rw [lineBreak_break breaks]
      exact .single breaks
  | case4 character rest _ plain _ _ =>
      refine List.forall_mem_singleton.mpr (Or.inl ?_)
      rw [lineBreak_cons (Bool.eq_false_iff.mpr plain)]
      rfl
  | case5 character rest _ plain line others shape ih =>
      rw [shape] at ih
      obtain ⟨here, later⟩ := List.forall_mem_cons.mp ih
      refine List.forall_mem_cons.mpr ⟨?_, later⟩
      rw [lineBreak_cons (Bool.eq_false_iff.mpr plain)]
      exact here

/-- The first line of the editor goes up to the first break of the text. -/
theorem editorLines_head (text : Text) :
    ∃ line others, text.editorLines = line :: others ∧ beforeBreak line = beforeBreak text := by
  fun_induction editorLines text with
  | case1 => exact ⟨_, _, rfl, rfl⟩
  | case2 rest => exact ⟨_, _, rfl, rfl⟩
  | case3 character rest _ breaks =>
      exact ⟨_, _, rfl, by rw [beforeBreak_break breaks, beforeBreak_break breaks]⟩
  | case4 character rest _ _ shape ih =>
      obtain ⟨line, others, divided, _⟩ := ih
      exact absurd (shape.symm.trans divided) (List.cons_ne_nil _ _).symm
  | case5 character rest _ plain line others shape ih =>
      obtain ⟨_, _, divided, same⟩ := ih
      obtain ⟨rfl, rfl⟩ := List.cons.inj (shape.symm.trans divided)
      have apart := Bool.eq_false_iff.mpr plain
      exact ⟨_, _, rfl, by rw [beforeBreak_cons apart, beforeBreak_cons apart, same]⟩

/-- A text that nothing breaks is one line. -/
theorem editorLines_of_unbroken {body : Text} (unbroken : Unbroken body) :
    editorLines body = [body] := by
  induction body with
  | nil => rfl
  | cons character body ih =>
      obtain ⟨plain, others⟩ := List.forall_mem_cons.mp unbroken
      rw [editorLines_cons plain, ih others]
      rfl

/-- A line feed, with or without a carriage return, ends the line before it. -/
theorem editorLines_append_feed {body ending : Text} (unbroken : Unbroken body)
    (ends : ending = ['\n'] ∨ ending = ['\r', '\n']) (rest : Text) :
    editorLines (body ++ ending ++ rest) = (body ++ ending) :: editorLines rest := by
  induction body with
  | nil =>
      rcases ends with rfl | rfl
      · rw [List.nil_append, List.singleton_append, editorLines, if_pos (by decide)]
        simp
      · rfl
  | cons character body ih =>
      obtain ⟨plain, others⟩ := List.forall_mem_cons.mp unbroken
      rw [List.cons_append, List.cons_append, editorLines_cons plain, ih others]
      rfl

/-- The number of characters before a line of the editor. -/
def lineStart (text : Text) (index : Nat) : Nat :=
  (text.editorLines.take index).flatten.length

/-- A text consists of the lines before a line, and of that line and those after it. -/
theorem divided_at_line (text : Text) (index : Nat) :
    (text.editorLines.take index).flatten ++ (text.editorLines.drop index).flatten = text := by
  rw [← List.flatten_append, List.take_append_drop, flatten_editorLines]

/-- What stands before the start of a line are the lines before it. -/
theorem take_lineStart (text : Text) (index : Nat) :
    text.take (text.lineStart index) = (text.editorLines.take index).flatten :=
  (congrArg (List.take _) (text.divided_at_line index).symm).trans List.take_left

/-- What stands behind it are the line itself and those after it. -/
theorem drop_lineStart (text : Text) (index : Nat) :
    text.drop (text.lineStart index) = (text.editorLines.drop index).flatten :=
  (congrArg (List.drop _) (text.divided_at_line index).symm).trans List.drop_left

/-- A text consists of what stands before a line, the line, and what stands after it. -/
theorem around_line {text line : Text} {index : Nat} (found : text.editorLines[index]? = some line) :
    text = text.take (text.lineStart index) ++ line ++ text.drop (text.lineStart (index + 1)) := by
  obtain ⟨inside, rfl⟩ := List.getElem?_eq_some_iff.mp found
  rw [take_lineStart, drop_lineStart, List.append_assoc, ← List.flatten_cons,
    ← List.drop_eq_getElem_cons inside, divided_at_line]

/-- The next line starts where the line ends. -/
theorem lineStart_succ {text line : Text} {index : Nat}
    (found : text.editorLines[index]? = some line) :
    text.lineStart (index + 1) = text.lineStart index + line.length := by
  rw [lineStart, List.take_add_one, found, List.flatten_append, List.length_append, lineStart]
  simp

/-- Lines start in their order. -/
theorem lineStart_mono (text : Text) {one other : Nat} (ordered : one ≤ other) :
    text.lineStart one ≤ text.lineStart other := by
  obtain ⟨rest, whole⟩ := List.take_prefix_take_left (l := text.editorLines) ordered
  rw [lineStart, lineStart, ← whole, List.flatten_append, List.length_append]
  exact Nat.le_add_right _ _

/-- Past the last line there is only the end of the text. -/
theorem lineStart_past (text : Text) {index : Nat} (past : text.editorLines.length ≤ index) :
    text.lineStart index = text.length := by
  rw [lineStart, List.take_of_length_le past, flatten_editorLines]

/-- No line starts outside the text. -/
theorem lineStart_le_length (text : Text) (index : Nat) : text.lineStart index ≤ text.length := by
  rcases Nat.le_total index text.editorLines.length with inside | past
  · exact Nat.le_trans (text.lineStart_mono inside) (Nat.le_of_eq (text.lineStart_past (Nat.le_refl _)))
  · exact Nat.le_of_eq (text.lineStart_past past)

end DocBlocks.Text
