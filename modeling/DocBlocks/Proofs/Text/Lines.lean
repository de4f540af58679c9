/-
This file shows that lines hold no line feeds, so that joined lines can be told apart again. A
carriage return at the end of a line is lost when lines are joined and divided.
-/

import DocBlocks.Text.Basic

namespace DocBlocks.Text

/-- No line has a line feed. -/
theorem lines_no_feed (text : Text) : ∀ line ∈ text.lines, '\n' ∉ line := by
  fun_induction lines text with
  | case1 => simp
  | case2 rest ih => simpa using ih
  | case3 rest ih => simpa using ih
  | case4 character rest feed _ last ih =>
      intro line member
      rw [List.mem_singleton.mp member, List.mem_singleton]
      exact fun same => feed same.symm
  | case5 character rest feed _ line others shape ih =>
      rw [shape] at ih
      intro extended member
      rcases List.mem_cons.mp member with same | later
      · rw [same, List.mem_cons]
        exact not_or_intro (fun same => feed same.symm) (ih line List.mem_cons_self)
      · exact ih extended (List.mem_cons_of_mem _ later)

/-- Joined lines are divided at the line feeds into the same lines. -/
theorem splitOn_joinLines {parts : List Text} (present : parts ≠ [])
    (feeds : ∀ part ∈ parts, '\n' ∉ part) : (joinLines parts).splitOn '\n' = parts :=
  List.splitOn_intercalate '\n' feeds present

/-- A line without the carriage return that may stand at its end. -/
def withoutReturn : Text → Text
  | [] => []
  | ['\r'] => []
  | character :: rest => character :: withoutReturn rest

/-- At most one carriage return is lost. -/
theorem withoutReturn_cases (line : Text) :
    line = withoutReturn line ∨ line = withoutReturn line ++ ['\r'] := by
  fun_induction withoutReturn line with
  | case1 => exact Or.inl rfl
  | case2 => exact Or.inr rfl
  | case3 character rest _ ih =>
      exact ih.imp (congrArg (character :: ·)) (congrArg (character :: ·))

/-- A carriage return is only lost at the end. -/
theorem withoutReturn_append (front : Text) {back : Text} (present : back ≠ []) :
    withoutReturn (front ++ back) = front ++ withoutReturn back := by
  induction front with
  | nil => rfl
  | cons character front ih =>
      have more : front ++ back ≠ [] := List.append_ne_nil_of_right_ne_nil front present
      rw [List.cons_append, List.cons_append, ← ih]
      cases left : front ++ back with
      | nil => exact absurd left more
      | cons => rw [withoutReturn]; simp

/-- A character that ends no line is the first one of the line it stands on. -/
theorem lines_cons {character : Char} {rest : Text} (feed : character ≠ '\n')
    (unreturned : character = '\r' → rest.head? ≠ some '\n') :
    lines (character :: rest) =
      (character :: (lines rest).headD []) :: (lines rest).tail := by
  rw [lines]
  · cases lines rest <;> rfl
  · exact feed
  · rintro others rfl same
    exact absurd (congrArg List.head? same) (unreturned rfl)

/-- A line feed ends the line before it. -/
theorem lines_append_feed {line : Text} (feedless : '\n' ∉ line) (rest : Text) :
    lines (line ++ '\n' :: rest) = withoutReturn line :: lines rest := by
  induction line with
  | nil => rw [List.nil_append, lines, withoutReturn]
  | cons character line ih =>
      obtain ⟨feed, others⟩ := List.ne_and_not_mem_of_not_mem_cons feedless
      rw [List.cons_append]
      cases line with
      | nil =>
          by_cases ending : character = '\r'
          · rw [ending]
            rfl
          · rw [lines_cons feed.symm fun same => absurd same ending, ih others]
            simp [withoutReturn, ending]
      | cons second line =>
          have unended : (second :: line ++ '\n' :: rest).head? ≠ some '\n' := by
            rintro same
            exact others (Option.some.inj same ▸ List.mem_cons_self)
          rw [lines_cons feed.symm fun _ => unended, ih others]
          simp [withoutReturn]

/-- A text without line feeds is one line. -/
theorem lines_of_feedless {line : Text} (present : line ≠ []) (feedless : '\n' ∉ line) :
    lines line = [line] := by
  induction line with
  | nil => exact absurd rfl present
  | cons character line ih =>
      obtain ⟨feed, others⟩ := List.ne_and_not_mem_of_not_mem_cons feedless
      have unended : line.head? ≠ some '\n' := fun same => others (List.mem_of_mem_head? same)
      rw [lines_cons feed.symm fun _ => unended]
      cases line with
      | nil => rfl
      | cons second line =>
          rw [ih (List.cons_ne_nil _ _) others]
          rfl

theorem joinLines_cons (part : Text) {parts : List Text} (present : parts ≠ []) :
    joinLines (part :: parts) = part ++ '\n' :: joinLines parts := by
  rw [joinLines, joinLines, List.intercalate_cons_of_ne_nil present, List.append_assoc]
  rfl

/-- Lines one after another, each ended by a line feed. -/
def fed (parts : List Text) : Text :=
  parts.flatMap (· ++ ['\n'])

/-- Joined lines are those before the last, each ended by a line feed, and the last. -/
theorem joinLines_fed (parts : List Text) (last : Text) :
    joinLines (parts ++ [last]) = fed parts ++ last := by
  induction parts with
  | nil => exact List.intercalate_singleton
  | cons part parts ih =>
      have more : parts ++ [last] ≠ [] := List.append_ne_nil_of_right_ne_nil _ (List.cons_ne_nil _ _)
      rw [List.cons_append, joinLines_cons part more, ih]
      simp [fed]

/-- Joined lines end with the last of them. -/
theorem joinLines_append (parts : List Text) (last : Text) :
    ∃ front, joinLines (parts ++ [last]) = front ++ last :=
  ⟨fed parts, joinLines_fed parts last⟩

/-- Lines that are joined and divided again lose the carriage returns at their ends. -/
theorem lines_joinLines (parts : List Text) {last : Text} (feedless : ∀ part ∈ parts, '\n' ∉ part)
    (present : last ≠ []) (lastFeedless : '\n' ∉ last) :
    lines (joinLines (parts ++ [last])) = parts.map withoutReturn ++ [last] := by
  induction parts with
  | nil =>
      rw [List.nil_append, joinLines, List.intercalate_singleton]
      exact lines_of_feedless present lastFeedless
  | cons part parts ih =>
      obtain ⟨here, later⟩ := List.forall_mem_cons.mp feedless
      have more : parts ++ [last] ≠ [] := List.append_ne_nil_of_right_ne_nil _ (List.cons_ne_nil _ _)
      rw [List.cons_append, joinLines_cons part more, lines_append_feed here, ih later]
      rfl

/-- A text with the lines given, each of them ended in the longest way. -/
def ofLines (parts : List Text) : Text :=
  parts.flatMap fun part => part ++ ['\r', '\n']

/-- The lines of that text are those given. -/
theorem lines_ofLines {parts : List Text} (feedless : ∀ part ∈ parts, '\n' ∉ part) :
    lines (ofLines parts) = parts := by
  induction parts with
  | nil => rfl
  | cons part parts ih =>
      obtain ⟨here, later⟩ := List.forall_mem_cons.mp feedless
      have ended : '\n' ∉ part ++ ['\r'] := by simpa using here
      have whole : ofLines (part :: parts) = (part ++ ['\r']) ++ '\n' :: ofLines parts := by
        simp [ofLines]
      rw [whole, lines_append_feed ended, ih later, withoutReturn_append part (List.cons_ne_nil _ _)]
      exact congrArg (· :: parts) (List.append_nil part)

end DocBlocks.Text
