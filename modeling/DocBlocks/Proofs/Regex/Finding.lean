/-
This file shows where rows of parts are found in a line. A line that can hold no match is told apart
beforehand, and no match is missed by this. Whatever expression is searched for, what is found is a
piece of the line.
-/

import DocBlocks.Proofs.Regex.Parts
import DocBlocks.Proofs.Text.Search
import DocBlocks.Proofs.Text.Slice

namespace DocBlocks.Regex

theorem matchLength?_row (parts : List Part) (before : Option Char) (text : Text) :
    matchLength? [ofParts parts] before text = read parts before text := by
  simpa using matchLength?_rows text [parts] before

/-- A row admits nothing if each of its parts does. -/
theorem admitsNothing_cons (before after : Option Char) (part : Part) (parts : List Part) :
    admitsNothing before after (ofParts (part :: parts)) =
      (admitsNothing before after part.regex && admitsNothing before after (ofParts parts)) := by
  cases parts with
  | nil => exact (Bool.and_true _).symm
  | cons => rfl

/-- A row is entered by its first part, or by a later one if those before it admit nothing. -/
theorem leads_cons (before after : Option Char) (part : Part) (parts : List Part) :
    leads before after (ofParts (part :: parts)) empty =
      leads before after part.regex (ofParts parts) ++
        if admitsNothing before after part.regex then leads before after (ofParts parts) empty
        else [] := by
  cases parts with
  | nil =>
      have none : leads before after (ofParts []) empty = [] := rfl
      rw [none, ite_self, List.append_nil]
      rfl
  | cons second parts =>
      have last := ofParts_andThen_empty (second :: parts)
      exact congrArg (fun rest => leads before after part.regex rest ++ _) last

/-- A set may take the first character, and what is left can be read after it. -/
def GoesOn (character : Char) (rest : Text) (ways : List (CharClass × Regex)) : Prop :=
  ∃ set row, (set, ofParts row) ∈ ways ∧ set.contains character = true ∧
    (read row (some character) rest).isSome = true

/-- A row that is read after its first character goes on. -/
theorem goesOn_of_takeOne {set : CharClass} {row : List Part} {character : Char} {rest : Text}
    (taken : (takeOne set (read row) (character :: rest)).isSome = true)
    {ways : List (CharClass × Regex)} (member : (set, ofParts row) ∈ ways) :
    GoesOn character rest ways := by
  rw [takeOne] at taken
  split at taken
  · rename_i held
    exact ⟨set, row, member, held, by simpa using taken⟩
  · cases taken

theorem isSome_orElse {α : Type} (first second : Option α) :
    (first <|> second).isSome = true ↔ first.isSome = true ∨ second.isSome = true := by
  cases first <;> simp

/-- Reading goes on at an edge only where the assertion holds. -/
theorem of_goOnAt {assertion : Assertion} {next : Option Char → Text → Option Nat}
    {before : Option Char} {text : Text} (found : (goOnAt assertion next before text).isSome = true) :
    assertion.holds before text.head? = true ∧ (next before text).isSome = true := by
  rw [goOnAt] at found
  split at found
  · rename_i holds
    exact ⟨holds, found⟩
  · cases found

/-- A part takes a character or is passed over. -/
theorem read_part {part : Part} {parts : List Part} {before : Option Char} {character : Char}
    {rest : Text} (found : (read (part :: parts) before (character :: rest)).isSome = true) :
    GoesOn character rest (leads before (some character) part.regex (ofParts parts)) ∨
      admitsNothing before (some character) part.regex = true ∧
        (read parts before (character :: rest)).isSome = true := by
  cases part with
  | one set => exact Or.inl (goesOn_of_takeOne found List.mem_cons_self)
  | many set =>
      rw [read, takeMany_eq, isSome_orElse] at found
      rcases found with taken | passed
      · have again : leads before (some character) (Part.many set).regex (ofParts parts) =
            [(set, ofParts (.many set :: parts))] := by
          rw [← part_andThen]
          rfl
        exact Or.inl (goesOn_of_takeOne taken (again ▸ List.mem_cons_self))
      · exact Or.inr ⟨rfl, passed⟩
  | atMostOne set =>
      rw [read, isSome_orElse] at found
      rcases found with taken | passed
      · exact Or.inl (goesOn_of_takeOne taken List.mem_cons_self)
      · exact Or.inr ⟨rfl, passed⟩
  | edge assertion => exact Or.inr (of_goOnAt found)
  | oneOrEdge set assertion =>
      rw [read, isSome_orElse] at found
      rcases found with taken | passed
      · exact Or.inl (goesOn_of_takeOne taken List.mem_cons_self)
      · exact Or.inr (of_goOnAt passed)

/-- A row that can be read takes a character or nothing at all. -/
theorem read_row {parts : List Part} {before : Option Char} {character : Char} {rest : Text}
    (found : (read parts before (character :: rest)).isSome = true) :
    GoesOn character rest (leads before (some character) (ofParts parts) empty) ∨
      admitsNothing before (some character) (ofParts parts) = true := by
  induction parts with
  | nil => exact Or.inr rfl
  | cons part parts ih =>
      rw [leads_cons, admitsNothing_cons]
      rcases read_part found with ⟨set, row, member, held⟩ | ⟨admits, passed⟩
      · exact Or.inl ⟨set, row, List.mem_append_left _ member, held⟩
      · rw [if_pos admits, admits, Bool.true_and]
        refine (ih passed).imp_left ?_
        rintro ⟨set, row, member, held⟩
        exact ⟨set, row, List.mem_append_right _ member, held⟩

/-- At the end of a text a row is read only by passing over its parts. -/
theorem admitsNothing_of_read {parts : List Part} {before : Option Char}
    (found : (read parts before []).isSome = true) :
    admitsNothing before none (ofParts parts) = true := by
  induction parts with
  | nil => rfl
  | cons part parts ih =>
      have passed : admitsNothing before none part.regex = true ∧
          (read parts before []).isSome = true := by
        cases part with
        | one set => cases found
        | many set => exact ⟨rfl, found⟩
        | atMostOne set => exact ⟨rfl, found⟩
        | edge assertion => exact of_goOnAt found
        | oneOrEdge set assertion => exact of_goOnAt found
      rw [admitsNothing_cons, passed.1, ih passed.2, Bool.true_and]

/-- A line on which a row that is followed can be read may hold a match. -/
theorem mayMatch_of_read {expression : Regex} {text : Text} {begun : List Regex}
    {before : Option Char} {row : List Part} (member : ofParts row ∈ expression :: begun)
    (found : (read row before text).isSome = true) :
    expression.mayMatch begun before text = true := by
  induction text generalizing begun before row with
  | nil => exact List.any_eq_true.mpr ⟨_, member, admitsNothing_of_read found⟩
  | cons character rest ih =>
      rw [mayMatch]
      split
      · rfl
      · rename_i none
        dsimp only
        split
        · rfl
        · rcases read_row found with ⟨set, left, lead, held, later⟩ | admits
          · have residual : ofParts left ∈ residuals before character (ofParts row) :=
              List.mem_filterMap.mpr ⟨_, lead, if_pos held⟩
            refine ih (List.mem_cons_of_mem _ (List.mem_eraseDups.mpr ?_)) later
            exact List.mem_flatMap.mpr ⟨_, member, residual⟩
          · exact absurd (List.any_eq_true.mpr ⟨_, member, admits⟩) none

/-- A line that may hold a match at a later place may hold one. -/
theorem mayMatch_of_later {expression : Regex} {before : Option Char} {character : Char} {rest : Text}
    (later : ∀ begun, expression.mayMatch begun (some character) rest = true) (begun : List Regex) :
    expression.mayMatch begun before (character :: rest) = true := by
  rw [mayMatch]
  split
  · rfl
  · simp only [later, ite_self]

/-- At the end of a text a row is found if it reads nothing there. -/
theorem findFrom?_nil (parts : List Part) (before : Option Char) (offset : Nat) :
    findFrom? (ofParts parts) before offset [] =
      (read parts before []).map fun length => (offset, offset + length) := by
  rw [findFrom?, matchLength?_row]

/-- A row is found at the start of a text if it can be read there, or else further on. -/
theorem findFrom?_cons (parts : List Part) (before : Option Char) (offset : Nat) (character : Char)
    (rest : Text) :
    findFrom? (ofParts parts) before offset (character :: rest) =
      ((read parts before (character :: rest)).map (fun length => (offset, offset + length)) <|>
        findFrom? (ofParts parts) (some character) (offset + character.utf8Size) rest) := by
  rw [findFrom?, matchLength?_row]
  cases read parts before (character :: rest) <;> rfl

/-- No match is missed by telling the lines without one apart. -/
theorem find?_ofParts (parts : List Part) (text : Text) :
    (ofParts parts).find? text = findFrom? (ofParts parts) none 0 text := by
  have complete (text : Text) : ∀ (begun : List Regex) (before : Option Char) (offset : Nat),
      (findFrom? (ofParts parts) before offset text).isSome = true →
        (ofParts parts).mayMatch begun before text = true := by
    induction text with
    | nil =>
        intro begun before offset found
        rw [findFrom?_nil, Option.isSome_map] at found
        exact mayMatch_of_read List.mem_cons_self found
    | cons character rest ih =>
        intro begun before offset found
        rw [findFrom?_cons, isSome_orElse, Option.isSome_map] at found
        rcases found with here | later
        · exact mayMatch_of_read List.mem_cons_self here
        · exact mayMatch_of_later (fun begun => ih begun _ _ later) begun
  rw [find?]
  split
  · rfl
  · rename_i fruitless
    cases found : findFrom? (ofParts parts) none 0 text with
    | none => rfl
    | some range => exact absurd (complete text [] none 0 (by rw [found]; rfl)) fruitless

/-- A row that is bound to the start of the line is found there or nowhere. -/
theorem find?_anchored (parts : List Part) (line : Text) :
    (ofParts (.edge .textStart :: parts)).find? line =
      (read parts none line).map fun length => (0, length) := by
  have nowhere (text : Text) : ∀ (last : Char) (offset : Nat),
      findFrom? (ofParts (.edge .textStart :: parts)) (some last) offset text = none := by
    induction text with
    | nil => intro last offset; rw [findFrom?_nil]; rfl
    | cons character rest ih => intro last offset; rw [findFrom?_cons]; exact ih _ _
  rw [find?_ofParts]
  cases line with
  | nil => rw [findFrom?_nil]; simp [read, goOnAt, Assertion.holds]
  | cons character rest =>
      rw [findFrom?_cons, nowhere]
      have here : read (.edge .textStart :: parts) none (character :: rest) =
        read parts none (character :: rest) := rfl
      rw [here]
      simp

/-- A match takes a whole beginning of the text. -/
theorem matchLength?_taken {text : Text} {expressions : List Regex} {before : Option Char}
    {length : Nat} (found : matchLength? expressions before text = some length) :
    ∃ taken rest, text = taken ++ rest ∧ length = Text.byteLength taken := by
  induction text generalizing expressions before length with
  | nil =>
      rw [matchLength?, Option.ite_none_right_eq_some] at found
      exact ⟨[], [], rfl, (Option.some.inj found.2).symm⟩
  | cons character text ih =>
      rw [matchLength?] at found
      split at found
      · rename_i more longer
        rw [Option.ite_none_left_eq_some] at longer
        obtain ⟨taken, rest, whole, measured⟩ := ih longer.2
        cases found
        exact ⟨character :: taken, rest, by rw [whole]; rfl, by rw [measured]; rfl⟩
      · rw [Option.ite_none_right_eq_some] at found
        exact ⟨[], _, rfl, (Option.some.inj found.2).symm⟩

/-- What is found is a piece of the text. -/
theorem findFrom?_piece {expression : Regex} {text : Text} {before : Option Char}
    {offset start stop : Nat} (found : findFrom? expression before offset text = some (start, stop)) :
    ∃ front piece rest, text = front ++ piece ++ rest ∧ start = offset + Text.byteLength front ∧
      stop = start + Text.byteLength piece := by
  have here {text : Text} {before : Option Char} {offset length : Nat}
      (taken : matchLength? [expression] before text = some length) :
      ∃ front piece rest, text = front ++ piece ++ rest ∧ offset = offset + Text.byteLength front ∧
        offset + length = offset + Text.byteLength piece := by
    obtain ⟨piece, rest, whole, measured⟩ := matchLength?_taken taken
    exact ⟨[], piece, rest, whole, rfl, by rw [measured]⟩
  induction text generalizing before offset with
  | nil =>
      obtain ⟨length, taken, same⟩ := Option.map_eq_some_iff.mp found
      cases same
      exact here taken
  | cons character text ih =>
      rw [findFrom?] at found
      split at found
      · rename_i length taken
        cases found
        exact here taken
      · obtain ⟨front, piece, rest, whole, starts, stops⟩ := ih found
        refine ⟨character :: front, piece, rest, by rw [whole]; rfl, ?_, stops⟩
        rw [starts, Text.byteLength_cons, Nat.add_assoc]

/-- What is found in a text is a piece of it. -/
theorem find?_piece {expression : Regex} {text : Text} {start stop : Nat}
    (found : expression.find? text = some (start, stop)) :
    ∃ front piece rest, text = front ++ piece ++ rest ∧ start = Text.byteLength front ∧
      stop = Text.byteLength front + Text.byteLength piece := by
  rw [find?, Option.ite_none_right_eq_some] at found
  obtain ⟨front, piece, rest, whole, starts, stops⟩ := findFrom?_piece found.2
  rw [Nat.zero_add] at starts
  exact ⟨front, piece, rest, whole, starts, starts ▸ stops⟩

end DocBlocks.Regex
