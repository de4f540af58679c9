/-
This file reads expressions that are a row of simple parts straight off a text. What is still to be
matched is looked at only once at a position; the main result is that nothing is lost by this.
-/

import DocBlocks.Regex.Search

namespace DocBlocks.Regex

/-- The parts of the expressions that markers are written in. -/
inductive Part where
  | one (set : CharClass)
  /-- As many characters as possible. -/
  | many (set : CharClass)
  /-- A character, if there is one. -/
  | atMostOne (set : CharClass)
  | edge (assertion : Assertion)
  /-- A character or, failing that, an edge. -/
  | oneOrEdge (set : CharClass) (assertion : Assertion)

def Part.regex : Part → Regex
  | one set => .one set
  | many set => .rounds true (.one set)
  | atMostOne set => .either (.one set) .empty
  | edge assertion => .look assertion
  | oneOrEdge set assertion => .either (.one set) (.look assertion)

def ofParts (parts : List Part) : Regex :=
  sequence (parts.map Part.regex)

/-- Takes a character of the set and goes on after it. -/
def takeOne (set : CharClass) (next : Option Char → Text → Option Nat) : Text → Option Nat
  | [] => none
  | character :: rest =>
    if set.contains character then
      (next (some character) rest).map (character.utf8Size + ·)
    else none

/-- Takes as many characters of the set as leave a text that can be gone on with. -/
def takeMany (set : CharClass) (next : Option Char → Text → Option Nat) (before : Option Char) :
    Text → Option Nat
  | [] => next before []
  | character :: rest =>
    (if set.contains character then
      (takeMany set next (some character) rest).map (character.utf8Size + ·)
    else none) <|> next before (character :: rest)

/-- Goes on only where the assertion holds. -/
def goOnAt (assertion : Assertion) (next : Option Char → Text → Option Nat)
    (before : Option Char) (text : Text) : Option Nat :=
  if assertion.holds before text.head? then next before text else none

/-- The byte length that the parts take from the start of a text. -/
def read : List Part → Option Char → Text → Option Nat
  | [], _, _ => some 0
  | .one set :: parts, _, text => takeOne set (read parts) text
  | .many set :: parts, before, text => takeMany set (read parts) before text
  | .atMostOne set :: parts, before, text =>
    takeOne set (read parts) text <|> read parts before text
  | .edge assertion :: parts, before, text => goOnAt assertion (read parts) before text
  | .oneOrEdge set assertion :: parts, before, text =>
    takeOne set (read parts) text <|> goOnAt assertion (read parts) before text

/-- A repetition takes one more character or is left. -/
theorem takeMany_eq (set : CharClass) (next : Option Char → Text → Option Nat)
    (before : Option Char) (text : Text) :
    takeMany set next before text =
      (takeOne set (takeMany set next) text <|> next before text) := by
  cases text <;> simp [takeMany, takeOne]

/-- A part before a row is a row. -/
theorem part_andThen (part : Part) (parts : List Part) :
    part.regex.andThen (ofParts parts) = ofParts (part :: parts) := by
  match parts with
  | [] => cases part <;> rfl
  | [last] => cases part <;> cases last <;> rfl
  | _ :: _ :: _ => cases part <;> rfl

/-- Nothing behind a row is the row. -/
theorem ofParts_andThen_empty (parts : List Part) : (ofParts parts).andThen empty = ofParts parts := by
  match parts with
  | [] => rfl
  | [last] => cases last <;> rfl
  | _ :: _ :: _ => rfl

/-- Parts with one expression are one part. -/
theorem Part.regex_injective {part other : Part} (same : part.regex = other.regex) : part = other := by
  cases part <;> cases other <;> simp_all [Part.regex]

/-- An expression tells which row of parts it is. -/
theorem ofParts_injective :
    ∀ {parts others : List Part}, ofParts parts = ofParts others → parts = others
  | [], [], _ => rfl
  | [], [part], same => by cases part <;> cases same
  | [], _ :: _ :: _, same => by cases same
  | [part], [], same => by cases part <;> cases same
  | [part], [other], same => by rw [Part.regex_injective same]
  | [part], _ :: _ :: _, same => by cases part <;> cases same
  | _ :: _ :: _, [], same => by cases same
  | _ :: _ :: _, [other], same => by cases other <;> cases same
  | part :: second :: parts, other :: next :: others, same => by
      obtain ⟨first, rest⟩ := Regex.seq.inj same
      rw [Part.regex_injective first, ofParts_injective rest]

section Rows

variable (before after : Option Char) (parts : List Part) (next : Exploration)

/-- A set takes one character, and the rest of the row is left. -/
theorem explore_one (set : CharClass) :
    explore before after (.one set) (ofParts parts) next =
      .once (ofParts (.one set :: parts)) (.single (.take set (ofParts parts))) := by
  rw [← part_andThen]
  rfl

/-- Beyond an edge the exploration goes on only where the assertion holds. -/
theorem explore_look (assertion : Assertion) :
    explore before after (.look assertion) (ofParts parts) next =
      .once (ofParts (.edge assertion :: parts))
        (if assertion.holds before after then next else .nothing) := by
  rw [← part_andThen]
  rfl

/-- A repeated part is taken once more before it is left. -/
theorem explore_many (set : CharClass) :
    explore before after (Part.many set).regex (ofParts parts) next =
      .once (ofParts (.many set :: parts))
        ((explore before after (.one set) (ofParts (.many set :: parts)) .nothing).before next) := by
  rw [← part_andThen]
  rfl

/-- A part that may be left out is taken first. -/
theorem explore_atMostOne (set : CharClass) :
    explore before after (Part.atMostOne set).regex (ofParts parts) next =
      .once (ofParts (.atMostOne set :: parts))
        ((explore before after (.one set) (ofParts parts) next).before next) := by
  rw [← part_andThen]
  rfl

/-- A character is taken before the edge is tried. -/
theorem explore_oneOrEdge (set : CharClass) (assertion : Assertion) :
    explore before after (Part.oneOrEdge set assertion).regex (ofParts parts) next =
      .once (ofParts (.oneOrEdge set assertion :: parts))
        ((explore before after (.one set) (ofParts parts) next).before
          (explore before after (.look assertion) (ofParts parts) next)) := by
  rw [← part_andThen]
  rfl

/-- The first part of a row is explored with the others behind it. -/
theorem explore_row (part second : Part) :
    explore before after (ofParts (part :: second :: parts)) empty next =
      explore before after part.regex (ofParts (second :: parts))
        (explore before after (ofParts (second :: parts)) empty next) := by
  have last := ofParts_andThen_empty (second :: parts)
  exact congrArg (fun rest => explore before after part.regex rest
    (explore before after (ofParts (second :: parts)) empty next)) last

end Rows

/-- How many rows are open at most while a row of parts is explored at one position. -/
def rank : List Part → Nat
  | [] | .one _ :: _ => 0
  | .many _ :: parts | .atMostOne _ :: parts | .edge _ :: parts => rank parts + 1
  | .oneOrEdge _ _ :: parts => rank parts + 2

theorem findSome?_cons_orElse {α β : Type} (f : α → Option β) (first : α) (others : List α) :
    (first :: others).findSome? f = (f first <|> others.findSome? f) := by
  rw [List.findSome?_cons]
  cases f first <;> rfl

/-- The expressions that are rows of parts are matched as the rows are read. -/
def MatchedAsRead (text : Text) : Prop :=
  ∀ (rows : List (List Part)) (before : Option Char),
    matchLength? (rows.map ofParts) before text = rows.findSome? fun row => read row before text

/-- They are so after the first character of the text. -/
def MatchedLater : Text → Prop
  | [] => True
  | _ :: rest => MatchedAsRead rest

/-- The byte length of what is matched if a move is made at the start of a text. -/
def Move.length? (text : Text) : Move → Option Nat
  | accept => some 0
  | take set rest => takeOne set (matchLength? [rest]) text

/-- The move leaves a row of parts to match. -/
def Move.LeavesParts : Move → Prop
  | accept => True
  | take _ rest => ∃ parts, rest = ofParts parts

/-- A move that takes a character goes on with what is read after it. -/
theorem length?_take {text : Text} (later : MatchedLater text) (set : CharClass)
    (parts : List Part) :
    (Move.take set (ofParts parts)).length? text = takeOne set (read parts) text := by
  cases text with
  | nil => rfl
  | cons character rest =>
      have matched : matchLength? [ofParts parts] (some character) rest =
          read parts (some character) rest := by
        simpa using later [parts] (some character)
      simp [Move.length?, takeOne, matched]

section Explorations

variable (before : Option Char) (text : Text)

/-- Rows of a rank below the bound that have been looked at can not be read here. -/
def Spent (bound : Nat) (seen : List Regex) : Prop :=
  ∀ parts, rank parts < bound → ofParts parts ∈ seen → read parts before text = none

/-- The exploration finds the moves for a length, whatever rows it has looked at in vain before. It
looks only at rows of a rank below the bound, and if there is no length all of them are in vain. -/
structure Explores (bound : Nat) (exploration : Exploration) (length : Option Nat) : Prop where
  leavesParts : ∀ seen, ∀ move ∈ (exploration seen).1, move.LeavesParts
  bounded : ∀ seen parts, ofParts parts ∈ (exploration seen).2 →
    ofParts parts ∈ seen ∨ rank parts < bound
  finds : ∀ seen, Spent before text bound seen →
    (exploration seen).1.findSome? (Move.length? text) = length
  inVain : length = none → ∀ seen, Spent before text bound seen →
    Spent before text bound (exploration seen).2

variable {before text}

/-- Fewer rows are in vain below a lower bound. -/
theorem Spent.mono {low high : Nat} {seen : List Regex} (less : low ≤ high)
    (spent : Spent before text high seen) : Spent before text low seen :=
  fun parts below => spent parts (Nat.lt_of_lt_of_le below less)

/-- A row is opened without making one of a lower rank spent. -/
theorem Spent.opened {row : List Part} {seen : List Regex}
    (spent : Spent before text (rank row + 1) seen) :
    Spent before text (rank row) (ofParts row :: seen) := by
  intro parts below member
  rcases List.mem_cons.mp member with same | old
  · rw [ofParts_injective same] at below
    exact absurd below (Nat.lt_irrefl _)
  · exact spent parts (Nat.lt_succ_of_lt below) old

/-- The bound may be raised. -/
theorem Explores.mono {low high : Nat} {exploration : Exploration} {length : Option Nat}
    (less : low ≤ high) (explores : Explores before text low exploration length) :
    Explores before text high exploration length where
  leavesParts := explores.leavesParts
  bounded seen parts member :=
    (explores.bounded seen parts member).imp_right fun below => Nat.lt_of_lt_of_le below less
  finds seen spent := explores.finds seen (spent.mono less)
  inVain failed seen spent parts below member := by
    rcases explores.bounded seen parts member with old | low
    · exact spent parts below old
    · exact explores.inVain failed seen (spent.mono less) parts low member

/-- Without moves nothing is found. -/
theorem explores_nothing (bound : Nat) : Explores before text bound .nothing none where
  leavesParts _ _ member := by cases member
  bounded _ _ := Or.inl
  finds _ _ := rfl
  inVain _ _ := id

/-- One move finds what it matches. -/
theorem explores_single (move : Move) (leaves : move.LeavesParts) (bound : Nat) :
    Explores before text bound (.single move) (move.length? text) where
  leavesParts _ _ member := List.mem_singleton.mp member ▸ leaves
  bounded _ _ := Or.inl
  finds _ _ := by simp [Exploration.single]
  inVain _ _ := id

/-- Explorations are preferred in their order. -/
theorem Explores.orElse {bound : Nat} {first second : Exploration} {one other : Option Nat}
    (preferred : Explores before text bound first one)
    (others : Explores before text bound second other) :
    Explores before text bound (first.before second) (one <|> other) where
  leavesParts seen move member :=
    (List.mem_append.mp member).elim (preferred.leavesParts seen move) (others.leavesParts _ move)
  bounded seen parts member := by
    rcases others.bounded _ parts member with earlier | below
    · exact preferred.bounded seen parts earlier
    · exact Or.inr below
  finds seen spent := by
    -- The second exploration is given what the first one looked at. Only if that was in vain does
    -- its result count.
    simp only [Exploration.before, List.findSome?_append, preferred.finds seen spent]
    cases found : one with
    | some length => simp
    | none => simp [others.finds _ (preferred.inVain found seen spent)]
  inVain failed seen spent := by
    obtain ⟨failedFirst, failedSecond⟩ : one = none ∧ other = none := by simpa using failed
    exact others.inVain failedSecond _ (preferred.inVain failedFirst seen spent)

/-- A row that has been looked at is left out. While it is open only rows of a lower rank are
looked at, so that it does not stand in its own way. -/
theorem Explores.once (row : List Part) {exploration : Exploration}
    (explores : Explores before text (rank row) exploration (read row before text)) :
    Explores before text (rank row + 1) (.once (ofParts row) exploration) (read row before text) where
  leavesParts seen move member := by
    unfold Exploration.once at member
    split at member
    · cases member
    · exact explores.leavesParts _ move member
  bounded seen parts member := by
    unfold Exploration.once at member
    split at member
    · exact Or.inl member
    · rcases explores.bounded _ parts member with earlier | below
      · rcases List.mem_cons.mp earlier with same | old
        · exact Or.inr (ofParts_injective same ▸ Nat.lt_succ_self _)
        · exact Or.inl old
      · exact Or.inr (Nat.lt_succ_of_lt below)
  finds seen spent := by
    unfold Exploration.once
    split
    · rename_i looked
      exact (spent row (Nat.lt_succ_self _) (by simpa using looked)).symm
    · exact explores.finds _ spent.opened
  inVain failed seen spent parts below member := by
    unfold Exploration.once at member
    split at member
    · exact spent parts below member
    · rcases explores.bounded _ parts member with earlier | lower
      · rcases List.mem_cons.mp earlier with same | old
        · exact ofParts_injective same ▸ failed
        · exact spent parts below old
      · exact explores.inVain failed _ spent.opened parts lower member

/-- A set is explored as it is read. -/
theorem explores_one (later : MatchedLater text) (set : CharClass) (parts : List Part)
    (next : Exploration) :
    Explores before text 1 (explore before text.head? (.one set) (ofParts parts) next)
      (read (.one set :: parts) before text) := by
  have taken : Explores before text 0 _ _ := explores_single (.take set (ofParts parts)) ⟨parts, rfl⟩ 0
  rw [length?_take later] at taken
  rw [explore_one]
  exact Explores.once (.one set :: parts) taken

/-- An edge is explored as it is read. -/
theorem explores_edge (assertion : Assertion) {parts : List Part} {next : Exploration}
    (explores : Explores before text (rank parts + 1) next (read parts before text)) :
    Explores before text (rank parts + 2)
      (explore before text.head? (.look assertion) (ofParts parts) next)
      (read (.edge assertion :: parts) before text) := by
  rw [explore_look]
  refine Explores.once (.edge assertion :: parts) ?_
  rw [read, goOnAt]
  split
  · exact explores
  · exact explores_nothing _

/-- A part is explored before what follows it. -/
theorem explores_part (later : MatchedLater text) (part : Part) {parts : List Part}
    {next : Exploration}
    (explores : Explores before text (rank parts + 1) next (read parts before text)) :
    Explores before text (rank (part :: parts) + 1)
      (explore before text.head? part.regex (ofParts parts) next)
      (read (part :: parts) before text) := by
  have low : 1 ≤ rank parts + 1 := Nat.le_add_left 1 _
  cases part with
  | one set => exact explores_one later set parts next
  | many set =>
      rw [explore_many]
      -- A round leaves the repetition itself, which is open here. That does no harm: it is looked at
      -- only after the character the round takes.
      refine Explores.once (.many set :: parts) ?_
      rw [read, takeMany_eq]
      exact ((explores_one later set (.many set :: parts) .nothing).mono low).orElse explores
  | atMostOne set =>
      rw [explore_atMostOne]
      refine Explores.once (.atMostOne set :: parts) ?_
      exact ((explores_one later set parts next).mono low).orElse explores
  | edge assertion => exact explores_edge assertion explores
  | oneOrEdge set assertion =>
      rw [explore_oneOrEdge]
      refine Explores.once (.oneOrEdge set assertion :: parts) ?_
      exact ((explores_one later set parts next).mono (Nat.le_add_left 1 _)).orElse
        (explores_edge assertion explores)

/-- A row of parts is explored as it is read. -/
theorem explores_row (later : MatchedLater text) : ∀ parts,
    Explores before text (rank parts + 1)
      (explore before text.head? (ofParts parts) empty (.single .accept)) (read parts before text)
  | [] => explores_single .accept trivial 1
  | [part] => explores_part later part (explores_single .accept trivial 1)
  | part :: second :: parts => by
      rw [explore_row]
      exact explores_part later part (explores_row later (second :: parts))

/-- Rows are explored one after another, and the first that can be read counts. -/
theorem explores_rows (later : MatchedLater text) (rows : List (List Part)) :
    ∃ bound, Explores before text bound (exploreAll before text.head? (rows.map ofParts))
      (rows.findSome? fun row => read row before text) := by
  induction rows with
  | nil => exact ⟨0, explores_nothing 0⟩
  | cons row rows ih =>
      obtain ⟨bound, others⟩ := ih
      have first : Explores before text (rank row + 1) _ _ := explores_row later row
      refine ⟨max (rank row + 1) bound, ?_⟩
      rw [List.map_cons, exploreAll, findSome?_cons_orElse]
      exact (first.mono (Nat.le_max_left _ _)).orElse (others.mono (Nat.le_max_right _ _))

end Explorations

/-- The moves that take the next character leave rows of parts. The first row that can be read gives
the length; if there is none the match may still be complete. -/
theorem exists_rows_of_moves {character : Char} {rest : Text}
    (later : MatchedLater (character :: rest)) (moves : List Move)
    (leaves : ∀ move ∈ moves, move.LeavesParts) :
    ∃ rows : List (List Part), advance character moves = rows.map ofParts ∧
      moves.findSome? (Move.length? (character :: rest)) =
        ((rows.findSome? fun row => read row (some character) rest).map (character.utf8Size + ·) <|>
          if accepts moves then some 0 else none) := by
  induction moves with
  | nil => exact ⟨[], rfl, rfl⟩
  | cons move moves ih =>
      obtain ⟨rows, left, length⟩ := ih fun move member => leaves move (List.mem_cons_of_mem _ member)
      cases move with
      | accept => exact ⟨[], rfl, rfl⟩
      | take set goal =>
          obtain ⟨parts, rfl⟩ := leaves _ List.mem_cons_self
          rw [findSome?_cons_orElse, length?_take later, takeOne, length, advance, accepts]
          split
          · refine ⟨parts :: rows, by rw [left, List.map_cons], ?_⟩
            rw [findSome?_cons_orElse]
            cases read parts (some character) rest <;> simp
          · exact ⟨rows, left, by simp⟩

/-- At the end of a text a match can only be complete. -/
theorem length?_of_moves_nil (moves : List Move) :
    moves.findSome? (Move.length? []) = if accepts moves then some 0 else none := by
  induction moves with
  | nil => rfl
  | cons move moves ih =>
      cases move with
      | accept => rfl
      | take set goal => rw [findSome?_cons_orElse, ih]; rfl

/-- No expressions match nothing at all. -/
theorem matchLength?_nothing (before : Option Char) (text : Text) :
    matchLength? [] before text = none := by
  cases text <;> rfl

theorem matchLength?_cons (expressions : List Regex) (before : Option Char) (character : Char)
    (rest : Text) :
    let current := moves before (some character) expressions
    matchLength? expressions before (character :: rest) =
      ((matchLength? (advance character current) (some character) rest).map
        (character.utf8Size + ·) <|> if accepts current then some 0 else none) := by
  intro current
  rw [matchLength?]
  cases advance character current with
  | nil => simp [current, matchLength?_nothing]
  | cons goal goals =>
      cases matchLength? (goal :: goals) (some character) rest <;> simp [current]

/-- Expressions that are rows of parts are matched as the rows are read. -/
theorem matchLength?_rows (text : Text) : MatchedAsRead text := by
  -- The rows left after a character are matched as read by the hypothesis on the rest of the text;
  -- the explorations account for the character itself.
  induction text with
  | nil =>
      intro rows before
      have later : MatchedLater [] := trivial
      obtain ⟨bound, explored⟩ : ∃ bound, Explores before [] bound _ _ := explores_rows later rows
      have found := explored.finds [] fun _ _ member => nomatch member
      rw [← found, length?_of_moves_nil]
      rfl
  | cons character rest ih =>
      intro rows before
      have later : MatchedLater (character :: rest) := ih
      obtain ⟨bound, explored⟩ : ∃ bound, Explores before (character :: rest) bound _ _ :=
        explores_rows later rows
      have found := explored.finds [] fun _ _ member => nomatch member
      obtain ⟨left, advanced, length⟩ :=
        exists_rows_of_moves later _ (explored.leavesParts [])
      rw [← found, length, ← ih left, ← advanced, matchLength?_cons]
      rfl

end DocBlocks.Regex
