/-
This file says by which marker a block of a comment syntax ends. What follows that marker on its
line has no part in it.
-/

import DocBlocks.Proofs.Detection.Builtin

namespace DocBlocks

open Text

namespace Markers

/-- The line found is the first with a closing marker, and the column is just past that marker. -/
theorem firstClosing?_eq_some {closing : Text} {lines : List Text} {count column : Nat} :
    firstClosing? closing lines = some (count, column) ↔
      (∃ line before rest, lines[count]? = some line ∧ cutAt? closing line = some (before, rest) ∧
        column = columnOfRest line rest) ∧
      ∀ line ∈ lines.take count, cutAt? closing line = none := by
  induction lines generalizing count with
  | nil => simp [firstClosing?]
  | cons line lines ih =>
      rw [firstClosing?]
      cases cut : cutAt? closing line with
      | some place =>
          obtain ⟨before, rest⟩ := place
          cases count with
          | zero => simp [cut, eq_comm]
          | succ count => simp [cut]
      | none =>
          cases count with
          | zero => simp [cut]
          | succ count =>
              rw [List.getElem?_cons_succ, List.take_succ_cons, List.forall_mem_cons,
                and_iff_right cut, ← ih]
              simp

/-- If no closing marker is found, then none of the lines has one. -/
theorem firstClosing?_eq_none {closing : Text} {lines : List Text}
    (missing : firstClosing? closing lines = none) : ∀ line ∈ lines, cutAt? closing line = none := by
  induction lines with
  | nil => exact List.forall_mem_nil _
  | cons line lines ih =>
      rw [firstClosing?] at missing
      cases cut : cutAt? closing line with
      | some place =>
          rw [cut] at missing
          cases missing
      | none =>
          rw [cut] at missing
          exact List.forall_mem_cons.mpr ⟨cut, ih (Option.map_eq_none_iff.mp missing)⟩

/-- The column of a rest is the number of characters before it. -/
theorem columnOfRest_append (front rest : Text) : columnOfRest (front ++ rest) rest = front.length := by
  rw [columnOfRest, List.length_append, Nat.add_sub_cancel]

/-- A line that comes after the first closing marker may be any other. -/
theorem firstClosing?_modify {closing : Text} {lines : List Text} {count column position : Nat}
    (found : firstClosing? closing lines = some (count, column)) (beyond : count < position)
    (change : Text → Text) :
    firstClosing? closing (lines.modify position change) = some (count, column) := by
  obtain ⟨⟨line, before, rest, here, cut, past⟩, earlier⟩ := firstClosing?_eq_some.mp found
  refine firstClosing?_eq_some.mpr ⟨⟨line, before, rest, ?_, cut, past⟩, ?_⟩
  · rw [List.getElem?_modify, here, Option.map_eq_map, Option.map_some, if_neg (Nat.ne_of_gt beyond)]
  · rwa [List.take_modify, List.modify_eq_self]
    exact Nat.le_trans (List.length_take_le _ _) (Nat.le_of_lt beyond)

/-- Anything may follow the first closing marker on its line. -/
theorem firstClosing?_retailed {closing : Text} {lines : List Text} {count column : Nat}
    (found : firstClosing? closing lines = some (count, column)) (tail : Text) :
    firstClosing? closing (lines.modify count fun line => line.take column ++ tail) =
      some (count, column) := by
  obtain ⟨⟨line, before, rest, here, cut, past⟩, earlier⟩ := firstClosing?_eq_some.mp found
  have whole := of_cutAt? cut
  rw [whole, columnOfRest_append] at past
  refine firstClosing?_eq_some.mpr ⟨⟨before ++ closing ++ tail, before, tail, ?_, ?_, ?_⟩, ?_⟩
  · rw [List.getElem?_modify, here, past, whole, Option.map_eq_map, Option.map_some, if_pos rfl,
      List.take_left]
  · exact cutAt?_exchange (whole ▸ cut) tail
  · rw [columnOfRest_append, past]
  · rwa [List.take_modify, List.modify_eq_self]
    exact List.length_take_le _ _

/-- The line on which a span ends, either by the rule for the line it begins on, or just past the
first closing marker of a later line. -/
inductive EndsOn (markers : Markers) (span : Span) (line : Text) : Prop
  | opening (rest : Text) (same : span.startLine = span.endLine)
      (opened : markers.opened? line = some rest)
      (ended : markers.endOnLine? line rest = some span.endColumn)
  | later (before rest : Text) (beyond : span.startLine < span.endLine)
      (cut : cutAt? markers.closing line = some (before, rest))
      (column : span.endColumn = columnOfRest line rest)

/-- A block does not end before it begins. -/
theorem EndsOn.ordered {markers : Markers} {span : Span} {line : Text}
    (ends : markers.EndsOn span line) : span.startLine ≤ span.endLine := by
  cases ends with
  | opening rest same opened ended => exact Nat.le_of_eq same
  | later before rest beyond cut column => exact Nat.le_of_lt beyond

/-- The span ends on one of the lines. -/
def EndsAt (markers : Markers) (index : Nat) (lines : List Text) (span : Span) : Prop :=
  ∃ line, lines[span.endLine - index]? = some line ∧ markers.EndsOn span line

/-- Where a block ends does not depend on the lines above it. -/
theorem EndsAt.of_drop {markers : Markers} {index : Nat} {lines : List Text} {span : Span}
    (count : Nat) (after : index + count ≤ span.startLine)
    (ends : markers.EndsAt (index + count) (lines.drop count) span) :
    markers.EndsAt index lines span := by
  obtain ⟨line, found, on⟩ := ends
  have ordered := on.ordered
  have position : count + (span.endLine - (index + count)) = span.endLine - index := by omega
  rw [List.getElem?_drop, position] at found
  exact ⟨line, found, on⟩

/-- Every block ends on a line that ends it. -/
theorem spans_end (markers : Markers) (index : Nat) (lines : List Text) :
    ∀ span ∈ markers.spans index lines, markers.EndsAt index lines span := by
  have next {index : Nat} {line : Text} {later : List Text}
      (ends : ∀ span ∈ markers.spans (index + 1) later, markers.EndsAt (index + 1) later span) :
      ∀ span ∈ markers.spans (index + 1) later, markers.EndsAt index (line :: later) span :=
    fun span member => .of_drop 1 (markers.spans_open _ _ span member).1 (ends span member)
  fun_induction spans markers index lines with
  | case1 => exact List.forall_mem_nil _
  | case2 index line later closed ih => exact next ih
  | case3 index line later rest opened column endColumn ending ih =>
      refine List.forall_mem_cons.mpr ⟨⟨line, ?_, .opening rest rfl opened ending⟩, next ih⟩
      simp
  | case4 index line later rest opened column unended before endColumn closed endLine ih =>
      refine List.forall_mem_cons.mpr ⟨?_, fun span member => ?_⟩
      · obtain ⟨⟨last, front, back, found, cut, past⟩, _⟩ := firstClosing?_eq_some.mp closed
        have position : endLine - index = before + 1 := by omega
        refine ⟨last, ?_, .later front back ?_ cut past⟩
        · rw [position]
          exact found
        · change index < endLine
          omega
      · have shifted : index + (before + 2) = endLine + 1 := by omega
        refine .of_drop (before + 2) ?_ ?_
        · rw [shifted]
          exact (markers.spans_open _ _ span member).1
        · rw [shifted]
          exact ih span member
  | case5 index line later rest opened unended unclosed ih => exact next ih

/-- A block that ends on a later line than it begins on is found whatever follows its closing
marker. -/
theorem mem_spans_retailed (markers : Markers) (tail : Text) (index : Nat) (lines : List Text) :
    ∀ span ∈ markers.spans index lines, span.startLine < span.endLine →
      span ∈ markers.spans index
        (lines.modify (span.endLine - index) fun line => line.take span.endColumn ++ tail) := by
  -- The line that ends a span is not the first one if that does not open the span.
  have below {index : Nat} {line : Text} {later : List Text} {span : Span}
      (member : span ∈ markers.spans (index + 1) later) (beyond : span.startLine < span.endLine)
      (change : Text → Text) : (line :: later).modify (span.endLine - index) change =
        line :: later.modify (span.endLine - (index + 1)) change := by
    have after := (markers.spans_open _ _ span member).1
    have position : span.endLine - index = span.endLine - (index + 1) + 1 := by omega
    rw [position, List.modify_succ_cons]
  fun_induction spans markers index lines with
  | case1 => exact List.forall_mem_nil _
  | case2 index line later closed ih =>
      intro span member beyond
      rw [below member beyond, spans, closed]
      exact ih span member beyond
  | case3 index line later rest opened column endColumn ending ih =>
      rintro span (_ | ⟨_, member⟩) beyond
      · exact absurd beyond (Nat.lt_irrefl index)
      · rw [below member beyond, spans, opened]
        dsimp only
        rw [ending]
        exact List.mem_cons_of_mem _ (ih span member beyond)
  | case4 index line later rest opened column unended before endColumn closed endLine ih =>
      rintro span (_ | ⟨_, member⟩) beyond
      · have position : endLine - index = before + 1 := by omega
        dsimp only
        rw [position, List.modify_succ_cons, spans, opened]
        dsimp only
        rw [unended, firstClosing?_retailed closed tail]
        exact List.mem_cons_self
      · have after := (markers.spans_open _ _ span member).1
        have position : span.endLine - index =
            span.endLine - (endLine + 1) + (before + 1) + 1 := by omega
        rw [position, List.modify_succ_cons, spans, opened]
        dsimp only
        rw [unended, firstClosing?_modify closed (by omega)]
        dsimp only
        rw [List.drop_modify_of_ge _ _ _ _ (Nat.le_add_left _ _), Nat.add_sub_cancel]
        exact List.mem_cons_of_mem _ (ih span member beyond)
  | case5 index line later rest opened unended unclosed ih =>
      intro span member beyond
      obtain ⟨last, found, ends⟩ := markers.spans_end _ _ span member
      have uncut := firstClosing?_eq_none unclosed last (List.mem_of_getElem? found)
      cases ends with
      | opening rest same => exact absurd same (Nat.ne_of_lt beyond)
      | later front back _ cut => cases uncut.symm.trans cut

/-- A block that ends on the line it opens on does so by a closing marker behind its opening
marker. -/
structure Sound (markers : Markers) : Prop where
  opened : ∀ line rest, markers.opened? line = some rest → rest <:+ line
  ended : ∀ line rest column, markers.opened? line = some rest →
    markers.endOnLine? line rest = some column →
      ∃ inner tail, rest = inner ++ markers.closing ++ tail ∧ column = columnOfRest line tail

/-- A comment that ends on the line it opens on ends with a closing marker. -/
theorem comments_sound : comments.Sound where
  opened line rest opened := by
    have body : trimStart line = "/**".toList ++ rest :=
      (after?_eq_some _ _ _).mp (Option.filter_eq_some_iff.mp opened).1
    exact (body ▸ List.suffix_append _ _ : rest <:+ trimStart line).trans (List.dropWhile_suffix _)
  ended line rest column opened ended := by
    obtain ⟨tail, last, rfl⟩ := Option.map_eq_some_iff.mp ended
    obtain ⟨inner, whole⟩ := of_afterLast? last
    exact ⟨inner, tail, whole, rfl⟩

/-- What stands before the rest of a line that opens a string: white space, at most one letter, and
the quotes. -/
inductive OpensString (quotes : Text) : Text → Prop
  | plain (blanks : Text) (blank : ∀ character ∈ blanks, isBlank character = true) :
      OpensString quotes (blanks ++ quotes)
  | lettered (blanks : Text) (blank : ∀ character ∈ blanks, isBlank character = true) (letter : Char)
      (allowed : letter ∈ stringLetters) : OpensString quotes (blanks ++ letter :: quotes)

theorem visible_of_letter {letter : Char} (allowed : letter ∈ stringLetters) :
    isBlank letter = false := by
  have visible : (stringLetters.all fun letter => !isBlank letter) = true := by decide
  simpa using List.all_eq_true.mp visible letter allowed

/-- A string is opened by its quotes, with white space and one letter before them at most. -/
theorem strings_opened {quotes : Text} (quoting : Pattern.Quoting quotes) {line rest : Text} :
    (strings quotes).opened? line = some rest ↔
      ∃ front, OpensString quotes front ∧ line = front ++ rest := by
  obtain ⟨first, starts, visible, noLetter⟩ := quoting.starts
  have begins : (quotes ++ rest).head? = some first := by
    rw [List.head?_append, starts]
    rfl
  have opens : (strings quotes).opened? line = some rest ↔
      trimStart line = quotes ++ rest ∨
        ∃ letter ∈ stringLetters, trimStart line = letter :: (quotes ++ rest) :=
    (after?_eq_some _ _ _).trans (withoutLetter_eq_iff begins noLetter)
  rw [opens]
  constructor
  · have whole : line = line.takeWhile isBlank ++ trimStart line :=
      List.takeWhile_append_dropWhile.symm
    have blank : ∀ character ∈ line.takeWhile isBlank, isBlank character = true :=
      fun character member => List.mem_takeWhile_imp member
    rintro (body | ⟨letter, allowed, body⟩)
    · exact ⟨_, .plain _ blank, by rw [List.append_assoc, ← body, ← whole]⟩
    · exact ⟨_, .lettered _ blank letter allowed, by
        rw [List.append_assoc, List.cons_append, ← body, ← whole]⟩
  · rintro ⟨front, opening, rfl⟩
    cases opening with
    | plain blanks blank =>
        rw [List.append_assoc, trimStart_append blanks begins visible, trimStart_eq_nil.mpr blank]
        exact Or.inl rfl
    | lettered blanks blank letter allowed =>
        rw [List.append_assoc, trimStart_append blanks rfl (visible_of_letter allowed),
          trimStart_eq_nil.mpr blank]
        exact Or.inr ⟨letter, allowed, rfl⟩

/-- Quotes at the visible end of a line are followed by white space, others by anything. -/
theorem strings_sound {quotes : Text} (quoting : Pattern.Quoting quotes) : (strings quotes).Sound where
  opened line rest opened := by
    obtain ⟨front, _, whole⟩ := (strings_opened quoting).mp opened
    exact ⟨front, whole.symm⟩
  ended line rest column opened ended := by
    obtain ⟨front, _, whole⟩ := (strings_opened quoting).mp opened
    change (if quotes <:+ trimEnd rest then some (trimEnd line).length else _) = some column at ended
    split at ended
    · rename_i atEnd
      obtain ⟨inner, closed⟩ := atEnd
      obtain ⟨blanks, trimmed, blank⟩ := exists_blanks rest
      rw [← closed] at trimmed
      have divided : line = front ++ inner ++ quotes ++ blanks := by
        rw [whole, trimmed]
        simp only [List.append_assoc]
      refine ⟨inner, blanks, trimmed, ?_⟩
      rw [← Option.some.inj ended, divided, columnOfRest_append,
        (quoting.solid.append _).trimEnd_append blank]
    · obtain ⟨⟨before, tail⟩, cut, rfl⟩ := Option.map_eq_some_iff.mp ended
      exact ⟨before, tail, of_cutAt? cut, rfl⟩

/-- The line on which a block ends is divided by its end column just past a closing marker. -/
theorem EndsOn.closed {markers : Markers} (sound : markers.Sound) {span : Span} {line : Text}
    (ends : markers.EndsOn span line) :
    ∃ front tail, line = front ++ markers.closing ++ tail ∧
      span.endColumn = (front ++ markers.closing).length := by
  cases ends with
  | opening rest same opened ended =>
      obtain ⟨inner, tail, behind, column⟩ := sound.ended line rest _ opened ended
      obtain ⟨front, whole⟩ := sound.opened line rest opened
      have divided : line = front ++ inner ++ markers.closing ++ tail := by
        rw [← whole, behind]
        simp only [List.append_assoc]
      refine ⟨front ++ inner, tail, divided, ?_⟩
      rw [column, divided, columnOfRest_append]
  | later before rest beyond cut column =>
      refine ⟨before, rest, of_cutAt? cut, ?_⟩
      rw [column, of_cutAt? cut, columnOfRest_append]

end Markers

end DocBlocks
