/-
This file shows that the text of a block is dedented: its lines lose one margin of white space and
nothing that can be seen.
-/

import DocBlocks.Preview.Content
import DocBlocks.Proofs.Preview.Limits
import DocBlocks.Proofs.Preview.Slices
import DocBlocks.Proofs.Text.Search
import DocBlocks.Proofs.Text.Slice

namespace DocBlocks

namespace Text

/-- The white space before the text of a line. -/
def margin (line : Text) : Text :=
  line.takeWhile isBlank

/-- A line is its margin and its text. -/
theorem margin_append_trimStart (line : Text) : margin line ++ trimStart line = line :=
  List.takeWhile_append_dropWhile

theorem allBlank_margin (line : Text) : allBlank (margin line) = true :=
  List.all_eq_true.mpr fun _ member => List.mem_takeWhile_imp member

theorem ne_nil_of_visible {text : Text} (visible : allBlank text = false) : text ≠ [] := by
  rintro rfl
  cases visible

theorem allBlank_append (front back : Text) :
    allBlank (front ++ back) = (allBlank front && allBlank back) :=
  List.all_append

/-- A line is blank with its margin if it is blank without it. -/
theorem allBlank_trimStart (line : Text) : allBlank (trimStart line) = allBlank line := by
  nth_rewrite 2 [← margin_append_trimStart line]
  rw [allBlank_append, allBlank_margin, Bool.true_and]

/-- White space is trimmed only behind what can be seen. -/
theorem trimEnd_append (front : Text) {back : Text} (visible : allBlank back = false) :
    trimEnd (front ++ back) = front ++ trimEnd back := by
  obtain ⟨blanks, whole, blank⟩ := exists_blanks back
  nth_rewrite 1 [whole]
  rw [← List.append_assoc]
  exact ((solid_trimEnd visible).append front).trimEnd_append blank

/-- Something visible is left of a line that is not blank. -/
theorem allBlank_trim {line : Text} (visible : allBlank line = false) : allBlank line.trim = false := by
  obtain ⟨front, last, whole, seen⟩ := solid_trimEnd (allBlank_trimStart line ▸ visible)
  rw [trim, whole, allBlank_append]
  simp [allBlank, seen]

/-- White space stops at the first visible character. -/
theorem margin_append_trim {blanks line : Text} (blank : allBlank blanks = true)
    (visible : allBlank line = false) : margin (blanks ++ line.trim) = blanks := by
  have present : line.trim ≠ [] := ne_nil_of_visible (allBlank_trim visible)
  obtain ⟨first, starts, seen⟩ := head_trim present
  rw [margin, List.takeWhile_append_of_pos (List.all_eq_true.mp blank)]
  cases shape : line.trim with
  | nil => exact absurd shape present
  | cons character rest =>
      rw [shape] at starts
      cases starts
      rw [List.takeWhile_cons_of_neg (by simp [seen]), List.append_nil]

theorem byteLength_eq_zero {text : Text} : byteLength text = 0 ↔ text = [] := by
  cases text with
  | nil => simp
  | cons character rest =>
      have size := character.utf8Size_pos
      simp only [byteLength_cons, reduceCtorEq, iff_false]
      omega

/-- Of two beginnings of a text, that with fewer bytes is the beginning of the other. -/
theorem prefix_of_byteLength_le {one other text : Text} (first : one <+: text) (second : other <+: text)
    (shorter : byteLength one ≤ byteLength other) : one <+: other := by
  rcases List.prefix_or_prefix_of_prefix first second with starts | ⟨rest, rfl⟩
  · exact starts
  · have none : rest = [] := by
      rw [← byteLength_eq_zero]
      rw [byteLength_append] at shorter
      omega
    rw [none, List.append_nil]

/-- A line that can be seen, with nothing but ASCII characters in its margin. -/
structure PlainlyIndented (line : Text) : Prop where
  visible : allBlank line = false
  ascii : ∀ character ∈ margin line, character.toNat < 128

/-- ASCII characters take one byte each. -/
theorem byteLength_ascii {text : Text} (ascii : ∀ character ∈ text, character.toNat < 128) :
    byteLength text = text.length := by
  induction text with
  | nil => rfl
  | cons character rest ih =>
      obtain ⟨here, later⟩ := List.forall_mem_cons.mp ascii
      have size : character.utf8Size = 1 := Char.utf8Size_eq_one_iff.mpr (by
        rw [UInt32.le_iff_toNat_le]
        exact Nat.le_of_lt_succ here)
      rw [byteLength_cons, size, ih later, List.length_cons, Nat.add_comm]

/-- The second text is the first one without some white space at its ends. -/
def Trims (line kept : Text) : Prop :=
  ∃ front back, line = front ++ kept ++ back ∧ allBlank front = true ∧ allBlank back = true

end Text

namespace Family

open Text

section

variable {line : Text} {indent : Nat}

/-- A blank line becomes empty. -/
theorem dedent_blank (blank : allBlank line = true) : dedent indent line = [] := by
  refine trimEnd_blank ?_
  cases cut : line.dropBytes? indent with
  | none => exact (allBlank_trimStart line).trans blank
  | some rest =>
      obtain ⟨⟨front, _⟩, divided, rfl⟩ := Option.map_eq_some_iff.mp cut
      rw [(of_splitAtByte? divided).1, allBlank_append, Bool.and_eq_true] at blank
      exact blank.2

/-- A visible line keeps its text and the part of its margin that stands behind the indentation. -/
theorem dedent_visible (visible : allBlank line = false) (within : indent ≤ indentOf line) :
    ∃ cut kept, margin line = cut ++ kept ∧ dedent indent line = kept ++ line.trim ∧
      (byteLength cut = indent ∨ kept = []) := by
  have seen : allBlank line.trimStart = false := (allBlank_trimStart line).trans visible
  unfold dedent
  cases dropped : line.dropBytes? indent with
  | none => exact ⟨margin line, [], (List.append_nil _).symm, rfl, Or.inr rfl⟩
  | some tail =>
      obtain ⟨⟨cut, rest⟩, divided, rfl⟩ := Option.map_eq_some_iff.mp dropped
      obtain ⟨whole, length⟩ := of_splitAtByte? divided
      obtain ⟨kept, parts⟩ : cut <+: margin line :=
        prefix_of_byteLength_le ⟨rest, whole.symm⟩ (List.takeWhile_prefix _) (length ▸ within)
      have behind : rest = kept ++ line.trimStart := by
        have divided : cut ++ rest = cut ++ (kept ++ line.trimStart) := by
          rw [← whole, ← List.append_assoc, parts, margin_append_trimStart]
        exact List.append_cancel_left divided
      refine ⟨cut, kept, parts.symm, ?_, Or.inl length.symm⟩
      rw [Option.getD_some, behind, trimEnd_append kept seen]
      rfl

/-- A line loses nothing but white space if the indent is no wider than its own. -/
theorem dedent_trims (within : allBlank line = false → indent ≤ indentOf line) :
    Trims line (dedent indent line) := by
  cases visible : allBlank line with
  | true => exact ⟨line, [], by simp [dedent_blank visible], visible, rfl⟩
  | false =>
      obtain ⟨cut, kept, parts, shown, _⟩ := dedent_visible visible (within visible)
      obtain ⟨blanks, whole, blank⟩ := exists_blanks line.trimStart
      have front : allBlank cut = true := by
        have all := allBlank_margin line
        rw [parts, allBlank_append, Bool.and_eq_true] at all
        exact all.1
      refine ⟨cut, blanks, ?_, front, List.all_eq_true.mpr blank⟩
      calc
        line = margin line ++ line.trimStart := (margin_append_trimStart line).symm
        _ = cut ++ kept ++ (line.trim ++ blanks) := by rw [parts, trim, ← whole]
        _ = cut ++ dedent indent line ++ blanks := by rw [shown]; simp only [List.append_assoc]

/-- A line that is not blank does not become so. -/
theorem allBlank_dedent (visible : allBlank line = false) (within : indent ≤ indentOf line) :
    allBlank (dedent indent line) = false := by
  obtain ⟨cut, kept, _, shown, _⟩ := dedent_visible visible within
  rw [shown, allBlank_append, allBlank_trim visible, Bool.and_false]

/-- A line with no more than the common indentation is left without a margin. -/
theorem margin_dedent_least (visible : allBlank line = false) (least : indentOf line = indent) :
    margin (dedent indent line) = [] := by
  obtain ⟨cut, kept, parts, shown, cutAll⟩ := dedent_visible visible (Nat.le_of_eq least.symm)
  have none : kept = [] := by
    refine cutAll.elim (fun length => ?_) id
    have total : byteLength cut + byteLength kept = indent := by
      rw [← byteLength_append, ← parts]
      exact least
    rw [← byteLength_eq_zero]
    omega
  rw [shown, none]
  exact margin_append_trim rfl visible

/-- A margin of ASCII characters is shortened by as many characters as there are bytes to take
off. -/
theorem margin_dedent_plain (plain : PlainlyIndented line) (within : indent ≤ indentOf line) :
    (margin (dedent indent line)).length + indent = (margin line).length := by
  have bytes : indentOf line = (margin line).length := byteLength_ascii plain.ascii
  have taken : byteLength ((margin line).take indent) = indent := by
    rw [byteLength_ascii fun character member => plain.ascii character (List.mem_of_mem_take member),
      List.length_take_of_le (bytes ▸ within)]
  have whole : line = (margin line).take indent ++ ((margin line).drop indent ++ line.trimStart) := by
    rw [← List.append_assoc, List.take_append_drop, margin_append_trimStart]
  have shown : dedent indent line = (margin line).drop indent ++ line.trim := by
    have dropped := dropBytes?_append ((margin line).take indent)
      ((margin line).drop indent ++ line.trimStart)
    rw [taken, ← whole] at dropped
    rw [dedent, dropped, Option.getD_some,
      trimEnd_append _ ((allBlank_trimStart line).trans plain.visible)]
    rfl
  have blank : allBlank ((margin line).drop indent) = true :=
    List.all_eq_true.mpr fun character member =>
      List.all_eq_true.mp (allBlank_margin line) character (List.mem_of_mem_drop member)
  rw [shown, margin_append_trim blank plain.visible, List.length_drop]
  omega

end

/-- The common indentation is that of the visible line with the least. -/
theorem commonIndent_least {lines : List Text} {line : Text} (member : line ∈ lines)
    (visible : allBlank line = false) :
    commonIndent lines ≤ indentOf line ∧
      ∃ least ∈ lines, allBlank least = false ∧ indentOf least = commonIndent lines := by
  have listed {line : Text} (member : line ∈ lines) (visible : allBlank line = false) :
      indentOf line ∈ (lines.filter fun line => !line.allBlank).map indentOf :=
    List.mem_map_of_mem (List.mem_filter.mpr ⟨member, by simp [visible]⟩)
  cases found : ((lines.filter fun line => !line.allBlank).map indentOf).min? with
  | none =>
      rw [List.min?_eq_none_iff] at found
      exact absurd (found ▸ listed member visible) List.not_mem_nil
  | some indent =>
      obtain ⟨reached, below⟩ := List.min?_eq_some_iff.mp found
      have common : commonIndent lines = indent := by rw [commonIndent, found, Option.getD_some]
      obtain ⟨least, leastMember, same⟩ := List.mem_map.mp reached
      obtain ⟨inside, seen⟩ := List.mem_filter.mp leastMember
      rw [common]
      exact ⟨below _ (listed member visible), least, inside, by simpa using seen, same⟩

/-- Only blank lines stand before and after the body. -/
theorem body_divides (lines : List Text) :
    ∃ front back, lines = front ++ body lines ++ back ∧ (∀ line ∈ front, allBlank line = true) ∧
      ∀ line ∈ back, allBlank line = true := by
  have behind : lines.dropWhile allBlank =
      body lines ++ ((lines.dropWhile allBlank).reverse.takeWhile allBlank).reverse := by
    rw [body, ← List.reverse_append, List.takeWhile_append_dropWhile, List.reverse_reverse]
  refine ⟨lines.takeWhile allBlank, ((lines.dropWhile allBlank).reverse.takeWhile allBlank).reverse, ?_,
    fun line member => List.mem_takeWhile_imp member,
    fun line member => List.mem_takeWhile_imp (List.mem_reverse.mp member)⟩
  rw [List.append_assoc, ← behind, List.takeWhile_append_dropWhile]

/-- The last line of the body can be seen. -/
theorem body_last {lines : List Text} {last : Text} (ends : (body lines).getLast? = some last) :
    allBlank last = false := by
  rw [body, List.getLast?_reverse] at ends
  have seen := List.head?_dropWhile_not allBlank (lines.dropWhile allBlank).reverse
  rw [ends] at seen
  simpa using seen

/-- The first line of the body can be seen. -/
theorem body_head {lines : List Text} {first : Text} (starts : (body lines).head? = some first) :
    allBlank first = false := by
  have inner : body lines <+: lines.dropWhile allBlank := by
    rw [body, ← List.reverse_suffix, List.reverse_reverse]
    exact List.dropWhile_suffix _
  obtain ⟨back, whole⟩ := inner
  have seen := List.head?_dropWhile_not allBlank lines
  rw [← whole, List.head?_append, starts] at seen
  simpa using seen

section

variable (line : Text)

/-- The text of a line is a piece of it. -/
theorem trimStart_isInfix : line.trimStart <:+: line :=
  (List.dropWhile_suffix _).isInfix

/-- What follows a marker is a piece of the line. -/
theorem after?_isInfix (marker : Text) : ((after? marker line).getD line) <:+: line := by
  cases found : after? marker line with
  | none => exact List.infix_refl line
  | some rest =>
      rw [Option.getD_some, (after?_eq_some _ _ _).mp found]
      exact (List.suffix_append marker rest).isInfix

/-- What stands before quotes is a piece of the line. -/
theorem beforeQuotes_isInfix : beforeQuotes line <:+: line := by
  unfold beforeQuotes
  dsimp only
  split
  · exact (before_isPrefix _ _).isInfix
  · exact (before_isPrefix _ _).isInfix

/-- A line without its slashes is a piece of it. -/
theorem stripSlashes_isInfix : stripSlashes line <:+: line := by
  refine List.IsInfix.trans ?_ (trimStart_isInfix line)
  have first := after?_isInfix line.trimStart ['/', '/', '/']
  unfold stripSlashes
  dsimp only
  cases found : after? ['/', '/', '/'] line.trimStart with
  | none => exact after?_isInfix line.trimStart ['/', '/', '!']
  | some rest => rwa [found] at first

/-- What stands before the end of a comment is a piece of the line. -/
theorem beforeClosing_isInfix :
    (match cutAt? ['*', '/'] line with
      | some (inside, _) => dropStarsAtEnd inside
      | none => line) <:+: line := by
  cases found : cutAt? ['*', '/'] line with
  | none => exact List.infix_refl line
  | some parts =>
      obtain ⟨inside, rest⟩ := parts
      have kept : dropStarsAtEnd inside <+: inside := by
        rw [dropStarsAtEnd, ← List.reverse_suffix, List.reverse_reverse]
        exact List.dropWhile_suffix _
      refine (kept.trans ?_).isInfix
      rw [of_cutAt? found, List.append_assoc]
      exact List.prefix_append _ _

/-- A line without its stars is a piece of it. -/
theorem dropStars_isInfix (opened : Bool) :
    (if opened = true then dropStars line else line) <:+: line := by
  split
  · exact (List.dropWhile_suffix _).isInfix
  · exact List.infix_refl line

/-- A line of a comment loses its markers at the ends and nothing inside. -/
theorem stripCommentLine_isInfix : stripCommentLine line <:+: line := by
  have opened := (after?_isInfix line.trimStart ['/', '*', '*']).trans (trimStart_isInfix line)
  have closed := (beforeClosing_isInfix _).trans opened
  have starred := (dropStars_isInfix _ (after? ['/', '*', '*'] line.trimStart).isSome).trans closed
  unfold stripCommentLine
  dsimp only
  split
  · rename_i rest star
    have behind := List.suffix_cons '*' rest
    rw [← star] at behind
    exact (behind.isInfix.trans (trimStart_isInfix _)).trans starred
  · exact starred

end

/-- What is left of a line without markers stood together on the line. -/
theorem stripMarkers_isInfix {family : Family} {raw line : Text}
    (member : line ∈ family.stripMarkers raw) :
    ∃ whole ∈ raw.lines, line <:+: whole := by
  cases family with
  | blockComment =>
      obtain ⟨whole, inside, rfl⟩ := List.mem_map.mp member
      exact ⟨whole, inside, stripCommentLine_isInfix whole⟩
  | linePrefix =>
      obtain ⟨whole, inside, rfl⟩ := List.mem_map.mp member
      exact ⟨whole, inside, stripSlashes_isInfix whole⟩
  | tripleQuote =>
      rw [stripMarkers, stripQuotes] at member
      cases shape : raw.lines with
      | nil =>
          rw [shape] at member
          cases member
      | cons first others =>
          rw [shape] at member
          cases opening : openingQuotes? first with
          | none =>
              simp only [opening] at member
              rw [← List.map_cons (f := beforeQuotes)] at member
              obtain ⟨whole, inside, rfl⟩ := List.mem_map.mp member
              exact ⟨whole, inside, beforeQuotes_isInfix whole⟩
          | some parts =>
              obtain ⟨quotes, rest⟩ := parts
              simp only [opening] at member
              rcases List.mem_cons.mp member with rfl | later
              · refine ⟨first, List.mem_cons_self, (before_isPrefix quotes rest).isInfix.trans ?_⟩
                rw [openingQuotes?_parts opening, ← List.append_assoc, ← List.append_assoc]
                exact (List.suffix_append _ rest).isInfix
              · obtain ⟨whole, inside, rfl⟩ := List.mem_map.mp later
                exact ⟨whole, List.mem_cons_of_mem _ inside, (before_isPrefix quotes whole).isInfix⟩

/-- The first and the last index of a line that is not blank. -/
structure Extent (lines : List Text) (first last : Nat) : Prop where
  opens : ∃ line, lines[first]? = some line ∧ allBlank line = false
  closes : ∃ line, lines[last]? = some line ∧ allBlank line = false
  within : ∀ index line, lines[index]? = some line → allBlank line = false →
    first ≤ index ∧ index ≤ last

/-- What is shown of lines: each from the first visible one to the last, without white space at its
ends. A part of the margin is kept, and the same part is missing wherever the margin is ASCII. -/
structure Dedents (lines shown : List Text) (first last : Nat) : Prop where
  extent : Extent lines first last
  length : shown.length = last - first + 1
  trims : ∀ index kept, shown[index]? = some kept → ∃ line, lines[first + index]? = some line ∧
    Trims line kept ∧ (allBlank line = true → kept = [])
  opening : ∃ line, shown.head? = some line ∧ allBlank line = false
  ending : ∃ line, shown.getLast? = some line ∧ allBlank line = false
  flush : ∃ line ∈ shown, ∃ character, line.head? = some character ∧ isBlank character = false
  aligned : ∀ index other line next kept keptNext,
    lines[first + index]? = some line → shown[index]? = some kept → PlainlyIndented line →
    lines[first + other]? = some next → shown[other]? = some keptNext → PlainlyIndented next →
    ((margin line).length : Int) - (margin next).length =
      (margin kept).length - (margin keptNext).length

section

variable {lines : List Text}

/-- No line that is not blank is left out. -/
theorem mem_body {line : Text} (member : line ∈ lines) (visible : allBlank line = false) :
    line ∈ body lines := by
  obtain ⟨front, back, whole, frontBlank, backBlank⟩ := body_divides lines
  rw [whole, List.mem_append, List.mem_append] at member
  rcases member with (before | inside) | behind
  · exact absurd ((frontBlank line before).symm.trans visible) (by decide)
  · exact inside
  · exact absurd ((backBlank line behind).symm.trans visible) (by decide)

/-- Lines are blank, or their body runs from the first visible one to the last. -/
theorem body_extent (present : body lines ≠ []) :
    ∃ first last, Extent lines first last ∧ (body lines).length = last - first + 1 ∧
      ∀ index, index < (body lines).length → lines[first + index]? = (body lines)[index]? := by
  obtain ⟨front, back, whole, frontBlank, backBlank⟩ := body_divides lines
  have long : 0 < (body lines).length := List.length_pos_of_ne_nil present
  have inside (index : Nat) (short : index < (body lines).length) :
      lines[front.length + index]? = (body lines)[index]? := by
    rw [whole, List.append_assoc, List.getElem?_append_right (Nat.le_add_right _ _),
      Nat.add_sub_cancel_left, List.getElem?_append_left short, ← List.append_assoc, ← whole]
  have starts := List.head?_eq_some_head present
  have ends := List.getLast?_eq_some_getLast present
  refine ⟨front.length, front.length + ((body lines).length - 1), ⟨?_, ?_, ?_⟩, by omega, inside⟩
  · refine ⟨_, ?_, body_head starts⟩
    rw [← starts, List.head?_eq_getElem?, ← inside 0 long, Nat.add_zero]
  · refine ⟨_, ?_, body_last ends⟩
    rw [← ends, List.getLast?_eq_getElem?, inside _ (by omega)]
  · intro index line found visible
    rw [whole] at found
    -- Before the body and behind it a line is blank.
    by_cases early : index < front.length
    · rw [List.append_assoc, List.getElem?_append_left early] at found
      have blank := frontBlank line (List.mem_of_getElem? found)
      exact absurd (blank.symm.trans visible) (by decide)
    · by_cases late : front.length + (body lines).length ≤ index
      · rw [List.getElem?_append_right (by rw [List.length_append]; exact late)] at found
        have blank := backBlank line (List.mem_of_getElem? found)
        exact absurd (blank.symm.trans visible) (by decide)
      · omega

/-- A line without a margin begins with a visible character. -/
theorem head?_of_margin {text : Text} (flush : margin text = []) (visible : allBlank text = false) :
    ∃ character, text.head? = some character ∧ isBlank character = false := by
  cases text with
  | nil => cases visible
  | cons character rest =>
      refine ⟨character, rfl, Bool.eq_false_iff.mpr fun blank => ?_⟩
      rw [margin, List.takeWhile_cons_of_pos blank] at flush
      cases flush

/-- The body without the common indentation shows the lines that it is made of. -/
theorem body_dedents (present : body lines ≠ []) :
    ∃ first last, Dedents lines ((body lines).map (dedent (commonIndent (body lines)))) first last := by
  obtain ⟨first, last, extent, length, inside⟩ := body_extent present
  have within {line : Text} (member : line ∈ body lines) (visible : allBlank line = false) :
      commonIndent (body lines) ≤ indentOf line :=
    (commonIndent_least member visible).1
  have origin {index : Nat} {kept : Text}
      (shown : ((body lines).map (dedent (commonIndent (body lines))))[index]? = some kept) :
      ∃ line ∈ body lines, lines[first + index]? = some line ∧
        kept = dedent (commonIndent (body lines)) line := by
    rw [List.getElem?_map] at shown
    obtain ⟨line, found, same⟩ := Option.map_eq_some_iff.mp shown
    obtain ⟨short, _⟩ := List.getElem?_eq_some_iff.mp found
    exact ⟨line, List.mem_of_getElem? found, (inside index short).trans found, same.symm⟩
  have starts := List.head?_eq_some_head present
  have ends := List.getLast?_eq_some_getLast present
  refine ⟨first, last, extent, by rw [List.length_map, length], ?_, ?_, ?_, ?_, ?_⟩
  · intro index kept shown
    obtain ⟨line, member, found, rfl⟩ := origin shown
    exact ⟨line, found, dedent_trims (within member), dedent_blank⟩
  · refine ⟨_, by rw [List.head?_map, starts, Option.map_some], ?_⟩
    exact allBlank_dedent (body_head starts) (within (List.head_mem present) (body_head starts))
  · refine ⟨_, by rw [List.getLast?_map, ends, Option.map_some], ?_⟩
    exact allBlank_dedent (body_last ends) (within (List.getLast_mem present) (body_last ends))
  · obtain ⟨_, least, member, visible, reached⟩ :=
      commonIndent_least (List.head_mem present) (body_head starts)
    exact ⟨_, List.mem_map_of_mem member, head?_of_margin (margin_dedent_least visible reached)
      (allBlank_dedent visible (within member visible))⟩
  · intro index other line next kept keptNext found shown plain foundNext shownNext plainNext
    obtain ⟨_, member, sameLine, rfl⟩ := origin shown
    obtain ⟨_, memberNext, sameNext, rfl⟩ := origin shownNext
    cases found.symm.trans sameLine
    cases foundNext.symm.trans sameNext
    -- Both margins are shorter by the common indentation.
    have cut := margin_dedent_plain plain (within member plain.visible)
    have cutNext := margin_dedent_plain plainNext (within memberNext plainNext.visible)
    omega

end

/-- Nothing is left of lines that are all blank. -/
theorem body_blank {lines : List Text} (blank : ∀ line ∈ lines, allBlank line = true) :
    body lines = [] := by
  rw [body, List.dropWhile_eq_nil_iff.mpr blank]
  rfl

/-- Without markers the lines are still lines. -/
theorem stripMarkers_feedless {family : Family} {raw line : Text}
    (member : line ∈ family.stripMarkers raw) : '\n' ∉ line := by
  obtain ⟨whole, lined, part⟩ := stripMarkers_isInfix member
  exact fun feed => lines_no_feed raw whole lined (part.subset feed)

/-- What is shown of a line holds no line feed either. -/
theorem dedent_feedless {family : Family} {raw line : Text}
    (member : line ∈ body (family.stripMarkers raw)) :
    '\n' ∉ dedent (commonIndent (body (family.stripMarkers raw))) line := by
  obtain ⟨front, back, divided, _⟩ := body_divides (family.stripMarkers raw)
  have listed : line ∈ family.stripMarkers raw := by
    rw [divided, List.mem_append, List.mem_append]
    exact Or.inl (Or.inr member)
  obtain ⟨before, behind, parts, _⟩ :=
    dedent_trims fun visible => (commonIndent_least member visible).1
  intro feed
  apply stripMarkers_feedless listed
  rw [parts]
  exact List.mem_append_left _ (List.mem_append_right _ feed)

/-- The lines of the whole text of a block can be told apart. -/
theorem splitOn_content {family : Family} {raw : Text} (present : body (family.stripMarkers raw) ≠ []) :
    (family.content raw).splitOn '\n' = (body (family.stripMarkers raw)).map
      (dedent (commonIndent (body (family.stripMarkers raw)))) := by
  apply splitOn_joinLines (by simpa using present)
  intro shown member
  obtain ⟨line, inside, rfl⟩ := List.mem_map.mp member
  exact dedent_feedless inside

/-- The whole text of a block is empty if there is nothing to see on its lines without markers.
Otherwise it shows them dedented. -/
theorem content_dedents (family : Family) (raw : Text) :
    let lines := family.stripMarkers raw
    let content := family.content raw
    let shown := content.splitOn '\n'
    if lines.all allBlank then content = []
    else content = joinLines shown ∧ ∃ first last, Dedents lines shown first last := by
  intro lines content shown
  split
  · rename_i blank
    have none : body lines = [] := body_blank (List.all_eq_true.mp blank)
    change joinLines ((body lines).map _) = []
    rw [none]
    rfl
  · rename_i seen
    obtain ⟨line, member, visible⟩ := List.all_eq_false.mp (Bool.eq_false_iff.mpr seen)
    have present : body lines ≠ [] :=
      List.ne_nil_of_mem (mem_body member (Bool.eq_false_iff.mpr visible))
    refine ⟨(List.intercalate_splitOn '\n').symm, ?_⟩
    rw [show shown = _ from splitOn_content present]
    exact body_dedents present

/-- The least margin has two bytes, which would split a wide space. -/
theorem content_dedents_wide :
    let raw := "///\u3000\u3000wide\n///  two \n///\n///\t   four\n/// ".toList
    linePrefix.content raw = "wide\ntwo\n\n  four".toList ∧
      ∃ first last, Dedents (linePrefix.stripMarkers raw) ((linePrefix.content raw).splitOn '\n')
        first last := by
  intro raw
  have dedented := content_dedents linePrefix raw
  dsimp only at dedented
  rw [if_neg (by decide +kernel)] at dedented
  exact ⟨by decide +kernel, dedented.2⟩

end Family

end DocBlocks
