/-
This file compares the lines that detection counts with those that edits count. Detection ends lines
at line feeds only, the editor at every line break, so that from the first other line break on an
edit that is meant for one line changes another.
-/

import DocBlocks.Hover
import DocBlocks.Proofs.Detection.Blocks
import DocBlocks.Proofs.Detection.Spelling
import DocBlocks.Proofs.Document.Offset

namespace DocBlocks

namespace Text

/-- A text divided after the first line that detection finds in it. -/
inductive Opens : (text line ending rest : Text) → Prop
  | feed {line ending rest : Text} : ending = ['\n'] ∨ ending = ['\r', '\n'] →
    lines (line ++ ending ++ rest) = line :: lines rest →
    Opens (line ++ ending ++ rest) line ending rest
  | last {line : Text} : lines line = [line] → Opens line line [] []

/-- Detection finds a first line in any text that is not empty. -/
theorem exists_opens {text : Text} (present : text ≠ []) :
    ∃ line ending rest, Opens text line ending rest := by
  obtain ⟨parts, spells⟩ : ∃ parts, Spells parts text := ⟨text.lines, spells_iff.mpr rfl⟩
  cases spells with
  | empty => exact absurd rfl present
  | unended _ feedless => exact ⟨text, [], [], .last (lines_of_feedless present feedless)⟩
  | @ended line ending rest _ feedless ends =>
      have divided := ends.lines feedless rest
      rw [← List.append_assoc] at divided ⊢
      exact ⟨line, ending, rest, .feed (ends.symm.imp_left And.left) divided⟩

/-- Detection finds a first line wherever there is a line at all. -/
theorem exists_opens_of_line {text : Text} {index : Nat} (inside : index < text.lines.length) :
    ∃ line ending rest, Opens text line ending rest := by
  refine exists_opens fun empty => ?_
  rw [empty] at inside
  exact absurd inside (Nat.not_lt_zero index)

section Opens

variable {text line ending rest : Text}

theorem Opens.lines (opens : Opens text line ending rest) : text.lines = line :: rest.lines := by
  cases opens with
  | feed _ divided => exact divided
  | last alone => exact alone

/-- A text is its first line, the ending of that line, and the rest. -/
theorem Opens.whole (opens : Opens text line ending rest) : text = line ++ (ending ++ rest) := by
  cases opens with
  | feed => exact List.append_assoc _ _ _
  | last => exact (List.append_nil _).symm

/-- A line ends with a line feed, which may have a carriage return before it, or with the text. -/
theorem Opens.ending_plain (opens : Opens text line ending rest) :
    ending = [] ∨ ending = ['\n'] ∨ ending = ['\r', '\n'] := by
  cases opens with
  | feed ends => exact Or.inr ends
  | last => exact Or.inl rfl

/-- An unbroken first line is the first line of the editor, too. -/
theorem Opens.editorLines_head (opens : Opens text line ending rest) (unbroken : Unbroken line) :
    text.editorLines[0]? = some (line ++ ending) := by
  cases opens with
  | feed ends => rw [editorLines_append_feed unbroken ends]; rfl
  | last => rw [editorLines_of_unbroken unbroken, List.append_nil]; rfl

/-- A first line is the same for the editor just if it is unbroken. -/
theorem Opens.beforeBreak_iff (opens : Opens text line ending rest) :
    line = beforeBreak text ↔ Unbroken line := by
  constructor
  · intro same
    rw [same]
    exact beforeBreak_unbroken text
  · intro unbroken
    cases opens with
    | feed ends =>
        rw [List.append_assoc, beforeBreak_append unbroken]
        rcases ends with rfl | rfl <;> exact (List.append_nil line).symm
    | last =>
        have alone := beforeBreak_append unbroken []
        rw [List.append_nil] at alone
        exact (alone.trans (List.append_nil _)).symm

end Opens

/-- A line that is the same for detection and, without its line break, for the editor. -/
def SameLine (text : Text) (index : Nat) : Prop :=
  ∃ line, text.editorLines[index]? = some line ∧ text.lines[index]? = some (beforeBreak line)

/-- The first line is the same for both if no separator breaks it. -/
theorem Opens.sameLine_zero {text line ending rest : Text} (opens : Opens text line ending rest) :
    SameLine text 0 ↔ Unbroken line := by
  obtain ⟨first, others, divided, same⟩ := Text.editorLines_head text
  rw [← opens.beforeBreak_iff, ← same, SameLine, divided, opens.lines]
  simp

/-- Behind such a line the numbers are those of the rest, plus one. -/
theorem sameLine_succ {line ending rest : Text} (unbroken : Unbroken line)
    (ends : ending = ['\n'] ∨ ending = ['\r', '\n'])
    (divided : lines (line ++ ending ++ rest) = line :: lines rest) (index : Nat) :
    SameLine (line ++ ending ++ rest) (index + 1) ↔ SameLine rest index := by
  rw [SameLine, SameLine, editorLines_append_feed unbroken ends, divided]
  rfl

/-- The first lines are the same just if none of them holds a line break. -/
theorem sameLines_iff {text : Text} {count : Nat} (inside : count ≤ text.lines.length) :
    (∀ index < count, SameLine text index) ↔ ∀ line ∈ text.lines.take count, Unbroken line := by
  induction count generalizing text with
  | zero => simp
  | succ count ih =>
      obtain ⟨line, ending, rest, opens⟩ := exists_opens_of_line inside
      rw [Nat.forall_lt_succ_left', opens.sameLine_zero, opens.lines, List.take_succ_cons,
        List.forall_mem_cons]
      refine and_congr_right fun unbroken => ?_
      rw [opens.lines, List.length_cons, Nat.succ_le_succ_iff] at inside
      rw [← ih inside]
      cases opens with
      | feed ends divided => simp only [sameLine_succ unbroken ends divided]
      | last =>
          rw [Nat.le_zero.mp inside]
          simp

/-- The text without its carriage returns. -/
def returnless (text : Text) : Text :=
  text.filter (· != '\r')

theorem returnless_append (front back : Text) :
    returnless (front ++ back) = returnless front ++ returnless back :=
  List.filter_append front back

/-- A text that nothing breaks has no carriage returns to lose. -/
theorem returnless_of_unbroken {text : Text} (unbroken : Unbroken text) : returnless text = text := by
  refine List.filter_eq_self.mpr fun character member => ?_
  rw [bne_iff_ne]
  rintro rfl
  exact absurd (unbroken '\r' member) (by decide)

theorem Unbroken.take {text : Text} (unbroken : Unbroken text) (count : Nat) :
    Unbroken (text.take count) :=
  fun character member => unbroken character (List.mem_of_mem_take member)

end Text

open Text

/-- The front of a text goes up to a position as detection counts it. It has all the lines before
the position, which may be ended with carriage returns, and so many characters of the next line. -/
def Position.Reached (position : Position) (text front : Text) : Prop :=
  ∃ head, front = head ++ (text.lines.getD position.line []).take position.character ∧
    returnless head = fed (text.lines.take position.line) ∧ (head = [] ∨ head.getLast? = some '\n')

/-- The offset of a position further down counts the first line in full. -/
theorem Position.offset_succ {text first rest : Text} (divided : text = first ++ rest)
    (lines : text.editorLines = first :: rest.editorLines) (index character : Nat) :
    (⟨index + 1, character⟩ : Position).offset text =
      first.length + (⟨index, character⟩ : Position).offset rest := by
  cases found : rest.editorLines[index]? with
  | none =>
      have past := List.getElem?_eq_none_iff.mp found
      have beyond : text.editorLines.length ≤ index + 1 := by
        rw [lines]
        exact Nat.succ_le_succ past
      have here : (⟨index, character⟩ : Position).offset rest = rest.length := offset_past past
      rw [here, offset_past beyond, divided, List.length_append]
  | some line =>
      have shifted : text.editorLines[index + 1]? = some line := by rw [lines]; exact found
      rw [offset_eq shifted, offset_eq found, lineStart, lineStart, lines]
      simp only [List.take_succ_cons, List.flatten_cons, List.length_append]
      omega

/-- A position on the first line is reached as detection counts it. -/
theorem Position.reached_zero {text line ending rest : Text} (opens : Opens text line ending rest)
    (unbroken : Unbroken line) (character : Nat) :
    Reached ⟨0, character⟩ text (text.take ((⟨0, character⟩ : Position).offset text)) := by
  have found := opens.editorLines_head unbroken
  have plain : beforeBreak (line ++ ending) = line ∧ ¬ EndsInSeparator (line ++ ending) := by
    rw [EndsInSeparator, beforeBreak_append unbroken, lineBreak_append unbroken]
    rcases opens.ending_plain with rfl | rfl | rfl <;> exact ⟨List.append_nil line, by decide⟩
  have start : text.lineStart 0 = 0 := rfl
  have place : (⟨0, character⟩ : Position).offset text = min character line.length := by
    rw [offset_kept found (Or.inr plain.2), plain.1, start, Nat.zero_add]
  refine ⟨[], ?_, rfl, Or.inl rfl⟩
  rw [place, opens.lines]
  conv => lhs; rw [opens.whole, List.take_append_of_le_length (Nat.min_le_right _ _)]
  exact List.take_eq_take_min.symm

/-- If the lines up to that of a position are unbroken, then the editor finds the position where
detection has it. -/
theorem Position.reached_offset {text : Text} {index : Nat} (inside : index < text.lines.length)
    (unbroken : ∀ line ∈ text.lines.take (index + 1), Unbroken line) (character : Nat) :
    Reached ⟨index, character⟩ text (text.take ((⟨index, character⟩ : Position).offset text)) := by
  induction index generalizing text with
  | zero =>
      obtain ⟨line, ending, rest, opens⟩ := exists_opens_of_line inside
      refine reached_zero opens (unbroken line ?_) character
      rw [opens.lines]
      exact List.mem_cons_self
  | succ index ih =>
      obtain ⟨line, ending, rest, opens⟩ := exists_opens_of_line inside
      rw [opens.lines] at inside unbroken
      rw [List.length_cons, Nat.succ_lt_succ_iff] at inside
      rw [List.take_succ_cons, List.forall_mem_cons] at unbroken
      cases opens with
      | last => exact absurd inside (Nat.not_lt_zero index)
      | feed ends divided =>
          obtain ⟨head, front, content, ended⟩ := ih inside unbroken.2
          have place := offset_succ rfl (editorLines_append_feed unbroken.1 ends rest) index character
          refine ⟨line ++ ending ++ head, ?_, ?_, ?_⟩
          · rw [place, List.take_length_add_append, front, divided]
            simp
          · have first : returnless (line ++ ending) = line ++ ['\n'] := by
              rw [returnless_append, returnless_of_unbroken unbroken.1]
              rcases ends with rfl | rfl <;> rfl
            rw [returnless_append, first, content, divided]
            rfl
          · right
            rcases ended with rfl | feed
            · rw [List.append_nil, List.getLast?_append]
              rcases ends with rfl | rfl <;> rfl
            · rw [List.getLast?_append, feed]
              rfl

/-- Edits between two positions take one piece out of the text, and put theirs in its place. It is
the piece between these positions as detection counts them. -/
def EditsReplace (text : Text) (first last : Position) (removed : Text) : Prop :=
  ∃ before after, text = before ++ removed ++ after ∧ first.Reached text before ∧
    last.Reached text (before ++ removed) ∧
    ∀ inserted, (Edit.mk (some (first, last)) inserted).apply text = before ++ inserted ++ after

/-- Edits take out the piece that detection sees between the positions, if nothing else breaks the
lines. -/
theorem exists_editsReplace {text : Text} {first last : Position} (ordered : first.Precedes last)
    (inside : last.line < text.lines.length)
    (unbroken : ∀ line ∈ text.lines.take (last.line + 1), Unbroken line) :
    ∃ removed, EditsReplace text first last removed := by
  have earlier : first.line ≤ last.line := ordered.elim Nat.le_of_lt fun same => Nat.le_of_eq same.1
  have between := Position.offset_mono ordered text
  have covered := take_append_between text between
  have start := Position.reached_offset (Nat.lt_of_le_of_lt earlier inside)
    (fun line member => unbroken line
      ((List.take_prefix_take_left (Nat.succ_le_succ earlier)).subset member)) first.character
  have stop := Position.reached_offset inside unbroken last.character
  refine ⟨(text.take (last.offset text)).drop (first.offset text), text.take (first.offset text),
    text.drop (last.offset text), ?_, start, ?_, fun inserted => ?_⟩
  · rw [covered, List.take_append_drop]
  · rw [covered]
    exact stop
  · simp only [Edit.apply, Nat.max_eq_right between]

/-- Up to carriage returns, a front that goes up to the end of a line has this line and all before
it. -/
theorem Position.Reached.returnless {text front line : Text} {position : Position}
    (reached : position.Reached text front) (found : text.lines[position.line]? = some line)
    (unbroken : Unbroken line) :
    returnless front = fed (text.lines.take position.line) ++ line.take position.character := by
  obtain ⟨head, rfl, content, _⟩ := reached
  rw [returnless_append, content, List.getD_eq_getElem?_getD, found, Option.getD_some,
    returnless_of_unbroken (unbroken.take _)]

/-- The lines of a block are those before its last line, and the last line. -/
theorem Block.Covers.rawContent_fed {lines : List Text} {language : String} {block : Block}
    {line : Text} (covers : block.Covers lines language) (found : lines[block.endLine]? = some line) :
    fed (lines.take block.startLine) ++ block.rawContent = fed (lines.take block.endLine) ++ line := by
  have ordered := covers.ordered
  have more : block.endLine + 1 - block.startLine = block.endLine - block.startLine + 1 := by omega
  have place : block.startLine + (block.endLine - block.startLine) = block.endLine := by omega
  have covered : lines.extract block.startLine (block.endLine + 1) =
      (lines.take block.endLine).drop block.startLine ++ [line] := by
    rw [List.extract_eq_take_drop, more, List.take_add_one, List.getElem?_drop, place, found,
      List.drop_take]
    rfl
  have divided := List.take_append_drop block.startLine (lines.take block.endLine)
  rw [List.take_take, Nat.min_eq_left ordered] at divided
  rw [covers.raw, covered, joinLines_fed, ← List.append_assoc]
  conv => rhs; rw [← divided, fed, List.flatMap_append]
  rfl

/-- An edit from the beginning of the first line of a block to the end of its last line takes out
the text of the block. -/
theorem EditsReplace.rawContent {text removed : Text} {language : String} {block : Block}
    {character : Nat} (covers : block.Covers text.lines language)
    (unbroken : ∀ line ∈ text.lines.take (block.endLine + 1), Unbroken line)
    (full : (text.lines.getD block.endLine []).length ≤ character)
    (replace : EditsReplace text ⟨block.startLine, 0⟩ ⟨block.endLine, character⟩ removed) :
    returnless removed = block.rawContent := by
  have onLine (index : Nat) (before : index ≤ block.endLine) :
      ∃ line, text.lines[index]? = some line ∧ Unbroken line := by
    have inside : index < text.lines.length := Nat.lt_of_le_of_lt before covers.inside
    have found := List.getElem?_eq_getElem inside
    refine ⟨_, found, unbroken _ (List.mem_of_getElem? (i := index) ?_)⟩
    rw [List.getElem?_take_of_lt (Nat.lt_succ_of_le before), found]
  obtain ⟨first, firstFound, firstUnbroken⟩ := onLine block.startLine covers.ordered
  obtain ⟨last, lastFound, lastUnbroken⟩ := onLine block.endLine (Nat.le_refl _)
  obtain ⟨before, after, _, starts, stops, _⟩ := replace
  have front := starts.returnless firstFound firstUnbroken
  have whole := stops.returnless lastFound lastUnbroken
  rw [List.getD_eq_getElem?_getD, lastFound, Option.getD_some] at full
  rw [returnless_append, front, List.take_zero, List.append_nil, List.take_of_length_le full,
    ← covers.rawContent_fed lastFound] at whole
  exact List.append_cancel_left whole

/-- The first lines of a text are the same for detection and for the editor just if none of them
holds a line break other than the one that ends it. On such lines edits change what detection has at
their positions, so that one that goes over the lines of a block replaces the text of this block. -/
theorem line_numbers_agree_iff {text : Text} {count : Nat} (inside : count ≤ text.lines.length) :
    ((∀ index < count, SameLine text index) ↔ ∀ line ∈ text.lines.take count, Unbroken line) ∧
    ((∀ index < count, SameLine text index) →
      (∀ first last : Position, first.Precedes last → last.line < count →
        ∃ removed, EditsReplace text first last removed) ∧
      ∀ (detector : Detector) (language : String) (cancelledBy : Nat → Bool),
      ∀ block ∈ (detector.run text language cancelledBy).blocks, block.endLine < count →
        (∀ character, (text.lines.getD block.endLine []).length ≤ character → ∃ removed,
          EditsReplace text ⟨block.startLine, 0⟩ ⟨block.endLine, character⟩ removed ∧
          returnless removed = block.rawContent) ∧
        (block.endLine < 4294967296 → ∀ (showPreview : Bool) (patterns : List Pattern),
          let folding := FoldingRange.ofBlock showPreview block
          let hover := Hover.ofBlock block patterns
          (folding.startLine, folding.endLine) = (block.startLine, block.endLine) ∧
            (hover.start.line, hover.stop.line) = (block.startLine, block.endLine))) := by
  have agree := sameLines_iff inside
  refine ⟨agree, fun same => ?_⟩
  have unbroken (index : Nat) (before : index < count) :
      ∀ line ∈ text.lines.take (index + 1), Unbroken line := fun line member =>
    agree.mp same line ((List.take_prefix_take_left before).subset member)
  have replace (first last : Position) (ordered : first.Precedes last) (before : last.line < count) :
      ∃ removed, EditsReplace text first last removed :=
    exists_editsReplace ordered (Nat.lt_of_lt_of_le before inside) (unbroken last.line before)
  refine ⟨replace, fun detector language cancelledBy block member before => ?_⟩
  have covers := Detector.run_covers member
  have ordered := covers.ordered
  refine ⟨fun character full => ?_, fun small showPreview patterns => ?_⟩
  · have precedes : Position.Precedes ⟨block.startLine, 0⟩ ⟨block.endLine, character⟩ := by
      rcases Nat.lt_or_eq_of_le ordered with earlier | same
      · exact Or.inl earlier
      · exact Or.inr ⟨same, Nat.zero_le _⟩
    obtain ⟨removed, replaced⟩ := replace _ _ precedes before
    exact ⟨removed, replaced, replaced.rawContent covers (unbroken _ before) full⟩
  · have start : coordinate block.startLine = block.startLine := Nat.mod_eq_of_lt (by omega)
    have stop : coordinate block.endLine = block.endLine := Nat.mod_eq_of_lt small
    exact ⟨Prod.ext start stop, Prod.ext start stop⟩

/-- There is a form feed between two strings. An edit that goes over the first one replaces it, but
one that is meant for the second one changes the rest of the line with the form feed. -/
theorem line_numbers_agree_iff_formFeed :
    let text : Text := "\"\"\"One\"\"\"\n# a\x0cb\n\"\"\"Two\"\"\"".toList
    let found := ((⟨Registry.builtin, 60⟩ : Detector).run text "python" fun _ => false).blocks
    let one : Block := ⟨0, 0, 0, 9, "\"\"\"One\"\"\"".toList, "One".toList, "python", true⟩
    let two : Block := ⟨2, 0, 2, 9, "\"\"\"Two\"\"\"".toList, "Two".toList, "python", true⟩
    text.lines.length = 3 ∧ found = [one, two] ∧ SameLine text 0 ∧
      (∃ removed, EditsReplace text ⟨0, 0⟩ ⟨0, 9⟩ removed ∧ returnless removed = one.rawContent) ∧
      (¬ ∀ index < 3, SameLine text index) ∧
      (Edit.mk (some (⟨2, 3⟩, ⟨2, 6⟩)) "New".toList).apply text =
        "\"\"\"One\"\"\"\n# a\x0cbNew\n\"\"\"Two\"\"\"".toList := by
  intro text found one two
  have blocks : found = [one, two] := by decide +kernel
  obtain ⟨first, edits⟩ := line_numbers_agree_iff (by decide : 1 ≤ text.lines.length)
  obtain ⟨all, _⟩ := line_numbers_agree_iff (by decide : 3 ≤ text.lines.length)
  have agree := first.mpr (by decide)
  have replaced := ((edits agree).2 ⟨Registry.builtin, 60⟩ "python" (fun _ => false) one
    (by change one ∈ found; rw [blocks]; exact List.mem_cons_self) (by decide)).1 9 (by decide)
  exact ⟨by decide, blocks, agree 0 (by decide), replaced,
    fun same => absurd (all.mp same) (by decide), by decide⟩

end DocBlocks
