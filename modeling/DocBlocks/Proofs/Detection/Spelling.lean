/-
This file says in which ways a text can be written with given lines, and shows that detection does
not tell these ways apart.
-/

import DocBlocks.Detection.Basic
import DocBlocks.Proofs.Text.Lines

namespace DocBlocks

namespace Text

/-- What ends a line. A line feed alone does not end a line whose last character is a carriage
return, as the two of them would be taken for the ending. -/
def EndsLine (line ending : Text) : Prop :=
  ending = ['\r', '\n'] ∨ ending = ['\n'] ∧ line.getLast? ≠ some '\r'

/-- The text is written with the lines given, each ended in its own way. The last line may be left
without an ending if there is something on it. -/
inductive Spells : List Text → Text → Prop
  | empty : Spells [] []
  | unended {line : Text} : line ≠ [] → '\n' ∉ line → Spells [line] line
  | ended {line ending rest : Text} {parts : List Text} : '\n' ∉ line → EndsLine line ending →
    Spells parts rest → Spells (line :: parts) (line ++ (ending ++ rest))

namespace EndsLine

variable {line ending : Text}

/-- Every ending has a line feed as its last character. -/
theorem getLast? (ends : EndsLine line ending) : ending.getLast? = some '\n' := by
  rcases ends with rfl | ⟨rfl, _⟩ <;> rfl

/-- What ends a line depends on its last character only. -/
theorem of_getLast? {other : Text} (ends : EndsLine line ending)
    (same : other.getLast? = line.getLast?) : EndsLine other ending := by
  unfold EndsLine
  rw [same]
  exact ends

/-- A line is divided from what follows its ending. -/
theorem lines (ends : EndsLine line ending) (feedless : '\n' ∉ line) (rest : Text) :
    Text.lines (line ++ (ending ++ rest)) = line :: rest.lines := by
  rcases ends with rfl | ⟨rfl, unreturned⟩
  · have whole : line ++ (['\r', '\n'] ++ rest) = (line ++ ['\r']) ++ '\n' :: rest := by simp
    have plain : '\n' ∉ line ++ ['\r'] := by simpa using feedless
    have kept := withoutReturn_append line (List.cons_ne_nil '\r' [])
    rw [whole, lines_append_feed plain, kept, withoutReturn, List.append_nil]
  · have kept : line = withoutReturn line := by
      rcases withoutReturn_cases line with same | returned
      · exact same
      · rw [returned] at unreturned
        exact absurd List.getLast?_concat unreturned
    rw [List.singleton_append, lines_append_feed feedless, ← kept]

end EndsLine

namespace Spells

variable {parts : List Text} {text : Text}

/-- A text has the lines that it is written with. -/
theorem lines (spells : Spells parts text) : text.lines = parts := by
  induction spells with
  | empty => rfl
  | unended present feedless => exact lines_of_feedless present feedless
  | ended feedless ends _ ih => rw [ends.lines feedless, ih]

/-- A character that belongs to no line ending stands on the first line. -/
theorem cons {line rest : Text} {character : Char} (spells : Spells (line :: parts) rest)
    (feed : character ≠ '\n') (unreturned : character = '\r' → rest.head? ≠ some '\n') :
    Spells ((character :: line) :: parts) (character :: rest) := by
  have longer {line : Text} (feedless : '\n' ∉ line) : '\n' ∉ character :: line :=
    List.not_mem_cons_of_ne_of_not_mem feed.symm feedless
  cases spells with
  | unended _ feedless => exact .unended (List.cons_ne_nil _ _) (longer feedless)
  | @ended _ ending rest _ feedless ends others =>
      have longerEnds : EndsLine (character :: line) ending := by
        rcases ends with pair | ⟨single, plain⟩
        · exact Or.inl pair
        · refine Or.inr ⟨single, ?_⟩
          cases line with
          | nil =>
              intro same
              refine unreturned (Option.some.inj same) ?_
              rw [single]
              rfl
          | cons second line => rwa [List.getLast?_cons_cons]
      exact ended (longer feedless) longerEnds others

end Spells

/-- Every text is written with its own lines. -/
theorem spells_lines (text : Text) : Spells text.lines text := by
  fun_induction lines text with
  | case1 => exact .empty
  | case2 rest ih =>
      have ends : EndsLine [] ['\n'] := Or.inr ⟨rfl, by simp⟩
      exact Spells.ended List.not_mem_nil ends ih
  | case3 rest ih =>
      have ends : EndsLine [] ['\r', '\n'] := Or.inl rfl
      exact Spells.ended List.not_mem_nil ends ih
  | case4 character rest feed _ nothing ih =>
      rw [nothing] at ih
      cases ih
      exact .unended (List.cons_ne_nil _ _) (by simpa using Ne.symm feed)
  | case5 character rest feed pair line others shape ih =>
      rw [shape] at ih
      refine ih.cons feed fun returned starts => ?_
      cases rest with
      | nil => cases starts
      | cons first rest =>
          cases starts
          exact pair rest returned rfl

/-- The lines of a text are those that it is written with. -/
theorem spells_iff {parts : List Text} {text : Text} : Spells parts text ↔ text.lines = parts :=
  ⟨Spells.lines, fun same => same ▸ spells_lines text⟩

/-- The text with a carriage return before every line feed. -/
def withReturns (text : Text) : Text :=
  text.flatMap fun character => if character = '\n' then ['\r', '\n'] else [character]

theorem withReturns_append (front back : Text) :
    withReturns (front ++ back) = withReturns front ++ withReturns back :=
  List.flatMap_append

/-- A text without line feeds is written in one way only. -/
theorem withReturns_of_feedless {line : Text} (feedless : '\n' ∉ line) : withReturns line = line := by
  induction line with
  | nil => rfl
  | cons character line ih =>
      obtain ⟨feed, others⟩ := List.ne_and_not_mem_of_not_mem_cons feedless
      rw [withReturns, List.flatMap_cons, if_neg feed.symm, ← withReturns, ih others]
      rfl

namespace Spells

variable {parts : List Text} {text : Text}

/-- Carriage returns may be written before all line feeds of a text that has none. -/
theorem withReturns (spells : Spells parts text) (unreturned : '\r' ∉ text) :
    Spells parts (withReturns text) := by
  induction spells with
  | empty => exact .empty
  | unended present feedless =>
      rw [withReturns_of_feedless feedless]
      exact .unended present feedless
  | @ended line ending rest parts feedless ends _ ih =>
      simp only [List.mem_append, not_or] at unreturned
      obtain ⟨_, plain, later⟩ := unreturned
      rcases ends with rfl | ⟨rfl, _⟩
      · exact absurd List.mem_cons_self plain
      · rw [withReturns_append, withReturns_append, withReturns_of_feedless feedless]
        exact .ended feedless (Or.inl rfl) (ih later)

/-- An ending may be written behind the last line if it has none. -/
theorem finish (spells : Spells parts text) (present : text ≠ []) (unfed : text.getLast? ≠ some '\n')
    {ending : Text} (ends : EndsLine text ending) : Spells parts (text ++ ending) := by
  induction spells with
  | empty => exact absurd rfl present
  | unended _ feedless =>
      have whole := ended feedless ends .empty
      rwa [List.append_nil] at whole
  | @ended line inner rest parts feedless innerEnds _ ih =>
      -- With nothing behind this ending, the text would end in a line feed.
      have more : rest ≠ [] := by
        rintro rfl
        refine unfed ?_
        rw [List.append_nil, List.getLast?_append, innerEnds.getLast?, Option.some_or]
      have last : (line ++ (inner ++ rest)).getLast? = rest.getLast? := by
        rw [← List.append_assoc, List.getLast?_append, List.getLast?_eq_some_getLast more,
          Option.some_or]
      rw [last] at unfed
      rw [List.append_assoc, List.append_assoc]
      exact .ended feedless innerEnds (ih more unfed (ends.of_getLast? last.symm))

end Spells

end Text

namespace Detector

/-- Nothing of a text matters to detection but the lines that it is written with. -/
theorem run_of_spells (detector : Detector) (language : String) (cancelledBy : Nat → Bool)
    {parts : List Text} {one other : Text} (ofOne : Text.Spells parts one)
    (ofOther : Text.Spells parts other) :
    detector.run one language cancelledBy = detector.run other language cancelledBy := by
  have same : one.lines = other.lines := ofOne.lines.trans ofOther.lines.symm
  simp only [run, passOver, detectionOf, same]

/-- Detection does not depend on the way lines are ended, with carriage returns or without them, and
with an ending behind the last line or without it. Only a line feed behind a carriage return would
be more than an ending, as it would take the carriage return off the last line. -/
theorem run_ending_style (detector : Detector) (text : Text) (language : String)
    (cancelledBy : Nat → Bool) :
    ('\r' ∉ text →
      detector.run text.withReturns language cancelledBy = detector.run text language cancelledBy) ∧
    (text ≠ [] → text.getLast? ≠ some '\n' →
      detector.run (text ++ ['\r', '\n']) language cancelledBy =
        detector.run text language cancelledBy ∧
      (text.getLast? ≠ some '\r' →
        detector.run (text ++ ['\n']) language cancelledBy =
          detector.run text language cancelledBy)) := by
  have spells : Text.Spells text.lines text := Text.spells_iff.mpr rfl
  refine ⟨fun unreturned => ?_, fun present unfed => ⟨?_, fun unreturned => ?_⟩⟩
  · exact detector.run_of_spells language cancelledBy (spells.withReturns unreturned) spells
  · have finished := spells.finish present unfed (Or.inl rfl)
    exact detector.run_of_spells language cancelledBy finished spells
  · have finished := spells.finish present unfed (Or.inr ⟨rfl, unreturned⟩)
    exact detector.run_of_spells language cancelledBy finished spells

/-- A string over several lines, one of them empty, and another string on the last line. -/
theorem run_ending_style_strings :
    let detector : Detector := ⟨Registry.builtin, 60⟩
    let text : Text := "\"\"\"a\n\n  b\n\"\"\"\n\nc = 1\n\"\"\"d\"\"\"".toList
    let first : Block := ⟨0, 0, 3, 3, "\"\"\"a\n\n  b\n\"\"\"".toList, "a".toList, "python", false⟩
    let second : Block := ⟨6, 0, 6, 7, "\"\"\"d\"\"\"".toList, "d".toList, "python", true⟩
    let run (text : Text) : Detection := detector.run text "python" fun _ => false
    '\r' ∉ text ∧ text.getLast? = some '"' ∧ run text = ⟨[first, second], false⟩ ∧
      run text.withReturns = ⟨[first, second], false⟩ ∧
      run (text ++ ['\r', '\n']) = ⟨[first, second], false⟩ ∧
      run (text ++ ['\n']) = ⟨[first, second], false⟩ := by
  intro detector text first second run
  have unreturned : '\r' ∉ text := by decide
  have last : text.getLast? = some '"' := by decide
  have found : run text = ⟨[first, second], false⟩ := by decide +kernel
  obtain ⟨returned, finished⟩ := run_ending_style detector text "python" fun _ => false
  obtain ⟨paired, single⟩ := finished (List.cons_ne_nil _ _) (by rw [last]; decide)
  exact ⟨unreturned, last, found, (returned unreturned).trans found, paired.trans found,
    (single (by rw [last]; decide)).trans found⟩

end Detector

end DocBlocks
