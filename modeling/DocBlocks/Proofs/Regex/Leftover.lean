/-
This file says in terms of texts alone what the parts of markers leave of a line.
-/

import DocBlocks.Proofs.Regex.Finding
import DocBlocks.Text.Blank

namespace DocBlocks.Regex

open Text

/-- The byte length is that of the text without what is left of it, if anything can be read. -/
inductive Measures (text : Text) : Option Nat → Option Text → Prop
  | failed : Measures text none none
  | read (taken rest : Text) (whole : text = taken ++ rest) :
    Measures text (some (byteLength taken)) (some rest)

namespace Measures

variable {text : Text}

/-- If nothing is read, all of the text is left. -/
theorem whole (text : Text) : Measures text (some 0) (some text) :=
  .read [] text rfl

/-- Characters that are read before have their bytes added. -/
theorem append {length : Option Nat} {left : Option Text} (measures : Measures text length left)
    (front : Text) : Measures (front ++ text) (length.map (byteLength front + ·)) left := by
  cases measures with
  | failed => exact .failed
  | read taken rest whole =>
      rw [Option.map_some, ← byteLength_append]
      exact .read (front ++ taken) rest (by rw [whole, List.append_assoc])

/-- A character that is read before has its bytes added. -/
theorem cons {length : Option Nat} {left : Option Text} (measures : Measures text length left)
    (character : Char) :
    Measures (character :: text) (length.map (character.utf8Size + ·)) left :=
  measures.append [character]

/-- The second way is measured if the first one fails. -/
theorem orElse {length other : Option Nat} {left remaining : Option Text}
    (preferred : Measures text length left) (otherwise : Measures text other remaining) :
    Measures text (length <|> other) (left <|> remaining) := by
  cases preferred with
  | failed => simpa using otherwise
  | read taken rest whole => exact .read taken rest whole

end Measures

/-- On a line, the parts leave what the function says. -/
def Leave (parts : List Part) (left? : Text → Option Text) : Prop :=
  ∀ (before : Option Char) (line : Text), '\n' ∉ line →
    Measures line (read parts before line) (left? line)

/-- The class of one character has that character alone. -/
theorem single_contains (character other : Char) :
    (CharClass.single character).contains other = decide (character = other) := by
  rw [CharClass.single, CharClass.contains, ← Bool.decide_and, decide_eq_decide]
  exact ⟨fun ⟨low, high⟩ => Char.le_antisymm low high, fun same => by simp [same]⟩

/-- The class of some characters has these alone. -/
theorem ofChars_contains (characters : List Char) (other : Char) :
    (CharClass.ofChars characters).contains other = decide (other ∈ characters) := by
  induction characters with
  | nil => rfl
  | cons character characters ih =>
      have union : (CharClass.ofChars (character :: characters)).contains other =
          ((CharClass.single character).contains other ||
            (CharClass.ofChars characters).contains other) := rfl
      rw [union, ih, single_contains, ← Bool.decide_or, decide_eq_decide, List.mem_cons,
        eq_comm]

/-- A marker, character by character. -/
def letters (marker : Text) : List Part :=
  marker.map fun character => .one (.single character)

/-- What is left after as many characters as possible. -/
def leftMany? (set : CharClass) (left? : Text → Option Text) : Text → Option Text
  | [] => left? []
  | character :: rest =>
    (if set.contains character then leftMany? set left? rest else none) <|> left? (character :: rest)

/-- What is left at the last place from which on something can be read. -/
def leftLast? (left? : Text → Option Text) : Text → Option Text
  | [] => left? []
  | character :: rest => leftLast? left? rest <|> left? (character :: rest)

/-- A line without its first character, which must not be one of some. The line may also be at its
end. -/
def withoutOther? (excluded : List Char) : Text → Option Text
  | [] => some []
  | character :: rest => if character ∈ excluded then none else some rest

/-- White space is skipped in one go if nothing can be read from the middle of it. -/
theorem leftMany?_blank {left? : Text → Option Text}
    (stops : ∀ character rest, isBlank character = true → left? (character :: rest) = none)
    (line : Text) : leftMany? .blank left? line = left? (trimStart line) := by
  induction line with
  | nil => rfl
  | cons character rest ih =>
      rw [leftMany?, ih, trimStart, trimStart, List.dropWhile_cons, CharClass.contains]
      by_cases blank : isBlank character = true
      · simp [blank, stops character rest blank]
      · simp [blank]

/-- On a line, any number of characters leads to the last place that can be read. -/
theorem leftMany?_anything (left? : Text → Option Text) {line : Text} (feedless : '\n' ∉ line) :
    leftMany? (.complement (.single '\n')) left? line = leftLast? left? line := by
  induction line with
  | nil => rfl
  | cons character rest ih =>
      obtain ⟨other, later⟩ := not_or.mp (mt List.mem_cons.mpr feedless)
      have held : (CharClass.complement (.single '\n')).contains character = true := by
        rw [CharClass.contains, single_contains, decide_eq_false other]
        rfl
      rw [leftMany?, leftLast?, ih later, if_pos held]

namespace Leave

variable {parts : List Part} {left? : Text → Option Text}

/-- Only what is left on lines matters. -/
theorem congr (leave : Leave parts left?) {remaining? : Text → Option Text}
    (same : ∀ line, '\n' ∉ line → left? line = remaining? line) : Leave parts remaining? :=
  fun before line feedless => same line feedless ▸ leave before line feedless

/-- No parts leave the whole line. -/
theorem nothing : Leave [] some :=
  fun _ line _ => .whole line

/-- A character of a set is taken, and the parts after it leave what they leave. -/
theorem takeOne (leave : Leave parts left?) (set : CharClass) {character : Char} {rest : Text}
    (feedless : '\n' ∉ character :: rest) :
    Measures (character :: rest) (takeOne set (read parts) (character :: rest))
      (if set.contains character then left? rest else none) := by
  rw [Regex.takeOne]
  split
  · exact (leave _ rest fun member => feedless (List.mem_cons_of_mem _ member)).cons character
  · exact .failed

/-- The letters of a marker leave what follows it. -/
theorem letters (leave : Leave parts left?) (marker : Text) :
    Leave (letters marker ++ parts) fun line => (after? marker line).bind left? := by
  induction marker with
  | nil => exact leave
  | cons first marker ih =>
      intro before line feedless
      cases line with
      | nil => exact .failed
      | cons character rest =>
          have left : (after? (first :: marker) (character :: rest)).bind left? =
              if (CharClass.single first).contains character then (after? marker rest).bind left?
              else none := by
            rw [after?, single_contains]
            by_cases same : first = character <;> simp [same]
          dsimp only
          rw [left]
          exact ih.takeOne _ feedless

/-- A repeated part leaves what is left after as many characters as possible. -/
theorem many (leave : Leave parts left?) (set : CharClass) :
    Leave (.many set :: parts) (leftMany? set left?) := by
  intro before line feedless
  induction line generalizing before with
  | nil => exact leave before [] feedless
  | cons character rest ih =>
      have longer : Measures (character :: rest)
          (if set.contains character then
            (takeMany set (read parts) (some character) rest).map (character.utf8Size + ·)
          else none)
          (if set.contains character then leftMany? set left? rest else none) := by
        split
        · exact (ih _ fun member => feedless (List.mem_cons_of_mem _ member)).cons character
        · exact .failed
      exact longer.orElse (leave before _ feedless)

/-- White space is skipped as a whole if what follows can not begin with it. -/
theorem blanks (leave : Leave parts left?)
    (stops : ∀ character rest, isBlank character = true → left? (character :: rest) = none) :
    Leave (.many .blank :: parts) fun line => left? (trimStart line) :=
  (leave.many .blank).congr fun line _ => leftMany?_blank stops line

/-- If any characters may be skipped, what is left is what the last place leaves. -/
theorem anything (leave : Leave parts left?) :
    Leave (.many (.complement (.single '\n')) :: parts) (leftLast? left?) :=
  (leave.many _).congr fun _ feedless => leftMany?_anything left? feedless

/-- A letter in front is skipped if what follows can not begin with it. -/
theorem letter (leave : Leave parts left?) (allowed : List Char)
    (stops : ∀ character rest, character ∈ allowed → left? (character :: rest) = none) :
    Leave (.atMostOne (.ofChars allowed) :: parts) fun line => left? (withoutLetter allowed line) := by
  intro before line feedless
  cases line with
  | nil => exact leave before [] feedless
  | cons character rest =>
      have left : left? (withoutLetter allowed (character :: rest)) =
          ((if (CharClass.ofChars allowed).contains character then left? rest else none) <|>
            left? (character :: rest)) := by
        rw [withoutLetter, ofChars_contains]
        by_cases member : character ∈ allowed
        · simp [member, stops character rest member]
        · simp [member]
      dsimp only
      rw [left]
      exact (leave.takeOne _ feedless).orElse (leave before _ feedless)

/-- At the end of a line nothing is left. -/
theorem lineEnd : Leave [.edge .textEnd] fun line => if line = [] then some [] else none := by
  intro before line feedless
  cases line with
  | nil => exact .whole []
  | cons character rest => exact .failed

/-- A character that is not excluded is left out, if there is one. -/
theorem otherThan {set : CharClass} {excluded : List Char}
    (listed : ∀ character, set.contains character = decide (character ∈ excluded)) :
    Leave [.oneOrEdge (.complement set) .textEnd] (withoutOther? excluded) := by
  intro before line feedless
  cases line with
  | nil => exact .whole []
  | cons character rest =>
      have left : withoutOther? excluded (character :: rest) =
          ((if (CharClass.complement set).contains character then some rest else none)
            <|> none) := by
        rw [withoutOther?, CharClass.contains, listed]
        by_cases member : character ∈ excluded <;> simp [member]
      rw [left]
      exact (nothing.takeOne _ feedless).orElse .failed

/-- A row that is bound to the start of the line is found there. -/
theorem find? (leave : Leave parts left?) {line : Text} (feedless : '\n' ∉ line) :
    ∃ length, Measures line length (left? line) ∧
      (ofParts (.edge .textStart :: parts)).find? line = length.map fun length => (0, length) :=
  ⟨_, leave none line feedless, find?_anchored parts line⟩

end Leave

/-- The letters of a marker are read where the text begins with it. -/
theorem read_letters (marker : Text) (before : Option Char) (text : Text) :
    read (letters marker) before text = (after? marker text).map fun _ => byteLength marker := by
  induction marker generalizing before text with
  | nil => rfl
  | cons first marker ih =>
      cases text with
      | nil => rfl
      | cons character rest =>
          change takeOne (.single first) (read (letters marker)) (character :: rest) = _
          rw [takeOne, single_contains, after?, ih]
          by_cases same : first = character
          · cases after? marker rest <;> simp [same]
          · simp [same]

/-- A marker is found where it first occurs. -/
theorem find?_letters (marker text : Text) :
    (ofParts (letters marker)).find? text = (cutAt? marker text).map fun (before, _) =>
      (byteLength before, byteLength before + byteLength marker) := by
  have shifted : ∀ (before : Option Char) (offset : Nat),
      findFrom? (ofParts (letters marker)) before offset text =
        (cutAt? marker text).map fun (front, _) =>
          (offset + byteLength front, offset + byteLength front + byteLength marker) := by
    induction text with
    | nil =>
        intro before offset
        rw [findFrom?_nil, read_letters, cutAt?]
        cases after? marker [] <;> simp
    | cons character rest ih =>
        intro before offset
        rw [findFrom?_cons, read_letters, ih, cutAt?]
        cases after? marker (character :: rest) with
        | some left => simp
        | none => cases cutAt? marker rest <;> simp [Nat.add_assoc]
  rw [find?_ofParts, shifted]
  simp

end DocBlocks.Regex
