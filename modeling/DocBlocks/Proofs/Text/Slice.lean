/-
This file shows that texts are cut at byte offsets just where one part of them ends.
-/

import DocBlocks.Text.Slice

namespace DocBlocks.Text

@[simp] theorem byteLength_nil : byteLength [] = 0 := rfl

@[simp] theorem byteLength_cons (character : Char) (text : Text) :
    byteLength (character :: text) = character.utf8Size + byteLength text := rfl

/-- The bytes of two texts are counted together. -/
@[simp] theorem byteLength_append (before after : Text) :
    byteLength (before ++ after) = byteLength before + byteLength after := by
  induction before with
  | nil => simp
  | cons character before ih => simp [ih, Nat.add_assoc]

/-- A text is divided behind its first character if the rest is divided. -/
theorem splitAtByte?_cons (character : Char) (text : Text) (offset : Nat) :
    splitAtByte? (character :: text) (character.utf8Size + offset) =
      (splitAtByte? text offset).map fun (before, after) => (character :: before, after) := by
  have size := character.utf8Size_pos
  obtain ⟨less, positive⟩ : ∃ less, character.utf8Size + offset = less + 1 :=
    ⟨character.utf8Size + offset - 1, by omega⟩
  rw [positive, splitAtByte?, Nat.succ_eq_add_one, ← positive, if_pos (Nat.le_add_right _ _),
    Nat.add_sub_cancel_left]

/-- A text is divided where its first part ends. -/
@[simp] theorem splitAtByte?_append (before after : Text) :
    splitAtByte? (before ++ after) (byteLength before) = some (before, after) := by
  induction before with
  | nil => simp [splitAtByte?]
  | cons character before ih =>
      rw [List.cons_append, byteLength_cons, splitAtByte?_cons, ih]
      rfl

/-- What a text is divided into are its two parts. -/
theorem of_splitAtByte? {text before after : Text} {offset : Nat}
    (divided : splitAtByte? text offset = some (before, after)) :
    text = before ++ after ∧ offset = byteLength before := by
  fun_induction splitAtByte? text offset generalizing before after with
  | case1 text =>
      cases divided
      simp
  | case2 => cases divided
  | case3 character rest less fits ih =>
      obtain ⟨⟨front, back⟩, inner, same⟩ := Option.map_eq_some_iff.mp divided
      cases same
      obtain ⟨whole, length⟩ := ih inner
      refine ⟨by rw [whole, List.cons_append], ?_⟩
      rw [byteLength_cons, ← length]
      omega
  | case4 => cases divided

/-- The front is taken by its bytes. -/
@[simp] theorem takeBytes?_append (before after : Text) :
    takeBytes? (before ++ after) (byteLength before) = some before := by
  simp [takeBytes?]

/-- The front is dropped by its bytes. -/
@[simp] theorem dropBytes?_append (before after : Text) :
    dropBytes? (before ++ after) (byteLength before) = some after := by
  simp [dropBytes?]

/-- A text that is cut off is the beginning of the whole. -/
theorem prefix_of_takeBytes? {text before : Text} {offset : Nat}
    (cut : takeBytes? text offset = some before) : before <+: text := by
  obtain ⟨⟨front, back⟩, divided, same⟩ := Option.map_eq_some_iff.mp cut
  cases same
  exact ⟨back, (of_splitAtByte? divided).1.symm⟩

/-- What is left of a text follows a part of it that has so many bytes. -/
theorem of_dropBytes? {text rest : Text} {offset : Nat} (cut : dropBytes? text offset = some rest) :
    ∃ before, text = before ++ rest ∧ offset = byteLength before := by
  obtain ⟨⟨before, after⟩, divided, rfl⟩ := Option.map_eq_some_iff.mp cut
  exact ⟨before, of_splitAtByte? divided⟩

/-- A piece is cut out by the bytes before it and its own. -/
theorem sliceBytes?_append (before piece after : Text) :
    sliceBytes? (before ++ piece ++ after) (byteLength before) (byteLength before + byteLength piece) =
      some piece := by
  rw [sliceBytes?, if_pos (Nat.le_add_right _ _), ← byteLength_append, takeBytes?_append]
  exact dropBytes?_append before piece

/-- What is cut out of a text is a piece of it. -/
theorem of_sliceBytes? {text piece : Text} {start stop : Nat}
    (cut : sliceBytes? text start stop = some piece) :
    ∃ before after, text = before ++ piece ++ after ∧ start = byteLength before ∧
      stop = byteLength before + byteLength piece := by
  rw [sliceBytes?, Option.ite_none_right_eq_some] at cut
  obtain ⟨front, taken, dropped⟩ := Option.bind_eq_some_iff.mp cut.2
  obtain ⟨⟨_, after⟩, divided, rfl⟩ := Option.map_eq_some_iff.mp taken
  obtain ⟨⟨before, _⟩, again, rfl⟩ := Option.map_eq_some_iff.mp dropped
  obtain ⟨whole, stops⟩ := of_splitAtByte? divided
  obtain ⟨inner, starts⟩ := of_splitAtByte? again
  dsimp only at inner
  subst inner
  exact ⟨before, after, whole, starts, stops.trans (byteLength_append _ _)⟩

end DocBlocks.Text
