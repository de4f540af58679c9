/-
This file shows that folding ranges come in the order in which blocks are listed.
-/

import DocBlocks.Folding
import Mathlib.Data.List.Sort
import Mathlib.Data.Prod.Lex

namespace DocBlocks

/-- The second list is the first one in the order of a key, and elements with one key keep their
order. -/
structure StablySorts {α κ : Type} [LinearOrder κ] (key : α → κ) (before after : List α) : Prop where
  perm : after.Perm before
  ordered : after.Pairwise fun left right => key left ≤ key right
  ties : ∀ place, (after.filter fun element => key element = place) =
    before.filter fun element => key element = place

/-- Compares elements by their keys. -/
def keyOrder {α κ : Type} [LinearOrder κ] (key : α → κ) (left right : α) : Bool :=
  key left ≤ key right

section

variable {α β κ : Type} [LinearOrder κ] {key : α → κ}

theorem keyOrder_iff {left right : α} : keyOrder key left right = true ↔ key left ≤ key right :=
  decide_eq_true_iff

theorem keyOrder_trans (first second third : α) (early : keyOrder key first second = true)
    (late : keyOrder key second third = true) : keyOrder key first third = true :=
  keyOrder_iff.mpr ((keyOrder_iff.mp early).trans (keyOrder_iff.mp late))

/-- Any two elements can be compared. -/
theorem keyOrder_total (left right : α) :
    (keyOrder key left right || keyOrder key right left) = true := by
  rw [Bool.or_eq_true, keyOrder_iff, keyOrder_iff]
  exact le_total (key left) (key right)

namespace StablySorts

variable {before after : List α}

/-- Merging keeps the order of elements with one key. -/
theorem of_mergeSort (key : α → κ) (before : List α) :
    StablySorts key before (before.mergeSort (keyOrder key)) where
  perm := List.mergeSort_perm before (keyOrder key)
  ordered := (List.pairwise_mergeSort keyOrder_trans keyOrder_total before).imp keyOrder_iff.mp
  ties place := by
    -- Elements with one key stand in order, so they stay together, and none is added to them.
    have level : (before.filter fun element => key element = place).Pairwise
        fun left right => keyOrder key left right = true := by
      apply List.pairwise_of_forall_mem_list
      intro left leftMember right rightMember
      have leftKey : key left = place := by simpa using (List.mem_filter.mp leftMember).2
      have rightKey : key right = place := by simpa using (List.mem_filter.mp rightMember).2
      exact keyOrder_iff.mpr (leftKey.trans rightKey.symm).le
    have kept := (List.sublist_mergeSort keyOrder_trans keyOrder_total level
      List.filter_sublist).filter fun element => key element = place
    rw [List.filter_filter] at kept
    simp only [Bool.and_self] at kept
    have same := ((List.mergeSort_perm before (keyOrder key)).filter
      fun element => key element = place).length_eq
    exact (kept.eq_of_length same.symm).symm

/-- What is left out on both sides does not disturb the order of the others. -/
theorem filter (sorts : StablySorts key before after) (condition : α → Bool) :
    StablySorts key (before.filter condition) (after.filter condition) where
  perm := sorts.perm.filter condition
  ordered := sorts.ordered.filter condition
  ties place := by
    have ties := congrArg (List.filter condition) (sorts.ties place)
    rw [List.filter_comm, ties, List.filter_comm]

/-- A change that keeps the keys keeps the order. -/
theorem map {keyed : β → κ} {change : α → β} (sorts : StablySorts key before after)
    (same : ∀ element ∈ before, keyed (change element) = key element) :
    StablySorts keyed (before.map change) (after.map change) where
  perm := sorts.perm.map change
  ordered := by
    rw [List.pairwise_map]
    apply sorts.ordered.imp_of_mem
    intro left right leftMember rightMember order
    rwa [same _ (sorts.perm.mem_iff.mp leftMember), same _ (sorts.perm.mem_iff.mp rightMember)]
  ties place := by
    have chosen (list : List α) (within : ∀ element ∈ list, element ∈ before) :
        (list.map change).filter (fun element => keyed element = place) =
          (list.filter fun element => key element = place).map change := by
      rw [List.filter_map]
      congr 1
      apply List.filter_congr
      intro element member
      rw [Function.comp_apply, same element (within element member)]
    rw [chosen after fun element member => sorts.perm.mem_iff.mp member,
      chosen before fun element member => member, sorts.ties place]

end StablySorts

section Ties

variable {one other : List α}

/-- A list with the same elements for each key has all elements of the other. -/
theorem mem_of_ties (ties : ∀ place, (one.filter fun element => key element = place) =
    other.filter fun element => key element = place) {element : α} (member : element ∈ one) :
    element ∈ other := by
  have listed : element ∈ one.filter fun found => key found = key element :=
    List.mem_filter.mpr ⟨member, decide_eq_true rfl⟩
  rw [ties] at listed
  exact List.mem_of_mem_filter listed

/-- The head of a list in order has the least key of all elements, those of the other list too. -/
theorem head_le_of_ties {first : α} {rest : List α}
    (ordered : (first :: rest).Pairwise fun left right => key left ≤ key right)
    (ties : ∀ place, (other.filter fun element => key element = place) =
      (first :: rest).filter fun element => key element = place)
    {element : α} (member : element ∈ other) : key first ≤ key element := by
  rcases List.mem_cons.mp (mem_of_ties ties member) with same | later
  · rw [same]
  · exact (List.pairwise_cons.mp ordered).1 element later

/-- Lists in order are equal if they have the same elements with each key. -/
theorem eq_of_ties (oneOrdered : one.Pairwise fun left right => key left ≤ key right)
    (otherOrdered : other.Pairwise fun left right => key left ≤ key right)
    (ties : ∀ place, (one.filter fun element => key element = place) =
      other.filter fun element => key element = place) : one = other := by
  induction one generalizing other with
  | nil =>
      symm
      apply List.eq_nil_iff_forall_not_mem.mpr
      intro element member
      exact List.not_mem_nil (mem_of_ties (fun place => (ties place).symm) member)
  | cons first rest ih =>
      cases other with
      | nil => exact absurd (mem_of_ties ties List.mem_cons_self) List.not_mem_nil
      | cons head tail =>
          -- Each head stands somewhere in the other list, so neither of the two keys is less.
          have sameKey : key first = key head :=
            le_antisymm
              (head_le_of_ties oneOrdered (fun place => (ties place).symm) List.mem_cons_self)
              (head_le_of_ties otherOrdered ties List.mem_cons_self)
          have level := ties (key first)
          rw [List.filter_cons_of_pos (by simp), List.filter_cons_of_pos (by simp [sameKey])] at level
          obtain ⟨rfl, restLevel⟩ := List.cons_eq_cons.mp level
          refine congrArg (first :: ·) (ih oneOrdered.of_cons otherOrdered.of_cons fun place => ?_)
          by_cases here : key first = place
          · rw [← here]
            exact restLevel
          · have others := ties place
            rwa [List.filter_cons_of_neg (by simpa using here),
              List.filter_cons_of_neg (by simpa using here)] at others

end Ties

/-- There is one way only to put a list in order. -/
theorem StablySorts.unique {before one other : List α} (first : StablySorts key before one)
    (second : StablySorts key before other) : one = other :=
  eq_of_ties first.ordered second.ordered fun place => (first.ties place).trans (second.ties place).symm

end

namespace Block

/-- What blocks are listed by: the line and the column they start at, and the line they end on. -/
def place (block : Block) : ℕ ×ₗ ℕ ×ₗ ℕ :=
  toLex (block.startLine, toLex (block.startColumn, block.endLine))

/-- Blocks are compared by their places. -/
theorem precedes_eq_keyOrder (left right : Block) :
    precedes left right = keyOrder place left right := by
  rw [Bool.eq_iff_iff, keyOrder_iff, place, place, Prod.Lex.toLex_le_toLex, Prod.Lex.toLex_le_toLex]
  simp [precedes]

/-- Sorting keeps the order of blocks in one place. -/
theorem sorted_stablySorts (blocks : List Block) : StablySorts place blocks (sorted blocks) := by
  have same : precedes = keyOrder place := funext₂ precedes_eq_keyOrder
  rw [sorted, same]
  exact StablySorts.of_mergeSort place blocks

end Block

namespace FoldingRange

def place (range : FoldingRange) : ℕ ×ₗ ℕ ×ₗ ℕ :=
  toLex (range.startLine, toLex (range.startCharacter, range.endLine))

/-- The region of a block whose numbers fit stands where the block does. -/
theorem place_ofBlock (showPreview : Bool) {block : Block} (startLine : block.startLine < 4294967296)
    (startColumn : block.startColumn < 4294967296) (endLine : block.endLine < 4294967296) :
    (ofBlock showPreview block).place = block.place := by
  simp only [place, ofBlock, coordinate, Nat.mod_eq_of_lt startLine, Nat.mod_eq_of_lt startColumn,
    Nat.mod_eq_of_lt endLine, Block.place]

/-- Sorting the blocks that are folded is folding those that are sorted. -/
theorem ofBlocks_eq_listed (showPreview : Bool) (blocks : List Block) :
    ofBlocks showPreview blocks =
      ((Block.sorted blocks).filter (!·.isSingleLine)).map (ofBlock showPreview) := by
  have early := Block.sorted_stablySorts (blocks.filter (!·.isSingleLine))
  have late := (Block.sorted_stablySorts blocks).filter (!·.isSingleLine)
  rw [ofBlocks, early.unique late]

/-- The regions to fold are those of the blocks as they are listed, without the blocks of one line.
No other block is lost or appears twice. If the numbers of the blocks fit, the regions stand in
order, and those at one place in the order in which their blocks were found. -/
theorem ofBlocks_follow_listing (showPreview : Bool) (blocks : List Block) :
    let folded (block : Block) : FoldingRange := {
      startLine := block.startLine % 4294967296
      startCharacter := block.startColumn % 4294967296
      endLine := block.endLine % 4294967296
      endCharacter := block.endColumn % 4294967296
      collapsedText := if showPreview then some block.preview else none }
    let listed := Block.sorted blocks
    let ranges := ofBlocks showPreview blocks
    let found := (blocks.filter (!·.isSingleLine)).map folded
    StablySorts Block.place blocks listed ∧
      ranges = (listed.filter (!·.isSingleLine)).map folded ∧
      ranges.Perm found ∧
      ((∀ block ∈ blocks, block.startLine < 4294967296 ∧ block.startColumn < 4294967296 ∧
        block.endLine < 4294967296) → StablySorts place found ranges) := by
  intro folded listed ranges found
  have sorts := Block.sorted_stablySorts blocks
  have followed : ranges = (listed.filter (!·.isSingleLine)).map folded :=
    ofBlocks_eq_listed showPreview blocks
  have multiline := sorts.filter (!·.isSingleLine)
  rw [followed]
  refine ⟨sorts, rfl, multiline.perm.map folded, fun fit => multiline.map fun block member => ?_⟩
  obtain ⟨startLine, startColumn, endLine⟩ := fit block (List.mem_of_mem_filter member)
  exact place_ofBlock showPreview startLine startColumn endLine

/-- Two blocks at one place, found after one that stands below them and with one of a single line
between. -/
theorem ofBlocks_follow_listing_tied :
    let block (startLine endLine endColumn : Nat) (preview : String) : Block :=
      ⟨startLine, 4, endLine, endColumn, [], preview.toList, "python", startLine == endLine⟩
    let blocks := [block 10 12 7 "late", block 1 3 9 "first", block 2 2 8 "short", block 1 3 7 "second"]
    (∀ block ∈ blocks, block.startLine < 4294967296 ∧ block.startColumn < 4294967296 ∧
      block.endLine < 4294967296) ∧
      (ofBlocks true blocks).map collapsedText =
        [some "first".toList, some "second".toList, some "late".toList] ∧
      StablySorts place ((blocks.filter (!·.isSingleLine)).map (ofBlock true))
        (ofBlocks true blocks) := by
  intro block blocks
  have fit : ∀ block ∈ blocks, block.startLine < 4294967296 ∧ block.startColumn < 4294967296 ∧
      block.endLine < 4294967296 := by decide
  refine ⟨fit, ?_, (ofBlocks_follow_listing true blocks).2.2.2 fit⟩
  simp [blocks, block, ofBlocks, Block.sorted, List.mergeSort, List.MergeSort.Internal.splitInTwo,
    Block.precedes, ofBlock]

end FoldingRange

end DocBlocks
