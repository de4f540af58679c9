/-
This file measures regular expressions by the automata that match them byte by byte, one that
reads forwards and one that reads backwards.
-/

import DocBlocks.Regex.Tree
import DocBlocks.Regex.Utf8
import Std.Data.TreeMap

namespace DocBlocks.Regex

/-- What the states made so far take: their number, and the bytes of their lists of transitions. -/
structure Footprint where
  states : Nat := 0
  lists : Nat := 0
deriving DecidableEq, Repr

namespace Footprint

/-- How many bytes the states of an automaton may take. -/
def limit : Nat := 10485760

def bytes (footprint : Footprint) : Nat :=
  footprint.states * 32 + footprint.lists

def fits (footprint : Footprint) : Bool :=
  footprint.bytes ≤ limit

/-- Adds states without lists. -/
def grow (footprint : Footprint) (count : Nat) : Footprint :=
  { footprint with states := footprint.states + count }

/-- Adds a state with transitions for ranges of bytes. -/
def growSparse (footprint : Footprint) (transitions : Nat) : Footprint :=
  ⟨footprint.states + 1, footprint.lists + transitions * 8⟩

/-- Adds branches to states that choose between others. -/
def branch (footprint : Footprint) (count : Nat) : Footprint :=
  { footprint with lists := footprint.lists + count * 4 }

/-- The states after a part, and whether the part ends in a state that chooses between others. To
lead on from such a state takes a branch more. -/
structure Part where
  total : Footprint
  endsInChoice : Bool := false

def Part.ledOn (part : Part) : Footprint :=
  if part.endsInChoice then part.total.branch 1 else part.total

def mixNumber (mixed : UInt64) (number : Nat) : UInt64 :=
  (mixed ^^^ number.toUInt64) * 1099511628211

/-- The place of a list of numbers in a store with a number of places. -/
def placeOf (numbers : List Nat) (places : Nat) : Nat :=
  (numbers.foldl mixNumber 14695981039346656037).toNat % places

/-- The states of a set that can be used again, each with what it stands for. A store has a number
of places, and a state takes the place of an earlier one. -/
structure Store where
  places : Nat
  kept : Std.TreeMap Nat (List Nat × Nat) := {}
  footprint : Footprint

/-- The state that stands for a list of numbers. It is made by `make` if it is not in the store. -/
def Store.obtain (store : Store) (numbers : List Nat) (make : Footprint → Footprint) :
    Nat × Store :=
  let place := placeOf numbers store.places
  let made := { store with
    kept := store.kept.insert place (numbers, store.footprint.states)
    footprint := make store.footprint }
  match store.kept[place]? with
  | some (other, state) => if other == numbers then (state, store) else (store.footprint.states, made)
  | none => (store.footprint.states, made)

/-- The state from which the sequences lead to `target`. Sequences with the same first range share
a transition, and the states that the transitions lead to are made first. -/
def reach (target : Nat) : (depth : Nat) → List (List Utf8.ByteRange) → Store → Nat × Store
  | 0, _, store => (target, store)
  | _ + 1, [[]], store => (target, store)
  | depth + 1, sequences, store =>
    let groups := sequences.splitBy fun left right => left.head? == right.head?
    let (numbers, store) := groups.foldl (fun (numbers, store) group =>
      let (low, high) := (group.head?.bind List.head?).getD (0, 0)
      let (next, store) := reach target depth (group.map List.tail) store
      (numbers ++ [low, high, next], store)) (([] : List Nat), store)
    store.obtain numbers (·.growSparse groups.length)

/-- A state for each byte of a sequence, read backwards, where states with the same range and the
same successor are shared. -/
def trace (target : Nat) (sequence : List Utf8.ByteRange) (store : Store) : Store :=
  (sequence.foldl (fun (state, store) (low, high) =>
    store.obtain [state, low, high] (·.grow 1)) (target, store)).2

/-- The states for one character of a set. -/
def ofCodes (backwards : Bool) (codes : Text.Ranges) (footprint : Footprint) : Footprint :=
  if codes.all fun (_, last) => last ≤ 0x7F then (footprint.grow 1).growSparse codes.size
  else if backwards then
    let target := footprint.states + 1
    ((Utf8.sequences codes).foldl (fun store sequence =>
      let store := trace target sequence store
      { store with footprint := store.footprint.branch 1 })
      (Store.mk 1000 {} (footprint.grow 2))).footprint
  else
    let start := Store.mk 10000 {} (footprint.grow 1)
    (reach footprint.states 4 (Utf8.sequences codes) start).2.footprint

/-- Texts by their bytes. What follows a complete text stands apart from what was there before
it. -/
inductive Trie where
  | node (closed : List (List (Nat × Trie))) (current : List (Nat × Trie))

namespace Trie

def empty : Trie := node [] []

def isLeaf : Trie → Bool
  | node closed current => closed.flatten.isEmpty && current.isEmpty

/-- Changes what follows a byte. -/
def update (byte : Nat) (change : Trie → Trie) : List (Nat × Trie) → List (Nat × Trie)
  | [] => [(byte, change empty)]
  | (other, next) :: rest =>
    if other == byte then (other, change next) :: rest else (other, next) :: update byte change rest

def insert : List Nat → Trie → Trie
  | [], node closed current =>
    if (node closed current).isLeaf && !closed.isEmpty then node closed current
    else node (closed ++ [current]) []
  | byte :: rest, node closed current => node closed (update byte (insert rest) current)

mutual

def footprint : Trie → Footprint → Footprint
  | node closed current, total =>
    let total := chunkFootprint current (chunksFootprint closed total)
    let filled := (current :: closed).countP fun chunk => !chunk.isEmpty
    (total.grow 1).branch (filled + closed.length)

def chunksFootprint : List (List (Nat × Trie)) → Footprint → Footprint
  | [], total => total
  | chunk :: chunks, total => chunksFootprint chunks (chunkFootprint chunk total)

/-- The transitions of one chunk form a state, after the states that they lead to. -/
def chunkFootprint : List (Nat × Trie) → Footprint → Footprint
  | [], total => total
  | (_, next) :: rest, total =>
    let total := edgesFootprint rest (if next.isLeaf then total else next.footprint total)
    if rest.isEmpty then total.grow 1 else total.growSparse (rest.length + 1)

def edgesFootprint : List (Nat × Trie) → Footprint → Footprint
  | [], total => total
  | (_, next) :: rest, total =>
    edgesFootprint rest (if next.isLeaf then total else next.footprint total)

end

end Trie

def literalBytes (backwards : Bool) (characters : List Char) : List Nat :=
  let bytes := characters.flatMap fun character => Utf8.bytes character.toNat
  if backwards then bytes.reverse else bytes

/-- The states for a choice between texts. -/
def ofLiterals (backwards : Bool) (literals : List (List Char)) (footprint : Footprint) :
    Footprint :=
  let insert (trie : Trie) (literal : List Char) := trie.insert (literalBytes backwards literal)
  (literals.foldl insert Trie.empty).footprint (footprint.grow 1)

/-- How an expression adds to the states made before it. -/
abbrev Measure := Footprint → Part

namespace Measure

def plain (add : Footprint → Footprint) : Measure := fun footprint =>
  ⟨add footprint, false⟩

def followedBy (first second : Measure) : Measure := fun footprint =>
  second (first footprint).ledOn

/-- Further rounds after a part. They are not counted to the end if they do not fit. -/
def rounds (round : Measure) : Nat → Part → Part
  | 0, part => part
  | count + 1, part =>
    if part.total.fits then rounds round count (round part.ledOn) else part

/-- A fixed number of rounds. -/
def times (round : Measure) (count : Nat) : Measure := fun footprint =>
  match count with
  | 0 => ⟨footprint.grow 1, false⟩
  | count + 1 => round.rounds count (round footprint)

/-- A round that may be left out, before which there is a choice. -/
def optionalRound (round : Measure) : Measure := fun footprint =>
  let part := round (footprint.grow 1)
  { part with total := part.total.branch 2 }

/-- A round, and a choice to begin it again. -/
def plus (round : Measure) : Measure := fun footprint =>
  ⟨((round footprint).ledOn.grow 1).branch 1, true⟩

/-- Any number of rounds. If a round can take no character, one such round is tried before
none. -/
def star (round : Measure) (takesSome : Bool) : Measure := fun footprint =>
  if takesSome then ⟨(round (footprint.grow 1)).ledOn.branch 1, true⟩
  else ⟨((round footprint).ledOn.grow 3).branch 4, false⟩

/-- At least a number of rounds. -/
def atLeast (round : Measure) (takesSome : Bool) : Nat → Measure
  | 0 => round.star takesSome
  | 1 => round.plus
  | count + 1 => (round.times count).followedBy round.plus

/-- A number of rounds between two bounds. -/
def between (round : Measure) (least greatest : Nat) : Measure := fun footprint =>
  if least == greatest then round.times least footprint
  else if least == 0 && greatest == 1 then
    ⟨(round.optionalRound footprint).ledOn.grow 1, false⟩
  else
    let start := (round.times least footprint).ledOn.grow 1
    ⟨(round.optionalRound.rounds (greatest - least) ⟨start, false⟩).ledOn, false⟩

end Measure

end Footprint

namespace Tree

open Footprint

def literal? : Tree → Option (List Char)
  | literal characters => some characters
  | _ => none

mutual

/-- The states for an expression, in the automaton for one of the two directions. -/
def measure (backwards : Bool) : Tree → Measure
  | empty => .plain (·.grow 1)
  | literal characters => .plain (·.grow (literalBytes backwards characters).length)
  | set _ codes => .plain (ofCodes backwards codes)
  | look _ => .plain (·.grow 1)
  | repeated _ least greatest inner =>
    match greatest with
    | none => (inner.measure backwards).atLeast inner.takesSome least
    | some greatest => (inner.measure backwards).between least greatest
  | group inner =>
    if backwards then inner.measure backwards
    else fun footprint => ⟨(inner.measure backwards (footprint.grow 1)).ledOn.grow 1, false⟩
  | sequence parts => measureSequence backwards parts
  | choice parts =>
    match parts.mapM literal? with
    | some literals => .plain (ofLiterals backwards literals)
    | none => .plain (measureChoice backwards 2 parts)

def measureSequence (backwards : Bool) : List Tree → Measure
  | [] => .plain (·.grow 1)
  | [part] => part.measure backwards
  | part :: parts =>
    if backwards then (measureSequence backwards parts).followedBy (part.measure backwards)
    else (part.measure backwards).followedBy (measureSequence backwards parts)

/-- The alternatives of a choice. The states that begin and end it are made after the first two. -/
def measureChoice (backwards : Bool) (pending : Nat) : List Tree → Footprint → Footprint
  | [], footprint => footprint
  | part :: parts, footprint =>
    let total := (part.measure backwards footprint).ledOn.branch 1
    measureChoice backwards (pending - 1) parts (if pending == 1 then total.grow 2 else total)

end

/-- The states by which a match can begin anywhere, unless it is bound to one end. -/
def lead (tree : Tree) (backwards : Bool) : Footprint :=
  let start : Footprint := {}
  if tree.isBoundBy (if backwards then .textEnd else .textStart) backwards then start.grow 1
  else ((start.grow 2).growSparse 1).branch 2

/-- All states of the automaton for one direction. -/
def footprint (tree : Tree) (backwards : Bool) : Footprint :=
  let lead := tree.lead backwards
  if backwards then (tree.measure true lead).ledOn.grow 1
  else (tree.measure false (lead.grow 1)).ledOn.grow 2

/-- The automata for both directions keep to the limit. -/
def fits (tree : Tree) : Bool :=
  (tree.footprint false).fits && (tree.footprint true).fits

end Tree

end DocBlocks.Regex
