/-
This file shows that keys tell the revisions of documents apart, and which keys begin like those of
a document.
-/

import DocBlocks.Document

namespace DocBlocks

/-- The last separator divides a text in one way only. -/
theorem append_separator_injective {first second firstRest secondRest : List Char}
    (same : first ++ '#' :: firstRest = second ++ '#' :: secondRest)
    (firstPlain : '#' ∉ firstRest) (secondPlain : '#' ∉ secondRest) :
    first = second ∧ firstRest = secondRest := by
  rcases List.append_eq_append_iff.mp same with ⟨extra, longer, rest⟩ | ⟨extra, longer, rest⟩
  · cases extra with
    | nil =>
        cases rest
        exact ⟨by simpa using longer.symm, rfl⟩
    | cons head tail =>
        obtain ⟨_, tailRest⟩ := List.cons_eq_cons.mp rest
        exact absurd (by simp [tailRest]) firstPlain
  · cases extra with
    | nil =>
        cases rest
        exact ⟨by simpa using longer, rfl⟩
    | cons head tail =>
        obtain ⟨_, tailRest⟩ := List.cons_eq_cons.mp rest
        exact absurd (by simp [tailRest]) secondPlain

/-- Numbers are written in digits. -/
theorem not_mem_repr {character : Char} (other : character.isDigit = false) (value : Nat) :
    character ∉ value.repr.toList := by
  intro member
  rw [Nat.toList_repr] at member
  have digit := Nat.isDigit_of_mem_toDigits (by decide) (by decide) member
  rw [other] at digit
  cases digit

theorem toList_negSucc (value : Nat) :
    (toString (Int.negSucc value)).toList = '-' :: value.succ.repr.toList := by
  have sign : "-".toList = ['-'] := rfl
  change ("-" ++ value.succ.repr).toList = _
  rw [String.toList_append, sign, List.singleton_append]

/-- A version is written without number signs. -/
theorem separator_not_mem_version (version : Int) : '#' ∉ (toString version).toList := by
  cases version with
  | ofNat value => exact not_mem_repr (by decide) value
  | negSucc value =>
      rw [toList_negSucc, List.mem_cons]
      rintro (sign | digit)
      · exact absurd sign (by decide)
      · exact not_mem_repr (by decide) value.succ digit

/-- The digits of a number can be read back. -/
theorem repr_toList_injective {first second : Nat}
    (same : first.repr.toList = second.repr.toList) : first = second := by
  have read (value : Nat) : Nat.ofDigitChars 10 (Nat.toDigits 10 value) 0 = value :=
    Nat.ofDigitChars_ten_toDigits
  rw [Nat.toList_repr, Nat.toList_repr] at same
  rw [← read first, same, read]

/-- Versions are written differently. A sign tells the negative ones from the others. -/
theorem version_toList_injective {first second : Int}
    (same : (toString first).toList = (toString second).toList) : first = second := by
  have unsigned (value : Nat) : '-' ∉ (toString (Int.ofNat value)).toList :=
    not_mem_repr (by decide) value
  cases first with
  | ofNat value =>
      cases second with
      | ofNat other => exact congrArg Int.ofNat (repr_toList_injective same)
      | negSucc other =>
          rw [toList_negSucc] at same
          exact absurd (same ▸ List.mem_cons_self) (unsigned value)
  | negSucc value =>
      cases second with
      | ofNat other =>
          rw [toList_negSucc] at same
          exact absurd (same ▸ List.mem_cons_self) (unsigned other)
      | negSucc other =>
          rw [toList_negSucc, toList_negSucc] at same
          have values := repr_toList_injective (List.cons_eq_cons.mp same).2
          exact congrArg Int.negSucc (Nat.succ.inj values)

theorem separator_not_mem_numbered (version : Int) : '#' ∉ 'v' :: (toString version).toList := by
  simpa using separator_not_mem_version version

/-- A key has the name, the version, and the language, with number signs between them. -/
theorem revisionKey_toList (uri : String) (version : Int) (language : String) :
    (revisionKey uri version language).toList =
      (uri.toList ++ '#' :: 'v' :: (toString version).toList) ++ '#' :: language.toList := by
  have hash : "#".toList = ['#'] := rfl
  have mark : "#v".toList = ['#', 'v'] := rfl
  simp only [revisionKey, String.toList_append, hash, mark]
  simp

/-- Revisions with one key are one revision, as long as languages have no number sign. -/
theorem Snapshot.key_injective {first second : Snapshot} (firstPlain : '#' ∉ first.language.toList)
    (secondPlain : '#' ∉ second.language.toList) (same : first.key = second.key) :
    first.uri = second.uri ∧ first.version = second.version ∧
      first.language = second.language := by
  have texts := congrArg String.toList same
  rw [key, key, revisionKey_toList, revisionKey_toList] at texts
  obtain ⟨front, languages⟩ := append_separator_injective texts firstPlain secondPlain
  obtain ⟨uris, versions⟩ := append_separator_injective front (separator_not_mem_numbered _)
    (separator_not_mem_numbered _)
  refine ⟨String.toList_injective uris, ?_, String.toList_injective languages⟩
  exact version_toList_injective (List.cons_eq_cons.mp versions).2

/-- A key names the document, the version and the language of a revision, whatever the name of the
document looks like, as long as languages have no number sign. -/
theorem revisionKey_eq_iff (uri otherUri : String) (version otherVersion : Int)
    (language otherLanguage : String) (plain : '#' ∉ language.toList)
    (otherPlain : '#' ∉ otherLanguage.toList) :
    revisionKey uri version language = revisionKey otherUri otherVersion otherLanguage ↔
      uri = otherUri ∧ version = otherVersion ∧ language = otherLanguage := by
  constructor
  · intro same
    exact @Snapshot.key_injective ⟨uri, version, language, []⟩
      ⟨otherUri, otherVersion, otherLanguage, []⟩ plain otherPlain same
  · rintro ⟨rfl, rfl, rfl⟩
    rfl

/-- Documents whose names end like versions, negative ones too. -/
theorem revisionKey_eq_iff_fragments :
    revisionKey "a#v1#c" (-2) "c" = "a#v1#c#v-2#c" ∧
      revisionKey "a#v1#c" (-2) "c" ≠ revisionKey "a" 1 "c" ∧
      revisionKey "a#v1#c" (-2) "c" ≠ revisionKey "a#v1#c" 2 "c" := by
  have apart (otherUri : String) (otherVersion : Int)
      (differ : ¬("a#v1#c" = otherUri ∧ (-2 : Int) = otherVersion ∧ "c" = "c")) :
      revisionKey "a#v1#c" (-2) "c" ≠ revisionKey otherUri otherVersion "c" :=
    fun same => differ ((revisionKey_eq_iff "a#v1#c" otherUri (-2) otherVersion "c" "c" (by decide)
      (by decide)).mp same)
  exact ⟨by decide, apart "a" 1 (by decide), apart "a#v1#c" 2 (by decide)⟩

-- A number sign in a language makes the keys of two documents one.
example : revisionKey "a" 1 "c#v2#d" = revisionKey "a#v1#c" 2 "d" := by decide

/-- The key of a revision is taken for a revision of its document. -/
theorem Snapshot.keyOfDocument_key (snapshot : Snapshot) :
    keyOfDocument snapshot.uri snapshot.key = true := by
  have hash : "#".toList = ['#'] := rfl
  rw [keyOfDocument, List.isPrefixOf_iff_prefix, key, revisionKey_toList, String.toList_append, hash]
  exact ⟨'v' :: (toString snapshot.version).toList ++ '#' :: snapshot.language.toList, by simp⟩

/-- The key is that of a revision of the document, in a language without a number sign. -/
def RevisionOf (uri key : String) : Prop :=
  ∃ version language, '#' ∉ language.toList ∧ key = revisionKey uri version language

/-- Such a key is one of the document. -/
theorem RevisionOf.keyOfDocument {uri key : String} (revision : RevisionOf uri key) :
    keyOfDocument uri key = true := by
  obtain ⟨version, language, _, rfl⟩ := revision
  exact Snapshot.keyOfDocument_key ⟨uri, version, language, []⟩

/-- The key of a snapshot is that of a revision of its own document and of no other. -/
theorem Snapshot.revisionOf_iff {snapshot : Snapshot} (plain : '#' ∉ snapshot.language.toList)
    (uri : String) : RevisionOf uri snapshot.key ↔ snapshot.uri = uri := by
  constructor
  · rintro ⟨version, language, otherPlain, same⟩
    exact (@key_injective snapshot ⟨uri, version, language, []⟩ plain otherPlain same).1
  · rintro rfl
    exact ⟨snapshot.version, snapshot.language, plain, rfl⟩

/-- What goes up to a separator goes up to the last one, or to one before it. -/
theorem separated_isPrefix_iff {front whole rest : List Char} (plain : '#' ∉ rest) :
    front ++ ['#'] <+: whole ++ '#' :: rest ↔ front = whole ∨ front ++ ['#'] <+: whole := by
  constructor
  · rintro ⟨tail, same⟩
    rw [List.append_assoc, List.singleton_append] at same
    rcases List.append_eq_append_iff.mp same with ⟨extra, longer, behind⟩ | ⟨extra, longer, behind⟩
    · cases extra with
      | nil => exact Or.inl (by simpa using longer.symm)
      | cons head extra =>
          obtain ⟨rfl, _⟩ := List.cons_eq_cons.mp behind
          exact Or.inr ⟨extra, by rw [longer, List.append_assoc, List.singleton_append]⟩
    · cases extra with
      | nil => exact Or.inl (by simpa using longer)
      | cons head extra =>
          obtain ⟨_, tailRest⟩ := List.cons_eq_cons.mp behind
          exact absurd (by simp [tailRest]) plain
  · rintro (rfl | ⟨extra, rfl⟩)
    · exact ⟨rest, by simp⟩
    · exact ⟨extra ++ '#' :: rest, by simp⟩

/-- The revision is of another document, but its key begins like those of `uri`: the name of its
document goes on after `uri` with a number sign, or the name and the version together read like
`uri`. -/
def Snapshot.resembles (snapshot : Snapshot) (uri : String) : Bool :=
  (uri ++ "#").toList.isPrefixOf snapshot.uri.toList ||
    uri == snapshot.uri ++ "#v" ++ toString snapshot.version

/-- No document resembles itself. -/
theorem Snapshot.ne_of_resembles {snapshot : Snapshot} {uri : String}
    (resembles : snapshot.resembles uri = true) : snapshot.uri ≠ uri := by
  rintro rfl
  rcases Bool.or_eq_true_iff.mp resembles with longer | versioned
  · have mark : "#".toList.length = 1 := rfl
    have short := (List.isPrefixOf_iff_prefix.mp longer).length_le
    rw [String.toList_append, List.length_append] at short
    omega
  · have mark : "#v".length = 2 := rfl
    have long := congrArg String.length (beq_iff_eq.mp versioned)
    rw [String.length_append, String.length_append] at long
    omega

/-- A key is taken for one of a document exactly if it is one or begins like one. -/
theorem Snapshot.keyOfDocument_iff {snapshot : Snapshot} (plain : '#' ∉ snapshot.language.toList)
    (uri : String) :
    keyOfDocument uri snapshot.key = true ↔
      snapshot.uri = uri ∨ snapshot.resembles uri = true := by
  have hash : "#".toList = ['#'] := rfl
  have mark : "#v".toList = ['#', 'v'] := rfl
  have named : uri.toList = snapshot.uri.toList ++ '#' :: 'v' :: (toString snapshot.version).toList ↔
      uri = snapshot.uri ++ "#v" ++ toString snapshot.version := by
    rw [← String.toList_inj, String.toList_append, String.toList_append, mark]
    simp
  calc
    keyOfDocument uri snapshot.key = true ↔
        uri.toList ++ ['#'] <+:
          (snapshot.uri.toList ++ '#' :: 'v' :: (toString snapshot.version).toList) ++
            '#' :: snapshot.language.toList := by
      rw [keyOfDocument, List.isPrefixOf_iff_prefix, key, revisionKey_toList,
        String.toList_append, hash]
    _ ↔ uri = snapshot.uri ++ "#v" ++ toString snapshot.version ∨
        uri.toList ++ ['#'] <+:
          snapshot.uri.toList ++ '#' :: 'v' :: (toString snapshot.version).toList := by
      rw [separated_isPrefix_iff plain, named]
    _ ↔ uri = snapshot.uri ++ "#v" ++ toString snapshot.version ∨
        uri = snapshot.uri ∨ uri.toList ++ ['#'] <+: snapshot.uri.toList := by
      rw [separated_isPrefix_iff (separator_not_mem_numbered snapshot.version), String.toList_inj]
    _ ↔ snapshot.uri = uri ∨ snapshot.resembles uri = true := by
      rw [resembles, Bool.or_eq_true_iff, beq_iff_eq, List.isPrefixOf_iff_prefix, String.toList_append,
        hash, eq_comm (a := snapshot.uri)]
      exact or_comm.trans or_assoc

end DocBlocks
