/-
This file shows that the spans a scan finds lie within the lines it is given, whatever the matchers
of the pattern do.
-/

import DocBlocks.Detection.Span
import DocBlocks.Proofs.Detection.Trial
import DocBlocks.Proofs.Text.Slice

namespace DocBlocks.Span

/-- The column is one of the line at an index, or the end of that line. -/
def OnLine (lines : List Text) (index column : Nat) : Prop :=
  ∃ line, lines[index]? = some line ∧ column ≤ line.length

/-- The span starts and ends on lines that exist, and at columns that these have. -/
structure Within (lines : List Text) (span : Span) : Prop where
  ordered : span.startLine ≤ span.endLine
  start : OnLine lines span.startLine span.startColumn
  stop : OnLine lines span.endLine span.endColumn

/-- A column that is found is one of the line. -/
theorem columnOf_le {line : Text} {offset column : Nat}
    (found : (columnOf line offset).outcome = some column) : column ≤ line.length := by
  obtain ⟨before, cut, same⟩ := Trial.of_bind found
  cases same
  exact (Text.prefix_of_takeBytes? cut).length_le

/-- The column of a marker is one of the line. -/
theorem markerColumn_le {line : Text} {offset column : Nat}
    (found : (markerColumn line offset).outcome = some column) : column ≤ line.length := by
  obtain ⟨rest, _, found⟩ := Trial.of_bind found
  exact columnOf_le found

/-- The column after the last visible character of a marker is one of the line. -/
theorem trimmedColumn_le {line : Text} {range : ByteRange} {column : Nat}
    (found : (trimmedColumn line range).outcome = some column) : column ≤ line.length := by
  obtain ⟨matched, _, found⟩ := Trial.of_bind found
  exact columnOf_le found

/-- A block that ends on its opening line ends at one of its columns. -/
theorem singleLineEnd_le {pattern : Pattern} {line : Text} {column : Nat}
    (found : (singleLineEnd pattern line).outcome = some (some column)) : column ≤ line.length := by
  unfold singleLineEnd at found
  split at found
  · cases found
  · obtain ⟨range, _, found⟩ := Trial.of_bind found
    cases range with
    | none => cases found
    | some range =>
        obtain ⟨measured, trimmed, same⟩ := Trial.of_bind found
        cases same
        exact trimmedColumn_le trimmed

/-- A closing marker is found on the line that is said to hold it. -/
theorem findClosing_line {closing : Matcher} {lines : List Text} {before stop : Nat} {last : Text}
    (found : (findClosing closing lines).outcome = some (some (before, last, stop))) :
    lines[before]? = some last := by
  induction lines generalizing before with
  | nil => cases found
  | cons line lines ih =>
      rw [findClosing] at found
      obtain ⟨range, _, found⟩ := Trial.of_bind found
      cases range with
      | some range =>
          cases found
          rfl
      | none =>
          obtain ⟨place, later, same⟩ := Trial.of_bind found
          obtain ⟨⟨count, other, offset⟩, known, shifted⟩ :=
            Option.map_eq_some_iff.mp (Option.some.inj same)
          cases shifted
          rw [known] at later
          exact ih later

/-- Wherever a block is closed, there is a line that ends no earlier. -/
theorem closingOf_place {pattern : Pattern} {opening : ByteRange} {line : Text}
    {later : List Text} {noneLater : Bool} {closing : Closing}
    (found : (closingOf pattern opening line later noneLater).outcome = some closing) :
    match closing with
    | .sameLine column => column ≤ line.length
    | .laterLine before column => OnLine later before column
    | .missing => True := by
  unfold closingOf at found
  obtain ⟨remainder, _, found⟩ := Trial.of_bind found
  obtain ⟨range, _, found⟩ := Trial.of_bind found
  cases range with
  | some range =>
      obtain ⟨column, measured, same⟩ := Trial.of_bind found
      cases same
      exact columnOf_le measured
  | none =>
      obtain ⟨place, searched, found⟩ := Trial.of_bind found
      cases place with
      | none =>
          cases found
          trivial
      | some place =>
          obtain ⟨before, last, stop⟩ := place
          obtain ⟨column, measured, same⟩ := Trial.of_bind found
          cases same
          have line := findClosing_line searched
          cases noneLater with
          | true => cases line
          | false => exact ⟨last, line, columnOf_le measured⟩

/-- The lines from an index on are those of a whole text. -/
theorem OnLine.shift {whole later : List Text} {line : Text} {index before column : Nat}
    (rest : whole.drop index = line :: later) (place : OnLine later before column) :
    OnLine whole (index + 1 + before) column := by
  obtain ⟨last, found, within⟩ := place
  refine ⟨last, ?_, within⟩
  rw [← List.getElem?_drop, ← List.drop_drop, rest]
  exact found

/-- The first of the lines left has its columns. -/
theorem OnLine.first {whole later : List Text} {line : Text} {index column : Nat}
    (rest : whole.drop index = line :: later) (within : column ≤ line.length) :
    OnLine whole index column := by
  refine ⟨line, ?_, within⟩
  have head : (whole.drop index)[0]? = some line := by rw [rest]; rfl
  simpa using head

/-- A scan of the lines from an index on finds spans within the whole text. -/
theorem scanBlocks_within (pattern : Pattern) (whole : List Text) (noneLater : Bool) (index : Nat)
    (lines : List Text) (rest : whole.drop index = lines) (spans : List Span)
    (found : (scanBlocks pattern noneLater index lines).outcome = some spans) :
    ∀ span ∈ spans, span.Within whole := by
  induction noneLater, index, lines using scanBlocks.induct generalizing spans with
  | case1 noneLater index =>
      rw [scanBlocks] at found
      cases found
      simp
  | case2 noneLater index line later next afterBlock afterMissing =>
      have onward : whole.drop (index + 1) = later := by rw [← List.drop_drop, rest]; rfl
      rw [scanBlocks] at found
      obtain ⟨opening, _, found⟩ := Trial.of_bind found
      cases opening with
      | none => exact next onward spans found
      | some opening =>
          obtain ⟨column, marked, found⟩ := Trial.of_bind found
          have start := OnLine.first rest (markerColumn_le marked)
          obtain ⟨single, closed, found⟩ := Trial.of_bind found
          cases single with
          | some endColumn =>
              obtain ⟨others, scanned, same⟩ := Trial.of_bind found
              cases same
              have stop := OnLine.first rest (singleLineEnd_le closed)
              exact List.forall_mem_cons.mpr
                ⟨⟨Nat.le_refl _, start, stop⟩, next onward others scanned⟩
          | none =>
              obtain ⟨closing, place, found⟩ := Trial.of_bind found
              have placed := closingOf_place place
              cases closing with
              | sameLine endColumn =>
                  obtain ⟨others, scanned, same⟩ := Trial.of_bind found
                  cases same
                  have stop := OnLine.first rest placed
                  exact List.forall_mem_cons.mpr
                    ⟨⟨Nat.le_refl _, start, stop⟩, next onward others scanned⟩
              | laterLine before endColumn =>
                  obtain ⟨others, scanned, same⟩ := Trial.of_bind found
                  cases same
                  have stop := OnLine.shift rest placed
                  have further : whole.drop (index + 1 + before + 1) = later.drop (before + 1) := by
                    rw [← onward, List.drop_drop, Nat.add_assoc (index + 1)]
                  refine List.forall_mem_cons.mpr
                    ⟨⟨?_, start, stop⟩, afterBlock before further others scanned⟩
                  simp only
                  omega
              | missing => exact afterMissing onward spans found

/-- The last line of a run is that many lines after the first. -/
theorem runLength_line {opening : Matcher} {first last : Text} {lines : List Text} {count : Nat}
    (found : (runLength opening first lines).outcome = some (count, last)) :
    (first :: lines)[count]? = some last := by
  induction lines generalizing first count with
  | nil =>
      cases found
      rfl
  | cons line lines ih =>
      rw [runLength] at found
      obtain ⟨matched, _, found⟩ := Trial.of_bind found
      cases matched with
      | false =>
          cases found
          rfl
      | true =>
          obtain ⟨⟨more, other⟩, later, same⟩ := Trial.of_bind found
          cases same
          exact ih later

theorem trimEnd_length_le (text : Text) : text.trimEnd.length ≤ text.length := by
  have shorter := (List.dropWhile_suffix (l := text.reverse) Text.isBlank).length_le
  simpa [Text.trimEnd] using shorter

/-- Runs of marked lines lie within the lines. -/
theorem scanRuns_within (pattern : Pattern) (whole : List Text) (index : Nat) (lines : List Text)
    (rest : whole.drop index = lines) (spans : List Span)
    (found : (scanRuns pattern index lines).outcome = some spans) :
    ∀ span ∈ spans, span.Within whole := by
  induction index, lines using scanRuns.induct generalizing spans with
  | case1 index =>
      rw [scanRuns] at found
      cases found
      simp
  | case2 index line later next afterRun =>
      have onward : whole.drop (index + 1) = later := by rw [← List.drop_drop, rest]; rfl
      rw [scanRuns] at found
      obtain ⟨opening, _, found⟩ := Trial.of_bind found
      cases opening with
      | none => exact next onward spans found
      | some opening =>
          obtain ⟨⟨more, last⟩, counted, found⟩ := Trial.of_bind found
          obtain ⟨column, marked, found⟩ := Trial.of_bind found
          obtain ⟨others, scanned, same⟩ := Trial.of_bind found
          cases same
          have start := OnLine.first rest (markerColumn_le marked)
          have stop : OnLine whole (index + more) last.trimEnd.length := by
            refine ⟨last, ?_, trimEnd_length_le last⟩
            rw [← List.getElem?_drop, rest]
            exact runLength_line counted
          have further : whole.drop (index + more + 1) = later.drop more := by
            rw [← onward, List.drop_drop]
            congr 1
            omega
          exact List.forall_mem_cons.mpr
            ⟨⟨Nat.le_add_right _ _, start, stop⟩, afterRun more further others scanned⟩

/-- What a pattern finds in the lines of a text lies within these lines. -/
theorem scan_within (pattern : Pattern) (lines : List Text) (spans : List Span)
    (found : (scan pattern lines).outcome = some spans) : ∀ span ∈ spans, span.Within lines := by
  unfold scan at found
  split at found
  · exact scanBlocks_within pattern lines false 0 lines rfl spans found
  · exact scanRuns_within pattern lines 0 lines rfl spans found

end DocBlocks.Span
