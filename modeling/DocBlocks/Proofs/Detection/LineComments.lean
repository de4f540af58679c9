/-
This file compares what the patterns for comment lines find with the runs of such lines, and so
reads their expressions as conditions on the beginning of a line.
-/

import DocBlocks.Proofs.Detection.Builtin
import DocBlocks.Proofs.Detection.Runs

namespace DocBlocks

open Text
open Regex (Leave ofParts letters withoutOther?)

/-- The line begins with just three slashes, after white space. -/
def isOuterComment (line : Text) : Bool :=
  "///".toList.isPrefixOf (trimStart line) && !"////".toList.isPrefixOf (trimStart line)

/-- The line begins with two slashes and an exclamation mark, after white space. -/
def isInnerComment (line : Text) : Bool :=
  "//!".toList.isPrefixOf (trimStart line)

/-- Something follows a marker exactly if the text starts with the marker. -/
theorem Text.after?_isSome (marker text : Text) :
    (after? marker text).isSome = marker.isPrefixOf text := by
  fun_induction after? marker text with
  | case1 text => rfl
  | case2 => rfl
  | case3 first marker text ih => simp [ih]
  | case4 first marker character text different => simp [List.isPrefixOf, different]

namespace Pattern

/-- The expression for three slashes is a row of simple parts. -/
theorem slashOpening_parts : slashOpening.regex = ofParts (.edge .textStart :: .many .blank ::
    (letters "///".toList ++ [.oneOrEdge (.complement (.single '/')) .textEnd])) := rfl

theorem innerOpening_parts : innerOpening.regex = ofParts (.edge .textStart :: .many .blank ::
    (letters "//!".toList ++ [])) := rfl

/-- A rule that is bound to the start of the line recognises the lines of which it leaves something,
be it nothing but the end. -/
theorem recognises_anchored {pattern : Pattern} {expression : Regex.Expression}
    {parts : List Regex.Part} {left? : Text → Option Text} {marked : Text → Bool}
    (perLine : pattern.multiline = false) (opening : pattern.opening = .regex expression)
    (row : expression.regex = ofParts (.edge .textStart :: parts)) (leave : Leave parts left?)
    (marks : ∀ line, (left? line).isSome = marked line) : pattern.Recognises marked where
  perLine := perLine
  found line feedless := by
    have known := marks line
    rw [opening]
    rcases find_anchored row leave feedless with ⟨isLeft, missing⟩ | ⟨taken, rest, isLeft, _, found⟩
    · rw [isLeft] at known
      exact ⟨0, by rw [missing, ← known]; rfl⟩
    · rw [isLeft] at known
      exact ⟨byteLength taken, by rw [found, ← known]; rfl⟩

/-- Three slashes are followed by something other than a slash, or by nothing, if they are not
followed by a fourth. -/
theorem slashOpening_marks (line : Text) :
    ((after? "///".toList (trimStart line)).bind (withoutOther? ['/'])).isSome =
      isOuterComment line := by
  rw [isOuterComment, ← after?_isSome]
  cases found : after? "///".toList (trimStart line) with
  | none => rfl
  | some rest =>
      have whole : trimStart line = "///".toList ++ rest := (after?_eq_some _ _ _).mp found
      rw [whole]
      cases rest with
      | nil => rfl
      | cons character rest =>
          by_cases slash : character = '/'
          · subst slash
            rfl
          · have other : '/' ≠ character := fun same => slash same.symm
            simp [withoutOther?, List.isPrefixOf, slash, other]

/-- The patterns for three slashes recognise the lines of outer comments. -/
theorem tripleSlashFor_recognises (language : String) :
    (tripleSlashFor language).Recognises isOuterComment := by
  have slash (character : Char) :
      (Regex.CharClass.single '/').contains character = decide (character ∈ ['/']) := by
    rw [Regex.single_contains, decide_eq_decide, List.mem_singleton, eq_comm]
  exact recognises_anchored rfl rfl slashOpening_parts
    (leave_marker rfl (by decide) (.otherThan slash)) slashOpening_marks

/-- The pattern for inner comments recognises their lines. -/
theorem innerDoc_recognises : innerDoc.Recognises isInnerComment :=
  recognises_anchored rfl rfl innerOpening_parts (leave_marker rfl (by decide) .nothing) fun line => by
    rw [Option.bind_fun_some, after?_isSome, isInnerComment]

end Pattern

/-- A line is not a comment of both kinds. -/
theorem comments_apart (line : Text) (outer : isOuterComment line = true)
    (inner : isInnerComment line = true) : False := by
  rw [isInnerComment, ← after?_isSome] at inner
  obtain ⟨rest, found⟩ := Option.isSome_iff_exists.mp inner
  rw [isOuterComment, (after?_eq_some _ _ _).mp found] at outer
  cases outer

namespace Detector

/-- The languages whose only comment lines are those with three slashes. -/
def outerLanguages : List String :=
  ["csharp", "fsharp", "swift", "dart"]

/-- Such a language has one pattern. -/
theorem lookup_outer {language : String} (member : language ∈ outerLanguages) :
    Registry.builtin.lookup language = [Pattern.tripleSlashFor language] := by
  simp only [outerLanguages, List.mem_cons, List.not_mem_nil, or_false] at member
  rcases member with rfl | rfl | rfl | rfl <;> rfl

theorem lookup_rust : Registry.builtin.lookup "rust" =
    [Pattern.tripleSlashFor "rust", Pattern.innerDoc] := rfl

/-- The comment lines that are found with the patterns known from the start are the runs of such
lines. Of a language with two kinds of comment lines, those with three slashes come first. -/
theorem complete_builtin_runs (previewLength : Nat) (text : Text) :
    let detector : Detector := ⟨Registry.builtin, previewLength⟩
    (∀ language ∈ outerLanguages, detector.complete text language =
      (runs isOuterComment text.lines).map fun span =>
        buildBlock text.lines language previewLength span .linePrefix) ∧
    detector.complete text "rust" =
      (runs isOuterComment text.lines ++ runs isInnerComment text.lines).map fun span =>
        buildBlock text.lines "rust" previewLength span .linePrefix := by
  intro detector
  have outer (language : String) :=
    Span.scan_recognises (Pattern.tripleSlashFor_recognises language) text
  have inner := Span.scan_recognises Pattern.innerDoc_recognises text
  have complete (language : String) : detector.complete text language =
      detector.thorough text language := complete_thorough Registry.builtin_quiet text language
  constructor
  · intro language member
    rw [complete]
    apply thorough_of_nodup detector _ _ _ (runs_nodup isOuterComment text.lines)
    rw [lookup_outer member, candidatesOf_scan (outer language)]
    exact List.append_nil _
  · rw [complete]
    apply thorough_of_nodup detector
    · rw [List.nodup_append]
      exact ⟨runs_nodup _ _, runs_nodup _ _, fun first ofOuter second ofInner =>
        runs_apart comments_apart ofOuter ofInner⟩
    · rw [lookup_rust, candidatesOf_scan (outer "rust"), candidatesOf_scan inner, List.map_append]
      exact congrArg _ (List.append_nil _)

/-- A run that is broken by a fourth slash, a run of lines with different white space around them,
and runs of both kinds that touch each other. -/
theorem complete_builtin_runs_broken :
    let detector : Detector := ⟨Registry.builtin, 60⟩
    let text : Text :=
      "//! a\n///b \n \t///\n//// c\n\n  //!d\n//!\n /// e　\nx /// f\n// / g\n///".toList
    "dart" ∈ outerLanguages ∧
    detector.complete text "dart" = [⟨1, 0, 2, 5⟩, ⟨7, 1, 7, 6⟩, ⟨10, 0, 10, 3⟩].map (fun span =>
      buildBlock text.lines "dart" 60 span .linePrefix) ∧
    detector.complete text "rust" =
      [⟨1, 0, 2, 5⟩, ⟨7, 1, 7, 6⟩, ⟨10, 0, 10, 3⟩, ⟨0, 0, 0, 5⟩, ⟨5, 2, 6, 3⟩].map (fun span =>
        buildBlock text.lines "rust" 60 span .linePrefix) := by
  intro detector text
  have listed : "dart" ∈ outerLanguages := by decide
  have outer : runs isOuterComment text.lines = [⟨1, 0, 2, 5⟩, ⟨7, 1, 7, 6⟩, ⟨10, 0, 10, 3⟩] := by
    decide +kernel
  have inner : runs isInnerComment text.lines = [⟨0, 0, 0, 5⟩, ⟨5, 2, 6, 3⟩] := by decide +kernel
  obtain ⟨others, rust⟩ := complete_builtin_runs 60 text
  refine ⟨listed, ?_, ?_⟩
  · rw [← outer]
    exact others "dart" listed
  · have both : runs isOuterComment text.lines ++ runs isInnerComment text.lines =
        [⟨1, 0, 2, 5⟩, ⟨7, 1, 7, 6⟩, ⟨10, 0, 10, 3⟩, ⟨0, 0, 0, 5⟩, ⟨5, 2, 6, 3⟩] := by
      rw [outer, inner]
      rfl
    rw [← both]
    exact rust

end Detector

end DocBlocks
