/-
This file finds the documentation blocks of a text.
-/

import DocBlocks.Block
import DocBlocks.Detection.Span
import DocBlocks.Preview.Basic
import DocBlocks.Registry

namespace DocBlocks

/-- The blocks found, and whether the search was stopped before all patterns had run. -/
structure Detection where
  blocks : List Block
  cancelled : Bool
deriving DecidableEq, Repr

/-- The patterns to search with and the length of previews. -/
structure Detector where
  registry : Registry
  previewLength : Nat := 60

namespace Detector

/-- What the patterns found, each span with the family of its pattern. -/
structure Pass where
  candidates : List (Span × Family)
  /-- The search was stopped before some pattern. -/
  stopped : Bool
  /-- A matcher cancelled the search, whether that was noticed or not. -/
  cancels : Bool
deriving DecidableEq, Repr

/-- Runs the patterns in order. Before the pattern at `index` the search stops if it is cancelled
from outside by then, or by a matcher that ran before. A pattern that fails finds nothing. -/
def pass (lines : List Text) (cancelledBy : Nat → Bool) (index : Nat) (cancels : Bool) :
    List Pattern → Pass
  | [] => ⟨[], false, cancels⟩
  | pattern :: patterns =>
    if cancels || cancelledBy index then ⟨[], true, cancels⟩
    else
      let trial := Span.scan pattern lines
      let spans := trial.outcome.getD []
      let rest := pass lines cancelledBy (index + 1) trial.cancels patterns
      { rest with candidates := spans.map (fun span => (span, pattern.family)) ++ rest.candidates }

/-- Keeps the first candidate of each span. -/
def distinct (seen : List Span) : List (Span × Family) → List (Span × Family)
  | [] => []
  | (span, family) :: candidates =>
    if seen.contains span then distinct seen candidates
    else (span, family) :: distinct (span :: seen) candidates

/-- The text of a span: its lines as a whole. -/
def rawContent (lines : List Text) (span : Span) : Text :=
  Text.joinLines ((lines.drop span.startLine).take (span.endLine + 1 - span.startLine))

def buildBlock (lines : List Text) (language : String) (previewLength : Nat) (span : Span)
    (family : Family) : Block :=
  let raw := rawContent lines span
  { startLine := span.startLine
    startColumn := span.startColumn
    endLine := span.endLine
    endColumn := span.endColumn
    rawContent := raw
    preview := family.preview raw previewLength
    language
    isSingleLine := span.startLine == span.endLine }

def passOver (detector : Detector) (text : Text) (language : String) (cancelledBy : Nat → Bool) :
    Pass :=
  pass text.lines cancelledBy 0 false (detector.registry.lookup language)

/-- The blocks of what the patterns found. -/
def detectionOf (detector : Detector) (text : Text) (language : String) (found : Pass) :
    Detection :=
  let lines := text.lines
  { blocks := (distinct [] found.candidates).map fun (span, family) =>
      buildBlock lines language detector.previewLength span family
    cancelled := found.stopped }

/-- The blocks of a text, where `cancelledBy index` says whether the search is cancelled from
outside by the time the pattern at `index` is about to run. -/
def run (detector : Detector) (text : Text) (language : String) (cancelledBy : Nat → Bool) :
    Detection :=
  detector.detectionOf text language (detector.passOver text language cancelledBy)

/-- The blocks of a text, with the search cancelled from the start or not at all. -/
def detect (detector : Detector) (text : Text) (language : String) (cancelled : Bool) : Detection :=
  detector.run text language fun _ => cancelled

/-- The blocks of a text, with every pattern run. -/
def complete (detector : Detector) (text : Text) (language : String) : List Block :=
  (detector.detect text language false).blocks

end Detector

end DocBlocks
