/-
This file defines the settings of the server and what makes them valid.
-/

import DocBlocks.Pattern.Spec

namespace DocBlocks

structure Settings where
  previewLength : Nat := 60
  /-- Folded blocks show their preview. -/
  showPreview : Bool := true
  enableHover : Bool := true
  /-- Languages that are not listed are enabled. -/
  enabledLanguages : List (String × Bool) := []
  customPatterns : List PatternSpec := []
  /-- Seconds for which a result is kept. -/
  cacheTtl : Nat := 300
  /-- Seconds between two sweeps of a cache. -/
  cleanupInterval : Nat := 30
deriving DecidableEq, Repr

/-- Why settings cannot be applied. -/
inductive SettingsError where
  | malformed (cause : Json.DecodeError)
  | previewLength (length : Nat)
  | zeroDuration (field : String)
  | customPattern (index : Nat) (cause : PatternError)
deriving Repr

def SettingsError.message : SettingsError → String
  | malformed cause => "malformed settings: " ++ cause.message
  | previewLength length => "maxPreviewLength must be between 4 and 500, got " ++ toString length
  | zeroDuration field => field ++ " must be greater than zero"
  | customPattern index cause => "custom pattern #" ++ toString index ++ ": " ++ cause.message

namespace Settings

def shortestPreview : Nat := 4

def longestPreview : Nat := 500

/-- Compiles patterns, of which the first stands at `index`. -/
def compileFrom (index : Nat) : List PatternSpec → Except SettingsError (List Pattern)
  | [] => .ok []
  | spec :: specs => do
    let pattern ← spec.compile.mapError (SettingsError.customPattern index)
    let patterns ← compileFrom (index + 1) specs
    .ok (pattern :: patterns)

def compilePatterns (settings : Settings) : Except SettingsError (List Pattern) :=
  compileFrom 0 settings.customPatterns

def validate (settings : Settings) : Except SettingsError Unit := do
  if settings.previewLength < shortestPreview || longestPreview < settings.previewLength then
    .error (.previewLength settings.previewLength)
  else if settings.cacheTtl = 0 then .error (.zeroDuration "cacheTtlSecs")
  else if settings.cleanupInterval = 0 then .error (.zeroDuration "cacheCleanupIntervalSecs")
  else
    let _ ← settings.compilePatterns
    .ok ()

def isEnabled (settings : Settings) (language : String) : Bool :=
  (settings.enabledLanguages.lookup language).getD true

end Settings

end DocBlocks
