/-
This file reads settings from JSON and writes them.
-/

import DocBlocks.Settings.Basic

namespace DocBlocks.Settings

/-- The key under which the settings may be nested. -/
def sectionKey : String := "docstrings"

def toJson (settings : Settings) : Json :=
  .object [
    ("cacheCleanupIntervalSecs", .nat settings.cleanupInterval),
    ("cacheTtlSecs", .nat settings.cacheTtl),
    ("customPatterns", .array (settings.customPatterns.map PatternSpec.toJson)),
    ("enableHover", .bool settings.enableHover),
    ("enabledLanguages",
      .object (settings.enabledLanguages.map fun (language, enabled) => (language, .bool enabled))),
    ("maxPreviewLength", .nat settings.previewLength),
    ("showPreview", .bool settings.showPreview)]

/-- Every field may be missing. -/
def ofFields (fields : List (String × Json)) : Except Json.DecodeError Settings := do
  let interval ← Json.optionalField fields "cacheCleanupIntervalSecs" (Json.asNatural "u64")
  let ttl ← Json.optionalField fields "cacheTtlSecs" (Json.asNatural "u64")
  let patterns ← Json.optionalField fields "customPatterns" (Json.asList PatternSpec.ofJson)
  let hover ← Json.optionalField fields "enableHover" Json.asBool
  let languages ← Json.optionalField fields "enabledLanguages" (Json.asMap Json.asBool)
  let length ← Json.optionalField fields "maxPreviewLength" (Json.asNatural "usize")
  let preview ← Json.optionalField fields "showPreview" Json.asBool
  let default : Settings := {}
  .ok {
    previewLength := length.getD default.previewLength
    showPreview := preview.getD default.showPreview
    enableHover := hover.getD default.enableHover
    enabledLanguages := languages.getD default.enabledLanguages
    customPatterns := patterns.getD default.customPatterns
    cacheTtl := ttl.getD default.cacheTtl
    cleanupInterval := interval.getD default.cleanupInterval }

/-- Elements at the end may be missing. -/
def ofElements (elements : List Json) : Except Json.DecodeError Settings := do
  let length ← Json.optionalElement elements 0 (Json.asNatural "usize")
  let preview ← Json.optionalElement elements 1 Json.asBool
  let hover ← Json.optionalElement elements 2 Json.asBool
  let languages ← Json.optionalElement elements 3 (Json.asMap Json.asBool)
  let patterns ← Json.optionalElement elements 4 (Json.asList PatternSpec.ofJson)
  let ttl ← Json.optionalElement elements 5 (Json.asNatural "u64")
  let interval ← Json.optionalElement elements 6 (Json.asNatural "u64")
  Json.noMoreThan elements 7
  let default : Settings := {}
  .ok {
    previewLength := length.getD default.previewLength
    showPreview := preview.getD default.showPreview
    enableHover := hover.getD default.enableHover
    enabledLanguages := languages.getD default.enabledLanguages
    customPatterns := patterns.getD default.customPatterns
    cacheTtl := ttl.getD default.cacheTtl
    cleanupInterval := interval.getD default.cleanupInterval }

/-- Settings are an object, or the list of its fields in order. -/
def ofJson : Json.Decoder Settings
  | .object fields => ofFields fields
  | .array elements => ofElements elements
  | other => .error (.wrongType other "struct DocstringSettings")

/-- Reads settings that may be nested under their key, and checks them. The value `null` stands
for the settings one starts with. -/
def ofValue (value : Json) : Except SettingsError Settings := do
  match value with
  | .null => .ok {}
  | value =>
    let settings ← (ofJson ((value.member? sectionKey).getD value)).mapError .malformed
    settings.validate
    .ok settings

end DocBlocks.Settings
