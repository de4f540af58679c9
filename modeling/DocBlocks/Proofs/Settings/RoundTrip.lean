/-
This file shows that settings are read as they were written, alone or inside a larger object.
-/

import DocBlocks.Settings.Encoding

namespace DocBlocks

namespace Json

/-- Whatever is written is read again. -/
def Restores {α : Type} (decode : Decoder α) (encode : α → Json) : Prop :=
  ∀ value, decode (encode value) = .ok value

/-- Truth values are read again. -/
theorem asBool_restores : Restores asBool bool :=
  fun _ => rfl

/-- Texts are read again. -/
theorem asString_restores : Restores asString string :=
  fun _ => rfl

/-- Natural numbers are read again, whatever they are called. -/
theorem asNatural_restores (kind : String) : Restores (asNatural kind) nat := by
  intro value
  have positive : (0 : Int) ≤ value := Int.natCast_nonneg value
  simp [nat, asNatural, positive]

namespace Restores

variable {α : Type} {decode : Decoder α} {encode : α → Json}

/-- Lists are read again if their elements are. -/
theorem list (restores : Restores decode encode) :
    Restores (asList decode) fun values => array (values.map encode) := by
  intro values
  change (values.map encode).mapM decode = .ok values
  induction values with
  | nil => rfl
  | cons value values ih =>
      rw [List.map_cons, List.mapM_cons, restores value, ih]
      rfl

/-- The names of a map are kept, in their order. -/
theorem map (restores : Restores decode encode) :
    Restores (asMap decode) fun entries =>
      object (entries.map fun (name, value) => (name, encode value)) := by
  intro entries
  dsimp only [asMap]
  induction entries with
  | nil => rfl
  | cons entry entries ih =>
      rw [List.map_cons, List.mapM_cons, ih]
      dsimp only
      rw [restores entry.2]
      rfl

/-- A field is read by its name, wherever it stands. -/
theorem field (restores : Restores decode encode) {fields : List (String × Json)} {name : String}
    (value : α) (present : field? name fields = some (encode value)) :
    optionalField fields name decode = .ok (some value) := by
  rw [optionalField, present]
  dsimp only
  rw [restores value]
  rfl

end Restores

end Json

open Json (Restores)

/-- Families are read again. -/
theorem Family.ofJson_restores : Restores ofJson toJson := by
  intro family
  cases family <;> rfl

namespace PatternSpec

/-- What is absent is written as `null`, which no text is taken for. -/
theorem optionalJson_restores : Restores (Json.asOptional Json.asString) optionalJson := by
  intro text
  cases text <;> rfl

theorem ofJson_restores : Restores ofJson toJson := by
  intro spec
  change ofFields _ = _
  rw [ofFields, Json.asString_restores.field spec.closing rfl,
    Family.ofJson_restores.field spec.family rfl,
    Json.asString_restores.field spec.language rfl,
    Json.asBool_restores.field spec.multiline rfl,
    optionalJson_restores.field spec.name rfl,
    optionalJson_restores.field spec.singleLine rfl,
    Json.asString_restores.field spec.opening rfl]
  rfl

end PatternSpec

namespace Settings

theorem ofJson_restores : Restores ofJson toJson := by
  intro settings
  change ofFields _ = _
  rw [ofFields, (Json.asNatural_restores "u64").field settings.cleanupInterval rfl,
    (Json.asNatural_restores "u64").field settings.cacheTtl rfl,
    PatternSpec.ofJson_restores.list.field settings.customPatterns rfl,
    Json.asBool_restores.field settings.enableHover rfl,
    Json.asBool_restores.map.field settings.enabledLanguages rfl,
    (Json.asNatural_restores "usize").field settings.previewLength rfl,
    Json.asBool_restores.field settings.showPreview rfl]
  rfl

/-- Valid settings are read from the field under their key, or from the whole object if it has no
such field. -/
theorem ofValue_written {settings : Settings} (valid : settings.validate = .ok ())
    {fields : List (String × Json)}
    (written : (Json.field? sectionKey fields).getD (.object fields) = settings.toJson) :
    ofValue (.object fields) = .ok settings := by
  have restored : (ofJson settings.toJson).mapError SettingsError.malformed = .ok settings := by
    rw [ofJson_restores settings]
    rfl
  change ((ofJson ((Json.field? sectionKey fields).getD (.object fields))).mapError
    SettingsError.malformed >>= fun settings => settings.validate >>= fun _ => .ok settings) = _
  rw [written, restored]
  change (settings.validate >>= fun _ => Except.ok settings) = _
  rw [valid]
  rfl

/-- Valid settings are read as they were written. They may also stand under their key in an object
with any other fields. -/
theorem ofValue_toJson (settings : Settings) (valid : settings.validate = .ok ()) :
    ofValue settings.toJson = .ok settings ∧
      ∀ fields, Json.field? sectionKey fields = some settings.toJson →
        ofValue (.object fields) = .ok settings := by
  constructor
  · -- No field of the settings themselves has the name of the section.
    exact ofValue_written valid rfl
  · intro fields nested
    exact ofValue_written valid (by rw [nested, Option.getD_some])

/-- Settings that are accepted are valid. -/
theorem validate_of_isOk {settings : Settings} (accepted : settings.validate.isOk = true) :
    settings.validate = .ok () := by
  cases outcome : settings.validate with
  | error cause =>
      rw [outcome] at accepted
      cases accepted
  | ok => rfl

/-- The longest previews and times, a language that is named like the section, and patterns with and
without a name and a rule for single lines, among the fields of a client. -/
theorem ofValue_toJson_among_others :
    let settings : Settings := {
      previewLength := 500
      showPreview := false
      enabledLanguages := [("docstrings", false), ("lua", true)]
      customPatterns := [
        { language := "lua", opening := "--\\[", closing := "\\]", singleLine := some "--\\[\\]" },
        { language := "tcl", name := some "hash", opening := "^##", closing := "",
          multiline := false, family := .linePrefix }]
      cacheTtl := 18446744073709551615
      cleanupInterval := 1 }
    let client := [("docs", .bool true), (sectionKey, settings.toJson), ("editor", .null)]
    settings.validate = .ok () ∧ ofValue settings.toJson = .ok settings ∧
      ofValue (.object client) = .ok settings := by
  intro settings client
  have valid : settings.validate = .ok () := validate_of_isOk (by decide +kernel)
  obtain ⟨alone, nested⟩ := ofValue_toJson settings valid
  exact ⟨valid, alone, nested client rfl⟩

end Settings

end DocBlocks
