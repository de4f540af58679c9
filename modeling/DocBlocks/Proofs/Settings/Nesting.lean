/-
This file compares settings that stand alone with settings that are nested under their key.
-/

import DocBlocks.Settings.Encoding

namespace DocBlocks.Settings

/-- Reads settings that are not nested any further, and checks them. -/
def ofSection (value : Json) : Except SettingsError Settings := do
  let settings ← (ofJson value).mapError .malformed
  settings.validate
  .ok settings

/-- What stands under the key is read as it is, `null` too. -/
theorem ofValue_object {fields : List (String × Json)} {value : Json}
    (nested : Json.field? sectionKey fields = some value) :
    ofValue (.object fields) = ofSection value := by
  change ofSection ((Json.field? sectionKey fields).getD (.object fields)) = ofSection value
  rw [nested, Option.getD_some]

/-- A value without the key is read as it is, unless it is `null`. -/
theorem ofValue_bare {value : Json} (bare : value.member? sectionKey = none)
    (present : value ≠ .null) : ofValue value = ofSection value := by
  have whole : (value.member? sectionKey).getD value = value := by rw [bare, Option.getD_none]
  cases value with
  | null => exact absurd rfl present
  | object fields => exact congrArg ofSection whole
  | _ => rfl

theorem ofSection_null :
    ofSection .null = .error (.malformed (.wrongType .null "struct DocstringSettings")) := rfl

/-- Whether settings stand alone or under their key, among any other fields, they are read alike or
refused for the same reason, with one exception: `null` stands for the settings one starts with only
if it is not nested. -/
theorem nesting_transparent_iff {fields : List (String × Json)} {value : Json}
    (nested : Json.field? sectionKey fields = some value)
    (bare : value.member? sectionKey = none) :
    (ofValue (.object fields) = ofValue value ↔ value ≠ .null) ∧
      (value = .null → ofValue value = .ok {} ∧ ofValue (.object fields) =
        .error (.malformed (.wrongType .null "struct DocstringSettings"))) := by
  have inner := ofValue_object nested
  refine ⟨⟨?_, fun present => ?_⟩, ?_⟩
  · rintro same rfl
    rw [inner, ofSection_null] at same
    cases same
  · rw [inner, ofValue_bare bare present]
  · rintro rfl
    exact ⟨rfl, inner.trans ofSection_null⟩

/-- A list of fields with a preview that is too short is refused alike, nested or not, and `null` is
not. -/
theorem nesting_transparent_iff_short :
    let short := Json.array [.nat 2, .bool false]
    let client (value : Json) := Json.object [(sectionKey, value), ("editor", .bool true)]
    ofValue (client short) = ofValue short ∧ ofValue short = .error (.previewLength 2) ∧
      ofValue (client .null) ≠ ofValue .null := by
  intro short client
  have inner (value : Json) :
      Json.field? sectionKey [(sectionKey, value), ("editor", .bool true)] = some value := rfl
  have alike := (nesting_transparent_iff (inner short) rfl).1
  have apart := (nesting_transparent_iff (inner .null) rfl).1
  exact ⟨alike.mpr Json.noConfusion, rfl, fun same => apart.mp same rfl⟩

end DocBlocks.Settings
