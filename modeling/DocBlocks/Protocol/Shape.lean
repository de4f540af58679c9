/-
This file describes the parameters that clients send and checks values against such descriptions.
-/

import DocBlocks.Protocol.Location

namespace DocBlocks.Protocol

open Json (DecodeError Source)

/-- Whether a field has to be there. -/
inductive Presence where
  | required
  /-- An object may lack the field, a list of all fields may not. -/
  | optional
  | defaulted
deriving DecidableEq, Repr

/-- What a value looks like. -/
inductive Shape where
  | any
  | boolean
  | text
  | natural
  | integer
  | decimal
  | uri
  | position
  | range
  /-- The identifier of a document. -/
  | document
  /-- A number or a string that names something. -/
  | token
  /-- `null` stands for the absent value. -/
  | optional (inner : Shape)
  | list (inner : Shape)
  | pair (inner : Shape)
  | variant (names : List String)
  /-- An object with values under any names. -/
  | map (inner : Shape)
  /-- An object with values under identifiers. -/
  | mapByUri (inner : Shape)
  /-- An object, or the list of its fields in order. -/
  | record (name : String) (fields : List (String × Presence × Shape))
  /-- An object with fields of its own. The fields of its parts are read after them. -/
  | mixed (name : String) (fields : List (String × Presence × Shape))
    (parts : List (List (String × Presence × Shape)))
  /-- An object with fields of its own, in which all other fields look the same. -/
  | extensible (name : String) (fields : List (String × Presence × Shape)) (others : Shape)
  /-- One of several shapes, of which none is meant more than another. -/
  | oneOf (name : String) (shapes : List Shape)
  /-- An object with a field that names its shape. -/
  | tagged (field : String) (shapes : List (String × Shape))
  /-- A truth value may stand in place of the value. -/
  | orBoolean (inner : Shape)

namespace Shape

abbrev Field := String × Presence × Shape

/-- A field that has to be there. -/
def must (name : String) (shape : Shape) : Field :=
  (name, .required, shape)

/-- A field that may be missing from an object. -/
def may (name : String) (shape : Shape) : Field :=
  (name, .optional, .optional shape)

/-- A field that may be missing. -/
def spare (name : String) (shape : Shape) : Field :=
  (name, .defaulted, .optional shape)

/-- The result for each field that is there. -/
abbrev Outcomes := List (String × Except DecodeError Unit)

/-- The failure of the field that comes first in the object. -/
def Outcomes.first (outcomes : Outcomes) (members : List (String × Json)) :
    Except DecodeError Unit :=
  members.forM fun (name, _) => (outcomes.lookup name).getD (.ok ())

/-- Refuses an object without a field that has to be there. -/
def noneMissing (fields : List Field) (members : List (String × Json)) : Except DecodeError Unit :=
  fields.forM fun (name, presence, _) =>
    if presence == .required && (Json.field? name members).isNone then
      .error (.missingField name)
    else .ok ()

def ignored {α : Type} (result : Except DecodeError α) : Except DecodeError Unit :=
  result.map fun _ => ()

def succeeds (result : Except DecodeError Unit) : Bool :=
  result.isOk

mutual

/-- Decides whether a value has a shape, and says what is wrong if it does not. -/
def check (source : Source) : Shape → Json → Except DecodeError Unit
  | any, _ => .ok ()
  | boolean, json => ignored (Json.asBool json)
  | text, json => ignored (Json.asString json)
  | natural, json => ignored (asCoordinate json)
  | integer, json => ignored (asInteger json)
  | decimal, json =>
    match json with
    | .number _ => .ok ()
    | other => .error (.wrongType other "f32")
  | uri, json => ignored (asUri json)
  | position, json => ignored (asPosition source json)
  | range, json => ignored (asRange source json)
  | document, json => ignored (asDocumentId source json)
  | token, json => ignored (asId json)
  | optional inner, json =>
    match json with
    | .null => .ok ()
    | other => inner.check source other
  | list inner, json =>
    match json with
    | .array elements => elements.forM (inner.check source)
    | other => .error (.wrongType other "a sequence")
  | pair inner, json =>
    match json with
    | .array [first, second] => do
      inner.check source first
      inner.check source second
    | other => .error (.wrongType other "an array of length 2")
  | variant names, json => Json.asVariant (names.map fun name => (name, ())) json
  | map inner, json =>
    match json with
    | .object members => members.forM fun (_, value) => inner.check source value
    | other => .error (.wrongType other "a map")
  | mapByUri inner, json =>
    match json with
    | .object members => members.forM fun (name, value) => do
        let _ ← asUri (.string name)
        inner.check source value
    | other => .error (.wrongType other "map")
  | record name fields, json =>
    match json with
    | .object members => do
      (outcomes source fields members).first members
      noneMissing fields members
    | .array elements => do
      checkElements source (recordWith name fields.length) 0 fields elements
      source.noMoreThan elements fields.length
    | other => .error (.wrongType other ("struct " ++ name))
  | mixed name fields parts, json =>
    match json with
    | .object members => do
      (outcomes source fields members).first members
      noneMissing fields members
      checkParts parts members
    | other => .error (.wrongType other ("struct " ++ name))
  | extensible name fields others, json =>
    match json with
    | .object members => do
      (outcomes source fields members).first members
      noneMissing fields members
      members.forM fun (member, value) =>
        if (fields.lookup member).isSome then .ok () else others.check .deferred value
    | other => .error (.wrongType other ("struct " ++ name))
  | oneOf name shapes, json =>
    if anyFits shapes json then .ok () else .error (.noAlternative name)
  | tagged field shapes, json =>
    match json.member? field with
    | some (.string tag) => checkTagged shapes tag json
    | _ => .error (.missingField field)
  | orBoolean inner, json =>
    match json with
    | .bool _ => .ok ()
    | other => inner.check .direct other

def outcomes (source : Source) : List (String × Presence × Shape) → List (String × Json) → Outcomes
  | [], _ => []
  | (name, _, shape) :: fields, members =>
    let rest := outcomes source fields members
    match Json.field? name members with
    | some value => (name, shape.check source value) :: rest
    | none => rest

/-- Checks the elements of a list from a place on, each of which stands for a field. -/
def checkElements (source : Source) (expected : String) (place : Nat) :
    List (String × Presence × Shape) → List Json → Except DecodeError Unit
  | [], _ => .ok ()
  | (_, presence, shape) :: fields, elements =>
    match elements with
    | [] =>
      if presence == .defaulted then checkElements source expected (place + 1) fields []
      else .error (.wrongLength place expected)
    | element :: elements => do
      shape.check source element
      checkElements source expected (place + 1) fields elements

/-- Checks the parts of an object one after the other. -/
def checkParts : List (List (String × Presence × Shape)) → List (String × Json) →
    Except DecodeError Unit
  | [], _ => .ok ()
  | fields :: parts, members => do
    (outcomes .deferred fields members).first members
    noneMissing fields members
    checkParts parts members

def anyFits : List Shape → Json → Bool
  | [], _ => false
  | shape :: shapes, json => succeeds (shape.check .deferred json) || anyFits shapes json

def checkTagged : List (String × Shape) → String → Json → Except DecodeError Unit
  | [], tag, _ => .error (.unknownVariant tag [])
  | (name, shape) :: shapes, tag, json =>
    if name == tag then shape.check .deferred json else checkTagged shapes tag json

end

end Shape

end DocBlocks.Protocol
