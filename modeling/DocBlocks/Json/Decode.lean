/-
This file reads typed values out of JSON values and says what is wrong where that fails.
-/

import DocBlocks.Json.Printer
import DocBlocks.Text.Hidden

namespace DocBlocks.Json

/-- Why a JSON value is not the typed value that was asked for. -/
inductive DecodeError where
  | wrongType (found : Json) (expected : String)
  | wrongValue (found : Json) (expected : String)
  | missingField (name : String)
  | unknownVariant (name : String) (variants : List String)
  | wrongLength (length : Nat) (expected : String)
  | noAlternative (name : String)
  | unreadable (text : String) (reason : String)
deriving Repr

/-- Names the kind of a value, and the value itself where it is short. -/
def described : Json → String
  | null => "null"
  | bool value => "boolean `" ++ (if value then "true" else "false") ++ "`"
  | number (.whole value) => "integer `" ++ toString value ++ "`"
  | number (.binary value) => "floating point `" ++ value.print ++ "`"
  | string value => "string " ++ Text.quoted value
  | array _ => "sequence"
  | object _ => "map"

def ticked (name : String) : String :=
  "`" ++ name ++ "`"

def listed : List String → String
  | [] => "no variants"
  | [one] => ticked one
  | [one, two] => ticked one ++ " or " ++ ticked two
  | names => "one of " ++ String.intercalate ", " (names.map ticked)

def DecodeError.message : DecodeError → String
  | wrongType found expected => "invalid type: " ++ found.described ++ ", expected " ++ expected
  | wrongValue found expected => "invalid value: " ++ found.described ++ ", expected " ++ expected
  | missingField name => "missing field " ++ ticked name
  | unknownVariant name variants =>
    "unknown variant " ++ ticked name ++ ", expected " ++ listed variants
  | wrongLength length expected =>
    "invalid length " ++ toString length ++ ", expected " ++ expected
  | noAlternative name => "data did not match any variant of untagged enum " ++ name
  | unreadable text reason => reason ++ ": " ++ Text.quoted text

abbrev Decoder (α : Type) := Json → Except DecodeError α

def asBool : Decoder Bool
  | bool value => .ok value
  | other => .error (.wrongType other "a boolean")

def asString : Decoder String
  | string value => .ok value
  | other => .error (.wrongType other "a string")

/-- A whole number that is not negative. -/
def asNatural (kind : String) : Decoder Nat
  | number (.whole value) =>
    if 0 ≤ value then .ok value.toNat else .error (.wrongValue (number (.whole value)) kind)
  | other => .error (.wrongType other kind)

/-- A whole number between two bounds. -/
def asBounded (kind : String) (least greatest : Int) : Decoder Int
  | number (.whole value) =>
    if least ≤ value && value ≤ greatest then .ok value
    else .error (.wrongValue (number (.whole value)) kind)
  | other => .error (.wrongType other kind)

def asList {α : Type} (decode : Decoder α) : Decoder (List α)
  | array elements => elements.mapM decode
  | other => .error (.wrongType other "a sequence")

def asMap {α : Type} (decode : Decoder α) : Decoder (List (String × α))
  | object fields => fields.mapM fun (name, value) => (decode value).map fun value => (name, value)
  | other => .error (.wrongType other "a map")

/-- `null` stands for the absent value. -/
def asOptional {α : Type} (decode : Decoder α) : Decoder (Option α)
  | null => .ok none
  | other => (decode other).map some

def variantNamed {α : Type} (variants : List (String × α)) (name : String) : Except DecodeError α :=
  match variants.lookup name with
  | some variant => .ok variant
  | none => .error (.unknownVariant name (variants.map Prod.fst))

/-- One of several named variants, as a string or as an object with the name as its only field. -/
def asVariant {α : Type} (variants : List (String × α)) : Decoder α
  | string name => variantNamed variants name
  | object [(name, value)] => do
    let variant ← variantNamed variants name
    match value with
    | null => .ok variant
    | other => .error (.wrongType other "unit")
  | object fields => .error (.wrongValue (object fields) "map with a single key")
  | other => .error (.wrongType other "string or map")

/-- A field that may be missing. -/
def optionalField {α : Type} (fields : List (String × Json)) (name : String) (decode : Decoder α) :
    Except DecodeError (Option α) :=
  match field? name fields with
  | some value => (decode value).map some
  | none => .ok none

def required {α : Type} (name : String) : Option α → Except DecodeError α
  | some value => .ok value
  | none => .error (.missingField name)

/-- The element at a place, which may be missing. -/
def optionalElement {α : Type} (elements : List Json) (place : Nat) (decode : Decoder α) :
    Except DecodeError (Option α) :=
  match elements[place]? with
  | some value => (decode value).map some
  | none => .ok none

/-- The element at a place. If it is missing the list is too short for what was `expected`. -/
def requiredElement {α : Type} (elements : List Json) (place : Nat) (expected : String)
    (decode : Decoder α) : Except DecodeError α :=
  match elements[place]? with
  | some value => decode value
  | none => .error (.wrongLength place expected)

/-- Refuses a list with elements left over. -/
def noMoreThan (elements : List Json) (count : Nat) : Except DecodeError Unit :=
  if elements.length ≤ count then .ok ()
  else .error (.wrongLength elements.length "fewer elements in array")

/-- A value is read where it stands, or after the object around it was read to its end, because
another part of the object could have claimed it. -/
inductive Source where
  | direct
  | deferred
deriving DecidableEq, Repr

def counted (count : Nat) (noun : String) : String :=
  toString count ++ " " ++ noun ++ (if count == 1 then "" else "s")

/-- Refuses a list with elements left over, in the words for where it is read. -/
def Source.noMoreThan (source : Source) (elements : List Json) (count : Nat) :
    Except DecodeError Unit :=
  match source with
  | direct => Json.noMoreThan elements count
  | deferred =>
    if elements.length ≤ count then .ok ()
    else .error (.wrongLength elements.length (counted count "element" ++ " in sequence"))

end DocBlocks.Json
