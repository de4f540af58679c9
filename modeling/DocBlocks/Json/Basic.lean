/-
This file defines the values that messages and settings are made of.
-/

import DocBlocks.Json.Binary64

namespace DocBlocks

/-- A number written without fraction and exponent is whole as long as it fits in 64 bits. -/
inductive Json.Number where
  | whole (value : Int)
  | binary (value : Json.Binary64)
deriving DecidableEq, Repr

/-- The fields of an object stand in increasing order of their names, each name once. -/
inductive Json where
  | null
  | bool (value : Bool)
  | number (value : Json.Number)
  | string (value : String)
  | array (elements : List Json)
  | object (fields : List (String × Json))
deriving Repr

namespace Json

instance : Inhabited Json := ⟨null⟩

def nat (value : Nat) : Json :=
  number (.whole value)

def int (value : Int) : Json :=
  number (.whole value)

def field? (name : String) (fields : List (String × Json)) : Option Json :=
  fields.lookup name

def member? (name : String) : Json → Option Json
  | object fields => field? name fields
  | _ => none

/-- Puts a field at its place, over an earlier one of the same name. -/
def insertField (name : String) (value : Json) : List (String × Json) → List (String × Json)
  | [] => [(name, value)]
  | (other, present) :: fields =>
    if name < other then (name, value) :: (other, present) :: fields
    else if name = other then (name, value) :: fields
    else (other, present) :: insertField name value fields

/-- An object from fields in any order; of two with one name the later counts. -/
def ofFields (fields : List (String × Json)) : Json :=
  object (fields.foldl (fun placed (name, value) => insertField name value placed) [])

def strings (values : List String) : Json :=
  array (values.map string)

def text (value : List Char) : Json :=
  string (String.ofList value)

end Json

end DocBlocks
