/-
This file defines the families of comment syntax.
-/

import DocBlocks.Json.Decode

namespace DocBlocks

/-- A family decides how comment markers are removed from a block. -/
inductive Family where
  /-- Strings between three quotes. -/
  | tripleQuote
  /-- Comments from a slash and two stars to a star and a slash. -/
  | blockComment
  /-- Lines that each start with three slashes, or with two and an exclamation mark. -/
  | linePrefix
deriving DecidableEq, Repr

namespace Family

instance : Inhabited Family := ⟨blockComment⟩

def name : Family → String
  | tripleQuote => "tripleQuote"
  | blockComment => "blockComment"
  | linePrefix => "linePrefix"

/-- The name with a capital, as it stands in the names of patterns. -/
def title : Family → String
  | tripleQuote => "TripleQuote"
  | blockComment => "BlockComment"
  | linePrefix => "LinePrefix"

def all : List Family :=
  [tripleQuote, blockComment, linePrefix]

def toJson (family : Family) : Json :=
  .string family.name

def ofJson : Json.Decoder Family :=
  Json.asVariant (all.map fun family => (family.name, family))

end Family

end DocBlocks
