/-
This file keeps the patterns of all languages in the order of their registration.
-/

import DocBlocks.Pattern.Builtin

namespace DocBlocks

structure Registry where
  patterns : List Pattern

namespace Registry

def empty : Registry :=
  ⟨[]⟩

def register (registry : Registry) (pattern : Pattern) : Registry :=
  ⟨registry.patterns ++ [pattern]⟩

def registerAll (registry : Registry) (patterns : List Pattern) : Registry :=
  patterns.foldl register registry

/-- Registers patterns for one language, whatever language they were made for. -/
def registerFor (registry : Registry) (language : String) (patterns : List Pattern) : Registry :=
  registry.registerAll (patterns.map (·.forLanguage language))

def builtin : Registry :=
  empty.registerAll Pattern.builtins

def lookup (registry : Registry) (language : String) : List Pattern :=
  registry.patterns.filter (·.language == language)

/-- The languages that have a pattern, in order. -/
def languages (registry : Registry) : List String :=
  (registry.patterns.map Pattern.language).eraseDups.mergeSort fun left right => decide (left ≤ right)

def supports (registry : Registry) (language : String) : Bool :=
  !(registry.lookup language).isEmpty

def size (registry : Registry) : Nat :=
  registry.patterns.length

def isEmpty (registry : Registry) : Bool :=
  registry.size == 0

end Registry

end DocBlocks
