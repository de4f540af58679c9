/-
This file finds the characters with a property, by the name of the property as regular expressions
write it.
-/

import DocBlocks.Text.Age
import DocBlocks.Text.Boundary
import DocBlocks.Text.Property
import DocBlocks.Text.Script
import DocBlocks.Text.Search

namespace DocBlocks.Regex.Property

open DocBlocks.Text (Ranges Category)

/-- A name in lower case, without marks between words and without a leading `is`. -/
def normalized (name : List Char) : String :=
  let (leading, rest) := match name with
    | first :: second :: rest =>
      if first.toLower == 'i' && second.toLower == 's' then (true, rest) else (false, name)
    | _ => (false, name)
  let letters := rest.filter fun character =>
    character.toNat < 0x80 && character != ' ' && character != '_' && character != '-'
  match letters.map Char.toLower with
  | ['c'] => if leading then "isc" else "c"
  | letters => String.ofList letters

/-- The categories with a name. -/
def categories? (name : String) : Option (List Category) :=
  match name with
  | "l" | "letter" => some Category.letters
  | "lc" | "casedletter" => some [.uppercaseLetter, .lowercaseLetter, .titlecaseLetter]
  | "lu" | "uppercaseletter" => some [.uppercaseLetter]
  | "ll" | "lowercaseletter" => some [.lowercaseLetter]
  | "lt" | "titlecaseletter" => some [.titlecaseLetter]
  | "lm" | "modifierletter" => some [.modifierLetter]
  | "lo" | "otherletter" => some [.otherLetter]
  | "m" | "mark" | "combiningmark" => some Category.marks
  | "mn" | "nonspacingmark" => some [.nonspacingMark]
  | "mc" | "spacingmark" => some [.spacingMark]
  | "me" | "enclosingmark" => some [.enclosingMark]
  | "n" | "number" => some Category.numbers
  | "nd" | "decimalnumber" | "digit" => some [.decimalNumber]
  | "nl" | "letternumber" => some [.letterNumber]
  | "no" | "othernumber" => some [.otherNumber]
  | "p" | "punctuation" | "punct" => some Category.punctuation
  | "pc" | "connectorpunctuation" => some [.connectorPunctuation]
  | "pd" | "dashpunctuation" => some [.dashPunctuation]
  | "ps" | "openpunctuation" => some [.openPunctuation]
  | "pe" | "closepunctuation" => some [.closePunctuation]
  | "pi" | "initialpunctuation" => some [.initialPunctuation]
  | "pf" | "finalpunctuation" => some [.finalPunctuation]
  | "po" | "otherpunctuation" => some [.otherPunctuation]
  | "s" | "symbol" => some Category.symbols
  | "sm" | "mathsymbol" => some [.mathSymbol]
  | "sc" | "currencysymbol" => some [.currencySymbol]
  | "sk" | "modifiersymbol" => some [.modifierSymbol]
  | "so" | "othersymbol" => some [.otherSymbol]
  | "z" | "separator" => some Category.separators
  | "zs" | "spaceseparator" => some [.spaceSeparator]
  | "zl" | "lineseparator" => some [.lineSeparator]
  | "zp" | "paragraphseparator" => some [.paragraphSeparator]
  | "c" | "other" => some Category.others
  | "cc" | "control" | "cntrl" => some [.control]
  | "cf" | "format" => some [.format]
  | "co" | "privateuse" => some [.privateUse]
  | "cn" | "unassigned" => some [.unassigned]
  | _ => none

def categoryCodes? (name : String) : Option Ranges :=
  match name with
  | "any" => some #[(0, Text.Ranges.lastCode)]
  | "ascii" => some #[(0, 0x7F)]
  | "assigned" => some (Category.codes .sixteen .unassigned).complement
  | name => (categories? name).map (Category.codesOf .sixteen)

/-- The characters with a property that is named alone. -/
def named? (name : String) : Option Ranges :=
  Text.Property.codes? name <|> categoryCodes? name <|> (Text.Script.find? name).map Text.Script.codes

/-- The characters for which a property has a value. -/
def valued? (property value : String) : Option Ranges :=
  match property with
  | "gc" | "generalcategory" => categoryCodes? value
  | "sc" | "script" => (Text.Script.find? value).map Text.Script.codes
  | "scx" | "scriptextensions" => (Text.Script.find? value).map Text.Script.extendedCodes
  | "age" => Text.Age.codes? value
  | "gcb" | "graphemeclusterbreak" => Text.Boundary.Grapheme.codes? value
  | "wb" | "wordbreak" => Text.Boundary.Word.codes? value
  | "sb" | "sentencebreak" => Text.Boundary.Sentence.codes? value
  | _ => none

/-- The characters that a name or an equation describes. -/
def find? (description : List Char) : Option Ranges :=
  let valued (sides : Text × Text) := valued? (normalized sides.1) (normalized sides.2)
  match Text.cutAt? ['!', '='] description with
  | some sides => (valued sides).map Ranges.complement
  | none =>
    match Text.cutAt? [':'] description <|> Text.cutAt? ['='] description with
    | some sides => valued sides
    | none => named? (normalized description)

end DocBlocks.Regex.Property
