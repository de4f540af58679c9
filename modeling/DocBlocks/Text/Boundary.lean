/-
This file divides the characters by what they do at the edges of visible characters, of words and
of sentences, in version 16.0.
-/

import DocBlocks.Text.Property
import DocBlocks.Text.Script

namespace DocBlocks.Text.Boundary

open Property (stored lowercase uppercase)

def categories (categories : List Category) : Ranges :=
  Category.codesOf .sixteen categories

def script (name : String) : Ranges :=
  match Script.find? name with
  | some script => script.codes
  | none => #[]

def joiner : Ranges := #[(0x200D, 0x200D)]

/-- Signs written before the letters or digits that they belong to. -/
def leadingSigns : Ranges :=
  (stored "prependedconcatenationmark").union
    (.ofText "D4E 111C2-111C3 113D1 1193F 11941 11A3A 11A84-11A89 11D46 11F02")

/-- Format characters that stay with the character before them. -/
def formats : Ranges :=
  (categories [.format]).difference (.unionOf [extendingRanges .sixteen, joiner, leadingSigns])

/-- The decimal digits and the signs written over, under or between them. -/
def digits : Ranges :=
  (categories [.decimalNumber]).union (.ofText "600-605 66B-66C 6DD 890-891 8E2 110BD 110CD")

namespace Grapheme

def extending : Ranges :=
  ((extendingRanges .sixteen).union (stored "emojimodifier")).difference joiner

/-- Spacing marks that stand as visible characters of their own. -/
def separateMarks : Ranges := .ofText
  "102B-102C 1038 1062-1064 1067-106D 1083 1087-108C 108F 109A-109C 1A61 1A63-1A64 AA7B AA7D
  11720-11721"

def controls : Ranges :=
  let ignorable := (categories [.unassigned]).intersection (stored "defaultignorablecodepoint")
  (Ranges.unionOf [categories [.lineSeparator, .paragraphSeparator, .control, .format],
    ignorable]).difference
      (.unionOf [.ofText "A D", joiner, extending, stored "prependedconcatenationmark"])

/-- Syllables without a final consonant. -/
def openSyllables : Ranges := .ofText "AC00-D788/1C"

def codes? (name : String) : Option Ranges :=
  match name with
  | "cn" | "control" => some controls
  | "cr" => some (.ofText "D")
  | "lf" => some (.ofText "A")
  | "ex" | "extend" => some extending
  | "zwj" => some joiner
  | "pp" | "prepend" => some leadingSigns
  | "ri" | "regionalindicator" => some (stored "regionalindicator")
  | "sm" | "spacingmark" =>
    some (((categories [.spacingMark]).union (.ofText "E33 EB3")).difference
      (extending.union separateMarks))
  | "l" => some (.ofText "1100-115F A960-A97C")
  | "v" => some (.ofText "1160-11A7 16D63 16D67-16D6A D7B0-D7C6")
  | "t" => some (.ofText "11A8-11FF D7CB-D7FB")
  | "lv" => some openSyllables
  | "lvt" => some (Ranges.difference (.ofText "AC00-D7A3") openSyllables)
  | _ => none

end Grapheme

namespace Word

def extending : Ranges :=
  Grapheme.extending.union (categories [.spacingMark])

def katakana : Ranges :=
  (script "katakana").union (.ofText "3031-3035 309B-309C 30A0 30FC FF70")

def hebrew : Ranges :=
  (script "hebrew").intersection (categories [.otherLetter])

/-- Letters of scripts that are written without blanks between words. -/
def unspaced : Ranges := .ofText
  "E01-E30 E32-E33 E40-E46 E81-E82 E84 E86-E8A E8C-EA3 EA5 EA7-EB0 EB2-EB3 EBD EC0-EC4 EC6
  EDC-EDF 1000-102A 103F 1050-1055 105A-105D 1061 1065-1066 106E-1070 1075-1081 108E 1780-17B3
  17D7 17DC 1950-196D 1970-1974 1980-19AB 19B0-19C9 1A20-1A54 1AA7 A9E0-A9E4 A9E6-A9EF A9FA-A9FE
  AA60-AA76 AA7A AA7E-AAAF AAB1 AAB5-AAB6 AAB9-AABD AAC0 AAC2 AADB-AADD 11700-1171A 11740-11746"

/-- Signs that are used as letters. -/
def letterSigns : Ranges := .ofText
  "B8 2C2-2C5 2D2-2D7 2DE-2DF 2E5-2EB 2ED 2EF-2FF 55A-55C 55E 58A 5F3 70F A708-A716 A720-A721
  A789-A78A AB5B"

def letters : Ranges :=
  ((alphabeticRanges .sixteen).union letterSigns).difference
    (.unionOf [stored "ideographic", katakana, hebrew, script "hiragana", unspaced, extending])

def codes? (name : String) : Option Ranges :=
  match name with
  | "cr" => some (.ofText "D")
  | "lf" => some (.ofText "A")
  | "nl" | "newline" => some (.ofText "B-C 85 2028-2029")
  | "extend" => some extending
  | "zwj" => some joiner
  | "fo" | "format" => some (formats.difference (.ofText "200B"))
  | "ri" | "regionalindicator" => some (stored "regionalindicator")
  | "ka" | "katakana" => some katakana
  | "hl" | "hebrewletter" => some hebrew
  | "le" | "aletter" => some letters
  | "sq" | "singlequote" => some (.ofText "27")
  | "dq" | "doublequote" => some (.ofText "22")
  | "mb" | "midnumlet" => some (.ofText "2E 2018-2019 2024 FE52 FF07 FF0E")
  | "ml" | "midletter" => some (.ofText "3A B7 387 55F 5F4 2027 FE13 FE55 FF1A")
  | "mn" | "midnum" =>
    some (.ofText "2C 3B 37E 589 60C-60D 66C 7F8 2044 FE10 FE14 FE50 FE54 FF0C FF1B")
  | "nu" | "numeric" => some (digits.difference (.ofText "66C"))
  | "ex" | "extendnumlet" => some ((categories [.connectorPunctuation]).union (.ofText "202F"))
  | "wsegspace" => some ((categories [.spaceSeparator]).difference (.ofText "A0 2007 202F"))
  | _ => none

end Word

namespace Sentence

def extending : Ranges :=
  .unionOf [extendingRanges .sixteen, categories [.spacingMark], joiner]

def separators : Ranges := .ofText "85 2028-2029"

/-- Cased letters of a script whose capitals do not begin sentences. -/
def caseless : Ranges := .ofText "10D0-10FA 10FD-10FF 1C90-1CBA 1CBD-1CBF"

def small : Ranges :=
  lowercase.difference (caseless.union extending)

def capital : Ranges :=
  (uppercase.union (categories [.titlecaseLetter])).difference caseless

def stops : Ranges := .ofText "2E 2024 FE52 FF0E"

def codes? (name : String) : Option Ranges :=
  match name with
  | "cr" => some (.ofText "D")
  | "lf" => some (.ofText "A")
  | "ex" | "extend" => some extending
  | "se" | "sep" => some separators
  | "fo" | "format" => some (formats.union (.ofText "70F"))
  | "sp" => some ((stored "whitespace").difference (.union (.ofText "A D") separators))
  | "lo" | "lower" => some small
  | "up" | "upper" => some capital
  | "le" | "oletter" =>
    some (((alphabeticRanges .sixteen).union (.ofText "5F3")).difference
      (.unionOf [small, capital, extending]))
  | "nu" | "numeric" => some digits
  | "at" | "aterm" => some stops
  | "sc" | "scontinue" =>
    some (.ofText
      "2C-2D 3A-3B 37E 55D 60C-60D 7F8 1802 1808 2013-2014 3001 FE10-FE11 FE13-FE14 FE31-FE32
      FE50-FE51 FE54-FE55 FE58 FE63 FF0C-FF0D FF1A-FF1B FF64")
  | "st" | "sterm" => some ((stored "sentenceterminal").difference stops)
  | "cl" | "close" =>
    some ((categories [.openPunctuation, .closePunctuation, .initialPunctuation,
      .finalPunctuation]).union (.ofText "22 27 275B-2760 2E00-2E01 2E06-2E08 2E0B 1F676-1F678"))
  | _ => none

end Sentence

end DocBlocks.Text.Boundary
