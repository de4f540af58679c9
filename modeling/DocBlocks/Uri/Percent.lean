/-
This file writes bytes as percent signs and hexadecimal digits.
-/

import DocBlocks.Text.Basic

namespace DocBlocks.Uri

/-- The characters that stand for themselves in one part of an identifier are the visible ones of
ASCII, apart from those listed for the part. -/
structure EscapeSet where
  escaped : List Char

namespace EscapeSet

def opaquePart : EscapeSet := ⟨[]⟩

def fragment : EscapeSet := ⟨[' ', '"', '<', '>', '`']⟩

def path : EscapeSet := ⟨fragment.escaped ++ ['#', '?', '{', '}']⟩

def userinfo : EscapeSet :=
  ⟨path.escaped ++ ['/', ':', ';', '=', '@', '[', '\\', ']', '^', '|']⟩

def query : EscapeSet := ⟨[' ', '"', '#', '<', '>']⟩

def specialQuery : EscapeSet := ⟨query.escaped ++ ['\'']⟩

def keeps (set : EscapeSet) (character : Char) : Bool :=
  0x20 ≤ character.toNat && character.toNat ≤ 0x7E && !set.escaped.contains character

end EscapeSet

def hexDigit (digit : Nat) : Char :=
  Char.ofNat (if digit < 10 then '0'.toNat + digit else 'A'.toNat + digit - 10)

def encodeByte (byte : UInt8) : Text :=
  ['%', hexDigit (byte.toNat / 16), hexDigit (byte.toNat % 16)]

def encodeCharacter (set : EscapeSet) (character : Char) : Text :=
  if set.keeps character then [character]
  else character.toString.toUTF8.toList.flatMap encodeByte

def encode (set : EscapeSet) (text : Text) : Text :=
  text.flatMap (encodeCharacter set)

def hexValue? (character : Char) : Option Nat :=
  if '0' ≤ character && character ≤ '9' then some (character.toNat - '0'.toNat)
  else if 'a' ≤ character && character ≤ 'f' then some (character.toNat - 'a'.toNat + 10)
  else if 'A' ≤ character && character ≤ 'F' then some (character.toNat - 'A'.toNat + 10)
  else none

/-- The bytes that a text with percent signs stands for. -/
def decodeBytes : Text → List UInt8
  | [] => []
  | '%' :: high :: low :: rest =>
    match hexValue? high, hexValue? low with
    | some high, some low => (high * 16 + low).toUInt8 :: decodeBytes rest
    | _, _ => '%'.toNat.toUInt8 :: decodeBytes (high :: low :: rest)
  | character :: rest => character.toString.toUTF8.toList ++ decodeBytes rest

/-- The text that a text with percent signs stands for, if the bytes form one. -/
def decode? (text : Text) : Option Text :=
  (String.fromUTF8? (decodeBytes text).toByteArray).map String.toList

end DocBlocks.Uri
