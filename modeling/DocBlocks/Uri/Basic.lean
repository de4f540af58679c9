/-
This file defines the identifiers of documents.
-/

import DocBlocks.Text.Basic

namespace DocBlocks

/-- An identifier in its normal form. -/
structure Uri where
  text : String
deriving DecidableEq, Repr

/-- Why a text is not an identifier. -/
inductive UriError where
  | emptyHost
  | invalidDomain
  | invalidPort
  | invalidIpv4
  | invalidIpv6
  | invalidHostCharacter
  | relative
deriving DecidableEq, Repr

def UriError.message : UriError → String
  | emptyHost => "empty host"
  | invalidDomain => "invalid international domain name"
  | invalidPort => "invalid port number"
  | invalidIpv4 => "invalid IPv4 address"
  | invalidIpv6 => "invalid IPv6 address"
  | invalidHostCharacter => "invalid domain character"
  | relative => "relative URL without a base"

namespace Uri

/-- How identifiers of a scheme are read. -/
inductive Scheme where
  | file
  | network (defaultPort : Nat)
  | other
deriving DecidableEq, Repr

def Scheme.ofName (name : Text) : Scheme :=
  match String.ofList name with
  | "file" => .file
  | "http" | "ws" => .network 80
  | "https" | "wss" => .network 443
  | "ftp" => .network 21
  | _ => .other

def Scheme.isSpecial (scheme : Scheme) : Bool :=
  scheme != .other

/-- A character that divides the parts of a path. -/
def Scheme.isSlash (scheme : Scheme) (character : Char) : Bool :=
  character == '/' || (scheme.isSpecial && character == '\\')

/-- A character that ends a path. -/
def isPathEnd (character : Char) : Bool :=
  character == '?' || character == '#'

/-- A letter followed by a colon or a bar. -/
def isDriveLetter : Text → Bool
  | [letter, mark] => letter.isAlpha && (mark == ':' || mark == '|')
  | _ => false

end Uri

end DocBlocks
