/-
This file reads the hosts of identifiers.
-/

import DocBlocks.Uri.Basic
import DocBlocks.Uri.Domain.Basic
import DocBlocks.Uri.Percent

namespace DocBlocks.Uri

namespace Host

def numberOf (base : Nat) (digits : Text) : Option Nat :=
  digits.foldlM (fun value digit => do
    let worth ← hexValue? digit
    if worth < base then some (value * base + worth) else none) 0

/-- A part of an address in decimal, octal or hexadecimal digits. -/
def ipv4Number? (part : Text) : Option Nat :=
  match part with
  | [] => none
  | ['0'] => some 0
  | '0' :: 'x' :: digits | '0' :: 'X' :: digits => numberOf 16 digits
  | '0' :: digits => numberOf 8 digits
  | digits => numberOf 10 digits

def withoutFinalDot (parts : List Text) : List Text :=
  match parts.reverse with
  | [] :: others@(_ :: _) => others.reverse
  | _ => parts

/-- The last label of the domain is a number, so that the whole must be an address. -/
def endsInNumber (domain : Text) : Bool :=
  match (withoutFinalDot (Text.split (· == '.') domain)).getLast? with
  | none => false
  | some last => (!last.isEmpty && last.all Char.isDigit) || (ipv4Number? last).isSome

def joinWith (mark : Char) (parts : List Text) : Text :=
  List.intercalate [mark] parts

def showNumber (base : Nat) (value : Nat) : Text :=
  Nat.toDigits base value

/-- The four bytes of an address whose last part may cover several of them. -/
def ipv4 (domain : Text) : Except UriError Text := do
  let parts := withoutFinalDot (Text.split (· == '.') domain)
  if 4 < parts.length then .error .invalidIpv4
  match parts.mapM ipv4Number? with
  | none => .error .invalidIpv4
  | some numbers =>
    let leading := numbers.dropLast
    let last := numbers.getLastD 0
    if leading.any (255 < ·) || Nat.pow 256 (4 - leading.length) ≤ last then .error .invalidIpv4
    else
      let address := leading.zipIdx.foldl
        (fun total (number, place) => total + number * Nat.pow 256 (3 - place)) last
      .ok (joinWith '.' ([3, 2, 1, 0].map fun place => showNumber 10 (address / Nat.pow 256 place % 256)))

def ipv6Piece? (part : Text) : Option Nat :=
  if part.isEmpty || 4 < part.length then none else numberOf 16 part

def decimalByte? (part : Text) : Option Nat :=
  match part with
  | ['0'] => some 0
  | '0' :: _ | [] => none
  | digits => (numberOf 10 digits).filter (· ≤ 255)

/-- Two pieces written as four decimal bytes. -/
def embeddedIpv4? (part : Text) : Option (List Nat) :=
  match (Text.split (· == '.') part).mapM decimalByte? with
  | some [a, b, c, d] => some [a * 256 + b, c * 256 + d]
  | _ => none

/-- The pieces between colons; the last may be an embedded address if that is allowed there. -/
def ipv6Pieces? (parts : List Text) : Option (List Nat) :=
  match parts.reverse with
  | [] => some []
  | last :: others => do
    let front ← others.reverse.mapM ipv6Piece?
    let back ← if last.any (· == '.') then embeddedIpv4? last else (ipv6Piece? last).map ([·])
    some (front ++ back)

/-- Divides an address at its double colon. -/
def splitCompressed : Text → Option (Text × Text)
  | ':' :: ':' :: rest => some ([], rest)
  | [] => none
  | character :: rest => (splitCompressed rest).map fun (before, after) => (character :: before, after)

def sidePieces? (side : Text) (isLast : Bool) : Option (List Nat) :=
  if side.isEmpty then some []
  else
    let parts := Text.split (· == ':') side
    if isLast then ipv6Pieces? parts else parts.mapM ipv6Piece?

def ipv6Address? (text : Text) : Option (List Nat) :=
  match splitCompressed text with
  | none => (sidePieces? text true).filter (·.length == 8)
  | some (before, after) => do
    let front ← sidePieces? before false
    let back ← sidePieces? after true
    if front.length + back.length ≤ 7 then
      some (front ++ List.replicate (8 - front.length - back.length) 0 ++ back)
    else none

/-- The length of the run of zeros at the start. -/
def zerosAtStart (pieces : List Nat) : Nat :=
  (pieces.takeWhile (· == 0)).length

/-- The place and length of the first of the longest runs of zeros. -/
def longestZeros (pieces : List Nat) : Nat × Nat :=
  (List.range pieces.length).foldl (fun (place, length) index =>
    let here := zerosAtStart (pieces.drop index)
    if length < here then (index, here) else (place, length)) (0, 0)

def showIpv6 (pieces : List Nat) : Text :=
  let join (pieces : List Nat) := joinWith ':' (pieces.map (showNumber 16))
  let (place, length) := longestZeros pieces
  let body :=
    if length < 2 then join pieces
    else join (pieces.take place) ++ [':', ':'] ++ join (pieces.drop (place + length))
  ['['] ++ body ++ [']']

/-- Reads an address between brackets. -/
def bracketed (host : Text) : Except UriError Text :=
  if host.getLast? != some ']' then .error .invalidIpv6
  else
    match ipv6Address? (host.drop 1).dropLast with
    | some pieces => .ok (showIpv6 pieces)
    | none => .error .invalidIpv6

/-- Reads the host of a scheme that has domains and addresses. -/
def parse (host : Text) : Except UriError Text := do
  match host with
  | '[' :: _ => bracketed host
  | host =>
    match (decode? host).bind Domain.ascii? with
    | none => .error .invalidDomain
    | some domain =>
      if domain.isEmpty then .error .emptyHost
      else if endsInNumber domain then ipv4 domain
      else .ok domain

def isInvalidOpaque (character : Char) : Bool :=
  ['\x00', '\t', '\n', '\r', ' ', '#', '/', ':', '<', '>', '?', '@', '[', '\\', ']', '^', '|'].contains
    character

/-- Reads the host of a scheme about which nothing is known. -/
def parseOpaque (host : Text) : Except UriError Text :=
  match host with
  | '[' :: _ => bracketed host
  | host =>
    if host.any isInvalidOpaque then .error .invalidHostCharacter
    else .ok (encode .opaquePart host)

end Host

end DocBlocks.Uri
