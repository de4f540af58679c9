/-
This file reads identifiers and brings them into normal form.
-/

import DocBlocks.Uri.Host

namespace DocBlocks.Uri

def isSchemeCharacter (character : Char) : Bool :=
  character.isAlphanum || character == '+' || character == '-' || character == '.'

/-- The scheme, in lower case, and what follows the colon after it. -/
def scheme? (input : Text) : Option (Text × Text) :=
  match input with
  | [] => none
  | first :: _ =>
    if !first.isAlpha then none
    else
      match input.dropWhile isSchemeCharacter with
      | ':' :: rest => some ((input.takeWhile isSchemeCharacter).map Char.toLower, rest)
      | _ => none

def isDot (segment : Text) : Bool :=
  segment == ['.'] || segment.map Char.toLower == "%2e".toList

def isDoubleDot (segment : Text) : Bool :=
  ["..", ".%2e", "%2e.", "%2e%2e"].contains (String.ofList (segment.map Char.toLower))

/-- A segment that names a drive, if it is followed by a slash. -/
def beginsWithDrive : Text → Bool
  | letter :: mark :: rest => isDriveLetter [letter, mark] && (rest.isEmpty || rest.head? == some '\\')
  | _ => false

/-- Takes the last segment off a path, unless it names a drive. -/
def dropSegment : List Text → List Text
  | [] => []
  | last :: others => if beginsWithDrive last then last :: others else others

/-- A path in normal form, by its segments, and whether it begins with a drive. -/
structure Path where
  segments : List Text
  onDrive : Bool := false

/-- Follows the segments of a path. The path so far stands with its last segment first. A drive at
the beginning of the path to a file is written with a colon. -/
def resolve (scheme : Scheme) (done : List Text) (onDrive : Bool) : List Text → Path
  | [] => ⟨done.reverse, onDrive⟩
  | segment :: rest =>
    if isDoubleDot segment then
      let shorter := dropSegment done
      if rest.isEmpty then ⟨([] :: shorter).reverse, onDrive⟩
      else resolve scheme shorter onDrive rest
    else if isDot segment then
      if rest.isEmpty then ⟨([] :: done).reverse, onDrive⟩ else resolve scheme done onDrive rest
    else if scheme == .file && done.isEmpty && isDriveLetter segment then
      resolve scheme [segment.take 1 ++ [':']] true rest
    else resolve scheme (segment :: done) onDrive rest

/-- The path that follows a slash, in normal form. -/
def Path.ofText (scheme : Scheme) (input : Text) : Path :=
  resolve scheme [] false ((Text.split scheme.isSlash input).map (encode .path))

/-- A path with its slashes. That of a file begins with one slash only. -/
def Path.text (scheme : Scheme) (path : Path) : Text :=
  let joined := '/' :: List.intercalate ['/'] path.segments
  if scheme == .file then '/' :: joined.dropWhile (· == '/') else joined

def dropSlash (scheme : Scheme) (input : Text) : Text :=
  match input with
  | [] => []
  | character :: rest => if scheme.isSlash character then rest else input

/-- The query and fragment of an identifier. -/
def queryAndFragment (scheme : Scheme) (input : Text) : Text :=
  let fragmentOf (input : Text) : Text :=
    match input with
    | '#' :: rest => '#' :: encode .fragment rest
    | _ => []
  match input with
  | '?' :: rest =>
    let set := if scheme.isSpecial then EscapeSet.specialQuery else EscapeSet.query
    '?' :: encode set (rest.takeWhile (· != '#')) ++ fragmentOf (rest.dropWhile (· != '#'))
  | input => fragmentOf input

def isHostEnd (scheme : Scheme) (character : Char) : Bool :=
  isPathEnd character || scheme.isSlash character

/-- Divides at the last at-sign. -/
def splitAtSign? (text : Text) : Option (Text × Text) :=
  match text.reverse.dropWhile (· != '@') with
  | [] => none
  | _ :: before => some (before.reverse, (text.reverse.takeWhile (· != '@')).reverse)

/-- The user name and password before the at-sign. -/
def userinfo (text : Text) : Text :=
  let name := text.takeWhile (· != ':')
  let password := (text.dropWhile (· != ':')).drop 1
  let written := encode .userinfo name ++
    (if password.isEmpty then [] else ':' :: encode .userinfo password)
  if written.isEmpty then [] else written ++ ['@']

/-- Divides a host from what follows it. -/
def splitHost (scheme : Scheme) (inBrackets : Bool) : Text → Text × Text
  | [] => ([], [])
  | character :: rest =>
    if isHostEnd scheme character || (character = ':' && !inBrackets) then ([], character :: rest)
    else
      let inside := character = '[' || (inBrackets && character != ']')
      let (host, rest) := splitHost scheme inside rest
      (character :: host, rest)

/-- Reads the port after a host, if there is one. A port that is usual for the scheme is left
out. -/
def port (scheme : Scheme) (input : Text) : Except UriError (Text × Text) :=
  match input with
  | ':' :: rest =>
    let digits := rest.takeWhile Char.isDigit
    let rest := rest.dropWhile Char.isDigit
    let number := (Host.numberOf 10 digits).getD 0
    if 65535 < number || rest.head?.any (!isHostEnd .file ·) then .error .invalidPort
    else if digits.isEmpty || scheme == .network number then .ok ([], rest)
    else .ok (':' :: Nat.toDigits 10 number, rest)
  | input => .ok ([], input)

/-- Reads the user before a host, if there is one. -/
def user (scheme : Scheme) (input : Text) : Except UriError (Text × Text) :=
  let candidate := input.takeWhile (!isHostEnd scheme ·)
  match splitAtSign? candidate with
  | none => .ok ([], input)
  | some (user, host) =>
    let rest := host ++ input.dropWhile (!isHostEnd scheme ·)
    if user.isEmpty && rest.head?.any (isHostEnd scheme) then .error .emptyHost
    else .ok (userinfo user, rest)

/-- Reads the user, host and port, and brings them into normal form. -/
def authority (scheme : Scheme) (input : Text) : Except UriError (Text × Text) := do
  let (user, rest) ← user scheme input
  let (host, rest) := splitHost scheme false rest
  if host.isEmpty && (scheme.isSpecial || rest.head? == some ':' || !user.isEmpty) then
    .error .emptyHost
  let host ← if scheme.isSpecial then Host.parse host else Host.parseOpaque host
  let (port, rest) ← port scheme rest
  .ok (user ++ host ++ port, rest)

/-- Reads what follows two slashes. -/
def hierarchical (scheme : Scheme) (name input : Text) : Except UriError Text := do
  let (authority, rest) ← authority scheme input
  let pathInput := rest.takeWhile (!isPathEnd ·)
  let path :=
    if !scheme.isSpecial && pathInput.isEmpty then []
    else (Path.ofText scheme (dropSlash scheme pathInput)).text scheme
  .ok (name ++ "://".toList ++ authority ++ path ++
    queryAndFragment scheme (rest.dropWhile (!isPathEnd ·)))

def fileHost (host : Text) : Except UriError Text := do
  let host ← Host.parse host
  .ok (if host == "localhost".toList then [] else host)

/-- Reads the host of a file, after the colon. Without a name of a host, the slash after its place
is a part of the path. A path that begins with a drive has no host. -/
def fileLocation (input : Text) : Except UriError (Text × Text) := do
  match input with
  | first :: second :: rest =>
    if Scheme.file.isSlash first && Scheme.file.isSlash second then
      let host := rest.takeWhile (!isHostEnd .file ·)
      if host.isEmpty || isDriveLetter host then .ok ([], rest)
      else .ok (← fileHost host, dropSlash .file (rest.dropWhile (!isHostEnd .file ·)))
    else .ok ([], dropSlash .file input)
  | input => .ok ([], dropSlash .file input)

/-- Reads the identifier of a file, after the colon. -/
def fileUri (input : Text) : Except UriError Text := do
  let (host, rest) ← fileLocation input
  let path := Path.ofText .file (rest.takeWhile (!isPathEnd ·))
  let host := if path.onDrive then [] else host
  .ok ("file://".toList ++ host ++ path.text .file ++
    queryAndFragment .file (rest.dropWhile (!isPathEnd ·)))

/-- Reads an identifier without a host, after the colon. -/
def hostless (name input : Text) : Text :=
  let body := input.takeWhile (!isPathEnd ·)
  let written :=
    match body with
    | '/' :: rest =>
      match (Path.ofText .other rest).text .other with
      | '/' :: '/' :: rest => "/.//".toList ++ rest
      | written => written
    | body => encode .opaquePart body
  name ++ [':'] ++ written ++ queryAndFragment .other (input.dropWhile (!isPathEnd ·))

def isControlOrSpace (character : Char) : Bool :=
  character.toNat ≤ 0x20

/-- Drops blanks and controls around the text, and tabs and line ends in it. -/
def cleaned (input : Text) : Text :=
  let trimmed := ((input.dropWhile isControlOrSpace).reverse.dropWhile isControlOrSpace).reverse
  trimmed.filter fun character => !(['\t', '\n', '\r'].contains character)

/-- Reads an identifier. -/
def parse (input : String) : Except UriError Uri := do
  match scheme? (cleaned input.toList) with
  | none => .error .relative
  | some (name, rest) =>
    let text ←
      match Scheme.ofName name, rest with
      | .file, rest => fileUri rest
      | .network port, rest =>
        hierarchical (.network port) name (rest.dropWhile fun character =>
          character == '/' || character == '\\')
      | .other, '/' :: '/' :: rest => hierarchical .other name rest
      | .other, rest => .ok (hostless name rest)
    .ok ⟨String.ofList text⟩

end DocBlocks.Uri
