/-
This file holds open documents, names their revisions and applies edits to them.
-/

import DocBlocks.Text.Basic

namespace DocBlocks

/-- A revision of a document, as it is given to detection. -/
structure Snapshot where
  uri : String
  version : Int
  language : String
  text : Text
deriving DecidableEq, Repr

/-- The key of a revision, made of its document, its version and its language. -/
def revisionKey (uri : String) (version : Int) (language : String) : String :=
  uri ++ "#v" ++ toString version ++ "#" ++ language

def Snapshot.key (snapshot : Snapshot) : String :=
  revisionKey snapshot.uri snapshot.version snapshot.language

/-- A key that starts with the document and a number sign is taken for a revision of it. -/
def keyOfDocument (uri key : String) : Bool :=
  (uri ++ "#").toList.isPrefixOf key.toList

/-- A place in a text, counted from zero in lines and characters. -/
structure Position where
  line : Nat
  character : Nat
deriving DecidableEq, Repr

/-- An edit replaces the text between two positions, or the whole text. -/
structure Edit where
  range : Option (Position × Position)
  text : Text
deriving DecidableEq, Repr

structure Document where
  uri : String
  language : String
  text : Text
  version : Int
deriving DecidableEq, Repr

/-- Why a change is refused. -/
inductive DocumentError where
  | staleVersion (version current : Int)
deriving DecidableEq, Repr

def DocumentError.message : DocumentError → String
  | staleVersion version current =>
    "version " ++ toString version ++ " not newer than " ++ toString current

/-- The line feeds and carriage returns at the end of a line. -/
def endingLength (line : Text) : Nat :=
  (line.reverse.takeWhile fun character => character == '\n' || character == '\r').length

/-- The number of characters before a position. A character past the end of its line stands for
the place before the line's ending, a line past the end of the text for the end of the text. -/
def Position.offset (position : Position) (text : Text) : Nat :=
  let lines := text.editorLines
  match lines[position.line]? with
  | none => text.length
  | some line =>
    (lines.take position.line).flatten.length +
      min position.character (line.length - endingLength line)

def Edit.apply (edit : Edit) (text : Text) : Text :=
  match edit.range with
  | none => edit.text
  | some (first, last) =>
    let start := first.offset text
    let stop := max start (last.offset text)
    text.take start ++ edit.text ++ text.drop stop

namespace Document

/-- Applies edits in order, if they make a newer version. -/
def change (document : Document) (edits : List Edit) (version : Int) :
    Except DocumentError Document :=
  if version ≤ document.version then .error (.staleVersion version document.version)
  else .ok { document with text := edits.foldl (fun text edit => edit.apply text) document.text, version }

def snapshot (document : Document) : Snapshot :=
  ⟨document.uri, document.version, document.language, document.text⟩

end Document

end DocBlocks
