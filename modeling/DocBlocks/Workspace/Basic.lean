/-
This file holds the open documents and what is known about them.
-/

import DocBlocks.Document
import DocBlocks.Folding
import DocBlocks.Service.Detect
import DocBlocks.Settings.Encoding

namespace DocBlocks

/-- The token that all searches of one version of a document share. -/
structure Workspace.Ticket where
  version : Int
  token : Token
deriving DecidableEq, Repr

structure Workspace where
  service : Service
  /-- The open documents by their identifiers. -/
  documents : List (String × Document) := []
  tickets : List (String × Workspace.Ticket) := []
  folding : Cache (List FoldingRange)
  /-- Raised whenever the cache of folding ranges is replaced. -/
  epoch : Nat := 0

namespace Workspace

def new (service : Service) : Workspace where
  service
  folding := Service.freshCache service.settings service.now

def wait (workspace : Workspace) (milliseconds : Nat) : Workspace :=
  { workspace with service := workspace.service.wait milliseconds }

def document? (workspace : Workspace) (uri : String) : Option Document :=
  workspace.documents.lookup uri

def setDocument (workspace : Workspace) (uri : String) (document : Document) : Workspace :=
  { workspace with
    documents := (uri, document) :: workspace.documents.filter fun entry => entry.1 != uri }

def setTicket (workspace : Workspace) (uri : String) (ticket : Ticket) : Workspace :=
  { workspace with
    tickets := (uri, ticket) :: workspace.tickets.filter fun entry => entry.1 != uri }

/-- Issues a ticket for a version of a document. -/
def issueTicket (workspace : Workspace) (uri : String) (version : Int) : Token × Workspace :=
  let (token, service) := workspace.service.issueToken
  (token, { workspace with service }.setTicket uri ⟨version, token⟩)

/-- The token for a version of a document. Versions up to that of the ticket share its token, and
a newer version cancels and replaces it. -/
def token (workspace : Workspace) (uri : String) (version : Int) : Token × Workspace :=
  match workspace.tickets.lookup uri with
  | none => workspace.issueTicket uri version
  | some ticket =>
    if ticket.version < version then
      { workspace with service := workspace.service.cancel ticket.token }.issueTicket uri version
    else (ticket.token, workspace)

/-- Cancels the searches of a document. -/
def cancelSearches (workspace : Workspace) (uri : String) : Workspace :=
  match workspace.tickets.lookup uri with
  | none => workspace
  | some ticket =>
    { workspace with
      service := workspace.service.cancel ticket.token
      tickets := workspace.tickets.filter fun entry => entry.1 != uri }

/-- Cancels all searches. -/
def shutDown (workspace : Workspace) : Workspace :=
  let tokens := workspace.tickets.map fun (_, ticket) => ticket.token
  { workspace with service := tokens.foldl Service.cancel workspace.service }

def openDocument (workspace : Workspace) (document : Document) : Workspace :=
  (workspace.cancelSearches document.uri).setDocument document.uri document

/-- Applies edits to an open document. A change that makes no newer version leaves the text as it
is, but cancels the searches all the same. -/
def changeDocument (workspace : Workspace) (uri : String) (version : Int) (edits : List Edit) :
    Workspace :=
  match workspace.document? uri with
  | none => workspace
  | some document =>
    let workspace := workspace.cancelSearches uri
    match document.change edits version with
    | .ok changed => workspace.setDocument uri changed
    | .error _ => workspace

/-- Closes a document and forgets what is known about it. -/
def closeDocument (workspace : Workspace) (uri : String) : Workspace :=
  let workspace := workspace.cancelSearches uri
  { workspace with
    documents := workspace.documents.filter fun entry => entry.1 != uri
    service := (workspace.service.invalidateDocument uri).2
    folding := (workspace.folding.removeWhere (keyOfDocument uri)).2 }

/-- Reads and applies settings. -/
def configure (workspace : Workspace) (value : Json) : Except SettingsError Workspace := do
  let settings ← Settings.ofValue value
  let service ← workspace.service.apply settings
  .ok { workspace with
    service
    folding := Service.freshCache settings service.now
    epoch := workspace.epoch + 1 }

def clearCaches (workspace : Workspace) : Workspace :=
  { workspace with
    service := workspace.service.invalidate
    folding := workspace.folding.clear }

/-- The sizes of the caches and the success of the look-ups. -/
def statistics (workspace : Workspace) : Json :=
  .object [
    ("foldingSize", .nat workspace.folding.size),
    ("hits", .nat workspace.service.cache.hits),
    ("misses", .nat workspace.service.cache.misses),
    ("size", .nat workspace.service.cache.size)]

/-- The workspace as it is shown in diagnostics. -/
def shown (workspace : Workspace) : String :=
  "DocstringBackend \x7b documents: " ++ toString workspace.documents.length ++
    ", languages: " ++ toString workspace.service.languages.length ++ " \x7d"

end Workspace

end DocBlocks
