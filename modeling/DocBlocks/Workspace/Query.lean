/-
This file answers questions about the blocks of open documents.
-/

import DocBlocks.Hover
import DocBlocks.Workspace.Basic

namespace DocBlocks

/-- A question about a document. -/
inductive Query where
  | folding (uri : String)
  | hover (uri : String) (position : Position)
  | blocks (uri : String)
deriving DecidableEq, Repr

namespace Query

def uri : Query → String
  | folding uri => uri
  | hover uri _ => uri
  | blocks uri => uri

/-- The answer to a question, where `none` means that there is nothing to show or that the
document is not open. -/
inductive Answer where
  | folding (ranges : Option (List FoldingRange))
  | hover (found : Option Hover)
  | blocks (found : Option (List Block))
deriving DecidableEq, Repr

/-- The answer if the document is not open. -/
def unopened : Query → Answer
  | folding _ => .folding none
  | hover _ _ => .hover none
  | blocks _ => .blocks none

/-- A question that waits for the blocks of a revision. -/
structure Waiting where
  query : Query
  snapshot : Snapshot
  token : Token
  call : Nat
  epoch : Nat
deriving DecidableEq, Repr

inductive State where
  | waiting (waiting : Waiting)
  | answered (answer : Answer)
deriving DecidableEq, Repr

end Query

namespace Workspace

/-- Remembers folding ranges, unless their version has been superseded or the cache replaced. -/
def rememberFolding (workspace : Workspace) (waiting : Query.Waiting) (ranges : List FoldingRange) :
    Workspace :=
  if workspace.service.isCancelled waiting.token || workspace.epoch != waiting.epoch then workspace
  else
    { workspace with
      folding := workspace.folding.store workspace.service.now waiting.snapshot.key ranges }

/-- The answer that follows from the blocks, with the settings and patterns now in force. -/
def answerFrom (workspace : Workspace) (waiting : Query.Waiting) (blocks : List Block) :
    Query.Answer × Workspace :=
  match waiting.query with
  | .folding _ =>
    let ranges := FoldingRange.ofBlocks workspace.service.settings.showPreview blocks
    (.folding (some ranges), workspace.rememberFolding waiting ranges)
  | .hover _ position =>
    let patterns := workspace.service.patterns waiting.snapshot.language
    (.hover ((Hover.blockAt blocks position).map (Hover.ofBlock · patterns)), workspace)
  | .blocks _ => (.blocks (some (Block.sorted blocks)), workspace)

/-- Answers a question if its blocks are there. -/
def poll (workspace : Workspace) (waiting : Query.Waiting) : Query.State × Workspace :=
  if workspace.service.isFinished waiting.call then
    let blocks := workspace.service.result waiting.call
    let (answer, workspace) :=
      { workspace with service := workspace.service.drop waiting.call }.answerFrom waiting blocks
    (.answered answer, workspace)
  else (.waiting waiting, workspace)

/-- Asks for the blocks of a revision. -/
def search (workspace : Workspace) (query : Query) (snapshot : Snapshot) : Query.State × Workspace :=
  let (token, workspace) := workspace.token query.uri snapshot.version
  let (call, service) := workspace.service.begin snapshot token
  { workspace with service }.poll ⟨query, snapshot, token, call, workspace.epoch⟩

/-- Answers from the cache of folding ranges if it can. -/
def lookUpFolding (workspace : Workspace) (query : Query) (snapshot : Snapshot) :
    Query.State × Workspace :=
  match workspace.folding.get workspace.service.now snapshot.key with
  | (some ranges, folding) => (.answered (.folding (some ranges)), { workspace with folding })
  | (none, folding) => { workspace with folding }.search query snapshot

/-- Asks a question about the document as it is now. -/
def ask (workspace : Workspace) (query : Query) : Query.State × Workspace :=
  match workspace.document? query.uri with
  | none => (.answered query.unopened, workspace)
  | some document =>
    match query with
    | .folding _ => workspace.lookUpFolding query document.snapshot
    | .hover _ _ =>
      if workspace.service.settings.enableHover then workspace.search query document.snapshot
      else (.answered (.hover none), workspace)
    | .blocks _ => workspace.search query document.snapshot

/-- Waits for the answer to a question. -/
def await (workspace : Workspace) (waiting : Query.Waiting) : Query.Answer × Workspace :=
  let (blocks, service) := workspace.service.finish waiting.call
  { workspace with service }.answerFrom waiting blocks

/-- Gives a question up. -/
def giveUp (workspace : Workspace) (waiting : Query.Waiting) : Workspace :=
  { workspace with service := workspace.service.drop waiting.call }

/-- The answer to a question. -/
def resolve (workspace : Workspace) (query : Query) : Query.Answer × Workspace :=
  match workspace.ask query with
  | (.answered answer, workspace) => (answer, workspace)
  | (.waiting waiting, workspace) => workspace.await waiting

end Workspace

end DocBlocks
