/-
This file looks up, shares and runs the searches of the detection service.
-/

import DocBlocks.Service.Basic

namespace DocBlocks.Service

/-- Remembers a result, unless it is incomplete or the patterns have changed since it was begun. -/
def remember (service : Service) (key : String) (generation : Nat) (detection : Detection) :
    Service :=
  if detection.cancelled || service.generation != generation then service
  else { service with cache := service.cache.store service.now key detection.blocks }

/-- Looks for the result of a revision. -/
def lookUp (service : Service) (key : String) : Option (List Block) × Service :=
  let (blocks, cache) := service.cache.get service.now key
  (blocks, { service with cache })

/-- Begins a search with the patterns in force. -/
def beginSearch (service : Service) (snapshot : Snapshot) (token : Token) : Nat × Service :=
  let id := service.searchCount
  let search : Search := {
    request := {
      receiver := id
      key := snapshot.key
      text := snapshot.text
      language := snapshot.language
      detector := service.detector
      token }
    generation := service.generation
    stage := if service.engine = .lost then .orphaned else .queued }
  (id, { service with
    engine := if service.engine = .unstarted then .running else service.engine
    searches := service.searches ++ [search]
    searchCount := id + 1 })

def search? (service : Service) (id : Nat) : Option Search :=
  service.searches.find? (·.id == id)

def setStage (service : Service) (id : Nat) (stage : Stage) : Service :=
  { service with searches := service.searches.map fun search =>
      if search.id == id then { search with stage } else search }

def settle (service : Service) (search : Search) (detection : Detection) : Service :=
  (service.remember search.request.key search.generation detection).setStage search.id
    (.settled detection)

/-- The result of a search, if there is one by now. Whoever asks first remembers it. -/
def pollSearch (service : Service) (id : Nat) : Option Detection × Service :=
  match service.search? id with
  | none => (none, service)
  | some search =>
    match search.stage with
    | .queued => (none, service)
    | .settled detection => (some detection, service)
    | .delivered detection => (some detection, service.settle search detection)
    | .orphaned =>
      let (detection, cancellation) := search.request.run service.cancellation
      (some detection, { service with cancellation }.settle search detection)

/-- Takes a search off the list, unless another one has come in its place. -/
def release (service : Service) (key : String) (id : Nat) : Service :=
  { service with inFlight := service.inFlight.filter fun entry => entry != (key, id) }

/-- Leaves in flight no other revision of the document. -/
def evictOthers (service : Service) (snapshot : Snapshot) : Service :=
  { service with inFlight := service.inFlight.filter fun (key, _) =>
      key == snapshot.key || !keyOfDocument snapshot.uri key }

/-- Joins the search in flight for a revision, or begins one. -/
def joinOrBegin (service : Service) (snapshot : Snapshot) (token : Token) : Progress × Service :=
  match service.inFlight.lookup snapshot.key with
  | some search => (.waiting search true, service)
  | none =>
    let (search, service) := service.beginSearch snapshot token
    (.waiting search false, { service with inFlight := service.inFlight ++ [(snapshot.key, search)] })

/-- What a new call does before it waits. -/
def enter (service : Service) (snapshot : Snapshot) (token : Token) : Progress × Service :=
  if !service.settings.isEnabled snapshot.language then (.finished [], service)
  else
    match service.lookUp snapshot.key with
    | (some blocks, service) => (.finished blocks, service)
    | (none, service) => (service.evictOthers snapshot).joinOrBegin snapshot token

def pollRepeated (service : Service) (search : Nat) : Progress × Service :=
  match service.pollSearch search with
  | (none, service) => (.repeating search, service)
  | (some detection, service) => (.finished detection.blocks, service)

/-- Lets a call go on as far as it can. A call that joined a search which somebody else cancelled
begins one of its own. -/
def advance (service : Service) (snapshot : Snapshot) (token : Token) :
    Progress → Progress × Service
  | .finished blocks => (.finished blocks, service)
  | .repeating search => service.pollRepeated search
  | .waiting search joined =>
    match service.pollSearch search with
    | (none, service) => (.waiting search joined, service)
    | (some detection, service) =>
      let service := service.release snapshot.key search
      if detection.cancelled && joined && !service.isCancelled token then
        let (again, service) := service.beginSearch snapshot token
        service.pollRepeated again
      else (.finished detection.blocks, service)

/-- Drops the searches that no call waits for. -/
def dropUnwaited (service : Service) : Service :=
  { service with searches := service.searches.filter fun search =>
      service.calls.any fun call => call.progress.search? == some search.id }

def call? (service : Service) (id : Nat) : Option Call :=
  service.calls.find? (·.id == id)

/-- Lets a call go on. -/
def poll (service : Service) (id : Nat) : Service :=
  match service.call? id with
  | none => service
  | some call =>
    let (progress, service) := service.advance call.snapshot call.token call.progress
    dropUnwaited { service with calls := service.calls.map fun other =>
      if other.id == id then { other with progress } else other }

def pollAll (service : Service) (ids : List Nat) : Service :=
  ids.foldl poll service

/-- Opens a call and lets it go as far as it can. -/
def begin (service : Service) (snapshot : Snapshot) (token : Token) : Nat × Service :=
  let id := service.callCount
  let (progress, service) := service.enter snapshot token
  (id, poll { service with
    calls := service.calls ++ [⟨id, snapshot, token, progress⟩]
    callCount := id + 1 } id)

/-- Lets the worker answer all that is queued. -/
def work (service : Service) : Service :=
  let queued := service.searches.filter fun search => search.stage = .queued
  let (worker, cancellation) :=
    Worker.drain { queue := queued.map Search.request } (fun _ => false) service.cancellation
  { service with
    cancellation
    searches := service.searches.map fun search =>
      match search.stage, worker.answer? search.id with
      | .queued, some answer => { search with stage := .delivered answer.detection }
      | _, _ => search }

def isFinished (service : Service) (id : Nat) : Bool :=
  match service.call? id with
  | some call => call.progress.search?.isNone
  | none => true

/-- Lets calls go on, and the worker too as long as one of them waits, for at most `rounds`
rounds of work. -/
def awaitFor (rounds : Nat) (service : Service) (ids : List Nat) : Service :=
  let service := service.pollAll ids
  match rounds with
  | 0 => service
  | rounds + 1 =>
    if ids.all service.isFinished then service else awaitFor rounds service.work ids

/-- Waits for calls. A call needs no more than two rounds of work, one for the search that it
joins and one for its own. -/
def await (service : Service) (ids : List Nat) : Service :=
  awaitFor 2 service ids

/-- Closes a call. What it waited for is not waited for by it any more. -/
def drop (service : Service) (id : Nat) : Service :=
  match service.call? id with
  | none => service
  | some call =>
    let service := match call.progress with
      | .waiting search _ => service.release call.snapshot.key search
      | _ => service
    dropUnwaited { service with calls := service.calls.filter (·.id != id) }

def result (service : Service) (id : Nat) : List Block :=
  match service.call? id with
  | some { progress := .finished blocks, .. } => blocks
  | _ => []

/-- Waits for a call and closes it. -/
def finish (service : Service) (id : Nat) : List Block × Service :=
  let service := service.await [id]
  (service.result id, service.drop id)

/-- The blocks of a revision. -/
def detect (service : Service) (snapshot : Snapshot) (token : Token) : List Block × Service :=
  let (id, service) := service.begin snapshot token
  service.finish id

def beginAll (service : Service) : List (Snapshot × Token) → List Nat × Service
  | [] => ([], service)
  | (snapshot, token) :: requests =>
    let (id, service) := service.begin snapshot token
    let (ids, service) := service.beginAll requests
    (id :: ids, service)

/-- The blocks of several revisions, searched for at the same time. -/
def detectAll (service : Service) (requests : List (Snapshot × Token)) :
    List (List Block) × Service :=
  let (ids, service) := service.beginAll requests
  let service := service.await ids
  (ids.map service.result, ids.foldl drop service)

/-- The blocks of a revision, without the worker. -/
def detectNow (service : Service) (snapshot : Snapshot) (token : Token) : List Block × Service :=
  if !service.settings.isEnabled snapshot.language then ([], service)
  else
    match service.lookUp snapshot.key with
    | (some blocks, service) => (blocks, service)
    | (none, service) =>
      let request : Worker.Request := {
        receiver := service.searchCount
        key := snapshot.key
        text := snapshot.text
        language := snapshot.language
        detector := service.detector
        token }
      let (detection, cancellation) := request.run service.cancellation
      (detection.blocks,
        { service with cancellation }.remember snapshot.key service.generation detection)

end DocBlocks.Service
