/-
This file runs requested searches in batches. Searches are cancelled by tokens.
-/

import DocBlocks.Detection.Basic

namespace DocBlocks

abbrev Token := Nat

/-- The tokens issued so far are those below `issued`. A token once cancelled stays so. -/
structure Cancellation where
  issued : Nat := 0
  cancelled : List Token := []
deriving DecidableEq, Repr

namespace Cancellation

def issue (cancellation : Cancellation) : Token × Cancellation :=
  (cancellation.issued, { cancellation with issued := cancellation.issued + 1 })

def isCancelled (cancellation : Cancellation) (token : Token) : Bool :=
  cancellation.cancelled.contains token

def cancel (cancellation : Cancellation) (token : Token) : Cancellation :=
  if cancellation.isCancelled token then cancellation
  else { cancellation with cancelled := token :: cancellation.cancelled }

end Cancellation

/-- A search to be run, and who is to receive its result. -/
structure Worker.Request where
  receiver : Nat
  key : String
  text : Text
  language : String
  detector : Detector
  token : Token

/-- The result of a search, with the receiver and the key of its request. -/
structure Worker.Answer where
  receiver : Nat
  key : String
  detection : Detection
deriving DecidableEq, Repr

/-- Requests wait in a queue until they are collected into batches. Answered requests are gone. -/
structure Worker where
  queue : List Worker.Request := []
  batches : List (List Worker.Request) := []
  answers : List Worker.Answer := []

namespace Worker

/-- The number of requests that one batch may take from the queue. -/
def batchLimit : Nat := 64

/-- Runs a search under its token as it is now. A matcher may cancel the token. -/
def Request.run (request : Request) (cancellation : Cancellation) : Detection × Cancellation :=
  let found := request.detector.passOver request.text request.language fun _ =>
    cancellation.isCancelled request.token
  (request.detector.detectionOf request.text request.language found,
    if found.cancels then cancellation.cancel request.token else cancellation)

/-- Runs searches one after the other. -/
def runAll (cancellation : Cancellation) : List Request → List Answer × Cancellation
  | [] => ([], cancellation)
  | request :: requests =>
    let (detection, cancellation) := request.run cancellation
    let (answers, cancellation) := runAll cancellation requests
    (⟨request.receiver, request.key, detection⟩ :: answers, cancellation)

def submit (worker : Worker) (request : Request) : Worker :=
  { worker with queue := worker.queue ++ [request] }

/-- Takes up to `count` requests from the queue, no more than a batch can hold. Requests whose
receivers went away are dropped. -/
def collect (worker : Worker) (abandoned : Nat → Bool) (count : Nat) : Worker :=
  let size := min count batchLimit
  let batch := (worker.queue.take size).filter fun request => !abandoned request.receiver
  { worker with
    queue := worker.queue.drop size
    batches := if batch.isEmpty then worker.batches else worker.batches ++ [batch] }

/-- Runs the batch at `index` and delivers its answers. -/
def complete (worker : Worker) (cancellation : Cancellation) (index : Nat) : Worker × Cancellation :=
  match worker.batches[index]? with
  | none => (worker, cancellation)
  | some batch =>
    let (answers, cancellation) := runAll cancellation batch
    ({ worker with
      batches := worker.batches.eraseIdx index
      answers := worker.answers ++ answers }, cancellation)

/-- Collects full batches and completes each at once, for at most `rounds` rounds. -/
def drainFor (rounds : Nat) (worker : Worker) (abandoned : Nat → Bool)
    (cancellation : Cancellation) : Worker × Cancellation :=
  match rounds with
  | 0 => (worker, cancellation)
  | rounds + 1 =>
    let (worker, cancellation) := (worker.collect abandoned batchLimit).complete cancellation 0
    drainFor rounds worker abandoned cancellation

/-- Works until the queue is empty. As many rounds as there are requests are enough. -/
def drain (worker : Worker) (abandoned : Nat → Bool) (cancellation : Cancellation) :
    Worker × Cancellation :=
  drainFor worker.queue.length worker abandoned cancellation

def answer? (worker : Worker) (receiver : Nat) : Option Answer :=
  worker.answers.find? (·.receiver == receiver)

end Worker

end DocBlocks
