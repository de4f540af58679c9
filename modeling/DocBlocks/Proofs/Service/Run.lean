/-
This file defines the runs of the detection service: everything that may happen to it, in any order.
-/

import DocBlocks.Proofs.Worker.Answers
import DocBlocks.Service.Detect

namespace DocBlocks.Service

/-- Lets the worker answer some of the queued searches. -/
def answer (service : Service) (queued : List Search) : Service :=
  let (worker, cancellation) :=
    Worker.drain { queue := queued.map Search.request } (fun _ => false) service.cancellation
  { service with
    cancellation
    searches := service.searches.map fun search =>
      match search.stage, worker.answer? search.id with
      | .queued, some answer => { search with stage := .delivered answer.detection }
      | _, _ => search }

/-- Lets the worker answer the queued searches that are chosen. Batches may be answered in any
order, so any part of the queue may be answered before the rest. -/
def serve (service : Service) (chosen : Nat → Bool) : Service :=
  service.answer
    (service.searches.filter fun search => search.stage = .queued && chosen search.id)

/-- When the worker works, it serves every search. -/
theorem work_eq_serve (service : Service) : service.work = service.serve fun _ => true := by
  have all : (service.searches.filter fun search => search.stage = .queued) =
      service.searches.filter fun search => search.stage = .queued && true := by
    simp only [Bool.and_true]
  exact congrArg service.answer all

/-- What may happen to the service. -/
inductive Event where
  | issueToken
  | cancel (token : Token)
  /-- A call is made and polled for the first time. -/
  | begin (snapshot : Snapshot) (token : Token)
  | poll (call : Nat)
  /-- A call is driven to its end. -/
  | finish (call : Nat)
  | drop (call : Nat)
  | serve (chosen : Nat → Bool)
  | loseWorker
  | detectNow (snapshot : Snapshot) (token : Token)
  | register (patterns : List Pattern)
  /-- Settings are applied, or refused if they are not valid. -/
  | apply (settings : Settings)
  | clear
  | invalidateDocument (uri : String)
  | cleanup
  | wait (milliseconds : Nat)

/-- The revision that is submitted. -/
def Event.snapshot? : Event → Option Snapshot
  | begin snapshot _ => some snapshot
  | detectNow snapshot _ => some snapshot
  | _ => none

/-- What may bring other patterns or settings into force, or ask for all results to be forgotten. -/
def Event.renews : Event → Bool
  | register _ => true
  | apply _ => true
  | clear => true
  | _ => false

/-- The revisions that are submitted in a run. -/
def submitted (events : List Event) : List Snapshot :=
  events.filterMap Event.snapshot?

/-- Revisions are submitted in the order of the events. -/
theorem submitted_append (first second : List Event) :
    submitted (first ++ second) = submitted first ++ submitted second :=
  List.filterMap_append

def step (service : Service) : Event → Service
  | .issueToken => service.issueToken.2
  | .cancel token => service.cancel token
  | .begin snapshot token => (service.begin snapshot token).2
  | .poll call => service.poll call
  | .finish call => (service.finish call).2
  | .drop call => service.drop call
  | .serve chosen => service.serve chosen
  | .loseWorker => service.loseWorker
  | .detectNow snapshot token => (service.detectNow snapshot token).2
  | .register patterns => service.register patterns
  | .apply settings => (service.apply settings).toOption.getD service
  | .clear => service.invalidate
  | .invalidateDocument uri => (service.invalidateDocument uri).2
  | .cleanup => service.cleanup.2
  | .wait milliseconds => service.wait milliseconds

def run (service : Service) (events : List Event) : Service :=
  events.foldl step service

/-- A run may be divided. -/
theorem run_append (service : Service) (first second : List Event) :
    service.run (first ++ second) = (service.run first).run second :=
  List.foldl_append

/-- What holds after every step holds after every run. -/
theorem run_induction {motive : Service → Prop} (allowed : Event → Prop) (service : Service)
    (events : List Event) (start : motive service)
    (preserved : ∀ service event, allowed event → motive service → motive (service.step event))
    (admitted : ∀ event ∈ events, allowed event) : motive (service.run events) := by
  induction events generalizing service with
  | nil => exact start
  | cons event events ih =>
      apply ih (service.step event)
      · exact preserved service event (admitted event List.mem_cons_self) start
      · exact fun other member => admitted other (List.mem_cons_of_mem _ member)

/-- Waiting for calls is a matter of polls and work. -/
theorem awaitFor_induction {motive : Service → Prop}
    (poll : ∀ service call, motive service → motive (service.poll call))
    (serve : ∀ service chosen, motive service → motive (service.serve chosen))
    (rounds : Nat) (service : Service) (calls : List Nat) (start : motive service) :
    motive (service.awaitFor rounds calls) := by
  have polled (service : Service) (start : motive service) : motive (service.pollAll calls) := by
    unfold pollAll
    induction calls generalizing service with
    | nil => exact start
    | cons call calls ih => exact ih (service.poll call) (poll service call start)
  induction rounds generalizing service with
  | zero => exact polled service start
  | succ rounds ih =>
      unfold awaitFor
      dsimp only
      split
      · exact polled service start
      · apply ih
        rw [work_eq_serve]
        exact serve _ _ (polled service start)

/-- Driving a call to its end is a matter of polls, work, and dropping the call. -/
theorem finish_induction {motive : Service → Prop}
    (poll : ∀ service call, motive service → motive (service.poll call))
    (serve : ∀ service chosen, motive service → motive (service.serve chosen))
    (drop : ∀ service call, motive service → motive (service.drop call))
    (service : Service) (call : Nat) (start : motive service) :
    motive (service.finish call).2 :=
  drop _ call (awaitFor_induction poll serve 2 service [call] start)

end DocBlocks.Service
