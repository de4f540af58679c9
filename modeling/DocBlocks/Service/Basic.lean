/-
This file defines the state of the detection service and what changes its patterns and settings.
-/

import DocBlocks.Cache
import DocBlocks.Document
import DocBlocks.Settings.Basic
import DocBlocks.Worker

namespace DocBlocks

namespace Service

/-- How far a search has come. -/
inductive Stage where
  /-- It waits for the worker. -/
  | queued
  /-- The worker has answered, and nobody has looked yet. -/
  | delivered (detection : Detection)
  /-- There is no worker for it: whoever looks first runs it. -/
  | orphaned
  /-- Somebody has looked. -/
  | settled (detection : Detection)
deriving DecidableEq, Repr

/-- A search that several calls may wait for. It is made with the patterns of its beginning, and
its `generation` tells whether they are still in force. -/
structure Search where
  request : Worker.Request
  generation : Nat
  stage : Stage

def Search.id (search : Search) : Nat :=
  search.request.receiver

/-- What a call waits for, or what it returns. -/
inductive Progress where
  | waiting (search : Nat) (joined : Bool)
  | repeating (search : Nat)
  | finished (blocks : List Block)
deriving DecidableEq, Repr

/-- The search that a call waits for. -/
def Progress.search? : Progress → Option Nat
  | waiting search _ => some search
  | repeating search => some search
  | finished _ => none

structure Call where
  id : Nat
  snapshot : Snapshot
  token : Token
  progress : Progress
deriving DecidableEq, Repr

inductive Engine where
  | unstarted
  | running
  | lost
deriving DecidableEq, Repr

end Service

/-- The service remembers results by revision, and lets calls for the same revision share one
search as long as it is listed in `inFlight`. -/
structure Service where
  /-- The patterns that do not come from the settings. -/
  base : Registry
  /-- The patterns in force. -/
  registry : Registry
  settings : Settings
  cache : Cache (List Block)
  inFlight : List (String × Nat) := []
  /-- Raised whenever all earlier results become invalid. -/
  generation : Nat := 0
  engine : Service.Engine := .unstarted
  searches : List Service.Search := []
  searchCount : Nat := 0
  calls : List Service.Call := []
  callCount : Nat := 0
  cancellation : Cancellation := {}
  /-- The time in milliseconds. -/
  now : Nat := 0

namespace Service

/-- An empty cache with the times of the settings. -/
def freshCache {α : Type} (settings : Settings) (now : Nat) : Cache α :=
  Cache.new (settings.cacheTtl * 1000) (settings.cleanupInterval * 1000) now

def new (registry : Registry) : Service where
  base := registry
  registry
  settings := {}
  cache := freshCache {} 0

def wait (service : Service) (milliseconds : Nat) : Service :=
  { service with now := service.now + milliseconds }

def issueToken (service : Service) : Token × Service :=
  let (token, cancellation) := service.cancellation.issue
  (token, { service with cancellation })

def cancel (service : Service) (token : Token) : Service :=
  { service with cancellation := service.cancellation.cancel token }

def isCancelled (service : Service) (token : Token) : Bool :=
  service.cancellation.isCancelled token

def detector (service : Service) : Detector :=
  { registry := service.registry, previewLength := service.settings.previewLength }

/-- Forgets all results and all searches in flight. -/
def invalidate (service : Service) : Service :=
  { service with
    generation := service.generation + 1
    inFlight := []
    cache := service.cache.clear }

/-- Registers patterns in order. -/
def register (service : Service) (patterns : List Pattern) : Service :=
  if patterns.isEmpty then service
  else
    invalidate { service with
      base := service.base.registerAll patterns
      registry := service.registry.registerAll patterns }

/-- Applies settings if they are valid. Their patterns follow those that do not come from
settings. New times make a new cache. -/
def apply (service : Service) (settings : Settings) : Except SettingsError Service := do
  settings.validate
  let patterns ← settings.compilePatterns
  let previous := service.settings
  let sameTimes :=
    previous.cacheTtl = settings.cacheTtl && previous.cleanupInterval = settings.cleanupInterval
  .ok (invalidate { service with
    registry := service.base.registerAll patterns
    settings
    cache := if sameTimes then service.cache else freshCache settings service.now })

def patterns (service : Service) (language : String) : List Pattern :=
  service.registry.lookup language

/-- The enabled languages that have a pattern, in order. -/
def languages (service : Service) : List String :=
  service.registry.languages.filter service.settings.isEnabled

def supports (service : Service) (language : String) : Bool :=
  service.registry.supports language && service.settings.isEnabled language

/-- Forgets the results of a document and its searches in flight, and counts the results. -/
def invalidateDocument (service : Service) (uri : String) : Nat × Service :=
  let (count, cache) := service.cache.removeWhere (keyOfDocument uri)
  (count, { service with
    cache
    inFlight := service.inFlight.filter fun (key, _) => !keyOfDocument uri key })

def cleanup (service : Service) : Nat × Service :=
  let (count, cache) := service.cache.cleanup service.now
  (count, { service with cache })

/-- The worker goes away with all that is queued. One that was never started is not missed. -/
def loseWorker (service : Service) : Service :=
  match service.engine with
  | .running =>
    { service with
      engine := .lost
      searches := service.searches.map fun search =>
        if search.stage = .queued then { search with stage := .orphaned } else search }
  | _ => service

end Service

end DocBlocks
