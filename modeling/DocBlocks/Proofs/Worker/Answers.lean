/-
This file says what the answers of the worker are worth.
-/

import DocBlocks.Proofs.Detection.Quiet

namespace DocBlocks

namespace Cancellation

/-- What is cancelled before is cancelled after. -/
def Grows (before after : Cancellation) : Prop :=
  ∀ token, before.isCancelled token = true → after.isCancelled token = true

theorem Grows.refl (cancellation : Cancellation) : cancellation.Grows cancellation :=
  fun _ cancelled => cancelled

/-- What one moment and the next keep cancelled stays so over both. -/
theorem Grows.trans {first second third : Cancellation} (early : first.Grows second)
    (late : second.Grows third) : first.Grows third :=
  fun token cancelled => late token (early token cancelled)

/-- What is not cancelled after was not cancelled before. -/
theorem Grows.uncancelled {before after : Cancellation} (grows : before.Grows after) {token : Token}
    (uncancelled : after.isCancelled token = false) : before.isCancelled token = false := by
  by_contra cancelled
  have late := grows token (eq_true_of_ne_false cancelled)
  exact Bool.false_ne_true (uncancelled.symm.trans late)

/-- One token is cancelled, and the others are as they were. -/
theorem cancel_isCancelled (cancellation : Cancellation) (token other : Token) :
    (cancellation.cancel token).isCancelled other =
      (other == token || cancellation.isCancelled other) := by
  unfold cancel
  split
  · rename_i already
    by_cases same : other = token
    · subst other
      simp [already]
    · simp [same]
  · simp only [isCancelled, List.contains_cons]

/-- Cancelling a token revokes nothing. -/
theorem cancel_grows (cancellation : Cancellation) (token : Token) :
    cancellation.Grows (cancellation.cancel token) := by
  intro other cancelled
  simp [cancel_isCancelled, cancelled]

theorem issue_grows (cancellation : Cancellation) :
    cancellation.Grows cancellation.issue.2 :=
  fun _ cancelled => cancelled

end Cancellation

namespace Worker

/-- The blocks that are looked for, with no pattern left out. -/
def Request.thorough (request : Request) : List Block :=
  request.detector.thorough request.text request.language

/-- A detection answers a request if it is thorough, or says that it is not and the request is
cancelled. -/
structure Request.Answered (request : Request) (cancellation : Cancellation)
    (detection : Detection) : Prop where
  thorough : detection.cancelled = false → detection.blocks = request.thorough
  excused : detection.cancelled = true → cancellation.isCancelled request.token = true

/-- An answer stays one when more tokens are cancelled. -/
theorem Request.Answered.grows {request : Request} {before after : Cancellation}
    {detection : Detection} (answered : request.Answered before detection)
    (grows : before.Grows after) : request.Answered after detection where
  thorough := answered.thorough
  excused cancelled := grows request.token (answered.excused cancelled)

/-- A search revokes nothing. -/
theorem Request.run_grows (request : Request) (cancellation : Cancellation) :
    cancellation.Grows (request.run cancellation).2 := by
  unfold run
  dsimp only
  split
  · exact cancellation.cancel_grows request.token
  · exact Cancellation.Grows.refl cancellation

/-- A search answers its request. -/
theorem Request.run_answered (request : Request) (cancellation : Cancellation) :
    request.Answered (request.run cancellation).2 (request.run cancellation).1 where
  thorough unstopped := request.detector.detectionOf_thorough _ _ _ unstopped
  excused stopped := by
    rcases Detector.pass_stopped _ _ _ _ _ stopped with own | ⟨_, outside⟩
    · have cancels : (request.detector.passOver request.text request.language fun _ =>
          cancellation.isCancelled request.token).cancels = true := own
      simp [run, cancels, Cancellation.cancel_isCancelled]
    · exact request.run_grows cancellation _ outside

/-- A search for a language without patterns is thorough in any case. -/
theorem Request.run_unpatterned (request : Request) (cancellation : Cancellation)
    (unpatterned : request.detector.registry.lookup request.language = []) :
    (request.run cancellation).1.cancelled = false := by
  simp [run, Detector.detectionOf, Detector.passOver, unpatterned, Detector.pass]

/-- A cancelled search stops before its first pattern. -/
theorem Request.run_halted (request : Request) (cancellation : Cancellation)
    (patterned : request.detector.registry.lookup request.language ≠ [])
    (cancelled : cancellation.isCancelled request.token = true) :
    (request.run cancellation).1.cancelled = true :=
  Detector.pass_halted _ _ _ _ _ patterned cancelled

/-- A search with quiet patterns is thorough unless it is cancelled beforehand. -/
theorem Request.run_uncancelled (request : Request) (cancellation : Cancellation)
    (quiet : request.detector.registry.Quiet)
    (uncancelled : cancellation.isCancelled request.token = false) :
    (request.run cancellation).1.cancelled = false := by
  by_contra stopped
  have excused := (request.run_answered cancellation).excused (eq_true_of_ne_false stopped)
  rw [request.run_cancellation quiet, uncancelled] at excused
  cases excused

/-- Any number of searches revoke nothing. -/
theorem runAll_grows (cancellation : Cancellation) (requests : List Request) :
    cancellation.Grows (runAll cancellation requests).2 := by
  induction requests generalizing cancellation with
  | nil => exact Cancellation.Grows.refl cancellation
  | cons request requests ih => exact (request.run_grows cancellation).trans (ih _)

/-- Each answer is that of a request, run at some moment in between. -/
theorem runAll_answer (cancellation : Cancellation) (requests : List Request) (answer : Answer)
    (member : answer ∈ (runAll cancellation requests).1) :
    ∃ request ∈ requests, ∃ moment, cancellation.Grows moment ∧
      (request.run moment).2.Grows (runAll cancellation requests).2 ∧
      answer = ⟨request.receiver, request.key, (request.run moment).1⟩ := by
  induction requests generalizing cancellation with
  | nil => cases member
  | cons request requests ih =>
      rcases List.mem_cons.mp member with same | later
      · refine ⟨request, List.mem_cons_self, cancellation, Cancellation.Grows.refl _, ?_, same⟩
        exact runAll_grows _ requests
      · obtain ⟨found, foundMember, moment, early, late, same⟩ := ih _ later
        exact ⟨found, List.mem_cons_of_mem _ foundMember, moment,
          (request.run_grows cancellation).trans early, late, same⟩

/-- Every request gets an answer, in the order of the requests. -/
theorem runAll_receivers (cancellation : Cancellation) (requests : List Request) :
    (runAll cancellation requests).1.map Answer.receiver = requests.map Request.receiver := by
  induction requests generalizing cancellation with
  | nil => rfl
  | cons request requests ih =>
      change request.receiver :: _ = request.receiver :: _
      rw [ih]

/-- Searches with quiet patterns do not touch each other. -/
theorem runAll_quiet (cancellation : Cancellation) (requests : List Request)
    (quiet : ∀ request ∈ requests, request.detector.registry.Quiet) :
    runAll cancellation requests =
      (requests.map fun request => ⟨request.receiver, request.key, (request.run cancellation).1⟩,
        cancellation) := by
  induction requests with
  | nil => rfl
  | cons request requests ih =>
      have unchanged := request.run_cancellation (quiet request List.mem_cons_self) cancellation
      have rest := ih fun other member => quiet other (List.mem_cons_of_mem request member)
      simp only [runAll, unchanged, rest, List.map_cons]

/-- Requests may be run in two groups, one after the other. -/
theorem runAll_append (cancellation : Cancellation) (first second : List Request) :
    runAll cancellation (first ++ second) =
      ((runAll cancellation first).1 ++ (runAll (runAll cancellation first).2 second).1,
        (runAll (runAll cancellation first).2 second).2) := by
  induction first generalizing cancellation with
  | nil => rfl
  | cons request requests ih =>
      simp only [List.cons_append, runAll, ih]

/-- One round of work answers a first part of the queue, without the requests whose receivers went
away. -/
theorem collect_complete (queue : List Request) (answers : List Answer) (abandoned : Nat → Bool)
    (cancellation : Cancellation) :
    let kept := (queue.take batchLimit).filter fun request => !abandoned request.receiver
    (collect ⟨queue, [], answers⟩ abandoned batchLimit).complete cancellation 0 =
      (⟨queue.drop batchLimit, [], answers ++ (runAll cancellation kept).1⟩,
        (runAll cancellation kept).2) := by
  intro kept
  simp only [collect, Nat.min_self, List.nil_append]
  change complete ⟨_, if kept.isEmpty then [] else [kept], _⟩ _ _ = _
  cases kept with
  | nil => simp [complete, runAll]
  | cons request requests => simp [complete]

/-- Rounds of work, one for each request at least, answer the whole queue in order, except for the
requests whose receivers went away. -/
theorem drainFor_eq (rounds : Nat) (queue : List Request) (answers : List Answer)
    (abandoned : Nat → Bool) (cancellation : Cancellation) (enough : queue.length ≤ rounds) :
    let kept := queue.filter fun request => !abandoned request.receiver
    drainFor rounds ⟨queue, [], answers⟩ abandoned cancellation =
      (⟨[], [], answers ++ (runAll cancellation kept).1⟩, (runAll cancellation kept).2) := by
  intro kept
  induction rounds generalizing queue answers cancellation with
  | zero =>
      have empty : queue = [] := List.length_eq_zero_iff.mp (Nat.le_zero.mp enough)
      subst empty
      simp [drainFor, runAll, kept]
  | succ rounds ih =>
      rw [drainFor, collect_complete]
      dsimp only
      rw [ih _ _ _ (by simp only [List.length_drop, batchLimit]; omega)]
      have parts : kept =
          ((queue.take batchLimit).filter fun request => !abandoned request.receiver) ++
            (queue.drop batchLimit).filter fun request => !abandoned request.receiver := by
        rw [← List.filter_append, List.take_append_drop]
      rw [parts, runAll_append, List.append_assoc]

/-- With no batch open, the worker answers all that is queued, each request in its turn, except for
those whose receivers went away. -/
theorem drain_eq (worker : Worker) (closed : worker.batches = []) (abandoned : Nat → Bool)
    (cancellation : Cancellation) :
    let kept := worker.queue.filter fun request => !abandoned request.receiver
    worker.drain abandoned cancellation =
      (⟨[], [], worker.answers ++ (runAll cancellation kept).1⟩, (runAll cancellation kept).2) := by
  obtain ⟨queue, batches, answers⟩ := worker
  subst closed
  exact drainFor_eq _ _ _ _ _ (Nat.le_refl _)

/-- As long as nobody goes away, all that is queued is answered. -/
theorem drain_attended (queue : List Request) (cancellation : Cancellation) :
    drain { queue } (fun _ => false) cancellation =
      (⟨[], [], (runAll cancellation queue).1⟩, (runAll cancellation queue).2) := by
  have all : (queue.filter fun _ => !false) = queue := List.filter_eq_self.mpr fun _ _ => rfl
  rw [drain_eq { queue } rfl, all, List.nil_append]

end Worker

end DocBlocks
