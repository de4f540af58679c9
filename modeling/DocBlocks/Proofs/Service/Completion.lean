/-
This file shows that a call comes to its end within two rounds of work.
-/

import DocBlocks.Proofs.Service.Calls

namespace DocBlocks.Service

variable {known : Snapshot → Prop} {service : Service}

/-- How many results a call may still have to wait for. -/
def Progress.rank : Progress → Nat
  | finished _ => 0
  | repeating _ => 1
  | waiting _ _ => 2

/-- No search waits for the worker. -/
def Idle (service : Service) : Prop :=
  ∀ search ∈ service.searches, search.stage ≠ .queued

/-- A worker that has worked leaves no search waiting. -/
theorem work_idle (sound : Sound known service) : service.work.Idle := by
  intro search member queued
  rw [work_eq_serve] at member
  rcases mem_serve sound _ member with ⟨_, unchosen⟩ | ⟨old, _, _, _, _, _, _, same⟩
  · cases unchosen queued
  · rw [same] at queued
    cases queued

/-- Without a queue, whoever waits for a search gets its result. -/
theorem pollSearch_idle (idle : service.Idle) {order : Order} (member : order ∈ service.orders) :
    ∃ detection, (service.pollSearch order.id).1 = some detection := by
  obtain ⟨search, searchMember, same⟩ := List.mem_map.mp member
  have present : (service.search? order.id).isSome = true := by
    rw [search?, List.find?_isSome]
    exact ⟨search, searchMember, by rw [← same]; exact beq_self_eq_true search.id⟩
  obtain ⟨found, isFound⟩ := Option.isSome_iff_exists.mp present
  rcases service.pollSearch_cases order.id with ⟨_, queued⟩ |
    ⟨_, detection, _, ⟨_, polled⟩ | ⟨_, polled⟩ | ⟨_, _, polled⟩⟩
  · exact absurd (queued found isFound) (idle found (search?_mem isFound).1)
  · exact ⟨detection, by rw [polled]⟩
  · exact ⟨detection, by rw [polled]⟩
  · exact ⟨detection, by rw [polled]⟩

/-- A repeated search needs one more poll at most. -/
theorem pollRepeated_rank (service : Service) (id : Nat) : (service.pollRepeated id).1.rank ≤ 1 := by
  rw [pollRepeated_eq]
  cases (service.pollSearch id).1 with
  | none => exact Nat.le_refl 1
  | some detection => exact Nat.zero_le 1

/-- A call waits for no more results after a poll than before. -/
theorem advance_rank (service : Service) (snapshot : Snapshot) (token : Token)
    (progress : Progress) : (service.advance snapshot token progress).1.rank ≤ progress.rank := by
  cases progress with
  | finished blocks => exact Nat.le_refl 0
  | repeating id => exact service.pollRepeated_rank id
  | waiting id joined =>
      rw [advance_waiting]
      cases (service.pollSearch id).1 with
      | none => exact Nat.le_refl 2
      | some detection =>
          dsimp only
          split
          · exact Nat.le_succ_of_le (pollRepeated_rank _ _)
          · exact Nat.zero_le 2

/-- A call has one result less to wait for after a poll without a queue. -/
theorem advance_idle (idle : service.Idle) (snapshot : Snapshot) (token : Token)
    (progress : Progress)
    (awaited : ∀ id, progress.search? = some id → ∃ order ∈ service.orders, order.id = id) :
    (service.advance snapshot token progress).1.rank ≤ progress.rank - 1 := by
  cases progress with
  | finished blocks => exact Nat.le_refl 0
  | repeating id =>
      obtain ⟨order, member, named⟩ := awaited id rfl
      obtain ⟨detection, polled⟩ := pollSearch_idle idle member
      rw [advance, pollRepeated_eq, ← named, polled]
      exact Nat.le_refl 0
  | waiting id joined =>
      obtain ⟨order, member, named⟩ := awaited id rfl
      obtain ⟨detection, polled⟩ := pollSearch_idle idle member
      rw [advance_waiting, ← named, polled]
      dsimp only
      split
      · exact pollRepeated_rank _ _
      · exact Nat.zero_le 1

theorem find_withProgress (calls : List Call) (id : Nat) (progress : Progress) :
    (withProgress calls id progress).find? (·.id == id) =
      (calls.find? (·.id == id)).map fun call => { call with progress } := by
  rw [withProgress, List.find?_map]
  have same : (fun call : Call => call.id == id) ∘
      (fun call => if call.id == id then { call with progress } else call) =
        fun call => call.id == id := by
    funext call
    simp only [Function.comp_apply]
    split <;> rfl
  rw [same]
  cases found : calls.find? (·.id == id) with
  | none => rfl
  | some call =>
      have named : call.id = id := by simpa using List.find?_some found
      simp [named]

/-- A call that is polled stays open. -/
theorem poll_call? {id : Nat} {call : Call} (found : service.call? id = some call) :
    (service.poll id).call? id =
      some { call with
        progress := (service.advance call.snapshot call.token call.progress).1 } := by
  have calls := (advance_advanced service call.snapshot call.token call.progress).calls
  rw [poll_eq found]
  change (withProgress _ id _).find? (·.id == id) = _
  rw [calls, find_withProgress]
  exact congrArg (Option.map _) found

/-- What a poll leaves a call to wait for. -/
theorem poll_rank (consistent : Consistent known service) {id : Nat} {call : Call}
    (found : service.call? id = some call) (rounds : Nat)
    (soon : call.progress.rank ≤ rounds ∨ service.Idle ∧ call.progress.rank ≤ rounds + 1) :
    ∃ progress : Progress, (service.poll id).call? id = some { call with progress } ∧
      progress.rank ≤ rounds := by
  refine ⟨_, poll_call? found, ?_⟩
  rcases soon with few | ⟨idle, few⟩
  · exact Nat.le_trans (service.advance_rank _ _ _) few
  · apply Nat.le_trans (advance_idle idle _ _ _ ?_) (Nat.sub_le_of_le_add few)
    intro other waiting
    obtain ⟨order, member, named, _⟩ :=
      consistent.linked.awaited call (call?_mem found).1 other waiting
    exact ⟨order, member, named⟩

/-- A call that waits for no search is at its end. -/
theorem eq_finished_of_search? {progress : Progress} (done : progress.search? = none) :
    ∃ blocks, progress = .finished blocks := by
  cases progress with
  | finished blocks => exact ⟨blocks, rfl⟩
  | repeating id => cases done
  | waiting id joined => cases done

/-- A call comes to its end in as many rounds of work as it has results to wait for, and in one
round less if there is no queue. -/
theorem awaitFor_ends (consistent : Consistent known service) {id : Nat} {call : Call}
    (found : service.call? id = some call) (rounds : Nat)
    (soon : call.progress.rank ≤ rounds ∨ service.Idle ∧ call.progress.rank ≤ rounds + 1) :
    ∃ blocks, (service.awaitFor rounds [id]).call? id =
      some { call with progress := .finished blocks } := by
  -- Work empties the queue, so that every later poll has one result less to wait for.
  induction rounds generalizing service call with
  | zero =>
      obtain ⟨progress, polled, done⟩ := poll_rank consistent found 0 soon
      cases progress with
      | finished blocks => exact ⟨blocks, polled⟩
      | repeating other => cases done
      | waiting other joined => cases done
  | succ rounds ih =>
      obtain ⟨progress, polled, few⟩ := poll_rank consistent found (rounds + 1) soon
      obtain ⟨on, linked⟩ := poll_consistent consistent id
      have worked : Consistent known (service.poll id).work := by
        rw [work_eq_serve]
        exact ⟨(serve_goesOn on.sound _).sound, serve_linked linked _⟩
      have stillOpen : (service.poll id).work.call? id = some { call with progress } := polled
      change ∃ blocks, (if [id].all (service.poll id).isFinished then service.poll id
        else awaitFor rounds (service.poll id).work [id]).call? id = _
      split
      · rename_i finished
        have ended : progress.search? = none := by
          simpa [isFinished, polled] using finished
        obtain ⟨blocks, same⟩ := eq_finished_of_search? ended
        exact ⟨blocks, by rw [polled, same]⟩
      · have again := ih worked stillOpen (Or.inr ⟨work_idle on.sound, few⟩)
        exact again

/-- A call that is waited for ends. -/
theorem await_ends (consistent : Consistent known service) {id : Nat} {call : Call}
    (found : service.call? id = some call) :
    ∃ blocks, (service.await [id]).call? id = some { call with progress := .finished blocks } ∧
      (service.finish id).1 = blocks := by
  have few : call.progress.rank ≤ 2 := by
    cases call.progress <;> simp [Progress.rank]
  obtain ⟨blocks, ended⟩ := awaitFor_ends consistent found 2 (Or.inl few)
  refine ⟨blocks, ended, ?_⟩
  change (service.await [id]).result id = blocks
  rw [result, await, ended]

end DocBlocks.Service
