/-
This file shows that the worker answers every request once and for itself, in whatever batches it
collects the requests, in whatever order these are completed, and whoever goes away meanwhile.
-/

import DocBlocks.Proofs.Worker.Answers
import Mathlib.Data.List.Forall2
import Mathlib.Logic.Relation

namespace DocBlocks

/-- What a search may see of its token between two moments, each time before a pattern runs. -/
structure Cancellation.Shows (before after : Cancellation) (token : Token) (view : Nat → Bool) :
    Prop where
  early : before.isCancelled token = true → ∀ index, view index = true
  lasting : ∀ index, view index = true → view (index + 1) = true
  late : ∀ index, view index = true → after.isCancelled token = true

namespace Worker

/-- The detection is that of the request, with its token looked at between two moments. -/
def Request.Yields (request : Request) (before after : Cancellation) (detection : Detection) :
    Prop :=
  ∃ view, before.Shows after request.token view ∧
    detection = request.detector.run request.text request.language view

/-- The answer to a request whose search sees its token as in `view`. -/
def Request.answer (request : Request) (view : Nat → Bool) : Answer :=
  ⟨request.receiver, request.key, request.detector.run request.text request.language view⟩

/-- The answer goes to the receiver of the request, under its key, with a detection of its own. -/
structure Request.AnsweredBy (request : Request) (before after : Cancellation) (answer : Answer) :
    Prop where
  receiver : answer.receiver = request.receiver
  key : answer.key = request.key
  yields : request.Yields before after answer.detection

variable {request : Request} {before after : Cancellation}

/-- Tokens may be cancelled after they were looked at. -/
theorem Request.Yields.grows {detection : Detection}
    (yields : request.Yields before after detection) {later : Cancellation}
    (grows : after.Grows later) : request.Yields before later detection := by
  obtain ⟨view, shown, same⟩ := yields
  exact ⟨view, ⟨shown.early, shown.lasting, fun index seen => grows _ (shown.late index seen)⟩, same⟩

/-- As long as its token stays as it was, a request yields what it does when it is run at once. -/
theorem Request.Yields.steady {detection : Detection}
    (yields : request.Yields before after detection)
    (steady : before.isCancelled request.token = after.isCancelled request.token) :
    detection = (request.run after).1 := by
  obtain ⟨view, shown, same⟩ := yields
  have seen : view = fun _ => after.isCancelled request.token := by
    funext index
    cases cancelled : after.isCancelled request.token with
    | true => exact shown.early (steady.trans cancelled) index
    | false =>
        refine eq_false_of_ne_true fun seen => ?_
        exact Bool.false_ne_true (cancelled.symm.trans (shown.late index seen))
  rw [same, seen]
  rfl

/-- A search that is run at one moment sees its token as it is then. -/
theorem Request.run_shows (request : Request) {moment : Cancellation} (early : before.Grows moment)
    (late : (request.run moment).2.Grows after) :
    before.Shows after request.token fun _ => moment.isCancelled request.token where
  early cancelled _ := early _ cancelled
  lasting _ seen := seen
  late _ seen := late _ (request.run_grows moment _ seen)

/-- What the searches of a batch see of their tokens, each since it was begun. -/
abbrev Seen (begun : Nat → Cancellation) (after : Cancellation) :
    List Request → List (Nat → Bool) → Prop :=
  List.Forall₂ fun request view => (begun request.receiver).Shows after request.token view

/-- Searches that are run one after the other see their tokens, each at its turn. -/
theorem runAll_seen (requests : List Request) (moment : Cancellation) {begun : Nat → Cancellation}
    (early : ∀ request ∈ requests, (begun request.receiver).Grows moment)
    (late : (runAll moment requests).2.Grows after) :
    ∃ views, Seen begun after requests views ∧
      (runAll moment requests).1 = List.zipWith Request.answer requests views := by
  induction requests generalizing moment with
  | nil => exact ⟨[], List.Forall₂.nil, rfl⟩
  | cons request requests ih =>
      obtain ⟨views, seen, same⟩ := ih (request.run moment).2
        (fun other member => (early other (List.mem_cons_of_mem _ member)).trans
          (request.run_grows moment)) late
      have shown := request.run_shows (early request List.mem_cons_self)
        ((runAll_grows _ requests).trans late)
      exact ⟨_, List.Forall₂.cons shown seen, congrArg (List.cons _) same⟩

/-- Searches that are run side by side answer their own requests. -/
theorem Seen.answeredBy {begun : Nat → Cancellation} {requests : List Request}
    {views : List (Nat → Bool)} (seen : Seen begun after requests views) :
    List.Forall₂ (fun request answer => request.AnsweredBy (begun request.receiver) after answer)
      requests (List.zipWith Request.answer requests views) := by
  induction seen with
  | nil => exact List.Forall₂.nil
  | cons shown _ ih => exact List.Forall₂.cons ⟨rfl, rfl, _, shown, rfl⟩ ih

/-- Searches that the worker runs one after the other answer their own requests. -/
theorem runAll_answered (requests : List Request) (moment : Cancellation) :
    List.Forall₂ (fun request answer =>
        request.AnsweredBy moment (runAll moment requests).2 answer)
      requests (runAll moment requests).1 := by
  obtain ⟨views, seen, same⟩ : ∃ views,
      Seen (fun _ => moment) (runAll moment requests).2 requests views ∧
        (runAll moment requests).1 = List.zipWith Request.answer requests views :=
    runAll_seen requests moment (fun _ _ => .refl moment) (.refl _)
  rw [same]
  exact seen.answeredBy

/-- When the worker completes a batch, it takes the batch away and answers each of its requests. -/
theorem complete_delivers (worker : Worker) (moment : Cancellation) {index : Nat}
    {batch : List Request} (present : worker.batches[index]? = some batch) :
    ∃ answers, (worker.complete moment index).1 =
        ⟨worker.queue, worker.batches.eraseIdx index, worker.answers ++ answers⟩ ∧
      List.Forall₂ (fun request answer =>
        request.AnsweredBy moment (worker.complete moment index).2 answer) batch answers := by
  refine ⟨(runAll moment batch).1, ?_, ?_⟩ <;> rw [complete, present]
  exact runAll_answered batch moment

/-- The answers that a receiver gets. -/
def answersTo (worker : Worker) (receiver : Nat) : List Answer :=
  worker.answers.filter (·.receiver == receiver)

/-- The request has one answer, under its own key, with the detection of its own search. With a
token that stays as it is meanwhile, that is what the search finds when it is run at once. -/
def AnswersOnce (worker : Worker) (request : Request) (before after : Cancellation) : Prop :=
  ∃ detection, worker.answersTo request.receiver = [⟨request.receiver, request.key, detection⟩] ∧
    request.Yields before after detection ∧
    (before.isCancelled request.token = after.isCancelled request.token →
      detection = (request.run after).1)

/-- A request has one answer if there is one for its receiver and that is its own. -/
theorem AnswersOnce.of_only {worker : Worker} {answer : Answer}
    (only : worker.answersTo request.receiver = [answer])
    (answered : request.AnsweredBy before after answer) :
    worker.AnswersOnce request before after := by
  refine ⟨answer.detection, ?_, answered.yields, answered.yields.steady⟩
  rw [only, ← answered.receiver, ← answered.key]

/-- An answer is counted for its receiver. -/
theorem answersTo_pos {worker : Worker} {answer : Answer} {receiver : Nat}
    (member : answer ∈ worker.answers) (own : answer.receiver = receiver) :
    0 < (worker.answersTo receiver).length :=
  List.length_pos_of_mem (List.mem_filter.mpr ⟨member, beq_iff_eq.mpr own⟩)

/-- Nothing is left to be done. -/
def Idle (worker : Worker) : Prop :=
  worker.queue = [] ∧ worker.batches = []

/-- The requests that are taken from the queue. -/
def taken (worker : Worker) (count : Nat) : List Request :=
  worker.queue.take (min count batchLimit)

/-- The requests that are put together in a batch. -/
theorem collect_batches (worker : Worker) (abandoned : Nat → Bool) (count : Nat) :
    (worker.collect abandoned count).batches.flatten =
      worker.batches.flatten ++
        (worker.taken count).filter fun request => !abandoned request.receiver := by
  unfold collect taken
  dsimp only
  split
  · rename_i empty
    rw [List.isEmpty_iff.mp empty, List.append_nil]
  · rw [List.flatten_append, List.flatten_singleton]

/-- At most one batch is opened. -/
theorem collect_length (worker : Worker) (abandoned : Nat → Bool) (limit : Nat) :
    (worker.collect abandoned limit).batches.length ≤ worker.batches.length + 1 := by
  unfold collect
  dsimp only
  split <;> simp

end Worker

open Worker (Request Answer)

/-- A worker among those who make requests, with a record of what has happened. -/
structure Workshop where
  worker : Worker := {}
  cancellation : Cancellation
  /-- All requests that have been made. -/
  requests : List Request := []
  /-- The receivers that have gone away. -/
  gone : List Nat := []
  /-- The receivers that had gone away by the time their requests were taken from the queue. -/
  skipped : List Nat := []
  /-- What was cancelled when the request of a receiver came into its batch. -/
  begun : Nat → Cancellation := fun _ => cancellation

namespace Workshop

def isGone (shop : Workshop) (receiver : Nat) : Bool :=
  shop.gone.contains receiver

def submit (shop : Workshop) (request : Request) : Workshop :=
  { shop with
    worker := shop.worker.submit request
    requests := shop.requests ++ [request] }

/-- The requests that come into a batch together. -/
def batch (shop : Workshop) (limit : Nat) : List Request :=
  (shop.worker.taken limit).filter fun request => !shop.isGone request.receiver

/-- The receivers that are missed when requests are taken from the queue. -/
def missed (shop : Workshop) (limit : Nat) : List Nat :=
  ((shop.worker.taken limit).filter fun request => shop.isGone request.receiver).map
    Request.receiver

def collect (shop : Workshop) (limit : Nat) : Workshop :=
  { shop with
    worker := shop.worker.collect shop.isGone limit
    skipped := shop.skipped ++ shop.missed limit
    begun := fun receiver =>
      if (shop.batch limit).any (·.receiver == receiver) then shop.cancellation
      else shop.begun receiver }

def deliver (shop : Workshop) (index : Nat) (answers : List Answer) : Workshop :=
  { shop with
    worker := { shop.worker with
      batches := shop.worker.batches.eraseIdx index
      answers := shop.worker.answers ++ answers } }

/-- What may happen, in any order. -/
inductive Step : Workshop → Workshop → Prop where
  /-- Each request has a receiver of its own. -/
  | submit {shop : Workshop} (request : Request)
      (fresh : ∀ other ∈ shop.requests, other.receiver ≠ request.receiver) :
      Step shop (shop.submit request)
  | abandon {shop : Workshop} (receiver : Nat) : Step shop { shop with gone := receiver :: shop.gone }
  /-- Tokens are cancelled, by matchers or from outside. -/
  | cancel {shop : Workshop} (cancellation : Cancellation)
      (grows : shop.cancellation.Grows cancellation) : Step shop { shop with cancellation }
  | collect {shop : Workshop} (limit : Nat) : Step shop (shop.collect limit)
  /-- The requests of a batch have been run, each at its own pace since the batch was collected. -/
  | complete {shop : Workshop} (index : Nat) {batch : List Request} {views : List (Nat → Bool)}
      (present : shop.worker.batches[index]? = some batch)
      (seen : Worker.Seen shop.begun shop.cancellation batch views) :
      Step shop (shop.deliver index (List.zipWith Request.answer batch views))

/-- What may become of a workshop. -/
def Reaches : Workshop → Workshop → Prop :=
  Relation.ReflTransGen Step

/-- How many requests of a list have the receiver. -/
def count (receiver : Nat) (requests : List Request) : Nat :=
  requests.countP (·.receiver == receiver)

/-- Every request is in one place: it is queued, in a batch, skipped or answered, and then by its
own answer. -/
structure Accounted (shop : Workshop) : Prop where
  distinct : ∀ receiver, count receiver shop.requests ≤ 1
  conserved : ∀ receiver, count receiver shop.worker.queue +
    count receiver shop.worker.batches.flatten + shop.skipped.count receiver +
    (shop.worker.answersTo receiver).length = count receiver shop.requests
  known : ∀ request ∈ shop.worker.queue ++ shop.worker.batches.flatten, request ∈ shop.requests
  begun : ∀ request ∈ shop.worker.batches.flatten,
    (shop.begun request.receiver).Grows shop.cancellation
  answered : ∀ answer ∈ shop.worker.answers, ∃ request ∈ shop.requests,
    request.AnsweredBy (shop.begun request.receiver) shop.cancellation answer
  abandoned : ∀ receiver ∈ shop.skipped, receiver ∈ shop.gone

variable {shop : Workshop}

theorem count_append (receiver : Nat) (first second : List Request) :
    count receiver (first ++ second) = count receiver first + count receiver second :=
  List.countP_append

/-- A request that was made is counted. -/
theorem count_pos {receiver : Nat} {requests : List Request} {request : Request}
    (member : request ∈ requests) (own : request.receiver = receiver) : 0 < count receiver requests :=
  List.countP_pos_iff.mpr ⟨request, member, beq_iff_eq.mpr own⟩

/-- A request that is in a batch or answered is neither queued nor skipped. -/
theorem Accounted.elsewhere (accounted : shop.Accounted) {receiver : Nat}
    (present : 0 < count receiver shop.worker.batches.flatten +
      (shop.worker.answersTo receiver).length) :
    count receiver shop.worker.queue = 0 ∧ shop.skipped.count receiver = 0 := by
  have conserved := accounted.conserved receiver
  have once := accounted.distinct receiver
  omega

/-- A new workshop has no requests to account for. -/
theorem new_accounted (cancellation : Cancellation) : Accounted { cancellation } where
  distinct _ := Nat.zero_le _
  conserved _ := rfl
  known _ absent := absurd absent List.not_mem_nil
  begun _ absent := absurd absent List.not_mem_nil
  answered _ absent := absurd absent List.not_mem_nil
  abandoned _ absent := absurd absent List.not_mem_nil

/-- A new request is queued. -/
theorem Accounted.submit (accounted : shop.Accounted) {request : Request}
    (fresh : ∀ other ∈ shop.requests, other.receiver ≠ request.receiver) :
    (shop.submit request).Accounted where
  distinct receiver := by
    change count receiver (shop.requests ++ [request]) ≤ 1
    rw [count_append]
    by_cases own : request.receiver = receiver
    · have absent : count receiver shop.requests = 0 := by
        refine List.countP_eq_zero.mpr fun other member => ?_
        simpa using own ▸ fresh other member
      rw [absent, Nat.zero_add]
      exact List.countP_le_length
    · have other : count receiver [request] = 0 := by simpa [count] using own
      rw [other]
      exact accounted.distinct receiver
  conserved receiver := by
    have before := accounted.conserved receiver
    change count receiver (shop.worker.queue ++ [request]) + _ + _ + _ =
      count receiver (shop.requests ++ [request])
    rw [count_append, count_append, ← before]
    change _ + count receiver shop.worker.batches.flatten + shop.skipped.count receiver +
      (shop.worker.answersTo receiver).length = _
    omega
  known other member := by
    have place : other ∈ shop.worker.queue ++ [request] ++ shop.worker.batches.flatten := member
    rw [List.mem_append, List.mem_append] at place
    refine List.mem_append.mpr ?_
    rcases place with (queued | new) | batched
    · exact Or.inl (accounted.known other (List.mem_append_left _ queued))
    · exact Or.inr new
    · exact Or.inl (accounted.known other (List.mem_append_right _ batched))
  begun := accounted.begun
  answered answer member := by
    obtain ⟨other, made, answered⟩ := accounted.answered answer member
    exact ⟨other, List.mem_append_left _ made, answered⟩
  abandoned := accounted.abandoned

/-- A receiver that goes away leaves its request where it is. -/
theorem Accounted.abandon (accounted : shop.Accounted) (receiver : Nat) :
    Accounted { shop with gone := receiver :: shop.gone } :=
  { accounted with
    abandoned := fun other member => List.mem_cons_of_mem _ (accounted.abandoned other member) }

/-- Tokens that are cancelled move no request. -/
theorem Accounted.cancel (accounted : shop.Accounted) {cancellation : Cancellation}
    (grows : shop.cancellation.Grows cancellation) : Accounted { shop with cancellation } :=
  { accounted with
    begun := fun request member => (accounted.begun request member).trans grows
    answered := fun answer member => by
      obtain ⟨request, made, answered⟩ := accounted.answered answer member
      exact ⟨request, made, answered.receiver, answered.key, answered.yields.grows grows⟩ }

/-- Each request that is taken comes into the batch or is skipped. -/
theorem count_taken (shop : Workshop) (limit receiver : Nat) :
    count receiver (shop.worker.taken limit) =
      count receiver (shop.batch limit) + (shop.missed limit).count receiver := by
  rw [missed, List.count, List.countP_map]
  have parts := List.countP_eq_countP_filter_add (shop.worker.taken limit) (·.receiver == receiver)
    fun request => !shop.isGone request.receiver
  simp only [Bool.not_not] at parts
  exact parts

/-- The searches of a batch begin when it is collected. -/
theorem collect_begun (shop : Workshop) (limit : Nat) {request : Request}
    (member : request ∈ shop.batch limit) :
    (shop.collect limit).begun request.receiver = shop.cancellation :=
  if_pos (List.any_eq_true.mpr ⟨request, member, beq_self_eq_true request.receiver⟩)

/-- Searches that were begun are not begun again. -/
theorem collect_begun_earlier (shop : Workshop) (limit : Nat) {receiver : Nat}
    (absent : count receiver shop.worker.queue = 0) :
    (shop.collect limit).begun receiver = shop.begun receiver := by
  refine if_neg fun taken => ?_
  obtain ⟨request, member, own⟩ := List.any_eq_true.mp taken
  have queued := count_pos (List.mem_of_mem_take (List.mem_of_mem_filter member))
    (beq_iff_eq.mp own)
  omega

/-- Requests that are collected move from the queue into a batch, or are skipped. -/
theorem Accounted.collect (accounted : shop.Accounted) (limit : Nat) :
    (shop.collect limit).Accounted := by
  have divided : shop.worker.queue = shop.worker.taken limit ++ (shop.collect limit).worker.queue :=
    (List.take_append_drop _ _).symm
  have batched : (shop.collect limit).worker.batches.flatten =
      shop.worker.batches.flatten ++ shop.batch limit :=
    shop.worker.collect_batches shop.isGone limit
  refine ⟨accounted.distinct, fun receiver => ?_, fun request member => ?_, fun request member => ?_,
    fun answer member => ?_, fun receiver member => ?_⟩
  · have before := accounted.conserved receiver
    rw [divided, count_append, count_taken] at before
    rw [batched, count_append]
    change _ + _ + (shop.skipped ++ shop.missed limit).count receiver +
      (shop.worker.answersTo receiver).length = count receiver shop.requests
    rw [List.count_append]
    omega
  · refine accounted.known request ?_
    rw [batched] at member
    rw [divided]
    simp only [List.mem_append] at member ⊢
    rcases member with queued | batched | new
    · exact Or.inl (Or.inr queued)
    · exact Or.inr batched
    · exact Or.inl (Or.inl (List.mem_of_mem_filter new))
  · rw [batched] at member
    rcases List.mem_append.mp member with old | new
    · have elsewhere := accounted.elsewhere (Nat.add_pos_left (count_pos old rfl) _)
      rw [shop.collect_begun_earlier limit elsewhere.1]
      exact accounted.begun request old
    · rw [shop.collect_begun limit new]
      exact Cancellation.Grows.refl _
  · obtain ⟨request, made, answered⟩ := accounted.answered answer member
    have elsewhere := accounted.elsewhere
      (Nat.add_pos_right _ (Worker.answersTo_pos member answered.receiver))
    refine ⟨request, made, ?_⟩
    rw [shop.collect_begun_earlier limit elsewhere.1]
    exact answered
  · rcases List.mem_append.mp member with old | new
    · exact accounted.abandoned receiver old
    · obtain ⟨request, gone, rfl⟩ := List.mem_map.mp new
      exact List.contains_iff_mem.mp (List.mem_filter.mp gone).2

/-- A batch that is taken away leaves the others. -/
theorem flatten_eraseIdx {batches : List (List Request)} {index : Nat} {batch : List Request}
    (present : batches[index]? = some batch) :
    (batch ++ (batches.eraseIdx index).flatten).Perm batches.flatten := by
  induction batches generalizing index with
  | nil => cases present
  | cons first rest ih =>
      cases index with
      | zero =>
          cases present
          exact List.Perm.refl _
      | succ index =>
          rw [List.eraseIdx_cons_succ, List.flatten_cons, List.flatten_cons]
          exact (List.perm_append_comm_assoc batch first _).trans ((ih present).append_left first)

variable {batch : List Request} {answers : List Answer}

/-- A receiver has as many answers as requests in the batch. -/
theorem answers_length {related : Request → Answer → Prop} (receiver : Nat)
    (own : ∀ request answer, related request answer → answer.receiver = request.receiver)
    (ran : List.Forall₂ related batch answers) :
    (answers.filter (·.receiver == receiver)).length = count receiver batch := by
  rw [← List.countP_eq_length_filter]
  induction ran with
  | nil => rfl
  | cons answered _ ih =>
      rw [count, List.countP_cons, List.countP_cons, own _ _ answered, ih]
      rfl

/-- Every answer belongs to a request. -/
theorem exists_request {related : Request → Answer → Prop}
    (ran : List.Forall₂ related batch answers) {answer : Answer} (member : answer ∈ answers) :
    ∃ request ∈ batch, related request answer := by
  induction ran with
  | nil => cases member
  | cons answered _ ih =>
      rcases List.mem_cons.mp member with rfl | later
      · exact ⟨_, List.mem_cons_self, answered⟩
      · obtain ⟨request, present, answered⟩ := ih later
        exact ⟨request, List.mem_cons_of_mem _ present, answered⟩

/-- Two requests of one receiver are the same if the receiver occurs once. -/
theorem eq_of_count {first second : Request} (once : count second.receiver batch ≤ 1)
    (firstMember : first ∈ batch) (secondMember : second ∈ batch)
    (same : first.receiver = second.receiver) : first = second := by
  rw [count, List.countP_eq_length_filter] at once
  have firstOwn : first ∈ batch.filter (·.receiver == second.receiver) :=
    List.mem_filter.mpr ⟨firstMember, beq_iff_eq.mpr same⟩
  have secondOwn : second ∈ batch.filter (·.receiver == second.receiver) :=
    List.mem_filter.mpr ⟨secondMember, beq_self_eq_true second.receiver⟩
  cases own : batch.filter (·.receiver == second.receiver) with
  | nil =>
      rw [own] at firstOwn
      cases firstOwn
  | cons only others =>
      rw [own, List.length_cons] at once
      have alone : others = [] := List.length_eq_zero_iff.mp (by omega)
      rw [own, alone, List.mem_singleton] at firstOwn secondOwn
      rw [firstOwn, secondOwn]

/-- A receiver without a request gets no answer. -/
theorem answers_none {related : Request → Answer → Prop} {receiver : Nat}
    (own : ∀ request answer, related request answer → answer.receiver = request.receiver)
    (ran : List.Forall₂ related batch answers)
    (absent : ∀ request ∈ batch, request.receiver ≠ receiver) :
    answers.filter (·.receiver == receiver) = [] := by
  refine List.filter_eq_nil_iff.mpr fun answer delivered named => ?_
  obtain ⟨request, member, answered⟩ := exists_request ran delivered
  exact absent request member ((own _ _ answered).symm.trans (beq_iff_eq.mp named))

/-- A receiver with one request gets one answer, and that is the answer to the request. -/
theorem answers_only {related : Request → Answer → Prop} {request : Request}
    (own : ∀ request answer, related request answer → answer.receiver = request.receiver)
    (ran : List.Forall₂ related batch answers) (member : request ∈ batch)
    (once : count request.receiver batch ≤ 1) :
    ∃ answer, answers.filter (·.receiver == request.receiver) = [answer] ∧ related request answer := by
  have single := Nat.le_antisymm once (count_pos member rfl)
  obtain ⟨answer, only⟩ :=
    List.length_eq_one_iff.mp ((answers_length request.receiver own ran).trans single)
  obtain ⟨delivered, named⟩ := List.mem_filter.mp (only ▸ List.mem_singleton_self answer)
  obtain ⟨other, otherMember, answered⟩ := exists_request ran delivered
  have same : other = request := eq_of_count once otherMember member
    ((own _ _ answered).symm.trans (beq_iff_eq.mp named))
  exact ⟨answer, only, same ▸ answered⟩

/-- Requests of a batch that is delivered are answered. -/
theorem Accounted.deliver (accounted : shop.Accounted) {index : Nat}
    (present : shop.worker.batches[index]? = some batch)
    {views : List (Nat → Bool)} (seen : Worker.Seen shop.begun shop.cancellation batch views) :
    (shop.deliver index (List.zipWith Request.answer batch views)).Accounted := by
  have ran := seen.answeredBy
  have parted := flatten_eraseIdx present
  have remaining {request : Request}
      (member : request ∈ (shop.worker.batches.eraseIdx index).flatten) :
      request ∈ shop.worker.batches.flatten :=
    parted.subset (List.mem_append_right _ member)
  refine ⟨accounted.distinct, fun receiver => ?_, fun request member => ?_,
    fun request member => accounted.begun request (remaining member), fun answer member => ?_,
    accounted.abandoned⟩
  · have before := accounted.conserved receiver
    have counted : count receiver (batch ++ (shop.worker.batches.eraseIdx index).flatten) = _ :=
      parted.countP_eq _
    have delivered := answers_length receiver (fun _ _ answered => answered.receiver) ran
    change _ = count receiver shop.worker.batches.flatten at counted
    rw [count_append] at counted
    change count receiver shop.worker.queue +
      count receiver (shop.worker.batches.eraseIdx index).flatten +
      shop.skipped.count receiver + ((shop.worker.answers ++ List.zipWith _ _ _).filter _).length =
      count receiver shop.requests
    rw [List.filter_append, List.length_append, delivered]
    change _ + _ + _ + ((shop.worker.answersTo receiver).length + _) = _
    omega
  · refine accounted.known request (List.mem_append.mpr ?_)
    exact (List.mem_append.mp member).imp_right remaining
  · rcases List.mem_append.mp member with old | new
    · exact accounted.answered answer old
    · obtain ⟨request, collected, answered⟩ := exists_request ran new
      have batched := parted.subset (List.mem_append_left _ collected)
      exact ⟨request, accounted.known request (List.mem_append_right _ batched), answered⟩

/-- Requests are accounted for after each step. -/
theorem Step.accounted {after : Workshop} (step : Step shop after) (accounted : shop.Accounted) :
    after.Accounted := by
  cases step with
  | submit request fresh => exact accounted.submit fresh
  | abandon receiver => exact accounted.abandon receiver
  | cancel cancellation grows => exact accounted.cancel grows
  | collect limit => exact accounted.collect limit
  | complete index present seen => exact accounted.deliver present seen

/-- Requests are accounted for after any number of steps. -/
theorem Reaches.accounted {after : Workshop} (reaches : shop.Reaches after)
    (accounted : shop.Accounted) : after.Accounted := by
  induction reaches with
  | refl => exact accounted
  | tail _ step ih => exact step.accounted ih

/-- A receiver has one request at most. -/
theorem Accounted.unique (accounted : shop.Accounted) {first second : Request}
    (firstMade : first ∈ shop.requests) (secondMade : second ∈ shop.requests)
    (same : first.receiver = second.receiver) : first = second :=
  eq_of_count (accounted.distinct second.receiver) firstMade secondMade same

/-- Once nothing is left to be done, a skipped request has no answer, and any other has one. -/
theorem Accounted.settled (accounted : shop.Accounted) (idle : shop.worker.Idle) {request : Request}
    (made : request ∈ shop.requests) :
    (request.receiver ∈ shop.skipped → shop.worker.answersTo request.receiver = []) ∧
      (request.receiver ∉ shop.skipped →
        shop.worker.AnswersOnce request (shop.begun request.receiver) shop.cancellation) := by
  have conserved := accounted.conserved request.receiver
  have once := accounted.distinct request.receiver
  have present := count_pos made rfl
  rw [idle.1, idle.2] at conserved
  change 0 + 0 + _ + _ = _ at conserved
  constructor
  · intro skipped
    have counted := List.count_pos_iff.mpr skipped
    exact List.length_eq_zero_iff.mp (by omega)
  · intro kept
    have uncounted := List.count_eq_zero.mpr kept
    obtain ⟨answer, only⟩ := List.length_eq_one_iff.mp
      (show (shop.worker.answersTo request.receiver).length = 1 by omega)
    have member : answer ∈ shop.worker.answersTo request.receiver :=
      only ▸ List.mem_singleton_self answer
    obtain ⟨delivered, own⟩ := List.mem_filter.mp member
    obtain ⟨other, otherMade, answered⟩ := accounted.answered answer delivered
    have same : other = request :=
      accounted.unique otherMade made (answered.receiver.symm.trans (beq_iff_eq.mp own))
    subst same
    exact .of_only only answered

/-- The worker completes a batch by running its requests one after the other. -/
theorem complete_reaches (accounted : shop.Accounted) (index : Nat) :
    ∃ after, shop.Reaches after ∧
      (after.worker, after.cancellation) = shop.worker.complete shop.cancellation index ∧
      after.gone = shop.gone ∧ after.requests = shop.requests ∧ after.skipped = shop.skipped := by
  unfold Worker.complete
  cases present : shop.worker.batches[index]? with
  | none => exact ⟨shop, Relation.ReflTransGen.refl, rfl, rfl, rfl, rfl⟩
  | some batch =>
      have batched (request : Request) (member : request ∈ batch) :
          (shop.begun request.receiver).Grows shop.cancellation :=
        accounted.begun request ((flatten_eraseIdx present).subset (List.mem_append_left _ member))
      obtain ⟨views, seen, same⟩ := Worker.runAll_seen batch shop.cancellation batched
        (Cancellation.Grows.refl _)
      have cancelled := Step.cancel _ (Worker.runAll_grows shop.cancellation batch)
      refine ⟨_, (Relation.ReflTransGen.single cancelled).tail (Step.complete index present seen),
        ?_, rfl, rfl, rfl⟩
      dsimp only
      rw [same]
      rfl

/-- The worker may drain its queue in full batches, each completed at once. -/
theorem drainFor_reaches (accounted : shop.Accounted) (rounds : Nat) :
    ∃ after, shop.Reaches after ∧ (after.worker, after.cancellation) =
      Worker.drainFor rounds shop.worker shop.isGone shop.cancellation := by
  induction rounds generalizing shop with
  | zero => exact ⟨shop, Relation.ReflTransGen.refl, rfl⟩
  | succ rounds ih =>
      obtain ⟨round, reached, same, gone, _, _⟩ :=
        complete_reaches (accounted.collect Worker.batchLimit) 0
      have collected : shop.Reaches round :=
        Relation.ReflTransGen.head (Step.collect Worker.batchLimit) reached
      obtain ⟨after, onward, ran⟩ := ih (collected.accounted accounted)
      refine ⟨after, collected.trans onward, ran.trans ?_⟩
      have unchanged : round.isGone = shop.isGone := by
        unfold isGone
        rw [gone]
        rfl
      change (round.worker, round.cancellation) =
        (shop.worker.collect shop.isGone Worker.batchLimit).complete shop.cancellation 0 at same
      rw [Worker.drainFor, ← same, unchanged]

/-- From everywhere the worker can come to rest, and no request is needed for that. -/
theorem exists_idle (accounted : shop.Accounted) :
    ∃ after, shop.Reaches after ∧ after.worker.Idle ∧ after.requests = shop.requests := by
  -- A request weighs twice as much as a batch, since taking one from the queue may open a batch.
  induction load : 2 * shop.worker.queue.length + shop.worker.batches.length using
    Nat.strongRecOn generalizing shop with
  | ind load ih =>
      cases batches : shop.worker.batches with
      | cons batch rest =>
          obtain ⟨next, reached, same, _, requests, _⟩ := complete_reaches accounted 0
          rw [Worker.complete, batches] at same
          have completed : next.worker.queue = shop.worker.queue ∧ next.worker.batches = rest :=
            ⟨congrArg (·.1.queue) same, congrArg (·.1.batches) same⟩
          obtain ⟨after, onward, idle, kept⟩ := ih _ (by
            rw [completed.1, completed.2, ← load, batches, List.length_cons]
            omega) (reached.accounted accounted) rfl
          exact ⟨after, reached.trans onward, idle, kept.trans requests⟩
      | nil =>
          cases queue : shop.worker.queue with
          | nil => exact ⟨shop, Relation.ReflTransGen.refl, ⟨queue, batches⟩, rfl⟩
          | cons request rest =>
              have shorter : (shop.collect 1).worker.queue = rest := by
                change shop.worker.queue.drop 1 = rest
                rw [queue, List.drop_one, List.tail_cons]
              have more : (shop.collect 1).worker.batches.length ≤ shop.worker.batches.length + 1 :=
                shop.worker.collect_length shop.isGone 1
              have collected : shop.Reaches (shop.collect 1) :=
                Relation.ReflTransGen.single (Step.collect 1)
              obtain ⟨after, onward, idle, kept⟩ := ih _ (by
                rw [batches] at more
                rw [shorter, ← load, queue, batches, List.length_cons]
                omega) (accounted.collect 1) rfl
              exact ⟨after, collected.trans onward, idle, kept⟩

/-- What the worker does when it drains its queue and no batch is open. It comes to rest, and each
queued request is answered once if its receiver is still there. For other requests nothing
changes. -/
structure Drains (shop : Workshop) (drained : Worker) (cancellation : Cancellation) : Prop where
  idle : drained.Idle
  missed : ∀ request ∈ shop.worker.queue, request.receiver ∈ shop.gone →
    drained.answersTo request.receiver = []
  answered : ∀ request ∈ shop.worker.queue, request.receiver ∉ shop.gone →
    drained.AnswersOnce request shop.cancellation cancellation
  others : ∀ request ∈ shop.requests, request ∉ shop.worker.queue →
    drained.answersTo request.receiver = shop.worker.answersTo request.receiver

/-- The requests in the queue whose receivers are still there. -/
def attended (shop : Workshop) : List Request :=
  shop.worker.queue.filter fun request => !shop.isGone request.receiver

/-- The requests to attend to are those in the queue whose receivers are still there. -/
theorem mem_attended {request : Request} :
    request ∈ shop.attended ↔ request ∈ shop.worker.queue ∧ request.receiver ∉ shop.gone := by
  rw [attended, List.mem_filter, Bool.not_eq_true', isGone, ← Bool.not_eq_true, List.contains_iff_mem]

/-- A request that is queued has no answer yet. -/
theorem Accounted.unanswered (accounted : shop.Accounted) {request : Request}
    (queued : request ∈ shop.worker.queue) : shop.worker.answersTo request.receiver = [] := by
  have conserved := accounted.conserved request.receiver
  have once := accounted.distinct request.receiver
  have present := count_pos queued rfl
  exact List.length_eq_zero_iff.mp (by omega)

/-- Among the requests that the worker runs when it drains its queue, a receiver has one at most. -/
theorem Accounted.drained_once (accounted : shop.Accounted) (receiver : Nat) :
    count receiver shop.attended ≤ 1 := by
  have part : count receiver shop.attended ≤ count receiver shop.worker.queue :=
    List.filter_sublist.countP_le
  have conserved := accounted.conserved receiver
  have once := accounted.distinct receiver
  omega

/-- The worker drains its queue in full batches, each completed at once. -/
theorem Accounted.drains (accounted : shop.Accounted) (closed : shop.worker.batches = []) :
    let drained := shop.worker.drain shop.isGone shop.cancellation
    shop.Drains drained.1 drained.2 := by
  intro drained
  have ran : drained =
      (⟨[], [], shop.worker.answers ++ (Worker.runAll shop.cancellation shop.attended).1⟩,
        (Worker.runAll shop.cancellation shop.attended).2) :=
    shop.worker.drain_eq closed _ _
  have answers (receiver : Nat) : drained.1.answersTo receiver = shop.worker.answersTo receiver ++
      (Worker.runAll shop.cancellation shop.attended).1.filter (·.receiver == receiver) := by
    rw [ran]
    exact List.filter_append _ _
  have answered := Worker.runAll_answered shop.attended shop.cancellation
  have own (request : Request) (answer : Answer) (answered : request.AnsweredBy shop.cancellation
      (Worker.runAll shop.cancellation shop.attended).2 answer) :
      answer.receiver = request.receiver := answered.receiver
  refine ⟨by rw [ran]; exact ⟨rfl, rfl⟩, fun request queued gone => ?_,
    fun request queued present => ?_, fun request made unqueued => ?_⟩
  · have absent : ∀ other ∈ shop.attended, other.receiver ≠ request.receiver :=
      fun other member same => (mem_attended.mp member).2 (same ▸ gone)
    rw [answers, accounted.unanswered queued, answers_none own answered absent, List.append_nil]
  · obtain ⟨answer, only, ownAnswer⟩ := answers_only own answered
      (mem_attended.mpr ⟨queued, present⟩) (accounted.drained_once request.receiver)
    have sole : drained.1.answersTo request.receiver = [answer] := by
      rw [answers, accounted.unanswered queued, only, List.nil_append]
    rw [ran] at sole ⊢
    exact .of_only sole ownAnswer
  · have absent : ∀ other ∈ shop.attended, other.receiver ≠ request.receiver := by
      intro other member same
      have queued := (mem_attended.mp member).1
      have known := accounted.known other (List.mem_append_left _ queued)
      exact unqueued (accounted.unique known made same ▸ queued)
    rw [answers, answers_none own answered absent, List.append_nil]

/-- The workshop as it were if some receivers had never made their requests. -/
def without (shop : Workshop) (absent : Nat → Bool) : Workshop :=
  { shop with
    worker := { shop.worker with
      queue := shop.worker.queue.filter fun request => !absent request.receiver }
    requests := shop.requests.filter fun request => !absent request.receiver
    skipped := shop.skipped.filter fun receiver => !absent receiver }

/-- No request of these receivers has come into a batch. -/
structure Ignores (shop : Workshop) (absent : Nat → Bool) : Prop where
  batched : ∀ request ∈ shop.worker.batches.flatten, absent request.receiver = false
  answered : ∀ answer ∈ shop.worker.answers, absent answer.receiver = false

variable {after : Workshop} {absent : Nat → Bool}

/-- Requests that are in no batch after a step were in none before it. -/
theorem Step.ignores (step : Step shop after) (ignores : after.Ignores absent) :
    shop.Ignores absent := by
  cases step with
  | submit request fresh => exact ⟨ignores.batched, ignores.answered⟩
  | abandon receiver => exact ⟨ignores.batched, ignores.answered⟩
  | cancel cancellation grows => exact ⟨ignores.batched, ignores.answered⟩
  | collect limit =>
      refine ⟨fun request member => ignores.batched request ?_, ignores.answered⟩
      exact shop.worker.collect_batches shop.isGone limit ▸ List.mem_append_left _ member
  | complete index present seen =>
      refine ⟨fun request member => ?_, fun answer member =>
        ignores.answered answer (List.mem_append_left _ member)⟩
      rcases List.mem_append.mp ((flatten_eraseIdx present).symm.subset member) with own | other
      · have delivered := answers_length request.receiver (fun _ _ answered => answered.receiver)
          seen.answeredBy
        have present := count_pos own rfl
        obtain ⟨answer, received⟩ := List.exists_mem_of_length_pos (delivered ▸ present)
        obtain ⟨member, same⟩ := List.mem_filter.mp received
        rw [← beq_iff_eq.mp same]
        exact ignores.answered answer (List.mem_append_right _ member)
      · exact ignores.batched request other

theorem collect_eq (shop : Workshop) (limit : Nat) :
    shop.collect limit = { shop with
      worker := { shop.worker with
        queue := shop.worker.queue.drop (min limit Worker.batchLimit)
        batches := if (shop.batch limit).isEmpty then shop.worker.batches
          else shop.worker.batches ++ [shop.batch limit] }
      skipped := shop.skipped ++ shop.missed limit
      begun := fun receiver =>
        if (shop.batch limit).any (·.receiver == receiver) then shop.cancellation
        else shop.begun receiver } := rfl

/-- Without some receivers, as many requests are taken as remain of those that were taken. -/
def limitWithout (shop : Workshop) (absent : Nat → Bool) (limit : Nat) : Nat :=
  ((shop.worker.taken limit).filter fun request => !absent request.receiver).length

/-- No more requests are taken than a batch may have. -/
theorem limitWithout_le (shop : Workshop) (absent : Nat → Bool) (limit : Nat) :
    min (shop.limitWithout absent limit) Worker.batchLimit = shop.limitWithout absent limit := by
  have filtered : shop.limitWithout absent limit ≤ (shop.worker.taken limit).length :=
    List.length_filter_le _ _
  have taken : (shop.worker.taken limit).length ≤ min limit Worker.batchLimit :=
    List.length_take_le _ _
  omega

/-- The queue without some receivers has the requests that are taken, and those that stay. -/
theorem queue_without (shop : Workshop) (absent : Nat → Bool) (limit : Nat) :
    (shop.without absent).worker.queue =
      ((shop.worker.taken limit).filter fun request => !absent request.receiver) ++
        (shop.worker.queue.drop (min limit Worker.batchLimit)).filter
          fun request => !absent request.receiver := by
  change shop.worker.queue.filter _ = _
  rw [← List.filter_append, Worker.taken, List.take_append_drop]

/-- Requests that do not come into a batch might as well not have been made. -/
theorem collect_without (shop : Workshop) (limit : Nat)
    (ignores : (shop.collect limit).Ignores absent) :
    (shop.without absent).collect (shop.limitWithout absent limit) =
      (shop.collect limit).without absent := by
  -- The two batches are the same, which is why the views of their searches can stay as they are.
  have taken : (shop.without absent).worker.taken (shop.limitWithout absent limit) =
      (shop.worker.taken limit).filter fun request => !absent request.receiver := by
    rw [Worker.taken, limitWithout_le, queue_without shop absent limit]
    exact List.take_left
  have rest : (shop.without absent).worker.queue.drop
      (min (shop.limitWithout absent limit) Worker.batchLimit) =
      (shop.worker.queue.drop (min limit Worker.batchLimit)).filter
        fun request => !absent request.receiver := by
    rw [limitWithout_le, queue_without shop absent limit]
    exact List.drop_left
  have batch : (shop.without absent).batch (shop.limitWithout absent limit) = shop.batch limit := by
    rw [Workshop.batch, taken, List.filter_comm]
    refine List.filter_eq_self.mpr fun request member => ?_
    have batched := ignores.batched request
      (shop.worker.collect_batches shop.isGone limit ▸ List.mem_append_right _ member)
    rw [batched, Bool.not_false]
  have missed : (shop.without absent).missed (shop.limitWithout absent limit) =
      (shop.missed limit).filter fun receiver => !absent receiver := by
    rw [Workshop.missed, Workshop.missed, taken, List.filter_comm, List.filter_map]
    rfl
  rw [collect_eq, collect_eq, rest, batch, missed]
  unfold without
  rw [List.filter_append]

/-- A step can be made without receivers whose requests do not come into a batch. -/
theorem Step.without (step : Step shop after) (ignores : after.Ignores absent) :
    (shop.without absent).Reaches (after.without absent) := by
  cases step with
  | submit request fresh =>
      cases missing : absent request.receiver with
      | true =>
          have same : (shop.submit request).without absent = shop.without absent := by
            simp [Workshop.submit, Workshop.without, Worker.submit, missing]
          rw [same]
          exact Relation.ReflTransGen.refl
      | false =>
          have same :
              (shop.submit request).without absent = (shop.without absent).submit request := by
            simp [Workshop.submit, Workshop.without, Worker.submit, missing]
          rw [same]
          exact Relation.ReflTransGen.single
            (Step.submit request fun other member => fresh other (List.mem_of_mem_filter member))
  | abandon receiver => exact Relation.ReflTransGen.single (Step.abandon receiver)
  | cancel cancellation grows => exact Relation.ReflTransGen.single (Step.cancel cancellation grows)
  | collect limit =>
      rw [← shop.collect_without limit ignores]
      exact Relation.ReflTransGen.single (Step.collect _)
  | complete index present seen =>
      exact Relation.ReflTransGen.single (Step.complete index present seen)

/-- Any number of steps can be made without such receivers. -/
theorem Reaches.without (reaches : shop.Reaches after) (ignores : after.Ignores absent) :
    (shop.without absent).Reaches (after.without absent) := by
  induction reaches with
  | refl => exact Relation.ReflTransGen.refl
  -- Whether receivers were ignored is known at the end, so it is carried back from step to step.
  | tail _ step ih => exact (ih (step.ignores ignores)).trans (step.without ignores)

/-- What was skipped has not come into a batch. -/
theorem Accounted.ignores (accounted : shop.Accounted) : shop.Ignores shop.skipped.contains := by
  have unskipped {receiver : Nat} (present : 0 < count receiver shop.worker.batches.flatten +
      (shop.worker.answersTo receiver).length) : shop.skipped.contains receiver = false := by
    rw [Bool.eq_false_iff, ne_eq, List.contains_iff_mem]
    exact List.count_eq_zero.mp (accounted.elsewhere present).2
  refine ⟨fun request member => unskipped ?_, fun answer member => unskipped ?_⟩
  · exact Nat.add_pos_left (count_pos member rfl) _
  · exact Nat.add_pos_right _ (Worker.answersTo_pos member rfl)

/-- The receiver has gone away before its request is taken from the queue. -/
def Abandoned (shop : Workshop) (request : Request) : Prop :=
  request ∈ shop.worker.queue ∧ request.receiver ∈ shop.gone ∨ request.receiver ∈ shop.skipped

/-- A request that is abandoned stays so in each step. -/
theorem Step.abandoned (step : Step shop after) {request : Request}
    (abandoned : shop.Abandoned request) : after.Abandoned request := by
  cases step with
  | submit other fresh =>
      exact abandoned.imp_left fun both => ⟨List.mem_append_left _ both.1, both.2⟩
  | abandon receiver =>
      exact abandoned.imp_left fun both => ⟨both.1, List.mem_cons_of_mem _ both.2⟩
  | cancel cancellation grows => exact abandoned
  | complete index present seen => exact abandoned
  | collect limit =>
      rcases abandoned with ⟨queued, gone⟩ | skipped
      · have divided : request ∈ shop.worker.taken limit ++
            shop.worker.queue.drop (min limit Worker.batchLimit) := by
          rw [Worker.taken, List.take_append_drop]
          exact queued
        rcases List.mem_append.mp divided with taken | left
        · have missed : request.receiver ∈ shop.missed limit :=
            List.mem_map_of_mem (List.mem_filter.mpr ⟨taken, List.contains_iff_mem.mpr gone⟩)
          exact Or.inr (List.mem_append_right _ missed)
        · exact Or.inl ⟨left, gone⟩
      · exact Or.inr (List.mem_append_left _ skipped)

/-- A request that is abandoned stays so in any number of steps. -/
theorem Reaches.abandoned (reaches : shop.Reaches after) {request : Request}
    (abandoned : shop.Abandoned request) : after.Abandoned request := by
  induction reaches with
  | refl => exact abandoned
  | tail _ step ih => exact step.abandoned ih

/-- Whatever happens to a worker, it can come to rest without more requests. Then a request whose
receiver had gone away when it was taken from the queue has no answer, and any other has one, under
its own key, with the detection of its own search. Nobody else gets an answer. Receivers are skipped
that have gone away, among them all that did so while their requests were queued, and without these
requests the answers would be the same. When the worker completes a batch, it gives one answer to
each request of the batch. When it drains its queue with no batch open, it comes to rest, and each
request in the queue has been answered once unless its receiver has gone away. -/
theorem requests_answered_once {cancellation : Cancellation} {shop : Workshop}
    (reached : Reaches { cancellation } shop) :
    (shop.worker.Idle → ∀ request ∈ shop.requests,
      (request.receiver ∈ shop.skipped → shop.worker.answersTo request.receiver = []) ∧
        (request.receiver ∉ shop.skipped →
          shop.worker.AnswersOnce request (shop.begun request.receiver) shop.cancellation)) ∧
      (∀ answer ∈ shop.worker.answers, ∃ request ∈ shop.requests,
        request.receiver = answer.receiver) ∧
      (∀ receiver ∈ shop.skipped, receiver ∈ shop.gone) ∧
      (shop.worker.Idle → ∀ earlier : Workshop, earlier.Reaches shop →
        ∀ request ∈ earlier.worker.queue, request.receiver ∈ earlier.gone →
          request.receiver ∈ shop.skipped) ∧
      (∃ other, Reaches { cancellation } other ∧ other.skipped = [] ∧
        other.requests =
          (shop.requests.filter fun request => !shop.skipped.contains request.receiver) ∧
        other.worker.answers = shop.worker.answers) ∧
      (∃ after, shop.Reaches after ∧ after.worker.Idle ∧ after.requests = shop.requests) ∧
      (∀ index batch, shop.worker.batches[index]? = some batch →
        let completed := shop.worker.complete shop.cancellation index
        (∃ answers, completed.1 = ⟨shop.worker.queue, shop.worker.batches.eraseIdx index,
            shop.worker.answers ++ answers⟩ ∧
          List.Forall₂ (fun request answer =>
            request.AnsweredBy shop.cancellation completed.2 answer) batch answers) ∧
        ∃ after, shop.Reaches after ∧ (after.worker, after.cancellation) = completed ∧
          after.gone = shop.gone ∧ after.requests = shop.requests ∧ after.skipped = shop.skipped) ∧
      let drained := shop.worker.drain shop.isGone shop.cancellation
      (shop.worker.batches = [] → shop.Drains drained.1 drained.2) ∧
        ∃ after, shop.Reaches after ∧ (after.worker, after.cancellation) = drained := by
  have accounted := reached.accounted (new_accounted cancellation)
  refine ⟨fun idle request made => accounted.settled idle made, fun answer member => ?_,
    accounted.abandoned, fun idle earlier onward request queued gone => ?_, ?_, exists_idle accounted,
    fun index batch present => ⟨shop.worker.complete_delivers shop.cancellation present,
      complete_reaches accounted index⟩,
    accounted.drains, drainFor_reaches accounted _⟩
  · obtain ⟨request, made, answered⟩ := accounted.answered answer member
    exact ⟨request, made, answered.receiver.symm⟩
  · rcases onward.abandoned (Or.inl ⟨queued, gone⟩) with ⟨left, _⟩ | skipped
    · rw [idle.1] at left
      cases left
    · exact skipped
  · refine ⟨shop.without shop.skipped.contains, reached.without accounted.ignores, ?_, rfl, rfl⟩
    refine List.filter_eq_nil_iff.mpr fun receiver member => ?_
    simpa using member

/-- One of three receivers goes away. The worker may drain its queue at once. Or the other requests
get into different batches, and the worker completes the second one first. -/
theorem requests_answered_once_reordered :
    let request (receiver : Nat) (key : String) : Request :=
      { receiver, key, text := "/// One".toList, language := "rust",
        detector := { registry := Registry.builtin }, token := receiver }
    let start : Workshop := { cancellation := {} }
    let made := ((start.submit (request 0 "a")).submit (request 1 "b")).submit (request 2 "c")
    let waiting : Workshop := { made with gone := [1] }
    let drained := waiting.worker.drain waiting.isGone waiting.cancellation
    let collected := (waiting.collect 2).collect 64
    let second := collected.worker.complete collected.cancellation 1
    let both := second.1.complete second.2 0
    start.Reaches waiting ∧ drained.1.Idle ∧ drained.1.answersTo 1 = [] ∧
      (∃ detection, drained.1.answersTo 2 = [⟨2, "c", detection⟩] ∧ detection.blocks.length = 1) ∧
      start.Reaches collected ∧
      (∃ answer, second.1.answers = [answer] ∧
        (request 2 "c").AnsweredBy collected.cancellation second.2 answer) ∧
      both.1.Idle ∧ both.1.answers.map Answer.key = ["c", "a"] ∧
      both.1.answersTo 1 = [] ∧
      ∃ detection, both.1.answersTo 2 = [⟨2, "c", detection⟩] ∧ detection.blocks.length = 1 := by
  intro request start made waiting drained collected second both
  have submitted : start.Reaches made := by
    refine ((Relation.ReflTransGen.single (Step.submit _ ?_)).tail (Step.submit _ ?_)).tail
      (Step.submit _ ?_) <;> decide +kernel
  have abandoned : start.Reaches waiting := submitted.tail (Step.abandon 1)
  have gathered : start.Reaches collected :=
    (abandoned.tail (Step.collect 2)).tail (Step.collect 64)
  obtain ⟨_, _, _, _, _, _, _, drains, _⟩ := requests_answered_once abandoned
  obtain ⟨rests, missed, answered, _⟩ : waiting.Drains drained.1 drained.2 := drains rfl
  have queue : waiting.worker.queue = [request 0 "a", request 1 "b", request 2 "c"] := rfl
  have gone : waiting.gone = [1] := rfl
  obtain ⟨atOnce, onlyAtOnce, _, steady⟩ :=
    answered (request 2 "c") (by simp [queue]) (by simp [gone, request])
  -- A completed batch leads on to a workshop about which the same can be said.
  obtain ⟨_, _, _, _, _, _, completes, _⟩ := requests_answered_once gathered
  obtain ⟨⟨answers, batch, own⟩, halfway, onward, ran, _, requests, skipped⟩ :=
    completes 1 [request 2 "c"] rfl
  obtain ⟨answer, ownAnswer, rfl⟩ : ∃ answer,
      (request 2 "c").AnsweredBy collected.cancellation second.2 answer ∧ answers = [answer] := by
    cases own with
    | cons answered none =>
        cases none
        exact ⟨_, answered, rfl⟩
  have worker : halfway.worker = second.1 := congrArg Prod.fst ran
  have moment : halfway.cancellation = second.2 := congrArg Prod.snd ran
  obtain ⟨_, _, _, _, _, _, completesLast, _⟩ := requests_answered_once (gathered.trans onward)
  rw [worker, moment] at completesLast
  obtain ⟨_, shop, onwardLast, ranLast, _, requestsLast, skippedLast⟩ :=
    completesLast 0 [request 0 "a"] rfl
  have delivered : shop.worker = both.1 := congrArg Prod.fst ranLast
  have settled := (requests_answered_once ((gathered.trans onward).trans onwardLast)).1
  rw [delivered, requestsLast, requests, skippedLast, skipped] at settled
  have idle : both.1.Idle := ⟨rfl, rfl⟩
  have all : collected.requests = [request 0 "a", request 1 "b", request 2 "c"] := rfl
  have only : collected.skipped = [1] := rfl
  obtain ⟨detection, onlyAnswer, _, _⟩ :=
    (settled idle (request 2 "c") (by simp [all])).2 (by simp [only, request])
  have found : (both.1.answersTo 2).map (·.detection.blocks.length) = [1] := by decide +kernel
  refine ⟨abandoned, rests, missed (request 1 "b") (by simp [queue]) (by simp [gone, request]),
    ⟨atOnce, onlyAtOnce, ?_⟩, gathered, ⟨answer, congrArg Worker.answers batch, ownAnswer⟩, idle,
    by decide +kernel,
    (settled idle (request 1 "b") (by simp [all])).1 (by simp [only, request]),
    detection, onlyAnswer, ?_⟩
  · rw [steady (by decide +kernel)]
    decide +kernel
  · rw [show both.1.answersTo 2 = _ from onlyAnswer] at found
    exact List.singleton_inj.mp found

end Workshop

end DocBlocks
