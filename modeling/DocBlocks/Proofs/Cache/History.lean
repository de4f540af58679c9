/-
This file says what a timed cache answers after any history of calls: what was last set and is not
too old, however often the cache was swept or looked into meanwhile.
-/

import DocBlocks.Proofs.Cache.Entries
import Mathlib.Data.List.Induction

namespace DocBlocks.Cache

/-- What can be asked of a cache. -/
inductive Operation (α : Type) where
  | set (key : String) (value : α)
  | get (key : String)
  | remove (key : String)
  | removeWhere (condition : String → Bool)
  | cleanup
  | cleanupIfDue
  | clear

/-- An operation and the time at which it is done. -/
structure Call (α : Type) where
  time : Nat
  operation : Operation α

variable {α : Type}

/-- The operation puts a new value in the place of what is stored under a key, or removes it. -/
def Operation.overrides (key : String) : Operation α → Bool
  | set other _ => key == other
  | remove other => key == other
  | removeWhere condition => condition key
  | clear => true
  | get _ => false
  | cleanup => false
  | cleanupIfDue => false

/-- Look-ups and sweeps. They may drop entries, but only such as have expired. -/
def Operation.isHousekeeping : Operation α → Bool
  | get _ => true
  | cleanup => true
  | cleanupIfDue => true
  | set _ _ => false
  | remove _ => false
  | removeWhere _ => false
  | clear => false

def Operation.isLookUp : Operation α → Bool
  | get _ => true
  | _ => false

/-- The cache after a call. -/
def step (cache : Cache α) (call : Call α) : Cache α :=
  match call.operation with
  | .set key value => cache.set call.time key value
  | .get key => (cache.get call.time key).2
  | .remove key => (cache.remove key).2
  | .removeWhere condition => (cache.removeWhere condition).2
  | .cleanup => (cache.cleanup call.time).2
  | .cleanupIfDue => (cache.cleanupIfDue call.time).2
  | .clear => cache.clear

def run (cache : Cache α) (history : List (Call α)) : Cache α :=
  history.foldl step cache

/-- The answer to a look-up. Other calls are not answered with a value. -/
def reply (cache : Cache α) (call : Call α) : List (Option α) :=
  match call.operation with
  | .get key => [(cache.get call.time key).1]
  | _ => []

/-- The answers to all look-ups, in order. -/
def answers (cache : Cache α) : List (Call α) → List (Option α)
  | [] => []
  | call :: later => cache.reply call ++ answers (cache.step call) later

/-- No call is made before one that comes earlier in the history. -/
def Chronological (history : List (Call α)) : Prop :=
  (history.map Call.time).Pairwise (· ≤ ·)

/-- The key was last set to the value, at the time given, and was not removed since then. -/
def LastSet (history : List (Call α)) (key : String) (value : α) (time : Nat) : Prop :=
  ∃ earlier later, history = earlier ++ ⟨time, .set key value⟩ :: later ∧
    ∀ call ∈ later, call.operation.overrides key = false

/-- What is on record for a key after a call, given what was on record before. -/
def Call.revise (call : Call α) (record : String → Option (Entry α)) (key : String) :
    Option (Entry α) :=
  match call.operation with
  | .set other value => if key = other then some ⟨key, value, call.time⟩ else record key
  | operation => if operation.overrides key then none else record key

/-- What is on record for each key if nothing ever expires. -/
def recorded (history : List (Call α)) : String → Option (Entry α) :=
  history.foldl (fun record call => call.revise record) fun _ => none

/-- A call that does not override a key leaves its record. -/
theorem revise_of_kept (call : Call α) (record : String → Option (Entry α)) (key : String)
    (kept : call.operation.overrides key = false) : call.revise record key = record key := by
  rcases call with ⟨time, operation⟩
  cases operation <;> simp_all [Call.revise, Operation.overrides]

/-- A call that overrides a key leaves the entry that it stores itself, if it stores one. -/
theorem revise_of_overridden (call : Call α) (record : String → Option (Entry α)) (key : String)
    (overridden : call.operation.overrides key = true) (entry : Entry α) :
    call.revise record key = some entry ↔
      entry.key = key ∧ call = ⟨entry.storedAt, .set key entry.value⟩ := by
  rcases call with ⟨time, operation⟩
  rcases entry with ⟨name, value, storedAt⟩
  cases operation with
  | set other value => simp_all [Call.revise, Operation.overrides]; grind
  | _ => simp_all [Call.revise, Operation.overrides]

/-- The last call stores the value, or it leaves the key alone and the value was stored last before
it. -/
theorem lastSet_snoc (history : List (Call α)) (call : Call α) (key : String) (value : α)
    (time : Nat) :
    LastSet (history ++ [call]) key value time ↔
      call = ⟨time, .set key value⟩ ∨
        call.operation.overrides key = false ∧ LastSet history key value time := by
  constructor
  · rintro ⟨earlier, later, split, kept⟩
    rcases List.eq_nil_or_concat later with empty | ⟨middle, last, shape⟩
    · subst empty
      left
      exact (List.append_inj' split rfl).2 |> List.singleton_inj.mp
    · rw [List.concat_eq_append] at shape
      subst shape
      right
      rw [← List.cons_append, ← List.append_assoc] at split
      obtain ⟨front, same⟩ := List.append_inj' split rfl
      cases List.singleton_inj.mp same
      exact ⟨kept call (by simp), earlier, middle, front, fun other member =>
        kept other (by simp [member])⟩
  · rintro (same | ⟨kept, earlier, later, split, others⟩)
    · exact ⟨history, [], by rw [same], by simp⟩
    · refine ⟨earlier, later ++ [call], by simp [split], ?_⟩
      intro other member
      rcases List.mem_append.mp member with inside | last
      · exact others other inside
      · rw [List.mem_singleton.mp last]
        exact kept

/-- What is on record is what was last set. -/
theorem recorded_iff (history : List (Call α)) (key : String) (entry : Entry α) :
    recorded history key = some entry ↔
      entry.key = key ∧ LastSet history key entry.value entry.storedAt := by
  induction history using List.reverseRecOn with
  | nil => simp [recorded, LastSet]
  | append_singleton history call ih =>
      have last : recorded (history ++ [call]) key = call.revise (recorded history) key := by
        simp [recorded]
      rw [last, lastSet_snoc]
      cases overridden : call.operation.overrides key with
      | true =>
          rw [revise_of_overridden call _ key overridden]
          simp
      | false =>
          rw [revise_of_kept call _ key overridden, ih]
          have other : call ≠ ⟨entry.storedAt, .set key entry.value⟩ := by
            rintro rfl
            simp [Operation.overrides] at overridden
          simp [other]

/-- The cache holds entries that are on record, and of those all that have not expired by now. -/
structure Records (record : String → Option (Entry α)) (now : Nat) (cache : Cache α) : Prop where
  named : ∀ key entry, record key = some entry → entry.key = key
  stored : ∀ entry ∈ cache.entries, record entry.key = some entry
  complete : ∀ key entry, record key = some entry →
    entry ∈ cache.entries ∨ entry.isExpired cache.ttl now = true
  distinct : (cache.entries.map Entry.key).Nodup

/-- What has expired stays expired. -/
theorem Entry.isExpired_later {entry : Entry α} {ttl now later : Nat} (passed : now ≤ later)
    (expired : entry.isExpired ttl now = true) : entry.isExpired ttl later = true := by
  simp only [isExpired, decide_eq_true_eq] at expired ⊢
  omega

namespace Records

variable {record : String → Option (Entry α)} {now later : Nat} {cache : Cache α}

/-- Time may pass. -/
theorem wait (records : Records record now cache) (passed : now ≤ later) :
    Records record later cache where
  named := records.named
  stored := records.stored
  complete key entry known :=
    (records.complete key entry known).imp_right (Entry.isExpired_later passed)
  distinct := records.distinct

/-- The cache still keeps the record after it has lost expired entries. -/
theorem shrink (records : Records record now cache) (kept : Entry α → Bool) {smaller : Cache α}
    (entries : smaller.entries = cache.entries.filter kept) (ttl : smaller.ttl = cache.ttl)
    (expired : ∀ entry ∈ cache.entries, kept entry = false → entry.isExpired cache.ttl now = true) :
    Records record now smaller where
  named := records.named
  stored entry member := by
    rw [entries] at member
    exact records.stored entry (List.mem_of_mem_filter member)
  complete key entry known := by
    rw [entries, ttl, List.mem_filter]
    rcases records.complete key entry known with present | gone
    · cases keeps : kept entry with
      | true => exact Or.inl ⟨present, rfl⟩
      | false => exact Or.inr (expired entry present keeps)
    · exact Or.inr gone
  distinct := by
    rw [entries]
    exact records.distinct.sublist (List.filter_sublist.map Entry.key)

/-- Removing the entries of some keys takes these keys off the record. -/
theorem discard (records : Records record now cache) (condition : String → Bool) :
    Records (fun key => if condition key then none else record key) now
      (cache.removeWhere condition).2 where
  named key entry known := by
    split at known
    · cases known
    · exact records.named key entry known
  stored entry member := by
    obtain ⟨present, spared⟩ := (mem_removeWhere cache condition entry).mp member
    simpa [spared] using records.stored entry present
  complete key entry known := by
    split at known
    · cases known
    · rename_i spared
      rw [mem_removeWhere, records.named key entry known]
      exact (records.complete key entry known).imp_left fun present => ⟨present, by simpa using spared⟩
  distinct := records.distinct.sublist (List.filter_sublist.map Entry.key)

/-- A value that is stored takes the place of the record for its key. -/
theorem set (records : Records record now cache) (time : Nat) (key : String) (value : α) :
    Records (fun other => if other = key then some ⟨other, value, time⟩ else record other) now
      (cache.set time key value) where
  named other entry known := by
    split at known
    · cases known
      rfl
    · exact records.named other entry known
  stored entry member := by
    rcases List.mem_cons.mp member with same | old
    · simp [same]
    · obtain ⟨present, different⟩ := List.mem_filter.mp old
      have apart : entry.key ≠ key := by simpa using different
      simpa [apart] using records.stored entry present
  complete other entry known := by
    split at known
    · rename_i same
      cases known
      left
      simp [Cache.set, same]
    · rename_i different
      refine (records.complete other entry known).imp_left fun present => ?_
      have name := records.named other entry known
      exact List.mem_cons_of_mem _ (List.mem_filter.mpr ⟨present, by simp [name, different]⟩)
  distinct := by
    simp only [Cache.set, List.map_cons, List.nodup_cons, List.mem_map, List.mem_filter]
    refine ⟨?_, records.distinct.sublist (List.filter_sublist.map Entry.key)⟩
    rintro ⟨entry, ⟨_, different⟩, same⟩
    simp [same] at different

/-- What the cache finds is what is on record. -/
theorem of_entry? (records : Records record now cache) {key : String} {entry : Entry α}
    (found : cache.entry? key = some entry) : record key = some entry := by
  have named : entry.key = key := by simpa using List.find?_some found
  rw [← named]
  exact records.stored entry (List.mem_of_find?_eq_some found)

/-- A look-up answers with the value on record unless that has expired. -/
theorem get_answer (records : Records record now cache) (key : String) :
    (cache.get now key).1 =
      ((record key).filter fun entry => !entry.isExpired cache.ttl now).map Entry.value := by
  unfold Cache.get
  cases found : cache.entry? key with
  | some entry =>
      rw [records.of_entry? found]
      cases expired : entry.isExpired cache.ttl now <;> simp [Option.filter, expired]
  | none =>
      cases known : record key with
      | none => rfl
      | some entry =>
          have absent : entry ∉ cache.entries := by
            intro present
            have other := List.find?_eq_none.mp found entry present
            simp [records.named key entry known] at other
          have expired := (records.complete key entry known).resolve_left absent
          simp [Option.filter, expired]

/-- Looking up loses only what has expired. -/
theorem get (records : Records record now cache) (key : String) :
    Records record now (cache.get now key).2 := by
  have unchanged {counted : Cache α} (entries : counted.entries = cache.entries)
      (ttl : counted.ttl = cache.ttl) : Records record now counted :=
    records.shrink (fun _ => true) (by simp [entries]) ttl (by simp)
  unfold Cache.get
  split
  · exact unchanged rfl rfl
  · rename_i entry found
    split
    · rename_i expired
      refine records.shrink (fun other => !(other.key == key)) rfl rfl ?_
      intro other member dropped
      have named : other.key = key := by simpa using dropped
      have same := records.stored other member
      rw [named, records.of_entry? found] at same
      cases same
      exact expired
    · exact unchanged rfl rfl

/-- A sweep loses only what has expired. -/
theorem cleanup (records : Records record now cache) : Records record now (cache.cleanup now).2 :=
  records.shrink (fun entry => !entry.isExpired cache.ttl now) rfl rfl (by simp)

/-- A sweep that comes of itself loses only what has expired. -/
theorem cleanupIfDue (records : Records record now cache) :
    Records record now (cache.cleanupIfDue now).2 := by
  unfold Cache.cleanupIfDue
  split
  · exact records.cleanup
  · exact records

/-- A cache that is cleared holds nothing that could be on record. -/
theorem clear : Records (fun _ => none) now cache.clear where
  named _ _ known := by cases known
  stored _ member := by cases member
  complete _ _ known := by cases known
  distinct := List.nodup_nil

/-- Every call revises the record and leaves a cache that keeps it. -/
theorem step (records : Records record now cache) (call : Call α) (passed : now ≤ call.time) :
    Records (call.revise record) call.time (cache.step call) := by
  have current := records.wait passed
  rcases call with ⟨time, operation⟩
  cases operation with
  | set key value => exact current.set time key value
  | get key => exact current.get key
  | remove key => exact current.discard (· == key)
  | removeWhere condition => exact current.discard condition
  | cleanup => exact current.cleanup
  | cleanupIfDue => exact current.cleanupIfDue
  | clear => exact clear

end Records

theorem step_ttl (cache : Cache α) (call : Call α) : (cache.step call).ttl = cache.ttl := by
  rcases call with ⟨time, operation⟩
  cases operation with
  | get key => exact get_ttl cache time key
  | cleanupIfDue => exact cleanupIfDue_ttl cache time
  | _ => rfl

/-- No history changes for how long entries live. -/
theorem run_ttl (cache : Cache α) (history : List (Call α)) :
    (cache.run history).ttl = cache.ttl := by
  induction history generalizing cache with
  | nil => rfl
  | cons call later ih => exact (ih (cache.step call)).trans (step_ttl cache call)

namespace Chronological

/-- All calls after the first come no earlier than it. -/
theorem tail {call : Call α} {later : List (Call α)}
    (chronological : Chronological (call :: later)) :
    Chronological later ∧ ∀ other ∈ later, call.time ≤ other.time := by
  obtain ⟨first, rest⟩ := List.pairwise_cons.mp chronological
  exact ⟨rest, fun other member => first other.time (List.mem_map_of_mem member)⟩

/-- Around a call stand the calls that are no later and those that are no earlier. -/
theorem parts {earlier later : List (Call α)} {call : Call α}
    (chronological : Chronological (earlier ++ call :: later)) :
    (Chronological earlier ∧ ∀ other ∈ earlier, other.time ≤ call.time) ∧
      (Chronological later ∧ ∀ other ∈ later, call.time ≤ other.time) := by
  unfold Chronological at chronological
  rw [List.map_append] at chronological
  obtain ⟨first, rest, apart⟩ := List.pairwise_append.mp chronological
  refine ⟨⟨first, fun other member => ?_⟩, tail rest⟩
  exact apart other.time (List.mem_map_of_mem member) call.time (by simp)

end Chronological

/-- A cache keeps the record through every history. -/
theorem Records.run {record : String → Option (Entry α)} {start now : Nat} {cache : Cache α}
    (records : Records record start cache) (history : List (Call α))
    (chronological : Chronological history) (after : ∀ call ∈ history, start ≤ call.time)
    (before : ∀ call ∈ history, call.time ≤ now) (passed : start ≤ now) :
    Records (history.foldl (fun record call => call.revise record) record) now
      (cache.run history) := by
  induction history generalizing record start cache with
  | nil => exact records.wait passed
  | cons call later ih =>
      obtain ⟨rest, first⟩ := chronological.tail
      exact ih (records.step call (after call List.mem_cons_self)) rest first
        (fun other member => before other (List.mem_cons_of_mem _ member))
        (before call List.mem_cons_self)

/-- Answers come in the order of the calls. -/
theorem answers_append (cache : Cache α) (earlier later : List (Call α)) :
    cache.answers (earlier ++ later) = cache.answers earlier ++ (cache.run earlier).answers later := by
  induction earlier generalizing cache with
  | nil => rfl
  | cons call earlier ih =>
      simp only [List.cons_append, answers, ih, List.append_assoc]
      rfl

/-- Caches that keep one record answer alike from then on. -/
theorem answers_of_records {record : String → Option (Entry α)} {now : Nat} {one other : Cache α}
    (records : Records record now one) (alike : Records record now other)
    (ttl : one.ttl = other.ttl) (history : List (Call α)) (chronological : Chronological history)
    (after : ∀ call ∈ history, now ≤ call.time) : one.answers history = other.answers history := by
  induction history generalizing record now one other with
  | nil => rfl
  | cons call later ih =>
      have passed := after call List.mem_cons_self
      have reply : one.reply call = other.reply call := by
        unfold Cache.reply
        split
        · rw [(records.wait passed).get_answer, (alike.wait passed).get_answer, ttl]
        · rfl
      obtain ⟨rest, first⟩ := chronological.tail
      have onward := ih (records.step call passed) (alike.step call passed)
        (by rw [step_ttl, step_ttl, ttl]) rest first
      simp only [answers, reply, onward]

/-- Housekeeping leaves all records. -/
theorem revise_of_housekeeping (call : Call α) (record : String → Option (Entry α))
    (housekeeping : call.operation.isHousekeeping = true) : call.revise record = record := by
  funext key
  apply revise_of_kept
  cases operation : call.operation <;> simp_all [Operation.isHousekeeping, Operation.overrides]

/-- Every look-up counts as a hit or as a miss, and nothing else does. -/
theorem step_counts (cache : Cache α) (call : Call α) :
    (cache.step call).hits = cache.hits + (cache.reply call).countP Option.isSome ∧
      (cache.step call).hits + (cache.step call).misses =
        cache.hits + cache.misses + (cache.reply call).length := by
  rcases call with ⟨time, operation⟩
  cases operation with
  | get key =>
      simp only [step, reply, Cache.get]
      split
      · simp
        omega
      · split <;> simp [remove, removeWhere] <;> omega
  | cleanupIfDue =>
      simp only [step, reply, cleanupIfDue]
      split <;> simp [cleanup]
  | _ => exact ⟨rfl, rfl⟩

/-- Every answer is counted as a hit or as a miss. -/
theorem run_counts (cache : Cache α) (history : List (Call α)) :
    (cache.run history).hits = cache.hits + (cache.answers history).countP Option.isSome ∧
      (cache.run history).hits + (cache.run history).misses =
        cache.hits + cache.misses + (cache.answers history).length := by
  induction history generalizing cache with
  | nil => exact ⟨rfl, rfl⟩
  | cons call later ih =>
      obtain ⟨hits, total⟩ := ih (cache.step call)
      obtain ⟨firstHits, firstTotal⟩ := cache.step_counts call
      simp only [answers, List.countP_append, List.length_append]
      change (run (cache.step call) later).hits = _ ∧
        (run (cache.step call) later).hits + (run (cache.step call) later).misses = _
      omega

/-- Every look-up has an answer, and no other call has one. -/
theorem answers_length (cache : Cache α) (history : List (Call α)) :
    (cache.answers history).length = history.countP fun call => call.operation.isLookUp := by
  induction history generalizing cache with
  | nil => rfl
  | cons call later ih =>
      rcases call with ⟨time, operation⟩
      cases operation <;> simp [answers, reply, ih, Operation.isLookUp, Nat.add_comm]

/-- A sweep counts the entries that have expired. -/
theorem cleanup_count (cache : Cache α) (now : Nat) :
    (cache.cleanup now).1 = cache.entries.countP fun entry => entry.isExpired cache.ttl now := by
  have total := cache.entries.length_eq_countP_add_countP fun entry =>
    entry.isExpired cache.ttl now
  simp only [cleanup, ← List.countP_eq_length_filter]
  simp only [Bool.not_eq_true, Bool.decide_eq_false] at total
  omega

/-- A new cache holds nothing. -/
theorem new_records (ttl interval start : Nat) :
    Records (fun _ => none) 0 (new ttl interval start : Cache α) where
  named _ _ known := by cases known
  stored _ member := by cases member
  complete _ _ known := by cases known
  distinct := List.nodup_nil

/-- A new cache keeps the record up to any call of a history. -/
theorem new_run_records (ttl interval start : Nat) {earlier later : List (Call α)} {call : Call α}
    (chronological : Chronological (earlier ++ call :: later)) :
    Records (recorded earlier) call.time ((new ttl interval start).run earlier) := by
  obtain ⟨ordered, before⟩ := chronological.parts.1
  exact (new_records ttl interval start).run earlier ordered (fun _ _ => Nat.zero_le _) before
    (Nat.zero_le _)

/-- A look-up finds what was last set and has not expired. -/
theorem Records.get_iff {earlier : List (Call α)} {now : Nat} {cache : Cache α}
    (records : Records (recorded earlier) now cache) (key : String) (value : α) :
    (cache.get now key).1 = some value ↔
      ∃ time, LastSet earlier key value time ∧ now - time < cache.ttl := by
  rw [records.get_answer]
  simp only [Option.map_eq_some_iff, Option.filter_eq_some_iff, recorded_iff]
  constructor
  · rintro ⟨entry, ⟨⟨_, last⟩, young⟩, same⟩
    rw [same] at last
    exact ⟨entry.storedAt, last, by simpa [Entry.isExpired] using young⟩
  · rintro ⟨time, last, young⟩
    exact ⟨⟨key, value, time⟩, ⟨⟨rfl, last⟩, by simpa [Entry.isExpired] using young⟩, rfl⟩

/-- A sweep or look-up leaves the record as it is, so the answers that follow are the same. -/
theorem Records.answers_after_housekeeping {record : String → Option (Entry α)} {call : Call α}
    {cache : Cache α} (records : Records record call.time cache)
    (housekeeping : call.operation.isHousekeeping = true) (later : List (Call α))
    (chronological : Chronological later) (after : ∀ other ∈ later, call.time ≤ other.time) :
    (cache.step call).answers later = cache.answers later := by
  have kept := records.step call (Nat.le_refl _)
  rw [revise_of_housekeeping call record housekeeping] at kept
  exact answers_of_records kept records (step_ttl cache call) later chronological after

/-- In every history of calls, whatever the lifetime of entries and the interval of sweeps: a
look-up finds what the key was last set to, if that is young enough and was not removed; any sweep
or look-up may be left out without changing the answers to the others; look-ups are counted as hits
or misses by their answers; and a sweep counts and drops the entries that are too old. -/
theorem history_answers_last_set (ttl interval start : Nat) (history : List (Call α))
    (chronological : Chronological history) :
    let cache : Cache α := new ttl interval start
    (∀ earlier later now key, history = earlier ++ ⟨now, .get key⟩ :: later →
      ∀ value, ((cache.run earlier).get now key).1 = some value ↔
        ∃ time, LastSet earlier key value time ∧ now - time < ttl) ∧
    (∀ earlier later call, history = earlier ++ call :: later →
      call.operation.isHousekeeping = true →
      ∃ others, cache.answers history =
          cache.answers earlier ++ (cache.run earlier).reply call ++ others ∧
        cache.answers (earlier ++ later) = cache.answers earlier ++ others) ∧
    ((cache.run history).hits = (cache.answers history).countP Option.isSome ∧
      (cache.run history).hits + (cache.run history).misses =
        history.countP fun call => call.operation.isLookUp) ∧
    (∀ earlier later now, history = earlier ++ ⟨now, .cleanup⟩ :: later →
      let stored := (cache.run earlier).entries
      (∀ entry ∈ stored, LastSet earlier entry.key entry.value entry.storedAt) ∧
      (stored.map Entry.key).Nodup ∧
      ((cache.run earlier).cleanup now).1 =
        stored.countP (fun entry => ttl ≤ now - entry.storedAt) ∧
      ((cache.run earlier).cleanup now).2.entries =
        stored.filter fun entry => now - entry.storedAt < ttl) := by
  intro cache
  have lifetime (earlier : List (Call α)) : (cache.run earlier).ttl = ttl := run_ttl cache earlier
  refine ⟨?_, ?_, ?_, ?_⟩
  · intro earlier later now key split value
    rw [split] at chronological
    rw [(new_run_records ttl interval start chronological).get_iff key value, lifetime]
  · intro earlier later call split housekeeping
    rw [split] at chronological ⊢
    obtain ⟨ordered, after⟩ := chronological.parts.2
    have same := (new_run_records ttl interval start chronological).answers_after_housekeeping
      housekeeping later ordered after
    refine ⟨(cache.run earlier).answers later, ?_, answers_append cache earlier later⟩
    rw [answers_append, answers, same, List.append_assoc]
  · obtain ⟨hits, total⟩ := cache.run_counts history
    rw [answers_length] at total
    exact ⟨hits.trans (Nat.zero_add _), total.trans (Nat.zero_add _)⟩
  · intro earlier later now split stored
    rw [split] at chronological
    have records := new_run_records ttl interval start chronological
    refine ⟨?_, records.distinct, ?_, ?_⟩
    · intro entry member
      exact ((recorded_iff earlier entry.key entry).mp (records.stored entry member)).2
    · simp only [cleanup_count, lifetime, Entry.isExpired, stored]
    · simp only [cleanup, lifetime, Entry.isExpired, stored, ← decide_not, Nat.not_le]

/-- The sweep drops an entry that has just expired, which the look-up after it would have done. -/
theorem history_answers_last_set_swept :
    let cache : Cache Nat := new 5 0 0
    let found : List (Call Nat) := [⟨0, .set "a" 1⟩, ⟨4, .get "a"⟩]
    let history : List (Call Nat) := found ++ [⟨5, .cleanup⟩, ⟨5, .get "a"⟩]
    Chronological history ∧
      (((cache.run [⟨0, .set "a" 1⟩]).get 4 "a").1 = some 1 ↔
        ∃ time, LastSet [⟨0, .set "a" 1⟩] "a" 1 time ∧ 4 - time < 5) ∧
      (cache.answers history = [some 1, none] ∧
        cache.answers history = cache.answers (found ++ [⟨5, .get "a"⟩])) ∧
      (cache.run history).hits + (cache.run history).misses = 2 ∧
      ((cache.run found).cleanup 5).1 = 1 := by
  intro cache found history
  have chronological : Chronological history := by simp [Chronological, history, found]
  obtain ⟨lookUp, omitted, ⟨_, total⟩, swept⟩ := history_answers_last_set 5 0 0 history chronological
  obtain ⟨others, whole, without⟩ := omitted found [⟨5, .get "a"⟩] ⟨5, .cleanup⟩ rfl rfl
  refine ⟨chronological, lookUp [⟨0, .set "a" 1⟩] _ 4 "a" rfl 1, ⟨by decide, ?_⟩, total, ?_⟩
  · rw [whole, without, reply, List.append_nil]
  · exact (swept found _ 5 rfl).2.2.1

end DocBlocks.Cache
