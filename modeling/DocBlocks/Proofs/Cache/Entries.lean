/-
This file says which entries a timed cache holds after each of its operations.
-/

import DocBlocks.Cache
import Mathlib.Data.List.Basic

namespace DocBlocks.Cache

variable {α : Type}

/-- Entries are removed by their keys, and no others. -/
theorem mem_removeWhere (cache : Cache α) (condition : String → Bool) (entry : Entry α) :
    entry ∈ (cache.removeWhere condition).2.entries ↔
      entry ∈ cache.entries ∧ condition entry.key = false := by
  simp [removeWhere]

/-- A look-up makes no entries. -/
theorem mem_get (cache : Cache α) (now : Nat) (key : String) (entry : Entry α)
    (member : entry ∈ (cache.get now key).2.entries) : entry ∈ cache.entries := by
  unfold get at member
  split at member
  · exact member
  · split at member
    · exact ((cache.mem_removeWhere (· == key) entry).mp member).1
    · exact member

/-- Looking up changes what is stored, not for how long. -/
theorem get_ttl (cache : Cache α) (now : Nat) (key : String) :
    (cache.get now key).2.ttl = cache.ttl := by
  unfold get
  split
  · rfl
  · split <;> rfl

theorem get_interval (cache : Cache α) (now : Nat) (key : String) :
    (cache.get now key).2.interval = cache.interval := by
  unfold get
  split
  · rfl
  · split <;> rfl

/-- A look-up finds the value of an entry with the key. -/
theorem get_found (cache : Cache α) (now : Nat) (key : String) (value : α)
    (found : (cache.get now key).1 = some value) :
    ∃ entry ∈ cache.entries, entry.key = key ∧ entry.value = value := by
  unfold get at found
  split at found
  · cases found
  · rename_i entry present
    split at found
    · cases found
    · cases found
      exact ⟨entry, List.mem_of_find?_eq_some present, by simpa using List.find?_some present, rfl⟩

/-- A look-up finds nothing if no entry has the key. -/
theorem get_absent (cache : Cache α) (now : Nat) (key : String)
    (absent : ∀ entry ∈ cache.entries, entry.key ≠ key) : (cache.get now key).1 = none := by
  have missing : cache.entry? key = none := by
    unfold entry?
    rw [List.find?_eq_none]
    intro entry member
    simpa using absent entry member
  simp [get, missing]

/-- A sweep removes the entries that have expired, and no others. -/
theorem mem_cleanup (cache : Cache α) (now : Nat) (entry : Entry α) :
    entry ∈ (cache.cleanup now).2.entries ↔
      entry ∈ cache.entries ∧ entry.isExpired cache.ttl now = false := by
  simp [cleanup]

/-- A sweep that comes of itself keeps the time for which entries live. -/
theorem cleanupIfDue_ttl (cache : Cache α) (now : Nat) :
    (cache.cleanupIfDue now).2.ttl = cache.ttl := by
  unfold cleanupIfDue
  split <;> rfl

theorem cleanupIfDue_interval (cache : Cache α) (now : Nat) :
    (cache.cleanupIfDue now).2.interval = cache.interval := by
  unfold cleanupIfDue
  split <;> rfl

/-- Storing a value adds its entry and no other. -/
theorem mem_store (cache : Cache α) (now : Nat) (key : String) (value : α) (entry : Entry α)
    (member : entry ∈ (cache.store now key value).entries) :
    entry = ⟨key, value, now⟩ ∨ entry ∈ cache.entries ∧ entry.key ≠ key := by
  have placed : entry ∈ (cache.set now key value).entries := by
    unfold store cleanupIfDue at member
    split at member
    · exact ((mem_cleanup _ now entry).mp member).1
    · exact member
  simpa [set] using placed

/-- A value that may live at all is there after it has been stored. -/
theorem store_mem (cache : Cache α) (now : Nat) (key : String) (value : α)
    (lives : 0 < cache.ttl) : ⟨key, value, now⟩ ∈ (cache.store now key value).entries := by
  have placed : (⟨key, value, now⟩ : Entry α) ∈ (cache.set now key value).entries := by simp [set]
  unfold store cleanupIfDue
  split
  · rw [mem_cleanup]
    refine ⟨placed, ?_⟩
    simp only [Entry.isExpired, Nat.sub_self, decide_eq_false_iff_not, Nat.not_le]
    exact lives
  · exact placed

/-- What is stored does not change for how long entries live. -/
theorem store_ttl (cache : Cache α) (now : Nat) (key : String) (value : α) :
    (cache.store now key value).ttl = cache.ttl :=
  cleanupIfDue_ttl _ now

/-- What is stored does not change how often a sweep comes of itself. -/
theorem store_interval (cache : Cache α) (now : Nat) (key : String) (value : α) :
    (cache.store now key value).interval = cache.interval :=
  cleanupIfDue_interval _ now

end DocBlocks.Cache
