/-
This file shows that the tickets of open documents stay in force until they are replaced.
-/

import DocBlocks.Proofs.Service.Calls
import DocBlocks.Workspace.Basic
import Mathlib.Data.List.Basic

namespace DocBlocks

/-- No token is issued by cancelling one. -/
theorem Cancellation.cancel_issued (cancellation : Cancellation) (token : Token) :
    (cancellation.cancel token).issued = cancellation.issued := by
  unfold cancel
  split <;> rfl

namespace Workspace

theorem lookup_cons {β : Type} (key other : String) (value : β) (rest : List (String × β)) :
    ((key, value) :: rest).lookup other = if other = key then some value else rest.lookup other := by
  rw [List.lookup_cons]
  by_cases asked : other = key
  · simp [asked]
  · rw [if_neg asked, beq_eq_false_iff_ne.mpr asked]

/-- A lookup finds nothing for the key that is left out, and the same for others. -/
theorem lookup_filter {β : Type} (entries : List (String × β)) (uri other : String) :
    (entries.filter fun entry => entry.1 != uri).lookup other =
      if other = uri then none else entries.lookup other := by
  induction entries with
  | nil => simp
  | cons entry rest ih =>
      obtain ⟨key, value⟩ := entry
      rw [List.filter_cons, lookup_cons]
      by_cases removed : key = uri
      · subst removed
        rw [if_neg (by simp), ih]
        split <;> rfl
      · rw [if_pos (by simpa using removed), lookup_cons, ih]
        by_cases asked : other = key
        · rw [if_pos asked, if_neg (asked ▸ removed), if_pos asked]
        · rw [if_neg asked, if_neg asked]

/-- Cancelled tokens have been issued, and each ticket has a token of its own that is not
cancelled. -/
structure TicketsLive (tickets : List (String × Ticket)) (cancellation : Cancellation) : Prop where
  issued : ∀ token, cancellation.isCancelled token = true → token < cancellation.issued
  live : ∀ entry ∈ tickets, entry.2.token < cancellation.issued ∧
    cancellation.isCancelled entry.2.token = false
  distinct : ∀ first ∈ tickets, ∀ second ∈ tickets,
    first.2.token = second.2.token → first.1 = second.1

variable {tickets : List (String × Ticket)} {cancellation : Cancellation}

/-- A cancelled ticket is taken away, and no other is affected. -/
theorem TicketsLive.withdraw (live : TicketsLive tickets cancellation) {uri : String}
    {ticket : Ticket} (found : tickets.lookup uri = some ticket) :
    TicketsLive (tickets.filter fun entry => entry.1 != uri)
      (cancellation.cancel ticket.token) where
  issued token cancelled := by
    rw [cancellation.cancel_issued]
    rw [Cancellation.cancel_isCancelled, Bool.or_eq_true] at cancelled
    rcases cancelled with same | earlier
    · rw [beq_iff_eq.mp same]
      exact (live.live _ (Service.mem_of_lookup found)).1
    · exact live.issued token earlier
  live entry member := by
    obtain ⟨old, other⟩ := List.mem_filter.mp member
    obtain ⟨numbered, uncancelled⟩ := live.live entry old
    rw [cancellation.cancel_issued, Cancellation.cancel_isCancelled, uncancelled, Bool.or_false]
    refine ⟨numbered, ?_⟩
    rw [beq_eq_false_iff_ne]
    intro same
    have owner := live.distinct entry old _ (Service.mem_of_lookup found) same
    exact absurd owner (bne_iff_ne.mp other)
  distinct first firstMember second secondMember :=
    live.distinct first (List.mem_of_mem_filter firstMember) second
      (List.mem_of_mem_filter secondMember)

/-- A new ticket replaces that of its document. -/
theorem TicketsLive.issue (live : TicketsLive tickets cancellation) (uri : String) (version : Int) :
    TicketsLive ((uri, ⟨version, cancellation.issued⟩) ::
      tickets.filter fun entry => entry.1 != uri) cancellation.issue.2 where
  issued token cancelled := Nat.lt_succ_of_lt (live.issued token cancelled)
  live entry member := by
    rcases List.mem_cons.mp member with new | old
    · subst new
      refine ⟨Nat.lt_succ_self _, ?_⟩
      rw [Bool.eq_false_iff]
      exact fun cancelled => Nat.lt_irrefl _ (live.issued _ cancelled)
    · obtain ⟨numbered, uncancelled⟩ := live.live entry (List.mem_of_mem_filter old)
      exact ⟨Nat.lt_succ_of_lt numbered, uncancelled⟩
  distinct first firstMember second secondMember same := by
    rcases List.mem_cons.mp firstMember with firstNew | firstOld <;>
      rcases List.mem_cons.mp secondMember with secondNew | secondOld
    · rw [firstNew, secondNew]
    · have numbered := (live.live second (List.mem_of_mem_filter secondOld)).1
      rw [← same, firstNew] at numbered
      exact absurd numbered (Nat.lt_irrefl _)
    · have numbered := (live.live first (List.mem_of_mem_filter firstOld)).1
      rw [same, secondNew] at numbered
      exact absurd numbered (Nat.lt_irrefl _)
    · exact live.distinct first (List.mem_of_mem_filter firstOld) second
        (List.mem_of_mem_filter secondOld) same

/-- All tickets of the workspace are in force. -/
def Live (workspace : Workspace) : Prop :=
  TicketsLive workspace.tickets workspace.service.cancellation

variable {workspace : Workspace}

/-- Nothing but tickets and tokens has changed. -/
def Reticketed (before after : Workspace) : Prop :=
  ∃ tickets cancellation, before.service.cancellation.Grows cancellation ∧
    after = { before with tickets, service := { before.service with cancellation } }

/-- Cancelled searches leave the other tickets in force. -/
theorem cancelSearches_live (live : workspace.Live) (uri : String) :
    (workspace.cancelSearches uri).Live ∧ Reticketed workspace (workspace.cancelSearches uri) := by
  unfold cancelSearches
  cases found : workspace.tickets.lookup uri with
  | none => exact ⟨live, workspace.tickets, _, Cancellation.Grows.refl _, rfl⟩
  | some ticket =>
      exact ⟨live.withdraw found, _, _, workspace.service.cancellation.cancel_grows _, rfl⟩

/-- The token for a document is not cancelled. -/
theorem token_live (live : workspace.Live) (uri : String) (version : Int) :
    (workspace.token uri version).2.Live ∧
      Reticketed workspace (workspace.token uri version).2 ∧
      (workspace.token uri version).2.service.isCancelled (workspace.token uri version).1 = false := by
  unfold token
  cases found : workspace.tickets.lookup uri with
  | none =>
      have issued := TicketsLive.issue live uri version
      exact ⟨issued, ⟨_, _, workspace.service.cancellation.issue_grows, rfl⟩,
        (issued.live _ List.mem_cons_self).2⟩
  | some ticket =>
      dsimp only
      split
      · have issued := (live.withdraw found).issue uri version
        rw [List.filter_filter] at issued
        simp only [Bool.and_self] at issued
        refine ⟨?_, ⟨_, _, (workspace.service.cancellation.cancel_grows ticket.token).trans
          (Cancellation.issue_grows _), rfl⟩, ?_⟩
        · exact issued
        · exact (issued.live _ List.mem_cons_self).2
      · exact ⟨live, ⟨_, _, Cancellation.Grows.refl _, rfl⟩,
          (live.live _ (Service.mem_of_lookup found)).2⟩

end Workspace

end DocBlocks
