import RobotSession.Proofs.Engine.Inbox
import RobotSession.Proofs.Engine.Life

/-!
# What a turn leaves alone

A turn of an engine is one step of the thread to which the engine belongs. It may take a
call out of the engine's own inbox and it may wait for the clock. All else that the threads
share stays as it is (`Engine.turn_alike`), and so it does for what other threads do
meanwhile: they post calls, but they neither bind nor close an inbox, and they leave the
slot to the worker.

* `Shared.Stable`, `Shared.Alike` — what all but the worker leave alone.
* `Engine.turn_cases` — a turn ends a call of the task, or the task stays the same.
-/

namespace RobotSession

open Lua

/-! ### What is left alone -/

/-- What no inbox has to do with, and which inboxes are closed. -/
structure Shared.Stable (s s' : Shared) : Prop where
  slot : s'.slot = s.slot
  diagnostics : s'.host.diagnostics = s.host.diagnostics
  fault : s'.engineFault = s.engineFault
  panics : s'.panicsOnReport = s.panicsOnReport
  size : s.inboxes.size ≤ s'.inboxes.size
  closed : ∀ id, (s'.inbox id).isClosed = (s.inbox id).isClosed

/-- **What all but the worker leave alone**: the slot, what the host has been told, and
whether an inbox is bound or closed. -/
structure Shared.Alike (s s' : Shared) : Prop extends Shared.Stable s s' where
  bound : ∀ id, (s'.inbox id).isBound = (s.inbox id).isBound

namespace Shared

/-- An inbox that is changed, or any other one. -/
theorem inbox_setInbox_cases (s : Shared) (id other : Nat) (b : Inbox) :
    (s.setInbox id b).inbox other = b ∧ other = id
      ∨ (s.setInbox id b).inbox other = s.inbox other := by
  by_cases hother : other = id
  · by_cases hid : id < s.inboxes.size
    · rw [hother, inbox_setInbox hid]
      exact .inl ⟨rfl, rfl⟩
    · refine .inr ?_
      unfold inbox setInbox
      rw [Array.set!_eq_setIfInBounds, Array.setIfInBounds_eq_of_size_le (Nat.le_of_not_lt hid)]
  · exact .inr (inbox_setInbox_of_ne hother b)

theorem Stable.setInbox (s : Shared) (id : Nat) {b : Inbox}
    (hclosed : b.isClosed = (s.inbox id).isClosed) : Stable s (s.setInbox id b) := by
  refine ⟨rfl, rfl, rfl, rfl, Nat.le_of_eq (size_setInbox ..).symm, fun other => ?_⟩
  rcases inbox_setInbox_cases s id other b with ⟨hb, rfl⟩ | hsame
  · rw [hb, hclosed]
  · rw [hsame]

namespace Alike

theorem refl (s : Shared) : Alike s s :=
  ⟨⟨rfl, rfl, rfl, rfl, Nat.le_refl _, fun _ => rfl⟩, fun _ => rfl⟩

/-- The clock does not matter. -/
theorem clock (s : Shared) (clock : Nat) : Alike s { s with clock } :=
  ⟨⟨rfl, rfl, rfl, rfl, Nat.le_refl _, fun _ => rfl⟩, fun _ => rfl⟩

/-- The queue of an inbox does not matter. -/
theorem setInbox (s : Shared) (id : Nat) {b : Inbox} (hbound : b.isBound = (s.inbox id).isBound)
    (hclosed : b.isClosed = (s.inbox id).isClosed) : Alike s (s.setInbox id b) := by
  refine ⟨.setInbox s id hclosed, fun other => ?_⟩
  rcases inbox_setInbox_cases s id other b with ⟨hb, rfl⟩ | hsame
  · rw [hb, hbound]
  · rw [hsame]

/-- Any thread may post a call through any handle. -/
theorem post (s : Shared) (id : Nat) (i : Invocation) : Alike s (s.post id i).2 := by
  change Alike s (s.setInbox id ((s.inbox id).post i).2)
  rcases (s.inbox id).post_cases i with ⟨hpost, -⟩ | ⟨-, hsame⟩
  · rw [hpost]
    exact setInbox s id rfl rfl
  · rw [hsame]
    exact setInbox s id rfl rfl

theorem pop (s : Shared) (id : Nat) : Alike s (s.setInbox id (s.inbox id).pop.2) := by
  refine setInbox s id ?_ (s.inbox id).isClosed_pop
  unfold Inbox.pop
  split
  · rfl
  · rfl

/-- A new inbox is as one that is not there. -/
theorem newInbox (s : Shared) : Alike s s.newInbox.2 := by
  -- a number under which there is no inbox yet reads as an empty one
  have hinbox : ∀ id, s.newInbox.2.inbox id = s.inbox id := by
    intro id
    unfold Shared.newInbox Shared.inbox
    rw [Array.getD_eq_getD_getElem?, Array.getD_eq_getD_getElem?, Array.getElem?_push]
    split
    · rename_i hid
      rw [hid, Array.getElem?_eq_none (Nat.le_refl _)]
      rfl
    · rfl
  refine ⟨⟨rfl, rfl, rfl, rfl, ?_, fun id => ?_⟩, fun id => ?_⟩
  · change _ ≤ (s.inboxes.push {}).size
    rw [Array.size_push]
    exact Nat.le_succ _
  · rw [hinbox]
  · rw [hinbox]

end Alike
end Shared

/-! ### Turns -/

namespace Engine

variable {e e' : Engine} {s s' : Shared} {t : Turn} {signals : List Signal}

/-- A request that is served completes no task, and signals no call of the host. -/
theorem serve_quiet {q : Ask} (h : e.serve s q = (t, e', s', signals)) :
    (∀ c, t ≠ .completed c) ∧ ∀ c, Signal.host c ∉ signals := by
  -- answers are never completions, and the signals they give are not meant for the host
  cases q with
  | wait deadline =>
    unfold serve at h
    dsimp only at h
    split at h
    · cases h
      exact ⟨nofun, fun c => List.not_mem_nil⟩
    · cases h
      exact ⟨nofun, fun c => List.not_mem_nil⟩
  | failed | output =>
    cases h
    exact ⟨nofun, fun c hc => nomatch List.mem_singleton.mp hc⟩
  | _ =>
    cases h
    exact ⟨nofun, fun c => List.not_mem_nil⟩

/-- **A turn** ends a call of the task, or leaves the task as it is. -/
theorem turn_cases (h : e.turn s = (t, e', s', signals)) :
    (∃ result, (e.machine.advance quantum).mode = .ended result
        ∧ ((∃ c, t = .completed c
            ∧ ({ e with machine := e.machine.advance quantum }).settle result = (some c, e'))
          ∨ t = .going
            ∧ ({ e with machine := e.machine.advance quantum }).settle result = (none, e'))
        ∧ s' = s ∧ signals = [])
      ∨ ((∀ result, (e.machine.advance quantum).mode ≠ .ended result) ∧ (∀ c, t ≠ .completed c)
        ∧ e'.task = e.task ∧ e'.id = e.id ∧ s.Alike s' ∧ ∀ c, Signal.host c ∉ signals) := by
  unfold turn at h
  dsimp only at h
  split at h
  · rename_i w hmode
    refine .inr ⟨fun result hended => ?_, ?_⟩
    · rw [hmode] at hended
      cases hended
    · obtain ⟨ht, hsignals⟩ := serve_quiet h
      -- to take a call changes the queue, and every other request the clock at most
      by_cases htake : w.question = .take
      · rw [htake] at h
        cases h
        exact ⟨ht, rfl, rfl, .pop s e.id, hsignals⟩
      · obtain ⟨he, hsame⟩ := serve_cases htake h
        rw [hsame]
        refine ⟨ht, ?_, ?_, .clock s _, hsignals⟩
        · rcases he with rfl | ⟨a, rfl, -⟩
          · rfl
          · rfl
        · rcases he with rfl | ⟨a, rfl, -⟩
          · rfl
          · rfl
  · rename_i result hmode
    refine .inl ⟨result, hmode, ?_⟩
    split at h
    · cases h
      exact ⟨.inl ⟨_, rfl, ‹_›⟩, rfl, rfl⟩
    · cases h
      exact ⟨.inr ⟨rfl, ‹_›⟩, rfl, rfl⟩
  · -- the quantum is used up before the interpreter needs anything
    rename_i hask hended
    cases h
    exact .inr ⟨hended, nofun, rfl, rfl, .clock s _, fun c => List.not_mem_nil⟩

/-- **What a turn leaves alone.** -/
theorem turn_alike (h : e.turn s = (t, e', s', signals)) :
    e'.id = e.id ∧ s.Alike s' ∧ ∀ c, Signal.host c ∉ signals := by
  rcases turn_cases h with ⟨result, hmode, hsettle, rfl, rfl⟩ | ⟨-, -, -, hid, halike, hsignals⟩
  · refine ⟨?_, .refl _, fun c => List.not_mem_nil⟩
    have hgoes := (Rests.of_ended (e := { e with machine := e.machine.advance quantum })
      hmode).settle result
    rcases hsettle with ⟨c, -, hsettle⟩ | ⟨-, hsettle⟩
    · rw [hsettle] at hgoes
      exact hgoes.id_eq
    · rw [hsettle] at hgoes
      exact hgoes.id_eq
  · exact ⟨hid, halike, hsignals⟩

end Engine
end RobotSession
