import RobotSession.Session.Shared

/-!
# Inboxes in order

An inbox has a flag that is read without its lock, and two phases that it goes through
once: calls are accepted after a robot is bound and until the inbox is closed. The
operations keep all of this together, in whatever order they come.

* `Inbox.Sound` — an inbox in order.
* `Inbox.post_cases`, `Inbox.pop_queue` — what a post and a look do to the queue.
* `Shared.inbox_setInbox` — a thread changes the inbox it has the handle of, and no other.
-/

namespace RobotSession

open Lua

/-! ### Inboxes -/

/-- **An inbox in order.** -/
structure Inbox.Sound (b : Inbox) : Prop where
  /-- The flag that is read without the lock tells whether calls are queued. -/
  pending : b.isPending = !b.queue.isEmpty
  /-- Calls are queued for a robot. -/
  bound : b.queue ≠ [] → b.isBound = true
  /-- Nothing is queued once the inbox is closed. -/
  closed : b.isClosed = true → b.queue = []

namespace Inbox.Sound

variable {b : Inbox}

/-- A new inbox is sound. -/
theorem new : Inbox.Sound {} where
  pending := rfl
  bound := fun h => absurd rfl h
  closed := nofun

/-- A call is queued only where a robot is bound, and not behind a close. -/
theorem post (h : Sound b) (i : Invocation) : Sound (b.post i).2 := by
  unfold Inbox.post
  -- a call that is refused changes nothing
  split
  · exact h
  · rename_i hclosed
    split
    · exact h
    · rename_i hbound
      refine ⟨?_, fun _ => ?_, fun hc => absurd hc hclosed⟩
      · change true = !(b.queue ++ [i]).isEmpty
        cases b.queue with
        | nil => rfl
        | cons j rest => rfl
      · rw [Bool.not_eq_true, Bool.not_eq_false'] at hbound
        exact hbound

/-- A bound inbox may have calls in it. -/
theorem bind (h : Sound b) : Sound b.bind :=
  ⟨h.pending, fun _ => rfl, h.closed⟩

/-- A closed inbox is empty. -/
theorem close (b : Inbox) : Sound b.close :=
  ⟨rfl, fun h => absurd rfl h, fun _ => rfl⟩

/-- What is left of a queue is bound to the same robot. -/
theorem pop (h : Sound b) : Sound b.pop.2 := by
  unfold Inbox.pop
  split
  · rename_i hqueue
    exact ⟨by rw [hqueue]; rfl, h.bound, h.closed⟩
  · rename_i i rest hqueue
    have hne : b.queue ≠ [] := by
      rw [hqueue]
      exact List.cons_ne_nil _ _
    refine ⟨?_, fun _ => h.bound hne, fun hc => absurd (h.closed hc) hne⟩
    -- the flag was set, and stays so if another call is left
    have hpending := h.pending
    rw [hqueue] at hpending
    change (b.isPending && !rest.isEmpty) = _
    rw [hpending]
    rfl

end Inbox.Sound

namespace Inbox

/-- A call is accepted, and then it is the last one that is queued, or nothing changes. -/
theorem post_cases (b : Inbox) (i : Invocation) :
    (b.post i = (.queued, { b with queue := b.queue ++ [i], isPending := true })
        ∧ b.isClosed = false ∧ b.isBound = true)
      ∨ ((b.post i).1 ≠ .queued ∧ (b.post i).2 = b) := by
  unfold post
  -- the tests come in the order of `post`: a closed inbox refuses before an unbound one does
  split
  · exact .inr ⟨nofun, rfl⟩
  · rename_i hclosed
    split
    · exact .inr ⟨nofun, rfl⟩
    · rename_i hbound
      rw [Bool.not_eq_true] at hclosed
      rw [Bool.not_eq_true, Bool.not_eq_false'] at hbound
      exact .inl ⟨rfl, hclosed, hbound⟩

/-- The call that is taken is the oldest one. -/
theorem pop_queue (b : Inbox) : b.pop.1.toList ++ b.pop.2.queue = b.queue := by
  unfold pop
  split
  · rfl
  · rename_i i rest hqueue
    rw [hqueue]
    rfl

/-- The oldest call is taken. -/
theorem pop_head (b : Inbox) : b.pop.1 = b.queue.head? := by
  unfold pop
  split
  all_goals
    rename_i hqueue
    rw [hqueue]
    rfl

/-- Who waits and does not go on has nothing to wait for in the queue. -/
theorem queue_of_not_ready {b : Inbox} (h : b.isReady = false) : b.queue = [] := by
  unfold isReady at h
  rw [Bool.or_eq_false_iff, Bool.not_eq_false'] at h
  exact List.isEmpty_iff.mp h.1

/-- Taking a call does not close an inbox. -/
theorem isClosed_pop (b : Inbox) : b.pop.2.isClosed = b.isClosed := by
  unfold pop
  split
  · rfl
  · rfl

end Inbox

namespace Shared

/-- An inbox that is put in its place is there. -/
theorem inbox_setInbox {s : Shared} {id : Nat} (hid : id < s.inboxes.size) (b : Inbox) :
    (s.setInbox id b).inbox id = b := by
  unfold inbox setInbox
  rw [Array.getD_eq_getD_getElem?, Array.set!_eq_setIfInBounds, Array.getElem?_setIfInBounds_self,
    if_pos hid]
  rfl

/-- The other inboxes stay. -/
theorem inbox_setInbox_of_ne {s : Shared} {id other : Nat} (hne : other ≠ id) (b : Inbox) :
    (s.setInbox id b).inbox other = s.inbox other := by
  unfold inbox setInbox
  rw [Array.getD_eq_getD_getElem?, Array.getD_eq_getD_getElem?, Array.set!_eq_setIfInBounds,
    Array.getElem?_setIfInBounds_ne hne.symm]

/-- There are as many as before. -/
@[simp]
theorem size_setInbox (s : Shared) (id : Nat) (b : Inbox) :
    (s.setInbox id b).inboxes.size = s.inboxes.size := by
  unfold setInbox
  rw [Array.set!_eq_setIfInBounds, Array.size_setIfInBounds]

end Shared
end RobotSession
