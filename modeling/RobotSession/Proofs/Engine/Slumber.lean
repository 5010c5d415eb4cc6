import RobotSession.Proofs.Engine.Rounds

/-!
# Sleeping and posting

A script that sleeps looks after its inbox in three steps, and other threads may post between any
two of them: the flag is read without the lock; then the clock is read; then the lock is taken, and
the thread falls asleep if nothing is queued. Who sleeps is woken by a post, at the deadline, or for
no reason, and goes on as soon as the lock is free.

A post takes several steps, too. Under the lock the call is queued, the flag is set, and whoever
sleeps is woken; only then is the lock given back. So the flag may be clear although a call is
queued already, but never the other way round (`Slumber.Sound`); and if a call is queued while the
thread sleeps, the post that has queued it has still to ring (`Slumber.Attentive`).

* `Slumber`, `Slumber.Move` — an engine whose thread sleeps, and the moves.
* `Slumber.Sound` — what the flag, the queue and the lock say of each other.
* `Slumber.Sound.move`, `Slumber.sound_of_run` — so it is in every interleaving.
* `Slumber.Attentive` — no wake-up is missed.
-/

namespace RobotSession

open Lua

/-! ### States and moves -/

/-- **How far a post has come**, which holds the lock of the inbox. -/
inductive Posting
  /-- The call is queued. -/
  | pushed
  /-- The flag is set. -/
  | flagged
  /-- Whoever slept has been woken. -/
  | rung
  deriving DecidableEq

/-- **Where the thread of an engine stands.** -/
inductive Rest
  | awake
  /-- It sleeps, and has given the lock back. -/
  | asleep
  /-- It has been woken, and needs the lock. -/
  | woken
  deriving DecidableEq

/-- **An engine whose thread sleeps** when its script does. -/
structure Slumber where
  engine : Engine
  shared : Shared
  rest : Rest := .awake
  /-- The post that holds the lock. -/
  posting : Option Posting := none
  rounds : List Round := []

/-- **What happens** to an engine whose thread sleeps. -/
inductive SlumberDeed
  /-- The engine goes on. -/
  | own (l : Deed)
  /-- A sleep looks into the queue, and falls asleep if there is nothing in it. -/
  | looks
  /-- Who sleeps wakes up: the deadline has come, or there is no reason. -/
  | wakes
  | resumes
  /-- A post is refused. -/
  | refused (i : Invocation) (answer : Delivery)
  /-- A post queues its call. -/
  | push (i : Invocation)
  /-- A post sets the flag. -/
  | flag
  /-- A post wakes who sleeps. -/
  | ring
  /-- A post gives the lock back. -/
  | release
  | elsewhere

/-- Whether the engine's own thread moves. -/
def Deed.isOwn : Deed → Bool
  | .post .. | .elsewhere => false
  | _ => true

/-- Whether a move needs the lock of the inbox. -/
def Deed.locks : Deed → Bool
  | .take .. | .bind | .close _ => true
  | _ => false

namespace Slumber

/-- The inbox of the engine. -/
def inbox (x : Slumber) : Inbox :=
  x.shared.inbox x.engine.id

/-- The inbox is changed by somebody. -/
def setInbox (x : Slumber) (b : Inbox) : Slumber :=
  { x with shared := x.shared.setInbox x.engine.id b }

/-- What the script waits for. -/
def mode (x : Slumber) : Mode :=
  x.engine.machine.mode

/-- The sleep has been told to go on. -/
def goOn (x : Slumber) : Slumber :=
  { x with engine := x.engine.answer .done, rest := .awake }

/-- **The moves** of an engine whose thread sleeps, and of the threads around it. -/
inductive Move : Slumber → SlumberDeed → Slumber → Prop
  | own {x : Slumber} {l : Deed} {e' : Engine} {s' : Shared} (hawake : x.rest = .awake)
      (hwaits : ∀ deadline, x.mode ≠ .ask (.native (.sleepWait deadline)))
      (hown : l.isOwn = true) (hlock : l.locks = true → x.posting = none)
      (h : Engine.Move (x.engine, x.shared) l (e', s')) :
      Move x (.own l)
        { x with
          engine := e'
          shared := s'
          rounds := Engine.rounds (x.engine, x.shared) l x.rounds }
  | finds {x : Slumber} {deadline : Nat} (hawake : x.rest = .awake) (hlock : x.posting = none)
      (hmode : x.mode = .ask (.native (.sleepWait deadline))) (hready : x.inbox.isReady = true) :
      Move x .looks x.goOn
  | sleeps {x : Slumber} {deadline : Nat} (hawake : x.rest = .awake) (hlock : x.posting = none)
      (hmode : x.mode = .ask (.native (.sleepWait deadline))) (hready : x.inbox.isReady = false) :
      Move x .looks { x with rest := .asleep }
  | wakes {x : Slumber} (hasleep : x.rest = .asleep) : Move x .wakes { x with rest := .woken }
  | resumes {x : Slumber} (hwoken : x.rest = .woken) (hlock : x.posting = none) :
      Move x .resumes x.goOn
  | refused {x : Slumber} (i : Invocation) (hlock : x.posting = none)
      (h : (x.inbox.post i).1 ≠ .queued) : Move x (.refused i (x.inbox.post i).1) x
  | push {x : Slumber} (i : Invocation) (hlock : x.posting = none)
      (h : (x.inbox.post i).1 = .queued) :
      Move x (.push i)
        { x.setInbox { (x.inbox.post i).2 with isPending := x.inbox.isPending } with
          posting := some .pushed }
  | flag {x : Slumber} (h : x.posting = some .pushed) :
      Move x .flag
        { x.setInbox { x.inbox with isPending := true } with posting := some .flagged }
  | ring {x : Slumber} (h : x.posting = some .flagged) :
      Move x .ring
        { x with posting := some .rung, rest := if x.rest = .asleep then .woken else x.rest }
  | release {x : Slumber} (h : x.posting = some .rung) : Move x .release { x with posting := none }
  | elsewhere {x : Slumber} {s' : Shared} (hinbox : s'.inbox x.engine.id = x.inbox)
      (hsize : x.shared.inboxes.size ≤ s'.inboxes.size) :
      Move x .elsewhere { x with shared := s' }

variable {x y : Slumber} {l : SlumberDeed} {happened : List SlumberDeed} {b : Inbox}

/-- The calls that have been queued, in order. -/
def queued (happened : List SlumberDeed) : List Invocation :=
  happened.filterMap fun
    | .push i => some i
    | _ => none

theorem queued_append (happened : List SlumberDeed) (l : SlumberDeed) :
    queued (happened ++ [l]) = queued happened ++ queued [l] :=
  List.filterMap_append

/-! ### The flag, the queue and the lock -/

/-- **What the flag, the queue and the lock say of each other.** -/
structure Sound (x : Slumber) : Prop where
  nested : x.engine.Nested x.rounds
  inbox_lt : x.engine.id < x.shared.inboxes.size
  /-- The flag tells whether calls are queued, unless a call has just been queued. -/
  inbox : x.posting ≠ some .pushed → x.inbox.Sound
  pushed : x.posting = some .pushed →
    x.inbox.queue ≠ [] ∧ x.inbox.isBound = true ∧ x.inbox.isClosed = false
  /-- Who sleeps found the queue empty, or will be woken by the post that holds the lock. -/
  asleep : x.rest = .asleep →
    x.posting = none ∧ x.inbox.queue = []
      ∨ x.posting = some .pushed ∨ x.posting = some .flagged
  waits : x.rest ≠ .awake → ∃ deadline, x.mode = .ask (.native (.sleepWait deadline))

@[simp]
theorem inbox_setInbox (h : x.Sound) (b : Inbox) : (x.setInbox b).inbox = b :=
  Shared.inbox_setInbox h.inbox_lt b

/-- A call that is accepted is queued, and the flag is set after that. -/
theorem post_of_queued {i : Invocation} (h : (b.post i).1 = .queued) :
    b.post i = (.queued, { b with queue := b.queue ++ [i], isPending := true })
      ∧ b.isClosed = false ∧ b.isBound = true :=
  (b.post_cases i).resolve_right fun hrefused => hrefused.1 h

namespace Sound

/-- **A set flag is no lie**: a call is queued. -/
theorem queue_ne_nil (h : x.Sound) (hpending : x.inbox.isPending = true) : x.inbox.queue ≠ [] := by
  by_cases hposting : x.posting = some .pushed
  · exact (h.pushed hposting).1
  · intro hqueue
    have hclear := (h.inbox hposting).pending
    rw [hqueue, hpending] at hclear
    cases hclear

/-- A clear flag may be late by the one post that holds the lock. -/
theorem queue_eq_nil (h : x.Sound) (hpending : x.inbox.isPending = false) :
    x.inbox.queue = [] ∨ x.posting = some .pushed := by
  by_cases hposting : x.posting = some .pushed
  · exact .inr hposting
  · have hclear := (h.inbox hposting).pending
    rw [hpending, eq_comm, Bool.not_eq_false'] at hclear
    exact .inl (List.isEmpty_iff.mp hclear)

/-- The engine is changed, and what the inbox says of calls is not. -/
theorem of_inbox_eq (h : x.Sound) {e' : Engine} {s' : Shared} {rs : List Round} {rest : Rest}
    (hnested : e'.Nested rs) (hid : e'.id = x.engine.id) (hinbox : s'.inbox e'.id = x.inbox)
    (hsize : x.shared.inboxes.size ≤ s'.inboxes.size) (hrest : rest = .asleep → x.rest = .asleep)
    (hwaits : rest ≠ .awake → ∃ deadline, e'.machine.mode = .ask (.native (.sleepWait deadline))) :
    Sound ⟨e', s', rest, x.posting, rs⟩ := by
  -- the inbox is read at the new engine's id, which is the old one
  have hsame : (⟨e', s', rest, x.posting, rs⟩ : Slumber).inbox = x.inbox := hinbox
  refine ⟨hnested, ?_, ?_, ?_, ?_, hwaits⟩
  · change e'.id < s'.inboxes.size
    rw [hid]
    exact Nat.lt_of_lt_of_le h.inbox_lt hsize
  · rw [hsame]
    exact h.inbox
  · rw [hsame]
    exact h.pushed
  · rw [hsame]
    exact fun hasleep => h.asleep (hrest hasleep)

/-- The engine changes its inbox, while it holds the lock itself. -/
theorem of_locked (h : x.Sound) {e' : Engine} {rs : List Round} (hnested : e'.Nested rs)
    (hid : e'.id = x.engine.id) (hlock : x.posting = none) (hawake : x.rest = .awake)
    (hb : b.Sound) :
    Sound ⟨e', x.shared.setInbox x.engine.id b, x.rest, x.posting, rs⟩ := by
  -- under the lock nobody posts and nobody sleeps, so that only the queue is in question
  have hsame : (⟨e', x.shared.setInbox x.engine.id b, x.rest, x.posting, rs⟩ : Slumber).inbox
      = b := by
    change (x.shared.setInbox x.engine.id b).inbox e'.id = b
    rw [hid]
    exact Shared.inbox_setInbox h.inbox_lt b
  refine ⟨hnested, ?_, fun _ => ?_, fun hposting => ?_, fun hasleep => ?_, fun hrest => ?_⟩
  · change e'.id < (x.shared.setInbox x.engine.id b).inboxes.size
    rw [hid, Shared.size_setInbox]
    exact h.inbox_lt
  · rw [hsame]
    exact hb
  · exact nomatch hlock.symm.trans hposting
  · exact nomatch hawake.symm.trans hasleep
  · exact absurd hawake hrest

/-- The engine's own moves. -/
theorem own (h : x.Sound) {l : Deed} {e' : Engine} {s' : Shared} (hawake : x.rest = .awake)
    (hown : l.isOwn = true) (hlock : l.locks = true → x.posting = none)
    (hmove : Engine.Move (x.engine, x.shared) l (e', s')) :
    Sound ⟨e', s', x.rest, x.posting, Engine.rounds (x.engine, x.shared) l x.rounds⟩ := by
  have hnested : e'.Nested (Engine.rounds (x.engine, x.shared) l x.rounds) := h.nested.move hmove
  have hid : e'.id = x.engine.id := (h.nested.engine.move hmove).2
  have hawake' : ∀ {P : Prop}, x.rest ≠ .awake → P := fun hrest => absurd hawake hrest
  -- a queue is in order unless a posting is under way, which the lock excludes
  have hunlocked : l.locks = true → x.inbox.Sound := fun hl =>
    h.inbox (by rw [hlock hl]; exact nofun)
  obtain ⟨e, s, rest, posting, rs⟩ := x
  cases hmove with
  | step hgo => exact h.of_inbox_eq hnested hid rfl (Nat.le_refl _) id hawake'
  | serve hmode htake hserve =>
    obtain ⟨-, hs⟩ := Engine.serve_cases htake hserve
    -- answering a question may move the clock, but no queue
    have hinboxes : s'.inboxes = s.inboxes := (congrArg Shared.inboxes hs).trans rfl
    have hinbox : s'.inbox e'.id = s.inbox e.id := by
      unfold Shared.inbox
      rw [hid, hinboxes]
    have hsize : s.inboxes.size ≤ s'.inboxes.size :=
      Nat.le_of_eq (congrArg Array.size hinboxes).symm
    exact h.of_inbox_eq hnested hid hinbox hsize id hawake'
  | logged hmode hlog panic => exact h.of_inbox_eq hnested hid rfl (Nat.le_refl _) id hawake'
  | settle hmode =>
    exact h.of_inbox_eq hnested hid (congrArg s.inbox hid) (Nat.le_refl _) id hawake'
  | begin_ hidle hb =>
    exact h.of_inbox_eq hnested hid (congrArg s.inbox hid) (Nat.le_refl _) id hawake'
  | take hmode => exact h.of_locked hnested hid (hlock rfl) hawake (hunlocked rfl).pop
  | bind r => exact h.of_locked hnested hid (hlock rfl) hawake (hunlocked rfl).bind
  | close hidle => exact h.of_locked hnested hid (hlock rfl) hawake (Inbox.Sound.close _)
  | post i => cases hown
  | elsewhere => cases hown

/-- A sleep that is told to go on. -/
theorem goOn {deadline : Nat} (h : x.Sound) (hmode : x.mode = .ask (.native (.sleepWait deadline))) :
    x.goOn.Sound := by
  have hnested : (x.engine.answer .done).Nested x.rounds :=
    h.nested.answer hmode nofun fun hopens => nomatch hopens
  exact h.of_inbox_eq hnested rfl rfl (Nat.le_refl _) nofun (absurd rfl)

/-- **Every move** keeps what the flag, the queue and the lock say of each other. -/
theorem move (h : x.Sound) (hmove : Move x l y) : y.Sound := by
  cases hmove with
  | own hawake hwaits hown hlock hmove => exact h.own hawake hown hlock hmove
  | finds hawake hlock hmode hready => exact h.goOn hmode
  | sleeps hawake hlock hmode hready =>
    exact ⟨h.nested, h.inbox_lt, h.inbox, h.pushed,
      fun _ => .inl ⟨hlock, Inbox.queue_of_not_ready hready⟩, fun _ => ⟨_, hmode⟩⟩
  | wakes hasleep =>
    exact ⟨h.nested, h.inbox_lt, h.inbox, h.pushed, nofun,
      fun _ => h.waits (by rw [hasleep]; exact nofun)⟩
  | resumes hwoken hlock =>
    obtain ⟨deadline, hmode⟩ := h.waits (by rw [hwoken]; exact nofun)
    exact h.goOn hmode
  | refused i hlock hrefused => exact h
  | push i hlock hqueued =>
    obtain ⟨hpost, hopen, hbound⟩ := post_of_queued hqueued
    have hinbox := inbox_setInbox h { (x.inbox.post i).2 with isPending := x.inbox.isPending }
    refine ⟨h.nested, ?_, fun hne => absurd rfl hne, fun _ => ?_, fun _ => .inr (.inl rfl), h.waits⟩
    · exact (Shared.size_setInbox ..).symm ▸ h.inbox_lt
    · change (x.setInbox _).inbox.queue ≠ [] ∧ (x.setInbox _).inbox.isBound = true
        ∧ (x.setInbox _).inbox.isClosed = false
      rw [hinbox, hpost]
      exact ⟨List.append_ne_nil_of_right_ne_nil _ (List.cons_ne_nil _ _), hbound, hopen⟩
  | flag hposting =>
    obtain ⟨hqueue, hbound, hopen⟩ := h.pushed hposting
    have hinbox := inbox_setInbox h { x.inbox with isPending := true }
    refine ⟨h.nested, ?_, fun _ => ?_, nofun, fun _ => .inr (.inr rfl), h.waits⟩
    · exact (Shared.size_setInbox ..).symm ▸ h.inbox_lt
    · change (x.setInbox _).inbox.Sound
      rw [hinbox]
      refine ⟨?_, fun _ => hbound, fun hclosed => nomatch hopen.symm.trans hclosed⟩
      cases hall : x.inbox.queue with
      | nil => exact absurd hall hqueue
      | cons i rest => rfl
  | ring hposting =>
    refine ⟨h.nested, h.inbox_lt, fun _ => h.inbox (by rw [hposting]; exact nofun), nofun,
      fun hasleep => ?_, fun hrest => ?_⟩
    · -- nobody sleeps through the ring
      dsimp only at hasleep
      split at hasleep
      · cases hasleep
      · exact absurd hasleep ‹_›
    · dsimp only at hrest
      split at hrest
      · rename_i hasleep
        exact h.waits (by rw [hasleep]; exact nofun)
      · exact h.waits hrest
  | release hposting =>
    refine ⟨h.nested, h.inbox_lt, fun _ => h.inbox (by rw [hposting]; exact nofun), nofun,
      fun hasleep => ?_, h.waits⟩
    rcases h.asleep hasleep with ⟨hfree, -⟩ | hpushed | hflagged
    · exact nomatch hposting.symm.trans hfree
    · exact nomatch hposting.symm.trans hpushed
    · exact nomatch hposting.symm.trans hflagged
  | elsewhere hinbox hsize => exact h.of_inbox_eq h.nested rfl hinbox hsize id h.waits

end Sound

/-- **In every interleaving** the flag, the queue and the lock say the same. -/
theorem sound_of_run {s₀ s₁ : Shared} {interval : Nat} {e₀ : Engine} {signals : List Signal}
    (hopen : Engine.openIn s₀ interval = (e₀, s₁, signals))
    (hrun : Run Move { engine := e₀, shared := s₁ } happened x) : x.Sound := by
  obtain ⟨hsound, hlt, hinbox⟩ := Engine.openIn_sound hopen
  refine hrun.invariant Sound.move
    ⟨.openIn hopen, hlt, fun _ => ?_, nofun, nofun, fun hrest => absurd rfl hrest⟩
  change (s₁.inbox e₀.id).Sound
  rw [hinbox]
  exact Inbox.Sound.new

/-! ### No wake-up is missed -/

/-- **Nothing that is queued is slept through.** -/
structure Attentive (x : Slumber) : Prop where
  /-- If the thread sleeps while a call is queued, the post that holds the lock has still to ring,
  and does so next, or after it has set the flag. -/
  rings : x.rest = .asleep → x.inbox.queue ≠ [] →
    ∃ happened y, (happened = [.ring] ∨ happened = [.flag, .ring]) ∧ Run Move x happened y
      ∧ y.rest = .woken
  /-- A look at a queue with calls in it does not fall asleep. -/
  looks : ∀ y, x.inbox.queue ≠ [] → Move x .looks y → y.rest = .awake
  /-- Who has been woken goes on as soon as the lock is free, and reads the flag again. -/
  goesOn : x.rest = .woken → x.posting = none →
    ∃ y deadline, Move x .resumes y ∧ y.mode = .ask (.native (.sleepCheck deadline))

/-- A sleep that is told to go on reads the flag again. -/
theorem mode_goOn {deadline : Nat} (hmode : x.mode = .ask (.native (.sleepWait deadline))) :
    x.goOn.mode = .ask (.native (.sleepCheck deadline)) := by
  obtain ⟨⟨id, machine, task, openedAt⟩, shared, rest, posting, rounds⟩ := x
  obtain ⟨heap, threads, current, frames, depth, mode, interval, owner, ticket, robot⟩ := machine
  change mode = _ at hmode
  subst hmode
  rfl

theorem Sound.attentive (h : x.Sound) : x.Attentive where
  rings := by
    intro hasleep hqueue
    -- once the flag is raised, ringing wakes the sleeper
    have hring : ∀ {y : Slumber}, y.rest = .asleep → y.posting = some .flagged →
        ∃ z, Move y .ring z ∧ z.rest = .woken := fun hrest hposting =>
      ⟨_, .ring hposting, if_pos hrest⟩
    -- asleep with a call in the queue, so that a posting is under way, in one of its two stages
    rcases h.asleep hasleep with ⟨-, hempty⟩ | hpushed | hflagged
    · exact absurd hempty hqueue
    · obtain ⟨z, hz, hwoken⟩ := hring (y :=
        { x.setInbox { x.inbox with isPending := true } with posting := some .flagged }) hasleep rfl
      exact ⟨_, z, .inr rfl, .tail (.single (.flag hpushed)) hz, hwoken⟩
    · obtain ⟨z, hz, hwoken⟩ := hring hasleep hflagged
      exact ⟨_, z, .inl rfl, .single hz, hwoken⟩
  looks := by
    intro y hqueue hmove
    cases hmove with
    | finds hawake hlock hmode hready => rfl
    | sleeps hawake hlock hmode hready => exact absurd (Inbox.queue_of_not_ready hready) hqueue
  goesOn := by
    intro hwoken hlock
    obtain ⟨deadline, hmode⟩ := h.waits (by rw [hwoken]; exact nofun)
    exact ⟨_, deadline, .resumes hwoken hlock, mode_goOn hmode⟩

end Slumber
end RobotSession
