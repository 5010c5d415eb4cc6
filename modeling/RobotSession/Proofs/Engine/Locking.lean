import RobotSession.Proofs.Engine.Slumber

/-!
# An inbox under its lock

Any number of threads use an inbox at once. An operation takes the lock of the inbox, changes the
inbox piece by piece, and gives the lock back; only the flag is read without it. Between two pieces
of an operation the flag and the queue may disagree, and an inbox may be closed with calls in it.
Whenever nobody has the lock, what has been done is what the operations do one after the other, each
at once, in the order in which they had the lock (`Guarded.atomic_of_run`). So the inbox is in order
then, and the flag, the queue and a wait say the same (`Guarded.represents_of_run`).

* `Inbox.Operation`, `Inbox.apply` — the operations, and what each of them does at once.
* `Inbox.Piece`, `Inbox.plan` — the pieces of which an operation is made.
* `Guarded`, `Guarded.Move` — an inbox with its lock and the threads around it.
* `Guarded.Ordered` — the operations in the order of the lock, and how far the last one has come.
* `Guarded.run_operation` — whoever gets the lock gives it back.
* `Guarded.Represents` — what is seen of an inbox while nobody has the lock.
-/

namespace RobotSession

open Lua (Invocation)

/-! ### Operations and their pieces -/

namespace Inbox

/-- **The operations** on an inbox. -/
inductive Operation
  | post (i : Invocation)
  | bind
  | close
  | pop
  /-- Waits until a call is queued, or for some time. -/
  | wait
  deriving DecidableEq

/-- What an operation answers. -/
inductive Reply
  | done
  | delivery (d : Delivery)
  | taken (i : Option Invocation)
  /-- Whether calls are queued. -/
  | waited (queued : Bool)
  deriving DecidableEq

/-- **What an operation does at once**, and what it answers. -/
def apply (b : Inbox) : Operation → Reply × Inbox
  | .post i => (.delivery (b.post i).1, (b.post i).2)
  | .bind => (.done, b.bind)
  | .close => (.done, b.close)
  | .pop => (.taken b.pop.1, b.pop.2)
  | .wait => (.waited (!b.queue.isEmpty), b)

/-- One operation after the other. -/
def Does (b : Inbox) (l : Operation × Reply) (b' : Inbox) : Prop :=
  b.apply l.1 = (l.2, b')

/-- **A piece of an operation.** -/
inductive Piece
  /-- A call is queued. -/
  | push (i : Invocation)
  /-- The flag is set. -/
  | raise
  /-- Who waits for calls is woken. -/
  | ring
  | bind
  | shut
  /-- What is queued is discarded. -/
  | empty
  /-- The flag is cleared. -/
  | lower
  /-- The oldest call is taken out. -/
  | drop
  /-- The flag is cleared if nothing is queued any more. -/
  | lowerIfEmpty
  deriving DecidableEq

/-- What a piece changes. -/
def doPiece (b : Inbox) : Piece → Inbox
  | .push i => { b with queue := b.queue ++ [i] }
  | .raise => { b with isPending := true }
  | .ring => b
  | .bind => { b with isBound := true }
  | .shut => { b with isClosed := true }
  | .empty => { b with queue := [] }
  | .lower => { b with isPending := false }
  | .drop => { b with queue := b.queue.tail }
  | .lowerIfEmpty => if b.queue.isEmpty then { b with isPending := false } else b

/-- **The pieces of an operation** that has the lock, and what it will answer. -/
def plan (b : Inbox) : Operation → Reply × List Piece
  | .post i =>
    if b.isClosed then (.delivery .closed, [])
    else if !b.isBound then (.delivery .notBound, [])
    else (.delivery .queued, [.push i, .raise, .ring])
  | .bind => (.done, [.bind])
  | .close => (.done, [.shut, .empty, .lower, .ring])
  | .pop => (.taken b.queue.head?, [.drop, .lowerIfEmpty])
  | .wait => (.waited (!b.queue.isEmpty), [])

variable {b b' : Inbox} {op : Operation} {r : Reply} {pieces : List Piece}

/-- **The pieces of an operation are the whole of it.** -/
theorem apply_of_plan (h : b.plan op = (r, pieces)) : b.apply op = (r, pieces.foldl doPiece b) := by
  cases op with
  | post i =>
    unfold plan at h
    dsimp only at h
    unfold apply Inbox.post
    dsimp only
    split at h
    · rename_i hclosed
      cases h
      rw [if_pos hclosed]
      rfl
    · rename_i hclosed
      rw [if_neg hclosed]
      split at h
      · rename_i hbound
        cases h
        rw [if_pos hbound]
        rfl
      · rename_i hbound
        cases h
        rw [if_neg hbound]
        rfl
  | pop =>
    cases h
    obtain ⟨queue, isBound, isClosed, isPending⟩ := b
    -- the flag is lowered if no second call is left
    cases queue with
    | nil => rfl
    | cons i rest =>
      cases rest with
      | nil => simp [apply, Inbox.pop, doPiece]
      | cons j rest => simp [apply, Inbox.pop, doPiece]
  | _ =>
    cases h
    rfl

theorem Sound.does (hsound : b.Sound) {l : Operation × Reply} (h : b.Does l b') : b'.Sound := by
  obtain ⟨op, r⟩ := l
  -- each operation done at once keeps the queue in order
  cases op with
  | post i =>
    cases h
    exact hsound.post i
  | bind =>
    cases h
    exact hsound.bind
  | close =>
    cases h
    exact Sound.close b
  | pop =>
    cases h
    exact hsound.pop
  | wait =>
    cases h
    exact hsound

/-- An inbox is in order after any operations, one after the other. -/
theorem Sound.run {done : List (Operation × Reply)} (hsound : b.Sound) (hrun : Run Does b done b') :
    b'.Sound :=
  hrun.invariant (fun h hdoes => h.does hdoes) hsound

theorem Sound.pending_iff (h : b.Sound) : b.isPending = true ↔ b.queue ≠ [] := by
  rw [h.pending]
  simp

/-- Nothing is taken out of an inbox in order exactly when its flag is clear. -/
theorem Sound.pop_eq_none (h : b.Sound) : b.isPending = false ↔ b.pop.1 = none := by
  rw [pop_head, h.pending, List.head?_eq_none_iff]
  simp

/-- To look in vain changes nothing. -/
theorem Sound.pop_empty (h : b.Sound) (hqueue : b.queue = []) : b.pop.2 = b := by
  have hpending := h.pending
  rw [hqueue] at hpending
  obtain ⟨queue, isBound, isClosed, isPending⟩ := b
  cases hqueue
  cases hpending
  rfl

/-- Without a call that is queued anew, a closed and empty inbox stays so. -/
theorem doPiece_of_closed {p : Piece} (hpush : ∀ i, p ≠ .push i)
    (h : b.isClosed = true ∧ b.queue = []) :
    (b.doPiece p).isClosed = true ∧ (b.doPiece p).queue = [] := by
  obtain ⟨hclosed, hqueue⟩ := h
  cases p with
  | push i => exact absurd rfl (hpush i)
  | shut => exact ⟨rfl, hqueue⟩
  | empty => exact ⟨hclosed, rfl⟩
  | drop =>
    refine ⟨hclosed, ?_⟩
    -- an empty queue has nothing to drop
    change b.queue.tail = []
    rw [hqueue]
    rfl
  | lowerIfEmpty =>
    unfold doPiece
    dsimp only
    split
    · exact ⟨hclosed, hqueue⟩
    · exact ⟨hclosed, hqueue⟩
  | _ => exact ⟨hclosed, hqueue⟩

/-- Nothing is queued anew in an inbox that is closed. -/
theorem plan_of_closed (hclosed : b.isClosed = true) (h : b.plan op = (r, pieces))
    (i : Invocation) : .push i ∉ pieces := by
  cases op with
  -- only `post` ever pushes, and on a closed inbox it is refused before it plans a piece
  | post j =>
    unfold plan at h
    dsimp only at h
    rw [if_pos hclosed] at h
    cases h
    exact List.not_mem_nil
  | bind | close | pop =>
    cases h
    simp
  | wait =>
    cases h
    exact List.not_mem_nil

end Inbox

/-! ### The lock -/

open Inbox (Operation Reply Piece)

/-- **An operation that has the lock.** -/
structure Holder where
  thread : Nat
  op : Operation
  /-- What it will answer. -/
  reply : Reply
  /-- What it has still to do. -/
  pieces : List Piece

/-- **An inbox with its lock**, and the threads around it. -/
structure Guarded where
  inbox : Inbox := {}
  holder : Option Holder := none
  rest : Nat → Rest := fun _ => .awake

/-- **What happens** around an inbox. -/
inductive GuardedDeed
  /-- A thread takes the lock for an operation. -/
  | begins (thread : Nat) (op : Operation)
  | does (p : Piece)
  /-- The lock is given back, and the operation answers. -/
  | answers (thread : Nat) (op : Operation) (r : Reply)
  /-- A thread that waits takes the lock, finds nothing, and falls asleep, which gives it back. -/
  | sleeps (thread : Nat)
  /-- Who sleeps wakes up: its time is over, or there is no reason. -/
  | wakes (thread : Nat)
  /-- Who has been woken takes the lock again. -/
  | resumes (thread : Nat)
  /-- The flag is read without the lock. -/
  | looks (flag : Bool)

namespace Guarded

/-- Where a thread stands is changed. -/
def setRest (x : Guarded) (t : Nat) (r : Rest) : Guarded :=
  { x with rest := fun u => if u = t then r else x.rest u }

/-- The operation takes the lock. -/
def hold (x : Guarded) (t : Nat) (op : Operation) : Guarded :=
  { x with holder := some ⟨t, op, (x.inbox.plan op).1, (x.inbox.plan op).2⟩ }

/-- Where the threads stand after a piece: a ring wakes all that sleep. -/
def restAfter (x : Guarded) (p : Piece) (t : Nat) : Rest :=
  if p = .ring ∧ x.rest t = .asleep then .woken else x.rest t

/-- **The moves** around an inbox. -/
inductive Move : Guarded → GuardedDeed → Guarded → Prop
  | begins {x : Guarded} (t : Nat) (op : Operation) (hlock : x.holder = none)
      (hawake : x.rest t = .awake) (hready : op = .wait → x.inbox.isReady = true) :
      Move x (.begins t op) (x.hold t op)
  | does {x : Guarded} {h : Holder} {p : Piece} {pieces : List Piece}
      (hholder : x.holder = some h) (hpieces : h.pieces = p :: pieces) :
      Move x (.does p)
        { inbox := x.inbox.doPiece p, holder := some { h with pieces }, rest := x.restAfter p }
  | answers {x : Guarded} {h : Holder} (hholder : x.holder = some h) (hpieces : h.pieces = []) :
      Move x (.answers h.thread h.op h.reply) { x with holder := none }
  | sleeps {x : Guarded} (t : Nat) (hlock : x.holder = none) (hawake : x.rest t = .awake)
      (hready : x.inbox.isReady = false) : Move x (.sleeps t) (x.setRest t .asleep)
  | wakes {x : Guarded} (t : Nat) (hasleep : x.rest t = .asleep) :
      Move x (.wakes t) (x.setRest t .woken)
  | resumes {x : Guarded} (t : Nat) (hlock : x.holder = none) (hwoken : x.rest t = .woken) :
      Move x (.resumes t) ((x.setRest t .awake).hold t .wait)
  | looks {x : Guarded} : Move x (.looks x.inbox.isPending) x

variable {x y : Guarded} {happened : List GuardedDeed} {l : GuardedDeed} {b₀ b : Inbox}

/-- The operations that have given the lock back, in order, with what they answered. -/
def performed (happened : List GuardedDeed) : List (Operation × Reply) :=
  happened.filterMap fun
    | .answers _ op r => some (op, r)
    | _ => none

theorem performed_append (happened later : List GuardedDeed) :
    performed (happened ++ later) = performed happened ++ performed later :=
  List.filterMap_append

/-! ### One operation after the other -/

/-- **How far the operation has come** that has the lock, if one has it: a part of its pieces has
been done to the inbox as it was when the lock was taken. -/
inductive Underway (b : Inbox) : Option Holder → Inbox → Prop
  | free : Underway b none b
  | held {h : Holder} (before : List Piece) (hplan : b.plan h.op = (h.reply, before ++ h.pieces)) :
      Underway b (some h) (before.foldl Inbox.doPiece b)

/-- **The operations are done one after the other**, each at once, up to the one that has the
lock. -/
def Ordered (b₀ : Inbox) (happened : List GuardedDeed) (x : Guarded) : Prop :=
  ∃ b, Run Inbox.Does b₀ (performed happened) b ∧ Underway b x.holder x.inbox

theorem Ordered.start (hlock : x.holder = none) : Ordered x.inbox [] x := by
  refine ⟨x.inbox, .refl, ?_⟩
  rw [hlock]
  exact .free

/-- What gives no lock back leaves the operations that were performed as they are. -/
theorem Ordered.quiet (hrun : Run Inbox.Does b₀ (performed happened) b)
    (hnone : performed [l] = []) (hunderway : Underway b y.holder y.inbox) :
    Ordered b₀ (happened ++ [l]) y := by
  refine ⟨b, ?_, hunderway⟩
  rw [performed_append, hnone, List.append_nil]
  exact hrun

theorem Underway.hold (h : Underway b x.holder x.inbox) (hlock : x.holder = none) (t : Nat)
    (op : Operation) : Underway b (x.hold t op).holder (x.hold t op).inbox := by
  rw [hlock] at h
  unfold Guarded.hold
  generalize x.inbox = now at h ⊢
  cases h with
  | free => exact .held [] rfl

/-- A wait that has the lock leaves the inbox as it was, and answers whether calls are queued. -/
theorem Underway.waits {h : Holder} {now : Inbox} (hunderway : Underway b (some h) now)
    (hop : h.op = .wait) : now = b ∧ h.reply = .waited (!b.queue.isEmpty) := by
  cases hunderway with
  | held before hplan =>
    rw [hop] at hplan
    obtain ⟨hreply, hpieces⟩ := Prod.mk.inj hplan
    obtain ⟨rfl, -⟩ := List.append_eq_nil_iff.mp hpieces.symm
    exact ⟨rfl, hreply.symm⟩

/-- **Every move** keeps to the order of the operations. -/
theorem Ordered.move (h : Ordered b₀ happened x) (hmove : Move x l y) :
    Ordered b₀ (happened ++ [l]) y := by
  obtain ⟨b, hrun, hunderway⟩ := h
  cases hmove with
  | begins t op hlock hawake hready => exact .quiet hrun rfl (hunderway.hold hlock t op)
  -- one piece moves from those to do to those that are done
  | @does h p pieces hholder hpieces =>
    refine .quiet hrun rfl ?_
    rw [hholder] at hunderway
    dsimp only
    generalize x.inbox = now at hunderway ⊢
    cases hunderway with
    | held before hplan =>
      rw [hpieces, ← List.singleton_append, ← List.append_assoc] at hplan
      have hdone : Inbox.doPiece (before.foldl Inbox.doPiece b) p
          = (before ++ [p]).foldl Inbox.doPiece b := by
        rw [List.foldl_append]
        rfl
      rw [hdone]
      exact .held (before ++ [p]) hplan
  -- all pieces are done, and only now does the operation count
  | @answers h hholder hpieces =>
    rw [hholder] at hunderway
    refine ⟨x.inbox, ?_, .free⟩
    rw [performed_append]
    refine hrun.tail ?_
    generalize x.inbox = now at hunderway ⊢
    cases hunderway with
    | held before hplan =>
      rw [hpieces, List.append_nil] at hplan
      exact Inbox.apply_of_plan hplan
  | sleeps t hlock hawake hready => exact .quiet hrun rfl hunderway
  | wakes t hasleep => exact .quiet hrun rfl hunderway
  | resumes t hlock hwoken =>
    exact .quiet hrun rfl (Underway.hold (x := x.setRest t .awake) hunderway hlock t .wait)
  | looks => exact .quiet hrun rfl hunderway

theorem Ordered.run {later : List GuardedDeed} (h : Ordered b₀ happened x)
    (hrun : Run Move x later y) : Ordered b₀ (happened ++ later) y := by
  induction hrun with
  | refl =>
    rw [List.append_nil]
    exact h
  | tail run step ih =>
    rw [← List.append_assoc]
    exact ih.move step

/-- **The operations are atomic**: once nobody has the lock, they have been done one after the
other, each at once, in the order in which they had the lock, and each has answered so. -/
theorem atomic_of_run (hlock : x.holder = none) (hrun : Run Move x happened y)
    (hfree : y.holder = none) : Run Inbox.Does x.inbox (performed happened) y.inbox := by
  obtain ⟨b, hdone, hunderway⟩ := (Ordered.start hlock).run hrun
  rw [hfree] at hunderway
  generalize y.inbox = now at hunderway ⊢
  cases hunderway with
  | free => exact hdone

/-! ### The lock is given back -/

/-- What an operation has still to do, it can do, and then it answers. -/
theorem run_pieces {h : Holder} (hholder : x.holder = some h) :
    ∃ happened y, Run Move x happened y ∧ performed happened = [(h.op, h.reply)]
      ∧ y.holder = none ∧ y.inbox = h.pieces.foldl Inbox.doPiece x.inbox
      ∧ ∀ t, x.rest t = .awake → y.rest t = .awake := by
  obtain ⟨thread, op, reply, pieces⟩ := h
  induction pieces generalizing x with
  | nil => exact ⟨_, _, .single (.answers hholder rfl), rfl, rfl, rfl, fun t hawake => hawake⟩
  | cons p pieces ih =>
    obtain ⟨happened, y, hrun, hperformed, hfree, hinbox, hrest⟩ :=
      ih (x := { inbox := x.inbox.doPiece p, holder := some ⟨thread, op, reply, pieces⟩,
                 rest := x.restAfter p }) rfl
    refine ⟨_, y, (Run.single (.does hholder rfl)).trans hrun, ?_, hfree, hinbox, ?_⟩
    · rw [performed_append, hperformed]
      rfl
    · intro t hawake
      refine hrest t ?_
      -- ringing wakes only those who sleep
      change (if p = .ring ∧ x.rest t = .asleep then Rest.woken else x.rest t) = .awake
      rw [hawake, if_neg fun h => Rest.noConfusion h.2]

/-- **Whoever gets the lock gives it back**: an operation that begins comes to its end, and has then
been done as a whole. -/
theorem run_operation (t : Nat) (op : Operation) (hlock : x.holder = none)
    (hawake : x.rest t = .awake) (hready : op = .wait → x.inbox.isReady = true) :
    ∃ happened y, Run Move x happened y ∧ performed happened = [(op, (x.inbox.apply op).1)]
      ∧ y.holder = none ∧ y.inbox = (x.inbox.apply op).2
      ∧ ∀ u, x.rest u = .awake → y.rest u = .awake := by
  -- the operation takes the lock, does its pieces one by one and answers; between two pieces nobody
  -- else holds the lock
  obtain ⟨happened, y, hrun, hperformed, hfree, hinbox, hrest⟩ :=
    run_pieces (x := x.hold t op) (h := ⟨t, op, (x.inbox.plan op).1, (x.inbox.plan op).2⟩) rfl
  have happly : x.inbox.apply op
      = ((x.inbox.plan op).1, (x.inbox.plan op).2.foldl Inbox.doPiece x.inbox) :=
    Inbox.apply_of_plan rfl
  refine ⟨_, y, (Run.single (.begins t op hlock hawake hready)).trans hrun, ?_, hfree, ?_, hrest⟩
  · rw [performed_append, hperformed, happly]
    rfl
  · rw [hinbox, happly]
    rfl

/-! ### What is seen of an inbox -/

/-- An inbox that is closed and empty, and nothing is about to be queued in it. -/
structure Ended (x : Guarded) : Prop where
  closed : x.inbox.isClosed = true ∧ x.inbox.queue = []
  holder : ∀ {h}, x.holder = some h → ∀ i, .push i ∉ h.pieces

theorem Ended.hold (h : x.Ended) (t : Nat) (op : Operation) : (x.hold t op).Ended where
  closed := h.closed
  holder := by
    intro g hg i
    cases hg
    exact Inbox.plan_of_closed h.closed.1 rfl i

theorem Ended.move (h : x.Ended) (hmove : Move x l y) : y.Ended := by
  cases hmove with
  | begins t op hlock hawake hready => exact h.hold t op
  | @does g p pieces hholder hpieces =>
    -- the operation under way holds no call to push, so none of its pieces does
    have hpush := h.holder hholder
    rw [hpieces] at hpush
    refine ⟨Inbox.doPiece_of_closed (fun i hp => ?_) h.closed, ?_⟩
    · exact hpush i (hp ▸ List.mem_cons_self)
    · intro g' hg' i hmem
      cases hg'
      exact hpush i (List.mem_cons_of_mem p hmem)
  | answers hholder hpieces =>
    refine ⟨h.closed, fun hsome => ?_⟩
    cases hsome
  | sleeps t hlock hawake hready => exact ⟨h.closed, h.holder⟩
  | wakes t hasleep => exact ⟨h.closed, h.holder⟩
  | resumes t hlock hwoken =>
    exact Ended.hold (x := x.setRest t .awake) ⟨h.closed, h.holder⟩ t .wait
  | looks => exact h

/-- **What an inbox shows** while nobody has its lock, to whoever waits for a call, and to the hook
that reads the flag. -/
structure Represents (x : Guarded) : Prop where
  /-- The flag is set exactly when calls are queued. -/
  pending (hfree : x.holder = none) : x.inbox.isPending = true ↔ x.inbox.queue ≠ []
  /-- Calls are queued for a robot, and until the inbox is closed. -/
  bound (hfree : x.holder = none) (hqueue : x.inbox.queue ≠ []) :
    x.inbox.isBound = true ∧ x.inbox.isClosed = false
  /-- An inbox that is closed is empty, and stays closed and empty. -/
  closed (hfree : x.holder = none) (hclosed : x.inbox.isClosed = true) {later : List GuardedDeed}
    {y : Guarded} (hlater : Run Move x later y) :
    y.inbox.isClosed = true ∧ y.inbox.queue = []
  /-- A wait answers what the flag says, and leaves it so when it gives the lock back. -/
  waited {t : Nat} {r : Reply} {y : Guarded} (hmove : Move x (.answers t .wait r) y) :
    r = .waited y.inbox.isPending ∧ y.inbox = x.inbox ∧ y.holder = none
  /-- The flag that is read is clear exactly when there is nothing to take out. -/
  looks (hfree : x.holder = none) {flag : Bool} {y : Guarded} (hmove : Move x (.looks flag) y) :
    flag = false ↔ x.inbox.apply .pop = (.taken none, x.inbox)
  /-- So the hook goes on with the script exactly then, and takes calls out otherwise. -/
  hook (hfree : x.holder = none) {e : Engine} {s : Shared} {ticket : Nat}
    (hinbox : s.inbox e.id = x.inbox) (hmode : e.machine.mode = .ask (.hookPoll ticket)) :
    ∃ e', e.serve s .pending = (.going, e', s, []) ∧ e'.machine.mode
      = if x.inbox.pop.1 = none then .run true else .ask (.drainTake (.hook ticket))

/-- Once nobody has the lock, the inbox is as operations leave it that are done one by one. -/
theorem sound_of_run (hrun : Run Move {} happened x) (hfree : x.holder = none) : x.inbox.Sound :=
  Inbox.Sound.new.run (atomic_of_run rfl hrun hfree)

/-- A wait that has the lock will answer what the flag says. -/
theorem reply_of_wait (hrun : Run Move {} happened x) {h : Holder} (hholder : x.holder = some h)
    (hop : h.op = .wait) : h.reply = .waited x.inbox.isPending := by
  obtain ⟨b, hdone, hunderway⟩ := (Ordered.start rfl).run hrun
  rw [hholder] at hunderway
  -- it has changed nothing since it took the lock, when the inbox was in order
  obtain ⟨hinbox, hreply⟩ := hunderway.waits hop
  rw [hreply, hinbox, (Inbox.Sound.new.run hdone).pending]

/-- **In every state that is reached** by operations in any order and number, and by any threads. -/
theorem represents_of_run (hrun : Run Move {} happened x) : x.Represents where
  pending hfree := (sound_of_run hrun hfree).pending_iff
  bound hfree hqueue := by
    have hsound := sound_of_run hrun hfree
    refine ⟨hsound.bound hqueue, ?_⟩
    rw [← Bool.not_eq_true]
    exact fun hclosed => hqueue (hsound.closed hclosed)
  closed hfree hclosed {later y} hlater := by
    -- closed is an invariant of the pieces as well as of the operations, so it is carried through
    -- the moves of whoever holds the lock
    have hended : x.Ended := by
      refine ⟨⟨hclosed, (sound_of_run hrun hfree).closed hclosed⟩, fun hsome => ?_⟩
      rw [hfree] at hsome
      cases hsome
    exact (hlater.invariant (fun h hmove => h.move hmove) hended).closed
  waited {t r y} hmove := by
    -- the deed is named first: `cases` cannot unify a concrete answer with the constructors'
    -- patterns
    generalize hdeed : GuardedDeed.answers t .wait r = deed at hmove
    cases hmove with
    | answers hholder hpieces =>
      obtain ⟨-, hop, rfl⟩ := GuardedDeed.answers.inj hdeed
      exact ⟨reply_of_wait hrun hholder hop.symm, rfl, rfl⟩
    | _ => cases hdeed
  looks hfree {flag y} hmove := by
    have hsound := sound_of_run hrun hfree
    cases hmove
    constructor
    · intro hclear
      have hnone := hsound.pop_eq_none.mp hclear
      rw [Inbox.pop_head, List.head?_eq_none_iff] at hnone
      unfold Inbox.apply
      dsimp only
      rw [hsound.pop_empty hnone, Inbox.pop_head, hnone]
      rfl
    · intro hpop
      exact hsound.pop_eq_none.mpr (Reply.taken.inj (Prod.mk.inj hpop).1)
  hook hfree {e s ticket} hinbox hmode := by
    have hpop := (sound_of_run hrun hfree).pop_eq_none
    -- the hook reads the flag under no lock; with the lock free the flag and the queue agree
    refine ⟨e.answer (.flag x.inbox.isPending), by rw [← hinbox]; rfl, ?_⟩
    split
    · rename_i hnone
      rw [hpop.mpr hnone]
      exact congrArg Lua.Machine.mode (Lua.Machine.answer_hookPoll (a := .flag false) hmode nofun)
    · rename_i hsome
      rw [← hpop, Bool.not_eq_false] at hsome
      rw [hsome]
      exact congrArg Lua.Machine.mode (Lua.Machine.answer_hookPoll_flag hmode)

/-- A robot is bound, and then a call is posted: the flag is set. -/
theorem represents_of_run_posted : ∃ happened x, Run Move {} happened x ∧ x.Represents
    ∧ performed happened = [(.bind, .done), (.post .finish, .delivery .queued)]
    ∧ x.holder = none ∧ x.inbox.queue = [.finish] ∧ x.inbox.isPending = true := by
  -- thread 0 binds and then posts an end; the two operations run one after the other
  obtain ⟨binds, y, hbinds, hbound, hfree, hinbox, hawake⟩ :=
    run_operation (x := {}) 0 .bind rfl rfl nofun
  obtain ⟨posts, z, hposts, hposted, hgiven, hqueued, -⟩ :=
    run_operation 0 (.post .finish) hfree (hawake 0 rfl) nofun
  rw [hinbox] at hposted hqueued
  have hrun := hbinds.trans hposts
  have hflag : z.inbox.queue = [.finish] := by
    rw [hqueued]
    rfl
  refine ⟨_, z, hrun, represents_of_run hrun, ?_, hgiven, hflag, ?_⟩
  · rw [performed_append, hbound, hposted]
    rfl
  · refine ((represents_of_run hrun).pending hgiven).mpr ?_
    rw [hflag]
    exact List.cons_ne_nil _ _

end Guarded
end RobotSession
