import RobotSession.Proofs.Engine.Inbox
import RobotSession.Proofs.Engine.Life
import RobotSession.Proofs.Lua.Hook

/-!
# Which threads are looked after

A script that never sleeps is interrupted by a hook, which runs after a number of counted
instructions and delivers the calls that are queued. Every coroutine is given such a hook
when it is created. But the hook is one for the whole interpreter: to set it for a coroutine
takes it away from the thread that had it, and that thread is not looked after any more.

So a call is delivered in time by the thread that owns the hook, and by no other one. Until
the call is taken, the owner executes no more than one interval of counted instructions
outside of deliveries (`Engine.owner_in_time`), counted from the moment at which the call was
accepted, or a panic left a delivery of the hook, or a turn of the hook was lost because it fell
into a finalizer. A thread from which the hook has been taken may execute any number of them
(`Engine.not_every_thread_in_time`).

* `Pending` — a call that is queued, and what each thread has executed meanwhile.
* `Engine.Watched` — a move, with the calls that are queued.
* `Engine.Covered` — the owner of the hook is in time for every call.
-/

namespace RobotSession

open Lua

/-- **A call that is queued**, with the number of counted instructions that each thread has
executed meanwhile. -/
structure Pending where
  invocation : Invocation
  age : Nat → Nat := fun _ => 0

namespace Engine

/-- The calls that are queued after a move. -/
noncomputable def watch (x : Engine × Shared) (l : Deed) (calls : List Pending) : List Pending :=
  match l with
  | .step => calls.map fun c => { c with age := x.1.machine.aged c.age }
  | .take _ (some _) => calls.tail
  | .post i .queued => calls ++ [{ invocation := i }]
  | .close _ => []
  | _ => calls

/-- **A move**, with the calls that are queued. -/
inductive Watched :
    (Engine × Shared) × List Pending → Deed → (Engine × Shared) × List Pending → Prop
  | move {x y : Engine × Shared} {l : Deed} {calls : List Pending} (h : Move x l y) :
      Watched (x, calls) l (y, watch x l calls)

/-- Any run can be watched. -/
theorem watched_of_run {x y : Engine × Shared} {happened : List Deed} (h : Run Move x happened y)
    (calls : List Pending) : ∃ calls', Run Watched (x, calls) happened (y, calls') :=
  h.beside (fun _ => .move) calls

/-- **The owner of the hook is in time** for every call that is queued. -/
structure Covered (n : Nat) (x : Engine × Shared) (calls : List Pending) : Prop where
  queue : calls.map Pending.invocation = (x.2.inbox x.1.id).queue
  inbox : (x.2.inbox x.1.id).Sound
  inbox_lt : x.1.id < x.2.inboxes.size
  engine : x.1.Sound
  hooked : (x.2.inbox x.1.id).isClosed = false → Machine.Hooked n x.1.machine.outline
  timely : ∀ c ∈ calls, Machine.Timely n c.age x.1.machine

theorem GoesOn.leaves {o : Outline} {e : Engine} {id : Nat} (h : GoesOn o id e) :
    Machine.Leaves o e.machine := by
  cases h with
  | rests h => exact .of_ended h.outline h.ended
  | calls h hid htask => exact h.leaves (.of_strands_eq rfl rfl rfl)

namespace Covered

variable {n : Nat} {x y : Engine × Shared} {e e' : Engine} {s s' : Shared} {calls : List Pending}
  {a : Answer}

/-- Calls are queued in an open inbox only. -/
theorem eq_nil_of_closed (h : Covered n (e, s) calls) (hclosed : (s.inbox e.id).isClosed = true) :
    calls = [] := by
  have hqueue := h.queue
  rw [h.inbox.closed hclosed] at hqueue
  exact List.map_eq_nil_iff.mp hqueue

/-- The interpreter moves and the inbox does not. -/
theorem of_machine (h : Covered n (e, s) calls) (e' : Engine) (hid : e'.id = e.id)
    (hsound : e'.Sound)
    (hhooked : Machine.Hooked n e.machine.outline → Machine.Hooked n e'.machine.outline)
    {calls' : List Pending} (hqueue : calls'.map Pending.invocation = calls.map Pending.invocation)
    (htimely : Machine.Hooked n e.machine.outline →
      ∀ c ∈ calls', Machine.Timely n c.age e'.machine) : Covered n (e', s) calls' := by
  refine ⟨?_, ?_, ?_, hsound, ?_, ?_⟩
  · rw [hid, hqueue]
    exact h.queue
  · rw [hid]
    exact h.inbox
  · rw [hid]
    exact h.inbox_lt
  · rw [hid]
    exact fun hopen => hhooked (h.hooked hopen)
  · intro c hc
    cases hclosed : (s.inbox e.id).isClosed with
    | false => exact htimely (h.hooked hclosed) c hc
    | true =>
      -- the hook may be gone by now, but so are the calls
      rw [h.eq_nil_of_closed hclosed] at hqueue
      rw [List.map_eq_nil_iff.mp hqueue] at hc
      cases hc

theorem step (h : Covered n (e, s) calls) (hgo : e.machine.isWaiting = false)
    (hsound : Sound { e with machine := e.machine.step }) :
    Covered n ({ e with machine := e.machine.step }, s) (watch (e, s) .step calls) := by
  have ho := h.engine.machine.outline
  refine h.of_machine { e with machine := e.machine.step } rfl hsound (fun hooked => ?_) ?_
    fun hooked c hc => ?_
  · exact ((Machine.Timely.zero hooked).step hooked ho hgo).1
  · unfold watch
    rw [List.map_map]
    rfl
  · obtain ⟨c₀, hc₀, rfl⟩ := List.mem_map.mp hc
    exact ((h.timely c₀ hc₀).step hooked ho hgo).2

/-- An answer that hands out no call. -/
theorem answer (h : Covered n (e, s) calls) {w : Waiting} (hmode : e.machine.mode = .ask w)
    (hsound : Sound (e.answer a)) (htake : w.question ≠ .take)
    (hpending : w.question = .pending → a = .flag (s.inbox e.id).isPending) :
    Covered n (e.answer a, s) calls := by
  have ho := h.engine.machine.outline
  refine h.of_machine (e.answer a) rfl hsound (fun hooked => hooked.answer ho hmode a) rfl
    fun hooked c hc => ?_
  refine (h.timely c hc).answer hooked ho hmode ?_
  rintro (⟨ticket, rfl, hflag⟩ | ⟨reason, rfl, -⟩)
  · -- a call is queued, so that the flag is set
    refine hflag ?_
    rw [hpending rfl, h.inbox.pending]
    cases hqueue : (s.inbox e.id).queue with
    | nil =>
      have hcalls := h.queue
      rw [hqueue] at hcalls
      rw [List.map_eq_nil_iff.mp hcalls] at hc
      cases hc
    | cons i rest => rfl
  · exact htake rfl

/-- The inbox changes, and what is queued with it. -/
theorem setInbox (h : Covered n (e, s) calls) (e' : Engine) {b : Inbox}
    {calls' : List Pending} (hid : e'.id = e.id)
    (hsound : e'.Sound) (hb : b.Sound) (hqueue : calls'.map Pending.invocation = b.queue)
    (hhooked : b.isClosed = false → Machine.Hooked n e'.machine.outline)
    (htimely : ∀ c ∈ calls', Machine.Timely n c.age e'.machine) :
    Covered n (e', s.setInbox e.id b) calls' := by
  -- the engine has kept its number, and so the new queue is its own
  have hinbox : (s.setInbox e.id b).inbox e'.id = b := by
    rw [hid]
    exact Shared.inbox_setInbox h.inbox_lt b
  refine ⟨?_, ?_, ?_, hsound, ?_, htimely⟩
  · rw [hinbox]
    exact hqueue
  · rw [hinbox]
    exact hb
  · rw [hid, Shared.size_setInbox]
    exact h.inbox_lt
  · rw [hinbox]
    exact hhooked

theorem take (h : Covered n (e, s) calls) {reason : DrainReason}
    (hmode : e.machine.mode = .ask (.drainTake reason))
    (hsound : Sound (e.answer (.invocation (s.inbox e.id).pop.1))) :
    Covered n (e.answer (.invocation (s.inbox e.id).pop.1), s.setInbox e.id (s.inbox e.id).pop.2)
      (watch (e, s) (.take reason (s.inbox e.id).pop.1) calls) := by
  have ho := h.engine.machine.outline
  have hhooked : (s.inbox e.id).pop.2.isClosed = false →
      Machine.Hooked n (e.answer (.invocation (s.inbox e.id).pop.1)).machine.outline := by
    rw [Inbox.isClosed_pop]
    exact fun hopen => (h.hooked hopen).answer ho hmode _
  have hpop := (s.inbox e.id).pop_queue
  rw [← h.queue] at hpop
  have hhead := (s.inbox e.id).pop_head
  rw [← h.queue] at hhead
  -- the calls that stay queued keep their ages, since to take a call executes nothing
  cases calls with
  | nil =>
    rw [hhead] at hpop hsound hhooked ⊢
    exact h.setInbox (e.answer _) rfl hsound h.inbox.pop hpop.symm hhooked nofun
  | cons c rest =>
    rw [hhead] at hpop hsound hhooked ⊢
    refine h.setInbox (e.answer _) rfl hsound h.inbox.pop (List.cons.inj hpop).2.symm hhooked
      fun c' hc' => ?_
    have hopen : (s.inbox e.id).isClosed = false := by
      cases hclosed : (s.inbox e.id).isClosed with
      | false => rfl
      | true => cases h.eq_nil_of_closed hclosed
    refine (h.timely c' (List.mem_cons_of_mem c hc')).answer (h.hooked hopen) ho hmode ?_
    rintro (⟨ticket, hw, -⟩ | ⟨reason', -, hnone⟩)
    · cases hw
    · exact hnone _ rfl

theorem bind (h : Covered n (e, s) calls) :
    Covered n (e, s.setInbox e.id (s.inbox e.id).bind) calls :=
  h.setInbox e rfl h.engine h.inbox.bind h.queue h.hooked h.timely

theorem close (h : Covered n (e, s) calls) (hid : e'.id = e.id) (hsound : e'.Sound) :
    Covered n (e', s.setInbox e.id (s.inbox e.id).close) [] :=
  h.setInbox e' hid hsound (Inbox.Sound.close _) rfl nofun nofun

/-- A call that has just been accepted has not waited. -/
theorem post (h : Covered n (e, s) calls) (i : Invocation) :
    Covered n (e, (s.post e.id i).2) (watch (e, s) (.post i (s.post e.id i).1) calls) := by
  change Covered n (e, s.setInbox e.id ((s.inbox e.id).post i).2)
    (watch (e, s) (.post i ((s.inbox e.id).post i).1) calls)
  rcases (s.inbox e.id).post_cases i with ⟨hpost, hopen, -⟩ | ⟨hrefused, hsame⟩
  · have hsound := h.inbox.post i
    rw [hpost] at hsound ⊢
    refine h.setInbox e rfl h.engine hsound ?_ h.hooked fun c hc => ?_
    · -- the call that has just come in is of age zero
      change (calls ++ [_]).map Pending.invocation = _
      rw [List.map_append, h.queue]
      rfl
    · rcases List.mem_append.mp hc with hold | hnew
      · exact h.timely c hold
      · rw [List.mem_singleton.mp hnew]
        exact .zero (h.hooked hopen)
  · -- a call that was refused is not watched
    have hwatch : watch (e, s) (.post i ((s.inbox e.id).post i).1) calls = calls := by
      cases hanswer : ((s.inbox e.id).post i).1 with
      | queued => exact absurd hanswer hrefused
      | notBound => rfl
      | closed => rfl
    rw [hwatch, hsame]
    exact h.setInbox e rfl h.engine h.inbox h.queue h.hooked h.timely

/-- Something happens between two calls of the host. -/
theorem goesOn (h : Covered n (e, s) calls) {result : Except Value (List Value)}
    (hmode : e.machine.mode = .ended result) (hsound : e'.Sound)
    (hgoes : GoesOn e.machine.outline e.id e') : Covered n (e', s) calls := by
  have hleaves := hgoes.leaves
  -- between two calls of the host no hook is at work, so nothing has to be kept at work
  refine h.of_machine e' hgoes.id_eq hsound (fun hooked => hooked.follows hleaves.follows) rfl
    fun hooked c hc => ?_
  refine (h.timely c hc).leaves hooked hleaves fun hb => ?_
  exact absurd hb (Machine.not_busy_of_ended h.engine.machine hmode)

/-- **Every move keeps the owner of the hook in time.** -/
theorem move {l : Deed} (h : Covered n x calls) (hmove : Move x l y) :
    Covered n y (watch x l calls) := by
  obtain ⟨hsound, hid⟩ := h.engine.move hmove
  cases hmove with
  | step hgo => exact h.step hgo hsound
  -- a question that is no taking leaves the queue alone, and at most sees its flag
  | serve hmode htake hserve =>
    obtain ⟨rfl | ⟨a, rfl, hpending, -⟩, hsame⟩ := serve_cases htake hserve
    · rw [hsame]
      exact ⟨h.queue, h.inbox, h.inbox_lt, h.engine, h.hooked, h.timely⟩
    · have hanswer := h.answer hmode hsound htake hpending
      rw [hsame]
      exact ⟨hanswer.queue, hanswer.inbox, hanswer.inbox_lt, hsound, hanswer.hooked,
        hanswer.timely⟩
  | logged hmode hlog panic =>
    refine h.answer hmode hsound ?_ ?_
    · rw [hlog]
      exact nofun
    · rw [hlog]
      exact nofun
  | @settle e s result hmode => exact h.goesOn hmode hsound ((Rests.of_ended hmode).settle result)
  | begin_ hidle hb =>
    obtain ⟨result, hmode⟩ := h.engine.idle hidle
    exact h.goesOn hmode hsound ((h.engine.rests hidle).begins hb)
  | elsewhere hinbox hsize =>
    refine ⟨?_, ?_, Nat.lt_of_lt_of_le h.inbox_lt hsize, h.engine, ?_, h.timely⟩
    · rw [hinbox]
      exact h.queue
    · rw [hinbox]
      exact h.inbox
    · rw [hinbox]
      exact h.hooked
  | take hmode => exact h.take hmode hsound
  | bind r => exact h.bind
  | close hidle => exact h.close hid hsound
  | post i => exact h.post i

end Covered

/-! ### Runs -/

section Runs

variable {n : Nat} {s₀ s₁ s s' : Shared} {e₀ e e' : Engine} {signals : List Signal}
  {happened later : List Deed} {calls calls' : List Pending}

/-- An engine that has just been opened with an interval has its hook on the main thread. -/
theorem covered_of_openIn (hn : 0 < n) (hopen : openIn s₀ n = (e₀, s₁, signals)) :
    Covered n (e₀, s₁) [] := by
  obtain ⟨hsound, hlt, hinbox⟩ := openIn_sound hopen
  -- a positive interval sets the hook on the main state before anything runs
  have hinterval : (Machine.opened n).interval = some n := if_neg (Nat.ne_of_gt hn)
  refine ⟨?_, ?_, hlt, hsound, fun _ => ?_, nofun⟩
  · rw [hinbox]
    rfl
  · rw [hinbox]
    exact Inbox.Sound.new
  · cases hopen
    refine ⟨hinterval, n, ?_, hn, Nat.le_refl n⟩
    change (((Machine.opened n).collecting _).outline.strand 0).hook = some n
    rw [Machine.outline_collecting, Machine.strand_opened, if_pos rfl]
    exact hinterval

/-- No move gives the hook back to a thread. -/
theorem lapsed_move {x y : Engine × Shared} {l : Deed} {id : Nat}
    (h : Machine.Lapsed id x.1.machine) (hsound : Sound x.1) (hmove : Move x l y) :
    Machine.Lapsed id y.1.machine := by
  have ho := hsound.machine.outline
  cases hmove with
  | step hgo => exact h.step ho hgo
  | serve hmode htake hserve =>
    obtain ⟨rfl | ⟨a, rfl, -⟩, -⟩ := serve_cases htake hserve
    · exact h
    · exact h.answer ho hmode a
  | logged hmode hlog panic => exact h.answer ho hmode _
  | take hmode => exact h.answer ho hmode _
  | @settle e s result hmode => exact h.leaves ((Rests.of_ended hmode).settle result).leaves
  | begin_ hidle hb => exact h.leaves ((hsound.rests hidle).begins hb).leaves
  | @close e s hidle =>
    -- without an interval there is no hook any more, but it still has its last owner
    have hstopped : Machine.Lapsed id { e.machine with interval := none } := ⟨h.lt, h.ne⟩
    exact hstopped.leaves (hsound.rests hidle).close.leaves
  | bind r => exact h
  | post i => exact h
  | elsewhere => exact h

theorem covered_of_run (h : Covered n (e, s) calls)
    (hrun : Run Watched ((e, s), calls) happened ((e', s'), calls')) :
    Covered n (e', s') calls' ∧ e'.id = e.id := by
  refine hrun.invariant (P := fun z => Covered n z.1 z.2 ∧ z.1.1.id = e.id) ?_ ⟨h, rfl⟩
  rintro a l b ⟨ha, hid⟩ ⟨hmove⟩
  exact ⟨ha.move hmove, (ha.engine.move hmove).2.trans hid⟩

/-- **The thread that owns the hook delivers calls in time.** Outside of deliveries it never
executes more counted instructions than one interval while a call stays queued, since the
call was accepted, a panic last left a delivery of the hook, or a finalizer last had the thread
when it was the hook's turn.

No other thread is looked after: once the hook belongs to another thread, a thread never
owns it again, and is never interrupted by it. -/
theorem owner_in_time (hn : 0 < n) (hopen : openIn s₀ n = (e₀, s₁, signals))
    (hrun : Run Watched ((e₀, s₁), []) happened ((e, s), calls)) :
    calls.map Pending.invocation = (s.inbox e₀.id).queue
      ∧ (∀ c ∈ calls, c.age e.machine.hookOwner ≤ n)
      ∧ ∀ id < e.machine.threads.size, id ≠ e.machine.hookOwner →
        ∀ {later e' s'}, Run Move (e, s) later (e', s') → id ≠ e'.machine.hookOwner
          ∧ ∀ {ticket}, e'.machine.mode = .ask (.hookPoll ticket) → id ≠ e'.machine.current := by
  obtain ⟨hcovered, hid⟩ := covered_of_run (covered_of_openIn hn hopen) hrun
  refine ⟨hid ▸ hcovered.queue, fun c hc => ?_, fun id hlt hne later e' s' hlater => ?_⟩
  · -- the bound: something is left on the owner's count, or a hook is at work
    cases hclosed : (s.inbox e.id).isClosed with
    | false => exact (hcovered.timely c hc).le (hcovered.hooked hclosed)
    | true =>
      rw [hcovered.eq_nil_of_closed hclosed] at hc
      cases hc
  · -- all other threads: that the hook is not theirs is kept by every move to come
    have hlapsed : Machine.Lapsed id e.machine := by
      refine ⟨?_, hne.symm⟩
      change id < (e.machine.threads.map Thread.strand).size
      rw [Array.size_map]
      exact hlt
    have hlater' := hlater.invariant (P := fun x => Machine.Lapsed id x.1.machine ∧ Sound x.1)
      (fun ha hmove => ⟨lapsed_move ha.1 ha.2 hmove, (ha.2.move hmove).1⟩)
      ⟨hlapsed, hcovered.engine⟩
    obtain ⟨hlapsed', hsound'⟩ := hlater'
    refine ⟨hlapsed'.ne.symm, fun hmode => ?_⟩
    rw [← hsound'.machine.poll hmode]
    exact hlapsed'.ne.symm

end Runs

/-! ### A thread that is not looked after -/

/-- A robot whose start routine creates a coroutine, and then never gives way. -/
def spinner : String :=
  "return \x7bnew = function() return \x7bstartCompetition = function() " ++
    "coroutine.create(print) while true do end end\x7d end\x7d"

/-- Whether an instruction that counts is about to be carried out. -/
def executes (m : Machine) : Bool :=
  match m.mode, m.frames with
  | .run polled, .lua f _ :: rest =>
    match f.proto.code[f.pc]? with
    | some i => i.counts && !(m.polls polled i rest matches .poll)
    | none => false
  | _, _ => false

/-- Whether the main thread runs, outside of deliveries and finalizers, and no error is being
unwound. -/
def isPlain (m : Machine) : Bool :=
  m.current = 0 && marks m.frames = [.host] && !m.isWaiting && !(m.mode matches .unwind _)
    && !m.frames.any Frame.isFinalizing

/-- How many counted instructions the main thread executes in so many steps, if nothing else
happens meanwhile. -/
def executed : Nat → Machine → Option Nat
  | 0, m => if m.current = 0 then some 0 else none
  | k + 1, m =>
    if isPlain m then
      (executed k m.step).map fun count => if executes m then count + 1 else count
    else none

theorem runs_of_executes {m : Machine} (h : executes m = true) :
    ∃ i count polled, Machine.Runs i count polled m ∧ i.counts = true := by
  unfold executes at h
  -- the machine is running a Lua frame whose next instruction counts
  split at h
  · rename_i polled f d rest hmode hframes
    split at h
    · rename_i i hi
      obtain ⟨hcounts, hpolls⟩ := Bool.and_eq_true_iff.mp h
      refine ⟨i, _, polled, ⟨hmode, ⟨f, d, rest, hframes, hi, rfl⟩, fun hpoll => ?_⟩, hcounts⟩
      rw [hpoll] at hpolls
      cases hpolls
    · cases h
  · cases h

/-- What the main thread executes is added to the age of a call. -/
theorem run_executed {e : Engine} {s : Shared} {steps count : Nat} (hsound : Sound e)
    (h : executed steps e.machine = some count) (c : Pending) :
    ∃ e' c', Run Watched ((e, s), [c]) (List.replicate steps .step) ((e', s), [c'])
      ∧ e'.machine.current = 0 ∧ c.age 0 + count ≤ c'.age 0 := by
  -- from the first step on, since `executed` looks at the machine before each step
  induction steps generalizing e count c with
  | zero =>
    unfold executed at h
    split at h
    · cases h
      exact ⟨e, c, .refl, ‹_›, Nat.le_refl _⟩
    · cases h
  | succ steps ih =>
    unfold executed at h
    split at h
    · rename_i hplain
      unfold isPlain at hplain
      rw [Bool.and_eq_true, Bool.and_eq_true, Bool.and_eq_true, Bool.and_eq_true,
        decide_eq_true_iff, decide_eq_true_iff, Bool.not_eq_true', Bool.not_eq_true',
        Bool.not_eq_true'] at hplain
      obtain ⟨⟨⟨⟨hcurrent, hmarks⟩, hgo⟩, hunwind⟩, hfinalizes⟩ := hplain
      obtain ⟨count', hcount', rfl⟩ := Option.map_eq_some_iff.mp h
      have hmove : Move (e, s) .step ({ e with machine := e.machine.step }, s) := .step hgo
      obtain ⟨e', c', hrun, hcurrent', hage⟩ := ih (hsound.move hmove).1 hcount'
        { c with age := e.machine.aged c.age }
      refine ⟨e', c', (Run.single (.move hmove)).trans hrun, hcurrent', ?_⟩
      have hforsaken : ¬∃ ticket, Machine.Forsaken (.hook ticket) e.machine := by
        rintro ⟨ticket, value, k, d, rest, fault, hmode, -⟩
        rw [hmode] at hunwind
        cases hunwind
      have hmiss : ¬Machine.Misses e.machine := by
        rintro ⟨-, -, hmisses⟩
        rw [hmisses] at hfinalizes
        cases hfinalizes
      refine Nat.le_trans ?_ hage
      -- on the main thread, outside of deliveries, the instruction counts for the call
      change _ ≤ e.machine.aged c.age 0 + count'
      split
      · have hcharges : Machine.Charges e.machine := by
          refine ⟨runs_of_executes ‹_›, fun reason => ?_⟩
          refine hsound.machine.outline.not_engaged hcurrent ?_
          change _ ∉ marks e.machine.frames
          rw [hmarks]
          simp
        have hone := Machine.aged_of_charges c.age hforsaken hmiss hcharges
        rw [hcurrent] at hone
        omega
      · have hle := Machine.le_aged c.age hforsaken hmiss 0
        omega
    · cases h

/-- Turns until a task is complete. -/
def complete : Nat → Engine → Shared → Option (Completion × Engine × Shared)
  | 0, _, _ => none
  | turns + 1, e, s =>
    match e.turn s with
    | (.completed c, e, s, _) => some (c, e, s)
    | (.going, e, s, _) => complete turns e s
    | _ => none

theorem run_complete {turns : Nat} {e e' : Engine} {s s' : Shared} {c : Completion}
    (h : complete turns e s = some (c, e', s')) :
    ∃ happened, Run Move (e, s) happened (e', s') := by
  -- turn by turn, as `complete` lets the engine go on
  induction turns generalizing e s with
  | zero => cases h
  | succ turns ih =>
    unfold complete at h
    split at h
    · cases h
      exact run_turn ‹_›
    · obtain ⟨first, hfirst⟩ := run_turn ‹_›
      obtain ⟨later, hlater⟩ := ih h
      exact ⟨_, hfirst.trans hlater⟩
    · cases h

/-- An engine with the robot `spinner`. -/
def spinning (interval : Nat) : Option (Robot × Engine × Shared) :=
  match (openIn {} interval).1.load .empty spinner with
  | .error _ => none
  | .ok e =>
    match complete 2 e (openIn {} interval).2.1 with
    | some (.module table, e, s) =>
      match e.task, complete 5 (e.construct table) s with
      | .idle, some (.robot r, e, s) => some (r, e, s)
      | _, _ => none
    | _ => none

theorem run_spinning {interval : Nat} {r : Robot} {e : Engine} {s : Shared}
    (h : spinning interval = some (r, e, s)) :
    ∃ happened, Run Move ((openIn {} interval).1, (openIn {} interval).2.1) happened (e, s) := by
  unfold spinning at h
  split at h
  · cases h
  · rename_i e₁ hload
    split at h
    · rename_i table e₂ s₂ hmodule
      split at h
      · rename_i r' e₃ s₃ hidle hrobot
        cases h
        -- both parts of the example are runs to a completion
        obtain ⟨first, hfirst⟩ := run_complete hmodule
        obtain ⟨later, hlater⟩ := run_complete hrobot
        exact ⟨_, ((Run.single (.begin_ rfl (.load hload))).trans hfirst).trans
          ((Run.single (.begin_ hidle (.construct table))).trans hlater)⟩
      · cases h
    · cases h

set_option maxRecDepth 100000 in
/-- The robot is asked to end before it starts, and goes on for more than an interval. -/
theorem spinning_executed : ∃ r e s, spinning 8 = some (r, e, s) ∧ e.id = 0 ∧ e.task = .idle
    ∧ s.inbox 0 = {} ∧ executed 16 (e.start r).machine = some 10 := by
  -- one evaluation settles all that the example has to show
  have heval : (match spinning 8 with
      | some (r, e, s) =>
        match e.task with
        | .idle => e.id = 0 && s.inbox 0 = {} && executed 16 (e.start r).machine = some 10
        | _ => false
      | none => false) = true := by decide +kernel
  split at heval
  · rename_i r e s hspinning
    split at heval
    · rename_i hidle
      rw [Bool.and_eq_true, Bool.and_eq_true, decide_eq_true_iff, decide_eq_true_iff,
        decide_eq_true_iff] at heval
      obtain ⟨⟨hid, hinbox⟩, hexecuted⟩ := heval
      exact ⟨r, e, s, hspinning, hid, hidle, hinbox, hexecuted⟩
    · cases heval
  · cases heval

/-- The call is queued before the robot starts. -/
theorem run_spinner : ∃ happened e s c,
    Run Watched (((openIn {} 8).1, (openIn {} 8).2.1), []) happened ((e, s), [c])
      ∧ e.machine.current = 0 ∧ 8 < c.age 0 := by
  obtain ⟨r, e, s, hspinning, hid, hidle, hinbox, hexecuted⟩ := spinning_executed
  obtain ⟨first, hfirst⟩ := run_spinning hspinning
  obtain ⟨calls, hwatched⟩ := watched_of_run hfirst []
  obtain ⟨hcovered, -⟩ := covered_of_run (covered_of_openIn (by decide) rfl) hwatched
  have hqueue := hcovered.queue
  rw [hid, hinbox] at hqueue
  obtain rfl := List.map_eq_nil_iff.mp hqueue
  have hanswer : ((e.bindRobot s r).1.post e.id .finish).1 = .queued := by
    change (((s.setInbox e.id (s.inbox e.id).bind).inbox e.id).post .finish).1 = .queued
    rw [Shared.inbox_setInbox hcovered.inbox_lt, hid, hinbox]
    rfl
  have hbind : Watched ((e, s), []) .bind ((e, (e.bindRobot s r).1), []) := .move (.bind r)
  have hpost : Watched ((e, (e.bindRobot s r).1), []) (.post .finish _)
      (_, watch _ (.post .finish _) []) := .move (.post .finish)
  rw [hanswer] at hpost
  have hstart :
      Watched ((e, ((e.bindRobot s r).1.post e.id .finish).2), [{ invocation := .finish }])
        .task ((e.start r, _), [{ invocation := .finish }]) := .move (.begin_ hidle (.start r))
  -- the call was accepted before the first instruction, so all that is executed counts
  have hsound := (hcovered.engine.move (y := (e.start r, s)) (.begin_ hidle (.start r))).1
  obtain ⟨e', c, hsteps, hcurrent, hage⟩ := run_executed hsound hexecuted { invocation := .finish }
  change 0 + 10 ≤ c.age 0 at hage
  exact ⟨_, e', _, c, (((hwatched.tail hbind).tail hpost).tail hstart).trans hsteps, hcurrent,
    by omega⟩

/-- **Not every thread delivers calls in time.** The main thread creates a coroutine that it
never resumes, and is not looked after any more. -/
theorem not_every_thread_in_time :
    ¬∀ {n : Nat} {s₀ s₁ s : Shared} {e₀ e : Engine} {signals : List Signal} {happened : List Deed}
      {calls : List Pending}, 0 < n → openIn s₀ n = (e₀, s₁, signals) →
      Run Watched ((e₀, s₁), []) happened ((e, s), calls) →
      ∀ c ∈ calls, c.age e.machine.current ≤ n := by
  intro hclaim
  obtain ⟨happened, e, s, c, hrun, hcurrent, hage⟩ := run_spinner
  have hle := hclaim (by decide) rfl hrun c (List.mem_singleton_self c)
  rw [hcurrent] at hle
  omega

/-- The coroutine, which owns the hook, has executed nothing meanwhile. -/
theorem owner_in_time_spinner : ∃ happened e s c,
    Run Watched (((openIn {} 8).1, (openIn {} 8).2.1), []) happened ((e, s), [c])
      ∧ 8 < c.age 0 ∧ c.age e.machine.hookOwner ≤ 8 := by
  obtain ⟨happened, e, s, c, hrun, -, hage⟩ := run_spinner
  have howner := (owner_in_time (by decide) rfl hrun).2.1
  exact ⟨happened, e, s, c, hrun, hage, howner c (List.mem_singleton_self c)⟩

end Engine
end RobotSession
