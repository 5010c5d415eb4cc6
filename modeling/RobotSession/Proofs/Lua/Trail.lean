import RobotSession.Proofs.Lua.Shift
import RobotSession.Proofs.Lua.Stray

/-!
# One interpreter behind another

Two interpreters that differ in their hooks do not go on in step: the one that has a hook stops
to look after the inbox, and does nothing else meanwhile. `Machine.seen` is an interpreter apart
from its hook and from where the hook has stopped it. A step of the interpreter is then a step of
what is seen of it, or it stands still for the hook (`Machine.seen_step`).

What is seen goes on in one way only, so one interpreter is *behind* another (`Machine.Trails`) if
what is seen of it comes to what is seen of the other. If the other one waits for its host, the one
behind gets there too: whenever it is stopped before, it has come nearer
(`Machine.advance_trails`).

* `Machine.settled`, `Machine.seen`, `Machine.next` — what is seen of an interpreter, and its steps.
* `Machine.Trails` — one interpreter behind another.
* `Machine.straysWithin` — whether the hook may show in so many steps.
* `Machine.trails_advance`, `Machine.advance_trails` — going ahead, and catching up.
* `Machine.bare_answer` — an answer of the host.
-/

namespace RobotSession.Lua

open Library

variable {g : Grain} {m : Machine}

namespace Machine

/-! ### What is seen of an interpreter -/

/-- The number of nested native calls for what is executed next. -/
def topDepth : List Frame → Nat → Nat
  | .lua _ d :: _, _ => d
  | _, depth => depth

/-- The interpreter before the hook has stopped it. -/
def settled (m : Machine) : Machine :=
  if m.mode.isReady then { m with depth := topDepth m.frames m.depth, mode := .run false } else m

/-- **What is seen of an interpreter**, apart from its hook. -/
def seen (g : Grain) (m : Machine) : Machine :=
  m.settled.bare g

/-- A step of what is seen. -/
def next (m : Machine) : Machine :=
  m.step.settled

/-- An interpreter that does not run a frame is settled. -/
theorem settled_of_not_ready (h : m.mode.isReady = false) : m.settled = m := by
  unfold settled
  rw [h]
  rfl

/-- It is seen without its hook. -/
theorem seen_of_not_ready (h : m.mode.isReady = false) : m.seen g = m.bare g := by
  unfold seen
  rw [settled_of_not_ready h]

/-- The depth at the top is that without the hook. -/
theorem topDepth_bare (frames : List Frame) (depth : Nat) :
    topDepth (frames.map (Frame.bare g)) depth = topDepth frames depth := by
  cases frames with
  | nil => rfl
  | cons f rest =>
    cases f with
    | _ => rfl

/-- What is seen is settled, and without the hook. -/
theorem settled_bare : (m.bare g).settled = m.seen g := by
  unfold seen settled
  rw [show (m.bare g).mode = m.mode from rfl]
  split
  · rw [show (m.bare g).frames = m.frames.map (Frame.bare g) from rfl, topDepth_bare]
    rfl
  · rfl

/-- What is seen of an interpreter that waits for its host. -/
theorem mode_of_seen {d : Machine} (hd : d.mode.isReady = false) (h : m.seen g = d) :
    m.mode.isReady = false ∧ m.bare g = d ∧ m.mode = d.mode := by
  cases hready : m.mode.isReady with
  -- a ready machine would be seen running, and `d` is not
  | true =>
    have hrun : (m.seen g).mode = .run false := by
      unfold seen settled
      rw [hready]
      rfl
    rw [h] at hrun
    rw [hrun] at hd
    cases hd
  | false =>
    rw [seen_of_not_ready hready] at h
    have hmode : (m.bare g).mode = d.mode := by rw [h]
    exact ⟨rfl, h, hmode⟩

/-! ### Steps of what is seen -/

/-- A call does not look at the mode. -/
theorem deeper_same (mode : Mode) (f : Value) (args : List Value) :
    ({ m with mode } : Machine).deeper (·.invoke f args) = m.deeper (·.invoke f args) := by
  unfold deeper
  dsimp only
  split
  · rfl
  · split
    · rfl
    · rfl

/-- Nor does a turn of the collector. -/
theorem collect_same (mode : Mode) : ({ m with mode } : Machine).collect = m.collect := by
  unfold collect
  rw [show ({ m with mode } : Machine).work Heap.collected
    = ((m.work Heap.collected).1, { (m.work Heap.collected).2 with mode }) from rfl]
  rcases m.work Heap.collected with ⟨_ | ⟨handler, id⟩, m₁⟩
  · rfl
  · exact deeper_same (m := m₁.push .finalizing) mode _ _

/-- What an instruction comes to does not depend on the number of nested native calls before it. -/
theorem effect_same (depth : Nat) (mode : Mode) (e : Effect) (d : Nat) :
    ({ m with depth, mode } : Machine).effect e d = m.effect e d := by
  cases e with
  -- depth and mode are overwritten by every effect, before the collector looks
  | next f => exact collect_same (m := { m with frames := .lua f d :: m.frames, depth := d }) mode
  | call f callee args origin isMeta =>
    unfold effect deeper
    dsimp only
    split
    · split
      · rfl
      · split
        · rfl
        · rfl
    · rfl
  | _ => rfl

/-- Nor does a script frame. -/
theorem runFrame_same (depth : Nat) (mode : Mode) (polled : Bool) (f : LuaFrame) (d : Nat) :
    ({ m with depth, mode } : Machine).runFrame polled f d = m.runFrame polled f d := by
  cases hi : f.proto.code[f.pc]? with
  | none =>
    rw [runFrame_of_end d hi, runFrame_of_end d hi]
  | some i =>
    -- at the end of the code, at a poll or at an instruction: depth and mode are set anew each time
    by_cases hpoll : m.polls polled i m.frames = .poll
    · rw [runFrame_of_poll d hi hpoll, runFrame_of_poll (m := { m with depth, mode }) d hi hpoll]
      rfl
    · rw [runFrame_of_go d hi hpoll, runFrame_of_go (m := { m with depth, mode }) d hi hpoll]
      have hcount : ∀ count, ({ m with depth, mode } : Machine).counted count
          = { m.counted count with depth, mode } := by
        intro count
        cases count with
        | _ => rfl
      unfold carryOut
      rw [hcount]
      exact effect_same (m := ((m.counted (m.polls polled i m.frames)).work _).2) depth mode _ d

/-- The hook runs once before an instruction. -/
theorem polls_true (i : Instr) (rest : List Frame) : m.polls true i rest = .go := by
  unfold polls
  split
  · rfl
  · rw [Bool.or_true]
    rfl

/-- **An instruction is a step of what is seen**, or the hook runs before it. -/
theorem seen_runTop {polled : Bool} (hmode : m.mode = .run polled) :
    (m.runTop polled).seen g = ((m.seen g).runTop false).settled
      ∨ (m.runTop polled).seen g = m.seen g
        ∧ (∃ ticket, (m.runTop polled).mode = .ask (.hookPoll ticket)) ∧ polled = false := by
  obtain ⟨heap, threads, current, frames, depth, mode, interval, owner, ticket, robot⟩ := m
  obtain rfl : mode = .run polled := hmode
  cases frames with
  | nil => exact .inl rfl
  | cons top rest =>
    cases top with
    | cont c d => exact .inl rfl
    | lua f d =>
      let below : Machine :=
        ⟨heap, threads, current, rest, depth, .run polled, interval, owner, ticket, robot⟩
      by_cases hpolls : ∃ i, f.proto.code[f.pc]? = some i ∧ below.polls polled i rest = .poll
      · -- the hook runs: the frame is still there, with the count set anew
        obtain ⟨i, hi, hpoll⟩ := hpolls
        have hstill := runFrame_of_poll d hi hpoll
        have hpolled : polled = false := by
          cases polled with
          | false => rfl
          | true =>
            rw [polls_true] at hpoll
            cases hpoll
        have hthreads : (below.setHook interval).threads.map (Thread.bare g)
            = threads.map (Thread.bare g) :=
          congrArg Machine.threads (bare_setHook (g := g) (m := below) interval)
        refine .inr ⟨?_, ⟨ticket, congrArg Machine.mode hstill⟩, hpolled⟩
        show (below.runFrame polled f d).seen g = _
        rw [hstill]
        exact congrArg (fun threads => { below.bare g with
          threads, frames := .lua f d :: rest.map (Frame.bare g), depth := d, mode := .run false })
          hthreads
      · -- the instruction is carried out
        have hgo : ∀ i, f.proto.code[f.pc]? = some i → below.polls polled i below.frames ≠ .poll :=
          fun i hi hpoll => hpolls ⟨i, hi, hpoll⟩
        have hstep := bare_runFrame (g := g) d hgo
        refine .inl ?_
        show (below.runFrame polled f d).seen g = ((_ : Machine).runFrame false f d).settled
        rw [← settled_bare, hstep]
        exact congrArg settled (runFrame_same (m := below.bare g) d (.run false) false f d).symm

/-- **A step is a step of what is seen**, or the interpreter stands still for its hook. -/
theorem seen_step (h : g.Allows m.strays) :
    m.step.seen g = (m.seen g).next
      ∨ m.step.seen g = m.seen g ∧ (∃ ticket, m.step.mode = .ask (.hookPoll ticket))
        ∧ m.mode ≠ .run true := by
  -- `m.seen.step` runs the top frame if the interpreter is ready, and else does what `m` does
  cases hmode : m.mode with
  | run polled =>
    have hstep : m.step = m.runTop polled := by
      unfold step
      rw [hmode]
    have hnext : (m.seen g).next = ((m.seen g).runTop false).settled := by
      unfold next step seen settled
      rw [hmode]
      rfl
    rw [hstep, hnext]
    rcases seen_runTop (g := g) hmode with hgo | ⟨hstill, hasks, rfl⟩
    · exact .inl hgo
    · exact .inr ⟨hstill, hasks, by simp⟩
  | ask w =>
    have hstep : m.step = m := by
      unfold step
      rw [hmode]
    rw [hstep]
    cases w with
    | hookPoll ticket => exact .inr ⟨rfl, ⟨ticket, hmode⟩, by simp⟩
    | _ =>
      refine .inl ?_
      rw [seen_of_not_ready (by rw [hmode]; rfl)]
      unfold next step
      rw [show (m.bare g).mode = m.mode from rfl, hmode]
      rw [settled_of_not_ready]
      rw [show (m.bare g).mode = m.mode from rfl, hmode]
      rfl
  | _ =>
    have hready : m.mode.isReady = false := by rw [hmode]; rfl
    rw [seen_of_not_ready hready]
    refine .inl ?_
    unfold next
    rw [← bare_step hready h, settled_bare]

/-- An interpreter that runs a frame does not stray. -/
theorem strays_of_ready (h : m.mode.isReady = true) : m.strays = false := by
  unfold strays
  cases hmode : m.mode with
  | run polled => rfl
  | ask w => rfl
  | ended result => rfl
  | _ =>
    rw [hmode] at h
    cases h

/-- The hook shows where it is seen to. -/
theorem strays_seen : (m.seen g).strays = m.strays := by
  cases hready : m.mode.isReady with
  | true =>
    rw [strays_of_ready hready, strays_of_ready]
    unfold seen settled
    rw [if_pos hready]
    rfl
  | false =>
    rw [seen_of_not_ready hready]
    exact strays_bare

/-! ### One interpreter behind another -/

/-- An interpreter that is stopped before an instruction has been stopped by its hook. -/
theorem held_of_isReady (hwaiting : m.isWaiting = true) (hready : m.mode.isReady = true) :
    ∃ ticket, m.mode = .ask (.hookPoll ticket) := by
  unfold isWaiting at hwaiting
  -- a machine that waits asks or has ended, and of the questions the hook's alone leaves it ready
  cases hmode : m.mode with
  | ask w =>
    rw [hmode] at hready
    cases w with
    | hookPoll ticket => exact ⟨ticket, rfl⟩
    | _ => cases hready
  | ended result =>
    rw [hmode] at hready
    cases hready
  | _ =>
    rw [hmode] at hwaiting
    cases hwaiting

/-- **What is seen of one interpreter comes to what is seen of another** in so many steps, none of
which strays. -/
inductive Trails (g : Grain) : Nat → Machine → Machine → Prop
  | refl (a : Machine) : Trails g 0 a a
  | step {n : Nat} {a b : Machine} (h : g.Allows a.strays) (rest : Trails g n a.next b) :
      Trails g (n + 1) a b

/-- One trail goes on where the other has ended. -/
theorem Trails.trans {n k : Nat} {a b c : Machine} (h : Trails g n a b) (h' : Trails g k b c) :
    Trails g (n + k) a c := by
  induction h with
  | refl a => simpa using h'
  | step hallows _ ih =>
    rw [Nat.add_right_comm]
    exact .step hallows (ih h')

/-- The hook may show in the next steps; `n` bounds their number. -/
def straysWithin : Nat → Machine → Bool
  | 0, _ => false
  | n + 1, m => !m.isWaiting && (m.strays || straysWithin n m.step)

/-- An interpreter that waits does not go on. -/
theorem advance_of_isWaiting (h : m.isWaiting = true) (n : Nat) : m.advance n = m := by
  cases n with
  | zero => rfl
  | succ n =>
    unfold advance
    rw [if_pos h]

/-- Any other one takes a step. -/
theorem advance_of_not_isWaiting (h : m.isWaiting = false) (n : Nat) :
    m.advance (n + 1) = m.step.advance n := by
  rw [advance, h]
  rfl

/-- **An interpreter goes ahead** by steps of what is seen of it. -/
theorem trails_advance {n : Nat} (h : g.Allows (m.straysWithin n)) :
    ∃ k, Trails g k (m.seen g) ((m.advance n).seen g) := by
  induction n generalizing m with
  | zero => exact ⟨0, .refl _⟩
  | succ n ih =>
    cases hwaiting : m.isWaiting with
    | true =>
      rw [advance_of_isWaiting hwaiting]
      exact ⟨0, .refl _⟩
    | false =>
      unfold straysWithin at h
      rw [hwaiting, Bool.not_false, Bool.true_and] at h
      have hnow : g.Allows m.strays := by
        intro hstray
        exact h (by rw [hstray]; rfl)
      obtain ⟨k, hrest⟩ := ih (m := m.step) fun hstray => h (by rw [hstray, Bool.or_true])
      rw [advance_of_not_isWaiting hwaiting]
      -- a step is seen as a step, or as none if it only counts for the hook
      rcases seen_step hnow with hgo | ⟨hstill, -⟩
      · rw [hgo] at hrest
        exact ⟨k + 1, .step (by rw [strays_seen]; exact hnow) hrest⟩
      · rw [hstill] at hrest
        exact ⟨k, hrest⟩

/-- **How far an interpreter that is behind gets** on the way to one that waits for its host: it
arrives, or the hook stops it, or there was no time for more steps. -/
inductive Gets (g : Grain) (m : Machine) (d : Machine) (n : Nat) (j : Nat) (m' : Machine) : Prop
  | arrives (h : m'.bare g = d) (hmode : m'.mode = d.mode)
  | held (ticket : Nat) (hmode : m'.mode = .ask (.hookPoll ticket)) (k : Nat)
      (hk : k ≤ j) (hnearer : m.mode = .run true → n ≠ 0 → k < j) (h : Trails g k (m'.seen g) d)
  | late (hmode : m'.isWaiting = false) (k : Nat) (hk : k + n ≤ j) (h : Trails g k (m'.seen g) d)

/-- An interpreter that waits for its host goes nowhere. -/
theorem next_of_isWaiting (hwaiting : m.isWaiting = true) (hready : m.mode.isReady = false) :
    m.next = m := by
  -- a step does not move a machine that waits
  have hstep : m.step = m := by
    unfold isWaiting at hwaiting
    unfold step
    cases hmode : m.mode with
    | ask w => rfl
    | ended result => rfl
    | _ =>
      rw [hmode] at hwaiting
      cases hwaiting
  unfold next
  rw [hstep, settled_of_not_ready hready]

/-- Where nothing is next, the trail has ended. -/
theorem Trails.eq_of_next_eq {n : Nat} {a b : Machine} (h : Trails g n a b) (hnext : a.next = a) :
    b = a := by
  induction h with
  | refl a => rfl
  | step hallows rest ih =>
    rw [hnext] at ih
    exact ih hnext

/-- An interpreter that waits for its host has arrived, or its hook has stopped it. -/
theorem gets_of_isWaiting {d : Machine} {n j : Nat} (h : Trails g j (m.seen g) d)
    (hwaiting : m.isWaiting = true) : Gets g m d n j m := by
  cases hready : m.mode.isReady with
  | true =>
    cases hmode : m.mode with
    | ask w =>
      cases w with
      | hookPoll ticket =>
        -- of all questions only the hook's is not seen
        refine .held ticket hmode j (Nat.le_refl j) ?_ h
        intro hrun
        rw [hmode] at hrun
        cases hrun
      | _ =>
        rw [hmode] at hready
        cases hready
    | run polled =>
      unfold isWaiting at hwaiting
      rw [hmode] at hwaiting
      cases hwaiting
    | _ =>
      rw [hmode] at hready
      cases hready
  | false =>
    rw [seen_of_not_ready hready] at h
    have hnext : (m.bare g).next = m.bare g := next_of_isWaiting hwaiting hready
    obtain rfl := h.eq_of_next_eq hnext
    exact .arrives rfl rfl

/-- **An interpreter that is behind catches up**, as far as it has time. -/
theorem advance_trails {d : Machine} (hd : d.isWaiting = true) (hready : d.mode.isReady = false)
    {n j : Nat} (h : Trails g j (m.seen g) d) : Gets g m d n j (m.advance n) := by
  induction n generalizing m j with
  | zero =>
    cases hwaiting : m.isWaiting with
    | true => exact gets_of_isWaiting h hwaiting
    | false => exact .late hwaiting j (Nat.le_refl j) h
  | succ n ih =>
    cases hwaiting : m.isWaiting with
    | true =>
      rw [advance_of_isWaiting hwaiting]
      exact gets_of_isWaiting h hwaiting
    | false =>
      rw [advance_of_not_isWaiting hwaiting]
      cases h with
      | refl =>
        -- what is seen of an interpreter that goes on does not wait for its host
        have hmode : m.mode = (m.seen g).mode := (mode_of_seen hready rfl).2.2
        unfold isWaiting at hd hwaiting
        rw [← hmode, hwaiting] at hd
        cases hd
      | @step j _ _ hallows rest =>
        rw [strays_seen] at hallows
        rcases seen_step hallows with hgo | ⟨hstill, ⟨ticket, hasks⟩, hrun⟩
        · rw [← hgo] at rest
          cases ih rest with
          | arrives h hmode => exact .arrives h hmode
          | held ticket hmode k hk hnearer h =>
            exact .held ticket hmode k (Nat.le_succ_of_le hk) (fun _ _ => Nat.lt_succ_of_le hk) h
          | late hmode k hk h => exact .late hmode k (Nat.succ_le_succ hk) h
        · have hwaits : m.step.isWaiting = true := by
            unfold isWaiting
            rw [hasks]
          rw [advance_of_isWaiting hwaits]
          refine .held ticket hasks (j + 1) (Nat.le_refl _) (fun hmode => absurd hmode hrun) ?_
          rw [hstill]
          exact .step (by rw [strays_seen]; exact hallows) rest

end Machine

/-! ### Answers and calls of the host -/

/-- A reply that leaves the other threads alone. -/
def Reply.isTame : Reply → Bool
  | .resume .. => false
  | .yield _ => false
  | _ => true

/-- **Work that leaves the other threads alone**, whatever comes of it. -/
def Body.Tame (b : Body Reply) : Prop :=
  ∀ h, ((b.toAct h).1).isTame = true

namespace Body

/-- A tame reply is tame work. -/
theorem tame_pure {r : Reply} (h : r.isTame = true) : Tame (pure r) :=
  fun _ => h

/-- So is a fault. -/
theorem tame_throw (f : Fault) : Tame (throw f) :=
  fun _ => rfl

/-- Work is as tame as what it ends with. -/
theorem tame_bind {α : Type} {b : Body α} {k : α → Body Reply} (h : ∀ a, Tame (k a)) :
    Tame (b >>= k) := by
  intro heap
  have hbind : (b >>= k) heap = ExceptT.bindCont k (b heap).1 (b heap).2 := rfl
  unfold toAct
  rw [hbind]
  rcases b heap with ⟨r, heap'⟩
  cases r with
  | error f => rfl
  | ok a => exact h a heap'

end Body

/-- A program that has been read is given or called. -/
theorem tame_fileRead (path : ByteArray) (environment : Option Value) (run : Bool)
    (content : Except (String × Nat) ByteArray) :
    (Basics.fileRead path environment run content).Tame := by
  unfold Basics.fileRead
  rcases content with ⟨reason, number⟩ | source
  all_goals
    refine Body.tame_bind fun loaded => ?_
    split
    · exact Body.tame_pure rfl
    · dsimp only
      split
      · exact Body.tame_pure rfl
      · exact Body.tame_throw _

/-- A module that has been found is given, and else the next file is tried. -/
theorem tame_searchRead (file : ByteArray) (rest : List ByteArray) (messages : ByteArray)
    (load : Bool) (content : Except (String × Nat) ByteArray) :
    (Packages.searchRead file rest messages load content).Tame := by
  unfold Packages.searchRead
  -- a file that cannot be read sends the search on, and one that can is loaded
  cases content with
  | error f =>
    apply Body.tame_pure
    unfold Packages.searchFrom
    split
    · split
      · rfl
      · rfl
    · rfl
  | ok source =>
    dsimp only
    split
    · exact Body.tame_pure rfl
    · apply Body.tame_bind
      intro loaded
      split
      · exact Body.tame_pure rfl
      · exact Body.tame_throw _
      · exact Body.tame_pure rfl

/-- What has been found of a file is given, or told as an error. -/
theorem tame_opened (path : ByteArray) (use : FileUse) (content : Except (String × Nat) ByteArray) :
    (Streams.opened path use content).Tame := by
  unfold Streams.opened
  cases use with
  | reads =>
    cases content with
    | ok content => exact Body.tame_bind fun id => Body.tame_pure rfl
    | error f => exact Body.tame_pure rfl
  | changes =>
    cases content with
    | _ => exact Body.tame_pure rfl
  | input =>
    cases content with
    | ok content => exact Body.tame_bind fun id => Body.tame_bind fun _ => Body.tame_pure rfl
    | error f => exact Body.tame_throw _
  | lines formats =>
    cases content with
    | ok content => exact Body.tame_bind fun id => Body.tame_bind fun step => Body.tame_pure rfl
    | error f => exact Body.tame_throw _

/-- So is a date, which may be told in a new table. -/
theorem tame_dated (template : ByteArray) (t : Int) : (Dates.dated template t).Tame := by
  unfold Dates.dated
  dsimp only
  split
  · exact Body.tame_throw _
  · split
    · exact Body.tame_bind fun table => Body.tame_pure rfl
    · split
      · exact Body.tame_pure rfl
      · exact Body.tame_throw _

/-- **A built-in function that has asked the host leaves the other threads alone.** -/
theorem tame_withAnswer (r : Request) (a : Answer) : (r.withAnswer a).Tame := by
  -- no answer makes a function act on threads
  cases r with
  | logging line =>
    cases a with
    | panicked payload => exact Body.tame_throw _
    | _ => exact Body.tame_pure rfl
  | sleepStart duration =>
    cases a with
    | _ => exact Body.tame_pure rfl
  | sleepCheck deadline => exact Body.tame_pure rfl
  | sleepClock deadline =>
    cases a with
    | time now =>
      apply Body.tame_pure
      split
      · rfl
      · rfl
    | _ => exact Body.tame_pure rfl
  | sleepWait deadline => exact Body.tame_pure rfl
  | loadRead path environment run =>
    cases a with
    | file content => exact tame_fileRead _ _ _ _
    | _ => exact Body.tame_pure rfl
  | searchRead path rest messages load =>
    cases a with
    | file content => exact tame_searchRead _ _ _ _ _
    | _ => exact Body.tame_pure rfl
  | opening path use =>
    cases a with
    | file content => exact tame_opened path use content
    | _ => exact Body.tame_pure rfl
  | writing toError text result => exact Body.tame_pure rfl
  | exiting code => exact Body.tame_pure rfl
  | variableRead name =>
    cases a with
    | _ => exact Body.tame_pure rfl
  | secondsRead isWhole =>
    cases a with
    | time now =>
      cases isWhole with
      | _ => exact Body.tame_pure rfl
    | _ => exact Body.tame_pure rfl
  | dateRead template =>
    cases a with
    | time now => exact tame_dated template _
    | _ => exact Body.tame_pure rfl
  | memoryRead isStep =>
    cases a with
    | time now =>
      cases isStep with
      | _ => exact Body.tame_pure rfl
    | _ => exact Body.tame_pure rfl

namespace Machine

/-- **Tame work does not stray.** -/
theorem straysActing_of_tame {b : Body Reply} (h : b.Tame) : m.straysActing b = false := by
  have htame : ((m.work b.toAct).1).isTame = true := h m.heap
  unfold straysActing
  dsimp only
  -- only resuming and yielding can stray, and a tame body does neither
  cases hr : (m.work b.toAct).1 with
  | resume id args isWrapped =>
    rw [hr] at htame
    cases htame
  | yield values =>
    rw [hr] at htame
    cases htame
  | _ => rfl

/-- **The host's answer** does the same without the hook, unless the hook has asked. -/
theorem bare_answer {w : Waiting} (hmode : m.mode = .ask w) (hhook : m.mode.isReady = false)
    (a : Answer) : (m.answer a).bare g = (m.bare g).answer a := by
  obtain ⟨heap, threads, current, frames, depth, mode, interval, owner, ticket, robot⟩ := m
  obtain rfl : mode = .ask w := hmode
  -- the machine as it goes on, with the answer given
  let m : Machine :=
    ⟨heap, threads, current, frames, depth, .run false, interval, owner, ticket, robot⟩
  cases w with
  | native r =>
    have hact := bare_act (g := g) (m := m)
      (Grain.allows_of_eq_false (straysActing_of_tame (tame_withAnswer r a))) none .unknown
    cases r with
    | sleepCheck deadline =>
      cases a with
      | flag b =>
        cases b with
        | true => exact bare_drain ..
        | false => exact hact
      | _ => exact hact
    | _ => exact hact
  | hookPoll ticket => cases hhook
  | drainTake reason =>
    cases a with
    | invocation i =>
      cases i with
      | some i => exact bare_drain (m := m) ..
      | none => exact bare_drained (m := m) reason
    | _ => exact bare_drained (m := m) reason
  | drainReport reason i error => exact bare_drain (m := m) ..

/-- **The hook finds nothing**: what is seen stays as it is, and the instruction is next. -/
theorem seen_answer_hookPoll {ticket : Nat} (hmode : m.mode = .ask (.hookPoll ticket)) {a : Answer}
    (ha : a ≠ .flag true) :
    (m.answer a).seen g = m.seen g ∧ (m.answer a).mode = .run true := by
  rw [answer_hookPoll hmode ha]
  refine ⟨?_, rfl⟩
  unfold seen settled
  rw [hmode]
  rfl

/-- A call of the host begins in the same way. -/
theorem bare_start (f : Value) (args : List Value) :
    (m.start f args).bare g = (m.bare g).start f args :=
  bare_push_deeper (m := { m with current := 0, frames := [], depth := 0 }) .entry f args

end Machine

end RobotSession.Lua
