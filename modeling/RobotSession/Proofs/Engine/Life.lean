import RobotSession.Engine.Run
import RobotSession.Proofs.Lua.Threads
import RobotSession.Proofs.Run

/-!
# The life of an engine

An engine lives among other threads. Between two steps of its interpreter they may post
calls, and the engine's own thread may begin a task, bind the robot or close the engine.
`Engine.Move` has one case for each of these, fine enough for every interleaving: no case
touches the inbox more than once.

`Engine.turn`, by which a session lets an engine go on, is a run of such moves
(`Engine.run_turn`), so what is shown for all runs here holds in every session.

* `Deed` — what a move does, as far as the inbox is concerned.
* `Engine.Move` — the moves.
* `Engine.Sound` — an engine in order: its interpreter is, and an idle one has ended.
* `Engine.Sound.move` — every move keeps an engine in order.
-/

namespace RobotSession

open Lua

/-! ### Moves -/

/-- **What a move does**, as far as the inbox of the engine is concerned. -/
inductive Deed
  /-- The interpreter takes a step. -/
  | step
  /-- The interpreter is given an answer that does not take a call. -/
  | serve
  /-- A delivery asks for the oldest call, and is handed it if there is one. -/
  | take (reason : DrainReason) (found : Option Invocation)
  /-- A call of a task has ended, or a task begins. -/
  | task
  | bind
  /-- The engine is closed; these calls are discarded. -/
  | close (rest : List Invocation)
  /-- Some thread posts a call, and is told what becomes of it. -/
  | post (invocation : Invocation) (answer : Delivery)
  /-- Something else happens. -/
  | elsewhere

/-- Whether a move leaves the engine alone. -/
def Deed.isAround : Deed → Bool
  | .bind | .post .. | .elsewhere => true
  | _ => false

namespace Engine

/-- A task begins. -/
inductive Begins (e : Engine) : Engine → Prop
  | version : Begins e e.version
  | load {path : ByteArray} {source : String} {e' : Engine} (h : e.load path source = .ok e') :
      Begins e e'
  | construct (module : Nat) : Begins e (e.construct module)
  | start (r : Robot) : Begins e (e.start r)

/-- **A move** of an engine, or of the threads around it. -/
inductive Move : Engine × Shared → Deed → Engine × Shared → Prop
  | step {e : Engine} {s : Shared} (h : e.machine.isWaiting = false) :
      Move (e, s) .step ({ e with machine := e.machine.step }, s)
  | serve {e e' : Engine} {s s' : Shared} {w : Waiting} {t : Turn} {signals : List Signal}
      (hmode : e.machine.mode = .ask w) (htake : w.question ≠ .take)
      (h : e.serve s w.question = (t, e', s', signals)) : Move (e, s) .serve (e', s')
  | logged {e : Engine} {s : Shared} {w : Waiting} {line : String} (hmode : e.machine.mode = .ask w)
      (hlog : w.question = .log line) (panic : Option Payload) :
      Move (e, s) .serve (e.logged panic, s)
  | take {e : Engine} {s : Shared} {reason : DrainReason}
      (hmode : e.machine.mode = .ask (.drainTake reason)) :
      Move (e, s) (.take reason (s.inbox e.id).pop.1)
        (e.answer (.invocation (s.inbox e.id).pop.1), s.setInbox e.id (s.inbox e.id).pop.2)
  | settle {e : Engine} {s : Shared} {result : Except Value (List Value)}
      (hmode : e.machine.mode = .ended result) : Move (e, s) .task ((e.settle result).2, s)
  | begin_ {e e' : Engine} {s : Shared} (hidle : e.task = .idle) (h : e.Begins e') :
      Move (e, s) .task (e', s)
  | bind {e : Engine} {s : Shared} (r : Robot) : Move (e, s) .bind (e, (e.bindRobot s r).1)
  | close {e : Engine} {s : Shared} (hidle : e.task = .idle) :
      Move (e, s) (.close (s.inbox e.id).queue) (e.close.2, (e.closeInbox s).1)
  | post {e : Engine} {s : Shared} (i : Invocation) :
      Move (e, s) (.post i (s.post e.id i).1) (e, (s.post e.id i).2)
  | elsewhere {e : Engine} {s s' : Shared} (hinbox : s'.inbox e.id = s.inbox e.id)
      (hsize : s.inboxes.size ≤ s'.inboxes.size) : Move (e, s) .elsewhere (e, s')

/-! ### The parts of a move -/

/-- What a move that takes a call has found. -/
theorem mode_of_take {e e' : Engine} {s s' : Shared} {reason : DrainReason}
    {found : Option Invocation} (h : Move (e, s) (.take reason found) (e', s')) :
    e.machine.mode = .ask (.drainTake reason) ∧ (s.inbox e.id).pop.1 = found
      ∧ e' = e.answer (.invocation found) := by
  cases h with
  | take hmode => exact ⟨hmode, rfl, rfl⟩

/-- **An engine that asks** is answered, and does nothing else meanwhile. -/
theorem move_of_ask {e e' : Engine} {s s' : Shared} {w : Waiting} {l : Deed}
    (hmode : e.machine.mode = .ask w) (hbusy : e.task ≠ .idle) (h : Move (e, s) l (e', s')) :
    (∃ reason, w = .drainTake reason ∧ l = .take reason (s.inbox e.id).pop.1)
      ∨ l = .serve ∧ w.question ≠ .take
        ∧ ((∃ t signals, e.serve s w.question = (t, e', s', signals)) ∨ ∃ line, w.question = .log line)
      ∨ e' = e ∧ l.isAround = true := by
  -- a move that answers fits the question, any other one is around the engine
  cases h with
  | step hgo =>
    unfold Machine.isWaiting at hgo
    rw [hmode] at hgo
    cases hgo
  | serve hw htake hserve =>
    obtain rfl := Mode.ask.inj (hw.symm.trans hmode)
    exact .inr (.inl ⟨rfl, htake, .inl ⟨_, _, hserve⟩⟩)
  | logged hw hlog panic =>
    obtain rfl := Mode.ask.inj (hw.symm.trans hmode)
    exact .inr (.inl ⟨rfl, by rw [hlog]; exact nofun, .inr ⟨_, hlog⟩⟩)
  | @take _ _ reason hw =>
    obtain rfl := Mode.ask.inj (hw.symm.trans hmode)
    exact .inl ⟨reason, rfl, rfl⟩
  | settle hw => exact nomatch hw.symm.trans hmode
  | begin_ hidle hb => exact absurd hidle hbusy
  | close hidle => exact absurd hidle hbusy
  | bind r => exact .inr (.inr ⟨rfl, rfl⟩)
  | post i => exact .inr (.inr ⟨rfl, rfl⟩)
  | elsewhere hinbox hsize => exact .inr (.inr ⟨rfl, rfl⟩)

/-- What a call of a task has come to is found out on the store. -/
theorem outcome_machine (e : Engine) (result : Except Value (List Value)) (wantsValue : Bool) :
    ∃ (α : Type) (w : Work α), (e.outcome result wantsValue).2
      = { e with machine := (e.machine.work w).2 } := by
  unfold outcome
  dsimp only
  split
  · exact ⟨_, _, rfl⟩
  · exact ⟨_, _, rfl⟩
  · exact ⟨_, _, rfl⟩

/-- A field is looked up for a task, by the same engine. -/
theorem lookUp_frame (e : Engine) (table : Nat) (name : String) (task : Task) :
    (e.lookUp table name task).id = e.id ∧ (e.lookUp table name task).task = task := by
  unfold lookUp
  dsimp only
  split
  · exact ⟨rfl, rfl⟩
  · exact ⟨rfl, rfl⟩
  · exact ⟨rfl, rfl⟩

/-- A task is begun by the same engine. -/
theorem id_begins {e e' : Engine} (h : e.Begins e') : e'.id = e.id := by
  cases h with
  | version => exact (e.lookUp_frame _ _ _).1
  | construct module => exact (e.lookUp_frame _ _ _).1
  | start r => rfl
  | load hload =>
    unfold Engine.load at hload
    dsimp only at hload
    split at hload
    · cases hload
    · cases hload
    · obtain rfl := Except.ok.inj hload
      rfl

/-- Finalizers leave an engine its number. -/
theorem id_finalize (e : Engine) (tables : List Nat) : (e.finalize tables).2.id = e.id := by
  -- tables without a finalizer are passed over
  induction tables with
  | nil => rfl
  | cons table rest ih =>
    unfold Engine.finalize
    split
    · rfl
    · exact ih

/-- So does it to be closed. -/
theorem id_close (e : Engine) : e.close.2.id = e.id :=
  id_finalize _ _

/-- **An engine at rest**: its interpreter has ended, and has a given outline. -/
structure Rests (o : Outline) (id : Nat) (e : Engine) : Prop where
  outline : e.machine.outline = o
  ended : ∃ result, e.machine.mode = .ended result
  id : e.id = id

/-- **What a task comes to** between two calls of the host: the engine is at rest, or the
next call begins on the main thread. -/
inductive GoesOn (o : Outline) (id : Nat) (e : Engine) : Prop
  | rests (h : Rests o id e)
  | calls (h : Machine.Calm { o with current := 0, marks := [.host] } e.machine) (hid : e.id = id)
      (htask : e.task ≠ .idle)

variable {e e' : Engine} {o : Outline} {id : Nat} {task : Task}

/-! ### Tasks -/

namespace Rests

/-- An engine rests once a call has ended. -/
theorem of_ended {result : Except Value (List Value)} (h : e.machine.mode = .ended result) :
    Rests e.machine.outline e.id e := ⟨rfl, ⟨_, h⟩, rfl⟩

/-- The task and the store do not matter. -/
theorem of_work (h : Rests o id e) {α : Type} (w : Work α) (task : Task) :
    Rests o id { e with machine := (e.machine.work w).2, task } :=
  ⟨h.outline, h.ended, h.id⟩

/-- It rests when its task is done. -/
theorem done (h : Rests o id e) (c : Completion) : Rests o id (e.done c).2 :=
  ⟨h.outline, h.ended, h.id⟩

/-- It rests while it makes an outcome of the result. -/
theorem outcome (h : Rests o id e) (result : Except Value (List Value)) (wantsValue : Bool) :
    Rests o id (e.outcome result wantsValue).2 := by
  obtain ⟨α, w, hw⟩ := e.outcome_machine result wantsValue
  rw [hw]
  exact h.of_work w e.task

/-- It goes on with the next call of a task. -/
theorem call (h : Rests o id e) (f : Value) (args : List Value) (htask : task ≠ .idle) :
    GoesOn o id (e.call f args task) := by
  have hstart := Machine.calm_start (m := e.machine) f args
  rw [h.outline] at hstart
  exact .calls hstart h.id htask

/-- It goes on, or rests, with the next field. -/
theorem lookUp (h : Rests o id e) (table : Nat) (name : String) (htask : task ≠ .idle) :
    GoesOn o id (e.lookUp table name task) := by
  have hends : ∀ result', GoesOn o id
      { e with machine := { e.machine with mode := .ended result' }, task } :=
    fun result' => .rests ⟨h.outline, ⟨_, rfl⟩, h.id⟩
  unfold Engine.lookUp
  dsimp only
  split
  · exact hends _
  · exact h.call _ _ htask
  · exact hends _

/-- It goes on with the finalizers. -/
theorem finalize (h : Rests o id e) (tables : List Nat) : GoesOn o id (e.finalize tables).2 := by
  -- tables without a finalizer are passed over until one has something to run
  induction tables with
  | nil => exact .rests (h.done _)
  | cons table rest ih =>
    unfold Engine.finalize
    split
    · exact h.call _ _ nofun
    · exact ih

/-- **A task goes on**, or ends, from call to call. -/
theorem settle (h : Rests o id e) (result : Except Value (List Value)) :
    GoesOn o id (e.settle result).2 := by
  -- the outcome is found out on the store, so the engine is still at rest after that
  have hvalue := h.outcome result true
  have hplain := h.outcome result false
  unfold Engine.settle
  split
  · exact .rests h
  · split
    all_goals rename_i heq; rw [heq] at hvalue
    · exact .rests (hvalue.done _)
    · exact .rests (hvalue.done _)
    · exact .rests (hvalue.done _)
  · split
    all_goals rename_i heq; rw [heq] at hvalue
    · exact .rests (hvalue.done _)
    · exact .rests (hvalue.done _)
    · exact .rests (hvalue.done _)
    · exact .rests (hvalue.done _)
  · split
    all_goals rename_i heq; rw [heq] at hvalue
    · exact hvalue.call _ _ nofun
    · exact .rests (hvalue.done _)
    · exact .rests (hvalue.done _)
  · split
    all_goals rename_i heq; rw [heq] at hvalue
    · rename_i v e₁
      have hretain : Rests o id (e₁.retain v) := ⟨hvalue.outline, hvalue.ended, hvalue.id⟩
      dsimp only
      split
      · exact hretain.lookUp _ _ nofun
      · exact .rests (hretain.done _)
    · exact .rests (hvalue.done _)
    · exact .rests (hvalue.done _)
  · split
    all_goals rename_i heq; rw [heq] at hvalue
    · exact hvalue.lookUp _ _ nofun
    · exact .rests (hvalue.done _)
    · exact .rests (hvalue.done _)
  · split
    all_goals rename_i heq; rw [heq] at hvalue
    · exact .rests (hvalue.done _)
    · exact .rests ⟨hvalue.outline, hvalue.ended, hvalue.id⟩
  · split
    all_goals rename_i heq; rw [heq] at hplain
    · exact .rests (hplain.done _)
    · exact .rests (hplain.done _)
    · exact .rests (hplain.done _)
  · exact h.finalize _

/-- It goes on with a task that is begun. -/
theorem begins (h : Rests o id e) (hb : e.Begins e') : GoesOn o id e' := by
  cases hb with
  -- each task begins by a lookup or by a call, on a machine that was at rest
  | version => exact h.lookUp _ _ nofun
  | construct module => exact h.lookUp _ _ nofun
  | start r => exact h.call _ _ nofun
  -- a load calls the chunk in the scope of the globals; the other two branches of `load` return no
  -- engine
  | load hload =>
    unfold Engine.load at hload
    dsimp only at hload
    split at hload
    · cases hload
    · cases hload
    · rename_i c _
      have hwork := h.of_work (c.enter (.table e.machine.heap.globals)) e.task
      obtain rfl := Except.ok.inj hload
      exact hwork.call _ _ nofun

/-- When an engine is closed, instructions are not counted any more. -/
theorem close (h : Rests o id e) : GoesOn { o with interval := none } id e.close.2 := by
  have hm : Rests { o with interval := none } id { e with machine := { e.machine with
      interval := none, heap := e.machine.heap.closed } } :=
    ⟨congrArg (fun o : Outline => { o with interval := none }) h.outline, h.ended, h.id⟩
  exact hm.finalize e.machine.heap.finalizers

end Rests

/-! ### Engines in order -/

/-- **An engine in order**: its interpreter is, and an engine without a task has nothing to
do. -/
structure Sound (e : Engine) : Prop where
  machine : e.machine.Sound
  idle : e.task = .idle → ∃ result, e.machine.mode = .ended result

/-- A sound engine without a task rests. -/
theorem Sound.rests (h : Sound e) (hidle : e.task = .idle) : Rests e.machine.outline e.id e :=
  ⟨rfl, h.idle hidle, rfl⟩

/-- An engine that goes on has the same number. -/
theorem GoesOn.id_eq (h : GoesOn o id e) : e.id = id := by
  cases h with
  | rests h => exact h.id
  | calls h hid htask => exact hid

/-- It is sound if its threads are. -/
theorem GoesOn.sound (h : GoesOn o id e) (ho : o.Sound) (hcurrent : o.current = 0)
    (hmarks : o.marks = []) : Sound e := by
  cases h with
  | rests h =>
    obtain rfl := h.outline
    exact ⟨.of_ended ho h.ended hcurrent hmarks, fun _ => h.ended⟩
  | calls h hid htask =>
    have hstart : ({ o with current := 0 } : Outline).Sound := by
      rw [← hcurrent]
      exact ho
    exact ⟨h.sound (hstart.marks (Outline.stacked_host rfl)), fun hidle => absurd hidle htask⟩

/-- **An answer leaves an engine sound.** -/
theorem Sound.answer (h : Sound e) {w : Waiting} (hmode : e.machine.mode = .ask w) (a : Answer) :
    Sound (e.answer a) := by
  refine ⟨h.machine.answer a, fun hidle => ?_⟩
  obtain ⟨result, hended⟩ := h.idle hidle
  rw [hmode] at hended
  cases hended

/-- What an interpreter asks for is answered by its own engine, and nothing but the clock
changes unless a call is taken. The flag of the inbox is answered as it is, and nothing else is
answered with a flag. -/
theorem serve_cases {s s' : Shared} {q : Ask} {t : Turn} {signals : List Signal}
    (htake : q ≠ .take) (h : e.serve s q = (t, e', s', signals)) :
    (e' = e ∨ ∃ a, e' = e.answer a ∧ (q = .pending → a = .flag (s.inbox e.id).isPending)
        ∧ ∀ b, a = .flag b → b = (s.inbox e.id).isPending)
      ∧ s' = { s with clock := s'.clock } := by
  cases q with
  | take => exact absurd rfl htake
  | wait deadline =>
    -- a sleep that is not over is asked about again
    unfold serve at h
    dsimp only at h
    split at h
    · cases h
      exact ⟨.inr ⟨_, rfl, nofun, nofun⟩, rfl⟩
    · cases h
      exact ⟨.inl rfl, rfl⟩
  | log | exit =>
    cases h
    exact ⟨.inl rfl, rfl⟩
  | pending =>
    cases h
    exact ⟨.inr ⟨_, rfl, fun _ => rfl, fun b hb => (Answer.flag.inj hb).symm⟩, rfl⟩
  | failed | clock | readFile | output | environment =>
    cases h
    exact ⟨.inr ⟨_, rfl, nofun, nofun⟩, rfl⟩

/-! ### Moves -/

variable {x y : Engine × Shared} {l : Deed}

/-- **Every move keeps the engine in order.** -/
theorem Sound.move (h : Sound x.1) (hmove : Move x l y) : Sound y.1 ∧ y.1.id = x.1.id := by
  cases hmove with
  | step hgo =>
    rename_i e s
    refine ⟨⟨h.machine.step, fun hidle => ?_⟩, rfl⟩
    -- an engine without a task has ended, and does not step
    obtain ⟨result, hended⟩ := h.idle hidle
    unfold Machine.isWaiting at hgo
    rw [hended] at hgo
    cases hgo
  | serve hmode htake hserve =>
    obtain ⟨rfl | ⟨a, rfl, -⟩, -⟩ := serve_cases htake hserve
    · exact ⟨h, rfl⟩
    · exact ⟨h.answer hmode a, rfl⟩
  | logged hmode hlog panic => exact ⟨h.answer hmode _, rfl⟩
  | take hmode => exact ⟨h.answer hmode _, rfl⟩
  | @settle e s result hmode =>
    obtain ⟨hcurrent, hmarks⟩ := h.machine.ended hmode
    have hgoes := (Rests.of_ended hmode).settle result
    exact ⟨hgoes.sound h.machine.outline hcurrent hmarks, hgoes.id_eq⟩
  | begin_ hidle hb =>
    obtain ⟨result, hmode⟩ := h.idle hidle
    obtain ⟨hcurrent, hmarks⟩ := h.machine.ended hmode
    have hgoes := (h.rests hidle).begins hb
    exact ⟨hgoes.sound h.machine.outline hcurrent hmarks, hgoes.id_eq⟩
  | bind r => exact ⟨h, rfl⟩
  | close hidle =>
    obtain ⟨result, hmode⟩ := h.idle hidle
    obtain ⟨hcurrent, hmarks⟩ := h.machine.ended hmode
    have hgoes := (h.rests hidle).close
    refine ⟨hgoes.sound ?_ hcurrent hmarks, hgoes.id_eq⟩
    -- the chain of threads has nothing to do with the interval
    exact h.machine.outline.of_strand_eq rfl rfl rfl rfl (fun _ => rfl) (fun _ => rfl)
      (fun _ => rfl)
  | post i => exact ⟨h, rfl⟩
  | elsewhere => exact ⟨h, rfl⟩

/-- An engine that is opened is in order, and has an inbox of its own. -/
theorem openIn_sound {s s' : Shared} {interval : Nat} {signals : List Signal}
    (h : openIn s interval = (e, s', signals)) :
    Sound e ∧ e.id < s'.inboxes.size ∧ s'.inbox e.id = {} := by
  cases h
  refine ⟨⟨(Machine.Sound.opened interval).collecting _, fun _ => ⟨_, rfl⟩⟩, ?_, ?_⟩
  · change s.inboxes.size < (s.inboxes.push {}).size
    rw [Array.size_push]
    exact Nat.lt_succ_self _
  · change (s.inboxes.push {}).getD s.inboxes.size {} = {}
    rw [Array.getD_eq_getD_getElem?, Array.getElem?_push_size]
    rfl

/-! ### Turns -/

/-- Only a delivery asks for a call. -/
theorem question_eq_take {w : Waiting} (h : w.question = .take) :
    ∃ reason, w = .drainTake reason := by
  cases w with
  | native r => cases r <;> cases h
  | hookPoll ticket => cases h
  | drainTake reason => exact ⟨reason, rfl⟩
  | drainReport reason i error => cases h

/-- The interpreter goes on by steps, in every system to which they belong. -/
theorem run_advance_of {Next : Engine × Shared → Deed → Engine × Shared → Prop}
    (hstep : ∀ {e : Engine} {s : Shared}, e.machine.isWaiting = false →
      Next (e, s) .step ({ e with machine := e.machine.step }, s))
    (e : Engine) (s : Shared) (fuel : Nat) :
    ∃ steps, Run Next (e, s) (List.replicate steps .step)
      ({ e with machine := e.machine.advance fuel }, s) := by
  -- fuel bounds the steps: the run stops where the machine comes to wait, or where the fuel is used
  -- up
  induction fuel generalizing e with
  | zero => exact ⟨0, .refl⟩
  | succ fuel ih =>
    unfold Machine.advance
    cases hgo : e.machine.isWaiting with
    | true => exact ⟨0, .refl⟩
    | false =>
      obtain ⟨steps, hrun⟩ := ih { e with machine := e.machine.step }
      exact ⟨steps + 1, (Run.single (hstep hgo)).trans hrun⟩

/-- An engine that is left to itself takes steps. -/
theorem run_advance (e : Engine) (s : Shared) (fuel : Nat) :
    ∃ steps, Run Move (e, s) (List.replicate steps .step)
      ({ e with machine := e.machine.advance fuel }, s) :=
  run_advance_of .step e s fuel

/-- **A turn is a run**: a session moves its engine in no other way. -/
theorem run_turn {s s' : Shared} {t : Turn} {signals : List Signal}
    (h : e.turn s = (t, e', s', signals)) : ∃ happened, Run Move (e, s) happened (e', s') := by
  obtain ⟨steps, hsteps⟩ := run_advance e s quantum
  unfold turn at h
  dsimp only at h
  split at h
  · rename_i w hmode
    -- to take a call is a move of its own, since it changes the inbox
    by_cases htake : w.question = .take
    · obtain ⟨reason, rfl⟩ := question_eq_take htake
      cases h
      exact ⟨_, .tail hsteps (.take (e := { e with machine := e.machine.advance quantum }) hmode)⟩
    · exact ⟨_, .tail hsteps (.serve hmode htake h)⟩
  · rename_i result hmode
    have hsettle := Move.settle (e := { e with machine := e.machine.advance quantum }) (s := s)
      hmode
    split at h
    · rename_i heq
      cases h
      rw [heq] at hsettle
      exact ⟨_, .tail hsteps hsettle⟩
    · rename_i heq
      cases h
      rw [heq] at hsettle
      exact ⟨_, .tail hsteps hsettle⟩
  · -- the quantum is used up, and the clock goes on
    cases h
    exact ⟨_, .tail hsteps (.elsewhere rfl (Nat.le_refl _))⟩

end Engine
end RobotSession
