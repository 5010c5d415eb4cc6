import RobotSession.Proofs.Engine.View
import RobotSession.Proofs.Lua.Trail

/-!
# An engine apart from its hook

An engine begins the calls of its task and sorts out what has come of them. It does so in the same
way whether its interpreter has a hook or not, because one may look past a hook
(`Engine.View.unhooked`).

A turn is something else, since an engine whose hook has stopped it gets less far in one. Where the
interpreter of an engine stops in a turn (`Engine.stopped`), it has been stopped by its hook, or it
had no time for more steps, or it wants something from outside. Only the last of these can be told
from outside, and it does not depend on the hook (`Engine.resolve_bare`).

* `Engine.bare` — an engine without its hook.
* `Engine.View.unhooked`, `Engine.settle_bare` — what comes of a call of a task.
* `Engine.stopped`, `Engine.resolve` — a turn in two parts.
* `Engine.turn_of_held`, `Engine.turn_of_late`, `Engine.turn_of_stopped` — what a turn comes to.
-/

namespace RobotSession

open Lua

namespace Engine

variable {g : Grain} {e e' : Engine}

/-- **An engine without its hook.** -/
def bare (g : Grain) (e : Engine) : Engine :=
  { e with machine := e.machine.bare g }

/-- **Past the hook.** The store of an interpreter does not show whether there is one. -/
def View.unhooked (g : Grain) : View where
  machine := Machine.bare g
  clock time := time
  interval _ := 0
  heap _ := rfl
  work _ w := Machine.bare_work w
  start _ f args := Machine.bare_start f args
  ended _ _ := rfl
  collecting _ _ := rfl
  retained _ _ := rfl
  closing _ _ := rfl

/-- **What comes of a task does not depend on the hook.** -/
theorem settle_bare (result : Except Value (List Value)) :
    (e.bare g).settle result = ((e.settle result).1, (e.settle result).2.bare g) :=
  View.settle_engine (v := .unhooked g) (e := e) result

/-! ### Turns -/

variable {s : Shared}

/-- The engine where its interpreter stops in a turn. -/
def stopped (e : Engine) : Engine :=
  { e with machine := e.machine.advance quantum }

/-- What a turn comes to, where the interpreter has stopped. -/
def resolve (e : Engine) (s : Shared) : Turn × Engine × Shared × List Signal :=
  match e.machine.mode with
  | .ask w => e.serve s w.question
  | .ended result =>
    match e.settle result with
    | (some c, e) => (.completed c, e, s, [])
    | (none, e) => (.going, e, s, [])
  | _ => (.going, e, { s with clock := s.clock + quantum * stepTime }, [])

theorem turn_eq_resolve : e.turn s = e.stopped.resolve s := rfl

/-- What a turn comes to, without the hook. -/
def bareTurn (g : Grain) (x : Turn × Engine × Shared × List Signal) :
    Turn × Engine × Shared × List Signal :=
  (x.1, x.2.1.bare g, x.2.2)

/-- A request is served in the same way, unless it is the hook's. -/
theorem serve_bare {w : Waiting} (hmode : e.machine.mode = .ask w)
    (hready : e.machine.mode.isReady = false) (q : Ask) :
    (e.bare g).serve s q = bareTurn g (e.serve s q) := by
  -- every answer goes to the machine, where it commutes with leaving out hooks
  have hanswer : ∀ a, (e.bare g).answer a = (e.answer a).bare g := by
    intro a
    exact congrArg (fun machine => { e with machine }) (Machine.bare_answer hmode hready a).symm
  cases q with
  | log line => rfl
  | exit code => rfl
  | wait deadline =>
    unfold serve
    dsimp only
    rw [show (e.bare g).id = e.id from rfl, show (e.bare g).openedAt = e.openedAt from rfl]
    split
    · exact congrArg (fun e => (Turn.going, e, s, [])) (hanswer _)
    · rfl
  | _ =>
    unfold serve
    dsimp only
    rw [hanswer]
    rfl

/-- **What comes from outside does not depend on the hook.** -/
theorem resolve_bare (hready : e.machine.mode.isReady = false) :
    (e.bare g).resolve s = bareTurn g (e.resolve s) := by
  unfold resolve
  rw [show (e.bare g).machine.mode = e.machine.mode from rfl]
  -- a ready machine was excluded, so it asks or has ended; the hook shows in neither
  cases hmode : e.machine.mode with
  | ask w => exact serve_bare hmode hready _
  | ended result =>
    dsimp only
    rw [settle_bare]
    rcases e.settle result with ⟨c, e'⟩
    cases c with
    | _ => rfl
  | _ => rfl

/-- **Two turns that stop at the same come to the same**, the hook apart. -/
theorem turn_of_stopped (h : e'.stopped.bare g = e.stopped.bare g)
    (hready : e.stopped.machine.mode.isReady = false) :
    bareTurn g (e'.turn s) = bareTurn g (e.turn s) := by
  have hready' : e'.stopped.machine.mode.isReady = false := by
    have hmode : e'.stopped.machine.mode = e.stopped.machine.mode :=
      congrArg (fun e => e.machine.mode) h
    rw [hmode]
    exact hready
  rw [turn_eq_resolve, turn_eq_resolve, ← resolve_bare hready', ← resolve_bare hready, h]

/-- **The hook finds nothing** and lets the interpreter go on. -/
theorem turn_of_held {ticket : Nat} (hmode : e.stopped.machine.mode = .ask (.hookPoll ticket))
    (hquiet : (s.inbox e.id).isPending = false) :
    e.turn s = (.going, e.stopped.answer (.flag false), s, []) := by
  rw [turn_eq_resolve]
  unfold resolve
  rw [hmode]
  show (Turn.going, e.stopped.answer (.flag (s.inbox e.id).isPending), s, []) = _
  rw [hquiet]

/-- There was no time for more steps. -/
theorem turn_of_late (hmode : e.stopped.machine.isWaiting = false) :
    e.turn s = (.going, e.stopped, { s with clock := s.clock + quantum * stepTime }, []) := by
  rw [turn_eq_resolve]
  unfold Machine.isWaiting at hmode
  unfold resolve
  -- asking and having ended would both be waiting
  split
  · rename_i w hask
    rw [hask] at hmode
    cases hmode
  · rename_i result hended
    rw [hended] at hmode
    cases hmode
  · rfl

end Engine

end RobotSession
