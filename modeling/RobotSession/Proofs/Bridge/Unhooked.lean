import RobotSession.Proofs.Bridge.Interleaving
import RobotSession.Proofs.Bridge.View
import RobotSession.Proofs.Engine.Unhooked

/-!
# A program apart from its hook

Between two tasks of its engine, a program does the same with a hook and without
(`Worker.step_of_bare`). Within a task, its step comes to the same if the turn of its engine does
(`Worker.step_of_bareTurn`).

* `Worker.bare`, `Worker.bareStep` — a program without its hook, and what its steps come to.
* `Worker.logged_bare` — the log's answer.
* `Worker.step_of_bare`, `Worker.step_of_bareTurn` — the steps.
-/

namespace RobotSession

open Lua

variable {g : Grain} {w w' : Worker} {s s' : Shared}

namespace Worker

/-! ### A program without its hook -/

/-- A program, apart from the hook of its engine. -/
def bare (g : Grain) (w : Worker) : Worker :=
  { w with interval := 0, engine := w.engine.map (Engine.bare g) }

/-- What a step comes to, apart from the hook. -/
def bareStep (g : Grain) (x : WorkerTurn × Worker × Shared × List Signal) :
    WorkerTurn × Worker × Shared × List Signal :=
  (x.1, x.2.1.bare g, x.2.2)

theorem bareStep_cases {x : WorkerTurn × Worker × Shared × List Signal} {t : WorkerTurn}
    {signals : List Signal} (h : bareStep g x = bareStep g (t, w, s, signals)) :
    ∃ w', x = (t, w', s, signals) ∧ w'.bare g = w.bare g := by
  obtain ⟨t', w', s', signals'⟩ := x
  obtain ⟨ht, hw, hs, hsignals⟩ : t' = t ∧ w'.bare g = w.bare g ∧ s' = s ∧ signals' = signals := by
    simpa [bareStep] using h
  exact ⟨w', by rw [ht, hs, hsignals], hw⟩

theorem logging?_bare : (w.bare g).logging? = w.logging? := by
  obtain ⟨path, interval, engine, stage⟩ := w
  cases engine with
  | _ => rfl

/-- The log's answer does not depend on the hook. -/
theorem logged_bare {line : String} (hlog : w.logging? = some line) (panic : Option Payload) :
    (w.logged panic).bare g = (w.bare g).logged panic := by
  obtain ⟨path, interval, engine, stage⟩ := w
  cases engine with
  | none => cases hlog
  | some e =>
    have hlog : e.logging? = some line := hlog
    unfold Engine.logging? at hlog
    cases hmode : e.machine.mode with
    | ask w =>
      -- a machine that writes a line waits for an answer, and is not about to look at its hook
      have hready : e.machine.mode.isReady = false := by
        cases w with
        | hookPoll ticket =>
          rw [hmode] at hlog
          cases hlog
        | _ =>
          rw [hmode]
          rfl
      exact congrArg (fun machine => (⟨path, 0, some { e with machine }, stage⟩ : Worker))
        (Machine.bare_answer hmode hready _)
    | _ =>
      rw [hmode] at hlog
      cases hlog

/-- The engines of two programs that are the same apart from the hook. -/
theorem bare_cases (h : w'.bare g = w.bare g) :
    (w.engine = none ∧ w' = { w with interval := w'.interval })
      ∨ ∃ e e', w.engine = some e ∧ e'.bare g = e.bare g
        ∧ w' = { w with interval := w'.interval, engine := some e' } :=
  (Engine.View.worker_cases (v := .unhooked g) h).2

/-- **A step between two tasks does not depend on the hook**, if the interpreter that it may open
does not. -/
theorem step_of_bare (h : w'.bare g = w.bare g) (hdriven : w.isDriven = false)
    (hopens : (Machine.opened w'.interval).bare g = (Machine.opened w.interval).bare g) :
    bareStep g (w'.step s) = bareStep g (w.step s) :=
  Engine.View.step_of_seen (v := .unhooked g) h rfl hdriven hopens

/-- A turn after which the task goes on. -/
theorem step_of_going {e e' : Engine} {signals : List Signal} (hdriven : w.isDriven = true)
    (hengine : w.engine = some e) (h : e.turn s = (.going, e', s', signals)) :
    w.step s = (.going, w.withEngine e', s', signals) := by
  obtain ⟨path, interval, engine, stage⟩ := w
  obtain rfl : engine = some e := hengine
  cases stage with
  | drive =>
    -- the two stages that drive an engine pass on a turn that goes on as it is
    show drive ⟨path, interval, some e, .drive⟩ s = _
    unfold drive
    dsimp only
    rw [h]
    rfl
  | closeEngine result =>
    show finalize ⟨path, interval, some e, .closeEngine result⟩ s result = _
    unfold finalize
    dsimp only
    rw [h]
    rfl
  | _ => cases hdriven

/-- **A step within a task does not depend on the hook**, if the turn does not. -/
theorem step_of_bareTurn {e e' : Engine} {interval' : Nat} (hdriven : w.isDriven = true)
    (hengine : w.engine = some e)
    (h : Engine.bareTurn g (e'.turn s) = Engine.bareTurn g (e.turn s)) :
    bareStep g (({ w with interval := interval', engine := some e' } : Worker).step s)
      = bareStep g (w.step s) :=
  Engine.View.step_of_turn (v := .unhooked g) rfl hdriven hengine h

end Worker

end RobotSession
