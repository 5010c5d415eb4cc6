import Mathlib.Logic.Basic
import RobotSession.Bridge.Worker
import RobotSession.Proofs.Engine.View

/-!
# Looking past a part of a program

What a program does between two tasks of its engine is seen to be the same by every view of the
engine (`View.step_of_seen`). What it does within a task is the same if the turn of its engine is
(`View.step_of_turn`). So a view needs to be compared with the turns of an engine only.

* `Worker.isDriven` — a program within a task.
* `View.worker`, `View.step` — a program, and what its steps come to, as they are seen.
* `View.step_of_seen`, `View.step_of_turn` — the steps.
-/

namespace RobotSession

open Lua

namespace Worker

variable {w : Worker}

/-- The engine is busy with a task. -/
def isDriven (w : Worker) : Bool :=
  match w.stage, w.engine with
  | .drive, some _ => true
  | .closeEngine _, some _ => true
  | _, _ => false

/-- The same program with an engine that is somewhere else. -/
def withEngine (w : Worker) (e : Engine) : Worker :=
  { w with engine := some e }

theorem engine_of_isDriven (h : w.isDriven = true) : ∃ e, w.engine = some e := by
  unfold isDriven at h
  cases hengine : w.engine with
  | some e => exact ⟨e, rfl⟩
  | none =>
    rw [hengine] at h
    cases hstage : w.stage with
    | _ =>
      rw [hstage] at h
      cases h

end Worker

namespace Engine.View

variable {v : View} {w w' : Worker} {s s' : Shared} {e e' : Engine}

/-- A program, as it is seen. -/
def worker (v : View) (w : Worker) : Worker :=
  { w with interval := v.interval w.interval, engine := w.engine.map v.engine }

/-- What a step comes to, as it is seen. -/
def step (v : View) (x : WorkerTurn × Worker × Shared × List Signal) :
    WorkerTurn × Worker × Shared × List Signal :=
  (x.1, v.worker x.2.1, v.shared x.2.2.1, x.2.2.2)

/-- The engines of two programs that are seen to be the same. -/
theorem worker_cases (h : v.worker w' = v.worker w) :
    v.interval w'.interval = v.interval w.interval
      ∧ ((w.engine = none ∧ w' = { w with interval := w'.interval })
        ∨ ∃ e e', w.engine = some e ∧ v.engine e' = v.engine e
          ∧ w' = { w with interval := w'.interval, engine := some e' }) := by
  obtain ⟨path, interval, engine, stage⟩ := w
  obtain ⟨path', interval', engine', stage'⟩ := w'
  -- path and stage are seen as they are, of the engine only its sight
  obtain rfl : path' = path := congrArg Worker.path h
  obtain rfl : stage' = stage := congrArg Worker.stage h
  refine ⟨congrArg Worker.interval h, ?_⟩
  have hengine : engine'.map v.engine = engine.map v.engine := congrArg Worker.engine h
  cases engine with
  | none =>
    cases engine' with
    | none => exact .inl ⟨rfl, rfl⟩
    | some e' => cases hengine
  | some e =>
    cases engine' with
    | none => cases hengine
    | some e' => exact .inr ⟨e, e', rfl, Option.some.inj hengine, rfl⟩

theorem step_eq {t : WorkerTurn} {signals : List Signal} (hw : v.worker w' = v.worker w)
    (hs : v.shared s' = v.shared s) :
    v.step (t, w', s', signals) = v.step (t, w, s, signals) :=
  congrArg₂ (fun w s => (t, w, s, signals)) hw hs

section Steps

variable {path : ByteArray} {interval interval' clock : Nat} {stage : Worker.Stage}

theorem worker_eq (hinterval : v.interval interval' = v.interval interval)
    (he : v.engine e' = v.engine e) :
    v.worker ⟨path, interval', some e', stage⟩ = v.worker ⟨path, interval, some e, stage⟩ :=
  congrArg₂ (fun interval e => (⟨path, interval, some e, stage⟩ : Worker)) hinterval he

theorem closeEngine_eq (hinterval : v.interval interval' = v.interval interval)
    (he : v.engine e' = v.engine e) (result : WorkerResult) :
    v.worker ((⟨path, interval', some e', stage⟩ : Worker).closeEngine result)
      = v.worker ((⟨path, interval, some e, stage⟩ : Worker).closeEngine result) := by
  have hclose : (e'.close.1, v.engine e'.close.2) = (e.close.1, v.engine e.close.2) := by
    rw [← close_engine, ← close_engine, he]
  unfold Worker.closeEngine
  dsimp only
  -- both engines close alike, at once or not
  generalize e'.close = x' at hclose ⊢
  generalize e.close = x at hclose ⊢
  obtain ⟨c', e₁'⟩ := x'
  obtain ⟨c, e₁⟩ := x
  obtain ⟨hc, he₁⟩ := Prod.mk.inj hclose
  obtain rfl : c' = c := hc
  cases c' with
  | some c =>
    exact congrArg (fun interval => (⟨path, interval, none, .recordClose result⟩ : Worker)) hinterval
  | none => exact worker_eq hinterval he₁

/-! ### Between two tasks -/

/-- **An engine is opened** in the same way, if the interpreters are seen to be the same. -/
theorem step_start {engine engine' : Option Engine}
    (hinterval : v.interval interval' = v.interval interval)
    (hengine : engine'.map v.engine = engine.map v.engine)
    (hclock : v.clock clock = v.clock s.clock)
    (hopens : v.machine (.opened interval') = v.machine (.opened interval)) :
    v.step ((⟨path, interval', engine', .start⟩ : Worker).step { s with clock })
      = v.step ((⟨path, interval, engine, .start⟩ : Worker).step s) := by
  have hcollecting : ∀ collections, v.machine ((Machine.opened interval').collecting collections)
      = v.machine ((Machine.opened interval).collecting collections) := by
    intro collections
    rw [v.collecting, v.collecting, hopens]
  obtain ⟨host, slot, inboxes, time, files, environment, collections, fault, spawnFault, panics⟩ := s
  cases fault with
  -- an engine that cannot be opened is not seen
  | some detail =>
    refine step_eq ?_ (shared_eq hclock rfl)
    exact congrArg₂ (fun interval engine => (⟨path, interval, engine, _⟩ : Worker)) hinterval hengine
  | none =>
    -- the new engine is seen by its interpreter and the time
    refine step_eq (worker_eq hinterval ?_) (shared_eq hclock rfl)
    exact congrArg₂ (fun machine openedAt => (⟨_, machine, .idle, openedAt⟩ : Engine))
      (hcollecting collections) hclock

/-- The engine loads its module, from the same files. -/
theorem step_load (hinterval : v.interval interval' = v.interval interval)
    (he : v.engine e' = v.engine e) (hclock : v.clock clock = v.clock s.clock) :
    v.step ((⟨path, interval', some e', .load⟩ : Worker).step { s with clock })
      = v.step ((⟨path, interval, some e, .load⟩ : Worker).step s) := by
  have hload : (e'.loadFile s path).map v.engine = (e.loadFile s path).map v.engine := by
    rw [engine_loadFile, engine_loadFile, he]
  unfold Worker.step
  dsimp only
  rw [show e'.loadFile { s with clock } path = e'.loadFile s path from rfl]
  -- both can be loaded or neither, since the outcome is seen
  cases hl : e.loadFile s path with
  | error f =>
    cases hl' : e'.loadFile s path with
    | error f' =>
      rw [hl, hl'] at hload
      obtain rfl : f' = f := Except.error.inj hload
      exact step_eq (worker_eq hinterval he) (shared_eq hclock rfl)
    | ok e₁' =>
      rw [hl, hl'] at hload
      cases hload
  | ok e₁ =>
    cases hl' : e'.loadFile s path with
    | error f' =>
      rw [hl, hl'] at hload
      cases hload
    | ok e₁' =>
      rw [hl, hl'] at hload
      exact step_eq (worker_eq hinterval (Except.ok.inj hload)) (shared_eq hclock rfl)

/-- **A step between two tasks is seen to be the same**, if the interpreter that it may open is. -/
theorem step_of_seen (hw : v.worker w' = v.worker w) (hs : v.shared s' = v.shared s)
    (hdriven : w.isDriven = false)
    (hopens : v.machine (.opened w'.interval) = v.machine (.opened w.interval)) :
    v.step (w'.step s') = v.step (w.step s) := by
  obtain ⟨hclock, hs⟩ := shared_cases hs
  generalize s'.clock = clock at hclock hs
  subst hs
  obtain ⟨hinterval, hcases⟩ := worker_cases hw
  generalize w'.interval = interval' at hinterval hopens hcases
  obtain ⟨path, interval, engine, stage⟩ := w
  rcases hcases with ⟨rfl, rfl⟩ | ⟨e, e', rfl, he, rfl⟩
  · -- without an engine nothing is left to differ in but the interval
    have hsame : ∀ stage, v.worker ⟨path, interval', none, stage⟩
        = v.worker ⟨path, interval, none, stage⟩ :=
      fun stage => congrArg (fun interval => (⟨path, interval, none, stage⟩ : Worker)) hinterval
    cases stage with
    | start => exact step_start hinterval rfl hclock hopens
    | report result =>
      cases result with
      | _ => exact step_eq (hsame _) (shared_eq hclock rfl)
    | _ => exact step_eq (hsame _) (shared_eq hclock rfl)
  · -- with an engine, each stage applies to it a function that the view respects
    have hid : e'.id = e.id := id_eq he
    cases stage with
    | start => exact step_start hinterval (congrArg some he) hclock hopens
    | publish =>
      unfold Worker.step
      dsimp only
      rw [hid]
      exact step_eq (worker_eq hinterval he) (shared_eq hclock rfl)
    | load => exact step_load hinterval he hclock
    | drive => cases hdriven
    | closeEngine result => cases hdriven
    | enter r =>
      have hstart : v.engine (e'.start r) = v.engine (e.start r) := by
        rw [engine_start, engine_start, he]
      exact step_eq (worker_eq hinterval hstart) (shared_eq hclock rfl)
    | closeInbox result =>
      unfold Worker.step Engine.closeInbox
      dsimp only
      rw [hid]
      exact step_eq (closeEngine_eq hinterval he result) (shared_eq hclock rfl)
    | report result =>
      cases result with
      | _ => exact step_eq (worker_eq hinterval he) (shared_eq hclock rfl)
    | _ => exact step_eq (worker_eq hinterval he) (shared_eq hclock rfl)

/-! ### Within a task -/

/-- **A step within a task is seen to be the same**, if the turn is. -/
theorem step_of_turn (hinterval : v.interval interval' = v.interval w.interval)
    (hdriven : w.isDriven = true) (hengine : w.engine = some e)
    (h : v.turn (e'.turn s') = v.turn (e.turn s)) :
    v.step (({ w with interval := interval', engine := some e' } : Worker).step s')
      = v.step (w.step s) := by
  obtain ⟨path, interval, engine, stage⟩ := w
  obtain rfl : engine = some e := hengine
  obtain ⟨t, e₁, e₁', s₁, s₁', signals, hturn, hturn', he, hs⟩ := turn_cases h
  have hsame : ∀ t signals stage, v.step (t, ⟨path, interval', some e₁', stage⟩, s₁', signals)
      = v.step (t, ⟨path, interval, some e₁, stage⟩, s₁, signals) :=
    fun t signals stage => step_eq (worker_eq hinterval he) hs
  cases stage with
  | drive =>
    show v.step (Worker.drive ⟨path, interval', some e', .drive⟩ s')
      = v.step (Worker.drive ⟨path, interval, some e, .drive⟩ s)
    unfold Worker.drive
    dsimp only
    rw [hturn, hturn']
    cases t with
    | completed c =>
      -- of what an engine has completed, two things lead to another call on it
      cases c with
      | module table =>
        have hconstruct : v.engine (e₁'.construct table) = v.engine (e₁.construct table) := by
          rw [engine_construct, engine_construct, he]
        exact step_eq (worker_eq hinterval hconstruct) hs
      | robot r =>
        have hid : e₁'.id = e₁.id := id_eq he
        obtain ⟨hclock, hs⟩ := shared_cases hs
        rw [hs]
        unfold Engine.bindRobot
        dsimp only
        rw [hid]
        exact step_eq (worker_eq hinterval he) (shared_eq hclock rfl)
      | _ => exact hsame _ _ _
    | _ => exact hsame _ _ _
  | closeEngine result =>
    show v.step (Worker.finalize ⟨path, interval', some e', .closeEngine result⟩ s' result)
      = v.step (Worker.finalize ⟨path, interval, some e, .closeEngine result⟩ s result)
    unfold Worker.finalize
    dsimp only
    rw [hturn, hturn']
    cases t with
    | completed c =>
      refine step_eq ?_ hs
      exact congrArg (fun interval => (⟨path, interval, none, .recordClose result⟩ : Worker))
        hinterval
    | _ => exact hsame _ _ _
  | _ => cases hdriven

end Steps

end Engine.View

end RobotSession
