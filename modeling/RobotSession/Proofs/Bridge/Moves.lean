import RobotSession.Bridge.Worker
import RobotSession.Proofs.Engine.Turn

/-!
# The life of a worker

A worker runs one program, step by step. Between two of its steps the log may answer it, and
other threads may post calls to any engine. What happened is a list of `WorkerDeed`s: a step
is recorded with the state from which it was taken, so that all that it did can be read off
the record.

* `Worker.Move` — the moves while a program runs.
* `Runner.Move` — a runner starts its worker again, with another program.
* `published`, `exits` — what the steps did to the slot and to the host.
-/

namespace RobotSession

open Lua

/-- **What happens in the life of a worker.** -/
inductive WorkerDeed
  /-- The worker takes a step from this state. -/
  | step (w : Worker) (s : Shared)
  /-- The log answers, or other threads move. -/
  | elsewhere
  /-- Another program is run. -/
  | again

namespace Worker

/-- **A move** of a worker, or of the threads around it. -/
inductive Move : Worker × Shared → WorkerDeed → Worker × Shared → Prop
  | step {w w' : Worker} {s s' : Shared} {t : WorkerTurn} {signals : List Signal}
      (hgo : w.result? = none) (h : w.step s = (t, w', s', signals)) :
      Move (w, s) (.step w s) (w', s')
  | logged {w : Worker} {s : Shared} (panic : Option Payload) :
      Move (w, s) .elsewhere (w.logged panic, s)
  | elsewhere {w : Worker} {s s' : Shared} (h : s.Alike s') : Move (w, s) .elsewhere (w, s')

/-- The engine whose handle is published by the next step. -/
def publishes (w : Worker) : Option Nat :=
  match w.stage with
  | .publish => w.engine.map Engine.id
  | _ => none

/-- Whether the next step asks the host to leave its main loop. -/
def asksExit (w : Worker) (s : Shared) : Bool :=
  (w.step s).2.2.2.any fun
    | .host .requestExit => true
    | _ => false

end Worker

/-- A runner runs one program after the other. Whether an interpreter can be made, and whether
the host panics when it is told of a failure, may change from run to run. -/
inductive Runner.Move : Worker × Shared → WorkerDeed → Worker × Shared → Prop
  | worker {x y : Worker × Shared} {l : WorkerDeed} (h : Worker.Move x l y) : Runner.Move x l y
  | again {w : Worker} {s : Shared} {result : WorkerResult} (hdone : w.stage = .done result)
      (path : ByteArray) (engineFault : Option String) (panicsOnReport : Bool) :
      Runner.Move (w, s) .again
        ({ path, interval := w.interval }, { s with engineFault, panicsOnReport })

/-! ### What the steps did -/

/-- The engines whose handles were published, in order. -/
def published (happened : List WorkerDeed) : List Nat :=
  happened.filterMap fun
    | .step w _ => w.publishes
    | _ => none

/-- How often the host was asked to leave its main loop. -/
def exits (happened : List WorkerDeed) : Nat :=
  happened.countP fun
    | .step w s => w.asksExit s
    | _ => false

/-- How many programs were run before the last one. -/
def restarts (happened : List WorkerDeed) : Nat :=
  happened.countP fun
    | .again => true
    | _ => false

/-- Handles are published one after the other. -/
theorem published_append (happened : List WorkerDeed) (l : WorkerDeed) :
    published (happened ++ [l]) = published happened ++ published [l] :=
  List.filterMap_append

/-- Exits are counted one after the other. -/
theorem exits_append (happened : List WorkerDeed) (l : WorkerDeed) :
    exits (happened ++ [l]) = exits happened + exits [l] :=
  List.countP_append

/-- So are restarts. -/
theorem restarts_append (happened : List WorkerDeed) (l : WorkerDeed) :
    restarts (happened ++ [l]) = restarts happened + restarts [l] :=
  List.countP_append

/-- A step publishes one handle at most. -/
@[simp]
theorem published_step (w : Worker) (s : Shared) :
    published [.step w s] = w.publishes.toList := by
  unfold published
  rw [List.filterMap_cons]
  dsimp only
  cases w.publishes with
  | none => rfl
  | some id => rfl

/-- It asks for one exit at most. -/
@[simp]
theorem exits_step (w : Worker) (s : Shared) :
    exits [.step w s] = if w.asksExit s then 1 else 0 := by
  unfold exits
  rw [List.countP_cons, List.countP_nil, Nat.zero_add]

/-! ### Steps of the stages -/

namespace Worker

variable {w w' : Worker} {s s' : Shared} {t : WorkerTurn} {e : Engine} {signals : List Signal}

/-- A worker with a result is done. -/
theorem done_of_result? {result : WorkerResult} (h : w.result? = some result) :
    w.stage = .done result := by
  unfold result? at h
  split at h
  · rw [← Option.some.inj h]
    assumption
  · cases h

/-- Loading a file leaves an engine its number. -/
theorem id_loadFile {e' : Engine} {path : ByteArray} (h : e.loadFile s path = .ok e') :
    e'.id = e.id := by
  unfold Engine.loadFile at h
  split at h
  · cases h
  · exact Engine.id_begins (.load h)

/-- **A step at which the engine goes on** with the program. -/
theorem drive_cases (hengine : w.engine = some e) (h : w.drive s = (t, w', s', signals)) :
    ∃ t₀ e₀ s₀ signals₀, e.turn s = (t₀, e₀, s₀, signals₀)
      ∧ ((∀ c, t₀ ≠ .completed c) ∧ s' = s₀ ∧ signals = signals₀ ∧ w' = { w with engine := some e₀ }
        ∨ (∃ table, t₀ = .completed (.module table) ∧ s' = s₀ ∧ signals = signals₀
          ∧ w' = { w with engine := some (e₀.construct table) })
        ∨ (∃ r, t₀ = .completed (.robot r) ∧ s' = (e₀.bindRobot s₀ r).1
          ∧ signals = signals₀ ++ (e₀.bindRobot s₀ r).2
          ∧ w' = { w with engine := some e₀, stage := .markRunning r })
        ∨ (∃ c, t₀ = .completed c ∧ (∀ table, c ≠ .module table) ∧ (∀ r, c ≠ .robot r) ∧ s' = s₀
          ∧ signals = signals₀ ∧ w' = { w with engine := some e₀, stage := afterTask c })) := by
  obtain ⟨path, interval, engine, stage⟩ := w
  change engine = some e at hengine
  subst hengine
  rcases hturn : e.turn s with ⟨t₀, e₀, s₀, signals₀⟩
  refine ⟨t₀, e₀, s₀, signals₀, rfl, ?_⟩
  unfold drive at h
  dsimp only at h
  rw [hturn] at h
  dsimp only at h
  -- the worker looks at what the turn has completed, and at nothing else
  cases t₀ with
  | completed c =>
    cases c with
    | module table =>
      cases h
      exact .inr (.inl ⟨table, rfl, rfl, rfl, rfl⟩)
    | robot r =>
      cases h
      exact .inr (.inr (.inl ⟨r, rfl, rfl, rfl, rfl⟩))
    | _ =>
      cases h
      exact .inr (.inr (.inr ⟨_, rfl, nofun, nofun, rfl, rfl, rfl⟩))
  | _ =>
    cases h
    exact .inl ⟨nofun, rfl, rfl, rfl⟩

/-- A step at which the engine goes on with its finalizers. -/
theorem finalize_cases {result : WorkerResult} (h : w.finalize s result = (t, w', s', signals)) :
    s.Alike s' ∧ (∀ c, Signal.host c ∉ signals)
      ∧ (w'.stage = w.stage ∨ w'.stage = .recordClose result) := by
  obtain ⟨path, interval, engine, stage⟩ := w
  -- without an engine there are no finalizers, and the close is counted at once
  cases engine with
  | none =>
    cases h
    exact ⟨.refl s, fun c => List.not_mem_nil, .inr rfl⟩
  | some e =>
    rcases hturn : e.turn s with ⟨t₀, e₀, s₀, signals₀⟩
    obtain ⟨-, halike, hsignals⟩ := Engine.turn_alike hturn
    unfold finalize at h
    dsimp only at h
    rw [hturn] at h
    dsimp only at h
    cases t₀ with
    | completed c =>
      cases h
      exact ⟨halike, hsignals, .inr rfl⟩
    | _ =>
      cases h
      exact ⟨halike, hsignals, .inl rfl⟩

/-! ### Runs without other threads -/

/-- Steps until the run has ended; `fuel` bounds their number. -/
def advance : Nat → Worker → Shared → Worker × Shared
  | 0, w, s => (w, s)
  | fuel + 1, w, s =>
    match w.result? with
    | some _ => (w, s)
    | none => advance fuel (w.step s).2.1 (w.step s).2.2.1

/-- Steps are a run of every system to which they belong. -/
theorem run_advance_of {Next : Worker × Shared → WorkerDeed → Worker × Shared → Prop}
    (hstep : ∀ {w w' s s' t signals}, w.result? = none → w.step s = (t, w', s', signals) →
      Next (w, s) (.step w s) (w', s'))
    (fuel : Nat) (w : Worker) (s : Shared) :
    ∃ happened, Run Next (w, s) happened (advance fuel w s) := by
  induction fuel generalizing w s with
  | zero => exact ⟨[], .refl⟩
  | succ fuel ih =>
    unfold advance
    split
    · exact ⟨[], .refl⟩
    · -- the first step is made, and the rest by induction
      rename_i hgo
      obtain ⟨happened, hrun⟩ := ih (w.step s).2.1 (w.step s).2.2.1
      exact ⟨_, (Run.single (hstep hgo rfl)).trans hrun⟩

/-- A worker that is left to itself makes moves. -/
theorem run_advance (fuel : Nat) (w : Worker) (s : Shared) :
    ∃ happened, Run Move (w, s) happened (advance fuel w s) :=
  run_advance_of .step fuel w s

end Worker
end RobotSession
