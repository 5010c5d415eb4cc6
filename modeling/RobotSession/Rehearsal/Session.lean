import RobotSession.Rehearsal.Script

/-!
# Rehearsing sessions

A worker is run by itself (`runWorker`), or a controller and its worker are run side by
side (`Duo.run`). Of two threads the controller goes first whenever it can; the clock jumps
to the next deadline only when neither can go on. A worker that was left alone is run to
its end afterwards, and what it still does is noted apart.
-/

namespace RobotSession.Rehearsal

open Lua (Payload)

/-- What a thread can do next. -/
inductive Progress
  | going
  /-- It waits, perhaps for the clock only. -/
  | waits (deadline : Option Nat)
  | ended

/-- A step of a thread that its surroundings have turned into progress: a line for the log sets
off actions, output is not noted. -/
def settleTurn (turn : ThreadTurn) (st : Stand) (b : Bench) (signals : List Signal) :
    Progress × Stand × Bench :=
  let st := st.note signals
  match turn with
  | .going => (.going, st, b)
  | .blocked deadline => (.waits deadline, st, b)
  | .log line =>
    let (st, b) := st.logs b line
    (.going, st, b)
  | .exit _ => (.ended, st, b)
  | .ended => (.ended, st, b)

/-- A step of a worker by itself: inside a log call an action, else a step of the worker. -/
def workerStep (w : Worker) (st : Stand) (b : Bench) : Progress × Worker × Stand × Bench :=
  match st.acting with
  | some actions =>
    match st.act b actions with
    | (.returns panic, st, b) => (.going, w.logged panic, st, b)
    | (.going, st, b) => (.going, w, st, b)
    | (.waits, st, b) => (.waits none, w, st, b)
  | none =>
    if w.result?.isSome then (.ended, w, st, b)
    else
      let (t, w, shared, signals) := w.step b.shared
      let (p, st, b) := settleTurn t.inThread st { b with shared } signals
      (p, w, st, b)

def jump (b : Bench) (deadline : Nat) : Bench :=
  { b with shared := { b.shared with clock := max b.shared.clock deadline } }

/-- Runs a worker by itself. -/
def runWorker : Nat → Worker → Stand → Bench → Option WorkerResult × Stand × Bench
  | 0, w, st, b => (w.result?, st, b)
  | fuel + 1, w, st, b =>
    let (p, w, st, b) := workerStep w st b
    match p with
    | .going => runWorker fuel w st b
    | .waits (some deadline) => runWorker fuel w st (jump b deadline)
    | .waits none => (w.result?, st, b)
    | .ended => (w.result?, st, b)

/-- A controller and the worker that it may have started. -/
structure Duo where
  bench : Bench
  threads : Threads
  controllerStand : Stand := {}
  workerStand : Stand := {}

namespace Duo

/-- A step of the controller's thread. -/
def controllerStep (d : Duo) : Progress × Duo :=
  match d with
  | { bench, threads, controllerStand, workerStand } =>
    match controllerStand.acting with
    | some actions =>
      match controllerStand.act bench actions with
      | (.returns panic, controllerStand, bench) =>
        (.going, { bench, threads := threads.controllerLogged panic, controllerStand, workerStand })
      | (.going, controllerStand, bench) => (.going, { bench, threads, controllerStand, workerStand })
      | (.waits, controllerStand, bench) =>
        (.waits none, { bench, threads, controllerStand, workerStand })
    | none =>
      let asks := threads.controller.stage matches .requestEnd
      let (t, threads, shared, signals) := threads.controllerStep bench.shared bench.released
      let bench := { bench with shared, endRequested := bench.endRequested || asks }
      let (p, controllerStand, bench) := settleTurn t controllerStand bench signals
      (p, { bench, threads, controllerStand, workerStand })

/-- A step of the worker's thread. -/
def workerTurn (d : Duo) : Progress × Duo :=
  match d with
  | { bench, threads, controllerStand, workerStand } =>
    match workerStand.acting with
    | some actions =>
      match workerStand.act bench actions with
      | (.returns panic, workerStand, bench) =>
        (.going, { bench, threads := threads.workerLogged panic, controllerStand, workerStand })
      | (.going, workerStand, bench) => (.going, { bench, threads, controllerStand, workerStand })
      | (.waits, workerStand, bench) =>
        (.waits none, { bench, threads, controllerStand, workerStand })
    | none =>
      let (t, threads, shared, signals) := threads.workerStep bench.shared
      let (p, workerStand, bench) := settleTurn t workerStand { bench with shared } signals
      (p, { bench, threads, controllerStand, workerStand })

/-- Runs both threads until the controller's run has returned. -/
def run : Nat → Duo → Duo
  | 0, d => d
  | fuel + 1, d =>
    let (p, d) := d.controllerStep
    match p with
    | .going => run fuel d
    | .ended => d
    | .waits a =>
      let (q, d) := d.workerTurn
      match q with
      | .going => run fuel d
      | q =>
        let b := match q with
          | .waits b => b
          | _ => none
        match Threads.earlier a b with
        | some deadline => run fuel { d with bench := jump d.bench deadline }
        | none => d

/-- Runs the worker that was left alone. -/
def finishWorker : Nat → Duo → Duo
  | 0, d => d
  | fuel + 1, d =>
    let (p, d) := d.workerTurn
    match p with
    | .going => finishWorker fuel d
    | .waits (some deadline) => finishWorker fuel { d with bench := jump d.bench deadline }
    | _ => d

end Duo

/-- How long the controller waited, as far as it can be told. -/
inductive WaitClass
  | zero
  | full
  | measured

/-- What a run of a controller has come to. -/
structure BridgeRun where
  result : Option ControllerResult
  wait : WaitClass
  controller : Array Event
  worker : Array Event
  /-- The host when the run returned. -/
  host : SimHost
  /-- What a worker that was left alone did afterwards, and the host in the end. -/
  late : Option (Array Event × SimHost)

def waitOf (config : BridgeConfig) : ControllerResult → WaitClass
  | .ok o =>
    match o.termination with
    | .inline_ => .zero
    | .joined => .measured
    | .detached => if config.joinTimeoutMs * 1000000 ≤ o.joinWait then .full else .measured
  | _ => .zero

/-- One run of a controller on a bench. -/
def bridgeRun (fuel : Nat) (b : Bench) (config : BridgeConfig) (linger : Linger)
    (path : ByteArray) : BridgeRun × Bench :=
  let b := { b with released := false, endRequested := false, runReturned := false }
  let d : Duo := { bench := b, threads := { controller := { path, config, linger } } }
  let d := d.run fuel
  let host := d.bench.shared.host
  let result := d.threads.controller.result?
  let base : BridgeRun := {
    result, host, controller := d.controllerStand.notes, worker := d.workerStand.notes
    wait := (result.map (waitOf config)).getD .zero, late := none }
  if d.threads.isLate then
    let d := { d with bench := { d.bench with runReturned := true }
                      workerStand := { d.workerStand with notes := #[] } }
    let d := d.finishWorker fuel
    ({ base with late := some (d.workerStand.notes, d.bench.shared.host) }, d.bench)
  else (base, d.bench)

/-- What a run of a worker by itself has come to. -/
structure WorkerRun where
  result : Option WorkerResult
  slot : Slot
  events : Array Event
  /-- The state of the handle that was kept, and what it answers to an end request and to a
  call of the end routine. -/
  kept : Option (Inbox × Delivery × Delivery)

/-- One run of a worker on a bench. -/
def workerRun (fuel : Nat) (b : Bench) (interval : Nat) (path : ByteArray) : WorkerRun × Bench :=
  let (result, st, b) := runWorker fuel { path, interval } {} { b with kept := none }
  let slot := b.shared.slot
  match b.kept with
  | none => ({ result, slot, events := st.notes, kept := none }, b)
  | some handle =>
    let box := b.shared.inbox handle
    let (first, shared) := b.shared.post handle .finish
    let (second, shared) := shared.post handle (.method Engine.endRoutine)
    ({ result, slot, events := st.notes, kept := some (box, first, second) }, { b with shared })

end RobotSession.Rehearsal
