import RobotSession.Bridge.Controller

/-!
# The threads of a session

A session has the controller's thread and, once it is spawned, the worker's thread. A step of
the session is a step of one of them; which one is left to the surroundings, and so is the
log: a step that ends with `log` is answered by `logged` before the thread goes on.

* `Threads.controllerStep`, `Threads.workerStep` — the steps.
* `Threads.controllerLogged`, `Threads.workerLogged` — the log's answers.
-/

namespace RobotSession

open Lua (Payload)

/-- What a step of a thread comes to. -/
inductive ThreadTurn
  | going
  /-- It waits for another thread, or at most until a deadline. -/
  | blocked (deadline : Option Nat)
  /-- The script logs a line. -/
  | log (line : String)
  /-- The script ends the process. -/
  | exit (code : Int)
  | ended

/-- The turn of the thread in which a worker runs. -/
def WorkerTurn.inThread : WorkerTurn → ThreadTurn
  | .going => .going
  | .blocked deadline => .blocked (some deadline)
  | .log line => .log line
  | .exit code => .exit code

/-- The threads of a session. -/
structure Threads where
  controller : Controller
  worker : Option Worker := none
  /-- The worker has asked the host to exit. -/
  askedExit : Bool := false

namespace Threads

/-- What the controller sees of the worker. -/
def view (worker : Option Worker) (askedExit released : Bool) : WorkerView :=
  { ended := (worker.bind Worker.result?).map fun r => r matches .panicked _
    askedExit, released }

/-- A step of the controller's thread. -/
def controllerStep (t : Threads) (s : Shared) (released : Bool) :
    ThreadTurn × Threads × Shared × List Signal :=
  match t with
  | { controller, worker, askedExit } =>
    if controller.result?.isSome then (.ended, { controller, worker, askedExit }, s, [])
    else
      let (turn, controller, s, signals) := controller.step s (view worker askedExit released)
      match turn with
      | .going => (.going, { controller, worker, askedExit }, s, signals)
      | .spawned w => (.going, { controller, worker := some w, askedExit }, s, signals)
      | .blocked deadline => (.blocked deadline, { controller, worker, askedExit }, s, signals)
      | .inline_ turn => (turn.inThread, { controller, worker, askedExit }, s, signals)

/-- A step of the worker's thread. -/
def workerStep (t : Threads) (s : Shared) : ThreadTurn × Threads × Shared × List Signal :=
  match t with
  | { controller, worker := some w, askedExit } =>
    if w.result?.isSome then (.ended, { controller, worker := some w, askedExit }, s, [])
    else
      let (turn, w, s, signals) := w.step s
      let asks := signals.any fun g => g matches .host .requestExit
      (turn.inThread, { controller, worker := some w, askedExit := askedExit || asks }, s, signals)
  | t => (.ended, t, s, [])

/-- Goes on with the log's answer in a program that the controller runs itself. -/
def controllerLogged (t : Threads) (panic : Option Payload) : Threads :=
  match t with
  | { controller := { path, config, linger, stage := .inline_ w, transitions, endRequest }
      worker, askedExit } =>
    { controller := { path, config, linger, stage := .inline_ (w.logged panic), transitions, endRequest }
      worker, askedExit }
  | t => t

/-- Goes on with the log's answer in the worker's thread. -/
def workerLogged (t : Threads) (panic : Option Payload) : Threads :=
  match t with
  | { controller, worker, askedExit } =>
    { controller, worker := worker.map (·.logged panic), askedExit }

/-- The earlier of two deadlines. -/
def earlier : Option Nat → Option Nat → Option Nat
  | some a, some b => some (min a b)
  | some a, none => some a
  | none, b => b

/-- Whether the worker's run is not over. -/
def isLate (t : Threads) : Bool :=
  match t.worker with
  | some w => w.result?.isNone
  | none => false

end Threads

end RobotSession
