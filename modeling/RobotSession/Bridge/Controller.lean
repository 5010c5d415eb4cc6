import RobotSession.Bridge.Worker

/-!
# The controller of a session

The controller initializes the host and lets it run its main loop, while a worker runs the
robot program. When the main loop has returned, it asks the robot to end, waits for the
worker for a limited time, and shuts the host down. A worker that does not finish in time
is left alone. A host without a main loop has the program run in the controller's own
thread.

`Controller.step` is an atomic step. It says when the controller has to wait: for the main
loop to be left, or for the worker to finish.
-/

namespace RobotSession

open Lua (Payload)

/-- The states of a session, in the order in which they are passed. -/
inductive BridgeState
  | idle
  | running
  | inline_
  | ending
  | joinWait
  | joined
  | detached
  | closed
  deriving DecidableEq, Inhabited

namespace BridgeState

def all : List BridgeState :=
  [.idle, .running, .inline_, .ending, .joinWait, .joined, .detached, .closed]

def name : BridgeState → String
  | .idle => "idle"
  | .running => "running"
  | .inline_ => "inline"
  | .ending => "ending"
  | .joinWait => "join_wait"
  | .joined => "joined"
  | .detached => "detached"
  | .closed => "closed"

end BridgeState

/-- How the worker of a session was left. -/
inductive Termination
  | inline_
  | joined
  | detached
  deriving DecidableEq, Inhabited

namespace Termination

def all : List Termination := [.inline_, .joined, .detached]

def name : Termination → String
  | .inline_ => "inline"
  | .joined => "joined"
  | .detached => "detached"

def title : Termination → String
  | .inline_ => "Inline"
  | .joined => "Joined"
  | .detached => "Detached"

end Termination

namespace Delivery

def all : List Delivery := [.queued, .notBound, .closed]

def name : Delivery → String
  | .queued => "queued"
  | .notBound => "not_bound"
  | .closed => "closed"

def title : Delivery → String
  | .queued => "Queued"
  | .notBound => "NotBound"
  | .closed => "Closed"

end Delivery

/-- What a session that was run has come to. -/
structure Outcome where
  termination : Termination
  transitions : List BridgeState
  endRequest : Option Delivery
  robotStarted : Bool
  engineCloses : Nat
  /-- Nanoseconds that the controller waited for the worker. -/
  joinWait : Nat
  deriving Inhabited

/-- The exit code of a session that was run. -/
def Outcome.exitCode (_ : Outcome) : Int := 0

/-- How the run of a controller ended. -/
inductive ControllerResult
  | ok (o : Outcome)
  | error (e : BridgeError)
  | panicked (p : Payload)
  deriving Inhabited

/-- What the main loop of a host waits for besides the request to exit. -/
inductive Linger
  | none
  /-- The worker has asked the host to exit. -/
  | finish
  /-- Someone has released it. -/
  | release
  deriving DecidableEq, Inhabited

/-- The settings of a controller. -/
structure BridgeConfig where
  /-- Milliseconds that the controller waits for the worker. -/
  joinTimeoutMs : Nat := 1000
  hookInterval : Nat := Engine.defaultInterval
  deriving DecidableEq, Inhabited

/-- The name of the worker's thread. -/
def workerThreadName : String := "luabot-robot"

namespace Controller

/-- What a controller does next. -/
inductive Stage
  | start
  | askMainLoop
  /-- The program runs in the controller's own thread. -/
  | inline_ (w : Worker)
  | spawn
  | enterMainLoop
  /-- Wait for the request to exit. -/
  | mainLoop
  /-- Wait for what the main loop lingers for. -/
  | linger
  | requestEnd
  | beginWait
  /-- Wait for the worker, until the deadline. -/
  | waitFinished (since deadline : Nat)
  | join (since : Nat)
  | shutdown (t : Termination) (joinWait : Nat) (failure : Option WorkerResult)
  /-- Shut the host down without an outcome. -/
  | abort (e : BridgeError)
  | done (r : ControllerResult)
  deriving Inhabited

end Controller

/-- A controller. -/
structure Controller where
  path : ByteArray
  config : BridgeConfig
  linger : Linger := .none
  stage : Controller.Stage := .start
  transitions : List BridgeState := [.idle]
  endRequest : Option Delivery := none

/-- What a step of a controller comes to. -/
inductive ControllerTurn
  | going
  /-- The worker's thread starts. -/
  | spawned (w : Worker)
  /-- Nothing to do until something happens, or until a deadline. -/
  | blocked (deadline : Option Nat)
  /-- The worker in the controller's own thread waits or logs. -/
  | inline_ (t : WorkerTurn)

/-- What the controller can see of the worker's thread. -/
structure WorkerView where
  /-- Its run has ended, with a panic that went on or without. -/
  ended : Option Bool := none
  /-- It has asked the host to exit in this session. -/
  askedExit : Bool := false
  /-- Someone has released the main loop. -/
  released : Bool := false

namespace Controller

def record (level : Level) (message : String) (fields : List (String × FieldValue)) : Record :=
  { level, target := .bridge, message, fields := ("session", .identity) :: fields }

/-- How the answer to the end request shows in a record. -/
def endText : Option Delivery → String
  | none => "None"
  | some d => "Some(" ++ d.title ++ ")"

def maxMillis : Nat := UInt64.size - 1

/-- The outcome of a session, with its record. -/
def outcome (c : Controller) (s : Shared) (t : Termination) (joinWait : Nat) : Outcome × Record :=
  ({ termination := t, transitions := c.transitions, endRequest := c.endRequest
     robotStarted := s.slot.robotStarted, engineCloses := s.slot.closes, joinWait },
   record .info "robot session closed" [("termination", .text t.title)])

/-- Whether the main loop may be left. -/
def isReleased (l : Linger) (v : WorkerView) : Bool :=
  match l with
  | .none => true
  | .finish => v.askedExit
  | .release => v.released

/-- The result of a session in the controller's own thread. -/
def inlineResult (r : WorkerResult) (o : Outcome) : ControllerResult :=
  match r with
  | .returned => .ok o
  | .failed e => .error (.session e)
  | .panicked p => .panicked p

/-- A step of a controller. -/
def step (c : Controller) (s : Shared) (v : WorkerView) :
    ControllerTurn × Controller × Shared × List Signal :=
  let next (stage : Stage) (s : Shared) (signals : List Signal) :
      ControllerTurn × Controller × Shared × List Signal :=
    (.going, { c with stage }, s, signals)
  let pass (state : BridgeState) (stage : Stage) (s : Shared) (signals : List Signal) :
      ControllerTurn × Controller × Shared × List Signal :=
    (.going, { c with stage, transitions := c.transitions ++ [state] }, s, signals)
  -- the program of this session, which the thread of the worker or the controller itself is to run
  let worker : Worker := { path := c.path, interval := c.config.hookInterval }
  match c.stage with
  | .start =>
    let code := s.host.initCode
    let (host, r) := s.host.hardwareInit
    let s := { s with host }
    let signals : List Signal := [.record r, .host (.hardwareInit code)]
    -- what an earlier session has left in the slot is forgotten
    if code = 0 then next .askMainLoop { s with slot := {} } signals
    else
      let failed : Record :=
        { level := .error, target := .bridge, message := "hardware initialization failed"
          fields := [("code", .text (toString code))] }
      next (.done (.error (.hardwareInit code))) s (signals ++ [.record failed])
  | .askMainLoop =>
    let signals : List Signal := [.host (.hasMainLoop s.host.hasMainLoop)]
    if s.host.hasMainLoop then next .spawn s signals
    else
      pass .inline_ (.inline_ worker) s (signals ++
        [.record (record .debug "no host main loop; running robot inline" [])])
  | .inline_ w =>
    match w.result? with
    -- a panic that the session has not caught goes on: the host is not shut down
    | some (.panicked p) => next (.done (.panicked p)) s []
    | some r => next (.shutdown .inline_ 0 (some r)) s []
    | none =>
      let (t, w, s, signals) := w.step s
      (.inline_ t, { c with stage := .inline_ w }, s, signals)
  | .spawn =>
    match s.spawnFault with
    | some detail =>
      let failed : Record :=
        { level := .error, target := .bridge, message := "failed to spawn robot thread"
          fields := [("error", .text detail)] }
      next (.abort (.spawn detail)) s [.record failed]
    | none =>
      (.spawned worker, { c with stage := .enterMainLoop, transitions := c.transitions ++ [.running] },
        s, [.record (record .info "host main loop running" [])])
  | .enterMainLoop =>
    let (host, r) := s.host.enterMainLoop
    next .mainLoop { s with host } [.host .runMainLoop, .record r]
  | .mainLoop =>
    if s.host.exitRequested then next .linger s [.record SimHost.leftMainLoop]
    else (.blocked none, c, s, [])
  | .linger =>
    if isReleased c.linger v then pass .ending .requestEnd s [.host .mainLoopReturned]
    else (.blocked none, c, s, [])
  | .requestEnd =>
    let (answer, s) : Option Delivery × Shared :=
      -- without a handle there is nobody to ask, and the wait begins all the same
      match s.slot.handle with
      | some handle =>
        let (d, s) := s.post handle .finish
        (some d, s)
      | none => (none, s)
    (.going, { c with stage := .beginWait, endRequest := answer }, s,
      [.record (record .debug "requested end of competition" [("end_request", .text (endText answer))])])
  | .beginWait =>
    pass .joinWait (.waitFinished s.clock (s.clock + c.config.joinTimeoutMs * 1000000)) s []
  | .waitFinished since deadline =>
    if s.slot.isFinished then next (.join since) s []
    -- the thread is left to itself; whatever it does later is not part of the outcome
    else if deadline ≤ s.clock then
      pass .detached (.shutdown .detached (s.clock - since) none) s
        [.record (record .warn "robot program did not finish in time; detaching its thread"
          [("timeout_ms", .text (toString (min c.config.joinTimeoutMs maxMillis)))])]
    else (.blocked (some deadline), c, s, [])
  | .join since =>
    match v.ended with
    | none => (.blocked none, c, s, [])
    -- a panic of the thread is only recorded here, and the session counts as joined
    | some panicked =>
      let warning := record .warn "robot thread panicked outside the session boundary" []
      pass .joined (.shutdown .joined (s.clock - since) none) s
        (if panicked then [.record warning] else [])
  | .shutdown t joinWait failure =>
    let (host, r) := s.host.shutdown
    let s := { s with host }
    let c := { c with transitions := c.transitions ++ [BridgeState.closed] }
    let signals : List Signal := [.host .shutdown, .record r]
    let (o, closed) := c.outcome s t joinWait
    -- only a program that the controller has run itself has a failure to hand on
    match failure.getD .returned with
    | .returned => (.going, { c with stage := .done (.ok o) }, s, signals ++ [.record closed])
    | f => (.going, { c with stage := .done (inlineResult f o) }, s, signals)
  | .abort e =>
    let (host, r) := s.host.shutdown
    pass .closed (.done (.error e)) { s with host } [.host .shutdown, .record r]
  | .done _ => (.going, c, s, [])

def result? (c : Controller) : Option ControllerResult :=
  match c.stage with
  | .done r => some r
  | _ => none

end Controller

end RobotSession
