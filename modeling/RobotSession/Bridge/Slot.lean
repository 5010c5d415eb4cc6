import RobotSession.Engine.Inbox

/-!
# The slot of a session

The threads of a session share one slot. The worker publishes the handle of its engine in
it, and withdraws the handle when it finishes; the controller reads the handle to ask the
robot to end, and waits for the phase to become `finished`.

A handle is the number of an engine; the inbox is found under it.
-/

namespace RobotSession

/-- How far the worker of a session has come. -/
inductive WorkerPhase
  | pending
  | loading
  | running
  | finished
  deriving DecidableEq, Inhabited

namespace WorkerPhase

/-- The phases in their order. -/
def all : List WorkerPhase := [.pending, .loading, .running, .finished]

def rank : WorkerPhase → Nat
  | .pending => 0
  | .loading => 1
  | .running => 2
  | .finished => 3

def name : WorkerPhase → String
  | .pending => "pending"
  | .loading => "loading"
  | .running => "running"
  | .finished => "finished"

end WorkerPhase

/-- The state that the threads of a session share. -/
structure Slot where
  handle : Option Nat := none
  phase : WorkerPhase := .pending
  robotStarted : Bool := false
  closes : Nat := 0
  deriving DecidableEq, Inhabited

namespace Slot

def publish (s : Slot) (handle : Nat) : Slot :=
  { s with handle := some handle, phase := .loading }

def markRunning (s : Slot) : Slot :=
  { s with phase := .running, robotStarted := true }

def recordClose (s : Slot) : Slot :=
  { s with closes := s.closes + 1 }

def finish (s : Slot) : Slot :=
  { s with handle := none, phase := .finished }

/-- Whether a thread that waits for a phase goes on before its time runs out. -/
def reached (s : Slot) (p : WorkerPhase) : Bool :=
  p.rank ≤ s.phase.rank

def isFinished (s : Slot) : Bool :=
  s.phase = .finished

end Slot

end RobotSession
