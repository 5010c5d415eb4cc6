import RobotSession.Bridge.Slot
import RobotSession.Files
import RobotSession.Host.Simulation

/-!
# What the threads of a session share

`Shared` holds the host, the slot of the session, the inboxes of all engines, the clock and
the files. A thread changes it one atomic step at a time and tells what it does by
`Signal`s, in order.
-/

namespace RobotSession

/-- A call on the host. -/
inductive HostCall
  | hardwareInit (code : Int)
  | hasMainLoop (answer : Bool)
  | sendError (kind : DiagnosticKind)
  | runMainLoop
  | mainLoopReturned
  | requestExit
  | shutdown
  deriving DecidableEq

/-- What a thread does that can be seen from outside. -/
inductive Signal
  | record (r : Record)
  | host (c : HostCall)
  /-- Output of the script to standard output or standard error. -/
  | output (toError : Bool) (text : ByteArray)

/-- What the threads of a session share. -/
structure Shared where
  host : SimHost := {}
  slot : Slot := {}
  /-- The inboxes, by the number of the engine. -/
  inboxes : Array Inbox := #[]
  /-- Nanoseconds since the start. -/
  clock : Nat := 0
  files : Files := {}
  environment : List (String × ByteArray) := []
  /-- What the collector of an interpreter is going to do. -/
  collections : List Lua.Collection := []
  /-- Why no interpreter can be made, if there is a reason. -/
  engineFault : Option String := none
  /-- Why no thread can be started, if there is a reason. -/
  spawnFault : Option String := none
  /-- Reporting a failure to the host panics. -/
  panicsOnReport : Bool := false
  deriving Inhabited

namespace Shared

def inbox (s : Shared) (engine : Nat) : Inbox :=
  s.inboxes.getD engine {}

def setInbox (s : Shared) (engine : Nat) (b : Inbox) : Shared :=
  { s with inboxes := s.inboxes.set! engine b }

/-- Posts a call through a handle. -/
def post (s : Shared) (engine : Nat) (i : Lua.Invocation) : Delivery × Shared :=
  let (d, b) := (s.inbox engine).post i
  (d, s.setInbox engine b)

/-- A new inbox, under the number it is given. -/
def newInbox (s : Shared) : Nat × Shared :=
  (s.inboxes.size, { s with inboxes := s.inboxes.push {} })

end Shared

end RobotSession
