import RobotSession.Lua.State

/-!
# The inbox of an engine

An engine belongs to one thread. Other threads post calls for the robot into its inbox,
and the engine takes them out, oldest first, where a script may be interrupted.

The inbox has a flag that can be read without taking its lock. It is set while calls are
queued, so that looking after an empty inbox costs nothing.

* `Inbox.post` — a call is accepted once a robot is bound and until the inbox is closed.
* `Inbox.pop` — takes the oldest call.
* `Inbox.close` — discards what is queued; nothing is accepted any more.
* `Inbox.isReady` — whether a thread that waits for calls goes on.
-/

namespace RobotSession

open Lua (Invocation)

/-- What becomes of a posted call. -/
inductive Delivery
  | queued
  /-- There is no robot yet. -/
  | notBound
  /-- The engine is closed. -/
  | closed
  deriving DecidableEq, Inhabited

/-- The calls that wait for an engine. -/
structure Inbox where
  /-- The calls, oldest first. -/
  queue : List Invocation := []
  isBound : Bool := false
  isClosed : Bool := false
  /-- The flag that is read without the lock. -/
  isPending : Bool := false
  deriving DecidableEq, Inhabited

namespace Inbox

/-- Posts a call. -/
def post (b : Inbox) (i : Invocation) : Delivery × Inbox :=
  if b.isClosed then (.closed, b)
  else if !b.isBound then (.notBound, b)
  else (.queued, { b with queue := b.queue ++ [i], isPending := true })

/-- There is a robot now. -/
def bind (b : Inbox) : Inbox :=
  { b with isBound := true }

/-- Accepts nothing any more, and discards what is queued. -/
def close (b : Inbox) : Inbox :=
  { b with isClosed := true, queue := [], isPending := false }

/-- Takes the oldest call. -/
def pop (b : Inbox) : Option Invocation × Inbox :=
  match b.queue with
  | [] => (none, { b with isPending := false })
  | i :: rest => (some i, { b with queue := rest, isPending := b.isPending && !rest.isEmpty })

/-- Whether a thread that waits for calls goes on before its deadline. -/
def isReady (b : Inbox) : Bool :=
  !b.queue.isEmpty || b.isClosed

end Inbox

end RobotSession
