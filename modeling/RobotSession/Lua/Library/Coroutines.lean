import RobotSession.Lua.Library.Robot

/-!
# The coroutine library

There are two sets of functions that make coroutines. The plain ones know nothing of
queued calls. The hooked ones make coroutines whose instructions are counted, so that
queued calls are delivered while they run; they are functions of the host. What a
function does to a thread is left to the machine.

Once a hook has been set, the hooked functions stand in the place of the plain ones: a
script gets hold of one set only.
-/

namespace RobotSession.Lua.Library.Coroutines

open Text (octets)

/-- The status of a thread, as seen by the thread that runs. -/
def status (caller : Caller) (id : Nat) : ThreadStatus :=
  if id = caller.thread then .running else (Thread.at caller.threads id).status

/-- The thread that a wrapping function carries. -/
def wrapped (captured : List Value) : Nat :=
  match captured with
  | .thread id :: _ => id
  | _ => 0

/-- The functions that make coroutines, and those that they wrap them in. -/
def plain (f : Native) (captured args : List Value) : Body Reply := do
  match f with
  | .coCreate => return .create (← Args.function args 1) none
  | .coWrap => return .create (← Args.function args 1) (some .coWrapped)
  | _ => return .resume (wrapped captured) args true

/-- The functions that stand in their place once a hook has been set. -/
def hooked (f : Native) (captured args : List Value) : Body Reply := do
  match f with
  | .coCreate => return .create (← Exchange.first args Exchange.function) none
  | .coWrap => return .create (← Exchange.first args Exchange.function) (some .coWrapped)
  | _ => return .resume (wrapped captured) (← Exchange.values args) true

/-- The functions of the library. -/
def call (f : Native) (caller : Caller) (captured args : List Value) : Body Reply := do
  match f with
  | .coCreate | .coWrap | .coWrapped =>
    if caller.isHooked then hooked f captured args else plain f captured args
  | .coResume => return .resume (← Args.thread args 1) (args.drop 1) false
  | .coYield => return .yield args
  | .coRunning => return .done [.thread caller.thread, .bool (caller.thread = 0)]
  | .coStatus => do
    let id ← Args.thread args 1
    return .done [.text (status caller id).name]
  | .coIsYieldable =>
    match Args.nth args 1 with
    | .thread id =>
      return .done [.bool (if id = caller.thread then caller.isYieldable else id ≠ 0)]
    | _ => return .done [.bool caller.isYieldable]
  | .coClose => return .closeThread (← Args.thread args 1)
  | _ => return .done []

end RobotSession.Lua.Library.Coroutines
