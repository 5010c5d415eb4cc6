import RobotSession.Lua.Library.Dates
import RobotSession.Lua.Library.Streams

/-!
# The system library

The clock and the environment are the host's. There is no shell, and no file is changed.
-/

namespace RobotSession.Lua.Library.System

open Text (octets)

/-- The functions of `os`. -/
def call (f : Native) (args : List Value) : Body Reply := do
  match f with
  | .osClock => return .ask (.secondsRead false)
  | .osTime => Dates.time args
  | .osDifftime => do
    let a ← Args.int args 1
    let b ← Args.int args 2
    return .done [.float (Number.Binary64.ofInt (a.toInt - b.toInt))]
  | .osDate => Dates.date args
  | .osGetenv => return .ask (.variableRead (← Args.text args 1))
  | .osExit => do
    -- a truth value stands for success or failure
    let code : Int ←
      match Args.nth args 1 with
      | .bool true => pure 0
      | .bool false => pure 1
      | _ => (·.toInt) <$> Args.intOr args 1 0
    return .ask (.exiting code)
  | .osSetlocale => do
    let s ← Args.textOr args 1 (octets "C")
    let _ ← Args.option args 2 (some "all") ["all", "collate", "ctype", "monetary", "numeric", "time"]
    return .done [if s.size = 0 || s == octets "C" || s == octets "POSIX" then .text "C" else .nil]
  | .osExecute =>
    if Args.isNone args 1 then return .done [.bool false]
    else do
      let _ ← Args.text args 1
      return .done [.nil, .text "exit", .int 127]
  | .osRemove => return .ask (.opening (← Args.text args 1) .changes)
  | .osRename => do
    let path ← Args.text args 1
    let _ ← Args.text args 2
    return .ask (.opening path .changes)
  | .osTmpname => Args.located "unable to generate a unique filename"
  | _ => return .done []

end RobotSession.Lua.Library.System
