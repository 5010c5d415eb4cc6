import RobotSession.Lua.Instruction
import RobotSession.Lua.Library.Catalog

/-!
# How built-in functions go on

A built-in function that has made a call goes on with its results, and one that has
asked the host goes on with the answer.

* `Callback.withResults` — after a call.
* `Request.withAnswer` — after a request. That queued calls end a sleep is left to the
  machine, which delivers them.
-/

namespace RobotSession.Lua

open Library
open Text (octets)

/-- Goes on with the results of a call. -/
def Callback.withResults (k : Callback) (values : List Value) : Body Reply := do
  match k with
  | .pcall => return .done (.bool true :: values)
  | .xpcall _ => return .done (.bool true :: values)
  -- a wish for a million values stands for all of them
  | .takeOf n => return .done (if n < 1000000 then LuaFrame.adjust n values else values)
  | .mustBeText =>
    match Args.asText? (values.headD .nil) with
    | some s => return .done [.str s]
    | none => Args.located "'__tostring' must return a string"
  | .position i =>
    -- a walk ends at the first value that is absent
    let v := values.headD .nil
    return .done (if v.isNil then [.nil] else [.int i, v])
  | .printLookup args => Robot.printWith args (values.headD .nil)
  | .printing tostring done rest => Robot.printed tostring done rest values
  | .sorting s => Tables.sortResume s values
  | .substituting s => Strings.gsubResume s values
  | .formatting s => Strings.formatResume s values
  | .loadPieces f mode name environment pieces =>
    Basics.loadPiece f mode name environment pieces values
  | .requireSearch name rest messages => Packages.requireSearch name rest messages values
  | .requireLoad name data => Packages.requireLoad name data values

/-- Goes on with the host's answer. -/
def Request.withAnswer (r : Request) (a : Answer) : Body Reply := do
  match r, a with
  | .logging _, a => Robot.logged a
  | .sleepStart duration, .time now => return Robot.sleepNext (now + duration)
  | .sleepCheck deadline, _ => return .ask (.sleepClock deadline)
  | .sleepClock deadline, .time now =>
    -- a sleep that has passed its deadline returns before it looks at the queue again
    return if deadline ≤ now then .done [.bool false] else .ask (.sleepWait deadline)
  | .sleepWait deadline, _ => return Robot.sleepNext deadline
  | .loadRead path environment run, .file content => Basics.fileRead path environment run content
  | .searchRead path rest messages load, .file content =>
    Packages.searchRead path rest messages load content
  | .opening path use, .file content => Streams.opened path use content
  | .writing _ _ values, _ => return .done values
  | .variableRead _, .variableIs v => return .done [match v with | some s => .str s | none => .nil]
  | .secondsRead isWhole, .time now =>
    -- seconds and what is left are converted apart, so that no digit of the clock is lost
    let whole := now / 1000000000
    if isWhole then return .done [.int (Int64.ofNat whole)]
    else
      let seconds := Number.Binary64.ofInt whole
      let rest := Number.Binary64.ofInt (now % 1000000000 : Nat)
      return .done [.float (seconds + rest / 1000000000.0)]
  | .dateRead template, .time now => Dates.dated template (now / 1000000000)
  -- any number may come of this: the surroundings move their clock as they like
  | .memoryRead isStep, .time now =>
    if isStep then return .done [.bool (now % 2 = 0)]
    else return .done [.float (Number.Binary64.ofInt now / 1024.0)]
  | _, _ => return .done []

end RobotSession.Lua
