import RobotSession.Host.Simulation
import RobotSession.Json.Value

/-!
# Rehearsing a host

Calls on a simulated host, one after the other. A main loop that nobody has asked to exit
is released by someone else while it waits.
-/

namespace RobotSession.Rehearsal

inductive HostStep
  | new
  | headless
  | initCode (code : Int)
  | extensions (names : List String)
  | hardwareInit
  | hasMainLoop
  | requestExit
  | runMainLoop
  | shutdown
  | sendError (kind : Json.Value) (detail : String)

/-- What a call has come to. -/
inductive HostResult
  | nothing
  | code (code : Int)
  | flag (b : Bool)
  | released (byOther : Bool)
  | mismatch (m : Json.Mismatch)

/-- The kind of a diagnostic that a JSON value stands for. -/
def kindOf (v : Json.Value) : Except Json.Mismatch DiagnosticKind :=
  Json.Value.enumerated DiagnosticKind.all DiagnosticKind.name v

/-- Carries out a call. -/
def HostStep.run (h : SimHost) : HostStep → HostResult × SimHost × List Record
  | .new => (.nothing, {}, [])
  | .headless => (.nothing, .headless, [])
  | .initCode code => (.nothing, { h with initCode := code }, [])
  | .extensions names => (.nothing, { h with extensions := names }, [])
  | .hardwareInit =>
    let (host, r) := h.hardwareInit
    (.code h.initCode, host, [r])
  | .hasMainLoop => (.flag h.hasMainLoop, h, [])
  | .requestExit => (.nothing, h.requestExit, [])
  | .runMainLoop =>
    let (host, r) := h.enterMainLoop
    (.released (!h.exitRequested), host.requestExit, [r, SimHost.leftMainLoop])
  | .shutdown =>
    let (host, r) := h.shutdown
    (.nothing, host, [r])
  | .sendError kind detail =>
    match kindOf kind with
    | .error m => (.mismatch m, h, [])
    | .ok kind =>
      let (host, r) := h.sendError (.error kind detail)
      (.nothing, host, [r])

end RobotSession.Rehearsal
