import RobotSession.Host.Diagnostic
import RobotSession.Session.Record

/-!
# The simulated host

A simulated host counts what is asked of it. Its main loop runs until an exit is
requested, which may have happened before it starts.
-/

namespace RobotSession

structure SimHost where
  hasMainLoop : Bool := true
  initCode : Int := 0
  extensions : List String := []
  exitRequested : Bool := false
  loopRuns : Nat := 0
  initCalls : Nat := 0
  shutdownCalls : Nat := 0
  diagnostics : List Diagnostic := []
  deriving Inhabited

namespace SimHost

def record (level : Level) (message : String) (fields : List (String × FieldValue)) : Record :=
  { level, target := .simulation, message, fields }

/-- A host without a main loop. -/
def headless : SimHost :=
  { hasMainLoop := false }

/-- Initializes the hardware; 0 is success. -/
def hardwareInit (h : SimHost) : SimHost × Record :=
  let code := h.initCode
  let r :=
    if code = 0 then
      record .info "simulation host initialized"
        [("extensions", .text (Text.Quoted.encodeList h.extensions))]
    else record .error "simulation host failed to initialize" [("code", .text s!"{code}")]
  ({ h with initCalls := h.initCalls + 1 }, r)

def enterMainLoop (h : SimHost) : SimHost × Record :=
  ({ h with loopRuns := h.loopRuns + 1 }, record .debug "simulation main loop running" [])

def leftMainLoop : Record :=
  record .debug "simulation main loop exited" []

def requestExit (h : SimHost) : SimHost :=
  { h with exitRequested := true }

def shutdown (h : SimHost) : SimHost × Record :=
  ({ h with shutdownCalls := h.shutdownCalls + 1 }, record .info "simulation host shut down" [])

def sendError (h : SimHost) (d : Diagnostic) : SimHost × Record :=
  let code := d.code.toInt
  ({ h with diagnostics := h.diagnostics ++ [d] },
    record .error d.message [("kind", .text d.kind.title), ("code", .text s!"{code}")])

end SimHost

end RobotSession
