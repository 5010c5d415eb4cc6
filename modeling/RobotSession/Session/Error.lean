import RobotSession.Host.Diagnostic
import RobotSession.Text.Utf8

/-!
# Failures of sessions

A session fails at the first stage that goes wrong. `SessionError.message` is the text of a
failure and `SessionError.kind` the kind under which the host is told.
-/

namespace RobotSession

/-- Why a robot session failed. -/
inductive SessionError
  | engineInit (detail : String)
  | scriptNotFound (path : ByteArray) (detail : String)
  | moduleLoad (detail : String)
  /-- The module is a value of another type. -/
  | notATable (type : String)
  | missingConstructor
  | constructionFailed (detail : String)
  | missingStart
  | startFailed (detail : String)
  | panicked (text : String)
  deriving Inhabited

namespace SessionError

/-- The name of a failure. -/
def name : SessionError → String
  | .engineInit _ => "EngineInit"
  | .scriptNotFound .. => "ScriptNotFound"
  | .moduleLoad _ => "ModuleLoad"
  | .notATable _ => "NotATable"
  | .missingConstructor => "MissingConstructor"
  | .constructionFailed _ => "ConstructionFailed"
  | .missingStart => "MissingStart"
  | .startFailed _ => "StartFailed"
  | .panicked _ => "Panicked"

/-- The text of a failure. -/
def message : SessionError → String
  | .engineInit detail => "failed to create Lua engine: " ++ detail
  | .scriptNotFound path detail => "cannot open " ++ Text.Utf8.lossy path ++ ": " ++ detail
  | .moduleLoad detail => detail
  | .notATable type => "Module did not return a table (got " ++ type ++ ")"
  | .missingConstructor => "Module table missing 'new' function"
  | .constructionFailed detail => detail
  | .missingStart => "Robot missing startCompetition method"
  | .startFailed detail => detail
  | .panicked text => "robot thread panicked: " ++ text

def kind : SessionError → DiagnosticKind
  | .engineInit _ => .engineInit
  | .scriptNotFound .. => .moduleLoad
  | .moduleLoad _ => .moduleLoad
  | .notATable _ => .notATable
  | .missingConstructor => .missingConstructor
  | .constructionFailed _ => .constructionFailed
  | .missingStart => .missingStart
  | .startFailed _ => .startFailed
  | .panicked _ => .workerPanicked

/-- What the host is told. -/
def diagnostic (e : SessionError) : Diagnostic :=
  .error e.kind e.message

end SessionError

/-- Why a run has no outcome. -/
inductive BridgeError
  | hardwareInit (code : Int)
  /-- The operating system refused a thread. -/
  | spawn (detail : String)
  | session (e : SessionError)
  deriving Inhabited

namespace BridgeError

def name : BridgeError → String
  | .hardwareInit _ => "HardwareInit"
  | .spawn _ => "Spawn"
  | .session _ => "Session"

def message : BridgeError → String
  | .hardwareInit code => s!"hardware initialization failed with code {code}"
  | .spawn detail => "failed to spawn robot thread: " ++ detail
  | .session e => "robot session failed: " ++ e.message

def exitCode : BridgeError → Int
  | .hardwareInit code => code
  | _ => 1

/-- The text of the failure that caused this one. -/
def cause? : BridgeError → Option String
  | .hardwareInit _ => none
  | .spawn detail => some detail
  | .session e => some e.message

end BridgeError

end RobotSession
