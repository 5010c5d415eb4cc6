/-!
# Diagnostics

A diagnostic tells the host that a robot session has failed. Its kind says at which stage,
and has a name for exchange and a label for people.
-/

namespace RobotSession

inductive Severity
  | error
  deriving DecidableEq, Inhabited

namespace Severity

def all : List Severity := [.error]

/-- The name for exchange. -/
def name : Severity → String
  | .error => "error"

end Severity

/-- The stage at which a session failed. -/
inductive DiagnosticKind
  | engineInit
  | moduleLoad
  | notATable
  | missingConstructor
  | constructionFailed
  | missingStart
  | startFailed
  | workerPanicked
  deriving DecidableEq, Inhabited

namespace DiagnosticKind

/-- The kinds in the order in which they are listed. -/
def all : List DiagnosticKind :=
  [.engineInit, .moduleLoad, .notATable, .missingConstructor, .constructionFailed,
   .missingStart, .startFailed, .workerPanicked]

/-- The name for exchange. -/
def name : DiagnosticKind → String
  | .engineInit => "engine_init"
  | .moduleLoad => "module_load"
  | .notATable => "not_a_table"
  | .missingConstructor => "missing_constructor"
  | .constructionFailed => "construction_failed"
  | .missingStart => "missing_start"
  | .startFailed => "start_failed"
  | .workerPanicked => "worker_panicked"

/-- The name in log records. -/
def title : DiagnosticKind → String
  | .engineInit => "EngineInit"
  | .moduleLoad => "ModuleLoad"
  | .notATable => "NotATable"
  | .missingConstructor => "MissingConstructor"
  | .constructionFailed => "ConstructionFailed"
  | .missingStart => "MissingStart"
  | .startFailed => "StartFailed"
  | .workerPanicked => "WorkerPanicked"

/-- The label for people. -/
def label : DiagnosticKind → String
  | .engineInit => "engine construction failed"
  | .moduleLoad => "module load failed"
  | .notATable => "module did not return a table"
  | .missingConstructor => "module table missing 'new' function"
  | .constructionFailed => "construction failed"
  | .missingStart => "robot missing startCompetition method"
  | .startFailed => "startCompetition failed"
  | .workerPanicked => "robot thread panicked"

end DiagnosticKind

/-- What the host is told; when it was reported is left out. -/
structure Diagnostic where
  severity : Severity := .error
  code : Int32
  source : String
  kind : DiagnosticKind
  message : String
  deriving DecidableEq, Inhabited

namespace Diagnostic

/-- Who reports. -/
def sourceName : String := "luabot"

/-- The code of script errors. -/
def scriptErrorCode : Int32 := 1

/-- The diagnostic of a failed session. -/
def error (kind : DiagnosticKind) (detail : String) : Diagnostic :=
  { code := scriptErrorCode, source := sourceName, kind
    message := "[" ++ sourceName ++ "]: " ++ detail }

end Diagnostic

end RobotSession
