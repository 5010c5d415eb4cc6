import RobotSession.Bridge.Controller
import RobotSession.Json.Codec
import RobotSession.Number.Duration
import RobotSession.Session.Timestamp
import RobotSession.Session.Uuid

/-!
# Reports

What the program tells others about sessions, and the JSON forms of it.

* `Report` — the outcome of a session, with its identifier.
* `Dispatch` — a diagnostic, with the time at which it was reported.
* The codecs of the enumerations in them.
-/

namespace RobotSession

open Json

/-! ### Enumerations -/

def Delivery.codec : Codec Delivery := .enumeration all name
def BridgeState.codec : Codec BridgeState := .enumeration all name
def Termination.codec : Codec Termination := .enumeration all name
def WorkerPhase.codec : Codec WorkerPhase := .enumeration all name
def Severity.codec : Codec Severity := .enumeration all name
def DiagnosticKind.codec : Codec DiagnosticKind := .enumeration all name

/-! ### Plain values -/

def Uuid.codec : Codec Uuid :=
  .parsed "a formatted UUID string"
    (fun s => (read s).mapError fun f => .custom ("UUID parsing failed: " ++ f.message)) write

def Timestamp.codec : Codec Timestamp :=
  .parsed "an RFC 3339 formatted date and time string"
    (fun s => (read s).mapError fun f => .custom f.message) write

namespace Number.Duration

/-- The fields of a span that have been read. -/
structure Draft where
  seconds : Option UInt64 := none
  nanoseconds : Option UInt32 := none

/-- A span from seconds and nanoseconds, of which there may be more than fit in a second. -/
def ofDraft (d : Draft) : Except Mismatch Duration :=
  match d.seconds, d.nanoseconds with
  | none, _ => .error (.missingField "secs")
  | _, none => .error (.missingField "nanos")
  | some s, some n =>
    match ofNanoseconds? (s.toNat * second + n.toNat) with
    | some d => .ok d
    | none => .error (.custom "overflow deserializing Duration")

def schema : Schema Draft Duration where
  expected := "struct Duration"
  fields :=
    [.of "secs" (.word64 "u64") Draft.seconds (fun d s => { d with seconds := some s })
       (fun d => UInt64.ofNat d.seconds),
     .of "nanos" (.word32 "u32") Draft.nanoseconds (fun d n => { d with nanoseconds := some n })
       (fun d => UInt32.ofNat d.subsecond)]
  start := {}
  full := some "struct Duration"
  strict := true
  finish := ofDraft

def codec : Codec Duration := schema.codec

end Number.Duration

/-! ### Reports -/

/-- The outcome of a session as others are told. -/
structure Report where
  session : Uuid
  termination : Termination
  transitions : List BridgeState
  endRequest : Option Delivery
  robotStarted : Bool
  engineCloses : UInt64
  joinWait : Number.Duration
  deriving DecidableEq, Inhabited

namespace Report

/-- The exit code of a session that was run. -/
def exitCode (_ : Report) : Int := 0

/-- The fields of a report that have been read. -/
structure Draft where
  session : Option Uuid := none
  termination : Option Termination := none
  transitions : Option (List BridgeState) := none
  endRequest : Option (Option Delivery) := none
  robotStarted : Option Bool := none
  engineCloses : Option UInt64 := none
  joinWait : Option Number.Duration := none

/-- A field that has to be there. -/
def required {α : Type} (name : String) (field : Option α) : Except Mismatch α :=
  match field with
  | some a => .ok a
  | none => .error (.missingField name)

/-- The report of a draft. An answer to the end request may be missing. -/
def ofDraft (d : Draft) : Except Mismatch Report := do
  return {
    session := ← required "session_id" d.session
    termination := ← required "termination" d.termination
    transitions := ← required "transitions" d.transitions
    endRequest := d.endRequest.getD none
    robotStarted := ← required "robot_started" d.robotStarted
    engineCloses := ← required "engine_closes" d.engineCloses
    joinWait := ← required "join_wait" d.joinWait }

def schema : Schema Draft Report where
  expected := "struct SessionOutcome"
  fields :=
    [.of "session_id" Uuid.codec Draft.session (fun d v => { d with session := some v }) session,
     .of "termination" Termination.codec Draft.termination
       (fun d v => { d with termination := some v }) termination,
     .of "transitions" (.list BridgeState.codec) Draft.transitions
       (fun d v => { d with transitions := some v }) transitions,
     .of "end_request" (.optional Delivery.codec) Draft.endRequest
       (fun d v => { d with endRequest := some v }) endRequest,
     .of "robot_started" .boolean Draft.robotStarted
       (fun d v => { d with robotStarted := some v }) robotStarted,
     .of "engine_closes" (.word64 "usize") Draft.engineCloses
       (fun d v => { d with engineCloses := some v }) engineCloses,
     .of "join_wait" Number.Duration.codec Draft.joinWait
       (fun d v => { d with joinWait := some v }) joinWait]
  start := {}
  full := some "struct SessionOutcome with 7 elements"
  finish := ofDraft

def codec : Codec Report := schema.codec

end Report

/-- A diagnostic and the time at which it was reported. -/
structure Dispatch where
  diagnostic : Diagnostic
  reportedAt : Timestamp
  deriving DecidableEq, Inhabited

namespace Dispatch

/-- The fields of a dispatch that have been read. -/
structure Draft where
  severity : Option Severity := none
  code : Option Int32 := none
  source : Option String := none
  kind : Option DiagnosticKind := none
  message : Option String := none
  reportedAt : Option Timestamp := none

def ofDraft (d : Draft) : Except Mismatch Dispatch := do
  let severity ← Report.required "severity" d.severity
  let code ← Report.required "code" d.code
  let source ← Report.required "source" d.source
  let kind ← Report.required "kind" d.kind
  let message ← Report.required "message" d.message
  let reportedAt ← Report.required "reported_at" d.reportedAt
  return { diagnostic := { severity, code, source, kind, message }, reportedAt }

def schema : Schema Draft Dispatch where
  expected := "struct Diagnostic"
  fields :=
    [.of "severity" Severity.codec Draft.severity (fun d v => { d with severity := some v })
       (·.diagnostic.severity),
     .of "code" (.signed32 "i32") Draft.code (fun d v => { d with code := some v })
       (·.diagnostic.code),
     .of "source" .text Draft.source (fun d v => { d with source := some v })
       (·.diagnostic.source),
     .of "kind" DiagnosticKind.codec Draft.kind (fun d v => { d with kind := some v })
       (·.diagnostic.kind),
     .of "message" .text Draft.message (fun d v => { d with message := some v })
       (·.diagnostic.message),
     .of "reported_at" Timestamp.codec Draft.reportedAt
       (fun d v => { d with reportedAt := some v }) reportedAt]
  start := {}
  full := some "struct Diagnostic with 6 elements"
  finish := ofDraft

def codec : Codec Dispatch := schema.codec

end Dispatch

end RobotSession
