import RobotSession.Bridge.Controller
import RobotSession.Json.Codec
import RobotSession.Number.Duration

/-!
# Settings

The settings of the program come, in increasing precedence, from defaults, from a file, from
an environment variable for the list of extensions, and from the command line.

* `Settings.codec` — the JSON form; fields that are missing have their defaults.
* `Settings.load` — the settings of a file.
* `Settings.override` — a list of extensions instead of the one that was set.
* `Settings.bridge` — what a controller has to know.
-/

namespace RobotSession

open Json

/-- The settings of an engine. -/
structure EngineSettings where
  hookInterval : UInt32 := UInt32.ofNat Engine.defaultInterval
  deriving DecidableEq, Inhabited

namespace EngineSettings

/-- The fields that have been read. -/
structure Draft where
  hookInterval : Option UInt32 := none

def schema : Schema Draft EngineSettings where
  expected := "struct EngineOptions"
  fields :=
    [.of "hook_interval" (.word32 "u32") Draft.hookInterval (fun _ v => ⟨some v⟩) hookInterval]
  start := {}
  full := some "struct EngineOptions with 1 element"
  finish d :=
    match d.hookInterval with
    | some v => .ok ⟨v⟩
    | none => .error (.missingField "hook_interval")

def codec : Codec EngineSettings := schema.codec

end EngineSettings

/-- The settings of the simulated host. -/
structure SimSettings where
  extensions : List String := ["halsim_ds_socket", "halsim_gui"]
  deriving DecidableEq, Inhabited

namespace SimSettings

/-- The fields that have been read. -/
structure Draft where
  extensions : Option (List String) := none

def schema : Schema Draft SimSettings where
  expected := "struct SimConfig"
  fields := [.of "extensions" (.list .text) Draft.extensions (fun _ v => ⟨some v⟩) extensions]
  start := {}
  full := none
  finish d :=
    let default : SimSettings := {}
    .ok { extensions := d.extensions.getD default.extensions }

def codec : Codec SimSettings := schema.codec

end SimSettings

structure Settings where
  /-- Milliseconds that the controller waits for the worker. -/
  joinTimeoutMs : UInt64 := 1000
  hookInterval : UInt32 := UInt32.ofNat Engine.defaultInterval
  sim : SimSettings := {}
  deriving DecidableEq, Inhabited

/-- Why there are no settings. -/
inductive SettingsError
  | unreadable (path : ByteArray) (f : FileFault)
  | malformed (f : Failure)
  | invalid (reason : String)

namespace SettingsError

def message : SettingsError → String
  | .unreadable path f => "cannot read config " ++ Text.Utf8.lossy path ++ ": " ++ f.message
  | .malformed f => "invalid config: " ++ f.message
  | .invalid reason => "invalid config value: " ++ reason

/-- The text of the fault behind the failure. -/
def cause? : SettingsError → Option String
  | .unreadable _ f => some f.message
  | .malformed f => some f.message
  | .invalid _ => none

end SettingsError

namespace Settings

/-- The fields that have been read. -/
structure Draft where
  joinTimeoutMs : Option UInt64 := none
  hookInterval : Option UInt32 := none
  sim : Option SimSettings := none

def ofDraft (d : Draft) : Settings :=
  let default : Settings := {}
  { joinTimeoutMs := d.joinTimeoutMs.getD default.joinTimeoutMs
    hookInterval := d.hookInterval.getD default.hookInterval
    sim := d.sim.getD default.sim }

def schema : Schema Draft Settings where
  expected := "struct LuabotConfig"
  fields :=
    [.of "join_timeout_ms" (.word64 "u64") Draft.joinTimeoutMs
       (fun d v => { d with joinTimeoutMs := some v }) joinTimeoutMs,
     .of "hook_interval" (.word32 "u32") Draft.hookInterval
       (fun d v => { d with hookInterval := some v }) hookInterval,
     .of "sim" SimSettings.codec Draft.sim (fun d v => { d with sim := some v }) sim]
  start := {}
  full := none
  finish d := .ok (ofDraft d)

def codec : Codec Settings := schema.codec

/-- Refuses settings with which no session can be run. -/
def validate (s : Settings) : Except SettingsError Unit :=
  if s.joinTimeoutMs = 0 then .error (.invalid "join_timeout_ms must be greater than zero")
  else .ok ()

/-- The environment variable for the list of extensions. -/
def extensionsVariable : String := "HALSIM_EXTENSIONS"

/-- The names of a list with colons between them; empty names do not count. -/
def splitNames (s : String) : List String :=
  ((s.toList.splitOn ':').filter fun n => !n.isEmpty).map String.ofList

/-- Sets the list of extensions, unless there is none or it is empty. -/
def override (s : Settings) (value : Option String) : Settings :=
  match value with
  | none => s
  | some v => if v.isEmpty then s else { s with sim := { extensions := splitNames v } }

/-- Sets the list of extensions from the environment. A value that is not text counts as
none. -/
def overrideOctets (s : Settings) (value : Option ByteArray) : Settings :=
  s.override (value.bind Text.Utf8.decode?)

/-- The settings of a file. -/
def load (files : Files) (path : ByteArray) : Except SettingsError Settings :=
  match files.readText path with
  | .error f => .error (.unreadable path f)
  | .ok text =>
    match codec.decode text.toUTF8.toList with
    | .error f => .error (.malformed f)
    | .ok s =>
      match s.validate with
      | .error e => .error e
      | .ok () => .ok s

/-- The time that the controller waits for the worker. -/
def joinTimeout (s : Settings) : Number.Duration :=
  .ofMillis s.joinTimeoutMs

/-- What a controller has to know. -/
def bridge (s : Settings) : BridgeConfig :=
  { joinTimeoutMs := s.joinTimeoutMs.toNat, hookInterval := s.hookInterval.toNat }

end Settings

end RobotSession
