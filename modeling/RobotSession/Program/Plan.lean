import RobotSession.CommandLine.Request
import RobotSession.Lua.Open
import RobotSession.Settings.Basic

/-!
# Plans

What a process is to do, by its command line, its environment and its files: show a text, or
run a robot program with the settings that are in force.

The settings are those of the file that the command line names, or else the defaults; the
environment overrides the list of extensions, and the command line the time to wait for the
robot. Settings with which no session can be run are refused before any host is touched.

* `Request.settings` — the settings in force.
* `Plan.of` — the plan of a process.
-/

namespace RobotSession

open CommandLine

/-- Why there are no settings with which to run. -/
inductive SetupFault
  /-- The file of settings cannot be used. -/
  | file (path : ByteArray) (e : SettingsError)
  /-- The settings in force cannot be used. -/
  | commandLine (e : SettingsError)

namespace SetupFault

/-- A failure and the failure behind it. -/
def chain (e : SettingsError) : String :=
  e.message ++ (match e.cause? with
    | some cause => ": " ++ cause
    | none => "")

def message : SetupFault → String
  | .file path e => "loading config " ++ Text.Utf8.lossy path ++ ": " ++ chain e
  | .commandLine e => "invalid command-line settings: " ++ chain e

end SetupFault

namespace CommandLine.Request

/-- The settings in force, by the value of the environment variable for the extensions. -/
def settings (r : Request) (extensions : Option ByteArray) (files : Files) :
    Except SetupFault Settings := do
  let loaded ← match r.config with
    | none => .ok {}
    | some path => (Settings.load files path).mapError (.file path)
  let s := loaded.overrideOctets extensions
  let s := { s with joinTimeoutMs := r.joinTimeoutMs.getD s.joinTimeoutMs }
  s.validate.mapError .commandLine
  return s

end CommandLine.Request

/-- What a process is started with. -/
structure Surroundings where
  arguments : List ByteArray
  environment : List (String × ByteArray) := []
  files : Files := {}
  /-- What the collector of an interpreter is going to do. -/
  collections : List Lua.Collection := []

/-- What a process is to do. -/
inductive Plan
  /-- Show a text and end. -/
  | tell (text : String) (code : Int)
  /-- Show a text as an error and end. -/
  | complain (text : String) (code : Int)
  /-- Run a robot program. -/
  | run (host : SimHost) (config : BridgeConfig) (path : ByteArray)

namespace Plan

/-- The line that tells the versions. -/
def banner : String :=
  "LuaBot " ++ Lua.Machine.version ++ " -- " ++ Lua.Machine.language

/-- The host of a robot program. -/
def hostFor (m : Mode) (s : Settings) : SimHost :=
  match m with
  | .simulated => { extensions := s.sim.extensions }
  | .headless => .headless

/-- The line for a failure. -/
def errorLine (message : String) : String :=
  "Error: " ++ message ++ "\n"

/-- The plan for a request. -/
def ofRequest (r : Request) (extensions : Option ByteArray) (files : Files) : Plan :=
  if r.showsVersion then .tell (banner ++ "\n") 0
  else
    match r.program with
    | none => .tell Command.root.helpText 2
    | some (mode, path) =>
      match r.settings extensions files with
      | .error f => .complain (errorLine f.message) 1
      | .ok s => .run (hostFor mode s) s.bridge path

/-- The plan of a process. -/
def of (s : Surroundings) : Plan :=
  match Request.ofWords s.arguments with
  | .error (.help c) => .tell c.helpText 0
  | .error (.refused r) => .complain r.text 2
  | .ok r => ofRequest r (s.environment.lookup Settings.extensionsVariable) s.files

end Plan

end RobotSession
