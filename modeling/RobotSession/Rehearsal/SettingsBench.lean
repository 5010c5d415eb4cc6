import RobotSession.Settings.Basic

/-!
# Rehearsing settings

Settings are loaded and changed, one step after the other.
-/

namespace RobotSession.Rehearsal

inductive SettingsStep
  | default
  /-- Loads a file, after it has been written if a content is given. -/
  | load (path : ByteArray) (content : Option ByteArray)
  | override (value : Option String)
  | environment (value : Option ByteArray)
  | set (joinTimeoutMs hookInterval : Option Nat)
  | validate
  | bridge

/-- What a step has come to. -/
inductive SettingsResult
  | nothing
  | error (e : SettingsError)
  | bridge (joinTimeout : Number.Duration) (hookInterval : Nat) (isDefault : Bool)

structure SettingsBench where
  settings : Settings := {}
  files : Files := {}

/-- Carries out a step. Settings that cannot be loaded leave the old ones. -/
def SettingsBench.step (x : SettingsBench) : SettingsStep → SettingsResult × SettingsBench
  | .default => (.nothing, { x with settings := {} })
  | .load path content =>
    let files :=
      match content with
      | some c => x.files.put path (some c)
      | none => x.files
    match Settings.load files path with
    | .ok settings => (.nothing, { settings, files })
    | .error e => (.error e, { x with files })
  | .override value => (.nothing, { x with settings := x.settings.override value })
  | .environment value => (.nothing, { x with settings := x.settings.overrideOctets value })
  | .set timeout interval =>
    let s := x.settings
    (.nothing, { x with settings := { s with
      joinTimeoutMs := (timeout.map UInt64.ofNat).getD s.joinTimeoutMs
      hookInterval := (interval.map UInt32.ofNat).getD s.hookInterval } })
  | .validate =>
    match x.settings.validate with
    | .ok () => (.nothing, x)
    | .error e => (.error e, x)
  | .bridge =>
    let s := x.settings
    (.bridge s.joinTimeout s.bridge.hookInterval (s.bridge = {}), x)

end RobotSession.Rehearsal
