import RobotSession.Bridge.Worker
import RobotSession.Proofs.Engine.Life

/-!
# The stations of a program

A program is brought up station by station: its module is evaluated, the constructor is
looked up and called, the start routine and the end routine are looked up, and the start
routine is run. What a script does at a station may be anything, and it comes to a value, an
error or a panic; a `StationReport` says which.

* `StationReport.failure?` — the failure of a session at a station, if the report is one.
* `verdict` — the failure of a session: that of the first report that is one.
* `Engine.Settles`, `Engine.settles` — how an engine goes on after a report.
-/

namespace RobotSession

open Lua Lua.Library
open Text (octets)

/-- **The stations** of a program. -/
inductive Station
  /-- The file is read, and the module is evaluated. -/
  | module
  /-- The constructor is looked up in the module. -/
  | constructor
  /-- The constructor is called. -/
  | construction
  /-- The routines are looked up in the robot. -/
  | startRoutine
  | endRoutine
  /-- The start routine is run. -/
  | run
  deriving DecidableEq

namespace Station

/-- The stations in their order. -/
def all : List Station := [.module, .constructor, .construction, .startRoutine, .endRoutine, .run]

/-- The stations that come before one. -/
def before (st : Station) : List Station := all.takeWhile (· ≠ st)

/-- Every station is on the way. -/
theorem mem_all (st : Station) : st ∈ all := by
  cases st <;> decide

/-- No station comes before itself. -/
theorem not_mem_before (st : Station) : st ∉ st.before := by
  cases st <;> decide

/-- All stations but the last one come before it. -/
theorem mem_before_run {st : Station} (h : st ≠ .run) : st ∈ before .run := by
  cases st with
  | run => exact absurd rfl h
  | _ => decide

/-- The stations before one are the first ones on the way. -/
theorem before_eq_take (st : Station) : st.before = all.take st.before.length := by
  cases st <;> rfl

/-- A station is the one at its place. -/
theorem all_before (st : Station) : all[st.before.length]? = some st := by
  cases st <;> rfl

end Station

/-- **What a station reports.** -/
inductive StationReport
  /-- The file cannot be read. -/
  | unread (path : ByteArray) (detail : String)
  /-- The file is not a program. -/
  | refused (fault : LoadFault)
  /-- What the script did has come to this, with the values in this heap. -/
  | outcome (st : Station) (h : Heap) (o : Engine.Outcome)

namespace StationReport

/-- Which station reports. -/
def station : StationReport → Station
  | .unread .. | .refused _ => .module
  | .outcome st .. => st

/-- **The failure of a session** at a station. A lookup that raises an error counts as one that
finds nothing, and an end routine need not be found. -/
def failure? : StationReport → Option SessionError
  | .unread path detail => some (.scriptNotFound path detail)
  | .refused (.source message) =>
    some (.moduleLoad (HostError.source (Text.Utf8.lossy message)).reason)
  | .refused .tooDeep => some (.moduleLoad (HostError.runtime "C stack overflow").reason)
  | .outcome _ _ (.panic p) => some (.panicked (Payload.shown p))
  | .outcome .module _ (.value (.table _)) => none
  | .outcome .module h (.value v) => some (.notATable (Exchange.typeName h v))
  | .outcome .module _ (.error message) => some (.moduleLoad message)
  | .outcome .constructor _ (.value (.func _)) => none
  | .outcome .constructor _ _ => some .missingConstructor
  | .outcome .construction _ (.value (.table _)) => none
  | .outcome .construction _ (.value _) => some .missingStart
  | .outcome .construction _ (.error message) => some (.constructionFailed message)
  | .outcome .startRoutine _ (.value (.func _)) => none
  | .outcome .startRoutine _ _ => some .missingStart
  | .outcome .endRoutine _ _ => none
  | .outcome .run _ (.value _) => none
  | .outcome .run _ (.error message) => some (.startFailed message)

/-- An end routine need not be found. -/
theorem failure?_endRoutine (h : Heap) (v : Value) :
    failure? (.outcome .endRoutine h (.value v)) = none := by
  cases v <;> rfl

/-- Whatever the start routine returns, it has returned. -/
theorem failure?_run (h : Heap) (v : Value) : failure? (.outcome .run h (.value v)) = none := by
  cases v <;> rfl

end StationReport

/-- **The failure of a session**: that of the first report that is one. -/
def verdict (reports : List StationReport) : Option SessionError :=
  reports.findSome? StationReport.failure?

/-- **The robot is ready**: every station before the last one has been passed. -/
def Ready (reports : List StationReport) : Prop :=
  ∀ st ∈ Station.all, st ≠ .run → ∃ r ∈ reports, r.station = st ∧ r.failure? = none

/-! ### Reports in their order -/

variable {reports : List StationReport} {r : StationReport} {st : Station}

/-- **A program is under way** at a station: those before it have been passed. -/
structure Underway (reports : List StationReport) (st : Station) : Prop where
  stations : reports.map StationReport.station = st.before
  passed : ∀ r ∈ reports, r.failure? = none

/-- **What a program has come to**: it has passed all stations, or has failed at one. -/
inductive Ended : List StationReport → WorkerResult → Prop
  | returned {reports : List StationReport}
      (stations : reports.map StationReport.station = Station.all)
      (passed : ∀ r ∈ reports, r.failure? = none) : Ended reports .returned
  | failed {reports : List StationReport} {r : StationReport} {err : SessionError}
      (h : Underway reports r.station) (hfails : r.failure? = some err) :
      Ended (reports ++ [r]) (.failed err)

/-- The result of a session with this verdict. -/
def resultOf : Option SessionError → WorkerResult
  | none => .returned
  | some e => .failed e

/-- A session returns only if no station has failed. -/
theorem verdict_of_returned {verdict : Option SessionError} (h : .returned = resultOf verdict) :
    verdict = none := by
  cases verdict with
  | none => rfl
  | some e => cases h

/-- It fails with the failure of a station. -/
theorem verdict_of_failed {verdict : Option SessionError} {e : SessionError}
    (h : .failed e = resultOf verdict) : verdict = some e := by
  cases verdict with
  | none => cases h
  | some e' =>
    obtain rfl := WorkerResult.failed.inj h
    rfl

/-- Where nothing fails, there is no verdict. -/
theorem verdict_eq_none (h : ∀ r ∈ reports, r.failure? = none) : verdict reports = none :=
  List.findSome?_eq_none_iff.mpr h

/-- A robot that is ready stays so. -/
theorem Ready.append (h : Ready reports) (r : StationReport) : Ready (reports ++ [r]) := by
  intro st hst hrun
  obtain ⟨r', hmem, hr'⟩ := h st hst hrun
  exact ⟨r', List.mem_append_left _ hmem, hr'⟩

/-- A station that fails does not make the robot ready. -/
theorem ready_append_iff {err : SessionError} (hfails : r.failure? = some err) :
    Ready (reports ++ [r]) ↔ Ready reports := by
  constructor
  · -- a station is not passed by a report of its failure, so the report that passes it was there
    -- before
    intro h st hst hrun
    obtain ⟨r', hmem, hstation, hpass⟩ := h st hst hrun
    rcases List.mem_append.mp hmem with hold | hnew
    · exact ⟨r', hold, hstation, hpass⟩
    · rw [List.mem_singleton.mp hnew, hfails] at hpass
      cases hpass
  · intro h
    exact h.append r

namespace Underway

/-- A session begins at the first station. -/
theorem start : Underway [] .module :=
  ⟨rfl, fun _ hmem => absurd hmem List.not_mem_nil⟩

/-- **The robot is ready** when the last station is under way. -/
theorem ready_iff (h : Underway reports st) : Ready reports ↔ st = .run := by
  constructor
  · -- no report is of the station itself, so it can only be the one that need not be passed
    intro hready
    refine Decidable.byContradiction fun hrun => ?_
    obtain ⟨r, hmem, hstation, -⟩ := hready st st.mem_all hrun
    refine st.not_mem_before ?_
    rw [← h.stations, ← hstation]
    exact List.mem_map_of_mem hmem
  · rintro rfl st - hrun
    have hmem := Station.mem_before_run hrun
    rw [← h.stations] at hmem
    obtain ⟨r, hmem, hstation⟩ := List.mem_map.mp hmem
    exact ⟨r, hmem, hstation, h.passed r hmem⟩

/-- A station that passes leaves all of them passed. -/
theorem passed_append (h : Underway reports st) (hpass : r.failure? = none) :
    ∀ r' ∈ reports ++ [r], r'.failure? = none := by
  intro r' hmem
  rcases List.mem_append.mp hmem with hold | hnew
  · exact h.passed r' hold
  · rw [List.mem_singleton.mp hnew]
    exact hpass

/-- Its report is that of the next station. -/
theorem stations_append (h : Underway reports st) (hstation : r.station = st) :
    (reports ++ [r]).map StationReport.station = st.before ++ [st] := by
  rw [List.map_append, h.stations, ← hstation]
  rfl

/-- A station has been passed, and the next one is under way. -/
theorem pass {next : Station} (h : Underway reports st) (hstation : r.station = st)
    (hpass : r.failure? = none) (hnext : next.before = st.before ++ [st]) :
    Underway (reports ++ [r]) next :=
  ⟨(h.stations_append hstation).trans hnext.symm, h.passed_append hpass⟩

/-- The last station has been passed. -/
theorem finish (h : Underway reports .run) (hstation : r.station = .run)
    (hpass : r.failure? = none) : Ended (reports ++ [r]) .returned :=
  .returned (h.stations_append hstation) (h.passed_append hpass)

/-- **A station that fails** ends the session. -/
theorem fail {err : SessionError} (h : Underway reports st) (hstation : r.station = st)
    (hfails : r.failure? = some err) : Ended (reports ++ [r]) (.failed err) :=
  .failed (hstation ▸ h) hfails

/-- The stations before this one were passed in their order. -/
theorem order (h : Underway reports st) :
    reports.map StationReport.station = Station.all.take reports.length := by
  rw [← List.length_map StationReport.station, h.stations]
  exact st.before_eq_take

end Underway

namespace Ended

variable {result : WorkerResult}

/-- **The result of a session** is that of the first failure. -/
theorem result_eq (h : Ended reports result) : result = resultOf (verdict reports) := by
  cases h with
  | returned stations passed =>
    rw [verdict_eq_none passed]
    rfl
  -- the first failure is the last report
  | failed h hfails =>
    unfold verdict
    rw [List.findSome?_append, List.findSome?_eq_none_iff.mpr h.passed]
    change _ = resultOf (List.findSome? _ [_])
    rw [List.findSome?_singleton, hfails]
    rfl

/-- The stations were passed in their order, up to the one that failed. -/
theorem order (h : Ended reports result) :
    reports.map StationReport.station = Station.all.take reports.length
      ∧ ∀ r ∈ reports.dropLast, r.failure? = none := by
  cases h with
  | returned stations passed =>
    refine ⟨?_, fun r hr => passed r (List.dropLast_subset _ hr)⟩
    rw [← List.length_map StationReport.station, stations]
    rfl
  -- only the last report is a failure
  | @failed reports r err h hfails =>
    refine ⟨?_, fun r' hr' => ?_⟩
    · rw [h.stations_append rfl, List.length_append, ← List.length_map StationReport.station,
        h.stations]
      cases r.station <;> rfl
    · rw [List.dropLast_concat] at hr'
      exact h.passed r' hr'

end Ended

/-! ### The reports of an engine -/

/-- The station at which a task is under way. -/
def Task.station? : Task → Option Station
  | .load => some .module
  | .findConstructor => some .constructor
  | .construct => some .construction
  | .findStart _ => some .startRoutine
  | .findEnd .. => some .endRoutine
  | .start => some .run
  | .idle | .version | .finalize _ => none

/-- What a file reports that cannot be loaded. -/
def Shared.report? (s : Shared) (path : ByteArray) : Option StationReport :=
  match s.files.readText path with
  | .error f => some (.unread path f.message)
  | .ok source =>
    match Chunk.evaluated (octets ("@" ++ Text.Utf8.lossy path)) (octets source) with
    | .error fault => some (.refused fault)
    | .ok _ => none

namespace Engine

variable {e e' e₁ : Engine} {st : Station} {r : StationReport}

/-- What the call of a task reports. The value of the start routine does not matter. -/
def reportOn (e : Engine) (st : Station) (result : Except Value (List Value)) :
    StationReport × Engine :=
  let (o, e) := e.outcome result (st ≠ .run)
  (.outcome st e.machine.heap o, e)

/-- What is reported at the next turn. -/
def report? (e : Engine) : Option StationReport :=
  let e := { e with machine := e.machine.advance quantum }
  match e.task.station?, e.machine.mode with
  | some st, .ended result => some (e.reportOn st result).1
  | _, _ => none

/-- **How an engine goes on** after a report: it fails, or the next call is made with what has
been found. -/
inductive Settles (e : Engine) : StationReport → Option Completion × Engine → Prop
  | failed {r : StationReport} {err : SessionError} {e' : Engine} (h : r.failure? = some err)
      (hid : e'.id = e.id) : Settles e r (some (.failed err), e')
  | panicked {r : StationReport} {p : Payload}
      (h : r.failure? = some (.panicked (Payload.shown p))) :
      Settles e r (some (.panicked p), { e with task := .idle })
  | module (id : Nat) :
      Settles e (.outcome .module e.machine.heap (.value (.table id)))
        (some (.module id), { e with task := .idle })
  | constructor (f : Nat) :
      Settles e (.outcome .constructor e.machine.heap (.value (.func f)))
        (none, e.call (.func f) [] .construct)
  | construction (id : Nat) :
      Settles e (.outcome .construction e.machine.heap (.value (.table id)))
        (none, (e.retain (.table id)).lookUp id startRoutine (.findStart id))
  | startRoutine (id f : Nat) (htask : e.task = .findStart id) :
      Settles e (.outcome .startRoutine e.machine.heap (.value (.func f)))
        (none, e.lookUp id endRoutine (.findEnd id (.func f)))
  | endRoutine {o : Outcome} (robot : Robot) (htask : e.task = .findEnd robot.instance_ robot.start)
      (h : (StationReport.outcome .endRoutine e.machine.heap o).failure? = none) :
      Settles e (.outcome .endRoutine e.machine.heap o)
        (some (.robot robot), { e.retainEnd robot.finish with task := .idle })
  | run {r : StationReport} (hstation : r.station = .run) (h : r.failure? = none) :
      Settles e r (some .ended, { e with task := .idle })

/-- **An engine goes on** as its report says. -/
theorem settles (hstation : e.task.station? = some st) (result : Except Value (List Value)) :
    Settles (e.reportOn st result).2 (e.reportOn st result).1 (e.settle result) := by
  obtain ⟨id, machine, task, openedAt⟩ := e
  -- the report and the task look at the same outcome of the call
  unfold reportOn
  have hmachine := outcome_machine ⟨id, machine, task, openedAt⟩ result (st ≠ .run)
  rcases houtcome : outcome ⟨id, machine, task, openedAt⟩ result (st ≠ .run) with ⟨o, e₁⟩
  rw [houtcome] at hmachine
  obtain ⟨α, w, rfl⟩ : ∃ (α : Type) (w : Work α),
    e₁ = ⟨id, (machine.work w).2, task, openedAt⟩ := hmachine
  unfold settle
  cases task with
  | idle => cases hstation
  | version => cases hstation
  | finalize rest => cases hstation
  | load =>
    obtain rfl := Option.some.inj hstation
    change outcome _ result true = _ at houtcome
    dsimp only
    rw [houtcome]
    cases o with
    | panic p => exact .panicked rfl
    | error message => exact .failed rfl rfl
    | value v =>
      cases v with
      | table id => exact .module id
      | _ => exact .failed rfl rfl
  | findConstructor =>
    obtain rfl := Option.some.inj hstation
    change outcome _ result true = _ at houtcome
    dsimp only
    rw [houtcome]
    cases o with
    | panic p => exact .panicked rfl
    | error message => exact .failed rfl rfl
    | value v =>
      cases v with
      | func f => exact .constructor f
      | _ => exact .failed rfl rfl
  | construct =>
    obtain rfl := Option.some.inj hstation
    change outcome _ result true = _ at houtcome
    dsimp only
    rw [houtcome]
    cases o with
    | panic p => exact .panicked rfl
    | error message => exact .failed rfl rfl
    | value v =>
      cases v with
      | table id => exact .construction id
      | _ => exact .failed rfl rfl
  | findStart id =>
    obtain rfl := Option.some.inj hstation
    change outcome _ result true = _ at houtcome
    dsimp only
    rw [houtcome]
    cases o with
    | panic p => exact .panicked rfl
    | error message => exact .failed rfl rfl
    | value v =>
      cases v with
      | func f => exact .startRoutine id f rfl
      | _ => exact .failed rfl rfl
  | findEnd id start =>
    obtain rfl := Option.some.inj hstation
    change outcome _ result true = _ at houtcome
    dsimp only
    rw [houtcome]
    cases o with
    | panic p => exact .panicked rfl
    -- an end routine that is not found is no failure
    | error message => exact .endRoutine ⟨id, start, none⟩ rfl rfl
    | value v => exact .endRoutine ⟨id, start, _⟩ rfl (StationReport.failure?_endRoutine _ v)
  | start =>
    obtain rfl := Option.some.inj hstation
    change outcome _ result false = _ at houtcome
    dsimp only
    rw [houtcome]
    cases o with
    | panic p => exact .panicked rfl
    | error message => exact .failed rfl rfl
    | value v => exact .run rfl (StationReport.failure?_run _ v)

/-- A report is on its station. -/
theorem station_reportOn (e : Engine) (st : Station) (result : Except Value (List Value)) :
    (e.reportOn st result).1.station = st := rfl

/-- An engine keeps its number while it reports. -/
theorem id_reportOn (e : Engine) (st : Station) (result : Except Value (List Value)) :
    (e.reportOn st result).2.id = e.id := by
  obtain ⟨α, w, hw⟩ := e.outcome_machine result (st ≠ .run)
  change (e.outcome result (st ≠ .run)).2.id = e.id
  rw [hw]

/-- Only the store is looked at, and what is taken over of it. -/
theorem reportOn_frame (e : Engine) (st : Station) (result : Except Value (List Value)) :
    (e.reportOn st result).2.task = e.task
      ∧ (e.reportOn st result).2.machine.mode = e.machine.mode := by
  obtain ⟨α, w, hw⟩ := e.outcome_machine result (st ≠ .run)
  change (e.outcome result (st ≠ .run)).2.task = e.task
    ∧ (e.outcome result (st ≠ .run)).2.machine.mode = e.machine.mode
  rw [hw]
  exact ⟨rfl, rfl⟩

/-- A call of a task that has ended is reported. -/
theorem report?_of_ended {result : Except Value (List Value)} (hstation : e.task.station? = some st)
    (hmode : (e.machine.advance quantum).mode = .ended result) :
    e.report? = some (reportOn { e with machine := e.machine.advance quantum } st result).1 := by
  unfold report?
  dsimp only
  rw [hstation, hmode]

/-- A station does not report before its call has ended. -/
theorem report?_eq_none (hended : ∀ result, (e.machine.advance quantum).mode ≠ .ended result) :
    e.report? = none := by
  unfold report?
  dsimp only
  split
  · exact absurd ‹_› (hended _)
  · rfl

/-- A file that is a program reports nothing before it has been evaluated. -/
theorem report?_of_loadFile {s : Shared} {path : ByteArray} (h : e.loadFile s path = .ok e') :
    s.report? path = none ∧ e'.task.station? = some .module ∧ e'.task = .load := by
  unfold loadFile at h
  unfold Shared.report?
  -- the file is read and evaluated in the same order by both
  rcases hsource : s.files.readText path with f | source
  · rw [hsource] at h
    cases h
  · rw [hsource] at h
    change e.load path source = .ok e' at h
    unfold load at h
    dsimp only at h ⊢
    rcases hchunk : Chunk.evaluated (octets ("@" ++ Text.Utf8.lossy path)) (octets source)
      with fault | chunk
    · rw [hchunk] at h
      cases fault with
      | source message => cases h
      | tooDeep => cases h
    · rw [hchunk] at h
      obtain rfl := Except.ok.inj h
      exact ⟨rfl, rfl, rfl⟩

/-- A file that is not one reports why. -/
theorem report?_of_not_loadFile {s : Shared} {path : ByteArray} {err : SessionError}
    (h : e.loadFile s path = .error err) :
    ∃ r, s.report? path = some r ∧ r.station = .module ∧ r.failure? = some err := by
  unfold loadFile at h
  unfold Shared.report?
  -- the file cannot be read, or what it says is no program
  rcases hsource : s.files.readText path with f | source
  · rw [hsource] at h
    obtain rfl := Except.error.inj h
    exact ⟨_, rfl, rfl, rfl⟩
  · rw [hsource] at h
    change e.load path source = .error err at h
    unfold load at h
    dsimp only at h ⊢
    rcases hchunk : Chunk.evaluated (octets ("@" ++ Text.Utf8.lossy path)) (octets source)
      with fault | chunk
    · rw [hchunk] at h
      cases fault with
      | source message =>
        obtain rfl := Except.error.inj h
        exact ⟨_, rfl, rfl, rfl⟩
      | tooDeep =>
        obtain rfl := Except.error.inj h
        exact ⟨_, rfl, rfl, rfl⟩
    · rw [hchunk] at h
      cases h

end Engine
end RobotSession
