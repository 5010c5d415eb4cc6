import RobotSession.Proofs.Bridge.Stations
import RobotSession.Proofs.Engine.Outcome
import RobotSession.Proofs.Engine.Turn
import RobotSession.Proofs.Lua.Dialogue

/-!
# What is done at a station

A station has one job: a program is evaluated, a field of a table is looked up, or a function is
called. Which job it is depends on what the stations before have reported, and on nothing else
(`Job.next`). It begins on the store that the last report has left. If there is something to run,
it is run on the main thread with nothing below it (`Job.Begins`); from there on the script has its
way, and is answered what it asks. Once the call has ended, the host makes of its result what the
station reports.

So a report is tied to one call of the script, with its arguments, or to one place in the store.
How an engine keeps account of its tasks does not matter.

* `Job.next` — what is done next.
* `Job.IsUnderway`, `Job.ComesTo` — how a job goes on, and what comes of it.
* `Follows` — a report is what has come of the next job.
* `Engine.follows_of_report` — so it is with the reports of an engine.
-/

namespace RobotSession

open Lua Lua.Library
open Text (octets)

/-- **What is done** at a station. -/
inductive Job
  /-- A program is read from a file, and evaluated. -/
  | evaluate (path : ByteArray)
  /-- A field of a table is looked up. -/
  | lookUp (table : Nat) (name : String)
  /-- A function is called. -/
  | call (f : Value) (args : List Value)

namespace Job

/-- **What is done next**, by what has been reported so far. The program gives a module, in which
the constructor is found. The constructor is called without arguments and gives the robot, in which
both routines are looked up. The start routine is called with the robot. -/
def next (path : ByteArray) : List StationReport → Option Job
  | [] => some (.evaluate path)
  | [.outcome .module _ (.value (.table module))] => some (.lookUp module "new")
  | [_, .outcome .constructor _ (.value new)] => some (.call new [])
  | [_, _, .outcome .construction _ (.value (.table robot))] =>
    some (.lookUp robot "startCompetition")
  | [_, _, .outcome .construction _ (.value (.table robot)), _] =>
    some (.lookUp robot "endCompetition")
  | [_, _, .outcome .construction _ (.value (.table robot)),
      .outcome .startRoutine _ (.value start), _] => some (.call start [.table robot])
  | _ => none

end Job

/-- **The store as the last report has left it.** The first job finds the store of the library,
with a collector that may be going to do anything. -/
def IsLeft (reports : List StationReport) (h : Heap) : Prop :=
  match reports.getLast? with
  | some (.outcome _ h' _) => h = h'
  | _ => ∃ collections, h = { (Machine.openStore {}).2 with collections }

/-- **A value is called by the host**: nothing has been run of the call. -/
structure Lua.Machine.Called (h : Heap) (f : Value) (args : List Value) (m : Machine) : Prop where
  heap : m.heap = h
  mode : m.mode = .call f args .unknown false
  current : m.current = 0
  frames : m.frames = [.cont .entry 0]

namespace Job

variable {files : Files} {h h₀ : Heap} {m : Machine} {e e' : Engine} {path : ByteArray}

/-- **An interpreter begins with a job**, on a store. A field that is there need not be called
for, and an object without fields counts as an error. -/
inductive Begins (files : Files) (h : Heap) : Job → Machine → Prop
  | evaluate {path : ByteArray} {source : String} {chunk : Chunk} {m : Machine}
      (hread : files.readText path = .ok source)
      (hchunk : Chunk.evaluated (octets ("@" ++ Text.Utf8.lossy path)) (octets source) = .ok chunk)
      (hcalled : m.Called (chunk.enter (.table h.globals) h).2 (chunk.enter (.table h.globals) h).1 []) :
      Begins files h (.evaluate path) m
  | finds {table : Nat} {name : String} {v : Value} {m : Machine}
      (hread : Access.read h (.table table) (.text name) = .value v) (hheap : m.heap = h)
      (hmode : m.mode = .ended (.ok [v])) : Begins files h (.lookUp table name) m
  | asks {table : Nat} {name : String} {f object : Value} {m : Machine}
      (hread : Access.read h (.table table) (.text name) = .handler f object)
      (hcalled : m.Called h f [object, .text name]) : Begins files h (.lookUp table name) m
  | refuses {table : Nat} {name : String} {error : Value} {m : Machine}
      (hvalue : ∀ v, Access.read h (.table table) (.text name) ≠ .value v)
      (hhandler : ∀ f object, Access.read h (.table table) (.text name) ≠ .handler f object)
      (hheap : m.heap = h) (hmode : m.mode = .ended (.error error)) :
      Begins files h (.lookUp table name) m
  | call {f : Value} {args : List Value} {m : Machine} (hcalled : m.Called h f args) :
      Begins files h (.call f args) m

/-- **A job is under way**: the interpreter has begun with it, and has taken steps and been answered
since. -/
def IsUnderway (files : Files) (h : Heap) (job : Job) (m : Machine) : Prop :=
  ∃ m₀ happened, job.Begins files h m₀ ∧ Run Machine.Goes m₀ happened m

/-- **What a job comes to** at a station, with the store after that. The value of the start routine
does not matter. -/
def ComesTo (files : Files) (h : Heap) (job : Job) (st : Station) (o : Engine.Outcome) (h' : Heap) :
    Prop :=
  ∃ m result, job.IsUnderway files h m ∧ m.mode = .ended result
    ∧ Engine.Makes m.heap (st ≠ .run) result o h'

/-! ### How jobs begin -/

theorem begins_call (files : Files) (e : Engine) (f : Value) (args : List Value) (task : Task) :
    (Job.call f args).Begins files e.machine.heap (e.call f args task).machine :=
  .call ⟨rfl, rfl, rfl, rfl⟩

theorem begins_lookUp (e : Engine) (table : Nat) (name : String) (task : Task) :
    (Job.lookUp table name).Begins files e.machine.heap (e.lookUp table name task).machine := by
  unfold Engine.lookUp
  dsimp only
  split
  · exact .finds ‹_› rfl rfl
  · exact .asks ‹_› ⟨rfl, rfl, rfl, rfl⟩
  · rename_i hvalue hhandler
    exact .refuses hvalue hhandler rfl rfl

theorem begins_loadFile {s : Shared} (hload : e.loadFile s path = .ok e') :
    (Job.evaluate path).Begins s.files e.machine.heap e'.machine := by
  unfold Engine.loadFile at hload
  -- a file that cannot be read, or is no program, is not loaded
  split at hload
  · cases hload
  · rename_i source hread
    unfold Engine.load at hload
    dsimp only at hload
    split at hload
    · cases hload
    · cases hload
    · rename_i chunk hchunk
      obtain rfl := Except.ok.inj hload
      exact .evaluate hread hchunk ⟨rfl, rfl, rfl, rfl⟩

/-! ### While a job is under way -/

theorem IsUnderway.of_begins {job : Job} (h : job.Begins files h₀ m) : job.IsUnderway files h₀ m :=
  ⟨m, [], h, .refl⟩

theorem IsUnderway.run {job : Job} {m' : Machine} {happened : List Machine.Event}
    (h : job.IsUnderway files h₀ m) (hrun : Run Machine.Goes m happened m') :
    job.IsUnderway files h₀ m' := by
  obtain ⟨m₀, before, hbegins, hbefore⟩ := h
  exact ⟨m₀, before ++ happened, hbegins, hbefore.trans hrun⟩

/-- Whatever an interpreter is answered, its job is still under way. -/
theorem IsUnderway.answer {job : Job} (h : job.IsUnderway files h₀ m) (a : Answer) :
    job.IsUnderway files h₀ (m.answer a) := by
  cases hmode : m.mode with
  | ask w => exact h.run (.single (.answer hmode rfl a))
  | _ =>
    -- an answer that nobody waits for is not heard
    obtain ⟨heap, threads, current, frames, depth, mode, interval, owner, ticket, robot⟩ := m
    obtain rfl : mode = _ := hmode
    exact h

theorem IsUnderway.advance {job : Job} (h : job.IsUnderway files h₀ m) (fuel : Nat) :
    job.IsUnderway files h₀ (m.advance fuel) := by
  obtain ⟨happened, hrun⟩ := m.run_advance fuel
  exact h.run hrun

/-- **A turn of the engine** that does not end the call leaves the job under way. -/
theorem IsUnderway.turn {job : Job} {s s' : Shared} {t : Turn} {signals : List Signal}
    (h : job.IsUnderway files h₀ e.machine) (hturn : e.turn s = (t, e', s', signals))
    (hended : ∀ result, (e.machine.advance Engine.quantum).mode ≠ .ended result) :
    job.IsUnderway files h₀ e'.machine := by
  obtain ⟨id, machine, task, openedAt⟩ := e
  have hadvanced := h.advance Engine.quantum
  unfold Engine.turn at hturn
  dsimp only at hturn hadvanced hended
  split at hturn
  · -- the engine is given an answer at most
    by_cases htake : ‹Waiting›.question = .take
    · rw [htake] at hturn
      cases hturn
      exact hadvanced.answer _
    · obtain ⟨rfl | ⟨a, rfl, -⟩, -⟩ := Engine.serve_cases htake hturn
      · exact hadvanced
      · exact hadvanced.answer a
  · exact absurd ‹_› (hended _)
  · cases hturn
    exact hadvanced

end Job

/-! ### Reports -/

/-- **A report follows** from those before it: it is what has come of the next job, or the file is
no program at all. -/
inductive Follows (files : Files) (path : ByteArray) (before : List StationReport) :
    StationReport → Prop
  | unread {f : FileFault} (hfirst : before = []) (hread : files.readText path = .error f) :
      Follows files path before (.unread path f.message)
  | refused {source : String} {fault : LoadFault} (hfirst : before = [])
      (hread : files.readText path = .ok source)
      (hchunk : Chunk.evaluated (octets ("@" ++ Text.Utf8.lossy path)) (octets source)
        = .error fault) : Follows files path before (.refused fault)
  | outcome {job : Job} {st : Station} {o : Engine.Outcome} {h₀ h : Heap}
      (hnext : Job.next path before = some job) (hleft : IsLeft before h₀)
      (hcomes : job.ComesTo files h₀ st o h) :
      Follows files path before (.outcome st h o)

/-- **An interpreter is at rest** on a store: it has ended a call, and begins with nothing. -/
structure Lua.Machine.Rests (h : Heap) (m : Machine) : Prop where
  heap : m.heap = h
  ended : ∃ result, m.mode = .ended result

/-- An interpreter at rest hears no answer. -/
theorem Lua.Machine.Rests.answer {h : Heap} {m : Machine} (hrests : m.Rests h) (a : Answer) :
    (m.answer a).Rests h := by
  obtain ⟨hheap, result, hmode⟩ := hrests
  obtain ⟨heap, threads, current, frames, depth, mode, interval, owner, ticket, robot⟩ := m
  obtain rfl : mode = _ := hmode
  exact ⟨hheap, result, rfl⟩

/-- The store on which an engine is opened. -/
theorem Engine.rests_opened (id interval now : Nat) (collections : List Collection) :
    ∃ h, IsLeft [] h ∧ (Engine.opened id interval now collections).machine.Rests h := by
  unfold IsLeft Engine.opened Machine.collecting Machine.opened
  -- what is in the store does not matter, and is not looked at
  generalize (Machine.openStore {}).2 = h
  exact ⟨_, ⟨collections, rfl⟩, rfl, .ok [], rfl⟩

@[simp]
theorem isLeft_append {before : List StationReport} {st : Station} {h h' : Heap}
    {o : Engine.Outcome} : IsLeft (before ++ [.outcome st h' o]) h ↔ h = h' := by
  unfold IsLeft
  rw [List.getLast?_concat]

/-- What a task remembers of the robot is what has been reported of it. -/
def Task.Recalls (reports : List StationReport) : Task → Prop
  | .findStart robot => ∃ r₁ r₂ h, reports = [r₁, r₂, .outcome .construction h (.value (.table robot))]
  | .findEnd robot routine => ∃ r₁ r₂ h₁ h₂,
    reports = [r₁, r₂, .outcome .construction h₁ (.value (.table robot)),
      .outcome .startRoutine h₂ (.value routine)]
  | _ => True

/-- A file that is no program says so at once. -/
theorem follows_of_file {s : Shared} {path : ByteArray} {r : StationReport}
    (h : s.report? path = some r) : Follows s.files path [] r := by
  unfold Shared.report? at h
  split at h
  · obtain rfl := Option.some.inj h
    exact .unread rfl ‹_›
  · -- a file is refused before it is read, or else when it is compiled; one that compiles is a job
    split at h
    · obtain rfl := Option.some.inj h
      exact .refused rfl ‹_› ‹_›
    · cases h

namespace Engine

variable {files : Files} {path : ByteArray} {before : List StationReport} {h : Heap} {e : Engine}
  {job : Job} {r : StationReport} {st : Station}

/-- **The reports of an engine** follow from each other. -/
theorem follows_of_report (hnext : Job.next path before = some job) (hleft : IsLeft before h)
    (hunderway : job.IsUnderway files h e.machine)
    (hreport : e.report? = some r) : Follows files path before r := by
  unfold report? at hreport
  dsimp only at hreport
  split at hreport
  · rename_i st result hstation hmode
    obtain rfl := Option.some.inj hreport
    -- the quantum's steps belong to the job, so the machine is judged at their end
    refine .outcome hnext hleft ⟨_, result, hunderway.advance quantum, hmode, ?_⟩
    exact makes_outcome { e with machine := e.machine.advance quantum } result _
  · cases hreport

end Engine

/-! ### What follows the reports -/

namespace Job

variable {before : List StationReport} {path : ByteArray} {h : Heap}

/-- The constructor is looked up in the module. -/
theorem next_of_module (hunderway : Underway before .module) (module : Nat) :
    next path (before ++ [.outcome .module h (.value (.table module))])
      = some (.lookUp module "new") := by
  obtain rfl := List.map_eq_nil_iff.mp hunderway.stations
  rfl

/-- The constructor that has been found is called. -/
theorem next_of_constructor (hunderway : Underway before .constructor) (new : Value) :
    next path (before ++ [.outcome .constructor h (.value new)]) = some (.call new []) := by
  obtain ⟨r, rest, rfl, -, hrest⟩ := List.map_eq_cons_iff.mp hunderway.stations
  obtain rfl := List.map_eq_nil_iff.mp hrest
  simp only [next, List.cons_append, List.nil_append]

/-- The start routine is looked up in the robot. -/
theorem next_of_construction (hunderway : Underway before .construction) (robot : Nat) :
    next path (before ++ [.outcome .construction h (.value (.table robot))])
        = some (.lookUp robot Engine.startRoutine)
      ∧ (Task.findStart robot).Recalls
        (before ++ [.outcome .construction h (.value (.table robot))]) := by
  -- two stations are behind: the module and the lookup of its constructor
  obtain ⟨r₁, rest, rfl, -, hrest⟩ := List.map_eq_cons_iff.mp hunderway.stations
  obtain ⟨r₂, rest, rfl, -, hrest⟩ := List.map_eq_cons_iff.mp hrest
  obtain rfl := List.map_eq_nil_iff.mp hrest
  refine ⟨?_, r₁, r₂, h, rfl⟩
  simp only [next, Engine.startRoutine, List.cons_append, List.nil_append]

/-- Then the end routine is. -/
theorem next_of_startRoutine {robot : Nat} (hrecalls : (Task.findStart robot).Recalls before)
    (start : Value) :
    next path (before ++ [.outcome .startRoutine h (.value start)])
        = some (.lookUp robot Engine.endRoutine)
      ∧ (Task.findEnd robot start).Recalls (before ++ [.outcome .startRoutine h (.value start)]) := by
  obtain ⟨r₁, r₂, h₁, rfl⟩ := hrecalls
  refine ⟨?_, r₁, r₂, h₁, h, rfl⟩
  simp only [next, Engine.endRoutine, List.cons_append, List.nil_append]

/-- The start routine is called with the robot, whatever has been found for the end. -/
theorem next_of_endRoutine {robot : Nat} {start : Value}
    (hrecalls : (Task.findEnd robot start).Recalls before) (o : Engine.Outcome) :
    next path (before ++ [.outcome .endRoutine h o]) = some (.call start [.table robot]) := by
  obtain ⟨r₁, r₂, h₁, h₂, rfl⟩ := hrecalls
  simp only [next, List.cons_append, List.nil_append]

end Job
end RobotSession
