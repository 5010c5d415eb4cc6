import RobotSession.Proofs.Bridge.Accounts
import RobotSession.Proofs.Bridge.Jobs

/-!
# How a session goes through its stations

A worker takes a program from station to station. It is followed from stage to stage
(`Worker.Session`): what has been reported so far says which station is under way and which job is
done there, whether the robot is ready, and what the host has been told. A step of the engine is
looked at once (`Worker.drives`): either the station goes on, or it reports, and the report decides
where the worker goes and which job is next.

* `reports` — what the stations have reported so far.
* `sources` — the files from which the program has been read.
* `Worker.Session` — a session between two steps of its worker.
* `Worker.Session.run` — it is kept by every run.
-/

namespace RobotSession

open Lua

namespace Worker

/-- What is reported by the next step. -/
def report? (w : Worker) (s : Shared) : Option StationReport :=
  match w.stage, w.engine with
  | .load, some _ => s.report? w.path
  | .drive, some e => e.report?
  | _, _ => none

/-- The files from which the next step reads the program. -/
def reads? (w : Worker) (s : Shared) : Option Files :=
  match w.stage, w.engine with
  | .load, some _ => some s.files
  | _, _ => none

/-- At these stages, code of the script may be run for the robot, or will be. -/
def Stage.isUnderway : Stage → Bool
  | .load | .drive | .markRunning _ | .enter _ => true
  | _ => false

/-- The robot is ready, and is about to be marked as running. -/
def Stage.isMarking : Stage → Bool
  | .markRunning _ => true
  | _ => false

/-- The host has been told of a failure by now. -/
def Stage.hasTold : Stage → Bool
  | .finish _ | .requestExit _ | .done _ => true
  | _ => false

end Worker

/-- What the stations have reported, in order. -/
def reports (happened : List WorkerDeed) : List StationReport :=
  happened.filterMap fun
    | .step w s => w.report? s
    | _ => none

theorem reports_append (happened : List WorkerDeed) (l : WorkerDeed) :
    reports (happened ++ [l]) = reports happened ++ reports [l] :=
  List.filterMap_append

@[simp]
theorem reports_step (w : Worker) (s : Shared) :
    reports [.step w s] = (w.report? s).toList := by
  unfold reports
  rw [List.filterMap_cons]
  dsimp only
  cases w.report? s with
  | none => rfl
  | some r => rfl

/-- The files from which a program has been read. -/
def sources (happened : List WorkerDeed) : List Files :=
  happened.filterMap fun
    | .step w s => w.reads? s
    | _ => none

theorem sources_append (happened : List WorkerDeed) (l : WorkerDeed) :
    sources (happened ++ [l]) = sources happened ++ sources [l] :=
  List.filterMap_append

@[simp]
theorem sources_step (w : Worker) (s : Shared) : sources [.step w s] = (w.reads? s).toList := by
  unfold sources
  rw [List.filterMap_cons]
  dsimp only
  cases w.reads? s with
  | none => rfl
  | some files => rfl

namespace Worker

variable {w w' : Worker} {s₀ s s' : Shared} {e : Engine} {st : Station} {rs : List StationReport}
  {path : ByteArray} {srcs : List Files} {ids : List Nat} {t : WorkerTurn} {signals : List Signal}

/-! ### A step of the engine -/

/-- **An engine begins with the job** that is next after these reports. -/
structure Due (path : ByteArray) (rs : List StationReport) (e : Engine) : Prop where
  begins : ∃ job h, Job.next path rs = some job ∧ IsLeft rs h
    ∧ ∀ files, job.Begins files h e.machine
  recalls : e.task.Recalls rs

/-- **What a step of the engine comes to** at a station: the station goes on, or it reports. What is
due after a report follows from those before it, as far as the task remembers them. -/
inductive Drives (w : Worker) (e : Engine) (s : Shared) (st : Station) :
    Option StationReport → Worker → Shared → Prop
  | goesOn {e' : Engine} {s' : Shared} (htask : e'.task = e.task) (hid : e'.id = e.id)
      (ha : s.Alike s')
      (hjob : ∀ {files h} {job : Job}, job.IsUnderway files h e.machine →
        job.IsUnderway files h e'.machine) :
      Drives w e s st none { w with engine := some e' } s'
  | passes {r : StationReport} {e' : Engine} (next : Station) (hr : r.station = st)
      (hpass : r.failure? = none) (hnext : next.before = st.before ++ [st]) (hst : st ≠ .run)
      (hrun : next ≠ .run) (hstation : e'.task.station? = some next) (hid : e'.id = e.id)
      (hdue : ∀ {path rs}, Underway rs st → e.task.Recalls rs → Due path (rs ++ [r]) e') :
      Drives w e s st (some r) { w with engine := some e' } s
  | ready {r : StationReport} {e' : Engine} (robot : Robot) (hr : r.station = st)
      (hpass : r.failure? = none) (hst : st = .endRoutine) (hid : e'.id = e.id)
      (hrests : ∀ {rs}, ∃ h, IsLeft (rs ++ [r]) h ∧ e'.machine.Rests h)
      (hjob : ∀ {path rs}, e.task.Recalls rs →
        Job.next path (rs ++ [r]) = some (.call robot.start [.table robot.instance_])) :
      Drives w e s st (some r) { w with engine := some e', stage := .markRunning robot }
        (s.setInbox e.id (s.inbox e.id).bind)
  | returns {r : StationReport} {e' : Engine} (hr : r.station = st) (hpass : r.failure? = none)
      (hst : st = .run) (hid : e'.id = e.id) :
      Drives w e s st (some r) { w with engine := some e', stage := .closeInbox .returned } s
  | fails {r : StationReport} {err : SessionError} {e' : Engine} (hr : r.station = st)
      (hfails : r.failure? = some err) (hid : e'.id = e.id) :
      Drives w e s st (some r)
        { w with engine := some e', stage := .closeInbox (.failed err) } s

/-- A field is looked up next. -/
theorem Due.lookUp {e : Engine} {r : StationReport} {table : Nat} {name : String} {task : Task}
    (hnext : Job.next path (rs ++ [r]) = some (.lookUp table name))
    (hleft : IsLeft (rs ++ [r]) e.machine.heap) (hrecalls : task.Recalls (rs ++ [r])) :
    Due path (rs ++ [r]) (e.lookUp table name task) := by
  refine ⟨⟨_, _, hnext, hleft, fun files => Job.begins_lookUp e table name task⟩, ?_⟩
  rw [(e.lookUp_frame table name task).2]
  exact hrecalls

/-- **A step of the engine** at a station. -/
theorem drives (hstage : w.stage = .drive) (hengine : w.engine = some e)
    (hstation : e.task.station? = some st) (h : w.step s = (t, w', s', signals)) :
    Drives w e s st (w.report? s) w' s' := by
  obtain ⟨path, interval, engine, stage⟩ := w
  change stage = .drive at hstage
  change engine = some e at hengine
  subst hstage hengine
  change Drives _ e s st e.report? w' s'
  rcases hturn : e.turn s with ⟨t₀, e₀, s₁, signals₀⟩
  change drive ⟨path, interval, some e, .drive⟩ s = _ at h
  unfold drive at h
  dsimp only at h
  rw [hturn] at h
  dsimp only at h
  rcases Engine.turn_cases hturn with ⟨result, hmode, hsettle, rfl, rfl⟩
    | ⟨hended, ht, htask, hid, ha, -⟩
  · rw [Engine.report?_of_ended hstation hmode]
    have hsettles := Engine.settles (e := { e with machine := e.machine.advance Engine.quantum })
      hstation result
    have hid := Engine.id_reportOn { e with machine := e.machine.advance Engine.quantum } st result
    have hr := Engine.station_reportOn { e with machine := e.machine.advance Engine.quantum } st
      result
    obtain ⟨htask, hmode'⟩ := Engine.reportOn_frame
      { e with machine := e.machine.advance Engine.quantum } st result
    -- how the outcome was found out does not matter from here on
    generalize Engine.reportOn { e with machine := e.machine.advance Engine.quantum } st result
      = out at hsettles hid hr htask hmode' ⊢
    obtain ⟨r, e₁⟩ := out
    change e₁.task = e.task at htask
    change e₁.machine.mode = _ at hmode'
    change Engine.Settles e₁ r _ at hsettles
    rcases hsettle with ⟨c, rfl, hsettle⟩ | ⟨rfl, hsettle⟩
    · rw [hsettle] at hsettles
      cases hsettles with
      | failed hfails hid' =>
        cases h
        exact .fails hr hfails (hid'.trans hid)
      | panicked hfails =>
        cases h
        exact .fails hr hfails hid
      | module table =>
        cases h
        obtain rfl : Station.module = st := hr
        obtain ⟨hlookId, hlookTask⟩ := Engine.lookUp_frame { e₁ with task := .idle } table "new"
          .findConstructor
        exact .passes .constructor rfl rfl rfl nofun nofun (congrArg Task.station? hlookTask)
          (hlookId.trans hid) fun hunderway _ =>
            Due.lookUp (Job.next_of_module hunderway table) (isLeft_append.mpr rfl) trivial
      | @endRoutine o robot hend hpass =>
        cases h
        obtain rfl : Station.endRoutine = st := hr
        have htask := htask.symm.trans hend
        -- the robot is bound under the number that the engine has now, which is the old one
        have hbind : ∀ {id : Nat}, id = e.id →
            Drives ⟨path, interval, some e, .drive⟩ e s₁ .endRoutine
              (some (.outcome .endRoutine e₁.machine.heap o))
              ⟨path, interval, some { e₁.retainEnd robot.finish with task := .idle },
                .markRunning robot⟩ (s₁.setInbox id (s₁.inbox id).bind) := by
          rintro id rfl
          exact .ready robot rfl hpass rfl hid
            ⟨_, isLeft_append.mpr rfl, rfl, result, hmode'.trans hmode⟩
            fun hrecalls => Job.next_of_endRoutine (htask ▸ hrecalls) o
        exact hbind hid
      | run hst hpass =>
        cases h
        exact .returns hr hpass (hr.symm.trans hst) hid
    · rw [hsettle] at hsettles
      cases h
      cases hsettles with
      | constructor f =>
        obtain rfl : Station.constructor = st := hr
        exact .passes .construction rfl rfl rfl nofun nofun rfl hid fun hunderway _ =>
          ⟨⟨_, _, Job.next_of_constructor hunderway (.func f), isLeft_append.mpr rfl,
            fun files => Job.begins_call files e₁ (.func f) [] .construct⟩, trivial⟩
      | construction id =>
        obtain rfl : Station.construction = st := hr
        obtain ⟨hlookId, hlookTask⟩ := Engine.lookUp_frame (e₁.retain (.table id)) id
          Engine.startRoutine (.findStart id)
        refine .passes .startRoutine rfl rfl rfl nofun nofun (congrArg Task.station? hlookTask)
          (hlookId.trans hid) fun hunderway _ => ?_
        obtain ⟨hnext, hrecalls⟩ := Job.next_of_construction hunderway id
        exact Due.lookUp hnext (isLeft_append.mpr rfl) hrecalls
      | startRoutine id f hfind =>
        obtain rfl : Station.startRoutine = st := hr
        obtain ⟨hlookId, hlookTask⟩ := Engine.lookUp_frame e₁ id Engine.endRoutine
          (.findEnd id (.func f))
        have htask := htask.symm.trans hfind
        refine .passes .endRoutine rfl rfl rfl nofun nofun (congrArg Task.station? hlookTask)
          (hlookId.trans hid) fun _ hrecalls => ?_
        obtain ⟨hnext, hrecalls'⟩ := Job.next_of_startRoutine (htask ▸ hrecalls) (.func f)
        exact Due.lookUp hnext (isLeft_append.mpr rfl) hrecalls'
  · rw [Engine.report?_eq_none hended]
    cases t₀ with
    | completed c => exact absurd rfl (ht c)
    | _ =>
      cases h
      exact .goesOn htask hid ha fun hunderway => hunderway.turn hturn hended

/-! ### The stages of a session -/

/-- How far the program has come at a stage of the worker. -/
def Comes (w : Worker) (rs : List StationReport) : Prop :=
  match w.stage with
  | .start | .publish | .load => Underway rs .module
  | .drive => ∃ st, (∃ e, w.engine = some e ∧ e.task.station? = some st) ∧ Underway rs st
  | .markRunning _ | .enter _ => Underway rs .run
  | .sendError e => Ended rs (.failed e)
  | .closeInbox result | .closeEngine result | .recordClose result | .report result
  | .finish result | .requestExit result | .done result => Ended rs result

/-- **Which job is under way** at a stage of the worker, and from which files the program has been
read. -/
def Does (path : ByteArray) (w : Worker) (srcs : List Files) (rs : List StationReport) : Prop :=
  match w.stage with
  | .start => w.path = path ∧ srcs = []
  | .publish | .load =>
    w.path = path ∧ srcs = []
      ∧ ∃ e, w.engine = some e ∧ ∃ h, IsLeft [] h ∧ e.machine.Rests h
  | .drive => ∃ files e job h, srcs = [files] ∧ w.engine = some e ∧ e.task.Recalls rs
    ∧ Job.next path rs = some job ∧ IsLeft rs h ∧ job.IsUnderway files h e.machine
  | .markRunning r | .enter r => ∃ files e, srcs = [files] ∧ w.engine = some e
    ∧ (∃ h, IsLeft rs h ∧ e.machine.Rests h)
    ∧ Job.next path rs = some (.call r.start [.table r.instance_])
  | _ => True

/-- Which engine the worker has, and which handles are published, at a stage of the worker. -/
def Handles (w : Worker) (s : Shared) (ids : List Nat) : Prop :=
  match w.stage.part with
  | .before => ids = []
  | .opened =>
    ids = [] ∧ ∃ e, w.engine = some e ∧ e.id < s.inboxes.size ∧ (s.inbox e.id).isBound = false
  | .working => ∃ e, w.engine = some e ∧ e.id < s.inboxes.size ∧ ids = [e.id]
  | .closing | .after | .finished => True

/-- **Every report follows** from those before it. -/
def Traced (path : ByteArray) (srcs : List Files) (rs : List StationReport) : Prop :=
  ∀ before r, before ++ [r] <+: rs → ∃ files, srcs = [files] ∧ Follows files path before r

/-- **A session** between two steps of its worker. -/
structure Session (path : ByteArray) (s₀ : Shared) (w : Worker) (s : Shared) (srcs : List Files)
    (rs : List StationReport) (ids : List Nat) : Prop where
  fault : s.engineFault = none
  panics : s.panicsOnReport = false
  comes : w.Comes rs
  does : Does path w srcs rs
  traced : Traced path srcs rs
  handles : w.Handles s ids
  bound : ∀ id ∈ ids, ((s.inbox id).isBound = true ↔ Ready rs)
  started : w.stage.isMarking = false →
    (s.slot.robotStarted = true ↔ s₀.slot.robotStarted = true ∨ Ready rs)
  told : s.host.diagnostics = s₀.host.diagnostics
    ++ if w.stage.hasTold then ((verdict rs).map SessionError.diagnostic).toList else []

theorem Traced.nil : Traced path srcs [] :=
  fun _ _ hprefix => absurd (List.prefix_nil.mp hprefix)
    (List.append_ne_nil_of_right_ne_nil _ (List.cons_ne_nil _ _))

theorem Traced.append {files : Files} {r : StationReport} (h : Traced path [files] rs)
    (hr : Follows files path rs r) : Traced path [files] (rs ++ [r]) := by
  intro before r' hprefix
  rcases List.prefix_concat_iff.mp hprefix with heq | hprefix
  · obtain ⟨rfl, hlast⟩ := List.append_inj' heq rfl
    obtain rfl := List.head_eq_of_cons_eq hlast
    exact ⟨files, rfl, hr⟩
  · exact h before r' hprefix

theorem Handles.alike (h : w.Handles s ids) (ha : s.Alike s') : w.Handles s' ids := by
  unfold Handles at h ⊢
  -- other threads may add inboxes and queue calls, which no handle speaks of
  cases hpart : w.stage.part with
  | opened =>
    rw [hpart] at h
    obtain ⟨hids, e, hengine, hlt, hbound⟩ := h
    exact ⟨hids, e, hengine, Nat.lt_of_lt_of_le hlt ha.size, (ha.bound _).trans hbound⟩
  | working =>
    rw [hpart] at h
    obtain ⟨e, hengine, hlt, hids⟩ := h
    exact ⟨e, hengine, Nat.lt_of_lt_of_le hlt ha.size, hids⟩
  | _ =>
    rw [hpart] at h
    exact h

theorem Handles.logged (h : w.Handles s ids) (panic : Option Payload) :
    (w.logged panic).Handles s ids := by
  have hstage : (w.logged panic).stage = w.stage := rfl
  unfold Handles at h ⊢
  rw [hstage]
  -- only two parts speak of the engine, of which no more than its number matters
  cases hpart : w.stage.part with
  | opened =>
    rw [hpart] at h
    obtain ⟨hids, e, hengine, hlt, hbound⟩ := h
    exact ⟨hids, e.logged panic, congrArg (Option.map _) hengine, hlt, hbound⟩
  | working =>
    rw [hpart] at h
    obtain ⟨e, hengine, hlt, hids⟩ := h
    exact ⟨e.logged panic, congrArg (Option.map _) hengine, hlt, hids⟩
  | _ =>
    rw [hpart] at h
    exact h

/-- The robot is bound by changing one inbox, which stays bound when it is closed. -/
theorem isBound_closeInbox (s : Shared) (e : Engine) (id : Nat) :
    ((e.closeInbox s).1.inbox id).isBound = (s.inbox id).isBound := by
  change ((s.setInbox e.id (s.inbox e.id).close).inbox id).isBound = _
  rcases Shared.inbox_setInbox_cases s e.id id (s.inbox e.id).close with ⟨hb, rfl⟩ | hsame
  · rw [hb]
    rfl
  · rw [hsame]

namespace Session

/-- A session does not depend on what other threads do. -/
theorem alike (h : Session path s₀ w s srcs rs ids) (ha : s.Alike s') :
    Session path s₀ w s' srcs rs ids := by
  refine ⟨ha.fault.trans h.fault, ha.panics.trans h.panics, h.comes, h.does, h.traced,
    h.handles.alike ha, fun id hid => ?_, ?_, ha.diagnostics.trans h.told⟩
  · rw [ha.bound]
    exact h.bound id hid
  · rw [ha.slot]
    exact h.started

/-- Nor on what the log answers. -/
theorem logged (h : Session path s₀ w s srcs rs ids) (panic : Option Payload) :
    Session path s₀ (w.logged panic) s srcs rs ids := by
  refine ⟨h.fault, h.panics, ?_, ?_, h.traced, h.handles.logged panic, h.bound, h.started, h.told⟩
  · have hcomes := h.comes
    obtain ⟨wpath, interval, engine, stage⟩ := w
    cases stage with
    | drive =>
      obtain ⟨st, ⟨e, rfl, hstation⟩, hunderway⟩ := hcomes
      exact ⟨st, ⟨e.logged panic, rfl, hstation⟩, hunderway⟩
    | _ => exact hcomes
  · have hdoes := h.does
    obtain ⟨wpath, interval, engine, stage⟩ := w
    -- an engine that has a job is answered, any other one does not hear of it
    cases stage with
    | publish | load =>
      obtain ⟨hpath, hsrcs, e, rfl, heap, hleft, hrests⟩ := hdoes
      exact ⟨hpath, hsrcs, e.logged panic, rfl, heap, hleft, hrests.answer _⟩
    | drive =>
      obtain ⟨files, e, job, heap, hsrcs, rfl, hrecalls, hnext, hleft, hjob⟩ := hdoes
      exact ⟨files, e.logged panic, job, heap, hsrcs, rfl, hrecalls, hnext, hleft, hjob.answer _⟩
    | markRunning r | enter r =>
      obtain ⟨files, e, hsrcs, rfl, ⟨heap, hleft, hrests⟩, hnext⟩ := hdoes
      exact ⟨files, e.logged panic, hsrcs, rfl, ⟨heap, hleft, hrests.answer _⟩, hnext⟩
    | _ => exact hdoes

/-- **The step at which the program is read.** -/
theorem load {files : Files} (h : Session path s₀ w s srcs rs ids)
    (hstep : w.step s = (t, w', s', signals)) (hreads : w.reads? s = some files) :
    w.publishes = none
      ∧ Session path s₀ w' s' (srcs ++ [files]) (rs ++ (w.report? s).toList) ids := by
  have hcomes := h.comes
  have hdoes := h.does
  have hhandles := h.handles
  obtain ⟨wpath, interval, engine, stage⟩ := w
  cases stage with
  | load =>
    obtain ⟨rfl, rfl, e, rfl, heap, hleft, hrests⟩ := hdoes
    obtain ⟨e', he', hlt, hids⟩ := hhandles
    obtain rfl : e = e' := Option.some.inj he'
    obtain rfl : s.files = files := Option.some.inj hreads
    obtain rfl : rs = [] := List.map_eq_nil_iff.mp hcomes.stations
    refine ⟨rfl, ?_⟩
    unfold Worker.step at hstep
    dsimp only at hstep
    split at hstep
    · -- the program begins to be evaluated, on the store that was opened
      rename_i e' hload
      cases hstep
      have hid := id_loadFile hload
      have hbegins := Job.begins_loadFile hload
      obtain ⟨hnone, hstation, htask⟩ := Engine.report?_of_loadFile hload
      rw [hrests.heap] at hbegins
      change Session wpath s₀ _ s _ ([] ++ (s.report? wpath).toList) ids
      rw [hnone]
      refine ⟨h.fault, h.panics, ⟨.module, ⟨e', rfl, hstation⟩, hcomes⟩,
        ⟨s.files, e', _, heap, rfl, rfl, ?_, rfl, hleft, .of_begins hbegins⟩, .nil,
        ⟨e', rfl, hid ▸ hlt, hid ▸ hids⟩, h.bound, fun _ => h.started rfl, h.told⟩
      rw [htask]
      trivial
    · -- the file is no program: the first station reports at once, and fails
      rename_i err hload
      cases hstep
      obtain ⟨r, hr, hstation, hfails⟩ := Engine.report?_of_not_loadFile hload
      change Session wpath s₀ _ s _ ([] ++ (s.report? wpath).toList) ids
      rw [hr]
      change Session wpath s₀ _ s [s.files] ([] ++ [r]) ids
      refine ⟨h.fault, h.panics, hcomes.fail hstation hfails, trivial,
        Traced.nil.append (follows_of_file hr), ⟨e, rfl, hlt, hids⟩, ?_, fun _ => ?_, h.told⟩
      · rw [ready_append_iff hfails]
        exact h.bound
      · rw [ready_append_iff hfails]
        exact h.started rfl
  | _ => cases hreads

/-- **A step at which nothing is reported or read**, and no handle is published. -/
theorem quiet (h : Session path s₀ w s srcs rs ids) (hstep : w.step s = (t, w', s', signals))
    (hreport : w.report? s = none) (hreads : w.reads? s = none) (hpublishes : w.publishes = none) :
    Session path s₀ w' s' srcs rs ids := by
  have hcomes := h.comes
  have hdoes := h.does
  have hhandles := h.handles
  obtain ⟨wpath, interval, engine, stage⟩ := w
  cases stage with
  | start =>
    have hnew := h.alike (Shared.Alike.newInbox s)
    unfold Worker.step at hstep
    dsimp only at hstep
    rw [h.fault] at hstep
    cases hstep
    -- the new inbox is empty, and no robot is bound to it
    refine ⟨hnew.fault, hnew.panics, hcomes,
      ⟨hdoes.1, hdoes.2, _, rfl, Engine.rests_opened ..⟩, h.traced,
      ⟨hhandles, _, rfl, ?_, ?_⟩, hnew.bound, fun _ => hnew.started rfl, hnew.told⟩
    · change s.inboxes.size < (s.inboxes.push {}).size
      rw [Array.size_push]
      exact Nat.lt_succ_self _
    · change (s.newInbox.2.inbox s.inboxes.size).isBound = false
      unfold Shared.newInbox Shared.inbox
      rw [Array.getD_eq_getD_getElem?, Array.getElem?_push_size]
      rfl
  | publish =>
    obtain ⟨-, e, rfl, -⟩ := hhandles
    cases hpublishes
  | load =>
    obtain ⟨e, rfl, -⟩ := hhandles
    cases hreads
  | drive =>
    obtain ⟨st, ⟨e, rfl, hstation⟩, hunderway⟩ := hcomes
    obtain ⟨e', he', hlt, hids⟩ := hhandles
    obtain rfl : e = e' := Option.some.inj he'
    obtain ⟨files, e', job, heap, hsrcs, he', hrecalls, hnext, hleft, hjob⟩ := hdoes
    obtain rfl : e = e' := Option.some.inj he'
    have hdrives := drives (w := ⟨wpath, interval, some e, .drive⟩) rfl rfl hstation hstep
    rw [hreport] at hdrives
    cases hdrives with
    | goesOn htask hid ha hgoes =>
      have hs' := h.alike ha
      exact ⟨hs'.fault, hs'.panics, ⟨st, ⟨_, rfl, htask ▸ hstation⟩, hunderway⟩,
        ⟨files, _, job, heap, hsrcs, rfl, htask ▸ hrecalls, hnext, hleft, hgoes hjob⟩, h.traced,
        ⟨_, rfl, hid ▸ Nat.lt_of_lt_of_le hlt ha.size, hid ▸ hids⟩, hs'.bound,
        fun _ => hs'.started rfl, hs'.told⟩
  | markRunning r =>
    obtain ⟨e, rfl, hhandles⟩ := hhandles
    cases hstep
    have hready : Ready rs := hcomes.ready_iff.mpr rfl
    exact ⟨h.fault, h.panics, hcomes, hdoes, h.traced, ⟨e, rfl, hhandles⟩, h.bound,
      fun _ => ⟨fun _ => .inr hready, fun _ => rfl⟩, h.told⟩
  | enter r =>
    obtain ⟨e, rfl, hhandles⟩ := hhandles
    obtain ⟨files, e', hsrcs, he', ⟨heap, hleft, hrests⟩, hnext⟩ := hdoes
    obtain rfl : e = e' := Option.some.inj he'
    cases hstep
    -- the start routine is called on the store that the search for the end routine has left
    have hbegins := Job.begins_call files e r.start [.table r.instance_] .start
    rw [hrests.heap] at hbegins
    exact ⟨h.fault, h.panics, ⟨.run, ⟨_, rfl, rfl⟩, hcomes⟩,
      ⟨files, _, _, heap, hsrcs, rfl, trivial, hnext, hleft, .of_begins hbegins⟩, h.traced,
      ⟨_, rfl, hhandles⟩, h.bound, fun _ => h.started rfl, h.told⟩
  | closeInbox result =>
    obtain ⟨e, rfl, hhandles⟩ := hhandles
    cases hstep
    have hbound : ∀ id ∈ ids, (((e.closeInbox s).1.inbox id).isBound = true ↔ Ready rs) := by
      intro id hid
      rw [isBound_closeInbox]
      exact h.bound id hid
    -- with finalizers to run, the engine is closed in later steps
    unfold Worker.closeEngine
    dsimp only
    split
    · exact ⟨h.fault, h.panics, hcomes, trivial, h.traced, trivial, hbound,
        fun _ => h.started rfl, h.told⟩
    · exact ⟨h.fault, h.panics, hcomes, trivial, h.traced, trivial, hbound,
        fun _ => h.started rfl, h.told⟩
  | closeEngine result =>
    obtain ⟨ha, -, hstage⟩ := finalize_cases hstep
    have hs' := h.alike ha
    obtain ⟨wpath', interval', engine', stage'⟩ := w'
    rcases hstage with rfl | rfl
    · exact ⟨hs'.fault, hs'.panics, hcomes, trivial, h.traced, trivial, hs'.bound,
        fun _ => hs'.started rfl, hs'.told⟩
    · exact ⟨hs'.fault, hs'.panics, hcomes, trivial, h.traced, trivial, hs'.bound,
        fun _ => hs'.started rfl, hs'.told⟩
  | report result =>
    have hresult : result = resultOf (verdict rs) := Ended.result_eq hcomes
    cases result with
    | failed err =>
      cases hstep
      exact ⟨h.fault, h.panics, hcomes, trivial, h.traced, trivial, h.bound,
        fun _ => h.started rfl, h.told⟩
    | panicked p => cases hcomes
    | returned =>
      -- nothing is to be told
      cases hstep
      have hnone := verdict_of_returned hresult
      refine ⟨h.fault, h.panics, hcomes, trivial, h.traced, trivial, h.bound,
        fun _ => h.started rfl, ?_⟩
      rw [hnone]
      exact h.told
  | sendError err =>
    have hsome := verdict_of_failed (Ended.result_eq hcomes)
    have htold : s.host.diagnostics = s₀.host.diagnostics ++ [] := h.told
    unfold Worker.step at hstep
    dsimp only at hstep
    rw [h.panics] at hstep
    cases hstep
    refine ⟨h.fault, rfl, hcomes, trivial, h.traced, trivial, h.bound, fun _ => h.started rfl, ?_⟩
    change s.host.diagnostics ++ [err.diagnostic] = _
    rw [htold, hsome, List.append_nil]
    rfl
  | _ =>
    cases hstep
    exact ⟨h.fault, h.panics, hcomes, trivial, h.traced, trivial, h.bound, fun _ => h.started rfl,
      h.told⟩

/-- **The step at which the handle is published.** -/
theorem publish {id : Nat} (h : Session path s₀ w s srcs rs ids)
    (hstep : w.step s = (t, w', s', signals)) (hpublishes : w.publishes = some id) :
    w.report? s = none ∧ Session path s₀ w' s' srcs rs (ids ++ [id]) := by
  have hcomes := h.comes
  have hdoes := h.does
  have hhandles := h.handles
  obtain ⟨wpath, interval, engine, stage⟩ := w
  cases stage with
  | publish =>
    obtain ⟨rfl, e, rfl, hlt, hunbound⟩ := hhandles
    obtain rfl := Option.some.inj hpublishes
    cases hstep
    refine ⟨rfl, h.fault, h.panics, hcomes, hdoes, h.traced, ⟨e, rfl, hlt, rfl⟩, fun id hid => ?_,
      fun _ => h.started rfl, h.told⟩
    rw [List.mem_singleton.mp hid, hcomes.ready_iff]
    -- no robot is bound yet, and none is ready
    change (s.inbox e.id).isBound = true ↔ _
    rw [hunbound]
    exact ⟨nofun, nofun⟩
  | _ => cases hpublishes

/-- **A step at which a station reports**, beside that at which the program is read. -/
theorem report {r : StationReport} (h : Session path s₀ w s srcs rs ids)
    (hstep : w.step s = (t, w', s', signals)) (hreads : w.reads? s = none)
    (hreport : w.report? s = some r) : Session path s₀ w' s' srcs (rs ++ [r]) ids := by
  have hcomes := h.comes
  have hdoes := h.does
  have hhandles := h.handles
  obtain ⟨wpath, interval, engine, stage⟩ := w
  cases stage with
  | load =>
    obtain ⟨e, rfl, -⟩ := hhandles
    cases hreads
  | drive =>
    obtain ⟨st, ⟨e, rfl, hstation⟩, hunderway⟩ := hcomes
    obtain ⟨e', he', hlt, hids⟩ := hhandles
    obtain rfl : e = e' := Option.some.inj he'
    obtain ⟨files, e', job, heap, rfl, he', hrecalls, hnext, hleft, hjob⟩ := hdoes
    obtain rfl : e = e' := Option.some.inj he'
    have htraced := h.traced.append (Engine.follows_of_report hnext hleft hjob hreport)
    have hdrives := drives (w := ⟨wpath, interval, some e, .drive⟩) rfl rfl hstation hstep
    rw [hreport] at hdrives
    cases hdrives with
    | passes next hr hpass hnext hst hrun hstation' hid hdue =>
      have hpassed := hunderway.pass hr hpass hnext
      have hready : Ready (rs ++ [r]) ↔ Ready rs := by
        rw [hpassed.ready_iff, hunderway.ready_iff]
        exact ⟨fun h => absurd h hrun, fun h => absurd h hst⟩
      obtain ⟨⟨job', heap', hnext', hleft', hbegins⟩, hrecalls'⟩ := hdue hunderway hrecalls
      refine ⟨h.fault, h.panics, ⟨_, ⟨_, rfl, hstation'⟩, hpassed⟩,
        ⟨files, _, job', heap', rfl, rfl, hrecalls', hnext', hleft', .of_begins (hbegins files)⟩,
        htraced,
        ⟨_, rfl, hid ▸ hlt, hid ▸ hids⟩, ?_, fun _ => ?_, h.told⟩
      · rw [hready]
        exact h.bound
      · rw [hready]
        exact h.started rfl
    | ready robot hr hpass hst hid hrests hjob' =>
      -- the inbox is bound in the step that makes the robot ready
      subst hst
      have hpassed : Underway (rs ++ [r]) .run := hunderway.pass hr hpass rfl
      refine ⟨h.fault, h.panics, hpassed, ⟨files, _, rfl, rfl, hrests, hjob' hrecalls⟩, htraced,
        ⟨_, rfl, ?_, hid ▸ hids⟩, fun id hmem => ?_, nofun, h.told⟩
      · rw [hid, Shared.size_setInbox]
        exact hlt
      · rw [hids] at hmem
        rw [List.mem_singleton.mp hmem, Shared.inbox_setInbox hlt]
        exact ⟨fun _ => hpassed.ready_iff.mpr rfl, fun _ => rfl⟩
    | returns hr hpass hst hid =>
      subst hst
      have hready : Ready rs := hunderway.ready_iff.mpr rfl
      have hready' : Ready (rs ++ [r]) := hready.append r
      refine ⟨h.fault, h.panics, hunderway.finish hr hpass, trivial, htraced,
        ⟨_, rfl, hid ▸ hlt, hid ▸ hids⟩, fun id hmem => ?_, fun _ => ?_, h.told⟩
      · exact (h.bound id hmem).trans ⟨fun _ => hready', fun _ => hready⟩
      · refine (h.started rfl).trans (or_congr_right ⟨fun _ => hready', fun _ => hready⟩)
    | fails hr hfails hid =>
      refine ⟨h.fault, h.panics, hunderway.fail hr hfails, trivial, htraced,
        ⟨_, rfl, hid ▸ hlt, hid ▸ hids⟩, ?_, fun _ => ?_, h.told⟩
      · rw [ready_append_iff hfails]
        exact h.bound
      · rw [ready_append_iff hfails]
        exact h.started rfl
  | _ => cases hreport

/-- **A session goes on**, step by step. -/
theorem move {x y : Worker × Shared} {happened : List WorkerDeed} {l : WorkerDeed}
    (h : Session path s₀ x.1 x.2 (sources happened) (reports happened) (published happened))
    (hmove : Move x l y) :
    Session path s₀ y.1 y.2 (sources (happened ++ [l])) (reports (happened ++ [l]))
      (published (happened ++ [l])) := by
  rw [sources_append, reports_append, published_append]
  cases hmove with
  | @step w w' s s' t signals hgo hstep =>
    -- a step publishes a handle, reads the program, reports, or does none of these
    rw [sources_step, reports_step, published_step]
    cases hreads : w.reads? s with
    | some files =>
      obtain ⟨hpublishes, hnext⟩ := h.load hstep hreads
      rw [hpublishes]
      change Session path s₀ w' s' _ _ (published happened ++ [])
      rw [List.append_nil]
      exact hnext
    | none =>
      change Session path s₀ w' s' (sources happened ++ []) _ _
      rw [List.append_nil]
      cases hpublishes : w.publishes with
      | some id =>
        obtain ⟨hreport, hnext⟩ := h.publish hstep hpublishes
        rw [hreport]
        change Session path s₀ w' s' _ (reports happened ++ []) _
        rw [List.append_nil]
        exact hnext
      | none =>
        change Session path s₀ w' s' _ _ (published happened ++ [])
        rw [List.append_nil]
        cases hreport : w.report? s with
        | some r => exact h.report hstep hreads hreport
        | none =>
          change Session path s₀ w' s' _ (reports happened ++ []) _
          rw [List.append_nil]
          exact h.quiet hstep hreport hreads hpublishes
  | @logged w s panic =>
    change Session path s₀ _ s (sources happened ++ []) (reports happened ++ [])
      (published happened ++ [])
    rw [List.append_nil, List.append_nil, List.append_nil]
    exact h.logged panic
  | @elsewhere w s s' ha =>
    change Session path s₀ w s' (sources happened ++ []) (reports happened ++ [])
      (published happened ++ [])
    rw [List.append_nil, List.append_nil, List.append_nil]
    exact h.alike ha

/-- A session at its beginning. -/
theorem begins (hstage : w.stage = .start) (hfault : s₀.engineFault = none)
    (hpanics : s₀.panicsOnReport = false) : Session w.path s₀ w s₀ [] [] [] := by
  have hunready : ¬ Ready [] := fun hready => nomatch Underway.start.ready_iff.mp hready
  refine ⟨hfault, hpanics, ?_, ?_, .nil, ?_, nofun,
    fun _ => ⟨.inl, fun h => h.resolve_right hunready⟩, ?_⟩
  · -- nothing has been reported, no engine is there, and nobody has been told
    unfold Comes
    rw [hstage]
    exact .start
  · unfold Does
    rw [hstage]
    exact ⟨rfl, rfl⟩
  · unfold Handles
    rw [hstage]
    rfl
  · rw [hstage]
    exact (List.append_nil _).symm

theorem run {x y : Worker × Shared} {happened : List WorkerDeed}
    (h : Session path s₀ x.1 x.2 [] [] []) (hrun : Run Move x happened y) :
    Session path s₀ y.1 y.2 (sources happened) (reports happened) (published happened) := by
  induction hrun with
  | refl => exact h
  | tail run step ih => exact ih.move step

end Session

/-- A program whose start routine does nothing. -/
def idleProgram : Files :=
  { entries := [([[114]],
      some "return \x7bnew=function()return\x7bstartCompetition=function()end\x7dend\x7d".toUTF8)] }

end Worker
end RobotSession
