import RobotSession.Proofs.Bridge.Pipeline
import RobotSession.Proofs.Bridge.Steps
import RobotSession.Proofs.Lua.Deliveries

/-!
# When calls are delivered

Code of the script runs at every station of a program, in the metamethods that a lookup calls,
and in the finalizers once the program is over. Calls that other threads post are delivered
during one call of the host only, that of the start routine.

A delivery begins when the interpreter is told that something is queued. The inbox tells so only
if it is bound and not closed, and it is bound after the last lookup and closed before the first
finalizer. In between, the engine has nothing to run but the start routine; and when that has
come to its end, nothing is left of a delivery.

* `Engine.Confined` — nothing is delivered unless the start routine runs.
* `Worker.Visited` — a worker among threads that post calls.
* `Stage.Admits` — what an inbox lets in at each stage of the worker.
* `Worker.delivers_of_run` — calls are delivered while the start routine runs.
-/

namespace RobotSession

open Lua

/-- An inbox that is not bound, or closed, has nothing to deliver. -/
theorem Inbox.Sound.isPending_eq_false {b : Inbox} (h : b.Sound)
    (hshut : b.isBound = false ∨ b.isClosed = true) : b.isPending = false := by
  have hqueue : b.queue = [] := by
    rcases hshut with hunbound | hclosed
    · refine Classical.byContradiction fun hne => ?_
      rw [h.bound hne] at hunbound
      cases hunbound
    · exact h.closed hclosed
  rw [h.pending, hqueue]
  rfl

/-! ### The engine -/

namespace Engine

variable {e e' : Engine} {o : Outline} {id : Nat} {s s' : Shared} {t : Turn} {signals : List Signal}
  {result : Except Value (List Value)}

/-- **Nothing is delivered** unless the start routine runs. -/
structure Confined (e : Engine) : Prop where
  sound : e.Sound
  gathered : e.machine.outline.Gathered
  confined : e.task ≠ .start → ¬ e.machine.Delivers

/-- Between two calls of the host nothing is delivered, and no call begins with a delivery. -/
theorem GoesOn.confined (h : GoesOn o id e) (ho : o.Sound) (hcurrent : o.current = 0)
    (hmarks : o.marks = []) (hg : o.Gathered) : e.Confined := by
  have hsound := h.sound ho hcurrent hmarks
  cases h with
  | rests h =>
    obtain ⟨result, hmode⟩ := h.ended
    have hgathered : e.machine.outline.Gathered := by
      rw [h.outline]
      exact hg
    exact ⟨hsound, hgathered,
      fun _ => Machine.not_delivers_of_ended hsound.machine hgathered hmode⟩
  | calls h hid htask =>
    have hmain : ({ o with current := 0 } : Outline).Gathered := by
      rw [← hcurrent]
      exact hg
    refine ⟨hsound, h.gathered (hmain.marks [.host]), fun _ => h.not_delivers ?_⟩
    -- the only mark is that of the host
    rintro reason (hmark | ⟨a, hmark⟩)
    · cases List.mem_singleton.mp hmark
    · change Mark.delivery reason ∈ (o.strand a).marks at hmark
      rw [hg.marks_eq_nil ho hcurrent] at hmark
      cases hmark

namespace Confined

/-- A call of the host has ended, and the engine goes on with its task or with another one. -/
theorem goesOn (h : Confined e) (hmode : e.machine.mode = .ended result)
    (hgoes : GoesOn e.machine.outline e.id e') : Confined e' := by
  obtain ⟨hcurrent, hmarks⟩ := h.sound.machine.ended hmode
  exact hgoes.confined h.sound.machine.outline hcurrent hmarks h.gathered

theorem settle (h : Confined e) (hmode : e.machine.mode = .ended result) :
    Confined (e.settle result).2 :=
  h.goesOn hmode ((Rests.of_ended hmode).settle result)

theorem begins (h : Confined e) (hidle : e.task = .idle) (hb : e.Begins e') : Confined e' := by
  obtain ⟨result, hmode⟩ := h.sound.idle hidle
  exact h.goesOn hmode ((h.sound.rests hidle).begins hb)

theorem close (h : Confined e) (hidle : e.task = .idle) : Confined e.close.2 := by
  obtain ⟨result, hmode⟩ := h.sound.idle hidle
  obtain ⟨hcurrent, hmarks⟩ := h.sound.machine.ended hmode
  refine (h.sound.rests hidle).close.confined ?_ hcurrent hmarks ?_
  · exact h.sound.machine.outline.of_strand_eq rfl rfl rfl rfl (fun _ => rfl) (fun _ => rfl)
      (fun _ => rfl)
  · exact h.gathered.congr h.sound.machine.outline rfl rfl (fun _ _ => rfl) fun _ => .inl rfl

/-- An answer begins a delivery only if it says that something is queued. -/
theorem answer (h : Confined e) {w : Waiting} (hmode : e.machine.mode = .ask w) (a : Answer)
    (ha : e.task = .start ∨ a ≠ .flag true) : Confined (e.answer a) := by
  have ho := h.sound.machine.outline
  refine ⟨h.sound.answer hmode a, Machine.gathered_answer hmode ho h.gathered a, fun htask => ?_⟩
  exact Machine.not_delivers_answer hmode ho (h.confined htask) (ha.resolve_left htask)

/-- The log does not know what is queued. -/
theorem logged (h : Confined e) (panic : Option Payload) : Confined (e.logged panic) := by
  have hanswer : ∀ a : Answer, a ≠ .flag true → Confined (e.answer a) := by
    intro a ha
    cases hmode : e.machine.mode with
    | ask w => exact h.answer hmode a (.inr ha)
    | _ =>
      -- who has not asked is not answered
      have hsame : e.answer a = e := by
        obtain ⟨id, ⟨heap, threads, current, frames, depth, mode, interval, owner, ticket, robot⟩,
          task, openedAt⟩ := e
        change mode = _ at hmode
        subst hmode
        rfl
      rw [hsame]
      exact h
  unfold Engine.logged
  cases panic with
  | none => exact hanswer _ nofun
  | some p => exact hanswer _ nofun

theorem advance (h : Confined e) (fuel : Nat) :
    Confined { e with machine := e.machine.advance fuel } := by
  induction fuel generalizing e with
  | zero => exact h
  | succ fuel ih =>
    unfold Machine.advance
    cases hgo : e.machine.isWaiting with
    | true => exact h
    -- a step keeps the marks together and begins no delivery where none may be
    | false =>
      have hshift := Machine.shift_step hgo
      have ho := h.sound.machine.outline
      refine ih (e := { e with machine := e.machine.step }) ⟨?_, hshift.gathered ho h.gathered,
        fun htask => hshift.not_delivers ho (h.confined htask)⟩
      exact (h.sound.move (.step (s := {}) hgo)).1

/-- **A turn delivers nothing** if nothing is queued, unless the start routine runs. -/
theorem turn (h : Confined e) (hflag : e.task = .start ∨ (s.inbox e.id).isPending = false)
    (hturn : e.turn s = (t, e', s', signals)) : Confined e' := by
  have hadvance := h.advance quantum
  unfold Engine.turn at hturn
  dsimp only at hturn
  split at hturn
  · rename_i w hmode
    -- an answer from the queue is harmless, any other one is bounded by the flag
    by_cases htake : w.question = .take
    · rw [htake] at hturn
      cases hturn
      exact hadvance.answer hmode _ (.inr nofun)
    · obtain ⟨rfl | ⟨a, rfl, -, hanswer⟩, -⟩ := serve_cases htake hturn
      · exact hadvance
      · refine hadvance.answer hmode a (hflag.imp_right fun hpending ha => ?_)
        -- the answer would say that a call is pending, which the flag denies
        have htrue : true = (s.inbox e.id).isPending := hanswer true ha
        rw [hpending] at htrue
        cases htrue
  · rename_i result hmode
    have hsettle := hadvance.settle hmode
    split at hturn
    all_goals
      rename_i heq
      cases hturn
      rw [heq] at hsettle
      exact hsettle
  · cases hturn
    exact hadvance

end Confined

theorem confined_openIn {interval : Nat} (h : openIn s interval = (e, s', signals)) :
    Confined e := by
  obtain ⟨hsound, -, -⟩ := openIn_sound h
  cases h
  have hgathered : ((Machine.opened interval).collecting s.collections).outline.Gathered := by
    rw [Machine.outline_collecting]
    exact Machine.gathered_opened interval
  have hended : ∃ result, ((Machine.opened interval).collecting s.collections).mode
      = .ended result := ⟨_, rfl⟩
  obtain ⟨result, hmode⟩ := hended
  exact ⟨hsound, hgathered, fun _ =>
    Machine.not_delivers_of_ended hsound.machine hgathered hmode⟩

/-- Only a delivery takes a call. -/
theorem mode_of_takes {i : Invocation} (h : e.takes s = some i) :
    ∃ reason, (e.machine.advance quantum).mode = .ask (.drainTake reason) := by
  unfold takes at h
  split at h
  · rename_i w hmode
    split at h
    · rename_i htake
      obtain ⟨reason, rfl⟩ := question_eq_take htake
      exact ⟨reason, hmode⟩
    · cases h
  · cases h

/-! ### Tasks -/

/-- The finalizers that are left are run one after the other, and then the engine is idle. -/
theorem task_finalize {c : Option Completion} {tables : List Nat}
    (h : e.finalize tables = (c, e')) :
    (c = none ∧ ∃ rest, e'.task = .finalize rest) ∨ (c ≠ none ∧ e'.task = .idle) := by
  -- a table with a finalizer leaves the others for later; with none left the engine is idle
  induction tables with
  | nil =>
    cases h
    exact .inr ⟨nofun, rfl⟩
  | cons table rest ih =>
    unfold finalize at h
    split at h
    · cases h
      exact .inl ⟨rfl, rest, rfl⟩
    · exact ih h

/-- **A task that is completed** leaves the engine idle. -/
theorem task_settle {c : Completion} (h : e.settle result = (some c, e')) : e'.task = .idle := by
  unfold settle at h
  cases htask : e.task with
  | finalize rest =>
    rw [htask] at h
    rcases task_finalize h with ⟨hnone, -⟩ | ⟨-, hidle⟩
    · cases hnone
    · exact hidle
  | _ =>
    -- whatever else is completed, the engine is done with it
    rw [htask] at h
    dsimp only at h
    repeat' split at h
    all_goals cases h <;> rfl

end Engine

/-! ### The start routine -/

/-- **The start routine runs**: it has been called, and since then no station has reported, so it
has neither returned nor raised an error. -/
def StartRuns (happened : List WorkerDeed) : Prop :=
  ∃ before w s r later, happened = before ++ .step w s :: later ∧ w.stage = .enter r
    ∧ reports later = []

theorem StartRuns.append {happened : List WorkerDeed} {l : WorkerDeed} (h : StartRuns happened)
    (hquiet : reports [l] = []) : StartRuns (happened ++ [l]) := by
  obtain ⟨before, w, s, r, later, rfl, hstage, hreports⟩ := h
  refine ⟨before, w, s, r, later ++ [l], ?_, hstage, ?_⟩
  · rw [List.append_assoc]
    rfl
  · rw [reports_append, hreports, hquiet]
    rfl

theorem startRuns_enter {happened : List WorkerDeed} {w : Worker} {r : Robot}
    (hstage : w.stage = .enter r) (s : Shared) : StartRuns (happened ++ [.step w s]) :=
  ⟨happened, w, s, r, [], rfl, hstage, rfl⟩

theorem Task.eq_start {task : Task} (h : task.station? = some .run) : task = .start := by
  cases task with
  | start => rfl
  | _ => cases h

theorem Engine.begins_loadFile {e e' : Engine} {s : Shared} {path : ByteArray}
    (h : e.loadFile s path = .ok e') : e.Begins e' := by
  unfold Engine.loadFile at h
  split at h
  · cases h
  · exact .load h

/-! ### A worker among threads that post calls -/

namespace Worker

/-- **A move** of a worker, or of the threads around it. They may post any call through any
handle at any time, and the log may do so before it answers; the inbox of the engine is not
changed in another way. -/
inductive Visited : Worker × Shared → WorkerDeed → Worker × Shared → Prop
  | step {w w' : Worker} {s s' : Shared} {t : WorkerTurn} {signals : List Signal}
      (hgo : w.result? = none) (h : w.step s = (t, w', s', signals)) :
      Visited (w, s) (.step w s) (w', s')
  | logged {w : Worker} {s : Shared} (panic : Option Payload) :
      Visited (w, s) .elsewhere (w.logged panic, s)
  | post {w : Worker} {s : Shared} (id : Nat) (i : Invocation) :
      Visited (w, s) .elsewhere (w, (s.post id i).2)
  | others {w : Worker} {s s' : Shared} (hsize : s.inboxes.size ≤ s'.inboxes.size)
      (hinbox : ∀ e ∈ w.engine, s'.inbox e.id = s.inbox e.id) : Visited (w, s) .elsewhere (w, s')

/-- **What the inbox lets in** at a stage of the worker, by the task of the engine: it is not
bound before the last lookup has been made, and it is closed when the finalizers run. -/
def Stage.Admits (stage : Stage) (task : Task) (b : Inbox) : Prop :=
  match stage with
  | .publish | .load => task = .idle ∧ b.isBound = false
  | .drive => task = .start ∨ (∃ st, task.station? = some st ∧ st ≠ .run) ∧ b.isBound = false
  | .markRunning _ | .enter _ | .closeInbox _ => task = .idle
  | .closeEngine _ => (∃ rest, task = .finalize rest) ∧ b.isClosed = true
  | .start | .recordClose _ | .report _ | .sendError _ | .finish _ | .requestExit _ | .done _ =>
    False

/-- **An engine at a stage** of its worker. -/
structure Attended (stage : Stage) (s : Shared) (happened : List WorkerDeed) (e : Engine) :
    Prop where
  engine : e.Confined
  inbox_lt : e.id < s.inboxes.size
  inbox : (s.inbox e.id).Sound
  admits : stage.Admits e.task (s.inbox e.id)
  started : stage = .drive → e.task = .start → StartRuns happened

variable {w w' : Worker} {s s₀ s' : Shared} {e e' : Engine} {happened : List WorkerDeed}
  {t : WorkerTurn} {signals : List Signal} {l : WorkerDeed} {stage : Stage}

/-- An engine that has just been opened. -/
theorem attended_openIn {interval : Nat} (h : Engine.openIn s interval = (e, s', signals)) :
    Attended .publish s' happened e := by
  obtain ⟨-, hlt, hinbox⟩ := Engine.openIn_sound h
  have hidle : e.task = .idle := by
    cases h
    rfl
  refine ⟨Engine.confined_openIn h, hlt, ?_, ⟨hidle, ?_⟩, nofun⟩
  · rw [hinbox]
    exact .new
  · rw [hinbox]

namespace Attended

/-- Another state, in which the inbox lets in what it did. -/
theorem of_inbox (h : Attended stage s happened e) (hsize : s.inboxes.size ≤ s'.inboxes.size)
    (hsound : (s'.inbox e.id).Sound) (hbound : (s'.inbox e.id).isBound = (s.inbox e.id).isBound)
    (hclosed : (s'.inbox e.id).isClosed = (s.inbox e.id).isClosed) (hquiet : reports [l] = []) :
    Attended stage s' (happened ++ [l]) e := by
  refine ⟨h.engine, Nat.lt_of_lt_of_le h.inbox_lt hsize, hsound, ?_,
    fun hstage htask => (h.started hstage htask).append hquiet⟩
  have hadmits := h.admits
  unfold Stage.Admits at hadmits ⊢
  rw [hbound, hclosed]
  exact hadmits

/-- **Posts change nothing** about what an inbox lets in. -/
theorem post (h : Attended stage s happened e) (id : Nat) (i : Invocation) :
    Attended stage (s.post id i).2 (happened ++ [.elsewhere]) e := by
  have halike := Shared.Alike.post s id i
  refine h.of_inbox halike.size ?_ (halike.bound _) (halike.closed _) rfl
  change ((s.setInbox id ((s.inbox id).post i).2).inbox e.id).Sound
  rcases s.inbox_setInbox_cases id e.id ((s.inbox id).post i).2 with ⟨hb, rfl⟩ | hsame
  · rw [hb]
    exact h.inbox.post i
  · rw [hsame]
    exact h.inbox

theorem logged (h : Attended stage s happened e) (panic : Option Payload) :
    Attended stage s (happened ++ [.elsewhere]) (e.logged panic) :=
  ⟨h.engine.logged panic, h.inbox_lt, h.inbox, h.admits,
    fun hstage htask => (h.started hstage htask).append rfl⟩

/-- Unless the start routine runs, the engine is not told that something is queued. -/
theorem isPending (h : Attended stage s happened e)
    (hshut : e.task = .start ∨ (s.inbox e.id).isBound = false ∨ (s.inbox e.id).isClosed = true) :
    e.task = .start ∨ (s.inbox e.id).isPending = false :=
  hshut.imp_right h.inbox.isPending_eq_false

/-- What a turn leaves of the inbox. -/
theorem inbox_turn {t : Turn} (h : Attended stage s happened e)
    (hturn : e.turn s = (t, e', s', signals)) :
    e'.id < s'.inboxes.size ∧ (s'.inbox e'.id).Sound := by
  obtain ⟨hid, halike, -⟩ := Engine.turn_alike hturn
  rw [hid]
  refine ⟨Nat.lt_of_lt_of_le h.inbox_lt halike.size, ?_⟩
  rcases Engine.turn_shared hturn with ⟨-, clock, rfl⟩ | ⟨-, rfl⟩
  · exact h.inbox
  · rw [Shared.inbox_setInbox h.inbox_lt]
    exact h.inbox.pop

/-- At a stage of the program, the engine is at a station, and before the last one the inbox is
not bound. -/
theorem station (h : Attended .drive s happened e) : ∃ st, e.task.station? = some st
    ∧ (st = .run → e.task = .start) ∧ (st ≠ .run → (s.inbox e.id).isBound = false) := by
  rcases h.admits with hstart | ⟨⟨st, hstation, hrun⟩, hunbound⟩
  · rw [hstart]
    exact ⟨.run, rfl, fun _ => rfl, fun hrun => absurd rfl hrun⟩
  · exact ⟨st, hstation, fun h => absurd h hrun, fun _ => hunbound⟩

end Attended

/-- **The engine after a step at which it goes on** with the program. It is idle if the program
leaves it. -/
theorem engine_drive (hengine : w.engine = some e) (h : Attended .drive s happened e)
    (hstage : w.stage = .drive) (hstep : w.drive s = (t, w', s', signals)) :
    ∃ e', w'.engine = some e' ∧ e'.Confined ∧ (w'.stage ≠ .drive → e'.task = .idle)
      ∧ e'.id < s'.inboxes.size ∧ (s'.inbox e'.id).Sound := by
  obtain ⟨st, -, hstart, hunbound⟩ := h.station
  have hflag : e.task = .start ∨ (s.inbox e.id).isPending = false := by
    by_cases hrun : st = .run
    · exact .inl (hstart hrun)
    · exact h.isPending (.inr (.inl (hunbound hrun)))
  obtain ⟨t₀, e₀, s₁, signals₀, hturn, hcases⟩ := drive_cases hengine hstep
  have hconfined := h.engine.turn hflag hturn
  obtain ⟨hlt, hsound⟩ := h.inbox_turn hturn
  -- a turn that completes something leaves the engine without a task
  have hidle : ∀ c, t₀ = .completed c → e₀.task = .idle := by
    intro c hc
    rcases Engine.turn_cases hturn with ⟨result, -, ⟨c', -, hsettle⟩ | ⟨hgoing, -⟩, -⟩
      | ⟨-, hcompleted, -⟩
    · exact Engine.task_settle hsettle
    · rw [hgoing] at hc
      cases hc
    · exact absurd hc (hcompleted c)
  rcases hcases with ⟨-, rfl, -, rfl⟩ | ⟨table, hc, rfl, -, rfl⟩ | ⟨r, hc, rfl, -, rfl⟩
    | ⟨c, hc, -, -, rfl, -, rfl⟩
  · exact ⟨_, rfl, hconfined, fun h => absurd hstage h, hlt, hsound⟩
  · have hid : (e₀.construct table).id = e₀.id := Engine.id_begins (.construct table)
    refine ⟨_, rfl, hconfined.begins (hidle _ hc) (.construct table), fun h => absurd hstage h,
      ?_, ?_⟩
    · rw [hid]
      exact hlt
    · rw [hid]
      exact hsound
  · refine ⟨_, rfl, hconfined, fun _ => hidle _ hc, ?_, ?_⟩
    · exact Nat.lt_of_lt_of_eq hlt (Shared.size_setInbox ..).symm
    · change ((s₁.setInbox e₀.id (s₁.inbox e₀.id).bind).inbox e₀.id).Sound
      rw [Shared.inbox_setInbox hlt]
      exact hsound.bind
  · exact ⟨_, rfl, hconfined, fun _ => hidle _ hc, hlt, hsound⟩

namespace Attended

/-- **A step of the program** keeps what the inbox lets in: it is bound in the step that completes
the last lookup. -/
theorem drive (h : Attended .drive s happened e) (hengine : w.engine = some e)
    (hstage : w.stage = .drive) (hstep : w.step s = (t, w', s', signals)) :
    ∀ e' ∈ w'.engine, Attended w'.stage s' (happened ++ [.step w s]) e' := by
  have hdrive : w.drive s = (t, w', s', signals) := by
    rw [← hstep]
    unfold Worker.step
    rw [hstage]
  obtain ⟨e', hengine', hconfined, hidle, hlt, hsound⟩ := engine_drive hengine h hstage hdrive
  obtain ⟨st, hstation, hstart, hunbound⟩ := h.station
  have hdrives := drives hstage hengine hstation hstep
  rintro e'' hmem
  obtain rfl : e' = e'' := Option.some.inj (hengine'.symm.trans hmem)
  generalize hreport : w.report? s = report at hdrives
  cases hdrives with
  | @goesOn e₁ s₁ hsame hid ha hjob =>
    obtain rfl : e₁ = e' := Option.some.inj hengine'
    have hstation' : e₁.task.station? = some st := hsame ▸ hstation
    have hquiet : reports [.step w s] = [] := by
      rw [reports_step, hreport]
      rfl
    refine ⟨hconfined, hlt, hsound, ?_, fun _ htask => ?_⟩
    · rw [hstage]
      by_cases hrun : st = .run
      · exact .inl (Task.eq_start (hrun ▸ hstation'))
      · refine .inr ⟨⟨st, hstation', hrun⟩, ?_⟩
        rw [hid, ha.bound]
        exact hunbound hrun
    · -- the start routine cannot run but at the last station
      rw [htask] at hstation'
      obtain rfl : Station.run = st := Option.some.inj hstation'
      exact (h.started rfl (hstart rfl)).append hquiet
  | @passes r e₁ next hr hpass hnext hst hrun hstation' hid hdue =>
    obtain rfl : e₁ = e' := Option.some.inj hengine'
    refine ⟨hconfined, hlt, hsound, ?_, fun _ htask => ?_⟩
    · rw [hstage]
      refine .inr ⟨⟨next, hstation', hrun⟩, ?_⟩
      rw [hid]
      exact hunbound hst
    · rw [htask] at hstation'
      exact absurd (Option.some.inj hstation').symm hrun
  | ready robot hr hpass hst hid hrests hjob => exact ⟨hconfined, hlt, hsound, hidle nofun, nofun⟩
  | returns hr hpass hst hid => exact ⟨hconfined, hlt, hsound, hidle nofun, nofun⟩
  | fails hr hfails hid => exact ⟨hconfined, hlt, hsound, hidle nofun, nofun⟩

/-- **The inbox is closed** before the first finalizer runs. -/
theorem closeInbox {result : WorkerResult} (h : Attended (.closeInbox result) s happened e)
    (hengine : w.engine = some e) :
    ∀ e' ∈ (w.closeEngine result).engine,
      Attended (w.closeEngine result).stage (e.closeInbox s).1 (happened ++ [l]) e' := by
  have hconfined := h.engine.close h.admits
  have hid := e.id_close
  unfold Worker.closeEngine
  rw [hengine]
  dsimp only
  rcases hclose : e.close with ⟨c, e₁⟩
  rw [hclose] at hconfined hid
  cases c with
  | some c =>
    intro e' hmem
    cases hmem
  | none =>
    -- the engine has an end of its own to run, and keeps a queue that is closed by now
    intro e' hmem
    obtain rfl : e₁ = e' := Option.some.inj hmem
    have hinbox : (e.closeInbox s).1.inbox e₁.id = (s.inbox e.id).close := by
      rw [hid]
      exact Shared.inbox_setInbox h.inbox_lt _
    refine ⟨hconfined, ?_, ?_, ⟨?_, ?_⟩, nofun⟩
    · rw [hid]
      exact Nat.lt_of_lt_of_eq h.inbox_lt (Shared.size_setInbox ..).symm
    · rw [hinbox]
      exact .close _
    · -- its task is to finalize, since the closing has not ended at once
      rcases Engine.task_finalize hclose with ⟨-, hrest⟩ | ⟨hnone, -⟩
      · exact hrest
      · exact absurd rfl hnone
    · rw [hinbox]
      rfl

/-- **The finalizers** find the inbox closed. -/
theorem finalize {result : WorkerResult} (h : Attended (.closeEngine result) s happened e)
    (hengine : w.engine = some e) (hstage : w.stage = .closeEngine result)
    (hstep : w.finalize s result = (t, w', s', signals)) :
    ∀ e' ∈ w'.engine, Attended w'.stage s' (happened ++ [l]) e' := by
  obtain ⟨path, interval, engine, stage⟩ := w
  change engine = some e at hengine
  change stage = .closeEngine result at hstage
  subst hengine hstage
  obtain ⟨⟨rest, htask⟩, hclosed⟩ := h.admits
  rcases hturn : e.turn s with ⟨t₀, e₀, s₁, signals₀⟩
  have hconfined := h.engine.turn (h.isPending (.inr (.inr hclosed))) hturn
  obtain ⟨hlt, hsound⟩ := h.inbox_turn hturn
  obtain ⟨hid, halike, -⟩ := Engine.turn_alike hturn
  have hgoes : (∀ c, t₀ ≠ .completed c) →
      Attended (.closeEngine result) s₁ (happened ++ [l]) e₀ := by
    intro hgoing
    refine ⟨hconfined, hlt, hsound, ⟨?_, ?_⟩, nofun⟩
    · rcases Engine.turn_cases hturn with ⟨r, -, ⟨c, hc, -⟩ | ⟨-, hsettle⟩, -⟩ | ⟨-, -, hsame, -⟩
      · exact absurd hc (hgoing c)
      · -- one finalizer has ended, and the next one begins
        unfold Engine.settle at hsettle
        dsimp only at hsettle
        rw [htask] at hsettle
        rcases Engine.task_finalize hsettle with ⟨-, hrest⟩ | ⟨hnone, -⟩
        · exact hrest
        · exact absurd rfl hnone
      · exact ⟨rest, hsame.trans htask⟩
    · rw [hid, halike.closed]
      exact hclosed
  unfold Worker.finalize at hstep
  dsimp only at hstep
  rw [hturn] at hstep
  dsimp only at hstep
  intro e' hmem
  cases t₀ with
  | completed c =>
    cases hstep
    cases hmem
  | _ =>
    cases hstep
    obtain rfl : e₀ = e' := Option.some.inj hmem
    exact hgoes nofun

end Attended

/-- **A step of the worker** keeps what the inbox lets in. -/
theorem attended_step (h : ∀ e ∈ w.engine, Attended w.stage s happened e)
    (hstep : w.step s = (t, w', s', signals)) :
    ∀ e ∈ w'.engine, Attended w'.stage s' (happened ++ [.step w s]) e := by
  obtain ⟨path, interval, engine, stage⟩ := w
  -- a stage after the last finalizer, or before the first step, has no engine
  have hgone : (∀ task b, ¬ stage.Admits task b) → engine = none := by
    intro hadmits
    cases engine with
    | none => rfl
    | some e => exact absurd (h e rfl).admits (hadmits _ _)
  cases stage with
  | start =>
    obtain rfl := hgone fun _ _ hadmits => hadmits
    unfold Worker.step at hstep
    dsimp only at hstep
    split at hstep
    · cases hstep
      intro e hmem
      cases hmem
    · rcases hopen : Engine.openIn s interval with ⟨e, s₁, signals₁⟩
      rw [hopen] at hstep
      cases hstep
      intro e' hmem
      obtain rfl : e = e' := Option.some.inj hmem
      exact attended_openIn hopen
  | publish =>
    cases engine with
    | none =>
      cases hstep
      intro e hmem
      cases hmem
    | some e =>
      cases hstep
      intro e' hmem
      have he := h e' hmem
      exact ⟨he.engine, he.inbox_lt, he.inbox, he.admits, nofun⟩
  | load =>
    cases engine with
    | none =>
      cases hstep
      intro e hmem
      cases hmem
    | some e =>
      have he := h e rfl
      obtain ⟨hidle, hunbound⟩ := he.admits
      unfold Worker.step at hstep
      dsimp only at hstep
      split at hstep
      · rename_i e₁ hload
        cases hstep
        intro e' hmem
        obtain rfl : e₁ = e' := Option.some.inj hmem
        have hid := id_loadFile hload
        obtain ⟨-, hstation, -⟩ := Engine.report?_of_loadFile hload
        refine ⟨he.engine.begins hidle (Engine.begins_loadFile hload), ?_, ?_,
          .inr ⟨⟨_, hstation, nofun⟩, ?_⟩, fun _ htask => ?_⟩
        · rw [hid]
          exact he.inbox_lt
        · rw [hid]
          exact he.inbox
        · rw [hid]
          exact hunbound
        · rw [htask] at hstation
          cases hstation
      · cases hstep
        intro e' hmem
        obtain rfl : e = e' := Option.some.inj hmem
        exact ⟨he.engine, he.inbox_lt, he.inbox, hidle, nofun⟩
  | drive =>
    cases engine with
    | none =>
      cases hstep
      intro e hmem
      cases hmem
    | some e => exact (h e rfl).drive rfl rfl hstep
  | markRunning r =>
    cases hstep
    intro e hmem
    have he := h e hmem
    exact ⟨he.engine, he.inbox_lt, he.inbox, he.admits, nofun⟩
  | enter r =>
    cases hstep
    intro e' hmem
    obtain ⟨e, hengine, rfl⟩ := Option.map_eq_some_iff.mp hmem
    have he := h e hengine
    exact ⟨he.engine.begins he.admits (.start r), he.inbox_lt, he.inbox, .inl rfl,
      fun _ _ => startRuns_enter rfl s⟩
  | closeInbox result =>
    cases engine with
    | none =>
      cases hstep
      intro e hmem
      cases hmem
    | some e =>
      cases hstep
      exact (h e rfl).closeInbox rfl
  | closeEngine result =>
    cases engine with
    | none =>
      cases hstep
      intro e hmem
      cases hmem
    | some e =>
      have hfinalize : Worker.finalize ⟨path, interval, some e, .closeEngine result⟩ s result
        = (t, w', s', signals) := hstep
      exact (h e rfl).finalize rfl rfl hfinalize
  | report result =>
    obtain rfl := hgone fun _ _ hadmits => hadmits
    cases result with
    | _ =>
      cases hstep
      intro e hmem
      cases hmem
  | _ =>
    obtain rfl := hgone fun _ _ hadmits => hadmits
    cases hstep
    intro e hmem
    cases hmem

/-! ### Runs -/

/-- What a worker takes, its engine takes. -/
theorem takes_eq {i : Invocation} (hengine : w.engine = some e) (h : w.takes s = some i) :
    e.takes s = some i := by
  unfold takes at h
  rw [hengine] at h
  split at h
  · rename_i heq
    rw [Option.some.inj heq]
    exact h
  · rename_i heq
    rw [Option.some.inj heq]
    exact h
  · cases h

/-- **Every move** keeps what the inbox lets in. -/
theorem attended_move {x y : Worker × Shared}
    (h : ∀ e ∈ x.1.engine, Attended x.1.stage x.2 happened e)
    (hmove : Visited x l y) : ∀ e ∈ y.1.engine, Attended y.1.stage y.2 (happened ++ [l]) e := by
  cases hmove with
  | step hgo hstep => exact attended_step h hstep
  | logged panic =>
    intro e' hmem
    obtain ⟨e, hengine, rfl⟩ := Option.map_eq_some_iff.mp hmem
    exact (h e hengine).logged panic
  | post id i =>
    intro e hmem
    exact (h e hmem).post id i
  -- the others may do what they like with all queues but this one
  | others hsize hinbox =>
    intro e hmem
    have hsame := hinbox e hmem
    refine (h e hmem).of_inbox hsize ?_ ?_ ?_ rfl
    · rw [hsame]
      exact (h e hmem).inbox
    · rw [hsame]
    · rw [hsame]

theorem attended_run {x y : Worker × Shared} (h : ∀ e ∈ x.1.engine, Attended x.1.stage x.2 [] e)
    (hrun : Run Visited x happened y) : ∀ e ∈ y.1.engine, Attended y.1.stage y.2 happened e := by
  induction hrun with
  | refl => exact h
  | tail run step ih => exact attended_move ih step

/-- **Calls are delivered while the start routine runs**, and at no other time: whatever the
script does, whoever posts calls, and wherever the interpreter is between two of its steps. The
worker takes calls at these times only.

So no call is delivered while the module is evaluated, while the robot is constructed or while
its routines are looked up, and none after the start routine has returned or raised an error. -/
theorem delivers_of_run {path : ByteArray} {interval : Nat}
    (hrun : Run Visited ({ path, interval }, s₀) happened (w, s)) (hengine : w.engine = some e) :
    (∀ fuel, (e.machine.advance fuel).Delivers →
        w.stage = .drive ∧ e.task = .start ∧ StartRuns happened)
      ∧ ∀ i, w.takes s = some i → w.stage = .drive ∧ e.task = .start ∧ StartRuns happened := by
  have he := attended_run (x := ({ path, interval }, s₀))
    (fun e hmem => absurd hmem (Option.not_mem_none e)) hrun e hengine
  have hdelivers : ∀ fuel, (e.machine.advance fuel).Delivers →
      w.stage = .drive ∧ e.task = .start ∧ StartRuns happened := by
    intro fuel hdelivers
    have hstart : e.task = .start :=
      Classical.byContradiction fun htask => (he.engine.advance fuel).confined htask hdelivers
    -- no other stage has the start routine as the task of its engine
    have hstage : w.stage = .drive := by
      have hadmits := he.admits
      rw [hstart] at hadmits
      generalize w.stage = stage at hadmits
      cases stage with
      | drive => rfl
      | publish => cases hadmits.1
      | load => cases hadmits.1
      | closeEngine result => cases hadmits.1.choose_spec
      | _ => cases hadmits
    exact ⟨hstage, hstart, he.started hstage hstart⟩
  refine ⟨hdelivers, fun i htakes => hdelivers Engine.quantum ?_⟩
  -- only a delivery asks for a call
  obtain ⟨reason, hmode⟩ := Engine.mode_of_takes (takes_eq hengine htakes)
  exact .inr ⟨_, hmode, rfl⟩

/-- Whether the next step takes the call that asks the robot to end. -/
def takesFinish (w : Worker) (s : Shared) : Bool :=
  (w.takes s).any (· matches .finish)

theorem takes_of_takesFinish (h : w.takesFinish s = true) : w.takes s = some .finish := by
  unfold takesFinish at h
  cases htakes : w.takes s with
  | none =>
    rw [htakes] at h
    cases h
  | some i =>
    rw [htakes] at h
    cases i with
    | finish => rfl
    | method name => cases h

/-- A robot that is asked to end before its start routine is called is told so before the first
instruction of the routine. -/
theorem delivers_of_run_finish : ∃ happened w s e,
    Run Visited ({ path := ⟨#[114]⟩, interval := 1 }, { files := idleProgram }) happened (w, s)
      ∧ w.engine = some e ∧ w.takes s = some .finish
      ∧ w.stage = .drive ∧ e.task = .start ∧ StartRuns happened := by
  -- the robot is bound, the call is posted, and the start routine is called
  have htakes : (fun ready : Worker × Shared =>
      (fun last : Worker × Shared => last.1.takesFinish last.2 && last.1.engine.isSome)
        (advance 2 ready.1 (ready.2.post 0 .finish).2))
      (advance 17 { path := ⟨#[114]⟩, interval := 1 } { files := idleProgram }) = true := by
    decide +kernel
  obtain ⟨before, hbefore⟩ := run_advance_of Visited.step 17
    { path := ⟨#[114]⟩, interval := 1 } { files := idleProgram }
  generalize advance 17 { path := ⟨#[114]⟩, interval := 1 } { files := idleProgram } = ready
    at htakes hbefore
  obtain ⟨w₁, s₁⟩ := ready
  obtain ⟨later, hlater⟩ := run_advance_of Visited.step 2 w₁ (s₁.post 0 .finish).2
  dsimp only at htakes
  generalize advance 2 w₁ (s₁.post 0 .finish).2 = last at htakes hlater
  obtain ⟨w, s⟩ := last
  rw [Bool.and_eq_true, Option.isSome_iff_exists] at htakes
  obtain ⟨htakes, e, hengine⟩ := htakes
  have hrun := (hbefore.tail (.post 0 .finish)).trans hlater
  have htakes := takes_of_takesFinish htakes
  exact ⟨_, w, s, e, hrun, hengine, htakes, (delivers_of_run hrun hengine).2 _ htakes⟩

end Worker
end RobotSession
