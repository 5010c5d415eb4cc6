import RobotSession.Proofs.Bridge.Calls
import RobotSession.Proofs.Bridge.Pipeline

/-!
# The phase that a worker shows

The slot of a session says how far its worker has come. Three steps write it: the handle is
published, the robot is marked as running, the slot is finished. Between them the phase follows the
stage of the worker, and a panic may make the worker skip stages, but not go back.

* `Worker.phase?` — the phase that belongs to the stage of a worker.
* `Worker.Stage.Unwinds` — where a panic leads, from wherever it comes.
* `Worker.Shows` — the slot has the phase that belongs to the stage.
* `Worker.Shows.step` — every step keeps this, and a step that writes a phase writes a later one.
-/

namespace RobotSession

open Lua

theorem WorkerPhase.rank_inj {p q : WorkerPhase} (h : p.rank = q.rank) : p = q := by
  cases p with
  | pending | loading | running | finished =>
    cases q with
    | pending | loading | running | finished => cases h <;> rfl

theorem WorkerPhase.rank_le_finished (p : WorkerPhase) : p.rank ≤ WorkerPhase.finished.rank := by
  cases p with
  | pending | loading | running | finished => decide

/-- What is not finished comes before. -/
theorem WorkerPhase.rank_lt_finished {p : WorkerPhase} (h : p ≠ .finished) :
    p.rank < WorkerPhase.finished.rank :=
  Nat.lt_of_le_of_ne p.rank_le_finished fun hrank => h (rank_inj hrank)

/-! ### The clock -/

/-- A turn does not turn back the clock. -/
theorem Engine.clock_le_turn {e e' : Engine} {s s' : Shared} {t : Turn} {signals : List Signal}
    (h : e.turn s = (t, e', s', signals)) : s.clock ≤ s'.clock := by
  unfold turn at h
  dsimp only at h
  split at h
  · rename_i w hmode
    generalize w.question = q at h
    -- only a look at the clock and a turn that runs to its end take time
    cases q with
    | clock =>
      cases h
      exact Nat.le_add_right _ _
    | wait deadline =>
      unfold serve at h
      dsimp only at h
      split at h
      · cases h
        exact Nat.le_refl _
      · cases h
        exact Nat.le_refl _
    | _ =>
      cases h
      exact Nat.le_refl _
  · split at h
    · cases h
      exact Nat.le_refl _
    · cases h
      exact Nat.le_refl _
  · cases h
    exact Nat.le_add_right _ _

namespace Worker

variable {w w' : Worker} {s s' : Shared} {t : WorkerTurn} {signals : List Signal}

/-- Nor does a step of a worker. -/
theorem Steps.clock_le (h : w.Steps s w' s') : s.clock ≤ s'.clock := by
  cases h with
  | drives hstage hengine hturn hid hdrives =>
    have hclock := Engine.clock_le_turn hturn
    cases hdrives with
    | _ => exact hclock
  | finalizes hstage hengine hturn => exact Engine.clock_le_turn hturn
  | _ => exact Nat.le_refl _

/-! ### The phase of a stage -/

/-- The phase is `loading` while the robot is constructed, and `running` while the start routine
runs. -/
def stationPhase : Station → WorkerPhase
  | .run => .running
  | _ => .loading

/-- **The phase that belongs to a worker**, if one does. Between the end of the program and the end
of the session there is none. -/
def phase? (w : Worker) : Option WorkerPhase :=
  match w.stage with
  | .start | .publish => some .pending
  | .load | .markRunning _ => some .loading
  | .drive => (w.engine.bind (·.task.station?)).map stationPhase
  | .enter _ => some .running
  | .requestExit _ | .done _ => some .finished
  | _ => none

/-- The program is over, and the slot is about to be finished. -/
def Stage.isClosing : Stage → Bool
  | .closeInbox _ | .closeEngine _ | .recordClose _ | .report _ | .sendError _ | .finish _ => true
  | _ => false

/-- **Where a panic leads.** One that comes up while the program is driven is caught, and one that
comes up elsewhere goes on beyond the session; but in any case the slot is finished. -/
inductive Stage.Unwinds : Stage → Stage → Prop
  | caught {stage : Stage} (h : stage.isUnderway = true) (p : Payload) :
      Unwinds stage (.closeInbox (.failed (.panicked (Payload.shown p))))
  | uncaught {stage : Stage} (h : stage.hasTold = false) (p : Payload) :
      Unwinds stage (.finish (.panicked p))

theorem Stage.Unwinds.isClosing {stage stage' : Stage} (h : stage.Unwinds stage') :
    stage.hasTold = false ∧ stage'.isClosing = true := by
  cases h with
  | caught hunderway =>
    refine ⟨?_, rfl⟩
    cases stage with
    | load | drive | markRunning r | enter r => rfl
    | _ => cases hunderway
  | uncaught htold => exact ⟨htold, rfl⟩

/-- What closes goes on closing until the slot is finished. -/
theorem Steps.isClosing (h : w.Steps s w' s') (hclosing : w.stage.isClosing = true)
    (hrings : w.stage.rings = false) : w'.stage.isClosing = true := by
  cases h with
  | passesOver hengine hover =>
    generalize w.stage = stage at hover hclosing
    cases hover with
    | closeInbox | closeEngine => rfl
    | _ => cases hclosing
  | closes hstage hengine hid hnext | finalizes hstage hengine hturn hid hnext =>
    rcases hnext with rfl | rfl
    · rfl
    · rfl
  | counts | fails | succeeds | tells | panics => rfl
  -- the step that rings leaves the closing, all others go on in it
  | finishes hstage =>
    rw [hstage] at hrings
    cases hrings
  | cannotOpen hstage | opens hstage | publishes hstage | loads hstage | cannotLoad hstage
  | drives hstage | marks hstage | enters hstage | asksExit hstage =>
    rw [hstage] at hclosing
    cases hclosing

/-- The worker has an engine at the stages that need one, and drives it at a station. -/
def Equipped (w : Worker) : Prop :=
  match w.stage with
  | .publish | .load | .markRunning _ | .enter _ => w.engine.isSome = true
  | .drive => ∃ e st, w.engine = some e ∧ e.task.station? = some st
  | _ => True

/-- **The slot shows where the worker is.** -/
structure Shows (w : Worker) (s : Shared) : Prop where
  equipped : w.Equipped
  phase : ∀ p, w.phase? = some p → s.slot.phase = p
  unfinished : w.stage.isClosing = true → s.slot.phase ≠ .finished

namespace Shows

/-- What leaves the slot alone. -/
theorem alike (h : Shows w s) (hslot : s'.slot = s.slot) : Shows w s' := by
  refine ⟨h.equipped, ?_, ?_⟩
  · rw [hslot]
    exact h.phase
  · rw [hslot]
    exact h.unfinished

theorem logged (h : Shows w s) (panic : Option Payload) : Shows (w.logged panic) s := by
  obtain ⟨path, interval, engine, stage⟩ := w
  cases stage with
  | drive =>
    obtain ⟨e, st, rfl, hstation⟩ := h.equipped
    exact ⟨⟨e.logged panic, st, rfl, hstation⟩, h.phase, h.unfinished⟩
  | publish | load | markRunning r | enter r =>
    exact ⟨Option.isSome_map.trans h.equipped, h.phase, h.unfinished⟩
  | _ => exact ⟨trivial, h.phase, h.unfinished⟩

theorem of_isClosing (hclosing : w.stage.isClosing = true) (hphase : s.slot.phase ≠ .finished) :
    Shows w s := by
  obtain ⟨path, interval, engine, stage⟩ := w
  cases stage with
  | closeInbox | closeEngine | recordClose | report | sendError | finish =>
    exact ⟨trivial, nofun, fun _ => hphase⟩
  | _ => cases hclosing

theorem of_station {path : ByteArray} {interval : Nat} {e : Engine} {st : Station}
    (hstation : e.task.station? = some st) (hphase : s.slot.phase = stationPhase st) :
    Shows ⟨path, interval, some e, .drive⟩ s := by
  refine ⟨⟨e, st, rfl, hstation⟩, fun p hp => ?_, fun hclosing => Bool.noConfusion hclosing⟩
  change (e.task.station?).map stationPhase = some p at hp
  rw [hstation] at hp
  exact hphase.trans (Option.some.inj hp)

/-- Before the last two stages the slot is not finished. -/
theorem ne_finished (h : Shows w s) (hstage : w.stage.hasTold = false) :
    s.slot.phase ≠ .finished := by
  -- a stage that fixes the phase fixes it to another one
  have hof {p : WorkerPhase} (hphase : w.phase? = some p) (hp : p ≠ .finished) :
      s.slot.phase ≠ .finished := by
    rw [h.phase p hphase]
    exact hp
  obtain ⟨path, interval, engine, stage⟩ := w
  cases stage with
  | start | publish => exact hof (p := .pending) rfl nofun
  | load | markRunning => exact hof (p := .loading) rfl nofun
  | enter => exact hof (p := .running) rfl nofun
  | drive =>
    -- while a script is driven, the phase is that of its station
    obtain ⟨e, st, rfl, hstation⟩ := h.equipped
    refine hof (p := stationPhase st) (congrArg (Option.map stationPhase) hstation) ?_
    cases st with
    | _ => exact nofun
  | requestExit | done => cases hstage
  | _ => exact h.unfinished rfl

/-- A worker that a panic has sent elsewhere. -/
theorem unwinds {stage : Stage} (h : Shows w s) (hunwinds : w.stage.Unwinds stage) :
    Shows { w with stage } s :=
  of_isClosing hunwinds.isClosing.2 (h.ne_finished hunwinds.isClosing.1)

/-- **Every step** keeps this. -/
theorem step (h : Shows w s) (hgo : w.result? = none) (hstep : w.step s = (t, w', s', signals)) :
    Shows w' s' := by
  have hsteps := steps hgo hstep
  have hkeeps := hsteps.phase
  have hopen := h.ne_finished
  obtain ⟨path, interval, engine, stage⟩ := w
  cases stage with
  | start =>
    have hphase : s.slot.phase = .pending := h.phase _ rfl
    unfold Worker.step at hstep
    dsimp only at hstep
    split at hstep
    · cases hstep
      exact .of_isClosing rfl (hopen rfl)
    · cases hstep
      exact ⟨rfl, fun p hp => hphase.trans (Option.some.inj hp), nofun⟩
  | publish =>
    obtain ⟨e, rfl⟩ := Option.isSome_iff_exists.mp h.equipped
    cases hstep
    exact ⟨rfl, fun p hp => Option.some.inj hp, nofun⟩
  | load =>
    obtain ⟨e, rfl⟩ := Option.isSome_iff_exists.mp h.equipped
    unfold Worker.step at hstep
    dsimp only at hstep
    split at hstep
    · rename_i e' hload
      cases hstep
      exact .of_station (Engine.report?_of_loadFile hload).2.1 (h.phase .loading rfl)
    · cases hstep
      exact .of_isClosing rfl (hopen rfl)
  | drive =>
    obtain ⟨e, st, rfl, hstation⟩ := h.equipped
    have hphase : s.slot.phase = stationPhase st :=
      h.phase _ (congrArg (Option.map stationPhase) hstation)
    have hdrives := drives (w := ⟨path, interval, some e, .drive⟩) rfl rfl hstation hstep
    generalize Worker.report? _ s = report at hdrives
    cases hdrives with
    | goesOn htask hid ha hjob =>
      exact .of_station (htask ▸ hstation) ((congrArg Slot.phase ha.slot).trans hphase)
    | passes next hr hpass hnext hst hrun hstation' hid hdue =>
      refine .of_station hstation' (hphase.trans ?_)
      cases st with
      | run => exact absurd rfl hst
      | _ =>
        cases next with
        | run => exact absurd rfl hrun
        | _ => rfl
    | ready robot hr hpass hst hid hrests hjob =>
      subst hst
      exact ⟨rfl, fun p hp => hphase.trans (Option.some.inj hp), nofun⟩
    | returns hr hpass hst hid => exact .of_isClosing rfl (hopen rfl)
    | fails hr hfails hid => exact .of_isClosing rfl (hopen rfl)
  | markRunning r =>
    cases hstep
    exact ⟨h.equipped, fun p hp => Option.some.inj hp, nofun⟩
  | enter r =>
    obtain ⟨e, rfl⟩ := Option.isSome_iff_exists.mp h.equipped
    cases hstep
    exact .of_station rfl (h.phase .running rfl)
  | finish result =>
    cases hstep
    exact ⟨trivial, fun p hp => Option.some.inj hp, nofun⟩
  | requestExit result =>
    cases hstep
    exact ⟨trivial, h.phase, nofun⟩
  | done result => cases hgo
  | _ =>
    -- nothing is written while the session is closed
    refine .of_isClosing (hsteps.isClosing rfl rfl) ?_
    rw [hkeeps rfl]
    exact h.unfinished rfl

/-- **A phase that is written** is a later one, and belongs to the worker from then on. -/
theorem rings (h : Shows w s) (hgo : w.result? = none) (hstep : w.step s = (t, w', s', signals))
    (hrings : w.stage.rings = true) :
    s.slot.phase.rank < s'.slot.phase.rank ∧ w'.phase? = some s'.slot.phase := by
  obtain ⟨path, interval, engine, stage⟩ := w
  cases stage with
  | publish =>
    have hphase : s.slot.phase = .pending := h.phase _ rfl
    obtain ⟨e, rfl⟩ := Option.isSome_iff_exists.mp h.equipped
    cases hstep
    rw [hphase]
    exact ⟨Nat.zero_lt_one, rfl⟩
  | markRunning r =>
    have hphase : s.slot.phase = .loading := h.phase _ rfl
    cases hstep
    rw [hphase]
    exact ⟨Nat.one_lt_two, rfl⟩
  | finish result =>
    have hphase := h.unfinished rfl
    cases hstep
    -- whatever the phase was, it has not been the last one
    exact ⟨WorkerPhase.rank_lt_finished hphase, rfl⟩
  | _ => cases hrings

end Shows
end Worker
end RobotSession
