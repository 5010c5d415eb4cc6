import RobotSession.Program.Execution
import RobotSession.Proofs.Bridge.Extent
import RobotSession.Proofs.Bridge.Waiting
import RobotSession.Proofs.Lua.Trail

/-!
# Executions as interleavings

A process lets the threads of its session take turns, answers each line of the log at once, and
moves the clock on when nobody can go on. Seen from the session this is one of the interleavings
that there can be, so what holds in all of them holds in a process.

* `Worker.stage_of_logging` — when a program may wait for the log.
* `Execution.Comes` — the states to which a process may come, whoever takes the next turn.
* `Execution.Leads` — how often the program has gone on along the way.
* `Execution.comes_run` — a process that is run comes to such a state.
-/

namespace RobotSession

open Lua

/-! ### Waiting for the log -/

/-- An engine that has just given a line to the log waits for the answer. -/
theorem Engine.logging?_of_turn {e e' : Engine} {s s' : Shared} {line : String}
    {signals : List Signal} (h : e.turn s = (.log line, e', s', signals)) :
    e'.logging? = some line := by
  obtain ⟨id, machine, task, openedAt⟩ := e
  unfold Engine.turn at h
  dsimp only at h
  split at h
  · rename_i w hmode
    -- a turn ends with a line only if that is what the machine asks to be written
    cases hquestion : w.question with
    | log line' =>
      rw [hquestion] at h
      cases h
      simp only [Engine.logging?, hmode, hquestion]
    | wait deadline =>
      rw [hquestion] at h
      unfold Engine.serve at h
      dsimp only at h
      split at h
      · cases h
      · cases h
    | _ =>
      rw [hquestion] at h
      cases h
  · split at h
    · cases h
    · cases h
  · cases h

/-- An engine that waits for the log tells the line again. -/
theorem Engine.turn_of_logging {e : Engine} {line : String} (h : e.logging? = some line)
    (s : Shared) : e.turn s = (.log line, e, s, []) := by
  obtain ⟨id, machine, task, openedAt⟩ := e
  unfold Engine.logging? at h
  dsimp only at h
  split at h
  · rename_i w hmode
    -- a machine that waits for the line to be written makes no step
    have hwaiting : machine.isWaiting = true := by
      unfold Machine.isWaiting
      rw [hmode]
    split at h
    · rename_i line' hquestion
      obtain rfl := Option.some.inj h
      unfold Engine.turn
      dsimp only
      rw [Machine.advance_of_isWaiting hwaiting]
      simp only [hmode, hquestion, Engine.serve]
    · cases h
  · cases h

namespace Worker

variable {w w' : Worker} {s s₀ s' : Shared} {t : WorkerTurn} {signals : List Signal}
  {line : String} {happened : List SessionDeed}

/-- A worker in its session is a worker among threads that post calls. -/
theorem Hosted.visited {x y : Worker × Shared} {l : SessionDeed} (h : Hosted x l y) :
    Visited x l.ofWorker y := by
  cases h with
  | step hgo hquiet hstep => exact .step hgo hstep
  | logged panic hgo hlog => exact .logged panic
  | host hl hdiagnostics =>
    -- what the host is told touches no inbox
    rcases hl with ⟨rfl, -⟩ | rfl
    · exact .others (Nat.le_refl _) fun _ _ => rfl
    · exact .others (Nat.le_refl _) fun _ _ => rfl
  | asksEnd hhandle => exact .post _ .finish
  | clock hle => exact .others (Nat.le_refl _) fun _ _ => rfl

theorem run_visited {x y : Worker × Shared} (hrun : Run Hosted x happened y) :
    Run Visited x (happened.map SessionDeed.ofWorker) y := by
  induction hrun with
  | refl => exact .refl
  | tail run step ih =>
    rw [List.map_append]
    exact .tail ih step.visited

/-- An engine that has ended gives no line to the log. -/
theorem logging?_of_idle {e : Engine} (h : e.Sound) (hidle : e.task = .idle) :
    e.logging? = none := by
  obtain ⟨result, hmode⟩ := h.idle hidle
  simp only [Engine.logging?, hmode]

/-- **A program waits for the log only while its engine runs**: on the way to its end, or when its
finalizers run. -/
theorem stage_of_logging {path : ByteArray} {interval : Nat}
    (hrun : Run Hosted ({ path, interval }, s₀) happened (w, s)) (hlog : w.logging? = some line) :
    w.stage = .drive ∨ ∃ result, w.stage = .closeEngine result := by
  obtain ⟨e, hengine, hline⟩ := Option.bind_eq_some_iff.mp hlog
  have hattended := attended_run (x := ({ path, interval }, s₀))
    (fun e hmem => absurd hmem (Option.not_mem_none e)) (run_visited hrun) e hengine
  have hidle : e.task ≠ .idle := by
    intro hidle
    rw [logging?_of_idle hattended.engine.sound hidle] at hline
    cases hline
  -- at every other stage the engine is idle, or there is none
  have hadmits := hattended.admits
  generalize w.stage = stage at hadmits
  cases stage with
  | drive => exact .inl rfl
  | closeEngine result => exact .inr ⟨result, rfl⟩
  | publish => exact absurd hadmits.1 hidle
  | load => exact absurd hadmits.1 hidle
  | markRunning r => exact absurd hadmits hidle
  | enter r => exact absurd hadmits hidle
  | closeInbox result => exact absurd hadmits hidle
  | _ => exact hadmits.elim

/-- A worker that drives its engine is not over. -/
theorem result?_of_drives (hstage : w.stage = .drive ∨ ∃ result, w.stage = .closeEngine result) :
    w.result? = none := by
  unfold result?
  rcases hstage with hdrive | ⟨result, hclose⟩
  · rw [hdrive]
  · rw [hclose]

/-- **The turn of an engine that a worker passes on** to its thread. -/
def passedOn : WorkerTurn → Turn
  | .going => .going
  | .blocked deadline => .blocked deadline
  | .log line => .log line
  | .exit code => .exit code

/-- A worker that drives its engine passes its turn on. -/
theorem step_of_turn {e e' : Engine} (hengine : w.engine = some e)
    (hstage : w.stage = .drive ∨ ∃ result, w.stage = .closeEngine result)
    (hturn : e.turn s = (passedOn t, e', s', signals)) :
    w.step s = (t, { w with engine := some e' }, s', signals) := by
  -- only two stages pass an engine's turn on
  obtain ⟨path, interval, engine, stage⟩ := w
  obtain rfl : engine = some e := hengine
  rcases hstage with hdrive | ⟨result, hclose⟩
  · obtain rfl : stage = .drive := hdrive
    unfold step drive
    dsimp only
    rw [hturn]
    cases t with
    | _ => rfl
  · obtain rfl : stage = .closeEngine result := hclose
    unfold step finalize
    dsimp only
    rw [hturn]
    cases t with
    | _ => rfl

/-- **A worker waits, logs or ends the process only as its engine does**, on the way to its end or
when its finalizers run. -/
theorem turn_of_step (hstep : w.step s = (t, w', s', signals)) (ht : t ≠ .going) :
    ∃ e e', w.engine = some e ∧ w' = { w with engine := some e' }
      ∧ (w.stage = .drive ∨ ∃ result, w.stage = .closeEngine result)
      ∧ e.turn s = (passedOn t, e', s', signals) := by
  obtain ⟨path, interval, engine, stage⟩ := w
  unfold step at hstep
  -- any other stage is done within one step, so it answers `going`
  cases stage with
  | drive =>
    cases engine with
    | none =>
      cases hstep
      exact absurd rfl ht
    | some e =>
      unfold drive at hstep
      rcases hturn : e.turn s with ⟨t₀, e₀, s₀, signals₀⟩
      dsimp only at hstep
      rw [hturn] at hstep
      cases t₀ with
      | completed c =>
        cases c with
        | _ =>
          cases hstep
          exact absurd rfl ht
      | _ =>
        cases hstep
        exact ⟨e, e₀, rfl, rfl, .inl rfl, hturn⟩
  | closeEngine result =>
    cases engine with
    | none =>
      cases hstep
      exact absurd rfl ht
    | some e =>
      unfold finalize at hstep
      rcases hturn : e.turn s with ⟨t₀, e₀, s₀, signals₀⟩
      dsimp only at hstep
      rw [hturn] at hstep
      cases t₀ with
      | completed c =>
        cases hstep
        exact absurd rfl ht
      | _ =>
        cases hstep
        exact ⟨e, e₀, rfl, rfl, .inr ⟨result, rfl⟩, hturn⟩
  | load =>
    cases engine with
    | none =>
      cases hstep
      exact absurd rfl ht
    | some e =>
      dsimp only at hstep
      split at hstep
      · cases hstep
        exact absurd rfl ht
      · cases hstep
        exact absurd rfl ht
  | start =>
    dsimp only at hstep
    split at hstep
    · cases hstep
      exact absurd rfl ht
    · cases hstep
      exact absurd rfl ht
  | publish | closeInbox =>
    cases engine with
    | _ =>
      cases hstep
      exact absurd rfl ht
  | report result =>
    cases result with
    | _ =>
      cases hstep
      exact absurd rfl ht
  | _ =>
    cases hstep
    exact absurd rfl ht

/-- A worker that waits for the log does nothing else. -/
theorem step_of_logging (hlog : w.logging? = some line)
    (hstage : w.stage = .drive ∨ ∃ result, w.stage = .closeEngine result) (s : Shared) :
    w.step s = (.log line, w, s, []) := by
  obtain ⟨e, hengine, hline⟩ := Option.bind_eq_some_iff.mp hlog
  rw [step_of_turn (t := .log line) hengine hstage (Engine.turn_of_logging hline s), ← hengine]

/-- A worker that has just given a line to the log waits for the answer, and is not over. -/
theorem logging?_of_step (h : w.step s = (.log line, w', s', signals)) :
    w'.logging? = some line ∧ w'.result? = none := by
  obtain ⟨e, e', -, rfl, hstage, hturn⟩ := turn_of_step h nofun
  exact ⟨Engine.logging?_of_turn hturn, result?_of_drives hstage⟩

/-- Either the log has answered, or the next step only waits for it. -/
theorem step_cases_of_logging (hstage : ∀ line, w.logging? = some line →
      w.stage = .drive ∨ ∃ result, w.stage = .closeEngine result)
    (hstep : w.step s = (t, w', s', signals)) :
    w.logging? = none
      ∨ ∃ line, w.logging? = some line ∧ t = .log line ∧ w = w' ∧ s = s' ∧ signals = [] := by
  cases hlog : w.logging? with
  | none => exact .inl rfl
  -- a line to log is answered before anything else happens
  | some line =>
    have hsame := hstep.symm.trans (step_of_logging hlog (hstage line hlog) s)
    cases hsame
    exact .inr ⟨line, rfl, rfl, rfl, rfl, rfl⟩

end Worker

/-- In its thread a worker gives a line to the log when it does so by itself. -/
theorem WorkerTurn.eq_log {turn : WorkerTurn} {line : String} (h : turn.inThread = .log line) :
    turn = .log line := by
  cases turn with
  | log line' =>
    cases h
    rfl
  | _ => cases h

namespace Threads

variable {t : Threads} {w w' : Worker} {s s' : Shared} {turn : WorkerTurn} {signals : List Signal}

theorem workerStep_eq (hworker : t.worker = some w) (hgo : w.result? = none)
    (hstep : w.step s = (turn, w', s', signals)) :
    t.workerStep s = (turn.inThread,
      { t with
        worker := some w'
        askedExit := t.askedExit || signals.any fun g => g matches .host .requestExit },
      s', signals) := by
  obtain ⟨controller, worker, askedExit⟩ := t
  obtain rfl : worker = some w := hworker
  unfold workerStep
  dsimp only
  rw [hgo, hstep]
  rfl

theorem workerStep_of_over (hover : ∀ w, t.worker = some w → w.result? ≠ none) (s : Shared) :
    t.workerStep s = (.ended, t, s, []) := by
  obtain ⟨controller, worker, askedExit⟩ := t
  cases worker with
  | none => rfl
  | some w =>
    unfold workerStep
    dsimp only
    rw [if_pos (Option.isSome_iff_ne_none.mpr (hover w rfl))]

theorem controllerStep_inline (hown : t.inline? = some w)
    (hstep : w.step s = (turn, w', s', signals)) (released : Bool) :
    t.controllerStep s released = (turn.inThread,
      { t with controller := { t.controller with stage := .inline_ w' } }, s', signals) := by
  obtain ⟨hstage, hgo⟩ := inline?_eq_some hown
  obtain ⟨⟨path, config, linger, stage, transitions, endRequest⟩, worker, askedExit⟩ := t
  obtain rfl : stage = .inline_ w := hstage
  unfold controllerStep Controller.step
  dsimp only [Controller.result?]
  rw [hgo]
  dsimp only
  rw [hstep]
  rfl

/-- Only a step of the program gives a line to the log. -/
theorem controllerStep_ne_log {t' : Threads} {turn : ThreadTurn} {released : Bool}
    (hown : t.inline? = none) (hstep : t.controllerStep s released = (turn, t', s', signals))
    (line : String) : turn ≠ .log line := by
  obtain ⟨controller, worker, askedExit⟩ := t
  unfold controllerStep at hstep
  dsimp only at hstep
  split at hstep
  · cases hstep
    exact nofun
  · rcases hcstep : controller.step s (view worker askedExit released) with ⟨turn', c, s₁, signals₁⟩
    rw [hcstep] at hstep
    cases turn' with
    | inline_ turn₁ =>
      -- a line comes from the program that the controller runs itself, and there is none
      obtain ⟨w, hstage, hresult⟩ := Controller.stage_of_inline hcstep
      unfold inline? at hown
      dsimp only at hown
      rw [hstage] at hown
      dsimp only at hown
      rw [hresult] at hown
      cases hown
    | _ =>
      cases hstep
      exact nofun

theorem controllerStep_of_over (hover : t.controller.result? ≠ none) (s : Shared)
    (released : Bool) : t.controllerStep s released = (.ended, t, s, []) := by
  obtain ⟨controller, worker, askedExit⟩ := t
  unfold controllerStep
  dsimp only
  rw [if_pos (Option.isSome_iff_ne_none.mpr hover)]

end Threads

/-- The program goes on: it takes a step at which it does not have to wait, or is answered by the
log. -/
def SessionDeed.goesOn : SessionDeed → Bool
  | .program w s => !(w.step s).1.inThread.isBlocked
  | .logged .. => true
  | _ => false

namespace Execution

variable {p : Execution} {happened : List SessionDeed}

/-! ### Turns -/

/-- Taking note of something changes neither the threads nor what they share, and ends nothing. -/
theorem note_frame (p : Execution) (inSession : Bool) (signal : Signal) :
    (p.note inSession signal).threads = p.threads
      ∧ (p.note inSession signal).shared = p.shared
      ∧ (p.note inSession signal).exited = p.exited := by
  -- a signal becomes a call of the host, a record or some output, and none of them is the threads'
  -- concern
  cases signal with
  | record r =>
    unfold note write
    dsimp only
    split
    · exact ⟨rfl, rfl, rfl⟩
    · exact ⟨rfl, rfl, rfl⟩
  | host c => exact ⟨rfl, rfl, rfl⟩
  | output toError text =>
    cases toError with
    | true => exact ⟨rfl, rfl, rfl⟩
    | false => exact ⟨rfl, rfl, rfl⟩

theorem notes_frame (inSession : Bool) (signals : List Signal) (p : Execution) :
    (signals.foldl (note · inSession) p).threads = p.threads
      ∧ (signals.foldl (note · inSession) p).shared = p.shared
      ∧ (signals.foldl (note · inSession) p).exited = p.exited := by
  induction signals generalizing p with
  | nil => exact ⟨rfl, rfl, rfl⟩
  | cons signal signals ih =>
    obtain ⟨hthreads, hshared, hexited⟩ := ih (p.note inSession signal)
    obtain ⟨hthreads', hshared', hexited'⟩ := p.note_frame inSession signal
    exact ⟨hthreads.trans hthreads', hshared.trans hshared', hexited.trans hexited'⟩

/-- **The turn of a thread as the process takes it**: a line is written at once, and the thread goes
on. -/
def answered : ThreadTurn → ThreadTurn
  | .log _ => .going
  | turn => turn

theorem answered_of_ne_log {turn : ThreadTurn} (h : ∀ line, turn ≠ .log line) :
    answered turn = turn := by
  cases turn with
  | log line => exact absurd rfl (h line)
  | _ => rfl

/-- A step of the worker's thread in a process: the log answers at once. -/
theorem workerStep_cases {t : ThreadTurn} {threads : Threads} {shared : Shared}
    {signals : List Signal} (h : p.threads.workerStep p.shared = (t, threads, shared, signals)) :
    p.workerStep.1 = answered t ∧ p.workerStep.2.exited = p.exited
      ∧ p.workerStep.2.shared = shared
      ∧ ((∃ line, t = .log line ∧ p.workerStep.2.threads = threads.workerLogged none)
        ∨ (∀ line, t ≠ .log line) ∧ p.workerStep.2.threads = threads) := by
  obtain ⟨shared₀, threads₀, log, out, err, exited, isInterrupted⟩ := p
  unfold workerStep
  dsimp only at h ⊢
  rw [h]
  dsimp only
  obtain ⟨hthreads, hshared, hexited⟩ :=
    notes_frame true signals { shared, threads, log, out, err, exited, isInterrupted }
  -- the line is logged at once, and nobody listens who could panic
  cases t with
  | log line =>
    refine ⟨rfl, ?_, ?_, .inl ⟨line, rfl, ?_⟩⟩
    · exact hexited
    · exact hshared
    · dsimp only
      rw [hthreads]
  | _ => exact ⟨rfl, hexited, hshared, .inr ⟨nofun, hthreads⟩⟩

/-- A step of the controller's thread in a process: the log answers at once. -/
theorem controllerStep_cases {t : ThreadTurn} {threads : Threads} {shared : Shared}
    {signals : List Signal}
    (h : p.threads.controllerStep p.shared true = (t, threads, shared, signals)) :
    p.controllerStep.1 = answered t ∧ p.controllerStep.2.exited = p.exited
      ∧ p.controllerStep.2.shared = shared
      ∧ ((∃ line, t = .log line ∧ p.controllerStep.2.threads = threads.controllerLogged none)
        ∨ (∀ line, t ≠ .log line) ∧ p.controllerStep.2.threads = threads) := by
  obtain ⟨shared₀, threads₀, log, out, err, exited, isInterrupted⟩ := p
  unfold controllerStep
  dsimp only at h ⊢
  rw [h]
  dsimp only
  obtain ⟨hthreads, hshared, hexited⟩ := notes_frame (isInline threads₀.controller) signals
    { shared, threads, log, out, err, exited, isInterrupted }
  cases t with
  | log line =>
    refine ⟨rfl, ?_, ?_, .inl ⟨line, rfl, ?_⟩⟩
    · exact hexited
    · exact hshared
    · dsimp only
      rw [hthreads]
  | _ => exact ⟨rfl, hexited, hshared, .inr ⟨nofun, hthreads⟩⟩

/-! ### Interleavings -/

/-- **A state to which a process may come**, whoever takes the next turn: an interleaving of its
session leads there. -/
def Comes (p q : Execution) : Prop :=
  ∃ happened, Run Threads.Move (p.threads, p.shared) happened (q.threads, q.shared)

theorem Comes.refl (p : Execution) : p.Comes p :=
  ⟨[], .refl⟩

theorem Comes.trans {q r : Execution} (h : p.Comes q) (h' : q.Comes r) : p.Comes r := by
  obtain ⟨first, hfirst⟩ := h
  obtain ⟨later, hlater⟩ := h'
  exact ⟨first ++ later, hfirst.trans hlater⟩

/-- A process that has not begun yet, with a host that works and whose main loop waits for the exit
alone. -/
structure Begins (p : Execution) : Prop where
  stage : p.threads.controller.stage = .start
  worker : p.threads = { controller := p.threads.controller }
  code : p.shared.host.initCode = 0
  linger : p.threads.controller.linger = .none

variable {q : Execution}

/-- **A process leads to a state**, and its program goes on at least so many times on the way. -/
def Leads (p q : Execution) (times : Nat) : Prop :=
  ∃ happened, Run Threads.Move (p.threads, p.shared) happened (q.threads, q.shared)
    ∧ times ≤ happened.countP SessionDeed.goesOn

theorem Leads.comes {times : Nat} (h : p.Leads q times) : p.Comes q :=
  ⟨h.choose, h.choose_spec.1⟩

theorem Comes.leads (h : p.Comes q) : p.Leads q 0 :=
  ⟨h.choose, h.choose_spec, Nat.zero_le _⟩

theorem Leads.trans {r : Execution} {times later : Nat} (h : p.Leads q times)
    (h' : q.Leads r later) : p.Leads r (times + later) := by
  obtain ⟨first, hfirst, htimes⟩ := h
  obtain ⟨rest, hrest, hlater⟩ := h'
  refine ⟨first ++ rest, hfirst.trans hrest, ?_⟩
  rw [List.countP_append]
  exact Nat.add_le_add htimes hlater

theorem leads_of_run {r : Execution} {happened : List SessionDeed} {t : Threads} {s : Shared}
    {times : Nat} (hthreads : r.threads = t) (hshared : r.shared = s)
    (hrun : Run Threads.Move (q.threads, q.shared) happened (t, s))
    (htimes : times ≤ happened.countP SessionDeed.goesOn) : q.Leads r times := by
  refine ⟨happened, ?_, htimes⟩
  rw [hthreads, hshared]
  exact hrun

/-- How often the program goes on in a turn. -/
def gain : ThreadTurn → Nat
  | .going => 1
  | _ => 0

theorem gain_le_one (turn : ThreadTurn) : gain turn ≤ 1 := by
  cases turn with
  | going => exact Nat.le_refl 1
  | _ => exact Nat.zero_le 1

/-- A turn that ends with an answer of the log is one in which the program goes on. -/
theorem gain_le_of_logged (turn : ThreadTurn) {happened : List SessionDeed} {line : String}
    {panic : Option Payload} (h : .logged line panic ∈ happened) :
    gain turn ≤ happened.countP SessionDeed.goesOn :=
  Nat.le_trans (gain_le_one turn) (List.countP_pos_iff.mpr ⟨_, h, rfl⟩)

/-- A step of the program at which it does not have to wait is one at which it goes on. -/
theorem gain_le_of_step {w w' : Worker} {s s' : Shared} {turn : WorkerTurn} {signals : List Signal}
    (hstep : w.step s = (turn, w', s', signals)) :
    gain turn.inThread ≤ [SessionDeed.program w s].countP SessionDeed.goesOn := by
  cases turn with
  | going =>
    refine List.countP_pos_iff.mpr ⟨_, List.mem_singleton_self _, ?_⟩
    change (!(w.step s).1.inThread.isBlocked) = true
    rw [hstep]
    rfl
  | _ => exact Nat.zero_le _

/-- In a state that has been reached, the program waits for the log only while its engine runs. -/
theorem Comes.stage_of_logging (h : p.Comes q) (hp : p.Begins) : ∃ w, q.threads.Carries w
    ∧ ∀ line, w.logging? = some line →
      w.stage = .drive ∨ ∃ result, w.stage = .closeEngine result := by
  obtain ⟨happened, hrun⟩ := h
  rw [hp.worker] at hrun
  obtain ⟨w, hw, hhosted⟩ := Threads.run_hosted hp.stage hp.code hrun
  exact ⟨w, hw, fun line => Worker.stage_of_logging hhosted⟩

/-- **A turn of the worker's thread** is a move of the session, with one of the log if it is given
a line. -/
theorem leads_workerStep (h : p.Comes q) (hp : p.Begins) :
    q.Leads q.workerStep.2 (gain q.workerStep.1) := by
  obtain ⟨w, hw, hlogging⟩ := h.stage_of_logging hp
  by_cases hgoes : ∃ w, q.threads.worker = some w ∧ w.result? = none
  · obtain ⟨w₁, hworker, hgo⟩ := hgoes
    obtain ⟨rfl, -, -⟩ := hw.of_worker hworker
    rcases hstep : w.step q.shared with ⟨turn, w', s', signals⟩
    have hturn := Threads.workerStep_eq hworker hgo hstep
    obtain ⟨hanswered, -, hshared, hcase⟩ := workerStep_cases hturn
    rw [hanswered]
    rcases Worker.step_cases_of_logging hlogging hstep with
      hquiet | ⟨line, hlog, rfl, rfl, rfl, rfl⟩
    · have hmove := Threads.Move.worker hworker hgo hquiet hturn
      rcases hcase with ⟨line, hline, hthreads⟩ | ⟨hno, hthreads⟩
      · -- the step gives a line to the log, which answers at once
        obtain rfl := WorkerTurn.eq_log hline
        obtain ⟨hlog, hgo'⟩ := Worker.logging?_of_step hstep
        exact leads_of_run hthreads hshared
          ((Run.single hmove).trans (.single (.workerLogged none rfl hgo' hlog)))
          (gain_le_of_logged _ (List.mem_append_right _ (List.mem_singleton_self _)))
      · rw [answered_of_ne_log hno]
        exact leads_of_run hthreads hshared (.single hmove) (gain_le_of_step hstep)
    · -- the line was given before: the step changes nothing, and the log answers now
      rcases hcase with ⟨line', -, hthreads⟩ | ⟨hno, -⟩
      · have hsame : ({ q.threads with
            worker := some w
            askedExit := q.threads.askedExit
              || ([] : List Signal).any fun g => g matches .host .requestExit } : Threads)
            = q.threads := by
          rw [List.any_nil, Bool.or_false, ← hworker]
        rw [hsame] at hthreads
        exact leads_of_run hthreads hshared (.single (.workerLogged none hworker hgo hlog))
          (gain_le_of_logged _ (List.mem_singleton_self _))
      · exact absurd rfl (hno line)
  · -- there is no thread to go on
    have hover : ∀ w, q.threads.worker = some w → w.result? ≠ none :=
      fun w hworker hgo => hgoes ⟨w, hworker, hgo⟩
    obtain ⟨hanswered, -, hshared, hcase⟩ :=
      workerStep_cases (Threads.workerStep_of_over hover q.shared)
    rw [hanswered]
    rcases hcase with ⟨line, hline, -⟩ | ⟨-, hthreads⟩
    · cases hline
    · exact leads_of_run hthreads hshared .refl (Nat.zero_le _)

/-- **A step of the controller's own** is a move of the session. -/
theorem comes_ownStep (hown : q.threads.inline? = none) : q.Comes q.controllerStep.2 := by
  suffices h : q.Leads q.controllerStep.2 0 from h.comes
  -- before its end the turn is a move of the controller; afterwards it is no move at all
  by_cases hgo : q.threads.controller.result? = none
  · rcases hturn : q.threads.controllerStep q.shared true with ⟨turn, threads, shared, signals⟩
    obtain ⟨-, -, hshared, hcase⟩ := controllerStep_cases hturn
    rcases hcase with ⟨line, hline, -⟩ | ⟨-, hthreads⟩
    · exact absurd hline (Threads.controllerStep_ne_log hown hturn line)
    · exact leads_of_run hthreads hshared (.single (.controller true hgo hown hturn))
        (Nat.zero_le _)
  · obtain ⟨-, -, hshared, hcase⟩ :=
      controllerStep_cases (Threads.controllerStep_of_over hgo q.shared true)
    rcases hcase with ⟨line, hline, -⟩ | ⟨-, hthreads⟩
    · cases hline
    · exact leads_of_run hthreads hshared .refl (Nat.zero_le _)

/-- **A turn of a controller that runs the program itself** is a move of the session, with one of
the log if the program gives it a line. -/
theorem leads_inlineStep {w : Worker} (h : p.Comes q) (hp : p.Begins)
    (hown : q.threads.inline? = some w) :
    q.Leads q.controllerStep.2 (gain q.controllerStep.1) := by
  obtain ⟨w₁, hw, hlogging⟩ := h.stage_of_logging hp
  obtain ⟨hstage, hgo⟩ := Threads.inline?_eq_some hown
  -- the program of the start is the one that is inside
  obtain rfl : w₁ = w := by
    unfold Threads.Carries at hw
    rw [hstage] at hw
    exact hw.2
  rcases hstep : w₁.step q.shared with ⟨turn, w', s', signals⟩
  have hturn := Threads.controllerStep_inline hown hstep true
  obtain ⟨hanswered, -, hshared, hcase⟩ := controllerStep_cases hturn
  rw [hanswered]
  rcases Worker.step_cases_of_logging hlogging hstep with
    hquiet | ⟨line, hlog, rfl, rfl, rfl, rfl⟩
  · have hmove := Threads.Move.inline_ true hown hquiet hturn
    rcases hcase with ⟨line, hline, hthreads⟩ | ⟨hno, hthreads⟩
    · obtain rfl := WorkerTurn.eq_log hline
      obtain ⟨hlog, hgo'⟩ := Worker.logging?_of_step hstep
      -- the program has just asked for the line, and so it is not over
      have hown' : ({ q.threads with
          controller := { q.threads.controller with stage := .inline_ w' } } : Threads).inline?
          = some w' := by
        unfold Threads.inline?
        dsimp only
        rw [hgo']
        rfl
      exact leads_of_run hthreads hshared
        ((Run.single hmove).trans (.single (.inlineLogged none hown' hlog)))
        (gain_le_of_logged _ (List.mem_append_right _ (List.mem_singleton_self _)))
    · rw [answered_of_ne_log hno]
      exact leads_of_run hthreads hshared (.single hmove) (gain_le_of_step hstep)
  · rcases hcase with ⟨line', -, hthreads⟩ | ⟨hno, -⟩
    · -- a program that was waiting already has not changed
      have hsame : ({ q.threads with
          controller := { q.threads.controller with stage := .inline_ w₁ } } : Threads)
          = q.threads := by
        rw [← hstage]
      rw [hsame] at hthreads
      exact leads_of_run hthreads hshared (.single (.inlineLogged none hown hlog))
        (gain_le_of_logged _ (List.mem_singleton_self _))
    · exact absurd rfl (hno line)

/-- **A turn of the controller's thread** leads to a state of the session. -/
theorem comes_controllerStep (h : p.Comes q) (hp : p.Begins) : q.Comes q.controllerStep.2 := by
  cases hown : q.threads.inline? with
  | none => exact comes_ownStep hown
  | some w => exact (leads_inlineStep h hp hown).comes

/-! ### Whole runs -/

/-- **A step of a process** leads to a state to which it may come. -/
theorem comes_step (h : p.Comes q) (hp : p.Begins) : q.Comes q.step.2 := by
  have hcontroller := comes_controllerStep h hp
  have hworker := (leads_workerStep (h.trans hcontroller) hp).comes
  unfold step
  rcases hfirst : q.controllerStep with ⟨turn, q₁⟩
  rw [hfirst] at hcontroller hworker
  dsimp only at hcontroller hworker ⊢
  -- the worker has its turn only where the controller is blocked
  cases turn with
  | blocked first =>
    dsimp only
    rcases hsecond : q₁.workerStep with ⟨turn', q₂⟩
    rw [hsecond] at hworker
    cases turn' with
    | _ => exact hcontroller.trans hworker
  | _ => exact hcontroller

/-- Whoever interrupts a process asks its host to leave the main loop. -/
theorem comes_react (q : Execution) (calls : Entry → Bool) (since : Nat) :
    q.Comes (q.react calls since) := by
  unfold react interrupt
  split
  · split
    · exact ⟨[.exit], .single .exit⟩
    · exact .refl q
  · exact .refl q

/-- **A process that is run** comes to a state to which its session may come, and so do all those
on the way. -/
theorem comes_run (calls : Entry → Bool) (fuel : Nat) (h : p.Comes q) (hp : p.Begins) :
    p.Comes (q.run calls fuel) := by
  induction fuel generalizing q with
  | zero => exact h
  | succ fuel ih =>
    have hstep := h.trans (comes_step h hp)
    unfold run
    dsimp only
    -- each turn of the loop is a step of the session, and a reaction or a look at the clock
    split
    · rename_i q' heq
      rw [heq] at hstep
      exact ih (hstep.trans (comes_react q' calls q.log.size))
    · rename_i deadline q' heq
      rw [heq] at hstep
      have hclock : q'.Comes (q'.moveClock deadline) :=
        ⟨[.clock], .single (.clock (Nat.le_max_left _ _))⟩
      exact ih (hstep.trans hclock)
    · rename_i q' heq
      rw [heq] at hstep
      exact hstep
    · rename_i q' heq
      rw [heq] at hstep
      exact hstep

end Execution
end RobotSession
