import RobotSession.Proofs.Program.Execution

/-!
# Processes that are carried out

A process that is run with more and more turns comes to the end of its session, and further turns
change nothing; or it never does, and then its controller is left waiting for a program that goes
on for ever. There is no third way: a controller that does not wait has a step less to take with
every turn, and when everybody waits the clock is moved on to a deadline, at which somebody can go
on again.

* `Execution.IsOver` — the session is over, or the script has ended the process.
* `Execution.run_of_isOver` — further turns change nothing then.
* `Execution.Turned` — what a turn comes to before that.
* `Execution.ends_or_goesOn` — every process ends, or its program goes on for ever.
-/

namespace RobotSession

open Lua

/-! ### Waiting for the clock -/

/-- **An engine that waits goes on at its deadline**, whatever has become of its inbox. -/
theorem Engine.turn_of_blocked {e e' : Engine} {s s' later : Shared} {deadline : Nat}
    {signals : List Signal} (h : e.turn s = (.blocked deadline, e', s', signals))
    (hlater : deadline ≤ later.clock) :
    ∃ e'', e'.turn later = (.going, e'', later, []) := by
  obtain ⟨id, machine, task, openedAt⟩ := e
  unfold Engine.turn at h
  dsimp only at h
  split at h
  · rename_i w hmode
    cases hquestion : w.question with
    | wait time =>
      rw [hquestion] at h
      unfold Engine.serve at h
      dsimp only at h
      split at h
      · cases h
      · cases h
        -- the machine still asks the same question, and the clock answers it now
        have hwaiting : (machine.advance Engine.quantum).isWaiting = true := by
          unfold Machine.isWaiting
          rw [hmode]
        unfold Engine.turn
        dsimp only
        rw [Machine.advance_of_isWaiting hwaiting, hmode]
        dsimp only
        rw [hquestion]
        unfold Engine.serve
        dsimp only
        rw [if_pos (by rw [decide_eq_true hlater, Bool.or_true])]
        exact ⟨_, rfl⟩
    | _ =>
      rw [hquestion] at h
      cases h
  · split at h
    · cases h
    · cases h
  · cases h

/-- **A worker that waits goes on at its deadline.** -/
theorem Worker.step_of_blocked {w w' : Worker} {s s' : Shared} {deadline : Nat}
    {signals : List Signal} (h : w.step s = (.blocked deadline, w', s', signals)) (later : Shared)
    (hlater : deadline ≤ later.clock) :
    w'.result? = none ∧ (w'.step later).1 = .going := by
  obtain ⟨e, e', -, rfl, hstage, hturn⟩ := turn_of_step h nofun
  obtain ⟨e'', hgoes⟩ := Engine.turn_of_blocked hturn hlater
  have hstep := step_of_turn (t := .going) (w := { w with engine := some e' }) rfl hstage hgoes
  exact ⟨result?_of_drives hstage, congrArg Prod.fst hstep⟩

/-- A controller that is blocked until a time is blocked before it. -/
theorem Controller.Lacks.clock_lt {c : Controller} {s : Shared} {v : WorkerView} {deadline : Nat}
    (h : c.Lacks s v) (hstage : c.stage.deadline? = some deadline) : s.clock < deadline := by
  cases h with
  | finish hat hphase hclock =>
    rw [hat] at hstage
    cases hstage
    exact hclock
  | exit hat | release hat | thread hat =>
    rw [hat] at hstage
    cases hstage

namespace Threads

variable {t t' : Threads} {s s' : Shared} {released : Bool} {turn : ThreadTurn}
  {signals : List Signal} {happened : List SessionDeed}

/-- A controller that lacks something is blocked. -/
theorem IsBlocked.isBlocked_turn (h : t.IsBlocked s released)
    (hstep : t.controllerStep s released = (turn, t', s', signals)) : turn.isBlocked = true := by
  obtain ⟨⟨path, config, linger, stage, transitions, endRequest⟩, worker, askedExit⟩ := t
  unfold controllerStep Controller.step at hstep
  -- at each of the stages the test that it has just failed decides the step
  cases h with
  | mainLoop hstage hexit =>
    obtain rfl : stage = .mainLoop := hstage
    dsimp only [Controller.result?] at hstep
    rw [hexit] at hstep
    cases hstep
    rfl
  | linger hstage hheld =>
    obtain rfl : stage = .linger := hstage
    dsimp only [Controller.result?] at hstep hheld
    rw [hheld] at hstep
    cases hstep
    rfl
  | waitFinished hstage hphase hclock =>
    obtain rfl : stage = .waitFinished _ _ := hstage
    dsimp only [Controller.result?] at hstep
    rw [hphase, if_neg (Nat.not_le_of_lt hclock)] at hstep
    cases hstep
    rfl
  | join hstage hgo =>
    obtain rfl : stage = .join _ := hstage
    dsimp only [Controller.result?, view] at hstep
    rw [show worker.bind Worker.result? = none from hgo] at hstep
    cases hstep
    rfl

/-- What a controller lacks that is blocked, in terms of the threads. -/
theorem isBlocked_of_lacks (h : t.controller.Lacks s (view t.worker t.askedExit released)) :
    t.IsBlocked s released := by
  cases h with
  | exit hstage hexit => exact .mainLoop hstage hexit
  | release hstage hheld => exact .linger hstage hheld
  | finish hstage hphase hclock => exact .waitFinished hstage hphase hclock
  | thread hstage hgo => exact .join hstage (Option.map_eq_none_iff.mp hgo)

/-- The earlier of two deadlines is one of them. -/
theorem earlier_some (first : Option Nat) (second : Nat) :
    ∃ deadline, earlier first (some second) = some deadline
      ∧ (second ≤ deadline ∨ ∃ a, first = some a ∧ a ≤ deadline) := by
  cases first with
  | none => exact ⟨second, rfl, .inl (Nat.le_refl _)⟩
  | some a =>
    refine ⟨min a second, rfl, ?_⟩
    rcases Nat.le_total a second with hle | hle
    · exact .inr ⟨a, rfl, Nat.le_of_eq (Nat.min_eq_left hle).symm⟩
    · exact .inl (Nat.le_of_eq (Nat.min_eq_right hle).symm)

/-- **A controller that does not run the program goes on, or is blocked.** With each step that it
takes there is one less to take. -/
theorem ownStep_cases (hgo : t.controller.result? = none) (hown : t.inline? = none)
    (hstep : t.controllerStep s released = (turn, t', s', signals)) :
    (turn = .blocked t.controller.stage.deadline? ∧ t' = t ∧ s' = s
        ∧ t.controller.Lacks s (view t.worker t.askedExit released))
      ∨ turn = .going ∧ t'.controller.stage.left < t.controller.stage.left := by
  cases hblocked : turn.isBlocked with
  | true =>
    obtain ⟨rfl, rfl, hturn, hlacks⟩ := lacks_of_blocked hgo hown hstep hblocked
    exact .inl ⟨hturn, rfl, rfl, hlacks⟩
  | false =>
    have hfree : ¬ t.IsBlocked s released := by
      intro h
      rw [h.isBlocked_turn hstep] at hblocked
      cases hblocked
    refine .inr ⟨?_, (controls hgo hown hstep).left_lt hfree⟩
    obtain ⟨c, turn', hcstep, -⟩ := controllerStep_cases hgo hstep
    obtain ⟨controller, worker, askedExit⟩ := t
    unfold controllerStep at hstep
    dsimp only at hstep hcstep hgo
    rw [hgo, hcstep] at hstep
    cases turn' with
    | blocked deadline? =>
      cases hstep
      cases hblocked
    | inline_ turn₁ =>
      -- a step of the program would have to be one of a program that the controller runs
      obtain ⟨w, hstage, hresult⟩ := Controller.stage_of_inline hcstep
      unfold inline? at hown
      dsimp only at hown
      rw [hstage] at hown
      dsimp only at hown
      rw [hresult] at hown
      cases hown
    | _ =>
      cases hstep
      rfl

/-- What the main loop lingers for is settled when the session begins. -/
theorem linger_of_run {x y : Threads × Shared} (hrun : Run Move x happened y) :
    y.1.controller.linger = x.1.controller.linger := by
  refine hrun.invariant (P := fun y => y.1.controller.linger = x.1.controller.linger) ?_ rfl
  intro y l z h hmove
  refine Eq.trans ?_ h
  -- no move writes the controller's linger; the cases only show what each one does write
  cases hmove with
  | controller released hgo hown hstep =>
    cases controls hgo hown hstep with
    | _ => rfl
  | inline_ released hown hquiet hstep =>
    obtain ⟨turn', w', -, rfl⟩ := inline_cases hown hstep
    rfl
  | worker hworker hgo hquiet hstep =>
    obtain ⟨turn', w', -, rfl⟩ := worker_cases hworker hgo hstep
    rfl
  | @inlineLogged t s w line panic hown hlog =>
    obtain ⟨hstage, -⟩ := inline?_eq_some hown
    obtain ⟨⟨path, config, linger, stage, transitions, endRequest⟩, worker, askedExit⟩ := t
    obtain rfl : stage = .inline_ _ := hstage
    rfl
  | workerLogged panic hworker hgo hlog => rfl
  | exit => rfl
  | clock hlater => rfl

end Threads

namespace Execution

variable {p q : Execution}

/-! ### Turns -/

/-- **The session is over, or the script has ended the process.** -/
def IsOver (p : Execution) : Prop :=
  p.exited ≠ none ∨ p.threads.controller.result? ≠ none

instance (p : Execution) : Decidable p.IsOver :=
  inferInstanceAs (Decidable (_ ∨ _))

/-- **The controller is kept waiting**: it runs the program itself, or it is blocked. -/
def IsKept (p : Execution) : Prop :=
  p.threads.inline? ≠ none ∨ p.threads.IsBlocked p.shared true

/-- How many steps the controller still has to take, at most. -/
def left (p : Execution) : Nat :=
  p.threads.controller.stage.left

/-- **A controller that is blocked waits for a worker that goes on.** -/
theorem worker_of_lacks (h : p.Comes q) (hp : p.Begins)
    (hlacks : q.threads.controller.Lacks q.shared
      (Threads.view q.threads.worker q.threads.askedExit true)) :
    ∃ w, q.threads.worker = some w ∧ w.result? = none := by
  obtain ⟨happened, hrun⟩ := h
  have hlinger := (Threads.linger_of_run hrun).trans hp.linger
  rw [hp.worker] at hrun
  obtain ⟨w, hw, -⟩ := Threads.run_hosted hp.stage hp.code hrun
  have hfits := (Threads.closing_of_run hp.stage hp.code hrun).fits
  rw [(Threads.steady_of_run hrun).mainLoop] at hfits
  -- a controller is blocked beside a main loop only, when it has started the worker
  obtain ⟨hloop, hworker⟩ : p.shared.host.hasMainLoop = true ∧ q.threads.worker = some w := by
    unfold Threads.Carries at hw
    cases hlacks with
    | exit hstage | release hstage | finish hstage | thread hstage =>
      rw [hstage] at hfits hw
      exact ⟨hfits, hw⟩
  refine ⟨w, hworker, ?_⟩
  rw [← Option.not_isSome_iff_eq_none]
  intro hover
  have hknown := (Vigil.known_of_run hp.stage hloop hrun).1
  exact hknown.not_lacks hlinger ⟨w, hworker, hover⟩ hlacks

/-! ### Steps of a process -/

theorem exited_controllerStep (q : Execution) : q.controllerStep.2.exited = q.exited := by
  rcases hturn : q.threads.controllerStep q.shared true with ⟨turn, threads, shared, signals⟩
  exact (controllerStep_cases hturn).2.1

theorem exited_workerStep (q : Execution) : q.workerStep.2.exited = q.exited := by
  rcases hturn : q.threads.workerStep q.shared with ⟨turn, threads, shared, signals⟩
  exact (workerStep_cases hturn).2.1

/-- The worker's thread leaves the controller alone. -/
theorem controller_workerStep (q : Execution) :
    q.workerStep.2.threads.controller = q.threads.controller := by
  rcases hturn : q.threads.workerStep q.shared with ⟨turn, threads, shared, signals⟩
  have hsame : threads.controller = q.threads.controller := by
    -- either the worker is there and steps, or its turn is void
    by_cases hgoes : ∃ w, q.threads.worker = some w ∧ w.result? = none
    · obtain ⟨w, hworker, hgo⟩ := hgoes
      obtain ⟨turn', w', -, rfl⟩ := Threads.worker_cases hworker hgo hturn
      rfl
    · rw [Threads.workerStep_of_over (fun w hworker hgo => hgoes ⟨w, hworker, hgo⟩)] at hturn
      cases hturn
      rfl
  obtain ⟨-, -, -, ⟨line, -, hthreads⟩ | ⟨-, hthreads⟩⟩ := workerStep_cases hturn
  · rw [hthreads]
    exact hsame
  · rw [hthreads]
    exact hsame

/-- **A step of the controller's own, in a process.** -/
theorem ownStep (hgo : q.threads.controller.result? = none) (hown : q.threads.inline? = none) :
    (q.controllerStep.1 = .blocked q.threads.controller.stage.deadline?
        ∧ q.controllerStep.2.threads = q.threads ∧ q.controllerStep.2.shared = q.shared
        ∧ q.threads.controller.Lacks q.shared
          (Threads.view q.threads.worker q.threads.askedExit true))
      ∨ q.controllerStep.1 = .going ∧ q.controllerStep.2.left < q.left := by
  rcases hturn : q.threads.controllerStep q.shared true with ⟨turn, threads, shared, signals⟩
  obtain ⟨hanswered, -, hshared, hcase⟩ := controllerStep_cases hturn
  -- outside the inline stage the controller logs nothing, so what it leaves is what the threads
  -- leave
  obtain ⟨hno, hthreads⟩ : (∀ line, turn ≠ .log line) ∧ q.controllerStep.2.threads = threads := by
    rcases hcase with ⟨line, hline, -⟩ | hquiet
    · exact absurd hline (Threads.controllerStep_ne_log hown hturn line)
    · exact hquiet
  rw [hanswered, answered_of_ne_log hno, hthreads, hshared]
  rcases Threads.ownStep_cases hgo hown hturn with ⟨rfl, rfl, rfl, hlacks⟩ | ⟨rfl, hleft⟩
  · exact .inl ⟨rfl, rfl, rfl, hlacks⟩
  · refine .inr ⟨rfl, ?_⟩
    unfold left
    rw [hthreads]
    exact hleft

/-- **A step of the worker, in a process.** -/
theorem workerStep_of_step {w w' : Worker} {s' : Shared} {turn : WorkerTurn}
    {signals : List Signal} (hworker : q.threads.worker = some w) (hgo : w.result? = none)
    (hstep : w.step q.shared = (turn, w', s', signals)) :
    q.workerStep.1 = answered turn.inThread
      ∧ (turn.inThread.isBlocked = true → q.workerStep.2.threads.worker = some w') := by
  obtain ⟨hanswered, -, -, hcase⟩ := workerStep_cases (Threads.workerStep_eq hworker hgo hstep)
  refine ⟨hanswered, fun hblocked => ?_⟩
  -- a line logged is an answer of its own kind and blocks nobody
  rcases hcase with ⟨line, hline, -⟩ | ⟨-, hthreads⟩
  · rw [hline] at hblocked
    cases hblocked
  · rw [hthreads]

/-- **A step of a program that the controller runs itself, in a process.** -/
theorem controllerStep_of_step {w w' : Worker} {s' : Shared} {turn : WorkerTurn}
    {signals : List Signal} (hown : q.threads.inline? = some w)
    (hstep : w.step q.shared = (turn, w', s', signals)) :
    q.controllerStep.1 = answered turn.inThread ∧ q.controllerStep.2.left = q.left
      ∧ q.controllerStep.2.threads.worker = q.threads.worker
      ∧ (turn.inThread.isBlocked = true →
        q.controllerStep.2.threads.controller.stage = .inline_ w') := by
  obtain ⟨hstage, -⟩ := Threads.inline?_eq_some hown
  -- inline, the controller's turn is the worker's, and the stage keeps the worker it steps
  obtain ⟨hanswered, -, -, hcase⟩ :=
    controllerStep_cases (Threads.controllerStep_inline hown hstep true)
  unfold left
  rw [hstage]
  rcases hcase with ⟨line, hline, hthreads⟩ | ⟨-, hthreads⟩
  · rw [hthreads, hline]
    exact ⟨hanswered.trans (congrArg answered hline), rfl, rfl, nofun⟩
  · rw [hthreads]
    exact ⟨hanswered, rfl, rfl, fun _ => rfl⟩

/-- A process goes on if its controller does. -/
theorem step_of_controller (h : q.controllerStep.1 = .going) :
    q.step = (.going, q.controllerStep.2) := by
  unfold step
  rcases hturn : q.controllerStep with ⟨turn, q'⟩
  rw [hturn] at h
  obtain rfl : turn = .going := h
  rfl

/-- **What a turn of a process comes to** whose session is not over. -/
inductive Turned (q : Execution) : Progress → Execution → Prop
  /-- The script ends the process. -/
  | exits {q' : Execution} (hexited : q'.exited ≠ none) : Turned q .ended q'
  /-- The controller takes a step of its own. -/
  | controls {q' : Execution} (hexited : q'.exited = none) (hleft : q'.left < q.left) :
      Turned q .going q'
  /-- The program goes on. -/
  | goesOn {q' : Execution} (hexited : q'.exited = none) (hkept : q.IsKept) (hleft : q'.left = q.left)
      (hleads : q.Leads q' 1) : Turned q .going q'
  /-- Everybody waits, until a time at which somebody will go on. -/
  | waits {q' : Execution} {deadline : Nat} (hexited : q'.exited = none) (hkept : q.IsKept)
      (hleft : q'.left = q.left) (hthen : (q'.moveClock deadline).step.1 = .going) :
      Turned q (.idle (some deadline)) q'

/-- A process whose controller is blocked takes a step of the worker. -/
theorem step_of_blocked {first : Option Nat} (h : q.controllerStep.1 = .blocked first) :
    q.step = match q.controllerStep.2.workerStep with
      | (.exit code, p) => (.ended, { p with exited := some code })
      | (.blocked second, p) => (.idle (Threads.earlier first second), p)
      | (.ended, p) => (.idle first, p)
      | (_, p) => (.going, p) := by
  unfold step
  rcases hturn : q.controllerStep with ⟨turn, q'⟩
  rw [hturn] at h
  obtain rfl : turn = .blocked first := h
  rfl

/-- A turn of a controller that runs the program itself. -/
theorem turned_of_inline {w : Worker} (h : p.Comes q) (hp : p.Begins) (hexited : q.exited = none)
    (hown : q.threads.inline? = some w) : q.Turned q.step.1 q.step.2 := by
  rcases hstep : w.step q.shared with ⟨turn, w', s', signals⟩
  obtain ⟨hturn, hleft, hworker, hstage⟩ := controllerStep_of_step hown hstep
  have hkept : q.IsKept := .inl fun hnone => nomatch hown.symm.trans hnone
  have hleads := leads_inlineStep h hp hown
  have hexited' := q.exited_controllerStep.trans hexited
  cases turn with
  | going | log =>
    rw [step_of_controller hturn]
    rw [hturn] at hleads
    exact .goesOn hexited' hkept hleft hleads
  | exit code =>
    unfold step
    rcases hfirst : q.controllerStep with ⟨turn', q'⟩
    rw [hfirst] at hturn
    obtain rfl : turn' = .exit code := hturn
    exact .exits nofun
  | blocked deadline =>
    -- there is no worker, so that the clock is moved on to the time for which the program waits
    have hnobody : q.controllerStep.2.threads.worker = none := by
      obtain ⟨w₁, hw, -⟩ := h.stage_of_logging hp
      unfold Threads.Carries at hw
      rw [(Threads.inline?_eq_some hown).1] at hw
      exact hworker.trans hw.1
    have hidle := Threads.workerStep_of_over (fun w hsome => nomatch hnobody.symm.trans hsome)
      q.controllerStep.2.shared
    obtain ⟨hended, hexited'', -, hcase⟩ := workerStep_cases hidle
    obtain ⟨-, hthreads⟩ := hcase.resolve_left fun hlogs => nomatch hlogs.choose_spec.1
    rw [step_of_blocked hturn]
    generalize q.controllerStep.2.workerStep = turned at hended hexited'' hthreads
    obtain ⟨turn', q'⟩ := turned
    obtain rfl : turn' = .ended := hended
    refine .waits (hexited''.trans hexited') hkept ?_ ?_
    · refine Eq.trans ?_ hleft
      unfold left
      rw [show q'.threads = q.controllerStep.2.threads from hthreads]
    · obtain ⟨hgo', hgoes⟩ := Worker.step_of_blocked hstep (q'.moveClock deadline).shared
        (Nat.le_max_right _ _)
      have hown' : (q'.moveClock deadline).threads.inline? = some w' := by
        have hsame : (q'.moveClock deadline).threads = q.controllerStep.2.threads := hthreads
        rw [hsame]
        unfold Threads.inline?
        rw [hstage rfl]
        dsimp only
        rw [hgo']
        rfl
      rcases hstep' : w'.step (q'.moveClock deadline).shared with ⟨turn₁, w₁, s₁, signals₁⟩
      rw [hstep'] at hgoes
      obtain rfl : turn₁ = .going := hgoes
      rw [step_of_controller (controllerStep_of_step hown' hstep').1]

/-- A turn of a controller that is blocked: the worker goes on, or waits like the controller. -/
theorem turned_of_lacks (h : p.Comes q) (hp : p.Begins) (hexited : q.exited = none)
    (hgo : q.threads.controller.result? = none) (hown : q.threads.inline? = none)
    (hturn : q.controllerStep.1 = .blocked q.threads.controller.stage.deadline?)
    (hthreads : q.controllerStep.2.threads = q.threads)
    (hlacks : q.threads.controller.Lacks q.shared
      (Threads.view q.threads.worker q.threads.askedExit true)) :
    q.Turned q.step.1 q.step.2 := by
  obtain ⟨w, hworker, hrunning⟩ := worker_of_lacks h hp hlacks
  have hkept : q.IsKept := .inr (Threads.isBlocked_of_lacks hlacks)
  have hcomes := comes_ownStep hown
  have hleads := leads_workerStep (h.trans hcomes) hp
  rw [← hthreads] at hworker
  rcases hstep : w.step q.controllerStep.2.shared with ⟨turn, w', s', signals⟩
  obtain ⟨hsecond, hcarries⟩ := workerStep_of_step hworker hrunning hstep
  have hcontroller : q.controllerStep.2.workerStep.2.threads.controller = q.threads.controller := by
    rw [controller_workerStep, hthreads]
  have hexited' : q.controllerStep.2.workerStep.2.exited = none := by
    rw [exited_workerStep, exited_controllerStep, hexited]
  rw [step_of_blocked hturn]
  generalize q.controllerStep.2.workerStep = turned
    at hsecond hcarries hcontroller hexited' hleads
  obtain ⟨turn', q'⟩ := turned
  obtain rfl : turn' = answered turn.inThread := hsecond
  dsimp only at hcarries hcontroller hexited' hleads
  have hleft : q'.left = q.left := by
    unfold left
    rw [hcontroller]
  cases turn with
  | going | log =>
    have hboth := hcomes.leads.trans hleads
    exact .goesOn hexited' hkept hleft (by rwa [Nat.zero_add] at hboth)
  | exit code => exact .exits nofun
  | blocked second =>
    obtain ⟨deadline, hdeadline, hfirst⟩ :=
      Threads.earlier_some q.threads.controller.stage.deadline? second
    change q.Turned (.idle (Threads.earlier _ (some second))) q'
    rw [hdeadline]
    refine .waits hexited' hkept hleft ?_
    -- when the clock has been moved on, one of the two has come to its deadline
    have hgo' : (q'.moveClock deadline).threads.controller.result? = none := by
      rw [show (q'.moveClock deadline).threads.controller = q.threads.controller from hcontroller]
      exact hgo
    have hown' : (q'.moveClock deadline).threads.inline? = none := by
      unfold Threads.inline? at hown ⊢
      rw [show (q'.moveClock deadline).threads.controller = q.threads.controller from hcontroller]
      exact hown
    have hclock : deadline ≤ (q'.moveClock deadline).shared.clock := Nat.le_max_right _ _
    rcases ownStep hgo' hown' with ⟨hturn', hthreads', hshared', hlacks'⟩ | ⟨hgoes, -⟩
    · -- the controller waits on, so that it is the worker
      have hsecond : second ≤ (q'.moveClock deadline).shared.clock := by
        refine Nat.le_trans (hfirst.resolve_right fun hearlier => ?_) hclock
        obtain ⟨first, hstage, hle⟩ := hearlier
        rw [← hcontroller] at hstage
        exact absurd (Nat.le_trans hle hclock) (Nat.not_le_of_lt (hlacks'.clock_lt hstage))
      rw [step_of_blocked hturn']
      obtain ⟨hrunning', hgoes⟩ := Worker.step_of_blocked hstep _ hsecond
      rcases hstep' : w'.step (q'.moveClock deadline).shared with ⟨turn₁, w₁, s₁, signals₁⟩
      rw [hstep'] at hgoes
      obtain rfl : turn₁ = .going := hgoes
      rw [← hshared'] at hstep'
      have hworker' : (q'.moveClock deadline).controllerStep.2.threads.worker = some w' := by
        rw [hthreads']
        exact hcarries rfl
      obtain ⟨hthen, -⟩ := workerStep_of_step hworker' hrunning' hstep'
      generalize (q'.moveClock deadline).controllerStep.2.workerStep = turned at hthen
      obtain ⟨turn'', q''⟩ := turned
      obtain rfl : turn'' = .going := hthen
      rfl
    · rw [step_of_controller hgoes]

/-- **Every turn before the end.** -/
theorem turned (h : p.Comes q) (hp : p.Begins) (hover : ¬ q.IsOver) :
    q.Turned q.step.1 q.step.2 := by
  unfold IsOver at hover
  rw [not_or, not_not, not_not] at hover
  obtain ⟨hexited, hgo⟩ := hover
  -- inline the controller only passes the worker's turn on; otherwise it goes on by itself, or
  -- lacks something the worker has to bring
  cases hown : q.threads.inline? with
  | some w => exact turned_of_inline h hp hexited hown
  | none =>
    rcases ownStep hgo hown with ⟨hturn, hthreads, -, hlacks⟩ | ⟨hgoes, hleft⟩
    · exact turned_of_lacks h hp hexited hgo hown hturn hthreads hlacks
    · rw [step_of_controller hgoes]
      exact .controls (q.exited_controllerStep.trans hexited) hleft

/-! ### The loop -/

variable {calls : Entry → Bool}

/-- **A turn of the loop** of a process. -/
def next (calls : Entry → Bool) (q : Execution) : Execution :=
  match q.step with
  | (.going, q') => q'.react calls q.log.size
  | (.idle (some deadline), q') => q'.moveClock deadline
  | (_, q') => q'

/-- Whoever interrupts a process leaves its threads alone. -/
theorem threads_react (q : Execution) (calls : Entry → Bool) (since : Nat) :
    (q.react calls since).threads = q.threads ∧ (q.react calls since).exited = q.exited := by
  unfold react interrupt
  split
  · split
    · exact ⟨rfl, rfl⟩
    · exact ⟨rfl, rfl⟩
  · exact ⟨rfl, rfl⟩

/-- A turn in which somebody goes on is followed by at most an interrupt. -/
theorem next_of_going {q' : Execution} (calls : Entry → Bool)
    (hstep : q.step = (.going, q')) :
    (∀ fuel, q.run calls (fuel + 1) = (q.next calls).run calls fuel)
      ∧ q'.Comes (q.next calls) ∧ (q.next calls).exited = q'.exited
      ∧ (q.next calls).left = q'.left := by
  have hnext : q.next calls = q'.react calls q.log.size := by
    unfold next
    rw [hstep]
  obtain ⟨hthreads, hexited⟩ := threads_react q' calls q.log.size
  -- reacting to the log touches neither the threads nor whether the process has exited
  rw [hnext]
  refine ⟨fun fuel => ?_, comes_react q' calls _, hexited, ?_⟩
  · conv_lhs => unfold run
    rw [hstep]
  · unfold left
    rw [hthreads]

/-- A turn in which everybody waits is followed by one of the clock. -/
theorem next_of_idle {q' : Execution} {deadline : Nat} (calls : Entry → Bool)
    (hstep : q.step = (.idle (some deadline), q')) :
    (∀ fuel, q.run calls (fuel + 1) = (q.next calls).run calls fuel)
      ∧ q.next calls = q'.moveClock deadline := by
  have hnext : q.next calls = q'.moveClock deadline := by
    unfold next
    rw [hstep]
  refine ⟨fun fuel => ?_, hnext⟩
  rw [hnext]
  conv_lhs => unfold run
  rw [hstep]

/-- **What a turn of the loop comes to**, if it does not end the process. -/
structure Advances (calls : Entry → Bool) (q : Execution) : Prop where
  run : ∀ fuel, q.run calls (fuel + 1) = (q.next calls).run calls fuel
  comes : q.Comes (q.next calls)
  exited : (q.next calls).exited = none
  /-- The controller takes a step; or it is kept waiting while the program goes on, or while the
  clock does, after which it is somebody's turn. -/
  progress : (q.next calls).left < q.left
    ∨ q.IsKept ∧ (q.next calls).left = q.left
      ∧ (q.Leads (q.next calls) 1 ∨ q.step.1 ≠ .going ∧ (q.next calls).step.1 = .going)

/-- **Every turn of the loop before the end** ends the process, or brings it on. -/
theorem advances (h : p.Comes q) (hp : p.Begins) (hover : ¬ q.IsOver) (calls : Entry → Bool) :
    (∃ q', q'.IsOver ∧ ∀ fuel, q.run calls (fuel + 1) = q') ∨ q.Advances calls := by
  have hturned := turned h hp hover
  have hcomes := comes_step h hp
  rcases hstep : q.step with ⟨turn, q'⟩
  rw [hstep] at hturned hcomes
  dsimp only at hturned hcomes
  -- the turn exits, moves the controller on, moves the worker on, or waits for a deadline
  cases hturned with
  | exits hexited =>
    refine .inl ⟨q', .inl hexited, fun fuel => ?_⟩
    unfold run
    rw [hstep]
  | controls hexited hleft =>
    obtain ⟨hrun, hreacts, hsame, hleft'⟩ := next_of_going calls hstep
    exact .inr ⟨hrun, hcomes.trans hreacts, hsame.trans hexited, .inl (by rwa [hleft'])⟩
  | goesOn hexited hkept hleft hleads =>
    obtain ⟨hrun, hreacts, hsame, hleft'⟩ := next_of_going calls hstep
    exact .inr ⟨hrun, hcomes.trans hreacts, hsame.trans hexited,
      .inr ⟨hkept, hleft'.trans hleft, .inl (hleads.trans hreacts.leads)⟩⟩
  -- waiting is a move of the clock alone, and what was waited for is due after it
  | @waits _ deadline hexited hkept hleft hthen =>
    obtain ⟨hrun, hnext⟩ := next_of_idle calls hstep
    refine .inr ⟨hrun, ?_, ?_, .inr ⟨hkept, ?_, .inr ⟨?_, ?_⟩⟩⟩
    · rw [hnext]
      exact hcomes.trans ⟨[.clock], .single (.clock (Nat.le_max_left _ _))⟩
    · rw [hnext]
      exact hexited
    · rw [hnext]
      exact hleft
    · rw [hstep]
      rintro ⟨⟩
    · rw [hnext]
      exact hthen

/-! ### The end -/

/-- A session that is over stays so. -/
theorem run_of_result (hdone : q.threads.controller.result? ≠ none) (fuel : Nat) :
    q.run calls fuel = q := by
  -- a controller that is done does nothing in its turn, and the loop stops there
  have hstep : q.step = (.ended, q) := by
    obtain ⟨shared, threads, log, out, err, exited, isInterrupted⟩ := q
    have hturn := Threads.controllerStep_of_over hdone shared true
    dsimp only at hturn
    unfold step controllerStep
    dsimp only
    rw [hturn]
    rfl
  cases fuel with
  | zero => rfl
  | succ fuel =>
    unfold run
    rw [hstep]

/-- **Once it is over, further turns change nothing.** -/
theorem run_of_isOver {fuel more : Nat} (h : p.Comes q) (hp : p.Begins) (hexited : q.exited = none)
    (hover : (q.run calls fuel).IsOver) (hle : fuel ≤ more) :
    q.run calls more = q.run calls fuel := by
  induction fuel generalizing q more with
  | zero =>
    -- a process that has not been ended by the script is over if its session is
    exact run_of_result (hover.resolve_left fun hended => hended hexited) more
  | succ fuel ih =>
    obtain ⟨more, rfl⟩ : ∃ n, more = n + 1 := Nat.exists_eq_add_one.mpr (Nat.zero_lt_of_lt hle)
    by_cases hnow : q.IsOver
    · have hdone := hnow.resolve_left fun hended => hended hexited
      rw [run_of_result hdone, run_of_result hdone]
    · rcases advances h hp hnow calls with ⟨q', -, hends⟩ | hadvances
      · rw [hends, hends]
      · rw [hadvances.run] at hover ⊢
        rw [hadvances.run]
        exact ih (h.trans hadvances.comes) hadvances.exited hover (Nat.le_of_succ_le_succ hle)

/-- **A process whose program goes on for ever**, while its controller is kept waiting. -/
def GoesOn (calls : Entry → Bool) (p : Execution) : Prop :=
  ∀ times, ∃ fuel, ∀ more, fuel ≤ more →
    p.Leads (p.run calls more) times ∧ (p.run calls more).IsKept ∧ ¬ (p.run calls more).IsOver

section Never

variable (hp : p.Begins) (hfresh : p.exited = none) (hnever : ∀ fuel, ¬ (p.run calls fuel).IsOver)

include hp hfresh hnever

/-- A process that is never over advances with each turn. -/
theorem advances_run (fuel : Nat) : (p.run calls fuel).Advances calls
    ∧ p.run calls (fuel + 1) = (p.run calls fuel).next calls := by
  -- generalised over the execution started from, for `run` unfolds at its front
  suffices hboth : ∀ q, p.Comes q → q.exited = none → (∀ fuel, ¬ (q.run calls fuel).IsOver) →
      (q.run calls fuel).Advances calls
        ∧ q.run calls (fuel + 1) = (q.run calls fuel).next calls from
    hboth p (.refl p) hfresh hnever
  induction fuel with
  | zero =>
    intro q h hexited hnever
    have hadvances := (advances h hp (hnever 0) calls).resolve_left fun ⟨q', hover, hends⟩ =>
      hnever 1 (by rwa [hends])
    exact ⟨hadvances, hadvances.run 0⟩
  | succ fuel ih =>
    intro q h hexited hnever
    have hadvances := (advances h hp (hnever 0) calls).resolve_left fun ⟨q', hover, hends⟩ =>
      hnever 1 (by rwa [hends])
    rw [hadvances.run, hadvances.run]
    refine ih _ (h.trans hadvances.comes) hadvances.exited fun later => ?_
    rw [← hadvances.run]
    exact hnever (later + 1)

theorem comes_run_of_le {fuel more : Nat} (hle : fuel ≤ more) :
    (p.run calls fuel).Comes (p.run calls more)
      ∧ (p.run calls more).left ≤ (p.run calls fuel).left := by
  -- never over, each further unit of fuel is one more advance
  induction hle with
  | refl => exact ⟨.refl _, Nat.le_refl _⟩
  | @step more hle ih =>
    obtain ⟨hadvances, hnext⟩ := advances_run hp hfresh hnever more
    rw [hnext]
    refine ⟨ih.1.trans hadvances.comes, Nat.le_trans ?_ ih.2⟩
    rcases hadvances.progress with hless | ⟨-, hsame, -⟩
    · exact Nat.le_of_lt hless
    · exact Nat.le_of_eq hsame

/-- Within two turns the controller takes a step, or the program goes on. -/
theorem progress_run (fuel : Nat) : ∃ more, (p.run calls more).left < (p.run calls fuel).left
    ∨ (p.run calls fuel).Leads (p.run calls more) 1 := by
  obtain ⟨hadvances, hnext⟩ := advances_run hp hfresh hnever fuel
  rcases hadvances.progress with hless | ⟨-, hsame, hleads | ⟨-, hthen⟩⟩
  · exact ⟨fuel + 1, .inl (by rwa [hnext])⟩
  · exact ⟨fuel + 1, .inr (by rwa [hnext])⟩
  · -- after a wait the next turn is no wait: what was waited for is due, so that turn moves
    -- something
    obtain ⟨hadvances', hnext'⟩ := advances_run hp hfresh hnever (fuel + 1)
    rw [← hnext] at hthen hsame
    refine ⟨fuel + 2, ?_⟩
    rw [hnext']
    rcases hadvances'.progress with hless | ⟨-, -, hleads | ⟨hidle, -⟩⟩
    · exact .inl (hsame ▸ hless)
    · have hcomes := hadvances.comes
      rw [← hnext] at hcomes
      have hboth := hcomes.leads.trans hleads
      exact .inr (by rwa [Nat.zero_add] at hboth)
    · exact absurd hthen hidle

/-- The controller has only so many steps to take, so that the program goes on again. -/
theorem leads_run (fuel : Nat) : ∃ more, (p.run calls fuel).Leads (p.run calls more) 1 := by
  -- what is left of the controller only shrinks, so from some turn on it is the worker that moves
  induction hleft : (p.run calls fuel).left using Nat.strongRecOn generalizing fuel with
  | ind left ih =>
    obtain ⟨more, hless | hleads⟩ := progress_run hp hfresh hnever fuel
    · have hle : fuel ≤ more := by
        by_contra hlater
        have hge := (comes_run_of_le hp hfresh hnever (Nat.le_of_not_le hlater)).2
        exact absurd hless (Nat.not_lt_of_le hge)
      obtain ⟨last, hleads⟩ := ih _ (hleft ▸ hless) more rfl
      have hboth := (comes_run_of_le hp hfresh hnever hle).1.leads.trans hleads
      exact ⟨last, by rwa [Nat.zero_add] at hboth⟩
    · exact ⟨more, hleads⟩

/-- From some turn on the controller takes no step any more. -/
theorem kept_run (fuel : Nat) : ∃ calm, ∀ more, calm ≤ more → (p.run calls more).IsKept := by
  induction hleft : (p.run calls fuel).left using Nat.strongRecOn generalizing fuel with
  | ind left ih =>
    -- either the controller still has a step to make, and what is left is less from there, or it
    -- keeps its stage from now on
    by_cases hlater : ∃ more, (p.run calls more).left < (p.run calls fuel).left
    · obtain ⟨more, hless⟩ := hlater
      exact ih _ (hleft ▸ hless) more rfl
    · refine ⟨fuel, fun more hle => ?_⟩
      obtain ⟨hadvances, hnext⟩ := advances_run hp hfresh hnever more
      rcases hadvances.progress with hless | ⟨hkept, -⟩
      · rw [← hnext] at hless
        have hsteady := (comes_run_of_le hp hfresh hnever hle).2
        exact absurd ⟨more + 1, Nat.lt_of_lt_of_le hless hsteady⟩ hlater
      · exact hkept

/-- **A process that is never over goes on for ever.** -/
theorem goesOn_of_never : p.GoesOn calls := by
  obtain ⟨calm, hkept⟩ := kept_run hp hfresh hnever 0
  -- the program goes on once more, however often it has
  have hleads : ∀ times, ∃ fuel, p.Leads (p.run calls fuel) times := by
    intro times
    induction times with
    | zero => exact ⟨0, (Comes.refl p).leads⟩
    | succ times ih =>
      obtain ⟨fuel, htimes⟩ := ih
      obtain ⟨more, honce⟩ := leads_run hp hfresh hnever fuel
      exact ⟨more, htimes.trans honce⟩
  intro times
  obtain ⟨fuel, htimes⟩ := hleads times
  refine ⟨max fuel calm, fun more hle => ⟨?_, hkept more (Nat.le_trans (Nat.le_max_right _ _) hle),
    hnever more⟩⟩
  exact htimes.trans
    (comes_run_of_le hp hfresh hnever (Nat.le_trans (Nat.le_max_left _ _) hle)).1.leads

end Never

/-- **Every process ends, or its program goes on for ever.** -/
theorem ends_or_goesOn (hp : p.Begins) (hfresh : p.exited = none) (calls : Entry → Bool) :
    (∃ fuel, (p.run calls fuel).IsOver) ∨ p.GoesOn calls := by
  by_cases hends : ∃ fuel, (p.run calls fuel).IsOver
  · exact .inl hends
  · exact .inr (goesOn_of_never hp hfresh fun fuel hover => hends ⟨fuel, hover⟩)

end Execution
end RobotSession
