import RobotSession.Proofs.Bridge.Interleaving

/-!
# The host is shut down once

Whatever becomes of the program, the controller shuts the host down once before it is done: a
program that fails or panics in a thread of its own cannot keep it from that, nor can a worker
that is left alone or a thread that cannot be started.

There is one way past the shutdown. Without a main loop the controller runs the program itself,
and a panic of the host, while it is told of the program's failure, goes through the controller.
`Shared.ReportEscapes` says when, and `Threads.shutdown_of_done` that it is the only one.

* `Threads.Closing` — the account of the shutdowns at each stage of the controller.
* `Threads.shutdown_of_done` — what it comes to when the controller is done.
-/

namespace RobotSession

open Lua

/-! ### What a controller gives -/

/-- The outcome that a controller returns, if it returns one. -/
def ControllerResult.outcome? : ControllerResult → Option Outcome
  | .ok o => some o
  | _ => none

theorem ControllerResult.outcome?_iff {r : ControllerResult} {o : Outcome} :
    r.outcome? = some o ↔ r = .ok o := by
  cases r <;> simp [outcome?]

/-- The panic that a controller has not survived. -/
def ControllerResult.payload? : ControllerResult → Option Payload
  | .panicked p => some p
  | _ => none

theorem ControllerResult.payload?_iff {r : ControllerResult} {p : Payload} :
    r.payload? = some p ↔ r = .panicked p := by
  cases r <;> simp [payload?]

/-! ### The account -/

/-- The host has been shut down by now. -/
def Controller.Stage.isClosed : Controller.Stage → Bool
  | .done (.ok _) => true
  | .done (.error (.session _)) => true
  | .done (.error (.spawn _)) => true
  | _ => false

/-- Which hosts have a controller at this stage, once the hardware is initialized. -/
def Controller.Stage.Fits (hasMainLoop : Bool) : Controller.Stage → Prop
  | .start | .askMainLoop => True
  | .inline_ _ => hasMainLoop = false
  | .shutdown how _ _ => how = .inline_ ↔ hasMainLoop = false
  | .done (.ok _) => True
  | .done (.panicked _) => hasMainLoop = false
  | .done (.error (.session _)) => hasMainLoop = false
  | .done (.error (.spawn _)) => hasMainLoop = true
  | .done (.error (.hardwareInit _)) => True
  | _ => hasMainLoop = true

/-- The panic of a host without a main loop, while it is told of a failure. -/
structure Shared.ReportEscapes (s₀ s : Shared) : Prop where
  headless : s₀.host.hasMainLoop = false
  panics : s₀.panicsOnReport = true
  told : s.host.diagnostics ≠ s₀.host.diagnostics

namespace Threads

variable {t t' : Threads} {s₀ s s' : Shared} {released : Bool} {happened : List SessionDeed}

/-- **The account of the shutdowns.** -/
structure Closing (s₀ : Shared) (t : Threads) (s : Shared) : Prop where
  calls : s.host.shutdownCalls
    = s₀.host.shutdownCalls + if t.controller.stage.isClosed then 1 else 0
  fits : t.controller.stage.Fits s.host.hasMainLoop
  thread : t.worker.isSome = true → s.host.hasMainLoop = true

/-- **Each step of the controller keeps the account.** -/
theorem Closing.controller {w : Worker} (h : Closing s₀ t s) (hw : t.Carries w)
    (hcode : t.controller.stage = .start → s.host.initCode = 0)
    (hcontrols : t.Controls s released t' s') : Closing s₀ t' s' := by
  obtain ⟨hcalls, hfits, hthread⟩ := h
  obtain ⟨⟨path, config, linger, stage, transitions, endRequest⟩, worker, askedExit⟩ := t
  cases hcontrols with
  | initializes hstage hzero =>
    obtain rfl : stage = .start := hstage
    exact ⟨hcalls, trivial, hthread⟩
  | cannotInitialize hstage hzero => exact absurd (hcode hstage) hzero
  | hasMainLoop hstage hloop =>
    obtain rfl : stage = .askMainLoop := hstage
    exact ⟨hcalls, hloop, hthread⟩
  | hasNone hstage hloop =>
    obtain rfl : stage = .askMainLoop := hstage
    exact ⟨hcalls, hloop, hthread⟩
  | inlineOver hstage hdone hpanicked =>
    obtain rfl : stage = .inline_ _ := hstage
    exact ⟨hcalls, ⟨fun _ => hfits, fun _ => rfl⟩, hthread⟩
  | inlineEscapes hstage hdone =>
    -- the panic goes through the controller before it comes to the shutdown
    obtain rfl : stage = .inline_ _ := hstage
    exact ⟨hcalls, hfits, hthread⟩
  | spawns hstage hfault =>
    obtain rfl : stage = .spawn := hstage
    exact ⟨hcalls, hfits, fun _ => hfits⟩
  | cannotSpawn hstage | entersMainLoop hstage | leavesMainLoop hstage | goesOn hstage
  | asksEnd hstage | asksNobody hstage | beginsWait hstage | seesFinished hstage =>
    cases hstage
    exact ⟨hcalls, hfits, hthread⟩
  | givesUp hstage | joins hstage =>
    cases hstage
    have hloop : s.host.hasMainLoop = true := hfits
    exact ⟨hcalls, ⟨nofun, fun hnone => nomatch hloop.symm.trans hnone⟩, hthread⟩
  | @shutsDown how joinWait failure hstage =>
    obtain rfl : stage = .shutdown how joinWait failure := hstage
    have hcalled : s.host.shutdown.1.shutdownCalls = s₀.host.shutdownCalls + 1 :=
      congrArg (· + 1) hcalls
    rcases hw with ⟨-, result, -, rfl, rfl, hpanicked⟩ | ⟨-, rfl, -⟩
    · -- a panic is not among the results with which the controller comes here
      cases result with
      | returned => exact ⟨hcalled, trivial, hthread⟩
      | failed e => exact ⟨hcalled, hfits.mp rfl, hthread⟩
      | panicked p => exact absurd rfl (hpanicked p)
    · exact ⟨hcalled, trivial, hthread⟩
  | aborts hstage =>
    obtain rfl : stage = .abort _ := hstage
    obtain ⟨-, -, detail, rfl⟩ := hw
    exact ⟨congrArg (· + 1) hcalls, hfits, hthread⟩
  | waits hblocked => exact ⟨hcalls, hfits, hthread⟩

/-- Nothing else changes what the account is about. -/
theorem Closing.frame (h : Closing s₀ t s) (hsteady : s.Steady s')
    (hcalls : s'.host.shutdownCalls = s.host.shutdownCalls)
    (hclosed : t'.controller.stage.isClosed = t.controller.stage.isClosed)
    (hfits : t.controller.stage.Fits s.host.hasMainLoop → t'.controller.stage.Fits s.host.hasMainLoop)
    (hthread : t'.worker.isSome = t.worker.isSome) : Closing s₀ t' s' := by
  -- no clause speaks of anything that has changed
  refine ⟨?_, ?_, ?_⟩
  · rw [hcalls, hclosed]
    exact h.calls
  · rw [hsteady.mainLoop]
    exact hfits h.fits
  · rw [hthread, hsteady.mainLoop]
    exact h.thread

/-- **Each move keeps the account.** -/
theorem Closing.move {w : Worker} {l : SessionDeed} (h : Closing s₀ t s) (hw : t.Carries w)
    (hcode : t.controller.stage = .start → s.host.initCode = 0) (hmove : Move (t, s) l (t', s')) :
    Closing s₀ t' s' := by
  have hsteady := hmove.steady
  cases hmove with
  | controller released hgo hown hstep => exact h.controller hw hcode (Threads.controls hgo hown hstep)
  | inline_ released hown hquiet hstep =>
    obtain ⟨hstage, hgo⟩ := inline?_eq_some hown
    obtain ⟨turn', w', hw', rfl⟩ := inline_cases hown hstep
    refine h.frame hsteady (Worker.steps hgo hw').shutdownCalls ?_ ?_ rfl
    · -- the program may run inside the controller, which stays where it is meanwhile
      rw [hstage]
      rfl
    · rw [hstage]
      exact id
  | worker hworker hgo hquiet hstep =>
    obtain ⟨turn', w', hw', rfl⟩ := worker_cases hworker hgo hstep
    refine h.frame hsteady (Worker.steps hgo hw').shutdownCalls rfl id ?_
    rw [hworker]
    rfl
  | inlineLogged panic hown hlog =>
    obtain ⟨hstage, -⟩ := inline?_eq_some hown
    obtain ⟨⟨path, config, linger, stage, transitions, endRequest⟩, worker, askedExit⟩ := t
    obtain rfl : stage = .inline_ _ := hstage
    exact h.frame hsteady rfl rfl id rfl
  | workerLogged panic hworker hgo hlog =>
    obtain ⟨controller, worker, askedExit⟩ := t
    obtain rfl : worker = some _ := hworker
    exact h.frame hsteady rfl rfl id rfl
  | exit => exact h.frame hsteady rfl rfl id rfl
  | clock hlater => exact h.frame hsteady rfl rfl id rfl

/-! ### Runs -/

theorem closing_of_run {c : Controller} (hstage : c.stage = .start)
    (hcode : s₀.host.initCode = 0) (hrun : Run Move ({ controller := c }, s₀) happened (t, s)) :
    Closing s₀ t s := by
  generalize hx : (t, s) = x at hrun
  induction hrun generalizing t s with
  | refl =>
    cases hx
    refine ⟨?_, ?_, nofun⟩
    · rw [hstage]
      rfl
    · rw [hstage]
      exact trivial
  | @tail happened y z l run step ih =>
    subst hx
    obtain ⟨t₁, s₁⟩ := y
    -- each move needs a program that the session carries
    obtain ⟨w, hw, -⟩ := run_hosted hstage hcode run
    have hzero : s₁.host.initCode = 0 := (steady_of_run run).initCode.trans hcode
    exact (ih rfl).move hw (fun _ => hzero) step

/-- **A controller that is done has shut the host down once**, unless the host's panic has gone
through it. -/
theorem shutdown_of_done {path : ByteArray} {config : BridgeConfig} {linger : Linger}
    {r : ControllerResult} (hcode : s₀.host.initCode = 0)
    (hrun : Run Move ({ controller := { path, config, linger } }, s₀) happened (t, s))
    (hdone : t.controller.result? = some r) :
    (¬ s₀.ReportEscapes s →
        s.host.shutdownCalls = s₀.host.shutdownCalls + 1 ∧ ∀ p, r ≠ .panicked p)
      ∧ (s₀.ReportEscapes s →
        s.host.shutdownCalls = s₀.host.shutdownCalls ∧ ∃ p, r = .panicked p) := by
  obtain ⟨hcalls, hfits, hthread⟩ := closing_of_run rfl hcode hrun
  obtain ⟨w, hw, hhosted⟩ := run_hosted rfl hcode hrun
  have hsteady := steady_of_run hrun
  obtain ⟨⟨path', config', linger', stage, transitions, endRequest⟩, worker, askedExit⟩ := t
  obtain rfl : stage = .done r := by
    cases stage with
    | done r' => rw [Option.some.inj hdone]
    | _ => cases hdone
  -- what the program has come to, where the controller has run it
  have htold : ∀ {result}, w.result? = some result →
      result.Told s₀.panicsOnReport s₀.host.diagnostics s.host.diagnostics := by
    intro result hresult
    have htold := Worker.told_of_run rfl hhosted hresult
    rw [← show s.panicsOnReport = s₀.panicsOnReport from hsteady.panics]
    exact htold
  have hloop : s.host.hasMainLoop = s₀.host.hasMainLoop := hsteady.mainLoop
  rw [hloop] at hfits hthread
  have hheadless : s₀.ReportEscapes s → s₀.host.hasMainLoop ≠ true := by
    intro hescapes hmain
    exact nomatch hmain.symm.trans hescapes.headless
  rcases hw with ⟨-, -, detail, rfl⟩ | ⟨-, result, o, hresult, rfl⟩ | ⟨hworker, o, rfl⟩
  · -- the thread could not be started
    exact ⟨fun _ => ⟨hcalls, nofun⟩, fun h => absurd hfits (hheadless h)⟩
  · cases result with
    | returned =>
      have hsilent : s.host.diagnostics = s₀.host.diagnostics := htold hresult
      exact ⟨fun _ => ⟨hcalls, nofun⟩, fun h => absurd hsilent h.told⟩
    | failed e =>
      obtain ⟨hpanics, -⟩ := htold hresult
      exact ⟨fun _ => ⟨hcalls, nofun⟩, fun h => nomatch hpanics.symm.trans h.panics⟩
    | panicked p =>
      obtain ⟨hpanics, e, hdiagnostics⟩ := htold hresult
      have hescapes : s₀.ReportEscapes s := by
        refine ⟨hfits, hpanics, ?_⟩
        rw [hdiagnostics]
        intro hsame
        have hlength := congrArg List.length hsame
        simp at hlength
      exact ⟨fun h => absurd hescapes h, fun _ => ⟨hcalls, p, rfl⟩⟩
  · -- the program ran in a thread of its own
    obtain rfl : worker = some w := hworker
    exact ⟨fun _ => ⟨hcalls, nofun⟩, fun h => absurd (hthread rfl) (hheadless h)⟩

/-- A module that is a number. -/
def numberProgram : Files :=
  { entries := [([[114]], some "return 1".toUTF8)] }

/-- The host panics while it is told that a module is a number. In a thread of its own, the
program has the host shut down once all the same. -/
theorem shutdown_of_done_number : ∃ happened t s o,
    Run Move ({ controller := { path := ⟨#[114]⟩, config := {} } },
        { files := numberProgram, panicsOnReport := true }) happened (t, s)
      ∧ t.controller.result? = some (.ok o) ∧ s.host.diagnostics ≠ []
      ∧ s.host.shutdownCalls = 1 := by
  -- the worker runs on a thread, where the panic of the host is caught
  let schedule := List.replicate 4 true ++ List.replicate 30 false ++ List.replicate 10 true
  have hends : (fun last : Threads × Shared =>
      last.1.controller.result?.any (·.outcome?.isSome) && !last.2.host.diagnostics.isEmpty)
      (follow schedule ({ controller := { path := ⟨#[114]⟩, config := {} } },
        { files := numberProgram, panicsOnReport := true })) = true := by
    decide +kernel
  obtain ⟨happened, hrun⟩ := run_follow schedule
    ({ controller := { path := ⟨#[114]⟩, config := {} } },
      { files := numberProgram, panicsOnReport := true })
  generalize follow schedule _ = last at hends hrun
  obtain ⟨t, s⟩ := last
  rw [Bool.and_eq_true, Bool.not_eq_true', List.isEmpty_eq_false_iff] at hends
  obtain ⟨hresult, htold⟩ := hends
  dsimp only at hresult htold
  obtain ⟨result, hdone, hsome⟩ := (Option.any_eq_true _ _).mp hresult
  obtain ⟨o, ho⟩ := Option.isSome_iff_exists.mp hsome
  obtain rfl := ControllerResult.outcome?_iff.mp ho
  obtain ⟨honce, -⟩ := shutdown_of_done rfl hrun hdone
  exact ⟨happened, t, s, o, hrun, hdone, htold, (honce fun h => nomatch h.headless).1⟩

/-- Without a main loop, the panic goes through the controller, and the host is not shut down. -/
theorem shutdown_missed : ∃ happened t s p,
    Run Move ({ controller := { path := ⟨#[114]⟩, config := {} } },
        { host := .headless, files := numberProgram, panicsOnReport := true }) happened (t, s)
      ∧ t.controller.result? = some (.panicked p) ∧ s.host.shutdownCalls = 0 := by
  -- without a main loop the worker is run by the controller, and the panic passes through both
  let schedule := List.replicate 40 true
  have hends : (fun last : Threads × Shared =>
      last.1.controller.result?.any (·.payload?.isSome) && last.2.host.shutdownCalls == 0)
      (follow schedule ({ controller := { path := ⟨#[114]⟩, config := {} } },
        { host := .headless, files := numberProgram, panicsOnReport := true })) = true := by
    decide +kernel
  obtain ⟨happened, hrun⟩ := run_follow schedule
    ({ controller := { path := ⟨#[114]⟩, config := {} } },
      { host := .headless, files := numberProgram, panicsOnReport := true })
  generalize follow schedule _ = last at hends hrun
  obtain ⟨t, s⟩ := last
  rw [Bool.and_eq_true, beq_iff_eq] at hends
  obtain ⟨hresult, hcalls⟩ := hends
  dsimp only at hresult hcalls
  obtain ⟨result, hdone, hsome⟩ := (Option.any_eq_true _ _).mp hresult
  obtain ⟨p, hp⟩ := Option.isSome_iff_exists.mp hsome
  obtain rfl := ControllerResult.payload?_iff.mp hp
  exact ⟨happened, t, s, p, hrun, hdone, hcalls⟩

end Threads
end RobotSession
