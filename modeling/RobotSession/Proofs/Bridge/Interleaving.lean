import RobotSession.Bridge.Threads
import RobotSession.Proofs.Bridge.Steps

/-!
# The interleavings of a session

The controller and the program take turns in any order. The log answers whenever it likes,
anyone may ask the host to leave its main loop at any moment, and the clock goes on between
any two steps. `Threads.Move` has one case for each of these, so that a run of moves is one
interleaving.

Seen from the program, all of this is little: the host changes, a call may be posted through
the handle in the slot, and time passes (`Worker.Hosted`). So what is shown for the life of a
worker holds in every interleaving, for the program in a thread of its own and for the one that
the controller runs itself.

* `SessionDeed` — what happens in a session.
* `Threads.Controls` — the steps of a controller.
* `Threads.Move` — the moves of a session.
* `Threads.run_hosted` — the program lives through each interleaving as a hosted worker.
-/

namespace RobotSession

open Lua

/-! ### What happens -/

/-- **What happens in a session.** -/
inductive SessionDeed
  /-- The controller takes a step of its own. -/
  | controller
  /-- The controller asks the robot to end, and is told what becomes of that. -/
  | asksEnd (answer : Delivery)
  /-- The program takes a step from this state, in whichever thread it runs. -/
  | program (w : Worker) (s : Shared)
  /-- The log has answered a line of the program. -/
  | logged (line : String) (panic : Option Payload)
  /-- Someone asks the host to leave its main loop. -/
  | exit
  /-- The clock goes on. -/
  | clock

/-- It is the turn of a thread: neither of the log nor of somebody else. -/
def SessionDeed.isTurn : SessionDeed → Bool
  | .logged .. => false
  | .exit => false
  | _ => true

/-- What happened, as far as the program is concerned. -/
def SessionDeed.ofWorker : SessionDeed → WorkerDeed
  | .program w s => .step w s
  | _ => .elsewhere

/-- The calls that the program took for delivery. -/
def delivered (happened : List SessionDeed) : List Invocation :=
  happened.filterMap fun
    | .program w s => w.takes s
    | _ => none

/-- The calls that the controller posted, and that were accepted. -/
def posted (happened : List SessionDeed) : List Invocation :=
  happened.filterMap fun
    | .asksEnd .queued => some .finish
    | _ => none

theorem delivered_append (happened : List SessionDeed) (l : SessionDeed) :
    delivered (happened ++ [l]) = delivered happened ++ delivered [l] :=
  List.filterMap_append

theorem posted_append (happened : List SessionDeed) (l : SessionDeed) :
    posted (happened ++ [l]) = posted happened ++ posted [l] :=
  List.filterMap_append

@[simp]
theorem delivered_program (w : Worker) (s : Shared) :
    delivered [.program w s] = (w.takes s).toList := by
  unfold delivered
  rw [List.filterMap_cons]
  dsimp only
  cases w.takes s with
  | none => rfl
  | some i => rfl

/-! ### The log -/

/-- The line that the script has given to the log, while the log has not answered. -/
def Engine.logging? (e : Engine) : Option String :=
  match e.machine.mode with
  | .ask w =>
    match w.question with
    | .log line => some line
    | _ => none
  | _ => none

def Worker.logging? (w : Worker) : Option String :=
  w.engine.bind Engine.logging?

/-! ### The program in its session -/

namespace Worker

/-- **The moves of a worker in its session.** -/
inductive Hosted : Worker × Shared → SessionDeed → Worker × Shared → Prop
  | step {w w' : Worker} {s s' : Shared} {t : WorkerTurn} {signals : List Signal}
      (hgo : w.result? = none) (hquiet : w.logging? = none)
      (h : w.step s = (t, w', s', signals)) : Hosted (w, s) (.program w s) (w', s')
  | logged {w : Worker} {s : Shared} {line : String} (panic : Option Payload)
      (hgo : w.result? = none) (hlog : w.logging? = some line) :
      Hosted (w, s) (.logged line panic) (w.logged panic, s)
  | host {w : Worker} {s : Shared} {l : SessionDeed} {host : SimHost}
      (hl : l = .controller ∧ host.exitRequested = s.host.exitRequested ∨ l = .exit)
      (h : host.diagnostics = s.host.diagnostics) : Hosted (w, s) l (w, { s with host })
  | asksEnd {w : Worker} {s : Shared} {id : Nat} (hhandle : s.slot.handle = some id) :
      Hosted (w, s) (.asksEnd (s.post id .finish).1) (w, (s.post id .finish).2)
  | clock {w : Worker} {s : Shared} {clock : Nat} (h : s.clock ≤ clock) :
      Hosted (w, s) .clock (w, { s with clock })

/-- The host of a session tells the program nothing. -/
theorem alike_host (s : Shared) {host : SimHost} (h : host.diagnostics = s.host.diagnostics) :
    s.Alike { s with host } :=
  ⟨⟨rfl, h, rfl, rfl, Nat.le_refl _, fun _ => rfl⟩, fun _ => rfl⟩

/-- A worker in its session is a worker among other threads. -/
theorem Hosted.move {x y : Worker × Shared} {l : SessionDeed} (h : Hosted x l y) :
    Move x l.ofWorker y := by
  cases h with
  | step hgo hquiet hstep => exact .step hgo hstep
  | logged panic => exact .logged panic
  | host hl hdiagnostics =>
    -- what the host is told leaves the inboxes alike
    rcases hl with ⟨rfl, -⟩ | rfl
    · exact .elsewhere (alike_host _ hdiagnostics)
    · exact .elsewhere (alike_host _ hdiagnostics)
  | asksEnd hhandle => exact .elsewhere (.post _ _ _)
  | clock hlater => exact .elsewhere (.clock _ _)

theorem run_move {x y : Worker × Shared} {happened : List SessionDeed}
    (hrun : Run Hosted x happened y) : Run Move x (happened.map SessionDeed.ofWorker) y := by
  induction hrun with
  | refl => exact .refl
  | tail run step ih =>
    rw [List.map_append]
    exact .tail ih step.move

/-- Nobody but the program tells the host of a failure. -/
theorem Hosted.telling {x y : Worker × Shared} {l : SessionDeed} {before : List Diagnostic}
    (h : Hosted x l y) (ht : x.1.Telling x.2.panicsOnReport before x.2.host.diagnostics) :
    y.1.Telling y.2.panicsOnReport before y.2.host.diagnostics := by
  cases h with
  | step hgo hquiet hstep =>
    have hsteps := steps hgo hstep
    rw [hsteps.steady.panics]
    exact hsteps.telling ht
  -- nothing else tells the host anything
  | logged panic => exact ht
  | host hl hdiagnostics =>
    rw [← hdiagnostics] at ht
    exact ht
  | asksEnd hhandle => exact ht
  | clock hlater => exact ht

/-- What the host has been told at every point of a program. -/
theorem telling_of_run {w₀ w : Worker} {s₀ s : Shared} {happened : List SessionDeed}
    (hstage : w₀.stage = .start) (hrun : Run Hosted (w₀, s₀) happened (w, s)) :
    w.Telling s.panicsOnReport s₀.host.diagnostics s.host.diagnostics := by
  have hstart : w₀.Telling s₀.panicsOnReport s₀.host.diagnostics s₀.host.diagnostics := by
    unfold Telling
    rw [hstage]
  exact hrun.invariant
    (P := fun y => y.1.Telling y.2.panicsOnReport s₀.host.diagnostics y.2.host.diagnostics)
    (fun ht hmove => hmove.telling ht) hstart

/-- **What the host has been told** of a program that is over. -/
theorem told_of_run {w₀ w : Worker} {s₀ s : Shared} {happened : List SessionDeed}
    {result : WorkerResult} (hstage : w₀.stage = .start)
    (hrun : Run Hosted (w₀, s₀) happened (w, s)) (hdone : w.result? = some result) :
    result.Told s.panicsOnReport s₀.host.diagnostics s.host.diagnostics := by
  have htelling := telling_of_run hstage hrun
  unfold Telling at htelling
  rw [done_of_result? hdone] at htelling
  exact htelling

end Worker

/-! ### The controller -/

/-- The program of a session, before its first step. -/
def Controller.program (c : Controller) : Worker :=
  { path := c.path, interval := c.config.hookInterval }

/-- What a session has come to, when the host has been shut down. -/
def Controller.conclusion (c : Controller) (s : Shared) (t : Termination) (joinWait : Nat)
    (failure : Option WorkerResult) : ControllerResult :=
  inlineResult (failure.getD .returned)
    (outcome { c with transitions := c.transitions ++ [.closed] } s t joinWait).1

namespace Threads

variable {t t' : Threads} {s s' : Shared} {released : Bool} {turn : ThreadTurn}
  {signals : List Signal} {happened : List SessionDeed}

/-- **The controller cannot go on yet.** -/
inductive IsBlocked (t : Threads) (s : Shared) (released : Bool) : Prop
  | mainLoop (hstage : t.controller.stage = .mainLoop) (h : s.host.exitRequested = false)
  | linger (hstage : t.controller.stage = .linger)
      (h : Controller.isReleased t.controller.linger (view t.worker t.askedExit released) = false)
  | waitFinished {since deadline : Nat} (hstage : t.controller.stage = .waitFinished since deadline)
      (hphase : s.slot.isFinished = false) (hclock : s.clock < deadline)
  | join {since : Nat} (hstage : t.controller.stage = .join since)
      (h : t.worker.bind Worker.result? = none)

/-- **The steps of a controller** that are not steps of the program. -/
inductive Controls (t : Threads) (s : Shared) (released : Bool) : Threads → Shared → Prop
  | initializes (hstage : t.controller.stage = .start) (hcode : s.host.initCode = 0) :
      Controls t s released { t with controller := { t.controller with stage := .askMainLoop } }
        { s with host := s.host.hardwareInit.1, slot := {} }
  | cannotInitialize (hstage : t.controller.stage = .start) (hcode : s.host.initCode ≠ 0) :
      Controls t s released
        { t with controller :=
          { t.controller with stage := .done (.error (.hardwareInit s.host.initCode)) } }
        { s with host := s.host.hardwareInit.1 }
  | hasMainLoop (hstage : t.controller.stage = .askMainLoop) (hloop : s.host.hasMainLoop = true) :
      Controls t s released { t with controller := { t.controller with stage := .spawn } } s
  | hasNone (hstage : t.controller.stage = .askMainLoop) (hloop : s.host.hasMainLoop = false) :
      Controls t s released
        { t with controller :=
          { t.controller with
            stage := .inline_ t.controller.program
            transitions := t.controller.transitions ++ [.inline_] } } s
  | inlineOver {w : Worker} {result : WorkerResult} (hstage : t.controller.stage = .inline_ w)
      (hdone : w.result? = some result) (h : ∀ p, result ≠ .panicked p) :
      Controls t s released
        { t with controller :=
          { t.controller with stage := .shutdown .inline_ 0 (some result) } } s
  | inlineEscapes {w : Worker} {p : Payload} (hstage : t.controller.stage = .inline_ w)
      (hdone : w.result? = some (.panicked p)) :
      Controls t s released
        { t with controller := { t.controller with stage := .done (.panicked p) } } s
  | spawns (hstage : t.controller.stage = .spawn) (hfault : s.spawnFault = none) :
      Controls t s released
        { t with
          controller :=
            { t.controller with
              stage := .enterMainLoop
              transitions := t.controller.transitions ++ [.running] }
          worker := some t.controller.program } s
  | cannotSpawn {detail : String} (hstage : t.controller.stage = .spawn)
      (hfault : s.spawnFault = some detail) :
      Controls t s released
        { t with controller := { t.controller with stage := .abort (.spawn detail) } } s
  | entersMainLoop (hstage : t.controller.stage = .enterMainLoop) :
      Controls t s released { t with controller := { t.controller with stage := .mainLoop } }
        { s with host := s.host.enterMainLoop.1 }
  | leavesMainLoop (hstage : t.controller.stage = .mainLoop)
      (hexit : s.host.exitRequested = true) :
      Controls t s released { t with controller := { t.controller with stage := .linger } } s
  | goesOn (hstage : t.controller.stage = .linger)
      (hfree : Controller.isReleased t.controller.linger (view t.worker t.askedExit released)
        = true) :
      Controls t s released
        { t with controller :=
          { t.controller with
            stage := .requestEnd, transitions := t.controller.transitions ++ [.ending] } } s
  | asksEnd {id : Nat} (hstage : t.controller.stage = .requestEnd)
      (hhandle : s.slot.handle = some id) :
      Controls t s released
        { t with controller :=
          { t.controller with
            stage := .beginWait, endRequest := some (s.post id .finish).1 } }
        (s.post id .finish).2
  | asksNobody (hstage : t.controller.stage = .requestEnd) (hhandle : s.slot.handle = none) :
      Controls t s released
        { t with controller := { t.controller with stage := .beginWait, endRequest := none } } s
  | beginsWait (hstage : t.controller.stage = .beginWait) :
      Controls t s released
        { t with controller :=
          { t.controller with
            stage := .waitFinished s.clock (s.clock + t.controller.config.joinTimeoutMs * 1000000)
            transitions := t.controller.transitions ++ [.joinWait] } } s
  | seesFinished {since deadline : Nat} (hstage : t.controller.stage = .waitFinished since deadline)
      (hphase : s.slot.isFinished = true) :
      Controls t s released { t with controller := { t.controller with stage := .join since } } s
  | givesUp {since deadline : Nat} (hstage : t.controller.stage = .waitFinished since deadline)
      (hphase : s.slot.isFinished = false) (hclock : deadline ≤ s.clock) :
      Controls t s released
        { t with controller :=
          { t.controller with
            stage := .shutdown .detached (s.clock - since) none
            transitions := t.controller.transitions ++ [.detached] } } s
  | joins {since : Nat} {w : Worker} {result : WorkerResult}
      (hstage : t.controller.stage = .join since) (hworker : t.worker = some w)
      (hdone : w.result? = some result) :
      Controls t s released
        { t with controller :=
          { t.controller with
            stage := .shutdown .joined (s.clock - since) none
            transitions := t.controller.transitions ++ [.joined] } } s
  | shutsDown {how : Termination} {joinWait : Nat} {failure : Option WorkerResult}
      (hstage : t.controller.stage = .shutdown how joinWait failure) :
      Controls t s released
        { t with controller :=
          { t.controller with
            stage := .done (t.controller.conclusion s how joinWait failure)
            transitions := t.controller.transitions ++ [.closed] } }
        { s with host := s.host.shutdown.1 }
  | aborts {e : BridgeError} (hstage : t.controller.stage = .abort e) :
      Controls t s released
        { t with controller :=
          { t.controller with
            stage := .done (.error e), transitions := t.controller.transitions ++ [.closed] } }
        { s with host := s.host.shutdown.1 }
  | waits (h : t.IsBlocked s released) : Controls t s released t s

/-- The controller runs the program itself, and the program is not over. -/
def inline? (t : Threads) : Option Worker :=
  match t.controller.stage with
  | .inline_ w => if w.result?.isNone then some w else none
  | _ => none

/-- A step of the controller starts the worker's thread, or leaves it alone. -/
theorem controllerStep_cases (hgo : t.controller.result? = none)
    (h : t.controllerStep s released = (turn, t', s', signals)) :
    ∃ c turn', t.controller.step s (view t.worker t.askedExit released) = (turn', c, s', signals)
      ∧ t' = { t with
        controller := c
        worker := match turn' with
          | .spawned w => some w
          | _ => t.worker } := by
  obtain ⟨controller, worker, askedExit⟩ := t
  change controller.result? = none at hgo
  unfold controllerStep at h
  dsimp only at h ⊢
  rw [hgo] at h
  -- the threads add nothing to what the controller does but the thread that it spawns
  rcases hstep : controller.step s (view worker askedExit released) with ⟨turn', c, s₁, signals₁⟩
  rw [hstep] at h
  refine ⟨c, turn', ?_⟩
  cases turn' with
  | _ =>
    cases h
    exact ⟨rfl, rfl⟩

/-- **A controller takes no other steps.** -/
theorem controls (hgo : t.controller.result? = none) (hown : t.inline? = none)
    (h : t.controllerStep s released = (turn, t', s', signals)) : t.Controls s released t' s' := by
  obtain ⟨c, turn', hstep, rfl⟩ := controllerStep_cases hgo h
  obtain ⟨⟨path, config, linger, stage, transitions, endRequest⟩, worker, askedExit⟩ := t
  unfold Controller.step at hstep
  cases stage with
  | start =>
    dsimp only at hstep
    split at hstep
    · rename_i hcode
      cases hstep
      exact .initializes rfl hcode
    · rename_i hcode
      cases hstep
      exact .cannotInitialize rfl hcode
  | askMainLoop =>
    dsimp only at hstep
    split at hstep
    · rename_i hloop
      cases hstep
      exact .hasMainLoop rfl hloop
    · rename_i hloop
      rw [Bool.not_eq_true] at hloop
      cases hstep
      exact .hasNone rfl hloop
  | inline_ w =>
    dsimp only at hstep
    split at hstep
    · rename_i p hdone
      cases hstep
      exact .inlineEscapes rfl hdone
    · rename_i result hpanicked hdone
      cases hstep
      exact .inlineOver rfl hdone hpanicked
    · -- a program that is not over takes a step of its own
      rename_i hgo'
      unfold inline? at hown
      dsimp only at hown
      rw [hgo'] at hown
      cases hown
  | spawn =>
    dsimp only at hstep
    split at hstep
    · rename_i detail hfault
      cases hstep
      exact .cannotSpawn rfl hfault
    · rename_i hfault
      cases hstep
      exact .spawns rfl hfault
  | enterMainLoop =>
    cases hstep
    exact .entersMainLoop rfl
  | mainLoop =>
    dsimp only at hstep
    split at hstep
    · rename_i hexit
      cases hstep
      exact .leavesMainLoop rfl hexit
    · rename_i hexit
      rw [Bool.not_eq_true] at hexit
      cases hstep
      exact .waits (.mainLoop rfl hexit)
  | linger =>
    dsimp only at hstep
    split at hstep
    · rename_i hfree
      cases hstep
      exact .goesOn rfl hfree
    · rename_i hfree
      rw [Bool.not_eq_true] at hfree
      cases hstep
      exact .waits (.linger rfl hfree)
  | requestEnd =>
    dsimp only at hstep
    cases hhandle : s.slot.handle with
    | some id =>
      rw [hhandle] at hstep
      cases hstep
      exact .asksEnd rfl hhandle
    | none =>
      rw [hhandle] at hstep
      cases hstep
      exact .asksNobody rfl hhandle
  | beginWait =>
    cases hstep
    exact .beginsWait rfl
  | waitFinished since deadline =>
    dsimp only at hstep
    split at hstep
    · rename_i hphase
      cases hstep
      exact .seesFinished rfl hphase
    · rename_i hphase
      rw [Bool.not_eq_true] at hphase
      split at hstep
      · rename_i hclock
        cases hstep
        exact .givesUp rfl hphase hclock
      · rename_i hclock
        cases hstep
        exact .waits (.waitFinished rfl hphase (Nat.lt_of_not_le hclock))
  | join since =>
    -- the controller sees whether the worker's run has ended
    cases hended : worker.bind Worker.result? with
    | none =>
      dsimp only [view] at hstep
      rw [hended] at hstep
      cases hstep
      exact .waits (.join rfl hended)
    | some result =>
      dsimp only [view] at hstep
      rw [hended] at hstep
      obtain ⟨w, rfl, hdone⟩ := Option.bind_eq_some_iff.mp hended
      cases hstep
      exact .joins rfl rfl hdone
  | shutdown how joinWait failure =>
    dsimp only at hstep
    split at hstep
    · rename_i hresult
      cases hstep
      have hconclusion : Controls
          ⟨⟨path, config, linger, .shutdown how joinWait failure, transitions, endRequest⟩,
            worker, askedExit⟩ s released _ _ := .shutsDown rfl
      unfold Controller.conclusion at hconclusion
      rw [hresult] at hconclusion
      exact hconclusion
    · cases hstep
      exact .shutsDown rfl
  | abort e =>
    cases hstep
    exact .aborts rfl
  | done r => cases hgo

/-! ### The moves -/

/-- What happens at a step of the controller's own. -/
def deed (t : Threads) (s : Shared) : SessionDeed :=
  match t.controller.stage, s.slot.handle with
  | .requestEnd, some id => .asksEnd (s.post id .finish).1
  | _, _ => .controller

/-- **The moves of a session.** -/
inductive Move : Threads × Shared → SessionDeed → Threads × Shared → Prop
  | controller {t t' : Threads} {s s' : Shared} {turn : ThreadTurn} {signals : List Signal}
      (released : Bool) (hgo : t.controller.result? = none) (hown : t.inline? = none)
      (h : t.controllerStep s released = (turn, t', s', signals)) :
      Move (t, s) (t.deed s) (t', s')
  | inline_ {t t' : Threads} {s s' : Shared} {w : Worker} {turn : ThreadTurn}
      {signals : List Signal} (released : Bool) (hown : t.inline? = some w)
      (hquiet : w.logging? = none) (h : t.controllerStep s released = (turn, t', s', signals)) :
      Move (t, s) (.program w s) (t', s')
  | worker {t t' : Threads} {s s' : Shared} {w : Worker} {turn : ThreadTurn}
      {signals : List Signal} (hworker : t.worker = some w) (hgo : w.result? = none)
      (hquiet : w.logging? = none) (h : t.workerStep s = (turn, t', s', signals)) :
      Move (t, s) (.program w s) (t', s')
  | inlineLogged {t : Threads} {s : Shared} {w : Worker} {line : String} (panic : Option Payload)
      (hown : t.inline? = some w) (hlog : w.logging? = some line) :
      Move (t, s) (.logged line panic) (t.controllerLogged panic, s)
  | workerLogged {t : Threads} {s : Shared} {w : Worker} {line : String} (panic : Option Payload)
      (hworker : t.worker = some w) (hgo : w.result? = none) (hlog : w.logging? = some line) :
      Move (t, s) (.logged line panic) (t.workerLogged panic, s)
  | exit {t : Threads} {s : Shared} : Move (t, s) .exit (t, { s with host := s.host.requestExit })
  | clock {t : Threads} {s : Shared} {clock : Nat} (h : s.clock ≤ clock) :
      Move (t, s) .clock (t, { s with clock })

theorem inline?_eq_some {w : Worker} (h : t.inline? = some w) :
    t.controller.stage = .inline_ w ∧ w.result? = none := by
  unfold inline? at h
  split at h
  · rename_i w' hstage
    -- the inline stage owns the worker until the worker has a result
    split at h
    · rename_i hgo
      obtain rfl := Option.some.inj h
      exact ⟨hstage, Option.isNone_iff_eq_none.mp hgo⟩
    · cases h
  · cases h

/-- A step of the program that the controller runs itself. -/
theorem inline_cases {w : Worker} (hown : t.inline? = some w)
    (h : t.controllerStep s released = (turn, t', s', signals)) :
    ∃ turn' w', w.step s = (turn', w', s', signals)
      ∧ t' = { t with controller := { t.controller with stage := .inline_ w' } } := by
  obtain ⟨hstage, hgo⟩ := inline?_eq_some hown
  have hresult : t.controller.result? = none := by
    unfold Controller.result?
    rw [hstage]
  -- a controller that runs the program itself does nothing else in that stage
  obtain ⟨c, turn', hstep, rfl⟩ := controllerStep_cases hresult h
  obtain ⟨⟨path, config, linger, stage, transitions, endRequest⟩, worker, askedExit⟩ := t
  obtain rfl : stage = .inline_ w := hstage
  rcases hw : w.step s with ⟨turn₁, w₁, s₁, signals₁⟩
  unfold Controller.step at hstep
  dsimp only at hstep
  rw [hgo] at hstep
  dsimp only at hstep
  rw [hw] at hstep
  cases hstep
  exact ⟨turn₁, w₁, rfl, rfl⟩

/-- A step of the worker's thread. -/
theorem worker_cases {w : Worker} (hworker : t.worker = some w) (hgo : w.result? = none)
    (h : t.workerStep s = (turn, t', s', signals)) :
    ∃ turn' w', w.step s = (turn', w', s', signals)
      ∧ t' = { t with
        worker := some w'
        askedExit := t.askedExit || signals.any fun g => g matches .host .requestExit } := by
  obtain ⟨controller, worker, askedExit⟩ := t
  obtain rfl : worker = some w := hworker
  rcases hw : w.step s with ⟨turn₁, w₁, s₁, signals₁⟩
  -- the thread takes a step of its worker, and notes whether it has asked for an exit
  unfold workerStep at h
  dsimp only at h
  rw [hgo, hw] at h
  cases h
  exact ⟨turn₁, w₁, rfl, rfl⟩

theorem workerLogged_eq {w : Worker} (panic : Option Payload) (hworker : t.worker = some w) :
    t.workerLogged panic = { t with worker := some (w.logged panic) } := by
  obtain ⟨controller, worker, askedExit⟩ := t
  obtain rfl : worker = some w := hworker
  rfl

/-! ### The program of a session -/

/-- **The program of a session**, at each stage of the controller: it is still to be run, the
controller or the worker runs it, or it is over. -/
def Carries (t : Threads) (w : Worker) : Prop :=
  match t.controller.stage with
  | .start | .askMainLoop | .spawn => t.worker = none ∧ w = t.controller.program
  | .abort e => t.worker = none ∧ w = t.controller.program ∧ ∃ detail, e = .spawn detail
  | .inline_ w' => t.worker = none ∧ w = w'
  | .enterMainLoop | .mainLoop | .linger | .requestEnd | .beginWait | .waitFinished .. | .join _ =>
    t.worker = some w
  | .shutdown how _ failure =>
    (t.worker = none ∧ ∃ result, w.result? = some result ∧ failure = some result
        ∧ how = .inline_ ∧ ∀ p, result ≠ .panicked p)
      ∨ (t.worker = some w ∧ failure = none ∧ how ≠ .inline_)
  | .done r =>
    (t.worker = none ∧ w = t.controller.program ∧ ∃ detail, r = .error (.spawn detail))
      ∨ (t.worker = none ∧ ∃ result o, w.result? = some result ∧ r = Controller.inlineResult result o)
      ∨ (t.worker = some w ∧ ∃ o, r = .ok o)

/-- What the program sees. A session begins with a slot of its own. -/
def own (t : Threads) (s : Shared) : Shared :=
  match t.controller.stage with
  | .start => { s with slot := {} }
  | _ => s

/-- The steps of a controller, as the program sees them. -/
theorem Controls.hosted {w : Worker} (h : t.Controls s released t' s')
    (hcode : t.controller.stage = .start → s.host.initCode = 0) (hw : t.Carries w) :
    t'.Carries w ∧ Worker.Hosted (w, t.own s) (t.deed s) (w, t'.own s') := by
  obtain ⟨⟨path, config, linger, stage, transitions, endRequest⟩, worker, askedExit⟩ := t
  -- the program sees of each move at most what its host does, and the next stage carries it on
  cases h with
  | cannotInitialize hstage hzero => exact absurd (hcode hstage) hzero
  | inlineOver hstage hdone hpanicked =>
    obtain rfl : stage = .inline_ _ := hstage
    obtain ⟨hworker, rfl⟩ := hw
    exact ⟨.inl ⟨hworker, _, hdone, rfl, rfl, hpanicked⟩, .host (.inl ⟨rfl, rfl⟩) rfl⟩
  | inlineEscapes hstage hdone =>
    obtain rfl : stage = .inline_ _ := hstage
    obtain ⟨hworker, rfl⟩ := hw
    exact ⟨.inr (.inl ⟨hworker, _, default, hdone, rfl⟩), .host (.inl ⟨rfl, rfl⟩) rfl⟩
  | spawns hstage hfault =>
    obtain rfl : stage = .spawn := hstage
    obtain ⟨hworker, rfl⟩ := hw
    exact ⟨rfl, .host (.inl ⟨rfl, rfl⟩) rfl⟩
  | cannotSpawn hstage hfault =>
    obtain rfl : stage = .spawn := hstage
    obtain ⟨hworker, rfl⟩ := hw
    exact ⟨⟨hworker, rfl, _, rfl⟩, .host (.inl ⟨rfl, rfl⟩) rfl⟩
  | asksEnd hstage hhandle =>
    obtain rfl : stage = .requestEnd := hstage
    refine ⟨hw, ?_⟩
    unfold deed
    dsimp only
    rw [hhandle]
    exact .asksEnd hhandle
  | asksNobody hstage hhandle =>
    obtain rfl : stage = .requestEnd := hstage
    refine ⟨hw, ?_⟩
    unfold deed
    dsimp only
    rw [hhandle]
    exact .host (.inl ⟨rfl, rfl⟩) rfl
  | givesUp hstage | joins hstage =>
    cases hstage
    exact ⟨.inr ⟨hw, rfl, nofun⟩, .host (.inl ⟨rfl, rfl⟩) rfl⟩
  | shutsDown hstage =>
    obtain rfl : stage = .shutdown _ _ _ := hstage
    -- the last stage forgets which program it was, but not how that has ended
    refine ⟨?_, .host (.inl ⟨rfl, rfl⟩) rfl⟩
    rcases hw with ⟨hworker, result, hdone, rfl, -, -⟩ | ⟨hworker, rfl, -⟩
    · exact .inr (.inl ⟨hworker, result, _, hdone, rfl⟩)
    · exact .inr (.inr ⟨hworker, _, rfl⟩)
  | aborts hstage =>
    obtain rfl : stage = .abort _ := hstage
    obtain ⟨hworker, rfl, detail, rfl⟩ := hw
    exact ⟨.inl ⟨hworker, rfl, detail, rfl⟩, .host (.inl ⟨rfl, rfl⟩) rfl⟩
  | waits hblocked =>
    refine ⟨hw, ?_⟩
    cases hblocked with
    | mainLoop hstage | linger hstage | waitFinished hstage | join hstage =>
      cases hstage
      exact .host (.inl ⟨rfl, rfl⟩) rfl
  | initializes hstage | hasMainLoop hstage | hasNone hstage | entersMainLoop hstage
  | leavesMainLoop hstage | goesOn hstage | beginsWait hstage | seesFinished hstage =>
    cases hstage
    exact ⟨hw, .host (.inl ⟨rfl, rfl⟩) rfl⟩

/-- The program is the worker's, once there is a worker. -/
theorem Carries.of_worker {w w₁ : Worker} (hw : t.Carries w) (hworker : t.worker = some w₁) :
    w = w₁ ∧ (∀ worker askedExit s, ({ t with worker, askedExit } : Threads).own s = s)
      ∧ ∀ w' askedExit, ({ t with worker := some w', askedExit } : Threads).Carries w' := by
  obtain ⟨⟨path, config, linger, stage, transitions, endRequest⟩, worker, askedExit⟩ := t
  obtain rfl : worker = some w₁ := hworker
  -- before the thread is started, and where it never is, there is no worker
  cases stage with
  | start => exact nomatch hw.1
  | askMainLoop => exact nomatch hw.1
  | inline_ w' => exact nomatch hw.1
  | spawn => exact nomatch hw.1
  | abort e => exact nomatch hw.1
  | shutdown how joinWait failure =>
    rcases hw with ⟨hnone, -⟩ | ⟨hsome, hfailure, hhow⟩
    · cases hnone
    · obtain rfl := Option.some.inj hsome
      exact ⟨rfl, fun _ _ _ => rfl, fun _ _ => .inr ⟨rfl, hfailure, hhow⟩⟩
  | done r =>
    rcases hw with ⟨hnone, -⟩ | ⟨hnone, -⟩ | ⟨hsome, hresult⟩
    · cases hnone
    · cases hnone
    · obtain rfl := Option.some.inj hsome
      exact ⟨rfl, fun _ _ _ => rfl, fun _ _ => .inr (.inr ⟨rfl, hresult⟩)⟩
  | _ =>
    obtain rfl := Option.some.inj hw
    exact ⟨rfl, fun _ _ _ => rfl, fun _ _ => rfl⟩

/-- **Every move of a session** is one move of its program, or of the program's surroundings. -/
theorem Carries.move {w : Worker} {l : SessionDeed} (hw : t.Carries w)
    (hcode : t.controller.stage = .start → s.host.initCode = 0) (hmove : Move (t, s) l (t', s')) :
    ∃ w', t'.Carries w' ∧ Worker.Hosted (w, t.own s) l (w', t'.own s') := by
  -- the program that the controller runs itself is the one of the stage
  have hinline : ∀ {w₁}, t.inline? = some w₁ → w = w₁ ∧ w₁.result? = none ∧ t.worker = none
      ∧ t.own s = s := by
    intro w₁ hown
    obtain ⟨hstage, hgo⟩ := inline?_eq_some hown
    unfold Carries at hw
    unfold own
    rw [hstage] at hw ⊢
    exact ⟨hw.2, hgo, hw.1, rfl⟩
  cases hmove with
  | controller released hgo hown hstep =>
    exact ⟨w, (controls hgo hown hstep).hosted hcode hw⟩
  | inline_ released hown hquiet hstep =>
    obtain ⟨rfl, hgo, hnone, hsame⟩ := hinline hown
    obtain ⟨turn', w', hw', rfl⟩ := inline_cases hown hstep
    rw [hsame]
    exact ⟨w', ⟨hnone, rfl⟩, .step hgo hquiet hw'⟩
  | worker hworker hgo hquiet hstep =>
    obtain ⟨rfl, hown, hcarries⟩ := hw.of_worker hworker
    obtain ⟨turn', w', hw', rfl⟩ := worker_cases hworker hgo hstep
    refine ⟨w', hcarries _ _, ?_⟩
    rw [show t.own s = s from hown t.worker t.askedExit s, hown]
    exact .step hgo hquiet hw'
  | inlineLogged panic hown hlog =>
    obtain ⟨rfl, hgo, hnone, hsame⟩ := hinline hown
    obtain ⟨hstage, -⟩ := inline?_eq_some hown
    obtain ⟨⟨path, config, linger, stage, transitions, endRequest⟩, worker, askedExit⟩ := t
    obtain rfl : stage = .inline_ w := hstage
    exact ⟨w.logged panic, ⟨hnone, rfl⟩, .logged panic hgo hlog⟩
  | workerLogged panic hworker hgo hlog =>
    obtain ⟨rfl, hown, hcarries⟩ := hw.of_worker hworker
    rw [workerLogged_eq panic hworker]
    refine ⟨w.logged panic, hcarries _ _, ?_⟩
    rw [show t.own s = s from hown t.worker t.askedExit s, hown]
    exact .logged panic hgo hlog
  | exit =>
    refine ⟨w, hw, ?_⟩
    -- the slot of the session has nothing to do with the host
    unfold own
    split
    · exact .host (.inr rfl) rfl
    · exact .host (.inr rfl) rfl
  | clock hlater =>
    refine ⟨w, hw, ?_⟩
    unfold own
    split
    · exact .clock hlater
    · exact .clock hlater

/-! ### Runs -/

theorem Controls.steady (h : t.Controls s released t' s') : s.Steady s' := by
  cases h with
  | _ => exact ⟨rfl, rfl, rfl, rfl, rfl⟩

/-- **What no move of a session changes.** -/
theorem Move.steady {x y : Threads × Shared} {l : SessionDeed} (h : Move x l y) :
    x.2.Steady y.2 := by
  cases h with
  | controller released hgo hown hstep => exact (controls hgo hown hstep).steady
  | inline_ released hown hquiet hstep =>
    obtain ⟨-, hgo⟩ := inline?_eq_some hown
    obtain ⟨turn', w', hw', -⟩ := inline_cases hown hstep
    exact (Worker.steps hgo hw').steady
  | worker hworker hgo hquiet hstep =>
    obtain ⟨turn', w', hw', -⟩ := worker_cases hworker hgo hstep
    exact (Worker.steps hgo hw').steady
  -- the log, an exit and the clock touch nothing that is steady
  | inlineLogged => exact .refl _
  | workerLogged => exact .refl _
  | exit => exact ⟨rfl, rfl, rfl, rfl, rfl⟩
  | clock => exact ⟨rfl, rfl, rfl, rfl, rfl⟩

theorem steady_of_run {x y : Threads × Shared} (hrun : Run Move x happened y) : x.2.Steady y.2 :=
  hrun.invariant (P := fun y => x.2.Steady y.2) (fun h hmove => h.trans hmove.steady) (.refl _)

/-- **The program lives through each interleaving as a hosted worker.** -/
theorem run_hosted {c : Controller} {s₀ : Shared} (hstage : c.stage = .start)
    (hcode : s₀.host.initCode = 0) (hrun : Run Move ({ controller := c }, s₀) happened (t, s)) :
    ∃ w, t.Carries w
      ∧ Run Worker.Hosted (c.program, { s₀ with slot := {} }) happened (w, t.own s) := by
  -- the state that the run has reached is a pair, so that the induction can speak of its parts
  generalize hx : (t, s) = x at hrun
  induction hrun generalizing t s with
  | refl =>
    cases hx
    refine ⟨c.program, ?_, ?_⟩
    · unfold Carries
      rw [hstage]
      exact ⟨rfl, rfl⟩
    · unfold own
      rw [hstage]
      exact .refl
  | @tail happened y z l run step ih =>
    subst hx
    obtain ⟨t₁, s₁⟩ := y
    obtain ⟨w, hw, hhosted⟩ := ih rfl
    have hzero : s₁.host.initCode = 0 := (steady_of_run run).initCode.trans hcode
    obtain ⟨w', hw', hstep⟩ := hw.move (fun _ => hzero) step
    exact ⟨w', hw', .tail hhosted hstep⟩

/-! ### Schedules

A schedule says whose turn it is. A thread that cannot go on passes its turn over. -/

/-- One turn of the controller's thread, or of the worker's. -/
def take (isController : Bool) (x : Threads × Shared) : Threads × Shared :=
  let (t, s) := x
  if isController then
    match t.inline? with
    | some w =>
      if w.logging?.isNone then ((t.controllerStep s true).2.1, (t.controllerStep s true).2.2.1)
      else (t, s)
    | none =>
      if t.controller.result?.isNone then
        ((t.controllerStep s true).2.1, (t.controllerStep s true).2.2.1)
      else (t, s)
  else
    match t.worker with
    | some w =>
      if w.result?.isNone && w.logging?.isNone then
        ((t.workerStep s).2.1, (t.workerStep s).2.2.1)
      else (t, s)
    | none => (t, s)

/-- The turns of a schedule, one after the other. -/
def follow : List Bool → Threads × Shared → Threads × Shared
  | [], x => x
  | isController :: rest, x => follow rest (take isController x)

theorem isTurn_deed (t : Threads) (s : Shared) : (t.deed s).isTurn = true := by
  unfold deed
  split
  · rfl
  · rfl

theorem run_take (isController : Bool) (x : Threads × Shared) :
    ∃ happened, Run Move x happened (take isController x) ∧ ∀ l ∈ happened, l.isTurn = true := by
  obtain ⟨t, s⟩ := x
  -- a turn that can be taken is one move, any other leaves all as it is
  have hsingle : ∀ {l : SessionDeed} {y : Threads × Shared}, Move (t, s) l y → l.isTurn = true →
      ∃ happened, Run Move (t, s) happened y ∧ ∀ l ∈ happened, l.isTurn = true := by
    intro l y hmove hturn
    refine ⟨[l], .single hmove, ?_⟩
    intro l' hmem
    rw [List.mem_singleton.mp hmem]
    exact hturn
  unfold take
  dsimp only
  split
  · split
    · rename_i w hown
      split
      · rename_i hquiet
        exact hsingle (.inline_ true hown (Option.isNone_iff_eq_none.mp hquiet) rfl) rfl
      · exact ⟨_, .refl, fun _ hmem => absurd hmem List.not_mem_nil⟩
    · rename_i hown
      split
      · rename_i hgo
        have hresult := Option.isNone_iff_eq_none.mp hgo
        exact hsingle (.controller true hresult hown rfl) (isTurn_deed t s)
      · exact ⟨_, .refl, fun _ hmem => absurd hmem List.not_mem_nil⟩
  · split
    · rename_i w hworker
      split
      · rename_i hboth
        rw [Bool.and_eq_true, Option.isNone_iff_eq_none, Option.isNone_iff_eq_none] at hboth
        exact hsingle (.worker hworker hboth.1 hboth.2 rfl) rfl
      · exact ⟨_, .refl, fun _ hmem => absurd hmem List.not_mem_nil⟩
    · exact ⟨_, .refl, fun _ hmem => absurd hmem List.not_mem_nil⟩

/-- **A schedule is followed by turns of the threads only.** -/
theorem turns_follow (schedule : List Bool) (x : Threads × Shared) :
    ∃ happened, Run Move x happened (follow schedule x) ∧ ∀ l ∈ happened, l.isTurn = true := by
  induction schedule generalizing x with
  | nil => exact ⟨_, .refl, fun _ hmem => absurd hmem List.not_mem_nil⟩
  -- one turn for each entry of the schedule, then the rest of it
  | cons isController rest ih =>
    obtain ⟨first, hfirst, hturns⟩ := run_take isController x
    obtain ⟨later, hlater, hturns'⟩ := ih (take isController x)
    refine ⟨_, hfirst.trans hlater, fun l hmem => ?_⟩
    rcases List.mem_append.mp hmem with hbefore | hafter
    · exact hturns l hbefore
    · exact hturns' l hafter

theorem run_follow (schedule : List Bool) (x : Threads × Shared) :
    ∃ happened, Run Move x happened (follow schedule x) := by
  obtain ⟨happened, hrun, -⟩ := turns_follow schedule x
  exact ⟨happened, hrun⟩

end Threads
end RobotSession
