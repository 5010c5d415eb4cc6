import RobotSession.Proofs.Bridge.Coherence
import RobotSession.Proofs.Bridge.Teardown

/-!
# The calls on the host

Two threads call the same host: the controller, which brings it up, runs its main loop and shuts
it down, and the program, which tells it of a failure and asks it to leave its main loop. No lock
keeps them apart, so their calls may come in many orders. What is known of the order follows from
two lists: the calls that the controller has made at each of its stages, and the calls that the
program has made at each of its own.

* `Threads.Voiced` — the moves of a session, with the calls that they make.
* `Controller.Stage.calls`, `Worker.Stage.calls` — the calls of a thread up to a stage.
* `Threads.Orderly` — the calls of a session in order.
* `Threads.orderly_of_run` — every interleaving makes its calls in order.
-/

namespace RobotSession

open Lua

/-! ### The calls of a step -/

/-- The program takes a step. -/
def SessionDeed.isProgramStep : SessionDeed → Bool
  | .program .. => true
  | _ => false

/-- A thread takes a step: it is neither the log, nor somebody else, nor the clock. -/
def SessionDeed.isStep : SessionDeed → Bool
  | .controller | .asksEnd _ | .program .. => true
  | .logged .. | .exit | .clock => false

/-! ### The program -/

/-- The calls with which a program that has this result has told the host of its failure. -/
def WorkerResult.calls : WorkerResult → List HostCall
  | .failed e => [.sendError e.kind]
  | .returned | .panicked _ => []

/-- A program tells of one failure at most. -/
theorem WorkerResult.calls_cases (result : WorkerResult) :
    result.calls = [] ∨ ∃ kind, result.calls = [.sendError kind] := by
  cases result with
  | failed e => exact .inr ⟨e.kind, rfl⟩
  | _ => exact .inl rfl

namespace Worker

/-- What is no step of the program leaves its stage as it is. -/
theorem Hosted.stage_eq {x y : Worker × Shared} {l : SessionDeed} (h : Hosted x l y)
    (hl : l.isProgramStep = false) : y.1.stage = x.1.stage := by
  cases h with
  | step => cases hl
  | _ => rfl

/-- What a step of the program comes to is known from its label. -/
theorem Hosted.step_eq {w w₀ w₁ w' : Worker} {s s₀ s₁ s' : Shared} {t : WorkerTurn}
    {signals : List Signal} (h : Hosted (w, s) (.program w₀ s₀) (w', s'))
    (hstep : w₀.step s₀ = (t, w₁, s₁, signals)) : w₀ = w ∧ w₁ = w' := by
  cases h with
  | step hgo hquiet h =>
    rw [h] at hstep
    cases hstep
    exact ⟨rfl, rfl⟩
  | host hl h => rcases hl with ⟨hl, -⟩ | hl <;> cases hl

/-- **The calls of a program** up to a stage. -/
def Stage.calls : Stage → List HostCall
  | .finish result | .requestExit result => result.calls
  | .done result => result.calls ++ [.requestExit]
  | _ => []

variable {w w₀ w' : Worker} {s s₀ s' : Shared} {t : WorkerTurn} {signals : List Signal}

/-- **The calls of a step** are those that the program has made after it, and not before. -/
theorem calls_step (hgo : w.result? = none) (hpanics : s.panicsOnReport = false)
    (hstep : w.step s = (t, w', s', signals)) :
    w'.stage.calls = w.stage.calls ++ hostCalls signals := by
  rw [hostCalls_step hstep]
  have hsteps := steps hgo hstep
  obtain ⟨path, interval, engine, stage⟩ := w
  -- each case knows the stage before the step and the one after, and with them both lists of calls
  cases hsteps with
  | passesOver hengine hover =>
    cases hover with
    | _ => rfl
  | drives hstage hengine hturn hid hdrives =>
    obtain rfl : stage = .drive := hstage
    cases hdrives with
    | _ => rfl
  | @closes e engine' result stage' hstage hengine hid hnext =>
    obtain rfl : stage = .closeInbox result := hstage
    rcases hnext with rfl | rfl
    · rfl
    · rfl
  | @finalizes e e₁ engine' s₁ t₁ signals₁ result stage' hstage hengine hturn hid hnext =>
    obtain rfl : stage = .closeEngine result := hstage
    rcases hnext with rfl | rfl
    · rfl
    · rfl
  | @succeeds result hstage hfailed =>
    obtain rfl : stage = .report result := hstage
    cases result with
    | failed e => exact absurd rfl (hfailed e)
    | _ => rfl
  | panics hstage hpanics' => exact nomatch hpanics.symm.trans hpanics'
  | @finishes result hstage =>
    obtain rfl : stage = .finish result := hstage
    exact (List.append_nil _).symm
  | cannotOpen hstage | opens hstage | publishes hstage | loads hstage | cannotLoad hstage
  | marks hstage | enters hstage | counts hstage | fails hstage | tells hstage | asksExit hstage =>
    cases hstage
    rfl

/-- A program that goes on has told of one failure at most. -/
theorem calls_of_going (hgo : w.result? = none) :
    w.stage.calls = [] ∨ ∃ kind, w.stage.calls = [.sendError kind] := by
  cases hstage : w.stage with
  | finish result | requestExit result => exact result.calls_cases
  | done result => exact nomatch (result?_of_done hstage).symm.trans hgo
  | _ => exact .inl rfl

/-- The host is asked to exit when the handle is withdrawn and the slot finished. -/
theorem Accounts.slot_of_exit {ids : List Nat} (h : w.Accounts s ids) (hgo : w.result? = none)
    (hstep : w.step s = (t, w', s', signals)) (hexit : .requestExit ∈ hostCalls signals) :
    s.slot.handle = none ∧ s.slot.phase = .finished := by
  have hasks : w.asksExit s = true := by
    unfold asksExit
    rw [hstep]
    exact List.any_eq_true.mpr ⟨_, mem_hostCalls hexit, rfl⟩
  -- only a worker that has finished asks for an exit
  rcases exit_cases hgo hstep with ⟨result, hstage, -, -⟩ | ⟨hnot, -⟩
  · have hstands := h.stands
    unfold Stands at hstands
    rw [hstage] at hstands
    exact ⟨(h.sound.finished hstands.2).1, hstands.2⟩
  · exact nomatch hnot.symm.trans hasks

/-- The next step changes the phase of the slot, and wakes whoever waits for that. -/
def Stage.rings : Stage → Bool
  | .publish | .markRunning _ | .finish _ => true
  | _ => false

/-- No other step changes the phase. -/
theorem Steps.phase (h : w.Steps s w' s') (hrings : w.stage.rings = false) :
    s'.slot.phase = s.slot.phase := by
  cases h with
  -- these are the steps that ring
  | publishes hstage | marks hstage | finishes hstage =>
    rw [hstage] at hrings
    cases hrings
  | drives hstage hengine hturn hid hdrives =>
    -- a turn of the engine leaves the slot alone
    obtain ⟨-, halike, -⟩ := Engine.turn_alike hturn
    have hslot := congrArg Slot.phase halike.slot
    cases hdrives with
    | _ => exact hslot
  | finalizes hstage hengine hturn =>
    obtain ⟨-, halike, -⟩ := Engine.turn_alike hturn
    exact congrArg Slot.phase halike.slot
  | _ => rfl

/-- **The slot is finished** by the last step but one. -/
theorem Steps.finished (h : w.Steps s w' s')
    (hw : s.slot.phase = .finished → w.stage.part = .finished) :
    s'.slot.phase = .finished → w'.stage.part = .finished := by
  -- before the last two stages, the phase is kept or another one is set
  have hkeeps : s'.slot.phase = s.slot.phase → w.stage.part ≠ .finished →
      s'.slot.phase = .finished → w'.stage.part = .finished := by
    intro hsame hpart hphase
    exact absurd (hw (hsame.symm.trans hphase)) hpart
  have hrests := h.phase
  cases h with
  | finishes hstage => exact fun _ => rfl
  | asksExit hstage => exact fun _ => rfl
  | publishes hstage => exact nofun
  | marks hstage => exact nofun
  | passesOver hengine hover =>
    refine hkeeps rfl ?_
    generalize w.stage = stage at hover
    cases hover with
    | _ => exact nofun
  | cannotOpen hstage | opens hstage | loads hstage | cannotLoad hstage | drives hstage
  | enters hstage | closes hstage | finalizes hstage | counts hstage | fails hstage
  | succeeds hstage | tells hstage | panics hstage =>
    rw [hstage] at hrests hkeeps
    exact hkeeps (hrests rfl) nofun

/-- A program whose slot is finished has only to ask the host to exit. -/
theorem finished_of_run {happened : List SessionDeed} (hslot : s₀.slot = {})
    (hrun : Run Hosted (w₀, s₀) happened (w, s)) (hphase : s.slot.phase = .finished) :
    ∃ result, w.stage = .requestExit result ∨ w.stage = .done result := by
  -- the phase and the part are entered together, which is kept along the run
  have hpart : w.stage.part = .finished := by
    refine hrun.invariant (P := fun x => x.2.slot.phase = .finished → x.1.stage.part = .finished)
      (fun h hmove => ?_) ?_ hphase
    · cases hmove with
      | step hgo hquiet hstep => exact (steps hgo hstep).finished h
      | _ => exact h
    · rw [hslot]
      exact nofun
  cases hstage : w.stage with
  | requestExit result => exact ⟨result, .inl rfl⟩
  | done result => exact ⟨result, .inr rfl⟩
  | _ =>
    rw [hstage] at hpart
    cases hpart

end Worker

/-! ### The controller -/

namespace HostCall

/-- The calls with which a session begins, if the hardware is initialized. -/
def asked (hasMainLoop : Bool) : List HostCall :=
  [.hardwareInit 0, .hasMainLoop hasMainLoop]

/-- The calls of a session until the host may be shut down. -/
def looped (hasMainLoop : Bool) : List HostCall :=
  asked hasMainLoop ++ if hasMainLoop then [.runMainLoop, .mainLoopReturned] else []

/-- **The calls of a controller** over a session. -/
def protocol (hasMainLoop : Bool) : List HostCall :=
  looped hasMainLoop ++ [.shutdown]

end HostCall

namespace Controller

open HostCall (asked looped protocol)

/-- **The calls of a controller** up to a stage. -/
def Stage.calls (hasMainLoop : Bool) : Stage → List HostCall
  | .start => []
  | .askMainLoop => [.hardwareInit 0]
  | .inline_ _ | .spawn | .enterMainLoop | .abort _ => asked hasMainLoop
  | .mainLoop | .linger => asked hasMainLoop ++ [.runMainLoop]
  | .requestEnd | .beginWait | .waitFinished .. | .join _ =>
    asked hasMainLoop ++ [.runMainLoop, .mainLoopReturned]
  | .shutdown .. => looped hasMainLoop
  | .done (.ok _) | .done (.error (.session _)) => protocol hasMainLoop
  | .done (.error (.spawn _)) => asked hasMainLoop ++ [.shutdown]
  | .done (.error (.hardwareInit code)) => [.hardwareInit code]
  | .done (.panicked _) => asked hasMainLoop

/-- The controller does not ask the host to exit. -/
theorem Stage.requestExit_not_mem (stage : Stage) (hasMainLoop : Bool) :
    .requestExit ∉ stage.calls hasMainLoop := by
  cases stage with
  | done r =>
    cases r with
    | error e => cases e <;> cases hasMainLoop <;> simp [Stage.calls, protocol, looped, asked]
    | _ => cases hasMainLoop <;> simp [Stage.calls, protocol, looped, asked]
  | _ => cases hasMainLoop <;> simp [Stage.calls, looped, asked]

variable {c c' : Controller} {s s' : Shared} {v : WorkerView} {turn : ControllerTurn}
  {signals : List Signal}

/-- **The calls of a step** are those that the controller has made after it, and not before. -/
theorem calls_step (hgo : c.result? = none) (hfits : c.stage.Fits s.host.hasMainLoop)
    (hinline : ∀ w, c.stage = .inline_ w → w.result?.isSome = true)
    (hshutdown : ∀ how joinWait p, c.stage ≠ .shutdown how joinWait (some (.panicked p)))
    (habort : ∀ e, c.stage = .abort e → ∃ detail, e = .spawn detail)
    (hstep : c.step s v = (turn, c', s', signals)) :
    c'.stage.calls s.host.hasMainLoop
      = c.stage.calls s.host.hasMainLoop ++ hostCalls signals := by
  obtain ⟨path, config, linger, stage, transitions, endRequest⟩ := c
  change Stage.Fits s.host.hasMainLoop stage at hfits
  cases stage with
  | start =>
    unfold Controller.step at hstep
    dsimp only at hstep
    split at hstep
    · rename_i hcode
      cases hstep
      change _ = [HostCall.hardwareInit s.host.initCode]
      rw [hcode]
      rfl
    · cases hstep
      rfl
  | askMainLoop =>
    unfold Controller.step at hstep
    dsimp only at hstep
    split at hstep
    · cases hstep
      rfl
    · cases hstep
      rfl
  | inline_ w =>
    have hloop : s.host.hasMainLoop = false := hfits
    obtain ⟨result, hresult⟩ := Option.isSome_iff_exists.mp (hinline w rfl)
    unfold Controller.step at hstep
    dsimp only at hstep
    rw [hresult] at hstep
    rw [hloop]
    cases result with
    | _ =>
      cases hstep
      rfl
  | spawn | mainLoop =>
    unfold Controller.step at hstep
    dsimp only at hstep
    split at hstep
    · cases hstep
      exact (List.append_nil _).symm
    · cases hstep
      exact (List.append_nil _).symm
  | enterMainLoop =>
    cases hstep
    rfl
  | linger =>
    unfold Controller.step at hstep
    dsimp only at hstep
    split at hstep
    · cases hstep
      rfl
    · cases hstep
      exact (List.append_nil _).symm
  | requestEnd | beginWait =>
    cases hstep
    exact (List.append_nil _).symm
  | waitFinished since deadline =>
    have hloop : s.host.hasMainLoop = true := hfits
    rw [hloop]
    unfold Controller.step at hstep
    dsimp only at hstep
    split at hstep
    · cases hstep
      rfl
    · split at hstep
      · cases hstep
        rfl
      · cases hstep
        rfl
  | join since =>
    have hloop : s.host.hasMainLoop = true := hfits
    rw [hloop]
    unfold Controller.step at hstep
    dsimp only at hstep
    split at hstep
    · cases hstep
      rfl
    · rename_i panicked _
      cases hstep
      cases panicked <;> rfl
  | shutdown how joinWait failure =>
    unfold Controller.step at hstep
    dsimp only at hstep
    split at hstep
    · cases hstep
      rfl
    · rename_i f hreturned
      cases hstep
      -- the failure of a session is not a panic here
      cases failure with
      | none => exact absurd rfl (hreturned)
      | some result =>
        cases result with
        | returned => exact absurd rfl hreturned
        | failed e => rfl
        | panicked p => exact absurd rfl (hshutdown how joinWait p)
  | abort e =>
    obtain ⟨detail, rfl⟩ := habort e rfl
    cases hstep
    rfl
  | done r => cases hgo

end Controller

/-! ### Sessions with their calls -/

/-- The calls on the host, in order. -/
def heard (happened : List (SessionDeed × List HostCall)) : List HostCall :=
  happened.flatMap Prod.snd

/-- The calls that the program has made, in order. -/
def heardOfProgram (happened : List (SessionDeed × List HostCall)) : List HostCall :=
  happened.flatMap fun l => if l.1.isProgramStep then l.2 else []

/-- The calls that the controller has made, in order. -/
def heardOfController (happened : List (SessionDeed × List HostCall)) : List HostCall :=
  happened.flatMap fun l => if l.1.isProgramStep then [] else l.2

section Heard

variable {happened : List (SessionDeed × List HostCall)} {c : HostCall}

theorem heard_append (happened : List (SessionDeed × List HostCall)) (l : SessionDeed)
    (calls : List HostCall) : heard (happened ++ [(l, calls)]) = heard happened ++ calls := by
  unfold heard
  rw [List.flatMap_append, List.flatMap_singleton]

theorem heardOfProgram_append (happened : List (SessionDeed × List HostCall)) (l : SessionDeed)
    (calls : List HostCall) : heardOfProgram (happened ++ [(l, calls)])
      = heardOfProgram happened ++ if l.isProgramStep then calls else [] := by
  unfold heardOfProgram
  rw [List.flatMap_append, List.flatMap_singleton]

theorem heardOfController_append (happened : List (SessionDeed × List HostCall)) (l : SessionDeed)
    (calls : List HostCall) : heardOfController (happened ++ [(l, calls)])
      = heardOfController happened ++ if l.isProgramStep then [] else calls := by
  unfold heardOfController
  rw [List.flatMap_append, List.flatMap_singleton]

/-- What is heard is heard of one of them. -/
theorem mem_heard (h : c ∈ heard happened) :
    c ∈ heardOfController happened ∨ c ∈ heardOfProgram happened := by
  obtain ⟨l, hl, hc⟩ := List.mem_flatMap.mp h
  -- every call is made by one of the two parties
  cases hprogram : l.1.isProgramStep with
  | true =>
    refine .inr (List.mem_flatMap.mpr ⟨l, hl, ?_⟩)
    rw [hprogram]
    exact hc
  | false =>
    refine .inl (List.mem_flatMap.mpr ⟨l, hl, ?_⟩)
    rw [hprogram]
    exact hc

/-- As long as the program has made no call, the controller has made them all. -/
theorem heard_eq_heardOfController (h : heardOfProgram happened = []) :
    heard happened = heardOfController happened := by
  unfold heard heardOfController
  refine List.flatMap_congr fun l hl => ?_
  have hnone := List.flatMap_eq_nil_iff.mp h l hl
  cases hprogram : l.1.isProgramStep with
  | true =>
    rw [hprogram] at hnone
    exact hnone
  | false => rfl

end Heard

/-- The controller has waited for the program to be over. -/
def ControllerResult.isAwaited : ControllerResult → Bool
  | .ok o => o.termination != .detached
  | .error (.session _) => true
  | .error _ | .panicked _ => false

theorem Worker.Stage.shutdown_not_mem (stage : Worker.Stage) : .shutdown ∉ stage.calls := by
  cases stage with
  | finish result | requestExit result | done result =>
    cases result with
    | _ => simp [Worker.Stage.calls, WorkerResult.calls]
  | _ => exact List.not_mem_nil

theorem Controller.done_of_result? {c : Controller} {r : ControllerResult}
    (h : c.result? = some r) : c.stage = .done r := by
  unfold Controller.result? at h
  split at h
  · rw [← Option.some.inj h]
    assumption
  · cases h

theorem Controller.calls_done {r : ControllerResult} (h : r.isAwaited = true) (hasMainLoop : Bool) :
    Controller.Stage.calls hasMainLoop (.done r) = HostCall.looped hasMainLoop ++ [.shutdown] := by
  cases r with
  | ok o => rfl
  | panicked p => cases h
  | error e =>
    cases e with
    | session e => rfl
    | _ => cases h

namespace Threads

variable {t t' : Threads} {s₀ s s' : Shared} {released : Bool} {turn : ThreadTurn}
  {happened : List (SessionDeed × List HostCall)} {x y : Threads × Shared}

/-- **The moves of a session**, with the calls on the host that a step makes. -/
inductive Voiced : Threads × Shared → SessionDeed × List HostCall → Threads × Shared → Prop
  | controller {t t' : Threads} {s s' : Shared} {turn : ThreadTurn} {signals : List Signal}
      (released : Bool) (hgo : t.controller.result? = none) (hown : t.inline? = none)
      (h : t.controllerStep s released = (turn, t', s', signals)) :
      Voiced (t, s) (t.deed s, hostCalls signals) (t', s')
  | inline_ {t t' : Threads} {s s' : Shared} {w : Worker} {turn : ThreadTurn}
      {signals : List Signal} (released : Bool) (hown : t.inline? = some w)
      (hquiet : w.logging? = none) (h : t.controllerStep s released = (turn, t', s', signals)) :
      Voiced (t, s) (.program w s, hostCalls signals) (t', s')
  | worker {t t' : Threads} {s s' : Shared} {w : Worker} {turn : ThreadTurn}
      {signals : List Signal} (hworker : t.worker = some w) (hgo : w.result? = none)
      (hquiet : w.logging? = none) (h : t.workerStep s = (turn, t', s', signals)) :
      Voiced (t, s) (.program w s, hostCalls signals) (t', s')
  | aside {x y : Threads × Shared} {l : SessionDeed} (h : Move x l y) (hl : l.isStep = false) :
      Voiced x (l, []) y

theorem Voiced.move {l : SessionDeed × List HostCall} (h : Voiced x l y) : Move x l.1 y := by
  cases h with
  | controller released hgo hown h => exact .controller released hgo hown h
  | inline_ released hown hquiet h => exact .inline_ released hown hquiet h
  | worker hworker hgo hquiet h => exact .worker hworker hgo hquiet h
  | aside h hl => exact h

/-- Every move makes its calls. -/
theorem Move.voiced {l : SessionDeed} (h : Move x l y) : ∃ calls, Voiced x (l, calls) y := by
  cases h with
  | controller released hgo hown h => exact ⟨_, .controller released hgo hown h⟩
  | inline_ released hown hquiet h => exact ⟨_, .inline_ released hown hquiet h⟩
  | worker hworker hgo hquiet h => exact ⟨_, .worker hworker hgo hquiet h⟩
  | inlineLogged panic hown hlog => exact ⟨_, .aside (.inlineLogged panic hown hlog) rfl⟩
  | workerLogged panic hworker hgo hlog =>
    exact ⟨_, .aside (.workerLogged panic hworker hgo hlog) rfl⟩
  | exit => exact ⟨_, .aside .exit rfl⟩
  | clock h => exact ⟨_, .aside (.clock h) rfl⟩

theorem run_move_of_voiced (hrun : Run Voiced x happened y) :
    Run Move x (happened.map Prod.fst) y := by
  induction hrun with
  | refl => exact .refl
  | tail run step ih =>
    rw [List.map_append]
    exact .tail ih step.move

theorem run_voiced {deeds : List SessionDeed} (hrun : Run Move x deeds y) :
    ∃ happened, Run Voiced x happened y ∧ happened.map Prod.fst = deeds := by
  induction hrun with
  | refl => exact ⟨[], .refl, rfl⟩
  | @tail deeds y z l run step ih =>
    obtain ⟨happened, hvoiced, hdeeds⟩ := ih
    obtain ⟨calls, hstep⟩ := step.voiced
    refine ⟨_, .tail hvoiced hstep, ?_⟩
    rw [List.map_append, hdeeds]
    rfl

/-! ### What is known at each stage -/

/-- Once the controller has waited for the program, nobody calls the host after the shutdown. -/
def ClosesLast (t : Threads) (w : Worker) (happened : List (SessionDeed × List HostCall)) : Prop :=
  match t.controller.stage with
  | .shutdown how _ _ => how ≠ .detached → w.result?.isSome = true
  | .done r => r.isAwaited = true → w.result?.isSome = true
    ∧ ∃ before, heard happened = before ++ [.shutdown] ∧ .shutdown ∉ before
  | _ => True

theorem isProgramStep_deed (t : Threads) (s : Shared) : (t.deed s).isProgramStep = false := by
  unfold deed
  split
  · rfl
  · rfl

theorem isStep_deed (t : Threads) (s : Shared) : (t.deed s).isStep = true := by
  unfold deed
  split
  · rfl
  · rfl

/-- **The calls that have been made** at the stages of the controller and of the program. -/
structure Voices (t : Threads) (s : Shared) (w : Worker)
    (happened : List (SessionDeed × List HostCall)) : Prop where
  controller : heardOfController happened = t.controller.stage.calls s.host.hasMainLoop
  program : heardOfProgram happened = w.stage.calls
  begun : heardOfProgram happened ≠ [] → HostCall.asked s.host.hasMainLoop <+: heard happened
  last : t.ClosesLast w happened

theorem ClosesLast.of_stage {w w' : Worker} (h : t.ClosesLast w happened)
    (hstage : w'.stage = w.stage) : t.ClosesLast w' happened := by
  have hresult : w'.result? = w.result? := by
    unfold Worker.result?
    rw [hstage]
  unfold ClosesLast
  rw [hresult]
  exact h

namespace Voices

variable {w w' : Worker}

/-- Only the stage of the program matters. -/
theorem of_stage (h : Voices t s w happened) (hstage : w'.stage = w.stage) :
    Voices t s w' happened := by
  refine ⟨h.controller, ?_, h.begun, h.last.of_stage hstage⟩
  rw [hstage]
  exact h.program

/-- Nobody has shut the host down before the controller comes to it. -/
theorem shutdown_not_mem {how : Termination} {joinWait : Nat} {failure : Option WorkerResult}
    (h : Voices t s w happened) (hstage : t.controller.stage = .shutdown how joinWait failure) :
    .shutdown ∉ heard happened := by
  intro hmem
  -- neither of the two has called it yet: the stage says so for the controller, and the program
  -- never does
  rcases mem_heard hmem with hcontroller | hprogram
  · rw [h.controller, hstage] at hcontroller
    change HostCall.shutdown ∈ HostCall.looped s.host.hasMainLoop at hcontroller
    cases hloop : s.host.hasMainLoop with
    | true =>
      rw [hloop] at hcontroller
      revert hcontroller
      decide
    | false =>
      rw [hloop] at hcontroller
      revert hcontroller
      decide
  · rw [h.program] at hprogram
    exact w.stage.shutdown_not_mem hprogram

/-- The stages to which the controller comes by a step of its own. -/
theorem closesLast_of_controls (h : Voices t s w happened) (hw : t.Carries w)
    (hgo : t.controller.result? = none) (hcontrols : t.Controls s released t' s')
    {calls : List HostCall}
    (hmade : t'.controller.stage.calls s.host.hasMainLoop
      = t.controller.stage.calls s.host.hasMainLoop ++ calls) :
    t'.ClosesLast w (happened ++ [(t.deed s, calls)]) := by
  have hlast := h.last
  have hshutdown : ∀ how joinWait failure,
      t.controller.stage = .shutdown how joinWait failure → .shutdown ∉ heard happened :=
    fun _ _ _ => h.shutdown_not_mem
  obtain ⟨⟨path, config, linger, stage, transitions, endRequest⟩, worker, askedExit⟩ := t
  cases hcontrols with
  | cannotInitialize hstage hcode => exact nofun
  | inlineOver hstage hdone hpanicked =>
    obtain rfl : stage = .inline_ _ := hstage
    obtain ⟨-, rfl⟩ := hw
    intro _
    rw [hdone]
    rfl
  | inlineEscapes hstage hdone => exact nofun
  | givesUp hstage hphase hclock => exact fun hhow => absurd rfl hhow
  | joins hstage hworker hdone =>
    obtain ⟨rfl, -, -⟩ := hw.of_worker hworker
    intro _
    rw [hdone]
    rfl
  | @shutsDown how joinWait failure hstage =>
    obtain rfl : stage = .shutdown how joinWait failure := hstage
    intro hawaited
    -- who runs the program itself detaches nothing, and a thread that was detached is not awaited
    have hhow : how ≠ .detached := by
      rcases hw with ⟨-, result, -, -, rfl, -⟩ | ⟨-, rfl, -⟩
      · exact nofun
      · rintro rfl
        cases hawaited
    refine ⟨hlast hhow, heard happened, ?_, hshutdown _ _ _ rfl⟩
    rw [heard_append]
    change Controller.Stage.calls _ (.done _) = _ at hmade
    rw [Controller.calls_done hawaited] at hmade
    -- what was made in this step is what is missing from the protocol, the shutdown
    rw [← List.append_cancel_left hmade]
  | aborts hstage =>
    obtain rfl : stage = .abort _ := hstage
    obtain ⟨-, -, detail, rfl⟩ := hw
    exact nofun
  | waits hblocked =>
    cases hblocked with
    | mainLoop hstage | linger hstage | waitFinished hstage | join hstage =>
      unfold ClosesLast
      rw [hstage]
      exact trivial
  | _ => exact trivial

/-- **A step of the controller.** -/
theorem controls {signals : List Signal} (h : Voices t s w happened) (hw : t.Carries w)
    (hfits : t.controller.stage.Fits s.host.hasMainLoop) (hgo : t.controller.result? = none)
    (hown : t.inline? = none) (hstep : t.controllerStep s released = (turn, t', s', signals)) :
    Voices t' s' w (happened ++ [(t.deed s, hostCalls signals)]) := by
  have hcontrols := Threads.controls hgo hown hstep
  have hloop := hcontrols.steady.mainLoop
  have hdeed := t.isProgramStep_deed s
  have hmade : t'.controller.stage.calls s.host.hasMainLoop
      = t.controller.stage.calls s.host.hasMainLoop ++ hostCalls signals := by
    obtain ⟨c, turn', hcstep, rfl⟩ := controllerStep_cases hgo hstep
    refine Controller.calls_step hgo hfits (fun w hstage => ?_) (fun how joinWait p hstage => ?_)
      (fun e hstage => ?_) hcstep
    · -- a program that goes on takes the steps in the controller's place
      unfold inline? at hown
      rw [hstage] at hown
      cases hresult : w.result? with
      | some result => rfl
      | none =>
        dsimp only at hown
        rw [hresult] at hown
        cases hown
    · unfold Carries at hw
      rw [hstage] at hw
      rcases hw with ⟨-, result, -, hfailure, -, hpanicked⟩ | ⟨-, hfailure, -⟩
      · exact hpanicked p (Option.some.inj hfailure).symm
      · cases hfailure
    · unfold Carries at hw
      rw [hstage] at hw
      exact hw.2.2
  refine ⟨?_, ?_, fun hspoken => ?_, h.closesLast_of_controls hw hgo hcontrols hmade⟩
  · rw [heardOfController_append, hdeed, h.controller, hloop, hmade]
    rfl
  · rw [heardOfProgram_append, hdeed, h.program]
    exact List.append_nil _
  · rw [heardOfProgram_append, hdeed] at hspoken
    rw [heard_append, hloop]
    refine (h.begun fun hnone => hspoken ?_).trans (List.prefix_append _ _)
    rw [hnone]
    rfl

/-- **A step of the program.** -/
theorem steps {l : SessionDeed} {turn : WorkerTurn} {signals : List Signal}
    (h : Voices t s w happened) (hpanics : s.panicsOnReport = false) (hl : l.isProgramStep = true)
    (hgo : w.result? = none) (hstep : w.step s = (turn, w', s', signals))
    (hcalls : t'.controller.stage.calls s.host.hasMainLoop
      = t.controller.stage.calls s.host.hasMainLoop)
    (hasked : HostCall.asked s.host.hasMainLoop <+: t.controller.stage.calls s.host.hasMainLoop)
    (hends : t'.ClosesLast w' (happened ++ [(l, hostCalls signals)])) :
    Voices t' s' w' (happened ++ [(l, hostCalls signals)]) := by
  have hloop := (Worker.steps hgo hstep).steady.mainLoop
  have hmade := Worker.calls_step hgo hpanics hstep
  refine ⟨?_, ?_, fun _ => ?_, hends⟩
  · rw [heardOfController_append, hl, h.controller, hloop, hcalls]
    exact List.append_nil _
  · rw [heardOfProgram_append, hl, h.program, hmade]
    rfl
  · rw [heard_append, hloop]
    refine List.IsPrefix.trans ?_ (List.prefix_append _ _)
    -- before the program has called anything, all that was heard is the controller's
    by_cases hnone : heardOfProgram happened = []
    · rw [heard_eq_heardOfController hnone, h.controller]
      exact hasked
    · exact h.begun hnone

/-- **What is neither a step of the controller nor one of the program** makes no call. -/
theorem aside {l : SessionDeed} (h : Voices t s w happened) (hl : l.isProgramStep = false)
    (hloop : s'.host.hasMainLoop = s.host.hasMainLoop) (hstage : w'.stage = w.stage)
    (hcalls : t'.controller.stage.calls s.host.hasMainLoop
      = t.controller.stage.calls s.host.hasMainLoop)
    (hends : t.ClosesLast w happened → t'.ClosesLast w' happened) :
    Voices t' s' w' (happened ++ [(l, [])]) := by
  -- nothing is said to the host
  have hheard : heard (happened ++ [(l, [])]) = heard happened := by
    rw [heard_append, List.append_nil]
  have hprogram : heardOfProgram (happened ++ [(l, [])]) = heardOfProgram happened := by
    rw [heardOfProgram_append, hl]
    exact List.append_nil _
  refine ⟨?_, ?_, ?_, ?_⟩
  · rw [heardOfController_append, hl, h.controller, hloop, hcalls]
    exact List.append_nil _
  · rw [hprogram, h.program, hstage]
  · rw [hprogram, hheard, hloop]
    exact h.begun
  · unfold ClosesLast
    rw [hheard]
    exact hends h.last

/-- The program has begun only when the host has been asked for its main loop. -/
theorem asked_of_worker {w₁ : Worker} (hw : t.Carries w) (hworker : t.worker = some w₁)
    (hloop : Bool) : HostCall.asked hloop <+: t.controller.stage.calls hloop := by
  obtain ⟨⟨path, config, linger, stage, transitions, endRequest⟩, worker, askedExit⟩ := t
  obtain rfl : worker = some w₁ := hworker
  cases stage with
  -- at these stages there is no thread
  | start | askMainLoop | spawn | abort e | inline_ w' => cases hw.1
  | enterMainLoop => exact List.prefix_refl _
  | mainLoop | linger | requestEnd | beginWait | waitFinished since deadline | join since =>
    exact List.prefix_append _ _
  | shutdown how joinWait failure => exact List.prefix_append _ _
  | done r =>
    rcases hw with ⟨hnone, -⟩ | ⟨hnone, -⟩ | ⟨-, o, rfl⟩
    · -- of the endings only the last one is that of a session with a thread
      cases hnone
    · cases hnone
    · exact (List.prefix_append _ _).trans (List.prefix_append _ _)

/-- **Each move** makes the calls that are new. -/
theorem move {l : SessionDeed × List HostCall} (h : Voices t s w happened) (hw : t.Carries w)
    (hfits : t.controller.stage.Fits s.host.hasMainLoop) (hpanics : s.panicsOnReport = false)
    (hmove : Voiced (t, s) l (t', s')) (hhosted : Worker.Hosted (w, t.own s) l.1 (w', t'.own s')) :
    Voices t' s' w' (happened ++ [l]) := by
  cases hmove with
  | controller released hgo hown hstep =>
    exact (h.controls hw hfits hgo hown hstep).of_stage (hhosted.stage_eq (t.isProgramStep_deed s))
  | inline_ released hown hquiet hstep =>
    obtain ⟨hstage, hgo⟩ := inline?_eq_some hown
    obtain ⟨turn', w₁, hw₁, rfl⟩ := inline_cases hown hstep
    obtain ⟨rfl, rfl⟩ := hhosted.step_eq hw₁
    refine h.steps hpanics rfl hgo hw₁ ?_ ?_ trivial
    · rw [hstage]
      rfl
    · rw [hstage]
      exact List.prefix_refl _
  | worker hworker hgo hquiet hstep =>
    obtain ⟨turn', w₁, hw₁, rfl⟩ := worker_cases hworker hgo hstep
    obtain ⟨rfl, rfl⟩ := hhosted.step_eq hw₁
    refine h.steps hpanics rfl hgo hw₁ rfl (asked_of_worker hw hworker _) ?_
    -- the controller has not waited for a program that goes on
    have hlast := h.last
    unfold ClosesLast at hlast ⊢
    dsimp only
    rw [hgo] at hlast
    generalize t.controller.stage = stage at hlast ⊢
    cases stage with
    | shutdown how joinWait failure => exact fun hhow => nomatch hlast hhow
    | done r => exact fun hawaited => nomatch (hlast hawaited).1
    | _ => exact trivial
  | aside hmove hl =>
    cases hmove with
    | controller => exact nomatch (isStep_deed t s).symm.trans hl
    | inline_ => cases hl
    | worker => cases hl
    | inlineLogged panic hown hlog =>
      have hstage := hhosted.stage_eq rfl
      obtain ⟨hinline, -⟩ := inline?_eq_some hown
      obtain ⟨⟨path, config, linger, stage, transitions, endRequest⟩, worker, askedExit⟩ := t
      obtain rfl : stage = .inline_ _ := hinline
      exact h.aside rfl rfl hstage rfl fun _ => trivial
    | workerLogged | exit | clock =>
      have hstage := hhosted.stage_eq rfl
      refine h.aside rfl rfl hstage rfl fun hends => ?_
      exact hends.of_stage hstage

end Voices

/-! ### Runs -/

/-- **The calls of a session in order**, at every point of it, once the hardware can be
initialized. -/
structure Orderly (s₀ : Shared) (t : Threads) (s : Shared)
    (happened : List (SessionDeed × List HostCall)) : Prop where
  /-- The controller makes the calls of a session one after the other, each of them once. -/
  controller : heardOfController happened <+: HostCall.protocol s₀.host.hasMainLoop
  complete : t.controller.result?.isSome = true →
    heardOfController happened = HostCall.protocol s₀.host.hasMainLoop
  /-- The program calls the host after it has been asked whether it has a main loop. -/
  begun : heardOfProgram happened ≠ [] → HostCall.asked s₀.host.hasMainLoop <+: heard happened
  /-- It tells of one failure at most, and a run that is completed has asked once to exit. -/
  program : ∃ w, t.Carries w
    ∧ (w.result? = none →
      heardOfProgram happened = [] ∨ ∃ kind, heardOfProgram happened = [.sendError kind])
    ∧ ∀ result, w.result? = some result →
      heardOfProgram happened = result.calls ++ [.requestExit]
  /-- When the exit is requested, the slot is empty and finished. -/
  exits : ∀ {l calls y}, Voiced (t, s) (l, calls) y → .requestExit ∈ calls →
    s.slot.handle = none ∧ s.slot.phase = .finished
  /-- When the slot is seen to be finished, the host has recorded the failure, if there is one. -/
  recorded : t.controller.stage ≠ .start → s.slot.phase = .finished →
    ∃ w result, t.Carries w ∧ (w.stage = .requestExit result ∨ w.stage = .done result)
      ∧ result.calls <+: heardOfProgram happened
      ∧ s.host.diagnostics = s₀.host.diagnostics ++ result.diagnostics
  /-- If the program was waited for, the shutdown is the last call of all. -/
  last : ∀ r, t.controller.result? = some r → r.isAwaited = true →
    ∃ before, heard happened = before ++ [.shutdown] ∧ .shutdown ∉ before

theorem voices_of_run {c : Controller} (hstage : c.stage = .start) (hcode : s₀.host.initCode = 0)
    (hpanics : s₀.panicsOnReport = false)
    (hrun : Run Voiced ({ controller := c }, s₀) happened (t, s)) :
    ∃ w, t.Carries w
      ∧ Run Worker.Hosted (c.program, { s₀ with slot := {} }) (happened.map Prod.fst) (w, t.own s)
      ∧ Voices t s w happened := by
  -- the induction is on the run, with the last state free
  generalize hx : (t, s) = x at hrun
  induction hrun generalizing t s with
  | refl =>
    cases hx
    refine ⟨c.program, ?_, ?_, ?_, rfl, ?_, ?_⟩
    · unfold Carries
      rw [hstage]
      exact ⟨rfl, rfl⟩
    · unfold own
      rw [hstage]
      exact .refl
    · rw [hstage]
      rfl
    · exact fun h => absurd rfl h
    · unfold ClosesLast
      rw [hstage]
      exact trivial
  | @tail happened y z l run step ih =>
    subst hx
    obtain ⟨t₁, s₁⟩ := y
    obtain ⟨w, hw, hhosted, hvoices⟩ := ih rfl
    have hmoves := run_move_of_voiced run
    -- the host's answer to `hardware_init` is settled from the beginning
    have hsteady := steady_of_run hmoves
    have hzero : s₁.host.initCode = 0 := hsteady.initCode.trans hcode
    obtain ⟨w', hw', hstep⟩ := hw.move (fun _ => hzero) step.move
    refine ⟨w', hw', ?_, hvoices.move hw (closing_of_run hstage hcode hmoves).fits
      (hsteady.panics.trans hpanics) step hstep⟩
    -- the program of the session makes the same moves by itself
    rw [List.map_append]
    exact .tail hhosted hstep

/-- **The controller's calls come in their order**, as far as it has come. -/
theorem prefix_protocol {w : Worker} (hw : t.Carries w) (hloop : Bool)
    (hfits : t.controller.stage.Fits hloop)
    (hspawned : ∀ detail, t.controller.stage ≠ .done (.error (.spawn detail))) :
    t.controller.stage.calls hloop <+: HostCall.protocol hloop := by
  obtain ⟨⟨path, config, linger, stage, transitions, endRequest⟩, worker, askedExit⟩ := t
  -- each stage lies within a beginning that the protocol has in one of three places
  have hlooped : ∀ {calls}, calls <+: HostCall.looped hloop → calls <+: HostCall.protocol hloop :=
    fun h => h.trans (List.prefix_append _ _)
  have hasked : HostCall.asked hloop <+: HostCall.protocol hloop :=
    hlooped (List.prefix_append _ _)
  cases stage with
  | start => exact List.nil_prefix
  | askMainLoop => exact (List.prefix_append [HostCall.hardwareInit 0] _).trans hasked
  | inline_ w' | spawn | enterMainLoop | abort e => exact hasked
  | mainLoop | linger =>
    obtain rfl : hloop = true := hfits
    exact show HostCall.asked true ++ [.runMainLoop] <+: HostCall.protocol true by decide
  | requestEnd | beginWait | waitFinished since deadline | join since =>
    obtain rfl : hloop = true := hfits
    exact hlooped (List.prefix_refl _)
  | shutdown how joinWait failure => exact hlooped (List.prefix_refl _)
  | done r =>
    rcases hw with ⟨-, -, detail, rfl⟩ | ⟨-, result, o, -, rfl⟩ | ⟨-, o, rfl⟩
    · exact absurd rfl (hspawned detail)
    · cases result with
      | panicked p => exact hasked
      | _ => exact List.prefix_refl _
    · exact List.prefix_refl _

/-- **When the exit is requested**, the slot is empty and finished. -/
theorem slot_of_exit {w : Worker} {ids : List Nat} {l : SessionDeed} {calls : List HostCall}
    (h : Voices t s w happened) (hw : t.Carries w)
    (hfits : t.controller.stage.Fits s.host.hasMainLoop) (haccounts : w.Accounts (t.own s) ids)
    (hmove : Voiced (t, s) (l, calls) y) (hexit : .requestExit ∈ calls) :
    s.slot.handle = none ∧ s.slot.phase = .finished := by
  obtain ⟨t', s'⟩ := y
  -- the controller does not ask for it
  have hcontroller : ∀ {signals : List Signal} {deed : SessionDeed}, deed.isProgramStep = false →
      Voices t' s' w (happened ++ [(deed, hostCalls signals)]) →
      HostCall.requestExit ∉ hostCalls signals := by
    intro signals deed hdeed hvoices hmem
    have hmade := hvoices.controller
    rw [heardOfController_append, hdeed] at hmade
    refine t'.controller.stage.requestExit_not_mem s'.host.hasMainLoop ?_
    rw [← hmade]
    exact List.mem_append_right _ hmem
  cases hmove with
  | controller released hgo hown hstep =>
    exact absurd hexit (hcontroller (t.isProgramStep_deed s) (h.controls hw hfits hgo hown hstep))
  | inline_ released hown hquiet hstep =>
    obtain ⟨hstage, hgo⟩ := inline?_eq_some hown
    obtain ⟨turn', w₁, hw₁, rfl⟩ := inline_cases hown hstep
    unfold Carries at hw
    unfold own at haccounts
    rw [hstage] at hw haccounts
    obtain ⟨-, rfl⟩ := hw
    exact haccounts.slot_of_exit hgo hw₁ hexit
  | worker hworker hgo hquiet hstep =>
    obtain ⟨turn', w₁, hw₁, rfl⟩ := worker_cases hworker hgo hstep
    obtain ⟨rfl, hown, -⟩ := hw.of_worker hworker
    rw [show t.own s = s from hown t.worker t.askedExit s] at haccounts
    exact haccounts.slot_of_exit hgo hw₁ hexit
  | aside hmove hl => cases hexit

/-- A controller that is done has made all of its calls. -/
theorem calls_of_done {w : Worker} {before after : List Diagnostic} (hw : t.Carries w)
    (htelling : w.Telling false before after)
    (hspawned : ∀ detail, t.controller.stage ≠ .done (.error (.spawn detail)))
    (hdone : t.controller.result?.isSome = true) {hloop : Bool} :
    t.controller.stage.calls hloop = HostCall.protocol hloop := by
  obtain ⟨r, hresult⟩ := Option.isSome_iff_exists.mp hdone
  have hstage := Controller.done_of_result? hresult
  unfold Carries at hw
  rw [hstage] at hw hspawned ⊢
  rcases hw with ⟨-, -, detail, rfl⟩ | ⟨-, result, o, hover, rfl⟩ | ⟨-, o, rfl⟩
  · exact absurd rfl (hspawned detail)
  · unfold Worker.Telling at htelling
    rw [Worker.done_of_result? hover] at htelling
    -- a panic is excluded by what the program has told, all other results have called everything
    cases result with
    | panicked p => cases htelling.1
    | _ => rfl
  · rfl

theorem own_eq (h : t.controller.stage ≠ .start) : t.own s = s := by
  unfold own
  split
  · exact absurd ‹_› h
  · rfl

/-- **Without hardware** there is no other call, and no program. -/
theorem refused_of_run {c : Controller} (hstage : c.stage = .start) (hcode : s₀.host.initCode ≠ 0)
    (hrun : Run Voiced ({ controller := c }, s₀) happened (t, s)) :
    t.worker = none ∧ s.host.initCode = s₀.host.initCode
      ∧ (t.controller.stage = .start ∧ heard happened = []
        ∨ t.controller.stage = .done (.error (.hardwareInit s₀.host.initCode))
          ∧ heard happened = [.hardwareInit s₀.host.initCode]) := by
  generalize hx : (t, s) = x at hrun
  induction hrun generalizing t s with
  | refl =>
    cases hx
    exact ⟨rfl, rfl, .inl ⟨hstage, rfl⟩⟩
  | @tail happened y z l run step ih =>
    subst hx
    obtain ⟨t₁, s₁⟩ := y
    obtain ⟨hworker, hsame, hat⟩ := ih rfl
    have hsteady := step.move.steady
    -- neither of the two stages runs a program, so that only the controller moves
    have hnotinline : t₁.inline? = none := by
      unfold inline?
      rcases hat with ⟨hstart, -⟩ | ⟨hdone, -⟩
      · rw [hstart]
      · rw [hdone]
    -- at the start the code decides the one step there is; afterwards the session is over
    cases step with
    | controller released hgo hown hstep =>
      rcases hat with ⟨hstart, hheard⟩ | ⟨hdone, -⟩
      · obtain ⟨c', turn', hcstep, rfl⟩ := controllerStep_cases hgo hstep
        obtain ⟨⟨path, config, linger, stage, transitions, endRequest⟩, worker, askedExit⟩ := t₁
        obtain rfl : stage = .start := hstart
        unfold Controller.step at hcstep
        dsimp only at hcstep
        rw [hsame, if_neg hcode] at hcstep
        cases hcstep
        refine ⟨hworker, hsame, .inr ⟨rfl, ?_⟩⟩
        rw [heard_append, hheard]
        rfl
      · unfold Controller.result? at hgo
        rw [hdone] at hgo
        cases hgo
    | inline_ released hown hquiet hstep => exact nomatch hnotinline.symm.trans hown
    | worker hthread hgo hquiet hstep => exact nomatch hworker.symm.trans hthread
    | aside hmove hl =>
      cases hmove with
      | controller => exact nomatch (isStep_deed t₁ s₁).symm.trans hl
      | inline_ => cases hl
      | worker => cases hl
      | inlineLogged panic hown hlog => exact nomatch hnotinline.symm.trans hown
      | workerLogged panic hthread hgo hlog => exact nomatch hworker.symm.trans hthread
      | exit | clock =>
        refine ⟨hworker, hsteady.initCode.trans hsame, ?_⟩
        rw [heard_append, List.append_nil]
        exact hat

/-- **The calls of every interleaving come in order.** If the hardware cannot be initialized, there
is no other call, and nobody runs the program. -/
theorem orderly_of_run {path : ByteArray} {config : BridgeConfig} {linger : Linger}
    (hpanics : s₀.panicsOnReport = false) (hspawn : s₀.spawnFault = none)
    (hrun : Run Voiced ({ controller := { path, config, linger } }, s₀) happened (t, s)) :
    (s₀.host.initCode = 0 → Orderly s₀ t s happened)
      ∧ (s₀.host.initCode ≠ 0 → t.worker = none ∧ t.inline? = none
        ∧ (t.controller.result? = none ∧ heard happened = []
          ∨ t.controller.result?.isSome = true
            ∧ heard happened = [.hardwareInit s₀.host.initCode])) := by
  refine ⟨fun hcode => ?_, fun hcode => ?_⟩
  · obtain ⟨w, hw, hhosted, hvoices⟩ := voices_of_run rfl hcode hpanics hrun
    have hmoves := run_move_of_voiced hrun
    have hsteady := steady_of_run hmoves
    have hloop : s.host.hasMainLoop = s₀.host.hasMainLoop := hsteady.mainLoop
    have hfits := (closing_of_run rfl hcode hmoves).fits
    have hcalm : s.panicsOnReport = false := hsteady.panics.trans hpanics
    have hcontroller := hvoices.controller
    rw [hloop] at hfits hcontroller
    -- a thread that can be started has been started
    have hspawned : ∀ detail, t.controller.stage ≠ .done (.error (.spawn detail)) := by
      intro detail hstage
      rw [hstage] at hfits
      have hpasses := (course_of_run hcode hfits hspawn hmoves).passes
      unfold Passes at hpasses
      rw [hstage] at hpasses
      exact hpasses
    have htelling := Worker.telling_of_run rfl hhosted
    rw [show (t.own s).panicsOnReport = false by unfold own; split <;> exact hcalm] at htelling
    change w.Telling false s₀.host.diagnostics (t.own s).host.diagnostics at htelling
    refine ⟨?_, fun hdone => ?_, ?_, ⟨w, hw, fun hgo => ?_, fun result hresult => ?_⟩,
      fun {l calls y} hstep hexit => ?_, fun hstart hphase => ?_, fun r hresult hawaited => ?_⟩
    · rw [hcontroller]
      exact prefix_protocol hw _ hfits hspawned
    · rw [hcontroller]
      exact calls_of_done hw htelling hspawned hdone
    · rw [← hloop]
      exact hvoices.begun
    · rw [hvoices.program]
      exact Worker.calls_of_going hgo
    · rw [hvoices.program, Worker.done_of_result? hresult]
      rfl
    · exact slot_of_exit hvoices hw (hloop ▸ hfits) (Worker.accounts_of_run rfl rfl hhosted) hstep
        hexit
    · -- a slot that is finished is that of a program which is over, or about to be
      have hown : t.own s = s := own_eq hstart
      rw [hown] at hhosted htelling
      obtain ⟨result, hstage⟩ := Worker.finished_of_run rfl hhosted hphase
      refine ⟨w, result, hw, hstage, ?_, ?_⟩
      · rw [hvoices.program]
        rcases hstage with hstage | hstage
        · rw [hstage]
          exact List.prefix_refl _
        · rw [hstage]
          exact List.prefix_append _ _
      · unfold Worker.Telling at htelling
        rcases hstage with hstage | hstage
        · rw [hstage] at htelling
          exact htelling.diagnostics
        · rw [hstage] at htelling
          exact htelling.diagnostics
    · have hlast := hvoices.last
      have hstage := Controller.done_of_result? hresult
      unfold ClosesLast at hlast
      rw [hstage] at hlast
      exact (hlast hawaited).2
  · obtain ⟨hworker, -, hat⟩ := refused_of_run rfl hcode hrun
    unfold inline? Controller.result?
    rcases hat with ⟨hstage, hheard⟩ | ⟨hstage, hheard⟩
    · rw [hstage]
      exact ⟨hworker, rfl, .inl ⟨rfl, hheard⟩⟩
    · rw [hstage]
      exact ⟨hworker, rfl, .inr ⟨rfl, hheard⟩⟩

/-- A module that is a number fails in a thread of its own, is joined, and calls the host for the
last time before the shutdown. -/
theorem orderly_of_run_number : ∃ happened t s o,
    Run Voiced ({ controller := { path := ⟨#[114]⟩, config := {} } },
        { files := numberProgram }) happened (t, s)
      ∧ t.controller.result? = some (.ok o) ∧ o.termination = .joined ∧ s.host.diagnostics ≠ []
      ∧ heardOfController happened = HostCall.protocol true
      ∧ ∃ before, heard happened = before ++ [.shutdown] ∧ .shutdown ∉ before := by
  -- the controller spawns the worker, which fails, and then joins it
  let schedule := List.replicate 4 true ++ List.replicate 30 false ++ List.replicate 10 true
  have hends : (fun last : Threads × Shared =>
      (last.1.controller.result?.any fun result =>
        result.outcome?.any fun o => o.termination == .joined)
        && !last.2.host.diagnostics.isEmpty)
      (follow schedule ({ controller := { path := ⟨#[114]⟩, config := {} } },
        { files := numberProgram })) = true := by
    decide +kernel
  obtain ⟨deeds, hmoves⟩ := run_follow schedule
    ({ controller := { path := ⟨#[114]⟩, config := {} } }, { files := numberProgram })
  generalize follow schedule _ = last at hends hmoves
  obtain ⟨t, s⟩ := last
  obtain ⟨happened, hrun, -⟩ := run_voiced hmoves
  -- the program is a number, so that the host is told of a failure
  have horderly := (orderly_of_run rfl rfl hrun).1 rfl
  rw [Bool.and_eq_true, Bool.not_eq_true', List.isEmpty_eq_false_iff] at hends
  obtain ⟨hresult, htold⟩ := hends
  dsimp only at hresult htold
  obtain ⟨result, hdone, hsome⟩ := (Option.any_eq_true _ _).mp hresult
  obtain ⟨o, houtcome, hjoined⟩ := (Option.any_eq_true _ _).mp hsome
  obtain rfl := ControllerResult.outcome?_iff.mp houtcome
  rw [beq_iff_eq] at hjoined
  refine ⟨happened, t, s, o, hrun, hdone, hjoined, htold, ?_, horderly.last _ hdone ?_⟩
  · refine horderly.complete ?_
    rw [hdone]
    rfl
  · change (o.termination != .detached) = true
    rw [hjoined]
    rfl

end Threads
end RobotSession
