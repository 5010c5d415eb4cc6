import RobotSession.Proofs.Bridge.Coherence
import RobotSession.Proofs.Bridge.Solo
import RobotSession.Proofs.Bridge.Teardown

/-!
# The two modes of a session

A host with a main loop has the program run in a thread of its own, while a host without one has
the controller run it. Left to itself, a program does the same in both: the controller touches
nothing that the program sees, and it waits for the program however short its patience is,
because the host leaves its main loop only when the program is over.

* `Threads.Calm` — with a main loop: what has happened when the controller goes on.
* `Threads.PassesInline` — without one: the states that the controller passes.
* `Threads.over_of_fair`, `Threads.done_of_fair` — nobody is kept waiting for ever.
* `Threads.modes_agree` — what the two modes have in common, and where they differ.
-/

namespace RobotSession

open Lua

/-! ### The program, apart from its session -/

namespace SessionDeed

/-- The controller's doing. -/
def isController : SessionDeed → Bool
  | .controller => true
  | .asksEnd _ => true
  | _ => false

/-- What happens, as it is for a program by itself on another host. -/
def alone (host : SimHost) : SessionDeed → SessionDeed
  | .program w s => .program w (s.onHost host)
  | .logged line panic => .logged line panic
  | _ => .clock

theorem isProgram_alone (host : SimHost) (l : SessionDeed) :
    (l.alone host).isProgram = l.isProgram := by
  cases l with
  | _ => rfl

theorem logged_of_alone {host : SimHost} {l : SessionDeed} {line : String} {panic : Option Payload}
    (h : l.alone host = .logged line panic) : l = .logged line panic := by
  cases l with
  | logged line' panic' => exact h
  | _ => cases h

end SessionDeed

theorem logLines_alone (host : SimHost) (happened : List SessionDeed) :
    logLines (happened.map (.alone host)) = logLines happened := by
  unfold logLines
  rw [List.filterMap_map]
  congr 1
  funext l
  cases l with
  | _ => rfl

theorem AnsweredBy.alone {log : List String → Option Payload} {happened : List SessionDeed}
    (h : AnsweredBy log happened) (host : SimHost) :
    AnsweredBy log (happened.map (.alone host)) := by
  intro before line panic after hsplit
  obtain ⟨first, rest, rfl, rfl, hrest⟩ := List.map_eq_append_iff.mp hsplit
  obtain ⟨l, last, rfl, hl, rfl⟩ := List.map_eq_cons_iff.mp hrest
  rw [logLines_alone]
  rw [SessionDeed.logged_of_alone hl] at h
  exact h first line panic last rfl

/-- What is not posted is not accepted. -/
theorem posted_eq_nil {happened : List SessionDeed} (h : ∀ answer, .asksEnd answer ∉ happened) :
    posted happened = [] := by
  unfold posted
  rw [List.filterMap_eq_nil_iff]
  intro l hmem
  split
  · exact absurd hmem (h _)
  · rfl

namespace Worker

variable {w w' : Worker} {s s' : Shared} {l : SessionDeed} {happened : List SessionDeed}

/-- **The host is asked to leave its main loop** at the last step of the program. -/
theorem Steps.exits (h : w.Steps s w' s') :
    s'.host.exitRequested = (s.host.exitRequested || w'.result?.isSome) := by
  -- a step that leaves the request as it is, at a stage that is not the last one
  have hgoes : ∀ {s₁ : Shared} {w₁ : Worker}, s₁.host.exitRequested = s.host.exitRequested →
      w₁.result? = none → s₁.host.exitRequested = (s.host.exitRequested || w₁.result?.isSome) := by
    intro s₁ w₁ hsame hgo
    rw [hsame, hgo]
    exact (Bool.or_false _).symm
  cases h with
  | asksExit hstage => exact (Bool.or_true _).symm
  | passesOver hengine hover =>
    generalize w.stage = before at hover
    cases hover with
    | _ => exact hgoes rfl rfl
  | drives hstage hengine hturn hid hdrives =>
    have hhost := congrArg SimHost.exitRequested (host_of_turn hturn)
    cases hdrives with
    | _ => exact hgoes hhost rfl
  | closes hstage hengine hid hnext =>
    rcases hnext with rfl | rfl
    · exact hgoes rfl rfl
    · exact hgoes rfl rfl
  | finalizes hstage hengine hturn hid hnext =>
    have hhost := congrArg SimHost.exitRequested (host_of_turn hturn)
    rcases hnext with rfl | rfl
    · exact hgoes hhost rfl
    · exact hgoes hhost rfl
  | _ => exact hgoes rfl rfl

/-- **A program in its session is a program by itself**, as long as nobody posts a call or asks
the host to leave its main loop. -/
theorem Hosted.alone (h : Hosted (w, s) l (w', s')) (hasks : ∀ answer, l ≠ .asksEnd answer)
    (hexit : l ≠ .exit) (host : SimHost) :
    Alone (w, s.onHost host) (l.alone host) (w', s'.onHost host) := by
  cases h with
  | step hgo hquiet hstep =>
    have hother := step_onHost w s host
    rw [hstep] at hother
    exact .step hgo hquiet hother
  | logged panic hgo hlog => exact .logged panic hgo hlog
  | @host _ _ _ host' hl hdiagnostics =>
    rcases hl with ⟨rfl, hrequested⟩ | rfl
    · -- what the controller does to the host is not for the program to see
      have hsame : ({ s with host := host' } : Shared).onHost host = s.onHost host := by
        unfold Shared.onHost
        dsimp only
        rw [hdiagnostics, hrequested]
      rw [hsame]
      exact .clock (Nat.le_refl s.clock)
    · exact absurd rfl hexit
  | asksEnd hhandle => exact absurd rfl (hasks _)
  | clock hlater => exact .clock hlater

theorem run_alone {x y : Worker × Shared} (hrun : Run Hosted x happened y)
    (hasks : ∀ answer, .asksEnd answer ∉ happened) (hexit : .exit ∉ happened) (host : SimHost) :
    Run Alone (x.1, x.2.onHost host) (happened.map (.alone host)) (y.1, y.2.onHost host) := by
  induction hrun with
  | refl => exact .refl
  | @tail happened y z l run step ih =>
    simp only [List.mem_append, List.mem_singleton, not_or] at hasks hexit
    rw [List.map_append]
    refine .tail (ih (fun answer => (hasks answer).1) hexit.1) ?_
    exact step.alone (fun answer hl => (hasks answer).2 hl.symm) (fun hl => hexit.2 hl.symm) host

end Worker

namespace Threads

variable {t t' : Threads} {s s' : Shared} {released : Bool} {happened : List SessionDeed}
  {l : SessionDeed} {w : Worker}

/-! ### With a main loop -/

/-- The program is over once the controller has left the main loop, and is joined then. -/
def Awaits (t : Threads) : Prop :=
  match t.controller.stage with
  | .linger | .requestEnd | .beginWait | .waitFinished .. | .join _ => t.IsOver
  | .shutdown how .. => how = .joined ∧ t.IsOver
  | .done (.ok o) => o.termination = .joined ∧ t.IsOver
  | _ => True

/-- **A calm session** on a host with a main loop: the host leaves it when the program is over,
and nobody is there to be asked to end. -/
structure Calm (t : Threads) (s : Shared) : Prop where
  exit_iff : s.host.exitRequested = true ↔ t.IsOver
  linger : t.controller.linger = .none
  unasked : t.controller.endRequest = none
  awaits : t.Awaits

/-- A program that is over has withdrawn its handle, so nobody is asked to end. -/
theorem Calm.deed_ne (h : Calm t s) (hslot : t.IsOver → s.slot.handle = none) (answer : Delivery) :
    t.deed s ≠ .asksEnd answer := by
  have hawaits := h.awaits
  unfold Awaits at hawaits
  unfold deed
  split
  · rename_i id hstage hhandle
    rw [hstage] at hawaits
    exact nomatch hhandle.symm.trans (hslot hawaits)
  · nofun

/-- **Each step of the controller keeps the calm.** -/
theorem Calm.controller (h : Calm t s) (hw : t.Carries w) (hpasses : t.Passes s)
    (hslot : t.IsOver → s.slot.phase = .finished ∧ s.slot.handle = none)
    (hcontrols : t.Controls s released t' s') : Calm t' s' := by
  obtain ⟨hexit, hlinger, hunasked, hawaits⟩ := h
  obtain ⟨⟨path, config, linger, stage, transitions, endRequest⟩, worker, askedExit⟩ := t
  cases hcontrols with
  | initializes hstage | cannotInitialize hstage | hasMainLoop hstage | hasNone hstage
  | cannotSpawn hstage | entersMainLoop hstage =>
    cases hstage
    exact ⟨hexit, hlinger, hunasked, trivial⟩
  | inlineOver hstage | inlineEscapes hstage | aborts hstage =>
    cases hstage
    exact hpasses.elim
  | spawns hstage hfault =>
    -- neither the thread that is to be started nor the one that has been is over
    obtain rfl : stage = .spawn := hstage
    obtain rfl : worker = none := hw.1
    refine ⟨⟨fun hrequested => ?_, ?_⟩, hlinger, hunasked, trivial⟩
    · obtain ⟨w₁, hworker, -⟩ := hexit.mp hrequested
      cases hworker
    · rintro ⟨w₁, hworker, hover⟩
      obtain rfl := Option.some.inj hworker
      cases hover
  | leavesMainLoop hstage hrequested =>
    obtain rfl : stage = .mainLoop := hstage
    exact ⟨hexit, hlinger, hunasked, hexit.mp hrequested⟩
  | goesOn hstage | beginsWait hstage | seesFinished hstage =>
    cases hstage
    exact ⟨hexit, hlinger, hunasked, hawaits⟩
  | asksEnd hstage hhandle =>
    obtain rfl : stage = .requestEnd := hstage
    exact nomatch hhandle.symm.trans (hslot hawaits).2
  | asksNobody hstage hhandle =>
    obtain rfl : stage = .requestEnd := hstage
    exact ⟨hexit, hlinger, rfl, hawaits⟩
  | givesUp hstage hphase hclock =>
    -- the phase is looked at before the clock is
    obtain rfl : stage = .waitFinished _ _ := hstage
    have hfinished : s.slot.isFinished = true := by
      unfold Slot.isFinished
      rw [(hslot hawaits).1]
      rfl
    exact nomatch hfinished.symm.trans hphase
  | joins hstage hworker hdone =>
    obtain rfl : stage = .join _ := hstage
    exact ⟨hexit, hlinger, hunasked, rfl, hawaits⟩
  | @shutsDown how joinWait failure hstage =>
    obtain rfl : stage = .shutdown how joinWait failure := hstage
    obtain ⟨-, -, rfl, -⟩ := hpasses
    exact ⟨hexit, hlinger, hunasked, hawaits⟩
  | waits hblocked => exact ⟨hexit, hlinger, hunasked, hawaits⟩

/-- What the program does in its thread does not matter to the controller before it is over. -/
theorem Calm.worker (h : Calm t s) (worker : Option Worker) (askedExit : Bool)
    (hgo : ¬ t.IsOver)
    (hexit : s'.host.exitRequested = true ↔ ({ t with worker, askedExit } : Threads).IsOver) :
    Calm { t with worker, askedExit } s' := by
  refine ⟨hexit, h.linger, h.unasked, ?_⟩
  have hawaits := h.awaits
  obtain ⟨⟨path, config, linger, stage, transitions, endRequest⟩, worker', askedExit'⟩ := t
  -- a session that is not over is in none of the stages that wait for its end
  cases stage with
  | shutdown how joinWait failure => exact absurd hawaits.2 hgo
  | done r =>
    cases r with
    | ok o => exact absurd hawaits.2 hgo
    | _ => trivial
  | start => trivial
  | askMainLoop => trivial
  | inline_ w => trivial
  | spawn => trivial
  | enterMainLoop => trivial
  | mainLoop => trivial
  | abort e => trivial
  | _ => exact absurd hawaits hgo

/-- **Each move keeps the calm**, unless somebody else asks the host to leave its main loop. -/
theorem Calm.move (h : Calm t s) (hw : t.Carries w) (hpasses : t.Passes s)
    (hslot : t.IsOver → s.slot.phase = .finished ∧ s.slot.handle = none) (hl : l ≠ .exit)
    (hmove : Move (t, s) l (t', s')) : Calm t' s' := by
  have hinline := hpasses.inline?_eq_none
  cases hmove with
  | controller released hgo hown hstep => exact h.controller hw hpasses hslot (controls hgo hown hstep)
  | inline_ released hown => exact nomatch hinline.symm.trans hown
  | @worker _ _ _ _ w₁ turn signals hworker hgo hquiet hstep =>
    obtain ⟨turn', w', hw', rfl⟩ := worker_cases hworker hgo hstep
    have hrunning := not_isOver hworker hgo
    refine h.worker (some w') _ hrunning ?_
    -- the host is asked at the step with which the program is over
    have hbefore : s.host.exitRequested = false := by
      rw [Bool.eq_false_iff]
      exact fun hrequested => hrunning (h.exit_iff.mp hrequested)
    rw [(Worker.steps hgo hw').exits, hbefore, Bool.false_or]
    constructor
    · exact fun hover => ⟨w', rfl, hover⟩
    · rintro ⟨w₂, hsome, hover⟩
      rw [Option.some.inj hsome]
      exact hover
  | inlineLogged panic hown => exact nomatch hinline.symm.trans hown
  | @workerLogged _ _ w₁ line panic hworker hgo hlog =>
    have hrunning := not_isOver hworker hgo
    obtain ⟨controller, worker, askedExit⟩ := t
    obtain rfl : worker = some w₁ := hworker
    refine h.worker (some (w₁.logged panic)) askedExit hrunning ?_
    constructor
    · exact fun hrequested => absurd (h.exit_iff.mp hrequested) hrunning
    · rintro ⟨w₂, hsome, hover⟩
      have hsame : w₂.result? = w₁.result? := by
        rw [← Option.some.inj hsome]
        rfl
      rw [hsame, hgo] at hover
      cases hover
  | exit => exact absurd rfl hl
  | clock hlater => exact ⟨h.exit_iff, h.linger, h.unasked, h.awaits⟩

/-- A worker whose run is over has finished the slot. -/
theorem slot_of_isOver {c : Controller} {s₀ : Shared} (hstage : c.stage = .start)
    (hcode : s₀.host.initCode = 0) (hrun : Run Move ({ controller := c }, s₀) happened (t, s))
    (hover : t.IsOver) : s.slot.phase = .finished ∧ s.slot.handle = none := by
  obtain ⟨w, hw, hhosted⟩ := run_hosted hstage hcode hrun
  obtain ⟨w₁, hworker, hdone⟩ := hover
  obtain ⟨rfl, hown, -⟩ := hw.of_worker hworker
  rw [show t.own s = s from hown t.worker t.askedExit s] at hhosted
  obtain ⟨hphase, hhandle, -⟩ := Worker.slot_of_done rfl rfl rfl hhosted hdone
  exact ⟨hphase, hhandle⟩

/-- **A session that is left to itself is calm** from the beginning, and nobody is asked to end. -/
theorem calm_of_run {path : ByteArray} {config : BridgeConfig} {s₀ : Shared}
    (hcode : s₀.host.initCode = 0) (hloop : s₀.host.hasMainLoop = true)
    (hspawn : s₀.spawnFault = none) (hexit : s₀.host.exitRequested = false)
    (hrun : Run Move ({ controller := { path, config } }, s₀) happened (t, s))
    (hleft : .exit ∉ happened) : Calm t s ∧ ∀ answer, .asksEnd answer ∉ happened := by
  generalize hx : (t, s) = x at hrun
  induction hrun generalizing t s with
  | refl =>
    cases hx
    have hbegins : s₀.host.exitRequested = true ↔ IsOver { controller := { path, config } } := by
      constructor
      · intro hrequested
        exact nomatch hexit.symm.trans hrequested
      · rintro ⟨w₁, hworker, -⟩
        cases hworker
    exact ⟨⟨hbegins, rfl, rfl, trivial⟩, nofun⟩
  | @tail happened y z l run step ih =>
    subst hx
    obtain ⟨t₁, s₁⟩ := y
    simp only [List.mem_append, List.mem_singleton, not_or] at hleft ⊢
    obtain ⟨hcalm, hasks⟩ := ih hleft.1 rfl
    obtain ⟨hpasses, -⟩ := course_of_run hcode hloop hspawn run
    obtain ⟨w, hw, -⟩ := run_hosted rfl hcode run
    have hslot := slot_of_isOver rfl hcode run
    refine ⟨hcalm.move hw hpasses hslot (fun hl => hleft.2 hl.symm) step, fun answer => ⟨hasks answer, ?_⟩⟩
    rintro rfl
    -- only the controller asks, at a step of its own
    generalize hl : SessionDeed.asksEnd answer = l at step
    cases step with
    | controller released hgo hown hstep => exact hcalm.deed_ne (fun hover => (hslot hover).2) answer hl.symm
    | _ => cases hl

/-! ### Without a main loop -/

/-- What a session comes to whose program the controller runs itself. -/
def inlineOutcome (slot : Slot) : Outcome :=
  { termination := .inline_, transitions := [.idle, .inline_, .closed], endRequest := none
    robotStarted := slot.robotStarted, engineCloses := slot.closes, joinWait := 0 }

/-- **The course of a controller** whose host has no main loop: the states that it has passed, at
each of its stages. -/
def PassesInline (t : Threads) (s : Shared) : Prop :=
  match t.controller.stage with
  | .start | .askMainLoop =>
    t.controller.transitions = [.idle] ∧ t.controller.endRequest = none
  | .inline_ _ => t.controller.transitions = [.idle, .inline_] ∧ t.controller.endRequest = none
  | .shutdown how joinWait failure =>
    t.controller.transitions = [.idle, .inline_] ∧ t.controller.endRequest = none
      ∧ how = .inline_ ∧ joinWait = 0 ∧ failure.isSome = true
  | .done r => ∃ result, r = Controller.inlineResult result (inlineOutcome s.slot)
  | _ => False

/-- The course of a session that has no thread but the controller's. -/
structure CourseInline (t : Threads) (s : Shared) : Prop where
  passes : t.PassesInline s
  worker : t.worker = none

/-- **Each step of the controller keeps the course.** -/
theorem CourseInline.controller (h : CourseInline t s) (hloop : s.host.hasMainLoop = false)
    (hcode : s.host.initCode = 0) (hcontrols : t.Controls s released t' s') :
    CourseInline t' s' := by
  obtain ⟨hpasses, hworker⟩ := h
  obtain ⟨⟨path, config, linger, stage, transitions, endRequest⟩, worker, askedExit⟩ := t
  cases hcontrols with
  | initializes hstage hzero =>
    obtain rfl : stage = .start := hstage
    exact ⟨hpasses, hworker⟩
  | cannotInitialize hstage hzero => exact absurd hcode hzero
  | hasMainLoop hstage hmain => exact nomatch hloop.symm.trans hmain
  | hasNone hstage hmain =>
    obtain rfl : stage = .askMainLoop := hstage
    obtain ⟨rfl, hunasked⟩ := hpasses
    exact ⟨⟨rfl, hunasked⟩, hworker⟩
  | inlineOver hstage hdone hpanicked =>
    obtain rfl : stage = .inline_ _ := hstage
    exact ⟨⟨hpasses.1, hpasses.2, rfl, rfl, rfl⟩, hworker⟩
  | @inlineEscapes w p hstage hdone =>
    obtain rfl : stage = .inline_ w := hstage
    exact ⟨⟨.panicked p, rfl⟩, hworker⟩
  | @shutsDown how joinWait failure hstage =>
    obtain rfl : stage = .shutdown how joinWait failure := hstage
    obtain ⟨rfl, rfl, rfl, rfl, hsome⟩ := hpasses
    obtain ⟨result, rfl⟩ := Option.isSome_iff_exists.mp hsome
    exact ⟨⟨result, rfl⟩, hworker⟩
  | waits hblocked => exact ⟨hpasses, hworker⟩
  -- the other steps are taken at stages that such a controller does not come to
  | spawns hstage | cannotSpawn hstage | entersMainLoop hstage | leavesMainLoop hstage
  | goesOn hstage | asksEnd hstage | asksNobody hstage | beginsWait hstage | seesFinished hstage
  | givesUp hstage | joins hstage | aborts hstage =>
    cases hstage
    exact hpasses.elim

theorem CourseInline.deed_ne (h : CourseInline t s) (answer : Delivery) :
    t.deed s ≠ .asksEnd answer := by
  have hpasses := h.passes
  unfold PassesInline at hpasses
  unfold deed
  split
  · rename_i id hstage hhandle
    rw [hstage] at hpasses
    exact hpasses.elim
  · nofun

/-- **Each move keeps the course.** -/
theorem CourseInline.move (h : CourseInline t s) (hloop : s.host.hasMainLoop = false)
    (hcode : s.host.initCode = 0) (hmove : Move (t, s) l (t', s')) : CourseInline t' s' := by
  obtain ⟨hpasses, hnone⟩ := h
  cases hmove with
  | controller released hgo hown hstep =>
    exact CourseInline.controller ⟨hpasses, hnone⟩ hloop hcode (controls hgo hown hstep)
  | inline_ released hown hquiet hstep =>
    obtain ⟨hstage, hgo⟩ := inline?_eq_some hown
    obtain ⟨turn', w', hw', rfl⟩ := inline_cases hown hstep
    unfold PassesInline at hpasses
    rw [hstage] at hpasses
    exact ⟨hpasses, hnone⟩
  -- there is no thread, so that neither a step nor a line of one is possible
  | worker hworker => exact nomatch hnone.symm.trans hworker
  | inlineLogged panic hown hlog =>
    obtain ⟨hstage, hgo⟩ := inline?_eq_some hown
    obtain ⟨⟨path, config, linger, stage, transitions, endRequest⟩, worker, askedExit⟩ := t
    obtain rfl : stage = .inline_ _ := hstage
    exact ⟨hpasses, hnone⟩
  | workerLogged panic hworker => exact nomatch hnone.symm.trans hworker
  | exit => exact ⟨hpasses, hnone⟩
  | clock hlater => exact ⟨hpasses, hnone⟩

theorem courseInline_of_run {path : ByteArray} {config : BridgeConfig} {linger : Linger}
    {s₀ : Shared} (hcode : s₀.host.initCode = 0) (hloop : s₀.host.hasMainLoop = false)
    (hrun : Run Move ({ controller := { path, config, linger } }, s₀) happened (t, s)) :
    CourseInline t s ∧ ∀ answer, .asksEnd answer ∉ happened := by
  generalize hx : (t, s) = x at hrun
  induction hrun generalizing t s with
  | refl =>
    cases hx
    exact ⟨⟨⟨rfl, rfl⟩, rfl⟩, nofun⟩
  | @tail happened y z l run step ih =>
    subst hx
    obtain ⟨t₁, s₁⟩ := y
    obtain ⟨hcourse, hasks⟩ := ih rfl
    have hsteady := steady_of_run run
    refine ⟨hcourse.move (hsteady.mainLoop.trans hloop) (hsteady.initCode.trans hcode) step, ?_⟩
    intro answer hmem
    rcases List.mem_append.mp hmem with hbefore | hlast
    · exact hasks answer hbefore
    · -- only a move of the controller could ask for the end, and its stage never does
      generalize hl : SessionDeed.asksEnd answer = asked at hlast
      obtain rfl := List.mem_singleton.mp hlast
      cases step with
      | controller released hgo hown hstep => exact hcourse.deed_ne answer hl.symm
      | _ => cases hl

end Threads

/-! ### Nobody is kept waiting -/

/-- How many steps the controller still has to take, at most. -/
def Controller.Stage.left : Controller.Stage → Nat
  | .start => 11
  | .askMainLoop => 10
  | .inline_ _ => 9
  | .spawn => 9
  | .enterMainLoop => 8
  | .mainLoop => 7
  | .linger => 6
  | .requestEnd => 5
  | .beginWait => 4
  | .waitFinished .. => 3
  | .join _ => 2
  | .shutdown .. => 1
  | .abort _ => 1
  | .done _ => 0

namespace Threads

variable {t t' : Threads} {s s' : Shared} {released : Bool} {l : SessionDeed} {w : Worker}
  {log : List String → Option Payload}

/-- **A step of a controller that can go on** is one step less to take. -/
theorem Controls.left_lt (h : t.Controls s released t' s') (hfree : ¬ t.IsBlocked s released) :
    t'.controller.stage.left < t.controller.stage.left := by
  cases h with
  | waits hblocked => exact absurd hblocked hfree
  | _ => simp [Controller.Stage.left, *]

theorem isController_deed (t : Threads) (s : Shared) : (t.deed s).isController = true := by
  unfold deed
  split
  · rfl
  · rfl

/-- Either the controller takes a step of its own, or it has as many to take as before. -/
theorem Move.left_cases (h : Move (t, s) l (t', s')) :
    (l.isController = true ∧ ∃ released, t.Controls s released t' s')
      ∨ (l.isController = false ∧ t'.controller.stage.left = t.controller.stage.left) := by
  cases h with
  | controller released hgo hown hstep =>
    exact .inl ⟨isController_deed t s, released, controls hgo hown hstep⟩
  -- the stage goes on with the same name, whatever the program in it has done
  | inline_ released hown hquiet hstep =>
    obtain ⟨hstage, -⟩ := inline?_eq_some hown
    obtain ⟨turn', w', -, rfl⟩ := inline_cases hown hstep
    refine .inr ⟨rfl, ?_⟩
    rw [hstage]
    rfl
  | worker hworker hgo hquiet hstep =>
    obtain ⟨turn', w', -, rfl⟩ := worker_cases hworker hgo hstep
    exact .inr ⟨rfl, rfl⟩
  | inlineLogged panic hown hlog =>
    obtain ⟨hstage, -⟩ := inline?_eq_some hown
    obtain ⟨⟨path, config, linger, stage, transitions, endRequest⟩, worker, askedExit⟩ := t
    obtain rfl : stage = .inline_ _ := hstage
    exact .inr ⟨rfl, rfl⟩
  | workerLogged panic hworker hgo hlog => exact .inr ⟨rfl, rfl⟩
  | exit => exact .inr ⟨rfl, rfl⟩
  | clock hlater => exact .inr ⟨rfl, rfl⟩

/-- The program is being run, by the controller or in a thread of its own. -/
def IsRunning (t : Threads) : Prop :=
  t.inline?.isSome = true ∨ ∃ w, t.worker = some w ∧ w.result? = none

/-- **An execution of a session that leaves nobody out** and is left to itself: the log answers by
its rule, nobody else asks the host to leave its main loop, the controller and the program go on
until they are done, and so does the clock. -/
structure Fair (log : List String → Option Payload) {x : Threads × Shared} (E : Endless Move x) :
    Prop where
  answered : ∀ i, AnsweredBy log (E.past i)
  noExit : ∀ i, E.deed i ≠ .exit
  controller : ∀ i, (E.state i).1.controller.result? = none → (E.state i).1.inline? = none →
    ∃ j, i ≤ j ∧ (E.deed j).isController = true
  program : ∀ i, (E.state i).1.IsRunning → ∃ j, i ≤ j ∧ (E.deed j).isProgram = true
  clock : ∀ time, ∃ i, time ≤ (E.state i).2.clock

theorem clock_own (t : Threads) (s : Shared) : (t.own s).clock = s.clock := by
  unfold own
  split
  · rfl
  · rfl

/-- **A session in which the controller waits for the program only**: nobody is asked to end, a
program that is not over runs or is still to be started, and only such a program keeps the
controller waiting. -/
structure Waits (t : Threads) (s : Shared) (l : SessionDeed) : Prop where
  unasked : ∀ answer, l ≠ .asksEnd answer
  running : ∀ {w}, t.Carries w → w.result? = none → ¬ t.IsRunning →
    t.worker = none ∧ t.controller.result? = none ∧ t.inline? = none
  blocked : ∀ {w released}, t.Carries w → t.IsBlocked s released →
    t.worker = some w ∧ w.result? = none

section Endless

variable {c : Controller} {s₀ : Shared} {host : SimHost}

/-- **An infinite session, as its program lives through it** by itself. -/
theorem exists_alone (host : SimHost) (hstage : c.stage = .start) (hcode : s₀.host.initCode = 0)
    (E : Endless Move ({ controller := c }, s₀)) (hfair : Fair log E)
    (hwaits : ∀ i, (E.state i).1.Waits (E.state i).2 (E.deed i)) :
    ∃ F : Endless Worker.Alone (c.program, ({ s₀ with slot := {} } : Shared).onHost host),
      (∀ i, F.deed i = (E.deed i).alone host)
        ∧ ∀ i, (E.state i).1.Carries (F.state i).1
          ∧ (F.state i).2 = ((E.state i).1.own (E.state i).2).onHost host := by
  -- the run of the program is built along the session's, one move for each
  refine E.exists_along (fun i (y : Worker × Shared) => (E.state i).1.Carries y.1
    ∧ y.2 = ((E.state i).1.own (E.state i).2).onHost host) ?_ ?_
  · rw [E.begins]
    unfold Carries own
    dsimp only
    rw [hstage]
    exact ⟨⟨rfl, rfl⟩, rfl⟩
  · rintro i ⟨w, s⟩ ⟨hw, hs⟩
    obtain rfl : s = _ := hs
    have hsteady := steady_of_run (E.run i)
    obtain ⟨w', hw', hhosted⟩ := hw.move (fun _ => hsteady.initCode.trans hcode) (E.next i)
    exact ⟨(w', _), ⟨hw', rfl⟩, hhosted.alone (hwaits i).unasked (hfair.noExit i) host⟩

/-- **The program of a fair session is over at some time**, if it ends by itself. -/
theorem over_of_fair (E : Endless Move ({ controller := c }, s₀)) (hfair : Fair log E)
    (hwaits : ∀ i, (E.state i).1.Waits (E.state i).2 (E.deed i))
    {F : Endless Worker.Alone (c.program, ({ s₀ with slot := {} } : Shared).onHost host)}
    (hdeed : ∀ i, F.deed i = (E.deed i).alone host)
    (halong : ∀ i, (E.state i).1.Carries (F.state i).1
      ∧ (F.state i).2 = ((E.state i).1.own (E.state i).2).onHost host)
    (hends : Worker.EndsByItself log c.program (({ s₀ with slot := {} } : Shared).onHost host)) :
    ∃ i, (F.state i).1.result?.isSome = true := by
  refine Classical.byContradiction fun hnever => ?_
  have hgo : ∀ i, (F.state i).1.result? = none := by
    intro i
    rw [← Option.not_isSome_iff_eq_none]
    exact fun hover => hnever ⟨i, hover⟩
  -- sooner or later the program runs, because the controller has started it
  have hrunning : ∀ i, ∃ j, i ≤ j ∧ (E.state j).1.IsRunning := by
    intro i
    refine eventually_of_rank (fun _ => True) (fun i => (E.state i).1.IsRunning)
      (fun i => (E.deed i).isController = true) (fun i => (E.state i).1.controller.stage.left)
      ?_ ?_ trivial
    · intro i _ hnot
      obtain ⟨hnone, -, -⟩ := (hwaits i).running (halong i).1 (hgo i) hnot
      rcases (E.next i).left_cases with ⟨-, released, hcontrols⟩ | ⟨hl, hsame⟩
      · have hfree : ¬ (E.state i).1.IsBlocked (E.state i).2 released := by
          intro hblocked
          exact nomatch hnone.symm.trans ((hwaits i).blocked (halong i).1 hblocked).1
        have hlower := hcontrols.left_lt hfree
        exact ⟨trivial, Nat.le_of_lt hlower, fun _ => hlower⟩
      · exact ⟨trivial, Nat.le_of_eq hsame, fun hhelpful => nomatch hl.symm.trans hhelpful⟩
    · intro i _ hnot
      obtain ⟨-, hresult, hinline⟩ := (hwaits i).running (halong i).1 (hgo i) hnot
      exact hfair.controller i hresult hinline
  -- so it is left out by nobody, and is over at some time
  have halone : Worker.Fair log F := by
    refine ⟨fun i => ?_, fun i _ => ?_, fun time => ?_⟩
    · rw [Endless.past_map hdeed]
      exact (hfair.answered i).alone host
    · obtain ⟨j, hij, hruns⟩ := hrunning i
      obtain ⟨k, hjk, hprogram⟩ := hfair.program j hruns
      refine ⟨k, Nat.le_trans hij hjk, ?_⟩
      rw [hdeed, SessionDeed.isProgram_alone]
      exact hprogram
    · obtain ⟨i, hi⟩ := hfair.clock time
      refine ⟨i, ?_⟩
      rw [(halong i).2]
      show time ≤ ((E.state i).1.own (E.state i).2).clock
      rw [clock_own]
      exact hi
  exact hnever (hends F halone)

/-- **The controller of a fair session is done at some time**, if its program ends by itself. -/
theorem done_of_fair (host : SimHost) (hstage : c.stage = .start) (hcode : s₀.host.initCode = 0)
    (E : Endless Move ({ controller := c }, s₀)) (hfair : Fair log E)
    (hwaits : ∀ i, (E.state i).1.Waits (E.state i).2 (E.deed i))
    (hends : Worker.EndsByItself log c.program (({ s₀ with slot := {} } : Shared).onHost host)) :
    ∃ i, (E.state i).1.controller.result?.isSome = true := by
  obtain ⟨F, hdeed, halong⟩ := exists_alone host hstage hcode E hfair hwaits
  obtain ⟨i, hover⟩ := over_of_fair E hfair hwaits hdeed halong hends
  -- once the program is over, each step of the controller's own brings it closer to its end
  obtain ⟨j, -, hdone⟩ := eventually_of_rank (fun i => (F.state i).1.result?.isSome = true)
    (fun i => (E.state i).1.controller.result?.isSome = true)
    (fun i => (E.deed i).isController = true) (fun i => (E.state i).1.controller.stage.left)
    (by
      intro i hover _
      have hstays : (F.state (i + 1)).1.result?.isSome = true := by
        obtain ⟨result, hresult⟩ := Option.isSome_iff_exists.mp hover
        rw [(F.next i).over hresult]
        rfl
      rcases (E.next i).left_cases with ⟨-, released, hcontrols⟩ | ⟨hl, hsame⟩
      · have hfree : ¬ (E.state i).1.IsBlocked (E.state i).2 released := by
          intro hblocked
          have hgo := ((hwaits i).blocked (halong i).1 hblocked).2
          rw [hgo] at hover
          cases hover
        have hlower := hcontrols.left_lt hfree
        exact ⟨hstays, Nat.le_of_lt hlower, fun _ => hlower⟩
      · exact ⟨hstays, Nat.le_of_eq hsame, fun hhelpful => nomatch hl.symm.trans hhelpful⟩)
    (by
      intro i hover hnot
      rw [Option.not_isSome_iff_eq_none] at hnot
      refine hfair.controller i hnot ?_
      -- a program that the controller is still running would not be over
      cases hown : (E.state i).1.inline? with
      | none => rfl
      | some w =>
        obtain ⟨hinline, hgo⟩ := inline?_eq_some hown
        have hw := (halong i).1
        unfold Carries at hw
        rw [hinline] at hw
        rw [hw.2, hgo] at hover
        cases hover)
    hover
  exact ⟨j, hdone⟩

end Endless

/-- **With a main loop, the controller waits for the program only.** -/
theorem waits_of_calm (hcalm : Calm t s) (hpasses : t.Passes s)
    (hslot : t.IsOver → s.slot.phase = .finished ∧ s.slot.handle = none)
    (hl : ∀ answer, l ≠ .asksEnd answer) : t.Waits s l := by
  refine ⟨hl, ?_, ?_⟩
  · intro w hw hgo hnot
    have hinline := hpasses.inline?_eq_none
    have hnone : t.worker = none := by
      cases hworker : t.worker with
      | none => rfl
      | some w₁ =>
        obtain ⟨rfl, -, -⟩ := hw.of_worker hworker
        exact absurd (.inr ⟨w, hworker, hgo⟩) hnot
    refine ⟨hnone, ?_, hinline⟩
    -- a controller that is done has joined a worker
    have hawaits := hcalm.awaits
    obtain ⟨⟨path, config, linger, stage, transitions, endRequest⟩, worker, askedExit⟩ := t
    cases stage with
    | done r =>
      cases r with
      | ok o =>
        obtain ⟨w₁, hworker, -⟩ := hawaits.2
        exact nomatch hnone.symm.trans hworker
      | _ => exact hpasses.elim
    | _ => rfl
  · intro w released hw hblocked
    obtain ⟨hexit, hlinger, -, hawaits⟩ := hcalm
    unfold Awaits at hawaits
    unfold Carries at hw
    cases hblocked with
    | mainLoop hstage hrequested =>
      -- the host has not been asked yet, so the program is not over
      rw [hstage] at hw
      refine ⟨hw, ?_⟩
      rw [← Option.not_isSome_iff_eq_none]
      exact fun hover => nomatch hrequested.symm.trans (hexit.mpr ⟨w, hw, hover⟩)
    | linger hstage hheld =>
      rw [hlinger] at hheld
      cases hheld
    | waitFinished hstage hphase hclock =>
      rw [hstage] at hawaits
      have hfinished : s.slot.isFinished = true := by
        unfold Slot.isFinished
        rw [(hslot hawaits).1]
        rfl
      exact nomatch hfinished.symm.trans hphase
    | join hstage hgo =>
      rw [hstage] at hawaits
      obtain ⟨w₁, hworker, hover⟩ := hawaits
      rw [hworker] at hgo
      change w₁.result? = none at hgo
      rw [hgo] at hover
      cases hover

/-- **Without a main loop, the controller does not wait.** -/
theorem CourseInline.waits (h : CourseInline t s) (hl : ∀ answer, l ≠ .asksEnd answer) :
    t.Waits s l := by
  obtain ⟨hpasses, hnone⟩ := h
  unfold PassesInline at hpasses
  refine ⟨hl, ?_, ?_⟩
  · intro w hw hgo hnot
    have hinline : t.inline? = none := by
      cases hown : t.inline? with
      | none => rfl
      | some w₁ => exact absurd (.inl (by rw [hown]; rfl)) hnot
    refine ⟨hnone, ?_, hinline⟩
    obtain ⟨⟨path, config, linger, stage, transitions, endRequest⟩, worker, askedExit⟩ := t
    cases stage with
    | done r =>
      -- the result of the controller is the one of a program that is over
      obtain ⟨result, rfl⟩ := hpasses
      rcases hw with ⟨-, -, detail, hspawn⟩ | ⟨-, result', o, hover, -⟩ | ⟨hworker, -⟩
      · cases result with
        | _ => cases hspawn
      · exact nomatch hgo.symm.trans hover
      · exact nomatch hnone.symm.trans hworker
    | _ => rfl
  · intro w released hw hblocked
    cases hblocked with
    | mainLoop hstage | linger hstage | waitFinished hstage | join hstage =>
      rw [hstage] at hpasses
      exact hpasses.elim

/-! ### The agreement -/

/-- **The session of a program**, at its beginning, on a host with a main loop or without one. -/
def begins (path : ByteArray) (interval timeout : Nat) (s₀ : Shared) (hasMainLoop : Bool) :
    Threads × Shared :=
  ({ controller := { path, config := { joinTimeoutMs := timeout, hookInterval := interval } } },
    { s₀ with host := { s₀.host with hasMainLoop } })

/-- **A session that was left to itself and has ended**: the log has answered by its rule, and
nobody but the program has asked the host to leave its main loop. -/
structure Ends (log : List String → Option Payload) (x : Threads × Shared)
    (happened : List SessionDeed) (t : Threads) (s : Shared) (r : ControllerResult) : Prop where
  run : Run Move x happened (t, s)
  answered : AnsweredBy log happened
  noExit : .exit ∉ happened
  done : t.controller.result? = some r

end Threads

/-- **What a session leaves behind**, whichever thread its program has run in. -/
structure Leaves (s₀ : Shared) (result : WorkerResult) (started : Bool) (s : Shared) : Prop where
  /-- No panic has gone on beyond the program. -/
  caught : ∀ p, result ≠ .panicked p
  diagnostics : s.host.diagnostics = s₀.host.diagnostics ++ result.diagnostics
  slot : s.slot = { handle := none, phase := .finished, robotStarted := started
                    closes := if s₀.engineFault.isNone then 1 else 0 }
  shutdown : s.host.shutdownCalls = s₀.host.shutdownCalls + 1

/-- **What a controller comes to that has joined its worker.** -/
structure Joined (result : WorkerResult) (happened : List SessionDeed) (t : Threads) (s : Shared)
    (r : ControllerResult) : Prop where
  outcome : ∃ joinWait, r = .ok
    { termination := .joined, transitions := [.idle, .running, .ending, .joinWait, .joined, .closed]
      endRequest := none, robotStarted := s.slot.robotStarted, engineCloses := s.slot.closes
      joinWait }
  worker : t.worker.bind Worker.result? = some result
  delivered : delivered happened = []

/-- **What a controller comes to that has run the program itself**: a failure of the program is
its own. -/
structure RunInline (result : WorkerResult) (happened : List SessionDeed) (s : Shared)
    (r : ControllerResult) : Prop where
  outcome : result = .returned → r = .ok (Threads.inlineOutcome s.slot)
  failed_iff : ∀ e, r = .error (.session e) ↔ result = .failed e
  delivered : delivered happened = []

namespace Threads

section Agreement

variable {log : List String → Option Payload} {path : ByteArray} {interval timeout : Nat}
  {s₀ s : Shared} {t : Threads} {happened : List SessionDeed} {r : ControllerResult}

/-- A panic is caught by the program, unless it comes from telling the host of a failure. -/
theorem caught_of_hosted {w₀ w : Worker} {s₁ : Shared} {result : WorkerResult}
    (hstage : w₀.stage = .start) (hpanics : s.panicsOnReport = false)
    (hhosted : Run Worker.Hosted (w₀, s₁) happened (w, s)) (hdone : w.result? = some result)
    (p : Payload) : result ≠ .panicked p := by
  rintro rfl
  obtain ⟨hreports, -⟩ := Worker.told_of_run hstage hhosted hdone
  exact nomatch hpanics.symm.trans hreports

/-- What a session leaves behind whose program is over, and whose host has been shut down. -/
theorem leaves_of_hosted {w : Worker} {result : WorkerResult} {hasMainLoop : Bool}
    (hcode : s₀.host.initCode = 0) (hpanics : s₀.panicsOnReport = false)
    (hrun : Run Move (begins path interval timeout s₀ hasMainLoop) happened (t, s))
    (hhosted : Run Worker.Hosted ({ path, interval },
      { s₀ with host := { s₀.host with hasMainLoop }, slot := {} }) happened (w, s))
    (hdone : w.result? = some result) (hclosed : t.controller.stage.isClosed = true) :
    Leaves s₀ result s.slot.robotStarted s := by
  have hsteady := steady_of_run hrun
  have hreports : s.panicsOnReport = false := hsteady.panics.trans hpanics
  have hcaught := caught_of_hosted rfl hreports hhosted hdone
  have htold := Worker.told_of_run rfl hhosted hdone
  have hover : w.result?.isSome = true := by
    rw [hdone]
    rfl
  obtain ⟨hphase, hhandle, hcloses⟩ := Worker.slot_of_done rfl rfl rfl hhosted hover
  have hzero : (begins path interval timeout s₀ hasMainLoop).2.host.initCode = 0 := hcode
  have hcalls := (closing_of_run rfl hzero hrun).calls
  rw [hclosed] at hcalls
  refine ⟨hcaught, ?_, ?_, hcalls⟩
  · -- what the program has told is the failure, if there is one; a panic is excluded
    cases result with
    | returned => exact htold.trans (List.append_nil _).symm
    | failed e => exact htold.2
    | panicked p => exact absurd rfl (hcaught p)
  · -- the slot of an ended session is known field by field
    have hfault : s.engineFault = s₀.engineFault := hsteady.fault
    rw [hfault] at hcloses
    cases hslot : s.slot with
    | mk handle phase started closes =>
      rw [hslot] at hphase hhandle hcloses
      obtain rfl : handle = none := hhandle
      obtain rfl : phase = .finished := hphase
      rw [← hcloses]

/-- What a session comes to is what its program may come to by itself. -/
theorem mayEnd_of_hosted {w : Worker} {result : WorkerResult} {hasMainLoop : Bool}
    (hhosted : Run Worker.Hosted ({ path, interval },
      { s₀ with host := { s₀.host with hasMainLoop }, slot := {} }) happened (w, s))
    (hasks : ∀ answer, .asksEnd answer ∉ happened) (hexit : .exit ∉ happened)
    (hlog : AnsweredBy log happened) (hdone : w.result? = some result) :
    Worker.MayEnd log { path, interval } { s₀ with slot := {} } result s.slot.robotStarted :=
  ⟨_, _, _, Worker.run_alone hhosted hasks hexit s₀.host, hlog.alone s₀.host, hdone, rfl⟩

/-- Nobody was asked to end, so nothing was delivered. -/
theorem delivered_of_hosted {w₀ : Worker} {s₁ : Shared} {x : Worker × Shared}
    (hstage : w₀.stage = .start) (hengine : w₀.engine = none) (hhandle : s₁.slot.handle = none)
    (hhosted : Run Worker.Hosted (w₀, s₁) happened x)
    (hasks : ∀ answer, .asksEnd answer ∉ happened) : delivered happened = [] := by
  have hcalls := (Worker.Kept.run hstage hengine hhandle hhosted).calls
  rw [posted_eq_nil hasks] at hcalls
  exact List.append_eq_nil_iff.mp (List.sublist_nil.mp hcalls) |>.1

/-- **A session with a main loop** that was left to itself and has ended. -/
theorem joined_of_ends (hcode : s₀.host.initCode = 0) (hexit : s₀.host.exitRequested = false)
    (hpanics : s₀.panicsOnReport = false) (hspawn : s₀.spawnFault = none)
    (h : Ends log (begins path interval timeout s₀ true) happened t s r) :
    ∃ result, Worker.MayEnd log { path, interval } { s₀ with slot := {} } result s.slot.robotStarted
      ∧ Joined result happened t s r ∧ Leaves s₀ result s.slot.robotStarted s := by
  obtain ⟨hrun, hlog, hleft, hdone⟩ := h
  have hzero : (begins path interval timeout s₀ true).2.host.initCode = 0 := hcode
  have hspawns : (begins path interval timeout s₀ true).2.spawnFault = none := hspawn
  -- calm tells how the session has ended, the course what its outcome says
  obtain ⟨hcalm, hasks⟩ := calm_of_run hzero rfl hspawns hexit hrun hleft
  obtain ⟨hpasses, -⟩ := course_of_run hzero rfl hspawns hrun
  obtain ⟨w, hw, hhosted⟩ := run_hosted rfl hzero hrun
  obtain ⟨-, -, hunasked, hawaits⟩ := hcalm
  obtain ⟨⟨path', config', linger', stage, transitions, endRequest⟩, worker, askedExit⟩ := t
  obtain rfl : stage = .done r := by
    cases stage with
    | done r' => rw [Option.some.inj hdone]
    | _ => cases hdone
  cases r with
  | error e => exact hpasses.elim
  | panicked p => exact hpasses.elim
  | ok o =>
    obtain ⟨hjoined, w₁, hworker, hover⟩ := hawaits
    obtain ⟨rfl, -, -⟩ := hw.of_worker hworker
    obtain ⟨-, htransitions, hrequest, htells, -⟩ := hpasses
    obtain ⟨-, hstarted, hcloses⟩ := htells hjoined
    obtain ⟨result, hresult⟩ := Option.isSome_iff_exists.mp hover
    -- each field of the outcome is now known
    obtain ⟨termination, transitions', endRequest', robotStarted, engineCloses, joinWait⟩ := o
    obtain rfl : termination = .joined := hjoined
    obtain rfl : robotStarted = s.slot.robotStarted := hstarted
    obtain rfl : engineCloses = s.slot.closes := hcloses
    obtain rfl : endRequest' = endRequest := hrequest
    obtain rfl : endRequest' = none := hunasked
    obtain rfl : transitions' = [.idle, .running, .ending, .joinWait, .joined, .closed] :=
      htransitions
    have hjoins : worker.bind Worker.result? = some result := by
      rw [show worker = some w from hworker]
      exact hresult
    exact ⟨result, mayEnd_of_hosted hhosted hasks hleft hlog hresult,
      ⟨⟨joinWait, rfl⟩, hjoins, delivered_of_hosted rfl rfl rfl hhosted hasks⟩,
      leaves_of_hosted hcode hpanics hrun hhosted hresult rfl⟩

/-- **A session without a main loop** that was left to itself and has ended. -/
theorem runInline_of_ends (hcode : s₀.host.initCode = 0) (hpanics : s₀.panicsOnReport = false)
    (h : Ends log (begins path interval timeout s₀ false) happened t s r) :
    ∃ result, Worker.MayEnd log { path, interval } { s₀ with slot := {} } result s.slot.robotStarted
      ∧ RunInline result happened s r ∧ Leaves s₀ result s.slot.robotStarted s := by
  obtain ⟨hrun, hlog, hleft, hdone⟩ := h
  have hzero : (begins path interval timeout s₀ false).2.host.initCode = 0 := hcode
  obtain ⟨⟨hpasses, hnone⟩, hasks⟩ := courseInline_of_run hzero rfl hrun
  obtain ⟨w, hw, hhosted⟩ := run_hosted rfl hzero hrun
  obtain ⟨⟨path', config', linger', stage, transitions, endRequest⟩, worker, askedExit⟩ := t
  obtain rfl : stage = .done r := by
    cases stage with
    | done r' => rw [Option.some.inj hdone]
    | _ => cases hdone
  obtain ⟨result, rfl⟩ := hpasses
  -- the controller's result is the one of its program
  have hresult : w.result? = some result := by
    rcases hw with ⟨-, -, detail, hfault⟩ | ⟨-, result', o, hresult, hsame⟩ | ⟨hworker, -⟩
    · cases result with
      | _ => cases hfault
    · rw [hresult]
      cases result with
      | _ =>
        cases result' with
        | _ => cases hsame <;> rfl
    · exact nomatch hnone.symm.trans hworker
  have hdelivered := delivered_of_hosted rfl rfl rfl hhosted hasks
  refine ⟨result, mayEnd_of_hosted hhosted hasks hleft hlog hresult, ⟨?_, ?_, hdelivered⟩, ?_⟩
  · rintro rfl
    rfl
  · intro e
    cases result with
    | returned => exact ⟨nofun, nofun⟩
    | panicked p => exact ⟨nofun, nofun⟩
    | failed e' =>
      constructor
      · intro hsame
        cases hsame
        rfl
      · intro hsame
        cases hsame
        rfl
  · have hreports : s.panicsOnReport = false := (steady_of_run hrun).panics.trans hpanics
    have hcaught := caught_of_hosted rfl hreports hhosted hresult
    refine leaves_of_hosted hcode hpanics hrun hhosted hresult ?_
    cases result with
    | returned => rfl
    | failed e => rfl
    | panicked p => exact absurd rfl (hcaught p)

/-- **A session with a main loop** ends, if it is left to itself and leaves nobody out. -/
theorem done_with_mainLoop (hcode : s₀.host.initCode = 0) (hexit : s₀.host.exitRequested = false)
    (hspawn : s₀.spawnFault = none)
    (hends : Worker.EndsByItself log { path, interval } { s₀ with slot := {} })
    (E : Endless Move (begins path interval timeout s₀ true)) (hfair : Fair log E) :
    ∃ i, (E.state i).1.controller.result?.isSome = true := by
  have hzero : (begins path interval timeout s₀ true).2.host.initCode = 0 := hcode
  have hspawns : (begins path interval timeout s₀ true).2.spawnFault = none := hspawn
  have hleft : ∀ i, .exit ∉ E.past i := by
    intro i hmem
    obtain ⟨j, hj⟩ := Endless.mem_past hmem
    exact hfair.noExit j hj
  -- fairness needs a reason for each wait, and calm gives it
  refine done_of_fair s₀.host rfl hzero E hfair (fun i => ?_) hends
  obtain ⟨hcalm, -⟩ := calm_of_run hzero rfl hspawns hexit (E.run i) (hleft i)
  obtain ⟨-, hasks⟩ := calm_of_run hzero rfl hspawns hexit (E.run (i + 1)) (hleft (i + 1))
  obtain ⟨hpasses, -⟩ := course_of_run hzero rfl hspawns (E.run i)
  refine waits_of_calm hcalm hpasses (slot_of_isOver rfl hzero (E.run i)) fun answer hdeed => ?_
  refine hasks answer ?_
  rw [← hdeed]
  exact List.mem_append_right _ (List.mem_singleton.mpr rfl)

/-- **A session without a main loop** ends, if it leaves nobody out. -/
theorem done_without_mainLoop (hcode : s₀.host.initCode = 0)
    (hends : Worker.EndsByItself log { path, interval } { s₀ with slot := {} })
    (E : Endless Move (begins path interval timeout s₀ false)) (hfair : Fair log E) :
    ∃ i, (E.state i).1.controller.result?.isSome = true := by
  have hzero : (begins path interval timeout s₀ false).2.host.initCode = 0 := hcode
  refine done_of_fair s₀.host rfl hzero E hfair (fun i => ?_) hends
  obtain ⟨hcourse, -⟩ := courseInline_of_run hzero rfl (E.run i)
  obtain ⟨-, hasks⟩ := courseInline_of_run hzero rfl (E.run (i + 1))
  refine hcourse.waits fun answer hdeed => hasks answer ?_
  rw [← hdeed]
  exact List.mem_append_right _ (List.mem_singleton.mpr rfl)

/-- **The two modes agree.** The session of a program that does not depend on time and ends by
itself comes to one and the same thing in every interleaving, with every patience of the
controller, and without a main loop; only there the program's failure is the controller's. -/
theorem modes_agree (hcode : s₀.host.initCode = 0) (hexit : s₀.host.exitRequested = false)
    (hpanics : s₀.panicsOnReport = false) (hspawn : s₀.spawnFault = none)
    (htime : Worker.TimeFree log { path, interval } { s₀ with slot := {} })
    (hends : Worker.EndsByItself log { path, interval } { s₀ with slot := {} }) :
    ∃ result started,
      (∀ {timeout happened t s r}, Ends log (begins path interval timeout s₀ true) happened t s r →
          Joined result happened t s r ∧ Leaves s₀ result started s)
        ∧ (∀ {timeout happened t s r},
          Ends log (begins path interval timeout s₀ false) happened t s r →
            RunInline result happened s r ∧ Leaves s₀ result started s)
        ∧ ∀ {timeout hasMainLoop} (E : Endless Move (begins path interval timeout s₀ hasMainLoop)),
          Fair log E → ∃ i, (E.state i).1.controller.result?.isSome = true := by
  have hdone : ∀ {timeout hasMainLoop}
      (E : Endless Move (begins path interval timeout s₀ hasMainLoop)), Fair log E →
      ∃ i, (E.state i).1.controller.result?.isSome = true := by
    intro timeout hasMainLoop E hfair
    cases hasMainLoop with
    | true => exact done_with_mainLoop hcode hexit hspawn hends E hfair
    | false => exact done_without_mainLoop hcode hends E hfair
  by_cases hmay : ∃ result started,
      Worker.MayEnd log { path, interval } { s₀ with slot := {} } result started
  · obtain ⟨result, started, hmay⟩ := hmay
    refine ⟨result, started, ?_, ?_, hdone⟩
    · intro timeout happened t s r h
      obtain ⟨result', hmay', hjoined, hleaves⟩ := joined_of_ends hcode hexit hpanics hspawn h
      obtain ⟨rfl, hstarted⟩ := htime hmay' hmay
      rw [hstarted] at hleaves
      exact ⟨hjoined, hleaves⟩
    · intro timeout happened t s r h
      obtain ⟨result', hmay', hinline, hleaves⟩ := runInline_of_ends hcode hpanics h
      obtain ⟨rfl, hstarted⟩ := htime hmay' hmay
      rw [hstarted] at hleaves
      exact ⟨hinline, hleaves⟩
  · -- a program that cannot end has no session that does
    refine ⟨.returned, false, ?_, ?_, hdone⟩
    · intro timeout happened t s r h
      obtain ⟨result', hmay', -⟩ := joined_of_ends hcode hexit hpanics hspawn h
      exact absurd ⟨result', _, hmay'⟩ hmay
    · intro timeout happened t s r h
      obtain ⟨result', hmay', -⟩ := runInline_of_ends hcode hpanics h
      exact absurd ⟨result', _, hmay'⟩ hmay

end Agreement

/-- A schedule after which the controller is done leaves the session to itself. -/
theorem ends_of_follow {x : Threads × Shared} {schedule : List Bool}
    (hdone : (follow schedule x).1.controller.result?.isSome = true) :
    ∃ happened r, Ends (fun _ => none) x happened (follow schedule x).1 (follow schedule x).2 r := by
  obtain ⟨happened, hrun, hturns⟩ := turns_follow schedule x
  obtain ⟨r, hresult⟩ := Option.isSome_iff_exists.mp hdone
  have hsilent : ∀ line panic, .logged line panic ∉ happened :=
    fun line panic hmem => nomatch hturns _ hmem
  have hnobody : .exit ∉ happened := fun hmem => nomatch hturns _ hmem
  exact ⟨happened, r, ⟨hrun, .of_silent hsilent, hnobody, hresult⟩⟩

/-- An idle program, with a main loop and a controller that has no patience, and without. -/
theorem modes_agree_idle : ∃ happened t s r happened' t' s' r' result started,
    Ends (fun _ => none) (begins ⟨#[114]⟩ 1000 0 { files := Worker.idleProgram } true)
        happened t s r
      ∧ Ends (fun _ => none) (begins ⟨#[114]⟩ 1000 0 { files := Worker.idleProgram } false)
        happened' t' s' r'
      ∧ Joined result happened t s r ∧ RunInline result happened' s' r'
      ∧ Leaves { files := Worker.idleProgram } result started s
      ∧ Leaves { files := Worker.idleProgram } result started s' ∧ started = true := by
  let s₀ : Shared := { files := Worker.idleProgram }
  -- the controller begins, the worker runs to its end, and the controller finishes
  let threaded := List.replicate 4 true ++ List.replicate 16 false ++ List.replicate 10 true
  -- by itself the program takes sixteen steps, and never asks for the time
  have hcourse : (Worker.Point.of ({ path := ⟨#[114]⟩, interval := 1000 }, { s₀ with slot := {} })
      []).comesTo (fun _ => none) 16 = true := by
    decide +kernel
  have hthreaded : (fun y : Threads × Shared =>
      y.1.controller.result?.isSome && y.2.slot.robotStarted)
      (follow threaded (begins ⟨#[114]⟩ 1000 0 s₀ true)) = true := by
    decide +kernel
  have hinline : (follow (List.replicate 20 true) (begins ⟨#[114]⟩ 1000 0 s₀ false)).1.controller.result?.isSome
      = true := by
    decide +kernel
  rw [Bool.and_eq_true] at hthreaded
  obtain ⟨hdone, hstarted⟩ := hthreaded
  obtain ⟨happened, r, hends⟩ := ends_of_follow hdone
  obtain ⟨happened', r', hends'⟩ := ends_of_follow hinline
  generalize (follow threaded (begins ⟨#[114]⟩ 1000 0 s₀ true)) = y at hends hstarted
  generalize (follow _ (begins ⟨#[114]⟩ 1000 0 s₀ false)) = y' at hends'
  obtain ⟨result, started, hmain, hnone, -⟩ := modes_agree rfl rfl rfl rfl
    (Worker.timeFree_of_course hcourse) (Worker.endsByItself_of_course hcourse)
  obtain ⟨hjoined, hleaves⟩ := hmain hends
  obtain ⟨hran, hleaves'⟩ := hnone hends'
  refine ⟨happened, y.1, y.2, r, happened', y'.1, y'.2, r', result, started, hends, hends', hjoined,
    hran, hleaves, hleaves', ?_⟩
  rw [hleaves.slot] at hstarted
  exact hstarted

end Threads
end RobotSession
