import RobotSession.Proofs.Bridge.Calls
import RobotSession.Proofs.Bridge.Modes

/-!
# Waiting and waking up

The controller waits three times: in the main loop of the host, for the slot to be finished, and
for the worker's thread to end. For the first two it sleeps on a condition variable, and somebody
has to wake it. Here a look at what it waits for, together with falling asleep, is one step; to
request the exit and to ring for it are two, since the host is told first and its main loop is
woken afterwards.

A controller that looks before the request and sleeps before the bell is woken by it; one that
looks later does not sleep. So no wake-up is missed, in whatever order the worker and others come.

* `Vigil`, `Vigil.Move` — a session whose controller sleeps, and its moves.
* `Vigil.Sound` — who sleeps will be woken.
* `Vigil.Awaits` — where the controller waits, and that it goes on once the worker has ended.
* `Vigil.awaits_of_run` — so it does in every interleaving.
-/

namespace RobotSession

open Lua

/-! ### Blocked steps -/

/-- Until when a controller waits that is blocked. -/
def Controller.Stage.deadline? : Controller.Stage → Option Nat
  | .waitFinished _ deadline => some deadline
  | _ => none

def ThreadTurn.isBlocked : ThreadTurn → Bool
  | .blocked _ => true
  | _ => false

namespace Controller

variable {c c' : Controller} {s s' : Shared} {v : WorkerView} {deadline? : Option Nat}
  {signals : List Signal}

/-- **What a controller cannot go on for**: the exit, what it lingers for, the slot, or the
thread. -/
inductive Lacks (c : Controller) (s : Shared) (v : WorkerView) : Prop
  | exit (hstage : c.stage = .mainLoop) (h : s.host.exitRequested = false)
  | release (hstage : c.stage = .linger) (h : isReleased c.linger v = false)
  | finish {since deadline : Nat} (hstage : c.stage = .waitFinished since deadline)
      (hphase : s.slot.isFinished = false) (hclock : s.clock < deadline)
  | thread {since : Nat} (hstage : c.stage = .join since) (h : v.ended = none)

/-- A controller that is blocked changes nothing. -/
theorem lacks_of_blocked (hstep : c.step s v = (.blocked deadline?, c', s', signals)) :
    c' = c ∧ s' = s ∧ deadline? = c.stage.deadline? ∧ c.Lacks s v := by
  obtain ⟨path, config, linger, stage, transitions, endRequest⟩ := c
  -- four stages can be blocked, and each of them has just failed the test that lets it go on
  cases stage with
  | mainLoop =>
    unfold Controller.step at hstep
    dsimp only at hstep
    split at hstep
    · cases hstep
    · rename_i hexit
      rw [Bool.not_eq_true] at hexit
      cases hstep
      exact ⟨rfl, rfl, rfl, .exit rfl hexit⟩
  | linger =>
    unfold Controller.step at hstep
    dsimp only at hstep
    split at hstep
    · cases hstep
    · rename_i hfree
      rw [Bool.not_eq_true] at hfree
      cases hstep
      exact ⟨rfl, rfl, rfl, .release rfl hfree⟩
  | waitFinished since deadline =>
    unfold Controller.step at hstep
    dsimp only at hstep
    split at hstep
    · cases hstep
    · rename_i hphase
      rw [Bool.not_eq_true] at hphase
      split at hstep
      · cases hstep
      · rename_i hclock
        cases hstep
        exact ⟨rfl, rfl, rfl, .finish rfl hphase (Nat.lt_of_not_le hclock)⟩
  | join since =>
    unfold Controller.step at hstep
    dsimp only at hstep
    split at hstep
    · rename_i hended
      cases hstep
      exact ⟨rfl, rfl, rfl, .thread rfl hended⟩
    · cases hstep
  | start | askMainLoop | spawn | shutdown =>
    unfold Controller.step at hstep
    dsimp only at hstep
    split at hstep
    · cases hstep
    · cases hstep
  | inline_ w =>
    unfold Controller.step at hstep
    dsimp only at hstep
    split at hstep
    · cases hstep
    · cases hstep
    · cases hstep
  | _ => cases hstep

/-- Only a controller that runs the program itself takes a step of the program. -/
theorem stage_of_inline {turn : WorkerTurn}
    (hstep : c.step s v = (.inline_ turn, c', s', signals)) :
    ∃ w, c.stage = .inline_ w ∧ w.result? = none := by
  obtain ⟨path, config, linger, stage, transitions, endRequest⟩ := c
  unfold Controller.step at hstep
  cases stage with
  | inline_ w =>
    dsimp only at hstep
    split at hstep
    · cases hstep
    · cases hstep
    · exact ⟨w, rfl, ‹_›⟩
  | _ =>
    dsimp only at hstep
    -- at any other stage the controller takes a step of its own
    repeat' split at hstep
    all_goals cases hstep

end Controller

namespace Threads

variable {t t' : Threads} {s s' : Shared} {released : Bool} {turn : ThreadTurn}
  {signals : List Signal}

/-- A step at which the controller is blocked changes nothing. -/
theorem lacks_of_blocked (hgo : t.controller.result? = none) (hown : t.inline? = none)
    (hstep : t.controllerStep s released = (turn, t', s', signals))
    (hblocked : turn.isBlocked = true) :
    t' = t ∧ s' = s ∧ turn = .blocked t.controller.stage.deadline?
      ∧ t.controller.Lacks s (view t.worker t.askedExit released) := by
  obtain ⟨controller, worker, askedExit⟩ := t
  change controller.result? = none at hgo
  unfold controllerStep at hstep
  dsimp only at hstep
  rw [hgo] at hstep
  rcases hcstep : controller.step s (view worker askedExit released) with ⟨turn', c, s₁, signals₁⟩
  rw [hcstep] at hstep
  cases turn' with
  | blocked deadline? =>
    cases hstep
    obtain ⟨rfl, rfl, rfl, hlacks⟩ := Controller.lacks_of_blocked hcstep
    exact ⟨rfl, rfl, rfl, hlacks⟩
  -- a controller that runs the program itself is excluded
  | inline_ turn₁ =>
    obtain ⟨w, hstage, hresult⟩ := Controller.stage_of_inline hcstep
    unfold inline? at hown
    dsimp only at hown
    rw [hstage] at hown
    dsimp only at hown
    rw [hresult] at hown
    cases hown
  | _ =>
    cases hstep
    cases hblocked

/-- **A worker that is over has requested the exit**, and nobody takes that back. -/
theorem exitRequested_of_isOver {c : Controller} {s₀ : Shared} {happened : List SessionDeed}
    (hrun : Run Move ({ controller := c }, s₀) happened (t, s)) (hover : t.IsOver) :
    s.host.exitRequested = true := by
  refine hrun.invariant (P := fun x => x.1.IsOver → x.2.host.exitRequested = true) ?_ ?_ hover
  · intro x l y h hmove hover
    obtain ⟨t, s⟩ := x
    obtain ⟨t', s'⟩ := y
    change t.IsOver → s.host.exitRequested = true at h
    cases hmove with
    | controller released hgo hown hstep =>
      cases Threads.controls hgo hown hstep with
      | spawns hstage hfault =>
        -- a worker that has just been started is not over
        obtain ⟨w, hworker, hdone⟩ := hover
        obtain rfl := Option.some.inj hworker
        cases hdone
      | _ => exact h hover
    | inline_ released hown hquiet hstep =>
      obtain ⟨-, hgo⟩ := inline?_eq_some hown
      obtain ⟨turn', w', hw', rfl⟩ := inline_cases hown hstep
      rw [(Worker.steps hgo hw').exits, h hover]
      rfl
    | worker hworker hgo hquiet hstep =>
      obtain ⟨turn', w', hw', rfl⟩ := worker_cases hworker hgo hstep
      obtain ⟨w₁, hsome, hdone⟩ := hover
      obtain rfl := Option.some.inj hsome
      rw [(Worker.steps hgo hw').exits, hdone]
      exact Bool.or_true _
    | inlineLogged panic hown hlog =>
      obtain ⟨hstage, -⟩ := inline?_eq_some hown
      obtain ⟨⟨path, config, linger, stage, transitions, endRequest⟩, worker, askedExit⟩ := t
      obtain rfl : stage = .inline_ _ := hstage
      exact h hover
    | @workerLogged _ _ w line panic hworker hgo hlog =>
      obtain ⟨controller, worker, askedExit⟩ := t
      obtain rfl : worker = some w := hworker
      obtain ⟨w₁, hsome, hdone⟩ := hover
      obtain rfl := Option.some.inj hsome
      exact absurd (Option.isSome_iff_ne_none.mp hdone) (not_not_intro hgo)
    | exit => rfl
    | clock hlater => exact h hover
  · rintro ⟨w, hworker, -⟩
    cases hworker

end Threads

/-! ### Sleeping controllers -/

/-- **The condition variables** of a session. -/
inductive Bell
  /-- The exit has been requested. -/
  | exit
  /-- The phase of the slot has changed. -/
  | changed
  deriving DecidableEq

/-- The condition variable on which a controller sleeps that is blocked. -/
def Controller.Stage.bell? : Controller.Stage → Option Bell
  | .mainLoop => some .exit
  | .waitFinished .. => some .changed
  | _ => none

/-- The next step requests the exit. -/
def Worker.Stage.asks : Worker.Stage → Bool
  | .requestExit _ => true
  | _ => false

/-- **A session whose controller sleeps** while it waits. -/
structure Vigil where
  threads : Threads
  shared : Shared
  /-- The condition variable on which the controller sleeps. -/
  asleep : Option Bell := none
  /-- The worker has requested the exit, and has still to ring for it. -/
  owes : Bool := false
  /-- So many others have requested the exit, and have still to ring for it. -/
  others : Nat := 0

/-- **What happens** while a controller sleeps or does not. -/
inductive VigilDeed
  /-- The controller takes a step, or falls asleep. -/
  | controller
  | worker
  /-- The worker rings for the exit that it has requested. -/
  | workerRings
  | logged
  /-- Somebody else requests the exit. -/
  | request
  /-- Somebody else rings for it. -/
  | othersRing
  /-- The time for which the controller waits is over. -/
  | timesOut
  /-- The controller wakes up for no reason. -/
  | wakes
  | clock

namespace Vigil

/-- Who sleeps on a condition variable is woken. -/
def ring (x : Vigil) (bell : Bell) : Vigil :=
  { x with asleep := if x.asleep = some bell then none else x.asleep }

/-- The controller does not wait for a thread that has still something to do. -/
def CanJoin (x : Vigil) : Prop :=
  ∀ since, x.threads.controller.stage = .join since → x.threads.IsOver ∧ x.owes = false

/-- **The moves** of a session whose controller sleeps. -/
inductive Move : Vigil → VigilDeed → Vigil → Prop
  | controller {x : Vigil} {t' : Threads} {s' : Shared} {turn : ThreadTurn} {signals : List Signal}
      (released : Bool) (hawake : x.asleep = none) (hgo : x.threads.controller.result? = none)
      (hown : x.threads.inline? = none) (hjoin : x.CanJoin)
      (h : x.threads.controllerStep x.shared released = (turn, t', s', signals)) :
      Move x .controller
        { x with
          threads := t'
          shared := s'
          asleep := if turn.isBlocked then x.threads.controller.stage.bell? else none }
  | worker {x : Vigil} {t' : Threads} {s' : Shared} {w : Worker} {turn : ThreadTurn}
      {signals : List Signal} (hworker : x.threads.worker = some w) (hgo : w.result? = none)
      (hquiet : w.logging? = none)
      (h : x.threads.workerStep x.shared = (turn, t', s', signals)) :
      Move x .worker
        { x with
          threads := t'
          shared := s'
          asleep := if w.stage.rings then (x.ring .changed).asleep else x.asleep
          owes := x.owes || w.stage.asks }
  | workerRings {x : Vigil} (h : x.owes = true) :
      Move x .workerRings (ring { x with owes := false } .exit)
  | logged {x : Vigil} {w : Worker} {line : String} (panic : Option Payload)
      (hworker : x.threads.worker = some w) (hgo : w.result? = none)
      (hlog : w.logging? = some line) :
      Move x .logged { x with threads := x.threads.workerLogged panic }
  | request {x : Vigil} :
      Move x .request
        { x with
          shared := { x.shared with host := x.shared.host.requestExit }
          others := x.others + 1 }
  | othersRing {x : Vigil} (h : 0 < x.others) :
      Move x .othersRing (ring { x with others := x.others - 1 } .exit)
  | timesOut {x : Vigil} {since deadline : Nat} (hasleep : x.asleep = some .changed)
      (hstage : x.threads.controller.stage = .waitFinished since deadline)
      (hclock : deadline ≤ x.shared.clock) : Move x .timesOut { x with asleep := none }
  | wakes {x : Vigil} : Move x .wakes { x with asleep := none }
  | clock {x : Vigil} {clock : Nat} (h : x.shared.clock ≤ clock) :
      Move x .clock { x with shared := { x.shared with clock } }

variable {x y : Vigil} {l : VigilDeed} {happened : List VigilDeed}

/-- **Every move is one of the session**, or only rings, sleeps or wakes. -/
theorem Move.threads (h : Move x l y) :
    y.threads = x.threads ∧ y.shared = x.shared
      ∨ ∃ l', Threads.Move (x.threads, x.shared) l' (y.threads, y.shared) := by
  cases h with
  | controller released hawake hgo hown hjoin hstep =>
    exact .inr ⟨_, .controller released hgo hown hstep⟩
  | worker hworker hgo hquiet hstep => exact .inr ⟨_, .worker hworker hgo hquiet hstep⟩
  | logged panic hworker hgo hlog => exact .inr ⟨_, .workerLogged panic hworker hgo hlog⟩
  | request => exact .inr ⟨_, .exit⟩
  | clock h => exact .inr ⟨_, .clock h⟩
  | workerRings | othersRing | timesOut | wakes => exact .inl ⟨rfl, rfl⟩

theorem run_threads (hrun : Run Move x happened y) :
    ∃ deeds, Run Threads.Move (x.threads, x.shared) deeds (y.threads, y.shared) := by
  induction hrun with
  | refl => exact ⟨[], .refl⟩
  | tail run step ih =>
    obtain ⟨deeds, hdeeds⟩ := ih
    rcases step.threads with ⟨hthreads, hshared⟩ | ⟨l', hmove⟩
    · rw [hthreads, hshared]
      exact ⟨deeds, hdeeds⟩
    · exact ⟨_, .tail hdeeds hmove⟩

/-! ### No wake-up is missed -/

/-- **Who sleeps will be woken.** -/
structure Sound (x : Vigil) : Prop where
  /-- The main loop sleeps until somebody rings for the exit; who has requested it has still to
  ring. -/
  exit : x.asleep = some .exit → x.threads.controller.stage = .mainLoop
    ∧ (x.shared.host.exitRequested = true → x.owes = true ∨ 0 < x.others)
    ∧ (x.threads.IsOver → x.owes = true)
  /-- Nobody sleeps for a slot that is finished. -/
  changed : x.asleep = some .changed →
    (∃ since deadline, x.threads.controller.stage = .waitFinished since deadline)
    ∧ x.shared.slot.phase ≠ .finished
  /-- A worker that is joined has only the request to exit left. -/
  join : ∀ since, x.threads.controller.stage = .join since →
    ∃ w result, x.threads.worker = some w ∧ (w.stage = .requestExit result ∨ w.stage = .done result)
  linger : x.threads.controller.linger = .none

/-- **What is known of a session** from its moves alone: what its worker has come to shows in the
slot and in the host. -/
structure Known (t : Threads) (s : Shared) : Prop where
  requested : t.IsOver → s.host.exitRequested = true
  finished : t.IsOver → s.slot.phase = .finished
  /-- A slot that is finished belongs to a worker which has only to request the exit. -/
  last : s.slot.phase = .finished → ∀ w, t.worker = some w →
    ∃ result, w.stage = .requestExit result ∨ w.stage = .done result
  /-- The controller waits for a worker. -/
  worker : ∀ since deadline, t.controller.stage = .waitFinished since deadline →
    ∃ w, t.worker = some w

/-- **Once the worker is over there is nothing left to wait for.** -/
theorem Known.not_lacks {t : Threads} {s : Shared} {released : Bool} (h : Known t s)
    (hlinger : t.controller.linger = .none) (hover : t.IsOver) :
    ¬ t.controller.Lacks s (Threads.view t.worker t.askedExit released) := by
  intro hlacks
  cases hlacks with
  -- a worker that is over has asked for the exit
  | exit hstage hexit => exact nomatch hexit.symm.trans (h.requested hover)
  | release hstage hrelease =>
    rw [hlinger] at hrelease
    cases hrelease
  -- it has finished
  | finish hstage hphase hclock =>
    unfold Slot.isFinished at hphase
    rw [h.finished hover] at hphase
    cases hphase
  -- its thread has ended
  | thread hstage hended =>
    obtain ⟨w, hworker, hdone⟩ := hover
    obtain ⟨result, hresult⟩ := Option.isSome_iff_exists.mp hdone
    unfold Threads.view at hended
    rw [hworker] at hended
    change (w.result?).map _ = none at hended
    rw [hresult] at hended
    cases hended

namespace Sound

/-- **A step of the controller** keeps awake, or falls asleep where it will be woken. -/
theorem controller {t' : Threads} {s' : Shared} {turn : ThreadTurn} {signals : List Signal}
    {released : Bool} (h : Sound x) (hknown : Known x.threads x.shared)
    (hgo : x.threads.controller.result? = none) (hown : x.threads.inline? = none)
    (hstep : x.threads.controllerStep x.shared released = (turn, t', s', signals)) :
    Sound { x with
      threads := t'
      shared := s'
      asleep := if turn.isBlocked then x.threads.controller.stage.bell? else none } := by
  cases hblocked : turn.isBlocked with
  | true =>
    obtain ⟨rfl, rfl, -, hlacks⟩ := Threads.lacks_of_blocked hgo hown hstep hblocked
    -- it goes to sleep on the bell of what it lacks, and lacks it still
    refine ⟨fun hasleep => ?_, fun hasleep => ?_, h.join, h.linger⟩
    · cases hlacks with
      | exit hstage hexit =>
        refine ⟨hstage, fun hrequested => ?_, fun hover => ?_⟩
        · exact nomatch hexit.symm.trans hrequested
        · exact nomatch hexit.symm.trans (hknown.requested hover)
      | release hstage | finish hstage | thread hstage =>
        dsimp only at hasleep
        rw [hstage] at hasleep
        cases hasleep
    · cases hlacks with
      | finish hstage hphase hclock =>
        refine ⟨⟨_, _, hstage⟩, fun hfinished => ?_⟩
        unfold Slot.isFinished at hphase
        dsimp only at hfinished
        rw [hfinished] at hphase
        cases hphase
      | exit hstage | release hstage | thread hstage =>
        dsimp only at hasleep
        rw [hstage] at hasleep
        cases hasleep
  | false =>
    -- awake: only the step that has seen the end begins to join, when the thread is as good as over
    have hlinger : t'.controller.linger = .none ∧ ∀ since, t'.controller.stage = .join since →
        ∃ w result, t'.worker = some w
          ∧ (w.stage = .requestExit result ∨ w.stage = .done result) := by
      cases Threads.controls hgo hown hstep with
      | seesFinished hstage hphase =>
        obtain ⟨w, hworker⟩ := hknown.worker _ _ hstage
        obtain ⟨result, hlast⟩ := hknown.last (of_decide_eq_true hphase) w hworker
        exact ⟨h.linger, fun _ _ => ⟨w, result, hworker, hlast⟩⟩
      | waits => exact ⟨h.linger, h.join⟩
      | _ => exact ⟨h.linger, nofun⟩
    exact ⟨nofun, nofun, hlinger.2, hlinger.1⟩

/-- **A step of the worker** rings if it changes the phase of the slot. -/
theorem worker {t' : Threads} {s' : Shared} {w : Worker} {turn : ThreadTurn}
    {signals : List Signal} (h : Sound x) (hworker : x.threads.worker = some w)
    (hgo : w.result? = none) (hstep : x.threads.workerStep x.shared = (turn, t', s', signals)) :
    Sound { x with
      threads := t'
      shared := s'
      asleep := if w.stage.rings then (x.ring .changed).asleep else x.asleep
      owes := x.owes || w.stage.asks } := by
  obtain ⟨turn', w', hw', rfl⟩ := Threads.worker_cases hworker hgo hstep
  have hsteps := Worker.steps hgo hw'
  -- who is asleep after the step was asleep before, and not for the slot if that has changed
  have hasleep : ∀ {bell},
      (if w.stage.rings then (x.ring .changed).asleep else x.asleep) = some bell →
      x.asleep = some bell ∧ (bell = .changed → w.stage.rings = false) := by
    intro bell hbell
    cases hrings : w.stage.rings with
    | false =>
      rw [hrings] at hbell
      exact ⟨hbell, fun _ => rfl⟩
    | true =>
      rw [hrings] at hbell
      change (if x.asleep = some .changed then none else x.asleep) = some bell at hbell
      split at hbell
      · cases hbell
      · rename_i hnot
        exact ⟨hbell, fun hchanged => absurd (hchanged ▸ hbell) hnot⟩
  -- the exit is requested in the last step only
  have hasks : w'.result?.isSome = true → w.stage.asks = true := by
    intro hdone
    rcases Worker.exit_cases hgo hw' with ⟨result, hstage, -⟩ | ⟨-, hnone⟩
    · rw [hstage]
      rfl
    · rw [hnone] at hdone
      cases hdone
  refine ⟨fun hbell => ?_, fun hbell => ?_, fun since hstage => ?_, h.linger⟩
  · obtain ⟨hstage, hrequested, -⟩ := h.exit (hasleep hbell).1
    refine ⟨hstage, fun hexit => ?_, ?_⟩
    · dsimp only at hexit ⊢
      rw [hsteps.exits, Bool.or_eq_true] at hexit
      rcases hexit with hbefore | hdone
      · refine (hrequested hbefore).imp_left fun howes => ?_
        rw [howes]
        rfl
      · refine .inl ?_
        rw [hasks hdone]
        exact Bool.or_true _
    · rintro ⟨w₁, hsome, hdone⟩
      obtain rfl := Option.some.inj hsome
      dsimp only
      rw [hasks hdone]
      exact Bool.or_true _
  · obtain ⟨hbefore, hrests⟩ := hasleep hbell
    obtain ⟨hstage, hphase⟩ := h.changed hbefore
    refine ⟨hstage, ?_⟩
    dsimp only
    rw [hsteps.phase (hrests rfl)]
    exact hphase
  · -- a worker that is joined takes its last step
    obtain ⟨w₁, result, hsome, hlast⟩ := h.join since hstage
    obtain rfl := Option.some.inj (hworker.symm.trans hsome)
    refine ⟨w', result, rfl, .inr ?_⟩
    rcases hlast with hlast | hlast
    · obtain ⟨path, interval, engine, stage⟩ := w
      obtain rfl : stage = .requestExit result := hlast
      cases hw'
      rfl
    · exact nomatch (Worker.result?_of_done hlast).symm.trans hgo

/-- **Every move** keeps that who sleeps will be woken. -/
theorem move (h : Sound x) (hknown : Known x.threads x.shared) (hmove : Move x l y) : Sound y := by
  -- the main loop is woken by the bell that somebody owes
  have hring : ∀ {owes : Bool} {others : Nat}, Sound (ring { x with owes, others } .exit) := by
    intro owes others
    refine ⟨fun hbell => ?_, fun hbell => ?_, h.join, h.linger⟩
    · change (if x.asleep = some .exit then none else x.asleep) = some .exit at hbell
      split at hbell
      · cases hbell
      · exact absurd hbell ‹_›
    · change (if x.asleep = some .exit then none else x.asleep) = some .changed at hbell
      split at hbell
      · cases hbell
      · exact h.changed hbell
  cases hmove with
  | controller released hawake hgo hown hjoin hstep => exact h.controller hknown hgo hown hstep
  | worker hworker hgo hquiet hstep => exact h.worker hworker hgo hstep
  | workerRings howes => exact hring
  | othersRing hothers => exact hring
  | request =>
    refine ⟨fun hbell => ?_, h.changed, h.join, h.linger⟩
    obtain ⟨hstage, -, hover⟩ := h.exit hbell
    exact ⟨hstage, fun _ => .inr (Nat.succ_pos _), hover⟩
  | timesOut | wakes => exact ⟨nofun, nofun, h.join, h.linger⟩
  | clock hlater => exact ⟨h.exit, h.changed, h.join, h.linger⟩
  | @logged w line panic hworker hgo hlog =>
    rw [Threads.workerLogged_eq panic hworker]
    have hnot : ¬ ({ x.threads with worker := some (w.logged panic) } : Threads).IsOver := by
      rintro ⟨w₁, hsome, hdone⟩
      obtain rfl := Option.some.inj hsome
      exact absurd (Option.isSome_iff_ne_none.mp hdone) (not_not_intro hgo)
    refine ⟨fun hbell => ?_, h.changed, fun since hstage => ?_, h.linger⟩
    · obtain ⟨hstage, hrequested, -⟩ := h.exit hbell
      exact ⟨hstage, hrequested, fun hover => absurd hover hnot⟩
    · obtain ⟨w₁, result, hsome, hlast⟩ := h.join since hstage
      obtain rfl := Option.some.inj (hworker.symm.trans hsome)
      exact ⟨_, result, rfl, hlast⟩

end Sound

/-! ### Runs -/

/-- The state of a session whose host has a main loop. -/
theorem known_of_run {c : Controller} {t : Threads} {s s₀ : Shared} {deeds : List SessionDeed}
    (hstart : c.stage = .start) (hloop : s₀.host.hasMainLoop = true)
    (hrun : Run Threads.Move ({ controller := c }, s₀) deeds (t, s)) :
    Known t s ∧ t.inline? = none := by
  by_cases hcode : s₀.host.initCode = 0
  · obtain ⟨w, hw, hhosted⟩ := Threads.run_hosted hstart hcode hrun
    refine ⟨⟨Threads.exitRequested_of_isOver hrun,
      fun hover => (Threads.slot_of_isOver hstart hcode hrun hover).1, fun hphase w₁ hworker => ?_,
      fun since deadline hstage => ?_⟩, ?_⟩
    · obtain ⟨rfl, hown, -⟩ := hw.of_worker hworker
      rw [show t.own s = s from hown t.worker t.askedExit s] at hhosted
      exact Worker.finished_of_run rfl hhosted hphase
    · unfold Threads.Carries at hw
      rw [hstage] at hw
      exact ⟨w, hw⟩
    · -- a host with a main loop has no program run by the controller
      have hfits := (Threads.closing_of_run hstart hcode hrun).fits
      rw [(Threads.steady_of_run hrun).mainLoop.trans hloop] at hfits
      unfold Threads.inline?
      cases hstage : t.controller.stage with
      | inline_ w' =>
        rw [hstage] at hfits
        cases hfits
      | _ => rfl
  · obtain ⟨happened, hvoiced, -⟩ := Threads.run_voiced hrun
    obtain ⟨hworker, -, hat⟩ := Threads.refused_of_run hstart hcode hvoiced
    have hnobody : ∀ w, t.worker ≠ some w := fun w hsome => nomatch hworker.symm.trans hsome
    refine ⟨⟨fun hover => ?_, fun hover => ?_, fun _ w hsome => absurd hsome (hnobody w),
      fun since deadline hstage => ?_⟩, ?_⟩
    · exact absurd hover.choose_spec.1 (hnobody _)
    · exact absurd hover.choose_spec.1 (hnobody _)
    · rcases hat with ⟨hat, -⟩ | ⟨hat, -⟩ <;> exact nomatch hat.symm.trans hstage
    · unfold Threads.inline?
      rcases hat with ⟨hat, -⟩ | ⟨hat, -⟩ <;> rw [hat]

end Vigil

/-- The main loop of the host has returned. -/
def Controller.Stage.hasLeft : Controller.Stage → Bool
  | .requestEnd | .beginWait | .waitFinished .. | .join _ | .shutdown .. | .done _ => true
  | _ => false

namespace Vigil

variable {x : Vigil} {happened : List VigilDeed}

/-- **Where a controller waits**, and that it is not left waiting. -/
structure Awaits (x : Vigil) : Prop where
  /-- When the worker's run has ended, the controller goes on, and does not sleep. -/
  goesOn : x.threads.IsOver → x.owes = false → x.threads.controller.result? = none →
    ∃ y, Move x .controller y ∧ y.asleep = none
  /-- If the main loop sleeps although the exit has been requested, somebody is about to ring. -/
  rung : x.asleep = some .exit → x.shared.host.exitRequested = true →
    x.owes = true ∨ 0 < x.others
  /-- Where the worker's thread is joined, the worker has only the request to exit left. -/
  join : ∀ since, x.threads.controller.stage = .join since →
    ∃ w result, x.threads.worker = some w ∧ (w.stage = .requestExit result ∨ w.stage = .done result)
  /-- After the main loop has returned, the controller sleeps for the slot only, and not beyond
  its deadline. -/
  sleeps : x.threads.controller.stage.hasLeft = true → ∀ bell, x.asleep = some bell →
    bell = .changed ∧ ∃ since deadline, x.threads.controller.stage = .waitFinished since deadline
      ∧ (deadline ≤ x.shared.clock → ∃ y, Move x .timesOut y ∧ y.asleep = none)
  /-- Awake, it takes a step, unless it is at the join. -/
  steps : x.threads.controller.stage.hasLeft = true → x.asleep = none →
    x.threads.controller.result? = none →
    (∃ y, Move x .controller y) ∨ ∃ since, x.threads.controller.stage = .join since

/-- **The controller is never stuck**, in whatever order the worker, others and the clock move: not
once the worker's run has ended, not on a program that goes on, and after the main loop nowhere but
in the wait for the slot, which has a deadline, and at the join. -/
theorem awaits_of_run {path : ByteArray} {config : BridgeConfig} {s₀ : Shared}
    (hloop : s₀.host.hasMainLoop = true)
    (hrun : Run Move { threads := { controller := { path, config } }, shared := s₀ } happened x) :
    Awaits x := by
  -- the bells are in order at every state of the run
  have hsound : Sound x := by
    induction hrun with
    | refl => exact ⟨nofun, nofun, nofun, rfl⟩
    | tail run step ih =>
      obtain ⟨deeds, hdeeds⟩ := run_threads run
      exact ih.move (known_of_run rfl hloop hdeeds).1 step
  obtain ⟨deeds, hdeeds⟩ := run_threads hrun
  obtain ⟨hknown, hinline⟩ := known_of_run rfl hloop hdeeds
  refine ⟨fun hover howes hgo => ?_, fun hbell => (hsound.exit hbell).2.1, hsound.join,
    fun hleft bell hbell => ?_, fun hleft hawake hgo => ?_⟩
  · -- nobody sleeps through what has rung for good
    have hawake : x.asleep = none := by
      cases hbell : x.asleep with
      | none => rfl
      | some bell =>
        cases bell with
        | exit => exact nomatch howes.symm.trans ((hsound.exit hbell).2.2 hover)
        | changed => exact absurd (hknown.finished hover) (hsound.changed hbell).2
    rcases hstep : x.threads.controllerStep x.shared true with ⟨turn, t', s', signals⟩
    refine ⟨_, .controller true hawake hgo hinline (fun _ _ => ⟨hover, howes⟩) hstep, ?_⟩
    -- a step that is blocked lacks something that is there
    cases hblocked : turn.isBlocked with
    | false => rfl
    | true =>
      obtain ⟨-, -, -, hlacks⟩ := Threads.lacks_of_blocked hgo hinline hstep hblocked
      exact absurd hlacks (hknown.not_lacks hsound.linger hover)
  · cases bell with
    | exit =>
      rw [(hsound.exit hbell).1] at hleft
      cases hleft
    | changed =>
      obtain ⟨⟨since, deadline, hstage⟩, -⟩ := hsound.changed hbell
      exact ⟨rfl, since, deadline, hstage, fun hclock => ⟨_, .timesOut hbell hstage hclock, rfl⟩⟩
  · -- at any stage but the join a step is there to be taken
    by_cases hjoin : ∃ since, x.threads.controller.stage = .join since
    · exact .inr hjoin
    · refine .inl ⟨_, .controller true hawake hgo hinline (fun since hstage => ?_) rfl⟩
      exact absurd ⟨since, hstage⟩ hjoin

/-! ### Schedules -/

/-- The controller waits for the worker's thread. -/
def joins (x : Vigil) : Bool :=
  match x.threads.controller.stage with
  | .join _ => true
  | _ => false

/-- One turn of the controller or the worker, or a ring of the worker's. Who cannot go on passes
the turn over. -/
def take : VigilDeed → Vigil → Vigil
  | .controller, x =>
    if x.asleep.isNone && x.threads.controller.result?.isNone && x.threads.inline?.isNone
        && !x.joins then
      let (turn, t, s, _) := x.threads.controllerStep x.shared true
      { x with
        threads := t
        shared := s
        asleep := if turn.isBlocked then x.threads.controller.stage.bell? else none }
    else x
  | .worker, x =>
    match x.threads.worker with
    | some w =>
      if w.result?.isNone && w.logging?.isNone then
        { x with
          threads := (x.threads.workerStep x.shared).2.1
          shared := (x.threads.workerStep x.shared).2.2.1
          asleep := if w.stage.rings then (x.ring .changed).asleep else x.asleep
          owes := x.owes || w.stage.asks }
      else x
    | none => x
  | .workerRings, x => if x.owes then ring { x with owes := false } .exit else x
  | _, x => x

/-- The turns of a schedule, one after the other. -/
def follow : List VigilDeed → Vigil → Vigil
  | [], x => x
  | l :: rest, x => follow rest (take l x)

theorem run_take (l : VigilDeed) (x : Vigil) : ∃ happened, Run Move x happened (take l x) := by
  cases l with
  | controller =>
    unfold take
    dsimp only
    split
    · rename_i hall
      rw [Bool.and_eq_true, Bool.and_eq_true, Bool.and_eq_true, Option.isNone_iff_eq_none,
        Option.isNone_iff_eq_none, Option.isNone_iff_eq_none, Bool.not_eq_true'] at hall
      -- the test is the side condition of the move
      obtain ⟨⟨⟨hawake, hgo⟩, hown⟩, hjoins⟩ := hall
      refine ⟨_, .single (.controller true hawake hgo hown (fun since hstage => ?_) rfl)⟩
      unfold joins at hjoins
      rw [hstage] at hjoins
      cases hjoins
    · exact ⟨_, .refl⟩
  | worker =>
    unfold take
    dsimp only
    split
    · rename_i w hworker
      split
      · rename_i hboth
        rw [Bool.and_eq_true, Option.isNone_iff_eq_none, Option.isNone_iff_eq_none] at hboth
        exact ⟨_, .single (.worker hworker hboth.1 hboth.2 rfl)⟩
      · exact ⟨_, .refl⟩
    · exact ⟨_, .refl⟩
  | workerRings =>
    unfold take
    dsimp only
    split
    · exact ⟨_, .single (.workerRings ‹_›)⟩
    · exact ⟨_, .refl⟩
  | _ => exact ⟨_, .refl⟩

theorem run_follow (schedule : List VigilDeed) (x : Vigil) :
    ∃ happened, Run Move x happened (follow schedule x) := by
  induction schedule generalizing x with
  | nil => exact ⟨_, .refl⟩
  | cons l rest ih =>
    obtain ⟨first, hfirst⟩ := run_take l x
    obtain ⟨later, hlater⟩ := ih (take l x)
    exact ⟨_, hfirst.trans hlater⟩

/-- A controller that falls asleep in the main loop before its worker has begun is awake once the
worker has rung, and goes on. -/
theorem awaits_of_run_idle : ∃ happened x,
    Run Move
        { threads := { controller := { path := ⟨#[114]⟩, config := {} } }
          shared := { files := Worker.idleProgram } }
        happened x
      ∧ x.threads.IsOver ∧ x.threads.controller.stage = .mainLoop
      ∧ ∃ y, Move x .controller y ∧ y.asleep = none := by
  let begun : Vigil :=
    { threads := { controller := { path := ⟨#[114]⟩, config := {} } }
      shared := { files := Worker.idleProgram } }
  let before : List VigilDeed := List.replicate 5 .controller ++ List.replicate 30 .worker
  have hends : (fun last : Vigil =>
      last.asleep == some .exit && last.owes
        && (match last.threads.worker with | some w => w.result?.isSome | none => false)
        && (match last.threads.controller.stage with | .mainLoop => true | _ => false))
      (follow before begun) = true := by
    decide +kernel
  obtain ⟨happened, hrun⟩ := run_follow before begun
  generalize follow before begun = last at hends hrun
  rw [Bool.and_eq_true, Bool.and_eq_true, Bool.and_eq_true] at hends
  obtain ⟨⟨⟨-, howes⟩, hworker⟩, hstage⟩ := hends
  have hrung :
      Run Move begun (happened ++ [.workerRings]) (ring { last with owes := false } .exit) :=
    .tail hrun (.workerRings howes)
  have hover : last.threads.IsOver := by
    split at hworker
    · exact ⟨_, ‹_›, hworker⟩
    · cases hworker
  have hat : last.threads.controller.stage = .mainLoop := by
    split at hstage
    · assumption
    · cases hstage
  refine ⟨_, _, hrung, hover, hat, (awaits_of_run rfl hrung).goesOn hover rfl ?_⟩
  change last.threads.controller.result? = none
  unfold Controller.result?
  rw [hat]

end Vigil
end RobotSession
