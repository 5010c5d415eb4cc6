import Mathlib.Data.List.Basic
import RobotSession.Proofs.Bridge.Classification
import RobotSession.Proofs.Bridge.Custody
import RobotSession.Proofs.Bridge.Teardown

/-!
# The outcome of a session is coherent

A host with a main loop runs its program in a thread of its own. The controller looks at the
slot three times: it reads the handle, it looks whether the worker has finished, and it takes
the final snapshot. The worker may be anywhere meanwhile. Still the outcome fits together
(`Outcome.Coherent`): the states are passed in one of two orders, a worker that was joined has
closed its engine and withdrawn its handle, and has either started the robot or told the host
why not; and the end is delivered at most once, and only if the controller was told so.

`Threads.Course` says what the controller knows at each of its stages.

* `Worker.ready_of_posted` — a call is accepted only for a robot that is ready.
* `Threads.Course.move` — each move keeps the course.
* `Threads.coherent_of_run` — the outcome of every interleaving.
-/

namespace RobotSession

open Lua

/-! ### What the program reports -/

theorem Ready.mono {rs rs' : List StationReport} (h : Ready rs) (hsub : rs ⊆ rs') : Ready rs' := by
  intro st hst hrun
  obtain ⟨r, hmem, hr⟩ := h st hst hrun
  exact ⟨r, hsub hmem, hr⟩

/-- Only the start routine fails with this kind. -/
theorem StationReport.station_of_startFailed {r : StationReport} {e : SessionError}
    (hfails : r.failure? = some e) (hkind : e.kind = .startFailed) : r.station = .run := by
  cases r with
  | unread path detail =>
    cases hfails
    cases hkind
  | refused fault =>
    cases fault with
    | _ =>
      cases hfails
      cases hkind
  | outcome st h o =>
    -- each station has a kind of failure of its own, so that a wrong one contradicts the kind
    cases st with
    | run => rfl
    | endRoutine =>
      cases o with
      | value v => exact nomatch (failure?_endRoutine h v).symm.trans hfails
      | error message => cases hfails
      | panic p =>
        cases hfails
        cases hkind
    | _ =>
      cases o with
      | value v =>
        cases v with
        | _ => cases hfails <;> cases hkind
      | _ =>
        cases hfails
        cases hkind

/-- A robot that has not been started did not fail in its start routine. -/
theorem Ended.kind_ne {rs : List StationReport} {e : SessionError} (h : Ended rs (.failed e))
    (hready : ¬ Ready rs) : e.kind ≠ .startFailed := by
  intro hkind
  cases h with
  | @failed rs r err hunderway hfails =>
    have hstation := StationReport.station_of_startFailed hfails hkind
    have hbefore : Ready rs := (hstation ▸ hunderway).ready_iff.mpr rfl
    exact hready (hbefore.append r)

/-- A program that has returned was ready before that. -/
theorem Ready.of_stations {rs : List StationReport} (h : rs.map StationReport.station = Station.all)
    (hpassed : ∀ r ∈ rs, r.failure? = none) : Ready rs := by
  intro st hst _
  rw [← h] at hst
  obtain ⟨r, hmem, hstation⟩ := List.mem_map.mp hst
  exact ⟨r, hmem, hstation, hpassed r hmem⟩

namespace Worker

variable {w₀ w : Worker} {s₀ s : Shared} {happened : List SessionDeed}

theorem session_of_run (hstage : w₀.stage = .start) (hfault : s₀.engineFault = none)
    (hpanics : s₀.panicsOnReport = false) (hrun : Run Hosted (w₀, s₀) happened (w, s)) :
    Session w₀.path s₀ w s (sources (happened.map SessionDeed.ofWorker))
      (reports (happened.map SessionDeed.ofWorker)) (published (happened.map SessionDeed.ofWorker)) :=
  (Session.begins hstage hfault hpanics).run (run_move hrun)

/-- **What a program that is over has reported**: the robot was started if it was ready, and
otherwise the host has been told of one failure before the start. -/
theorem started_of_done (hstage : w₀.stage = .start) (hfault : s₀.engineFault = none)
    (hpanics : s₀.panicsOnReport = false) (hslot : s₀.slot = {})
    (hrun : Run Hosted (w₀, s₀) happened (w, s)) (hdone : w.result?.isSome = true) :
    (s.slot.robotStarted = true ↔ Ready (reports (happened.map SessionDeed.ofWorker)))
      ∧ (s.slot.robotStarted = false →
        ∃ d, s.host.diagnostics = s₀.host.diagnostics ++ [d] ∧ d.kind ≠ .startFailed) := by
  have hsession := session_of_run hstage hfault hpanics hrun
  obtain ⟨result, hlast⟩ := done_of_isSome hdone
  obtain ⟨hresult, -, hstarted, -, htold⟩ := hsession.concluded hlast
  have hcomes := hsession.comes
  unfold Comes at hcomes
  rw [hlast] at hcomes
  have hiff : s.slot.robotStarted = true ↔ Ready (reports (happened.map SessionDeed.ofWorker)) := by
    rw [hstarted, hslot]
    exact ⟨fun h => h.resolve_left nofun, .inr⟩
  refine ⟨hiff, fun hnot => ?_⟩
  have hunready : ¬ Ready (reports (happened.map SessionDeed.ofWorker)) := by
    rw [← hiff, hnot]
    exact Bool.false_ne_true
  -- from here on it does not matter how the reports came about
  generalize reports (happened.map SessionDeed.ofWorker) = rs at *
  cases result with
  | returned =>
    cases hcomes with
    | returned stations passed => exact absurd (Ready.of_stations stations passed) hunready
  | panicked p => cases hcomes
  | failed e =>
    obtain ⟨d, hd, hkind, -⟩ := htold e (verdict_of_failed hresult)
    exact ⟨d, hd, hkind ▸ hcomes.kind_ne hunready⟩

/-- **A call is accepted only for a robot that is ready.** -/
theorem ready_of_posted (hstage : w₀.stage = .start) (hengine : w₀.engine = none)
    (hhandle : s₀.slot.handle = none) (hfault : s₀.engineFault = none)
    (hpanics : s₀.panicsOnReport = false) {x : Worker × Shared}
    (hrun : Run Hosted (w₀, s₀) happened x) (hposted : posted happened ≠ []) :
    Ready (reports (happened.map SessionDeed.ofWorker)) := by
  induction hrun with
  | refl => exact absurd rfl hposted
  | @tail happened y z l run step ih =>
    -- what has been ready stays so
    have hmono : Ready (reports (happened.map SessionDeed.ofWorker)) →
        Ready (reports ((happened ++ [l]).map SessionDeed.ofWorker)) := by
      intro hready
      rw [List.map_append]
      exact hready.mono (by
        show _ ⊆ reports (_ ++ [l.ofWorker])
        rw [reports_append]
        exact List.subset_append_left _ _)
    by_cases hbefore : posted happened = []
    · rw [posted_append, hbefore, List.nil_append] at hposted
      cases step with
      | @asksEnd w s id hid =>
        refine hmono ?_
        have hmem := ((Kept.run hstage hengine hhandle run).custody.handle id hid).2
        refine ((session_of_run hstage hfault hpanics run).bound id hmem).mp ?_
        rcases (s.inbox id).post_cases .finish with ⟨-, -, hbound⟩ | ⟨hrefused, -⟩
        · exact hbound
        · refine absurd ?_ hposted
          change posted [.asksEnd ((s.inbox id).post .finish).1] = []
          cases hanswer : ((s.inbox id).post .finish).1 with
          | queued => exact absurd hanswer hrefused
          | notBound => rfl
          | closed => rfl
      | host hl =>
        rcases hl with ⟨rfl, -⟩ | rfl
        · exact absurd rfl hposted
        · exact absurd rfl hposted
      | _ => exact absurd rfl hposted
    · exact hmono (ih hbefore)

end Worker
/-! ### The course of the controller -/

/-- The state in which a worker is left. -/
def Termination.state : Termination → BridgeState
  | .inline_ => .inline_
  | .joined => .joined
  | .detached => .detached

/-- The calls that have been accepted, by the answer to the end request. -/
def endPosted : Option Delivery → List Invocation
  | some .queued => [.finish]
  | _ => []

namespace Threads

variable {t t' : Threads} {s₀ s s' : Shared} {released : Bool} {happened : List SessionDeed}
  {l : SessionDeed}

/-- The worker's run is over. -/
def IsOver (t : Threads) : Prop :=
  ∃ w, t.worker = some w ∧ w.result?.isSome = true

/-- A program that goes on has not been joined. -/
theorem not_isOver {w : Worker} (hworker : t.worker = some w) (hgo : w.result? = none) :
    ¬ t.IsOver := by
  rintro ⟨w', hworker', hover⟩
  obtain rfl := Option.some.inj (hworker.symm.trans hworker')
  rw [hgo] at hover
  cases hover

/-- **What an outcome says** about a session that goes on. -/
structure Tells (o : Outcome) (t : Threads) (s : Shared) : Prop where
  threaded : o.termination ≠ .inline_
  transitions : o.transitions
    = [.idle, .running, .ending, .joinWait, o.termination.state, .closed]
  endRequest : o.endRequest = t.controller.endRequest
  /-- A worker that was joined changes nothing any more. -/
  joined : o.termination = .joined → t.IsOver ∧ o.robotStarted = s.slot.robotStarted
    ∧ o.engineCloses = s.slot.closes
  detached : o.termination = .detached → o.engineCloses ≤ 1

/-- **The course of a controller** whose host has a main loop: the states that it has passed, at
each of its stages. -/
def Passes (t : Threads) (s : Shared) : Prop :=
  match t.controller.stage with
  | .start | .askMainLoop | .spawn =>
    t.controller.transitions = [.idle] ∧ t.controller.endRequest = none
  | .enterMainLoop | .mainLoop | .linger =>
    t.controller.transitions = [.idle, .running] ∧ t.controller.endRequest = none
  | .requestEnd =>
    t.controller.transitions = [.idle, .running, .ending] ∧ t.controller.endRequest = none
  | .beginWait => t.controller.transitions = [.idle, .running, .ending]
  | .waitFinished .. | .join _ => t.controller.transitions = [.idle, .running, .ending, .joinWait]
  | .shutdown how _ failure =>
    t.controller.transitions = [.idle, .running, .ending, .joinWait, how.state]
      ∧ how ≠ .inline_ ∧ failure = none ∧ (how = .joined → t.IsOver)
  | .done (.ok o) => Tells o t s
  | .done _ | .inline_ _ | .abort _ => False

/-- On this course the controller does not run the program itself. -/
theorem Passes.inline?_eq_none (h : t.Passes s) : t.inline? = none := by
  unfold Passes at h
  cases hown : t.inline? with
  | none => rfl
  | some w =>
    obtain ⟨hstage, -⟩ := inline?_eq_some hown
    rw [hstage] at h
    exact h.elim

/-- The course, with what has been posted on it. -/
structure Course (t : Threads) (s : Shared) (happened : List SessionDeed) : Prop where
  passes : t.Passes s
  ends : posted happened = endPosted t.controller.endRequest

/-- **Each step of the controller keeps the course.** -/
theorem Course.controller {w : Worker} (h : Course t s happened) (hw : t.Carries w)
    (hcloses : (t.own s).slot.closes ≤ 1) (hloop : s.host.hasMainLoop = true)
    (hspawn : s.spawnFault = none) (hcode : s.host.initCode = 0)
    (hcontrols : t.Controls s released t' s') : Course t' s' (happened ++ [t.deed s]) := by
  obtain ⟨hpasses, hposted⟩ := h
  -- a step at which nothing is posted, and the answer to the end request stays
  have hsilent : ∀ {c : Controller}, posted [t.deed s] = [] →
      c.endRequest = t.controller.endRequest →
      posted (happened ++ [t.deed s]) = endPosted c.endRequest := by
    intro c hnone hsame
    rw [posted_append, hnone, List.append_nil, hsame]
    exact hposted
  obtain ⟨⟨path, config, linger, stage, transitions, endRequest⟩, worker, askedExit⟩ := t
  cases hcontrols with
  | initializes hstage | hasMainLoop hstage | entersMainLoop hstage | leavesMainLoop hstage
  | seesFinished hstage =>
    cases hstage
    exact ⟨hpasses, hsilent rfl rfl⟩
  | cannotInitialize hstage hzero => exact absurd hcode hzero
  | hasNone hstage hmain => exact nomatch hloop.symm.trans hmain
  | inlineOver hstage | inlineEscapes hstage | aborts hstage =>
    cases hstage
    exact hpasses.elim
  | spawns hstage | goesOn hstage =>
    cases hstage
    obtain ⟨rfl, hnone⟩ := hpasses
    exact ⟨⟨rfl, hnone⟩, hsilent rfl rfl⟩
  | cannotSpawn hstage hfault => exact nomatch hspawn.symm.trans hfault
  | @asksEnd id hstage hhandle =>
    obtain rfl : stage = .requestEnd := hstage
    obtain ⟨rfl, rfl⟩ := hpasses
    have hdeed : deed ⟨⟨path, config, linger, .requestEnd, [.idle, .running, .ending], none⟩,
        worker, askedExit⟩ s = .asksEnd (s.post id .finish).1 := by
      unfold deed
      dsimp only
      rw [hhandle]
    refine ⟨rfl, ?_⟩
    rw [hdeed, posted_append, hposted]
    cases (s.post id .finish).1 with
    | _ => rfl
  | asksNobody hstage hhandle =>
    obtain rfl : stage = .requestEnd := hstage
    obtain ⟨rfl, rfl⟩ := hpasses
    refine ⟨rfl, hsilent ?_ rfl⟩
    unfold deed
    dsimp only
    rw [hhandle]
    rfl
  | beginsWait hstage =>
    obtain rfl : stage = .beginWait := hstage
    obtain rfl : transitions = _ := hpasses
    exact ⟨rfl, hsilent rfl rfl⟩
  | givesUp hstage hphase hclock =>
    obtain rfl : stage = .waitFinished _ _ := hstage
    obtain rfl : transitions = _ := hpasses
    exact ⟨⟨rfl, nofun, rfl, nofun⟩, hsilent rfl rfl⟩
  | joins hstage hworker hdone =>
    obtain rfl : stage = .join _ := hstage
    obtain rfl : transitions = _ := hpasses
    exact ⟨⟨rfl, nofun, rfl, fun _ => ⟨_, hworker, by rw [hdone]; rfl⟩⟩, hsilent rfl rfl⟩
  | @shutsDown how joinWait failure hstage =>
    -- the final snapshot is taken
    obtain rfl : stage = .shutdown how joinWait failure := hstage
    obtain ⟨rfl, hthreaded, rfl, hjoined⟩ := hpasses
    exact ⟨⟨hthreaded, rfl, rfl, fun hhow => ⟨hjoined hhow, rfl, rfl⟩, fun _ => hcloses⟩,
      hsilent rfl rfl⟩
  | waits hblocked =>
    refine ⟨hpasses, hsilent ?_ rfl⟩
    cases hblocked with
    | mainLoop hstage | linger hstage | waitFinished hstage | join hstage =>
      cases hstage
      rfl

/-- What the other threads do does not matter to the course: a worker that was joined does
nothing any more. -/
theorem Course.frame (h : Course t s happened) (hcontroller : t'.controller = t.controller)
    (hposted : posted [l] = []) (hover : t.IsOver → t'.IsOver ∧ s'.slot = s.slot) :
    Course t' s' (happened ++ [l]) := by
  obtain ⟨hpasses, hends⟩ := h
  refine ⟨?_, ?_⟩
  · obtain ⟨⟨path, config, linger, stage, transitions, endRequest⟩, worker, askedExit⟩ := t
    obtain ⟨controller', worker', askedExit'⟩ := t'
    -- the course reads the stage of the controller; worker and slot matter only once it has ended
    obtain rfl : controller' = ⟨path, config, linger, stage, transitions, endRequest⟩ := hcontroller
    cases stage with
    | shutdown how joinWait failure =>
      obtain ⟨htransitions, hthreaded, hfailure, hjoined⟩ := hpasses
      exact ⟨htransitions, hthreaded, hfailure, fun hhow => (hover (hjoined hhow)).1⟩
    | done r =>
      cases r with
      | ok o =>
        obtain ⟨hthreaded, htransitions, hrequest, hjoined, hdetached⟩ := hpasses
        refine ⟨hthreaded, htransitions, hrequest, fun hhow => ?_, hdetached⟩
        obtain ⟨hdone, hstarted, hcloses⟩ := hjoined hhow
        obtain ⟨hdone', hslot⟩ := hover hdone
        rw [hslot]
        exact ⟨hdone', hstarted, hcloses⟩
      | _ => exact hpasses.elim
    | _ => exact hpasses
  · rw [posted_append, hposted, List.append_nil, hcontroller]
    exact hends

/-- **Each move keeps the course.** -/
theorem Course.move {w : Worker} (h : Course t s happened) (hw : t.Carries w)
    (hcloses : (t.own s).slot.closes ≤ 1) (hloop : s.host.hasMainLoop = true)
    (hspawn : s.spawnFault = none) (hcode : s.host.initCode = 0) (hmove : Move (t, s) l (t', s')) :
    Course t' s' (happened ++ [l]) := by
  have hinline := h.passes.inline?_eq_none
  cases hmove with
  | controller released hgo hown hstep =>
    exact h.controller hw hcloses hloop hspawn hcode (controls hgo hown hstep)
  | inline_ released hown => exact nomatch hinline.symm.trans hown
  -- a thread that still moves is not over, so that nothing is claimed of its slot
  | worker hworker hgo hquiet hstep =>
    obtain ⟨turn', w', -, rfl⟩ := worker_cases hworker hgo hstep
    exact h.frame rfl rfl fun hover => absurd hover (not_isOver hworker hgo)
  | inlineLogged panic hown => exact nomatch hinline.symm.trans hown
  | workerLogged panic hworker hgo hlog =>
    exact h.frame rfl rfl fun hover => absurd hover (not_isOver hworker hgo)
  | exit => exact h.frame rfl rfl fun hover => ⟨hover, rfl⟩
  | clock hlater => exact h.frame rfl rfl fun hover => ⟨hover, rfl⟩

/-! ### Runs -/

theorem course_of_run {path : ByteArray} {config : BridgeConfig} {linger : Linger}
    (hcode : s₀.host.initCode = 0) (hloop : s₀.host.hasMainLoop = true)
    (hspawn : s₀.spawnFault = none)
    (hrun : Run Move ({ controller := { path, config, linger } }, s₀) happened (t, s)) :
    Course t s happened := by
  generalize hx : (t, s) = x at hrun
  induction hrun generalizing t s with
  | refl =>
    cases hx
    exact ⟨⟨rfl, rfl⟩, rfl⟩
  | @tail happened y z l run step ih =>
    subst hx
    obtain ⟨t₁, s₁⟩ := y
    obtain ⟨w, hw, hhosted⟩ := run_hosted rfl hcode run
    have hsteady := steady_of_run run
    -- the step lemma needs what is known of the program alone, seen through the session's run
    exact (ih rfl).move hw (Worker.closes_le rfl rfl rfl hhosted) (hsteady.mainLoop.trans hloop)
      (hsteady.spawnFault.trans hspawn) (hsteady.initCode.trans hcode) step

end Threads

/-- **A coherent outcome** of a session with a main loop. -/
structure Outcome.Coherent (o : Outcome) (s₀ s : Shared) : Prop where
  exitCode : o.exitCode = 0
  threaded : o.termination ≠ .inline_
  transitions : o.transitions
    = [.idle, .running, .ending, .joinWait, o.termination.state, .closed]
  /-- A worker that was joined has withdrawn its handle and closed its engine. -/
  joined : o.termination = .joined →
    s.slot.phase = .finished ∧ s.slot.handle = none ∧ o.engineCloses = 1
  /-- A call is queued only for a robot that is started. -/
  started : o.termination = .joined → o.endRequest = some .queued → o.robotStarted = true
  /-- If the robot was not started, the host has been told why. -/
  told : o.termination = .joined → o.robotStarted = false →
    ∃ d, s.host.diagnostics = s₀.host.diagnostics ++ [d] ∧ d.kind ≠ .startFailed
  detached : o.termination = .detached → o.engineCloses ≤ 1

namespace Threads

variable {t : Threads} {s₀ s : Shared} {happened : List SessionDeed}

/-- **The outcome of every interleaving is coherent**, and the end is delivered at most once, and
only if the controller was told that it is queued. -/
theorem coherent_of_run {path : ByteArray} {config : BridgeConfig} {linger : Linger}
    (hcode : s₀.host.initCode = 0) (hloop : s₀.host.hasMainLoop = true)
    (hpanics : s₀.panicsOnReport = false) (hfault : s₀.engineFault = none)
    (hspawn : s₀.spawnFault = none)
    (hrun : Run Move ({ controller := { path, config, linger } }, s₀) happened (t, s)) :
    (∀ r, t.controller.result? = some r → ∃ o, r = .ok o ∧ o.Coherent s₀ s
        ∧ o.endRequest = t.controller.endRequest)
      ∧ (delivered happened = []
        ∨ delivered happened = [.finish] ∧ t.controller.endRequest = some .queued) := by
  obtain ⟨hpasses, hends⟩ := course_of_run hcode hloop hspawn hrun
  obtain ⟨w, hw, hhosted⟩ := run_hosted rfl hcode hrun
  have hkept := Worker.Kept.run rfl rfl rfl hhosted
  have hopens : ({ s₀ with slot := {} } : Shared).engineFault = none := hfault
  have hcalm : ({ s₀ with slot := {} } : Shared).panicsOnReport = false := hpanics
  refine ⟨fun r hdone => ?_, ?_⟩
  · obtain ⟨⟨path', config', linger', stage, transitions, endRequest⟩, worker, askedExit⟩ := t
    obtain rfl : stage = .done r := by
      cases stage with
      | done r' => rw [Option.some.inj hdone]
      | _ => cases hdone
    cases r with
    | error e => exact hpasses.elim
    | panicked p => exact hpasses.elim
    | ok o =>
      obtain ⟨hthreaded, htransitions, hrequest, hjoined, hdetached⟩ := hpasses
      -- what is known of the program once the worker was joined
      have hover : o.termination = .joined → w.result?.isSome = true := by
        intro hhow
        obtain ⟨⟨w₁, hworker, hover⟩, -⟩ := hjoined hhow
        obtain ⟨rfl, -, -⟩ := hw.of_worker hworker
        exact hover
      have hfault' : s.engineFault = none := (steady_of_run hrun).fault.trans hfault
      refine ⟨o, rfl, ⟨rfl, hthreaded, htransitions, fun hhow => ?_, fun hhow hqueued => ?_,
        fun hhow hnot => ?_, hdetached⟩, hrequest⟩
      · obtain ⟨-, -, hcloses⟩ := hjoined hhow
        obtain ⟨hphase, hhandle, hone⟩ := Worker.slot_of_done rfl rfl rfl hhosted (hover hhow)
        have hclosed : s.slot.closes = if s.engineFault.isNone then 1 else 0 := hone
        rw [hfault'] at hclosed
        exact ⟨hphase, hhandle, hcloses.trans hclosed⟩
      · -- the call was accepted, so the robot was ready, and then it was started
        obtain ⟨-, hstarted, -⟩ := hjoined hhow
        have hposted : posted happened ≠ [] := by
          rw [hends, ← hrequest, hqueued]
          exact List.cons_ne_nil _ _
        have hready := Worker.ready_of_posted rfl rfl rfl hopens hcalm hhosted hposted
        rw [hstarted]
        exact (Worker.started_of_done rfl hopens hcalm rfl hhosted (hover hhow)).1.mpr hready
      · obtain ⟨-, hstarted, -⟩ := hjoined hhow
        rw [hstarted] at hnot
        exact (Worker.started_of_done rfl hopens hcalm rfl hhosted (hover hhow)).2 hnot
  · -- what was delivered was posted, and that was at most one call
    have hsublist := (List.sublist_append_left _ _).trans hkept.calls
    rw [hends] at hsublist
    cases hrequest : t.controller.endRequest with
    | none =>
      rw [hrequest] at hsublist
      exact .inl (List.sublist_nil.mp hsublist)
    | some answer =>
      rw [hrequest] at hsublist
      cases answer with
      | queued =>
        rcases List.sublist_singleton.mp hsublist with hnil | hone
        · exact .inl hnil
        · exact .inr ⟨hone, rfl⟩
      | notBound => exact .inl (List.sublist_nil.mp hsublist)
      | closed => exact .inl (List.sublist_nil.mp hsublist)

/-- A program that sleeps for a second, or until it is asked to end. -/
def sleeper : Files :=
  { entries := [([[114]],
      some ("return \x7bnew=function()return\x7bstartCompetition=function()" ++
        "luabot.sleep(1)end\x7dend\x7d").toUTF8)] }

/-- Somebody asks the host to exit, between two schedules. -/
def interrupted (before later : List Bool) (x : Threads × Shared) : Threads × Shared :=
  follow later ((follow before x).1,
    { (follow before x).2 with host := (follow before x).2.host.requestExit })

theorem run_interrupted (before later : List Bool) (x : Threads × Shared) :
    ∃ happened, Run Move x happened (interrupted before later x) := by
  obtain ⟨first, hfirst⟩ := run_follow before x
  unfold interrupted
  generalize follow before x = y at hfirst ⊢
  obtain ⟨rest, hrest⟩ := run_follow later (y.1, { y.2 with host := y.2.host.requestExit })
  exact ⟨_, (hfirst.tail .exit).trans hrest⟩

/-- The clock has gone on to a time. -/
def later (time : Nat) (x : Threads × Shared) : Threads × Shared :=
  (x.1, { x.2 with clock := max x.2.clock time })

/-- A worker that takes a call in its next step. -/
def isTaking (x : Threads × Shared) : Bool :=
  match x.1.worker with
  | some w => w.result?.isNone && w.logging?.isNone && (w.takes x.2).isSome
  | none => false

/-- If such a worker has the next turn, a call is delivered. -/
theorem run_of_isTaking {x : Threads × Shared} (h : isTaking x = true) (rest : List Bool) :
    ∃ happened, Run Move x happened (follow (false :: rest) x) ∧ delivered happened ≠ [] := by
  obtain ⟨t, s⟩ := x
  unfold isTaking at h
  split at h
  · rename_i w hworker
    simp only [Bool.and_eq_true, Option.isNone_iff_eq_none] at h
    obtain ⟨⟨hgo, hquiet⟩, htakes⟩ := h
    obtain ⟨i, htakes⟩ := Option.isSome_iff_exists.mp htakes
    have hstep : take false (t, s) = ((t.workerStep s).2.1, (t.workerStep s).2.2.1) := by
      dsimp only at hworker
      unfold take
      dsimp only
      rw [hworker]
      dsimp only
      rw [hgo, hquiet]
      rfl
    obtain ⟨later, hlater⟩ := run_follow rest (take false (t, s))
    -- the worker's own step is the one that takes the call; whatever is followed after it only adds
    -- deeds
    have hmove : Move (t, s) (.program w s) (take false (t, s)) := by
      rw [hstep]
      exact .worker hworker hgo hquiet rfl
    refine ⟨_, (Run.single hmove).trans hlater, List.ne_nil_of_mem (a := i) ?_⟩
    exact List.mem_filterMap.mpr ⟨_, List.mem_append_left _ (List.mem_singleton_self _), htakes⟩
  · cases h

/-- A session with an outcome of this kind, of a robot that has been started and could be asked to
end. -/
def hasOutcome (how : Termination) (x : Threads × Shared) : Bool :=
  x.1.controller.result?.any fun result => result.outcome?.any fun o =>
    o.termination == how && o.endRequest == some .queued && o.robotStarted

theorem outcome_of_hasOutcome {how : Termination} {x : Threads × Shared}
    (h : hasOutcome how x = true) : ∃ o, x.1.controller.result? = some (.ok o)
      ∧ o.termination = how ∧ o.endRequest = some .queued ∧ o.robotStarted = true := by
  obtain ⟨result, hdone, hsome⟩ := (Option.any_eq_true _ _).mp h
  obtain ⟨o, houtcome, hends⟩ := (Option.any_eq_true _ _).mp hsome
  obtain rfl := ControllerResult.outcome?_iff.mp houtcome
  simp only [Bool.and_eq_true, beq_iff_eq] at hends
  exact ⟨o, hdone, hends.1.1, hends.1.2, hends.2⟩

/-- A program that is woken by the request to end is joined; one that does not wake up in time is left
alone. -/
theorem coherent_of_run_sleeper :
    (∃ happened t s o,
      Run Move ({ controller := { path := ⟨#[114]⟩, config := {} } }, { files := sleeper }) happened
          (t, s)
        ∧ t.controller.result? = some (.ok o) ∧ o.termination = .joined
        ∧ o.endRequest = some .queued ∧ o.robotStarted = true
        ∧ o.Coherent { files := sleeper } s ∧ delivered happened = [.finish])
    ∧ ∃ happened t s o,
      Run Move ({ controller := { path := ⟨#[114]⟩, config := {} } }, { files := sleeper }) happened
          (t, s)
        ∧ t.controller.result? = some (.ok o) ∧ o.termination = .detached
        ∧ o.endRequest = some .queued ∧ o.robotStarted = true ∧ o.Coherent { files := sleeper } s := by
  let begun : Threads × Shared :=
    ({ controller := { path := ⟨#[114]⟩, config := {} } }, { files := sleeper })
  let asleep := List.replicate 5 true ++ List.replicate 12 false
  refine ⟨?_, ?_⟩
  · -- the program goes on three times before it takes the call, and then to its end
    obtain ⟨htaking, hends⟩ : isTaking
          (interrupted asleep (List.replicate 5 true ++ List.replicate 3 false) begun) = true
        ∧ hasOutcome .joined (follow (List.replicate 9 false ++ List.replicate 5 true)
          (interrupted asleep (List.replicate 5 true ++ List.replicate 3 false) begun)) = true := by
      decide +kernel
    obtain ⟨first, hfirst⟩ :=
      run_interrupted asleep (List.replicate 5 true ++ List.replicate 3 false) begun
    obtain ⟨later, hlater, htaken⟩ :=
      run_of_isTaking htaking (List.replicate 8 false ++ List.replicate 5 true)
    change hasOutcome .joined
      (follow (false :: (List.replicate 8 false ++ List.replicate 5 true)) _) = true at hends
    generalize follow (false :: (List.replicate 8 false ++ List.replicate 5 true)) _ = last
      at hlater hends
    obtain ⟨hresult, hdelivered⟩ := coherent_of_run rfl rfl rfl rfl rfl (hfirst.trans hlater)
    obtain ⟨o, hdone, hjoined, hqueued, hstarted⟩ := outcome_of_hasOutcome hends
    obtain ⟨o', ho, hcoherent, -⟩ := hresult _ hdone
    obtain rfl := ControllerResult.ok.inj ho
    refine ⟨_, _, _, o, hfirst.trans hlater, hdone, hjoined, hqueued, hstarted, hcoherent, ?_⟩
    refine hdelivered.elim (fun hnil => ?_) And.left
    unfold delivered at hnil htaken
    rw [List.filterMap_append] at hnil
    exact absurd (List.append_eq_nil_iff.mp hnil).2 htaken
  · -- nobody goes on until the time for which the controller waits is over
    have hends : hasOutcome .detached (follow (List.replicate 3 true)
        (later 2000000000 (interrupted asleep (List.replicate 5 true) begun))) = true := by
      decide +kernel
    obtain ⟨first, hfirst⟩ := run_interrupted asleep (List.replicate 5 true) begun
    generalize interrupted asleep (List.replicate 5 true) begun = waiting at hfirst hends
    obtain ⟨rest, hrest⟩ := run_follow (List.replicate 3 true) (later 2000000000 waiting)
    have hrun := (hfirst.tail (.clock (Nat.le_max_left _ _))).trans hrest
    generalize follow _ _ = last at hrun hends
    obtain ⟨hresult, -⟩ := coherent_of_run rfl rfl rfl rfl rfl hrun
    obtain ⟨o, hdone, hdetached, hqueued, hstarted⟩ := outcome_of_hasOutcome hends
    obtain ⟨o', ho, hcoherent, -⟩ := hresult _ hdone
    obtain rfl := ControllerResult.ok.inj ho
    exact ⟨_, _, _, o, hrun, hdone, hdetached, hqueued, hstarted, hcoherent⟩

end Threads
end RobotSession
