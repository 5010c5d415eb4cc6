import RobotSession.Proofs.Bridge.Interval
import RobotSession.Proofs.Program.Completion
import RobotSession.Proofs.Settings.Sources

/-!
# Sessions with the settings in force

A process that is to run a robot program either has no settings for that, and ends before a host
is touched, or it runs one session with the settings in force: the controller waits for the
program for as long as they say, and the program's engine looks at its inbox as often as they say.
However the threads of that session take turns, its exit code depends on the kind of host and on
the program alone. The process takes turns until the session is over, and shows what it has come
to.

* `Execution.Heeds` — a session goes by a configuration.
* `Execution.Completed` — the exit code of a session that is over.
* `Execution.Carried` — a session is carried out.
* `Plan.Effective` — the host and the configuration by the settings in force.
* `Plan.effective_of_request` — what a process does.
-/

namespace RobotSession

open CommandLine

/-! ### The configuration of a session -/

namespace Threads

variable {t t' : Threads} {s s' : Shared} {happened : List SessionDeed} {config : BridgeConfig}

/-- **A session goes by a configuration**: its controller waits for the program as long as it says,
and its program has the interval that it says. -/
structure Heeds (b : BridgeConfig) (t : Threads) : Prop where
  config : t.controller.config = b
  wait : ∀ since deadline, t.controller.stage = .waitFinished since deadline →
    deadline = since + b.joinTimeoutMs * 1000000
  worker : ∀ w, t.worker = some w → w.interval = b.hookInterval
  inline_ : ∀ w, t.controller.stage = .inline_ w → w.interval = b.hookInterval

/-- The controller's own steps go by the configuration. -/
theorem Heeds.controls {released : Bool} (h : Heeds config t)
    (hcontrols : t.Controls s released t' s') : Heeds config t' := by
  obtain ⟨hconfig, hwait, hworker, hinline⟩ := h
  -- three steps take a setting over: for either way to run a program, and for the wait
  cases hcontrols with
  | hasNone hstage hloop =>
    refine ⟨hconfig, (fun _ _ hstage => nomatch hstage), hworker, fun w hw => ?_⟩
    obtain rfl := Controller.Stage.inline_.inj hw
    exact congrArg BridgeConfig.hookInterval hconfig
  | spawns hstage hfault =>
    refine ⟨hconfig, (fun _ _ hstage => nomatch hstage), fun w hw => ?_, fun _ hw => nomatch hw⟩
    obtain rfl := Option.some.inj hw
    exact congrArg BridgeConfig.hookInterval hconfig
  | beginsWait hstage =>
    refine ⟨hconfig, fun since deadline hw => ?_, hworker, fun _ hw => nomatch hw⟩
    obtain ⟨rfl, rfl⟩ := Controller.Stage.waitFinished.inj hw
    rw [← hconfig]
  | waits hblocked => exact ⟨hconfig, hwait, hworker, hinline⟩
  | _ => exact ⟨hconfig, (fun _ _ hstage => nomatch hstage), hworker, fun _ hw => nomatch hw⟩

/-- **Every move of a session** goes by the configuration. -/
theorem Heeds.move {x y : Threads × Shared} {l : SessionDeed} (h : Heeds config x.1)
    (hmove : Move x l y) : Heeds config y.1 := by
  cases hmove with
  | controller released hgo hown hstep => exact h.controls (Threads.controls hgo hown hstep)
  | inline_ released hown hquiet hstep =>
    obtain ⟨hstage, hgo⟩ := inline?_eq_some hown
    obtain ⟨turn', w', hw', rfl⟩ := inline_cases hown hstep
    refine ⟨h.config, (fun _ _ hstage => nomatch hstage), h.worker, fun w₁ hw₁ => ?_⟩
    obtain rfl := Controller.Stage.inline_.inj hw₁
    -- no step of a program changes its interval
    rw [Worker.interval_of_steps (Worker.steps hgo hw')]
    exact h.inline_ _ hstage
  | worker hworker hgo hquiet hstep =>
    obtain ⟨turn', w', hw', rfl⟩ := worker_cases hworker hgo hstep
    refine ⟨h.config, h.wait, fun w₁ hw₁ => ?_, h.inline_⟩
    obtain rfl := Option.some.inj hw₁
    rw [Worker.interval_of_steps (Worker.steps hgo hw')]
    exact h.worker _ hworker
  | @inlineLogged t s w line panic hown hlog =>
    obtain ⟨hstage, hgo⟩ := inline?_eq_some hown
    obtain ⟨⟨path, config, linger, stage, transitions, endRequest⟩, worker, askedExit⟩ := t
    obtain rfl : stage = .inline_ w := hstage
    refine ⟨h.config, (fun _ _ hstage => nomatch hstage), h.worker, fun w₁ hw₁ => ?_⟩
    obtain rfl := Controller.Stage.inline_.inj hw₁
    exact h.inline_ w rfl
  | @workerLogged t s w line panic hworker hgo hlog =>
    dsimp only
    rw [workerLogged_eq panic hworker]
    refine ⟨h.config, h.wait, fun w₁ hw₁ => ?_, h.inline_⟩
    obtain rfl := Option.some.inj hw₁
    exact h.worker w hworker
  | exit => exact h
  | clock hle => exact h

theorem heeds_of_run {path : ByteArray} {linger : Linger} {s₀ : Shared}
    (hrun : Run Move ({ controller := { path, config, linger } }, s₀) happened (t, s)) :
    Heeds config t :=
  hrun.invariant (P := fun x => Heeds config x.1) Heeds.move
    ⟨rfl, (fun _ _ hstage => nomatch hstage), (fun _ hw => nomatch hw), fun _ hw => nomatch hw⟩

end Threads

/-! ### The exit code of a session -/

namespace Execution

variable {p q : Execution} {path : ByteArray} {config : BridgeConfig} {s : Surroundings}

/-- The program of a session, at the end of one of its interleavings. -/
def Ran (p q : Execution) (w : Worker) : Prop :=
  ∃ happened, Run Threads.Move (p.threads, p.shared) happened (q.threads, q.shared)
    ∧ Run Worker.Hosted (p.threads.controller.program, { p.shared with slot := {} }) happened
      (w, q.threads.own q.shared)

/-- **The exit code of a session that is over.** Beside a main loop it does not matter how the
program ended. Without one it does: the program has returned, or the host has been told once why
it has not. -/
inductive Completed (p q : Execution) : Mode → Nat → Prop
  | simulated : Completed p q .simulated 0
  | succeeded {w : Worker} (hran : p.Ran q w) (hresult : w.result? = some .returned)
      (hsilent : q.shared.host.diagnostics = []) : Completed p q .headless 0
  | failed {w : Worker} {e : SessionError} (hran : p.Ran q w) (hresult : w.result? = some (.failed e))
      (htold : q.shared.host.diagnostics = [e.diagnostic]) : Completed p q .headless 1

/-- What a controller comes to is the exit code, unless the script has ended the process. -/
theorem code_of_ok {o : Outcome} (hexited : q.exited = none)
    (hdone : q.threads.controller.result? = some (.ok o)) : q.result.code = 0 := by
  unfold result
  rw [hexited, hdone]
  rfl

theorem code_of_session {e : SessionError} (hexited : q.exited = none)
    (hdone : q.threads.controller.result? = some (.error (.session e))) : q.result.code = 1 := by
  unfold result
  rw [hexited, hdone]
  rfl

/-- **Beside a main loop** a session that is over has exit code zero, whatever the program did. -/
theorem code_of_simulated {names : List String} {r : ControllerResult}
    (h : (start { extensions := names } config path s).Comes q) (hexited : q.exited = none)
    (hdone : q.threads.controller.result? = some r) : q.result.code = 0 := by
  obtain ⟨happened, hrun⟩ := h
  obtain ⟨hpasses, -⟩ := Threads.course_of_run rfl rfl rfl hrun
  unfold Threads.Passes at hpasses
  rw [Controller.done_of_result? hdone] at hpasses
  -- the simulated host refuses nothing and panics nowhere, so the controller ends well
  cases r with
  | ok o => exact code_of_ok hexited hdone
  | error e => exact hpasses.elim
  | panicked payload => exact hpasses.elim

/-- **Without a main loop** the exit code tells whether the program has returned. -/
theorem completed_headless {r : ControllerResult}
    (h : (start .headless config path s).Comes q) (hexited : q.exited = none)
    (hdone : q.threads.controller.result? = some r) :
    Completed (start .headless config path s) q .headless q.result.code := by
  obtain ⟨happened, hrun⟩ := h
  obtain ⟨⟨hpasses, hnone⟩, -⟩ := Threads.courseInline_of_run rfl rfl hrun
  obtain ⟨w, hw, hhosted⟩ := Threads.run_hosted rfl rfl hrun
  have hran : (start .headless config path s).Ran q w := ⟨happened, hrun, hhosted⟩
  have hstage := Controller.done_of_result? hdone
  have hown : q.threads.own q.shared = q.shared := by
    unfold Threads.own
    rw [hstage]
  rw [hown] at hhosted
  -- what the controller has come to is what its program has come to
  obtain ⟨result, o, hresult, rfl⟩ :
      ∃ result o, w.result? = some result ∧ r = Controller.inlineResult result o := by
    unfold Threads.PassesInline at hpasses
    unfold Threads.Carries at hw
    rw [hstage] at hpasses hw
    rcases hw with ⟨-, -, detail, rfl⟩ | ⟨-, hended⟩ | ⟨hworker, -⟩
    · obtain ⟨result, hresult⟩ := hpasses
      cases result with
      | _ => cases hresult
    · exact hended
    · exact nomatch hnone.symm.trans hworker
  have htold := Worker.told_of_run rfl hhosted hresult
  have hpanics : q.shared.panicsOnReport = false := (Threads.steady_of_run hrun).panics
  cases result with
  | returned =>
    rw [code_of_ok hexited hdone]
    exact .succeeded hran hresult htold
  | failed e =>
    rw [code_of_session hexited hdone]
    exact .failed hran hresult htold.2
  | panicked payload => exact nomatch hpanics.symm.trans htold.1

/-- **A process before its first turn**: a controller that is about to run the program, with nothing
but its host, the files and the environment. -/
structure Opens (host : SimHost) (b : BridgeConfig) (path : ByteArray) (s : Surroundings)
    (p : Execution) : Prop where
  threads : p.threads = { controller := { path, config := b } }
  shared : p.shared
    = { host, files := s.files, environment := s.environment, collections := s.collections }
  exited : p.exited = none

/-- **A session is carried out**, with the results that are shown after so many turns. -/
structure Carried (p : Execution) (mode : Mode) (calls : Entry → Bool) (results : Nat → Result) :
    Prop where
  /-- What is shown is the result of a state to which the session has come. -/
  comes : ∀ fuel, p.Comes (p.run calls fuel) ∧ results fuel = (p.run calls fuel).result
  /-- It ends, unless its controller is kept waiting for a program that goes on for ever. -/
  ends : (∃ fuel, (p.run calls fuel).IsOver) ∨ p.GoesOn calls
  /-- Once it is over, further turns change nothing. -/
  stays : ∀ {fuel more}, (p.run calls fuel).IsOver → fuel ≤ more →
    p.run calls more = p.run calls fuel
  /-- The exit code is then that of the session, if the script has not ended the process. -/
  code : ∀ {fuel}, (p.run calls fuel).IsOver → (p.run calls fuel).exited = none →
    p.Completed (p.run calls fuel) mode (results fuel).code

end Execution

/-! ### The run of a request -/

namespace Plan

/-- **The host and the configuration** of a session, by the settings that it starts from, the
value of the environment variable and the command line. -/
structure Effective (given : Settings) (r : Request) (value : Option ByteArray) (mode : Mode)
    (host : SimHost) (b : BridgeConfig) : Prop where
  /-- Milliseconds, without loss. -/
  wait : b.joinTimeoutMs = (r.joinTimeoutMs.getD given.joinTimeoutMs).toNat
  wait_pos : 0 < b.joinTimeoutMs
  interval : b.hookInterval = given.hookInterval.toNat
  simulated : mode = .simulated → ∃ names, Settings.InForce given.sim.extensions value names
    ∧ host = { extensions := names }
  headless : mode = .headless → host = .headless

variable {s : Surroundings} {r : Request} {mode : Mode} {path : ByteArray}

/-- The plan of a command line that asks for a program. -/
theorem of_request (hwords : Request.ofWords s.arguments = .ok r) (hversion : r.showsVersion = false)
    (hprogram : r.program = some (mode, path)) :
    Plan.of s =
      match r.settings (s.environment.lookup Settings.extensionsVariable) s.files with
      | .error f => .complain (errorLine f.message) 1
      | .ok settings => .run (hostFor mode settings) settings.bridge path := by
  unfold Plan.of
  rw [hwords]
  dsimp only
  unfold ofRequest
  rw [hversion, hprogram]
  rfl

/-- The exit code of a session that has been run, by the kind of host that the request names. -/
theorem completed_of_comes {settings : Settings} {q : Execution}
    (hcomes : (Execution.start (hostFor mode settings) settings.bridge path s).Comes q)
    (hexited : q.exited = none) (hover : q.threads.controller.result?.isSome = true) :
    (Execution.start (hostFor mode settings) settings.bridge path s).Completed q mode
      q.result.code := by
  obtain ⟨result, hdone⟩ := Option.isSome_iff_exists.mp hover
  -- simulated, the code is that of a session without a failure; headless, it is read off the host's
  -- report
  cases mode with
  | simulated =>
    rw [Execution.code_of_simulated hcomes hexited hdone]
    exact .simulated
  | headless => exact Execution.completed_headless hcomes hexited hdone

/-- **What a process does that is to run a robot program.**

Either it is refused: it ends with exit code one and a message, having touched no host, and this
is so exactly if the file that was named cannot be used or the command line sets the time to wait
to zero. Or it runs a session with the settings in force. Whoever takes the next turn in that
session, it goes by its configuration, and when it is over the exit code is zero beside a main
loop, and otherwise tells whether the program has returned. The process itself takes turns until
the session is over, and shows what it has come to. -/
theorem effective_of_request (hwords : Request.ofWords s.arguments = .ok r)
    (hversion : r.showsVersion = false) (hprogram : r.program = some (mode, path)) :
    (r.Refused s.files → ∃ message : String, Plan.of s = .complain message 1
        ∧ ∀ calls fuel, (Plan.of s).carryOut s calls fuel
          = { code := 1, log := #[], out := .empty, err := message.toUTF8, isInterrupted := false })
      ∧ (¬ r.Refused s.files → ∃ given host b, r.Given s.files given
        ∧ Effective given r (s.environment.lookup "HALSIM_EXTENSIONS") mode host b
        ∧ Plan.of s = .run host b path
        ∧ (Execution.start host b path s).Opens host b path s
        ∧ (∀ q, (Execution.start host b path s).Comes q → q.threads.Heeds b
          ∧ (q.exited = none → q.threads.controller.result?.isSome = true →
            (Execution.start host b path s).Completed q mode q.result.code))
        ∧ ∀ calls, (Execution.start host b path s).Carried mode calls
          ((Plan.of s).carryOut s calls)) := by
  have hplan := of_request hwords hversion hprogram
  -- a refused request complains and opens nothing; any other is carried out
  refine ⟨fun hrefused => ?_, fun hgood => ?_⟩
  · obtain ⟨f, hf⟩ := Request.settings_of_refused hrefused
      (s.environment.lookup Settings.extensionsVariable)
    rw [hf] at hplan
    refine ⟨errorLine f.message, hplan, fun calls fuel => ?_⟩
    rw [hplan]
    rfl
  · obtain ⟨given, hgiven⟩ : ∃ given, r.Given s.files given := by
      rcases Request.given_or_fault r s.files with hgiven | ⟨path, e, hconfig, hload⟩
      · exact hgiven
      · exact absurd (.file hconfig hload) hgood
    obtain ⟨settings, names, hsettings, hvalue, hwait, hforce⟩ := Request.settings_of_given hgiven hgood
      (s.environment.lookup Settings.extensionsVariable)
    rw [hsettings] at hplan
    have heffective : Effective given r (s.environment.lookup "HALSIM_EXTENSIONS") mode
        (hostFor mode settings) settings.bridge := by
      -- each setting is the command line's, or else the file's, or else the default
      refine ⟨?_, ?_, ?_, fun hmode => ⟨names, hforce, ?_⟩, fun hmode => ?_⟩
      · rw [hvalue]
        rfl
      · refine Nat.pos_of_ne_zero fun hzero => hwait ?_
        exact UInt64.toNat_inj.mp hzero
      · rw [hvalue]
        rfl
      · rw [hvalue, hmode]
        rfl
      · rw [hmode]
        rfl
    refine ⟨given, hostFor mode settings, settings.bridge, hgiven, heffective, hplan,
      ⟨rfl, rfl, rfl⟩, fun q hcomes => ?_, fun calls => ?_⟩
    · obtain ⟨happened, hrun⟩ := id hcomes
      exact ⟨Threads.heeds_of_run hrun, completed_of_comes hcomes⟩
    · -- the run is that of the loop, so what is proved of the loop is proved of the carrying out
      have hbegins : (Execution.start (hostFor mode settings) settings.bridge path s).Begins := by
        refine ⟨rfl, rfl, ?_, rfl⟩
        cases mode with
        | _ => rfl
      have hcomes : ∀ fuel, (Execution.start (hostFor mode settings) settings.bridge path s).Comes
          ((Execution.start (hostFor mode settings) settings.bridge path s).run calls fuel) :=
        fun fuel => Execution.comes_run calls fuel (.refl _) hbegins
      have hresult : ∀ fuel, (Plan.of s).carryOut s calls fuel
          = ((Execution.start (hostFor mode settings) settings.bridge path s).run calls fuel).result := by
        intro fuel
        rw [hplan]
        rfl
      refine ⟨fun fuel => ⟨hcomes fuel, hresult fuel⟩, Execution.ends_or_goesOn hbegins rfl calls,
        Execution.run_of_isOver (.refl _) hbegins rfl, fun {fuel} hover hexited => ?_⟩
      rw [hresult]
      refine completed_of_comes (hcomes fuel) hexited ?_
      exact Option.isSome_iff_ne_none.mpr (hover.resolve_left fun hended => hended hexited)

/-- A process for which the file, the environment and the command line each name one setting. There
is no program. -/
def layered : Surroundings where
  arguments :=
    ["--config", "c", "--join-timeout-ms", "5", "sim", "r"].map Text.octets
  environment := [("HALSIM_EXTENSIONS", Text.octets "a::b")]
  files := { entries := [([[99]], some (Text.octets "\x7b\"hook_interval\":7\x7d"))] }

/-- A process that runs a program without a main loop. -/
def plain (files : Files) : Surroundings where
  arguments := ["run", "r"].map Text.octets
  files := files

/-- The settings with which a plan has a program run. -/
def settings? : Plan → Option (SimHost × BridgeConfig)
  | .run host b _ => some (host, b)
  | _ => none

/-- A plan leads after so many turns to a session that is over, with this exit code, and with so many
reports of a failure. -/
def endsWithin (plan : Plan) (s : Surroundings) (turns code reports : Nat) : Bool :=
  match plan with
  | .run host b path =>
    let q := (Execution.start host b path s).run (fun _ => false) turns
    q.exited.isNone && q.threads.controller.result?.isSome && q.result.code == code
      && q.shared.host.diagnostics.length == reports
  | _ => false

/-- A session that is over within so many turns has completed, and more turns change nothing. -/
theorem completed_of_endsWithin {host : SimHost} {b : BridgeConfig} {turns code reports : Nat}
    {results : Nat → Execution.Result}
    (h : (Execution.start host b path s).Carried mode (fun _ => false) results)
    (hends : (Plan.run host b path).endsWithin s turns code reports = true) :
    ∃ q, (Execution.start host b path s).Completed q mode code
      ∧ q.shared.host.diagnostics.length = reports
      ∧ ∀ fuel, turns ≤ fuel → results fuel = q.result := by
  simp only [endsWithin, Bool.and_eq_true, beq_iff_eq, Option.isNone_iff_eq_none] at hends
  obtain ⟨⟨⟨hexited, hdone⟩, hcode⟩, hreports⟩ := hends
  -- once over the run stays where it is, however much fuel is given
  have hover : ((Execution.start host b path s).run (fun _ => false) turns).IsOver :=
    .inr (Option.isSome_iff_ne_none.mp hdone)
  have hcompleted := h.code hover hexited
  rw [(h.comes turns).2, hcode] at hcompleted
  refine ⟨_, hcompleted, hreports, fun fuel hle => ?_⟩
  rw [(h.comes fuel).2, h.stays hover hle]

/-- Each setting is that of the source that names it. A session ends with zero beside a main loop
though its program is missing, and without one it ends with one or with zero. -/
theorem effective_of_request_layered :
    (∃ host b, Plan.of layered = .run host b (Text.octets "r")
      ∧ b.joinTimeoutMs = 5 ∧ b.hookInterval = 7 ∧ host.extensions = ["a", "b"]
      ∧ (∀ q, (Execution.start host b (Text.octets "r") layered).Comes q → q.threads.Heeds b)
      ∧ ∃ q, (Execution.start host b (Text.octets "r") layered).Completed q .simulated 0
        ∧ q.shared.host.diagnostics.length = 1
        ∧ ∀ fuel, 100 ≤ fuel → (Plan.of layered).carryOut layered (fun _ => false) fuel = q.result)
    ∧ (∃ p q, Execution.Completed p q .headless 1 ∧ ∀ fuel, 100 ≤ fuel →
        (Plan.of (plain {})).carryOut (plain {}) (fun _ => false) fuel = q.result)
    ∧ ∃ p q, Execution.Completed p q .headless 0 ∧ ∀ fuel, 100 ≤ fuel →
        (Plan.of (plain Worker.idleProgram)).carryOut (plain Worker.idleProgram) (fun _ => false) fuel
          = q.result := by
  -- both sessions without a main loop are asked for by the same words, and have no file of settings
  have hheadless : ∀ files code reports,
      (Plan.of (plain files)).endsWithin (plain files) 100 code reports = true →
      ∃ p q, Execution.Completed p q .headless code ∧ ∀ fuel, 100 ≤ fuel →
        (Plan.of (plain files)).carryOut (plain files) (fun _ => false) fuel = q.result := by
    intro files code reports hends
    have hwords : Request.ofWords (plain {}).arguments = .ok
        { program := some (.headless, Text.octets "r") } := by
      decide +kernel
    obtain ⟨-, hruns⟩ := effective_of_request (s := plain files) hwords rfl rfl
    obtain ⟨-, host, b, -, -, hplan, -, -, hcarried⟩ := hruns fun hrefused => by
      cases hrefused with
      | file hconfig => cases hconfig
      | commandLine hzero => cases hzero
    rw [hplan] at hends
    obtain ⟨q, hcompleted, -, hresults⟩ := completed_of_endsWithin (hcarried _) hends
    exact ⟨_, q, hcompleted, hresults⟩
  refine ⟨?_, hheadless {} 1 1 (by decide +kernel),
    hheadless Worker.idleProgram 0 0 (by decide +kernel)⟩
  have hwords : Request.ofWords layered.arguments = .ok
      { config := some (Text.octets "c")
        joinTimeoutMs := some 5
        program := some (.simulated, Text.octets "r") } := by
    decide +kernel
  have hloads : (Settings.load layered.files (Text.octets "c")).isOk = true := by
    decide +kernel
  obtain ⟨-, hruns⟩ := effective_of_request hwords rfl rfl
  obtain ⟨-, host, b, -, -, hplan, -, hall, hcarried⟩ := hruns fun hrefused => by
    cases hrefused with
    | file hconfig hload =>
      obtain rfl := Option.some.inj hconfig
      rw [Settings.loaded_iff.mp hload] at hloads
      cases hloads
    | commandLine hzero => exact absurd hzero (by decide)
  have hsettings : ((Plan.of layered).settings?.any fun r =>
      r.2.joinTimeoutMs == 5 && r.2.hookInterval == 7 && r.1.extensions == ["a", "b"]) = true := by
    decide +kernel
  have hends : (Plan.of layered).endsWithin layered 100 0 1 = true := by
    decide +kernel
  rw [hplan] at hsettings hends
  simp only [settings?, Option.any_some, Bool.and_eq_true, beq_iff_eq] at hsettings
  obtain ⟨⟨hwait, hinterval⟩, hextensions⟩ := hsettings
  exact ⟨host, b, hplan, hwait, hinterval, hextensions, fun q hcomes => (hall q hcomes).1,
    completed_of_endsWithin (hcarried _) hends⟩

end Plan

end RobotSession
