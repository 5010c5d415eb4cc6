import RobotSession.Proofs.Bridge.Moves

/-!
# What a step of a worker does

A worker has one step for each thing that it does to the slot, to an inbox or to the host.
`Worker.Steps` lists them, with the state that each of them leaves behind; whatever is said
about all steps of a worker is shown by going through this list.

* `Worker.Steps`, `Worker.steps` — the steps, and that there are no others.
* `hostCalls`, `Worker.hostCalls_step` — the calls on the host with which a step is taken.
* `Engine.takes`, `Worker.takes` — the call that is taken for delivery by a step.
* `Shared.Steady` — what no thread of a session changes.
-/

namespace RobotSession

open Lua

/-! ### What stays as it is -/

/-- **What no thread of a session changes.** -/
structure Shared.Steady (s s' : Shared) : Prop where
  fault : s'.engineFault = s.engineFault
  spawnFault : s'.spawnFault = s.spawnFault
  panics : s'.panicsOnReport = s.panicsOnReport
  mainLoop : s'.host.hasMainLoop = s.host.hasMainLoop
  initCode : s'.host.initCode = s.host.initCode

/-- Where nothing happens, everything is steady. -/
theorem Shared.Steady.refl (s : Shared) : s.Steady s :=
  ⟨rfl, rfl, rfl, rfl, rfl⟩

/-- It is steady from step to step. -/
theorem Shared.Steady.trans {s₁ s₂ s₃ : Shared} (h : s₁.Steady s₂) (h' : s₂.Steady s₃) :
    s₁.Steady s₃ :=
  ⟨h'.fault.trans h.fault, h'.spawnFault.trans h.spawnFault, h'.panics.trans h.panics,
    h'.mainLoop.trans h.mainLoop, h'.initCode.trans h.initCode⟩

/-! ### The calls on the host -/

/-- The calls on the host among the signals of a step, in order. -/
def hostCalls (signals : List Signal) : List HostCall :=
  signals.filterMap fun
    | .host c => some c
    | _ => none

/-- Calls of the host come one after the other. -/
theorem hostCalls_append (signals later : List Signal) :
    hostCalls (signals ++ later) = hostCalls signals ++ hostCalls later :=
  List.filterMap_append

/-- Where no signal is a call of the host, there is none. -/
theorem hostCalls_eq_nil {signals : List Signal} (h : ∀ c, Signal.host c ∉ signals) :
    hostCalls signals = [] := by
  refine List.filterMap_eq_nil_iff.mpr fun g hg => ?_
  cases g with
  | host c => exact absurd hg (h c)
  | _ => rfl

/-- A call of the host has been signalled. -/
theorem mem_hostCalls {signals : List Signal} {c : HostCall} (h : c ∈ hostCalls signals) :
    .host c ∈ signals := by
  obtain ⟨g, hg, hc⟩ := List.mem_filterMap.mp h
  cases g with
  | host c' =>
    obtain rfl : c' = c := Option.some.inj hc
    exact hg
  | _ => cases hc

/-! ### The calls that are taken -/

namespace Engine

variable {e e' : Engine} {s s' : Shared} {t : Turn} {signals : List Signal}

/-- The call that the next turn takes for delivery. -/
def takes (e : Engine) (s : Shared) : Option Invocation :=
  match (e.machine.advance quantum).mode with
  | .ask w =>
    match w.question with
    | .take => (s.inbox e.id).pop.1
    | _ => none
  | _ => none

/-- **What a turn does** to what the threads share: time passes, or the oldest call is taken. -/
theorem turn_shared (h : e.turn s = (t, e', s', signals)) :
    (e.takes s = none ∧ ∃ clock, s' = { s with clock })
      ∨ (e.takes s = (s.inbox e.id).pop.1 ∧ s' = s.setInbox e.id (s.inbox e.id).pop.2) := by
  unfold takes
  unfold turn at h
  dsimp only at h
  split at h
  · rename_i w hmode
    rw [hmode]
    dsimp only
    -- a call is taken only by the question that asks for one
    by_cases htake : w.question = .take
    · rw [htake] at h ⊢
      cases h
      exact .inr ⟨rfl, rfl⟩
    · have hnone : (match w.question with
          | .take => (s.inbox e.id).pop.1
          | _ => none) = none := by
        split
        · exact absurd ‹_› htake
        · rfl
      obtain ⟨-, hclock⟩ := serve_cases htake h
      exact .inl ⟨hnone, _, hclock⟩
  · rename_i result hmode
    -- an engine that has ended its work leaves everything else alone
    have hsame : s' = s := by
      split at h
      · cases h
        rfl
      · cases h
        rfl
    rw [hmode, hsame]
    exact .inl ⟨rfl, s.clock, rfl⟩
  · rename_i hask hended
    cases h
    refine .inl ⟨?_, _, rfl⟩
    split
    · exact absurd ‹_› (hask _)
    · rfl

end Engine

namespace Worker

variable {w w' : Worker} {s s' : Shared} {t : WorkerTurn} {signals : List Signal}

/-- The call that the next step takes for delivery. -/
def takes (w : Worker) (s : Shared) : Option Invocation :=
  match w.stage, w.engine with
  | .drive, some e => e.takes s
  | .closeEngine _, some e => e.takes s
  | _, _ => none

/-! ### The steps -/

/-- **Where a turn of its engine leaves a program** that runs: it goes on, the robot is ready and
calls are accepted for it, or the program is over. -/
inductive DrivesTo (e : Engine) (s : Shared) : Stage → Shared → Prop
  | goesOn : DrivesTo e s .drive s
  | ready (r : Robot) : DrivesTo e s (.markRunning r) (s.setInbox e.id (s.inbox e.id).bind)
  | ends {result : WorkerResult} (h : ∀ p, result ≠ .panicked p) :
      DrivesTo e s (.closeInbox result) s

/-- The stages that a worker without an engine passes over. -/
inductive PassesOver : Stage → Stage → Prop
  | publish : PassesOver .publish .load
  | load : PassesOver .load (.closeInbox .returned)
  | drive : PassesOver .drive .drive
  | closeInbox (result : WorkerResult) : PassesOver (.closeInbox result) (.recordClose result)
  | closeEngine (result : WorkerResult) : PassesOver (.closeEngine result) (.recordClose result)

/-- **The steps of a worker.** -/
inductive Steps (w : Worker) (s : Shared) : Worker → Shared → Prop
  | cannotOpen {detail : String} (hstage : w.stage = .start) (hfault : s.engineFault = some detail) :
      Steps w s { w with stage := .report (.failed (.engineInit detail)) } s
  | opens (hstage : w.stage = .start) (hfault : s.engineFault = none) :
      Steps w s
        { w with
          engine := some (.opened s.inboxes.size w.interval s.clock s.collections)
          stage := .publish }
        s.newInbox.2
  | passesOver {stage : Stage} (hengine : w.engine = none) (h : PassesOver w.stage stage) :
      Steps w s { w with stage } s
  | publishes {e : Engine} (hstage : w.stage = .publish) (hengine : w.engine = some e) :
      Steps w s { w with stage := .load } { s with slot := s.slot.publish e.id }
  | loads {e e' : Engine} (hstage : w.stage = .load) (hengine : w.engine = some e)
      (hid : e'.id = e.id) : Steps w s { w with engine := some e', stage := .drive } s
  | cannotLoad {e : Engine} {fault : SessionError} (hstage : w.stage = .load)
      (hengine : w.engine = some e) : Steps w s { w with stage := .closeInbox (.failed fault) } s
  | drives {e e₁ e' : Engine} {s₁ s' : Shared} {t : Turn} {signals : List Signal} {stage : Stage}
      (hstage : w.stage = .drive) (hengine : w.engine = some e)
      (hturn : e.turn s = (t, e₁, s₁, signals)) (hid : e'.id = e.id)
      (h : DrivesTo e s₁ stage s') : Steps w s { w with engine := some e', stage } s'
  | marks {r : Robot} (hstage : w.stage = .markRunning r) :
      Steps w s { w with stage := .enter r } { s with slot := s.slot.markRunning }
  | enters {r : Robot} (hstage : w.stage = .enter r) :
      Steps w s { w with engine := w.engine.map (·.start r), stage := .drive } s
  | closes {e : Engine} {engine : Option Engine} {result : WorkerResult} {stage : Stage}
      (hstage : w.stage = .closeInbox result) (hengine : w.engine = some e)
      (hid : ∀ e' ∈ engine, e'.id = e.id)
      (h : stage = .closeEngine result ∨ stage = .recordClose result) :
      Steps w s { w with engine, stage } (s.setInbox e.id (s.inbox e.id).close)
  | finalizes {e e₁ : Engine} {engine : Option Engine} {s₁ : Shared} {t : Turn}
      {signals : List Signal} {result : WorkerResult} {stage : Stage}
      (hstage : w.stage = .closeEngine result) (hengine : w.engine = some e)
      (hturn : e.turn s = (t, e₁, s₁, signals)) (hid : ∀ e' ∈ engine, e'.id = e.id)
      (h : stage = .closeEngine result ∨ stage = .recordClose result) :
      Steps w s { w with engine, stage } s₁
  | counts {result : WorkerResult} (hstage : w.stage = .recordClose result) :
      Steps w s { w with stage := .report result } { s with slot := s.slot.recordClose }
  | fails {e : SessionError} (hstage : w.stage = .report (.failed e)) :
      Steps w s { w with stage := .sendError e } s
  | succeeds {result : WorkerResult} (hstage : w.stage = .report result)
      (h : ∀ e, result ≠ .failed e) : Steps w s { w with stage := .finish result } s
  | tells {e : SessionError} (hstage : w.stage = .sendError e) (hpanics : s.panicsOnReport = false) :
      Steps w s { w with stage := .finish (.failed e) }
        { s with host := (s.host.sendError e.diagnostic).1 }
  | panics {e : SessionError} {p : Payload} (hstage : w.stage = .sendError e)
      (hpanics : s.panicsOnReport = true) :
      Steps w s { w with stage := .finish (.panicked p) }
        { s with host := (s.host.sendError e.diagnostic).1 }
  | finishes {result : WorkerResult} (hstage : w.stage = .finish result) :
      Steps w s { w with stage := .requestExit result } { s with slot := s.slot.finish }
  | asksExit {result : WorkerResult} (hstage : w.stage = .requestExit result) :
      Steps w s { w with stage := .done result } { s with host := s.host.requestExit }

/-- Between two steps the engine of a worker begins to be closed, or is closed at once. -/
theorem closeEngine_cases {e : Engine} (hengine : w.engine = some e) (result : WorkerResult) :
    ∃ engine stage, w.closeEngine result = { w with engine, stage }
      ∧ (∀ e' ∈ engine, e'.id = e.id)
      ∧ (stage = .closeEngine result ∨ stage = .recordClose result) := by
  have hid : e.close.2.id = e.id := e.id_close
  unfold Worker.closeEngine
  rw [hengine]
  dsimp only
  rcases hclose : e.close with ⟨c, e'⟩
  rw [hclose] at hid
  cases c with
  -- the engine is gone at once, or it has an end of its own to run
  | some c => exact ⟨none, .recordClose result, rfl, fun _ h => absurd h (Option.not_mem_none _), .inr rfl⟩
  | none =>
    refine ⟨some e', .closeEngine result, rfl, ?_, .inl rfl⟩
    intro e'' hmem
    rw [← Option.some.inj hmem]
    exact hid

/-- **A worker takes no other steps.** -/
theorem steps (hgo : w.result? = none) (h : w.step s = (t, w', s', signals)) : w.Steps s w' s' := by
  obtain ⟨path, interval, engine, stage⟩ := w
  cases stage with
  | start =>
    unfold Worker.step at h
    dsimp only at h
    split at h
    · rename_i detail hfault
      cases h
      exact .cannotOpen rfl hfault
    · rename_i hfault
      cases h
      exact .opens rfl hfault
  | publish =>
    cases engine with
    | none =>
      cases h
      exact .passesOver rfl .publish
    | some e =>
      cases h
      exact .publishes rfl rfl
  | load =>
    cases engine with
    | none =>
      cases h
      exact .passesOver rfl .load
    | some e =>
      unfold Worker.step at h
      dsimp only at h
      split at h
      · rename_i e' hload
        cases h
        exact .loads rfl rfl (id_loadFile hload)
      · cases h
        exact .cannotLoad rfl rfl
  | drive =>
    cases engine with
    | none =>
      cases h
      exact .passesOver rfl .drive
    | some e =>
      have hdrive : drive ⟨path, interval, some e, .drive⟩ s = (t, w', s', signals) := h
      obtain ⟨t₀, e₀, s₀, signals₀, hturn, hcases⟩ := drive_cases rfl hdrive
      obtain ⟨hid, -, -⟩ := Engine.turn_alike hturn
      rcases hcases with ⟨-, rfl, -, rfl⟩ | ⟨table, -, rfl, -, rfl⟩ | ⟨r, -, rfl, -, rfl⟩
        | ⟨c, -, -, hrobot, rfl, -, rfl⟩
      · exact .drives rfl rfl hturn hid .goesOn
      · have hconstruct : (e₀.construct table).id = e.id := (Engine.id_begins (.construct table)).trans hid
        exact .drives rfl rfl hturn hconstruct .goesOn
      · -- the robot is bound under the number that the engine has after its turn
        have hbind : (e₀.bindRobot s₀ r).1 = s₀.setInbox e.id (s₀.inbox e.id).bind := by
          unfold Engine.bindRobot
          rw [hid]
        rw [hbind]
        exact .drives rfl rfl hturn hid (.ready r)
      · cases c with
        | module table => exact .drives rfl rfl hturn hid .goesOn
        | version v => exact .drives rfl rfl hturn hid .goesOn
        | robot r => exact absurd rfl (hrobot r)
        | ended => exact .drives rfl rfl hturn hid (.ends nofun)
        | failed err => exact .drives rfl rfl hturn hid (.ends nofun)
        | panicked p => exact .drives rfl rfl hturn hid (.ends nofun)
  | markRunning r =>
    cases h
    exact .marks rfl
  | enter r =>
    cases h
    exact .enters rfl
  | closeInbox result =>
    cases engine with
    | none =>
      cases h
      exact .passesOver rfl (.closeInbox result)
    | some e =>
      have hclose : (WorkerTurn.going, closeEngine ⟨path, interval, some e, .closeInbox result⟩ result,
          (e.closeInbox s).1, (e.closeInbox s).2) = (t, w', s', signals) := h
      -- there may be finalizers to run, or none
      obtain ⟨engine, stage, hw, hid, hnext⟩ := closeEngine_cases
        (w := ⟨path, interval, some e, .closeInbox result⟩) rfl result
      rw [hw] at hclose
      cases hclose
      exact .closes rfl rfl hid hnext
  | closeEngine result =>
    cases engine with
    | none =>
      cases h
      exact .passesOver rfl (.closeEngine result)
    | some e =>
      rcases hturn : e.turn s with ⟨t₀, e₀, s₀, signals₀⟩
      obtain ⟨hid, -, -⟩ := Engine.turn_alike hturn
      have hsome : ∀ e' ∈ some e₀, e'.id = e.id := by
        intro e' hmem
        rw [← Option.some.inj hmem]
        exact hid
      have hfinalize : finalize ⟨path, interval, some e, .closeEngine result⟩ s result
        = (t, w', s', signals) := h
      unfold finalize at hfinalize
      dsimp only at hfinalize
      rw [hturn] at hfinalize
      dsimp only at hfinalize
      cases t₀ with
      | completed c =>
        cases hfinalize
        exact .finalizes rfl rfl hturn (fun _ h => absurd h (Option.not_mem_none _)) (.inr rfl)
      | _ =>
        cases hfinalize
        exact .finalizes rfl rfl hturn hsome (.inl rfl)
  | recordClose result =>
    cases h
    exact .counts rfl
  | report result =>
    cases result with
    | failed e =>
      cases h
      exact .fails rfl
    | _ =>
      cases h
      exact .succeeds rfl nofun
  | sendError e =>
    unfold Worker.step at h
    dsimp only at h
    split at h
    · rename_i hpanics
      cases h
      exact .panics (p := .text "send_error panicked") rfl hpanics
    · rename_i hpanics
      rw [Bool.not_eq_true] at hpanics
      cases h
      exact .tells rfl hpanics
  | finish result =>
    cases h
    exact .finishes rfl
  | requestExit result =>
    cases h
    exact .asksExit rfl
  | done result => cases hgo

/-! ### What a step says to the host -/

/-- The call on the host with which a stage is left. -/
def Stage.hostCalls : Stage → List HostCall
  | .sendError e => [.sendError e.kind]
  | .requestExit _ => [.requestExit]
  | _ => []

/-- **A step calls on the host** as its stage says, whatever the engine does. -/
theorem hostCalls_step (h : w.step s = (t, w', s', signals)) :
    hostCalls signals = w.stage.hostCalls := by
  obtain ⟨path, interval, engine, stage⟩ := w
  cases stage with
  | start =>
    unfold Worker.step at h
    dsimp only at h
    split at h
    · cases h
      rfl
    · cases h
      rfl
  | publish | closeInbox =>
    cases engine with
    | _ =>
      cases h
      rfl
  | load =>
    unfold Worker.step at h
    dsimp only at h
    split at h
    · cases h
      rfl
    · split at h
      · cases h
        rfl
      · cases h
        rfl
  | drive =>
    cases engine with
    | none =>
      cases h
      rfl
    | some e =>
      have hdrive : drive ⟨path, interval, some e, .drive⟩ s = (t, w', s', signals) := h
      obtain ⟨t₀, e₀, s₀, signals₀, hturn, hcases⟩ := drive_cases rfl hdrive
      obtain ⟨-, -, hquiet⟩ := Engine.turn_alike hturn
      have hnone := hostCalls_eq_nil hquiet
      rcases hcases with ⟨-, -, rfl, -⟩ | ⟨table, -, -, rfl, -⟩ | ⟨r, -, -, rfl, -⟩
        | ⟨c, -, -, -, -, rfl, -⟩
      · exact hnone
      · exact hnone
      · -- binding the robot adds a record to what the turn has signalled
        rw [hostCalls_append, hnone]
        rfl
      · exact hnone
  | closeEngine result =>
    obtain ⟨-, hquiet, -⟩ := finalize_cases h
    exact hostCalls_eq_nil hquiet
  | report result =>
    cases result with
    | _ =>
      cases h
      rfl
  | _ =>
    cases h
    rfl

/-! ### The host -/

/-- A turn leaves the host alone. -/
theorem host_of_turn {e e₁ : Engine} {t : Turn} (h : e.turn s = (t, e₁, s', signals)) :
    s'.host = s.host := by
  rcases Engine.turn_shared h with ⟨-, clock, rfl⟩ | ⟨-, rfl⟩
  · rfl
  · rfl

/-- **What a step does to the host**: it is told of a failure, or asked to leave its main
loop. -/
theorem Steps.host (h : w.Steps s w' s') :
    s'.host = s.host
      ∨ (∃ e, w.stage = .sendError e ∧ s'.host = (s.host.sendError e.diagnostic).1)
      ∨ ∃ result, w'.stage = .done result ∧ s'.host = s.host.requestExit := by
  cases h with
  | tells hstage => exact .inr (.inl ⟨_, hstage, rfl⟩)
  | panics hstage => exact .inr (.inl ⟨_, hstage, rfl⟩)
  | asksExit hstage => exact .inr (.inr ⟨_, rfl, rfl⟩)
  -- the engine does not speak to the host
  | drives hstage hengine hturn hid h =>
    have hhost := host_of_turn hturn
    cases h with
    | _ => exact .inl hhost
  | finalizes hstage hengine hturn => exact .inl (host_of_turn hturn)
  | _ => exact .inl rfl

/-- So it leaves the slot, and the number of engines. -/
theorem steady_of_turn {e e₁ : Engine} {t : Turn} (h : e.turn s = (t, e₁, s', signals)) :
    s.Steady s' := by
  rcases Engine.turn_shared h with ⟨-, clock, rfl⟩ | ⟨-, rfl⟩
  · exact ⟨rfl, rfl, rfl, rfl, rfl⟩
  · exact ⟨rfl, rfl, rfl, rfl, rfl⟩

/-- **A step of the worker** is steady. -/
theorem Steps.steady (h : w.Steps s w' s') : s.Steady s' := by
  cases h with
  | drives hstage hengine hturn hid h =>
    have hsteady := steady_of_turn hturn
    cases h with
    | _ => exact ⟨hsteady.fault, hsteady.spawnFault, hsteady.panics, hsteady.mainLoop,
        hsteady.initCode⟩
  | finalizes hstage hengine hturn => exact steady_of_turn hturn
  | _ => exact ⟨rfl, rfl, rfl, rfl, rfl⟩

/-- The program does not shut the host down. -/
theorem Steps.shutdownCalls (h : w.Steps s w' s') :
    s'.host.shutdownCalls = s.host.shutdownCalls := by
  rcases h.host with hhost | ⟨e, -, hhost⟩ | ⟨result, -, hhost⟩
  · rw [hhost]
  · rw [hhost]
    rfl
  · rw [hhost]
    rfl

end Worker

/-! ### What the host is told -/

/-- **What the host has been told** by a worker with this result: of a failure, once. Where
telling it panics, the panic is the result. -/
def WorkerResult.Told (panics : Bool) (before after : List Diagnostic) : WorkerResult → Prop
  | .returned => after = before
  | .failed e => panics = false ∧ after = before ++ [e.diagnostic]
  | .panicked _ => panics = true ∧ ∃ e : SessionError, after = before ++ [e.diagnostic]

/-- What the host is told of a program with this result. -/
def WorkerResult.diagnostics : WorkerResult → List Diagnostic
  | .failed e => [e.diagnostic]
  | _ => []

/-- The host that does not panic is told what there is to tell. -/
theorem WorkerResult.Told.diagnostics {result : WorkerResult} {before after : List Diagnostic}
    (h : result.Told false before after) : after = before ++ result.diagnostics := by
  cases result with
  | returned => exact h.trans (List.append_nil _).symm
  | failed e => exact h.2
  | panicked p => cases h.1

namespace Worker

/-- What the host has been told at a stage. -/
def Telling (w : Worker) (panics : Bool) (before after : List Diagnostic) : Prop :=
  match w.stage with
  | .finish result | .requestExit result | .done result => result.Told panics before after
  | .closeInbox result | .closeEngine result | .recordClose result | .report result =>
    after = before ∧ ∀ p, result ≠ .panicked p
  | _ => after = before

variable {w w' : Worker} {s s' : Shared} {before : List Diagnostic}

/-- Until the program is over, the host is told of nothing. -/
theorem Steps.telling (h : w.Steps s w' s')
    (ht : w.Telling s.panicsOnReport before s.host.diagnostics) :
    w'.Telling s.panicsOnReport before s'.host.diagnostics := by
  unfold Telling at ht
  cases h with
  | cannotOpen hstage | cannotLoad hstage =>
    rw [hstage] at ht
    exact ⟨ht, nofun⟩
  | passesOver hengine hover =>
    obtain ⟨path, interval, engine, stage⟩ := w
    cases hover with
    | publish => exact ht
    | load => exact ⟨ht, nofun⟩
    | drive => exact ht
    | closeInbox result => exact ht
    | closeEngine result => exact ht
  | drives hstage hengine hturn hid hdrives =>
    rw [hstage] at ht
    have hhost := host_of_turn hturn
    rw [← hhost] at ht
    cases hdrives with
    | goesOn => exact ht
    | ready r => exact ht
    | ends hpanicked => exact ⟨ht, hpanicked⟩
  | closes hstage hengine hid hnext =>
    rw [hstage] at ht
    rcases hnext with rfl | rfl
    · exact ht
    · exact ht
  | finalizes hstage hengine hturn hid hnext =>
    rw [hstage, ← host_of_turn hturn] at ht
    rcases hnext with rfl | rfl
    · exact ht
    · exact ht
  | fails hstage =>
    rw [hstage] at ht
    exact ht.1
  | @succeeds result hstage hfailed =>
    rw [hstage] at ht
    -- nothing is told of a success, and a failure would have been told before
    obtain ⟨hsame, hpanicked⟩ := ht
    cases result with
    | returned => exact hsame
    | failed e => exact absurd rfl (hfailed e)
    | panicked p => exact absurd rfl (hpanicked p)
  -- the one step that adds a report, in either of its two ways
  | tells hstage hpanics =>
    rw [hstage] at ht
    have htold : s.host.diagnostics = before := ht
    refine ⟨hpanics, ?_⟩
    rw [← htold]
    rfl
  | @panics e p hstage hpanics =>
    rw [hstage] at ht
    have htold : s.host.diagnostics = before := ht
    refine ⟨hpanics, e, ?_⟩
    rw [← htold]
    rfl
  | opens hstage | publishes hstage | loads hstage | marks hstage | enters hstage | counts hstage
  | finishes hstage | asksExit hstage =>
    rw [hstage] at ht
    exact ht

end Worker
end RobotSession
