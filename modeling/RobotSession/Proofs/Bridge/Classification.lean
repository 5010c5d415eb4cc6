import RobotSession.Proofs.Bridge.Pipeline

/-!
# How a session is classified

A session fails with the failure of the first station that fails, whatever the script does
at each of them: no later station is entered, calls for the robot are accepted only if all
stations before the last one have been passed, and the host is told of the failure once.

What a station reports is what has come of the call of the script, or of the place in the store,
that is due after the reports before it (`Follows`): the program in the file, the field `new` of
the module and its call, both routines of the robot, and the call of the start routine with the
robot.

* `Worker.Classified` — what holds at every point of a session.
* `Worker.Concluded` — what holds at its end.
-/

namespace RobotSession

open Lua

namespace Worker

variable {w : Worker} {s₀ s : Shared} {path : ByteArray} {srcs : List Files}
  {rs : List StationReport} {ids : List Nat}

/-- **What holds at every point of a session**, by what its stations have reported. -/
structure Classified (path : ByteArray) (w : Worker) (s₀ s : Shared) (srcs : List Files)
    (rs : List StationReport) (ids : List Nat) : Prop where
  /-- The stations report in their order, and none reports after one that has failed. -/
  order : rs.map StationReport.station = Station.all.take rs.length
  first : ∀ r ∈ rs.dropLast, r.failure? = none
  /-- Each report is what has come of the job that was due after those before it. -/
  traced : Traced path srcs rs
  /-- The engine is at the station that is to report next, and has begun with the job that is due.
  After a failure it is at no station. -/
  underway : w.stage = .drive → ∃ e st files job h, w.engine = some e ∧ e.task.station? = some st
    ∧ Station.all[rs.length]? = some st ∧ srcs = [files] ∧ Job.next path rs = some job
    ∧ IsLeft rs h ∧ job.IsUnderway files h e.machine
  stopped : verdict rs ≠ none → w.stage.isUnderway = false
  /-- The robot is bound once it is ready, and until then no call for it is accepted. -/
  bound : ∀ id ∈ ids, ((s.inbox id).isBound = true ↔ Ready rs)
  refused : ¬ Ready rs → ∀ id ∈ ids, ∀ i,
    (s.post id i).1 = .notBound ∨ (s.post id i).1 = .closed
  started : s.slot.robotStarted = true → s₀.slot.robotStarted = true ∨ Ready rs

/-- **What holds at the end of a session.** -/
structure Concluded (result : WorkerResult) (s₀ s : Shared) (rs : List StationReport) : Prop where
  /-- The failure is that of the first station that failed, if there is one. -/
  result_eq : result = resultOf (verdict rs)
  /-- A session that does not fail has passed all stations. -/
  returned : verdict rs = none → rs.map StationReport.station = Station.all
  started : s.slot.robotStarted = true ↔ s₀.slot.robotStarted = true ∨ Ready rs
  /-- The host is told of a failure once, and of nothing else. -/
  silent : verdict rs = none → s.host.diagnostics = s₀.host.diagnostics
  told : ∀ e, verdict rs = some e → ∃ d, s.host.diagnostics = s₀.host.diagnostics ++ [d]
    ∧ d.kind = e.kind ∧ d.message = "[luabot]: " ++ e.message

/-- The program is under way, or has come to its end and is not run any more. -/
theorem Comes.cases (h : w.Comes rs) :
    (∃ st, Underway rs st
        ∧ (w.stage = .drive → ∃ e, w.engine = some e ∧ e.task.station? = some st)
        ∧ (w.stage.isMarking = true → st = .run))
      ∨ ∃ result, Ended rs result ∧ w.stage.isUnderway = false ∧ w.stage.isMarking = false := by
  obtain ⟨path, interval, engine, stage⟩ := w
  -- from the first stage to the entry of the start routine the program is under way
  cases stage with
  | start => exact .inl ⟨.module, h, nofun, nofun⟩
  | publish => exact .inl ⟨.module, h, nofun, nofun⟩
  | load => exact .inl ⟨.module, h, nofun, nofun⟩
  | drive =>
    obtain ⟨st, hengine, hunderway⟩ := h
    exact .inl ⟨st, hunderway, fun _ => hengine, nofun⟩
  | markRunning r => exact .inl ⟨.run, h, nofun, fun _ => rfl⟩
  | enter r => exact .inl ⟨.run, h, nofun, nofun⟩
  | _ => exact .inr ⟨_, h, rfl, rfl⟩

theorem Session.classified (h : Session path s₀ w s srcs rs ids) :
    Classified path w s₀ s srcs rs ids := by
  -- a call is refused by an inbox that is not bound, whether it is closed or not
  have hrefused : ¬ Ready rs → ∀ id ∈ ids, ∀ i,
      (s.post id i).1 = .notBound ∨ (s.post id i).1 = .closed := by
    intro hready id hid i
    have hunbound : (s.inbox id).isBound = false :=
      Bool.eq_false_iff.mpr fun hbound => hready ((h.bound id hid).mp hbound)
    change ((s.inbox id).post i).1 = _ ∨ ((s.inbox id).post i).1 = _
    unfold Inbox.post
    rw [hunbound]
    split
    · exact .inr rfl
    · exact .inl rfl
  rcases h.comes.cases with ⟨st, hunderway, hdrive, hmarks⟩ | ⟨result, hended, hover, hmarks⟩
  · -- the program is under way, and nothing has failed
    refine ⟨hunderway.order, fun r hr => hunderway.passed r (List.dropLast_subset _ hr), h.traced,
      fun hstage => ?_, fun hfails => absurd (verdict_eq_none hunderway.passed) hfails, h.bound,
      hrefused, fun hstarted => ?_⟩
    · obtain ⟨e, hengine, hstation⟩ := hdrive hstage
      have hdoes := h.does
      unfold Does at hdoes
      rw [hstage] at hdoes
      obtain ⟨files, e', job, heap, hsrcs, he', -, hnext, hleft, hjob⟩ := hdoes
      obtain rfl : e = e' := Option.some.inj (hengine.symm.trans he')
      refine ⟨e, st, files, job, heap, hengine, hstation, ?_, hsrcs, hnext, hleft, hjob⟩
      rw [← List.length_map StationReport.station, hunderway.stations]
      exact st.all_before
    · cases hmarking : w.stage.isMarking with
      | true => exact .inr (hunderway.ready_iff.mpr (hmarks hmarking))
      | false => exact (h.started hmarking).mp hstarted
  · -- the program has come to its end
    obtain ⟨horder, hfirst⟩ := hended.order
    refine ⟨horder, hfirst, h.traced, fun hstage => ?_, fun _ => hover, h.bound, hrefused,
      (h.started hmarks).mp⟩
    rw [hstage] at hover
    cases hover

theorem Session.concluded {result : WorkerResult} (h : Session path s₀ w s srcs rs ids)
    (hdone : w.stage = .done result) : Concluded result s₀ s rs := by
  obtain ⟨path, interval, engine, stage⟩ := w
  change stage = .done result at hdone
  subst hdone
  have hended : Ended rs result := h.comes
  have htold : s.host.diagnostics
    = s₀.host.diagnostics ++ ((verdict rs).map SessionError.diagnostic).toList := h.told
  -- without a failure the reports are those of all stations, else the last one names it
  refine ⟨hended.result_eq, fun hnone => ?_, h.started rfl, fun hnone => ?_, fun e hsome => ?_⟩
  · have hresult := hended.result_eq
    rw [hnone] at hresult
    subst hresult
    cases hended with
    | returned stations passed => exact stations
  · rw [htold, hnone]
    exact List.append_nil _
  · rw [hsome] at htold
    exact ⟨e.diagnostic, htold, rfl, rfl⟩

/-- **A session is classified** by the first station that fails, at every point of its run. -/
theorem classified_of_run {interval : Nat} {happened : List WorkerDeed}
    (hfault : s₀.engineFault = none) (hpanics : s₀.panicsOnReport = false)
    (hrun : Run Move ({ path, interval }, s₀) happened (w, s)) :
    Classified path w s₀ s (sources happened) (reports happened) (published happened)
      ∧ ∀ result, w.stage = .done result → Concluded result s₀ s (reports happened) := by
  have h := (Session.begins rfl hfault hpanics).run hrun
  exact ⟨h.classified, fun result hdone => h.concluded hdone⟩

/-- A program whose start routine has this body. -/
def startingWith (body : String) : Files :=
  { entries := [([[114]], some ("return\x7bnew=function()return\x7bstartCompetition=function()"
      ++ body ++ "end\x7dend\x7d").toUTF8)] }

/-- The start routine has raised an error. -/
def hasRaised (w : Worker) : Bool :=
  match w.result? with
  | some (.failed (.startFailed _)) => true
  | _ => false

/-- A panic of the log has ended the program. -/
def hasPanicked (w : Worker) : Bool :=
  match w.result? with
  | some (.failed (.panicked text)) => text = "full"
  | _ => false

theorem stage_of_hasRaised (h : w.hasRaised = true) :
    ∃ message, w.stage = .done (.failed (.startFailed message)) := by
  unfold hasRaised at h
  split at h
  · exact ⟨_, done_of_result? ‹_›⟩
  · cases h

theorem stage_of_hasPanicked (h : w.hasPanicked = true) :
    w.stage = .done (.failed (.panicked "full")) := by
  unfold hasPanicked at h
  split at h
  · rename_i text hresult
    obtain rfl : text = "full" := of_decide_eq_true h
    exact done_of_result? hresult
  · cases h

/-- **Three sessions.** A program whose start routine does nothing passes all stations, and the host
is told of nothing. One whose start routine raises an error fails at the last station, and one
whose log panics there ends with the panic; the robot was ready both times, and the host is told
of each failure once. -/
theorem classified_of_run_sample :
    (∃ happened w s,
      Run Move ({ path := ⟨#[114]⟩, interval := 1000 }, { files := idleProgram }) happened (w, s)
        ∧ w.stage = .done .returned
        ∧ (reports happened).map StationReport.station = Station.all ∧ Ready (reports happened)
        ∧ s.host.diagnostics = [])
      ∧ (∃ happened w s message d,
        Run Move ({ path := ⟨#[114]⟩, interval := 1000 }, { files := startingWith "error(0)" })
            happened (w, s)
          ∧ w.stage = .done (.failed (.startFailed message)) ∧ Ready (reports happened)
          ∧ s.host.diagnostics = [d] ∧ d.kind = .startFailed ∧ d.message = "[luabot]: " ++ message)
      ∧ ∃ happened w s d,
        Run Move ({ path := ⟨#[114]⟩, interval := 1000 }, { files := startingWith "luabot.log(0)" })
            happened (w, s)
          ∧ w.stage = .done (.failed (.panicked "full")) ∧ Ready (reports happened)
          ∧ s.host.diagnostics = [d] ∧ d.kind = .workerPanicked
          ∧ d.message = "[luabot]: robot thread panicked: full" := by
  let w₀ : Worker := { path := ⟨#[114]⟩, interval := 1000 }
  refine ⟨?_, ?_, ?_⟩
  · have hends : (fun last : Worker × Shared =>
        last.1.result?.isSome && last.2.slot.robotStarted && last.2.host.diagnostics.isEmpty)
        (advance 30 w₀ { files := idleProgram }) = true := by
      decide +kernel
    obtain ⟨happened, hrun⟩ := run_advance 30 w₀ { files := idleProgram }
    generalize advance 30 w₀ { files := idleProgram } = last at hends hrun
    obtain ⟨w, s⟩ := last
    rw [Bool.and_eq_true, Bool.and_eq_true, List.isEmpty_iff] at hends
    obtain ⟨⟨hresult, hstarted⟩, hsilent⟩ := hends
    obtain ⟨-, hconcluded⟩ := classified_of_run rfl rfl hrun
    obtain ⟨result, hdone⟩ := done_of_isSome hresult
    have hlast := hconcluded result hdone
    -- a failure would have been told to the host
    cases hverdict : verdict (reports happened) with
    | some e =>
      obtain ⟨d, htold, -⟩ := hlast.told e hverdict
      rw [hsilent] at htold
      cases htold
    | none =>
      have hreturned := hlast.result_eq
      rw [hverdict] at hreturned
      rw [hreturned] at hdone
      exact ⟨happened, w, s, hrun, hdone, hlast.returned hverdict,
        (hlast.started.mp hstarted).resolve_left nofun, hsilent⟩
  · have hends : (fun last : Worker × Shared => last.1.hasRaised && last.2.slot.robotStarted)
        (advance 30 w₀ { files := startingWith "error(0)" }) = true := by
      decide +kernel
    obtain ⟨happened, hrun⟩ := run_advance 30 w₀ { files := startingWith "error(0)" }
    generalize advance 30 w₀ { files := startingWith "error(0)" } = last at hends hrun
    obtain ⟨w, s⟩ := last
    obtain ⟨hraised, hstarted⟩ := Bool.and_eq_true_iff.mp hends
    obtain ⟨message, hdone⟩ := stage_of_hasRaised hraised
    have hlast := (classified_of_run rfl rfl hrun).2 _ hdone
    obtain ⟨d, htold, hkind, hmessage⟩ := hlast.told _ (verdict_of_failed hlast.result_eq)
    exact ⟨happened, w, s, message, d, hrun, hdone, (hlast.started.mp hstarted).resolve_left nofun,
      htold, hkind, hmessage⟩
  · -- the log panics once the start routine has given it a line
    have hends : (fun last : Worker × Shared => last.1.hasPanicked && last.2.slot.robotStarted)
        (let ready := advance 12 w₀ { files := startingWith "luabot.log(0)" }
        advance 20 (ready.1.logged (some (.text "full"))) ready.2) = true := by
      decide +kernel
    obtain ⟨before, hbefore⟩ := run_advance 12 w₀ { files := startingWith "luabot.log(0)" }
    generalize advance 12 w₀ { files := startingWith "luabot.log(0)" } = ready at hends hbefore
    obtain ⟨after, hafter⟩ := run_advance 20 (ready.1.logged (some (.text "full"))) ready.2
    dsimp only at hends
    generalize advance 20 (ready.1.logged (some (.text "full"))) ready.2 = last at hends hafter
    obtain ⟨w, s⟩ := last
    have hrun := (hbefore.trans (.single (.logged (some (.text "full"))))).trans hafter
    obtain ⟨hpanicked, hstarted⟩ := Bool.and_eq_true_iff.mp hends
    have hdone := stage_of_hasPanicked hpanicked
    have hlast := (classified_of_run rfl rfl hrun).2 _ hdone
    obtain ⟨d, htold, hkind, hmessage⟩ := hlast.told _ (verdict_of_failed hlast.result_eq)
    exact ⟨_, w, s, d, hrun, hdone, (hlast.started.mp hstarted).resolve_left nofun, htold, hkind,
      hmessage⟩

end Worker
end RobotSession
