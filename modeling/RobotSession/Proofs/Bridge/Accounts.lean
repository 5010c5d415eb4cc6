import RobotSession.Proofs.Bridge.Steps

/-!
# The accounts of the slot

The worker changes the slot in four places, and the inbox of its engine in one: it publishes
a handle, marks that the robot runs, closes the inbox, counts the engine as closed, and
withdraws the handle. Whatever the program does, and whether the host panics or not, a
snapshot of the slot that is taken between any two of these steps is consistent with the
engines that were published so far (`Shared.SlotSound`), over any number of runs.

The proof gives each stage of the worker its place in the accounts (`Worker.Stands`): before
and after a run all engines are closed and counted, in between the last one is not.

* `Shared.SlotSound` — what every snapshot satisfies.
* `Worker.Accounts.step` — each step keeps the accounts.
* `Runner.slot_sound` — so every snapshot is sound, and each run ends with one request to
  leave the main loop, after the handle is withdrawn.
-/

namespace RobotSession

open Lua

/-- **A snapshot of the slot** is consistent with the engines that were published so far. -/
structure Shared.SlotSound (s : Shared) (published : List Nat) : Prop where
  /-- There is a handle while a program is loaded or runs. -/
  handle : s.slot.handle.isSome = true ↔ s.slot.phase = .loading ∨ s.slot.phase = .running
  started : s.slot.phase = .running → s.slot.robotStarted = true
  /-- When the worker has finished, all engines are closed and counted. -/
  finished : s.slot.phase = .finished → s.slot.handle = none
    ∧ (∀ id ∈ published, (s.inbox id).isClosed = true) ∧ s.slot.closes = published.length
  /-- At most one engine is not counted as closed yet. -/
  closes_le : s.slot.closes ≤ published.length
  le_closes : published.length ≤ s.slot.closes + 1

namespace Worker

variable {w w' : Worker} {s s' : Shared} {ids : List Nat} {last : Option Nat} {t : WorkerTurn}
  {signals : List Signal}

/-! ### Where a stage stands -/

/-- The parts of a run, by what has been published and what has been counted as closed. -/
inductive Part
  | before
  | opened
  | working
  | closing
  | after
  | finished

/-- The part of a run to which a stage belongs. -/
def Stage.part : Stage → Part
  | .start => .before
  | .publish => .opened
  | .load | .drive | .markRunning _ | .enter _ | .closeInbox _ => .working
  | .closeEngine _ | .recordClose _ => .closing
  | .report _ | .sendError _ | .finish _ => .after
  | .requestExit _ | .done _ => .finished

/-- All engines that were published are closed and counted. -/
structure Settled (s : Shared) (ids : List Nat) : Prop where
  closes : s.slot.closes = ids.length
  closed : ∀ id ∈ ids, (s.inbox id).isClosed = true

/-- The last engine is still to be counted, and all others are closed. -/
structure Owing (s : Shared) (ids : List Nat) (last : Option Nat) : Prop where
  closes : s.slot.closes + 1 = ids.length
  closed : ∀ id ∈ ids, some id ≠ last → (s.inbox id).isClosed = true
  phase : s.slot.phase = .loading ∨ s.slot.phase = .running

/-- The worker has an engine, which is not counted as closed yet. -/
def InCharge (engine : Option Engine) (s : Shared) (ids : List Nat) : Prop :=
  ∃ e, engine = some e ∧ e.id < s.inboxes.size ∧ Owing s ids (some e.id)

/-- **Where a worker stands** at each stage. -/
def Stands (w : Worker) (s : Shared) (ids : List Nat) : Prop :=
  match w.stage.part with
  | .before => Settled s ids ∧ (s.slot.phase = .pending ∨ s.slot.phase = .finished)
  | .opened => Settled s ids ∧ ∃ e, w.engine = some e ∧ e.id < s.inboxes.size
  | .working => InCharge w.engine s ids
  | .closing => Owing s ids none
  | .after => Settled s ids
  | .finished => Settled s ids ∧ s.slot.phase = .finished

/-- **The accounts of the slot** at a stage of the worker. -/
structure Accounts (w : Worker) (s : Shared) (ids : List Nat) : Prop where
  handle : s.slot.handle.isSome = true ↔ s.slot.phase = .loading ∨ s.slot.phase = .running
  started : s.slot.phase = .running → s.slot.robotStarted = true
  stands : w.Stands s ids

/-- An account that is settled stays so while others move. -/
theorem Settled.stable (h : Settled s ids) (ha : s.Stable s') : Settled s' ids := by
  refine ⟨?_, fun id hid => ?_⟩
  · rw [ha.slot]
    exact h.closes
  · rw [ha.closed]
    exact h.closed id hid

/-- So does one that owes a handle. -/
theorem Owing.stable (h : Owing s ids last) (ha : s.Stable s') : Owing s' ids last := by
  refine ⟨?_, fun id hid hne => ?_, ?_⟩
  · rw [ha.slot]
    exact h.closes
  · rw [ha.closed]
    exact h.closed id hid hne
  · rw [ha.slot]
    exact h.phase

/-- A worker stays in charge of its engine. -/
theorem InCharge.stable {engine : Option Engine} (h : InCharge engine s ids) (ha : s.Stable s') :
    InCharge engine s' ids := by
  obtain ⟨e, hengine, hlt, howing⟩ := h
  exact ⟨e, hengine, Nat.lt_of_lt_of_le hlt ha.size, howing.stable ha⟩

/-- The accounts do not depend on what other threads do. -/
theorem Accounts.stable (h : Accounts w s ids) (ha : s.Stable s') : Accounts w s' ids := by
  have hstands := h.stands
  refine ⟨?_, ?_, ?_⟩
  · rw [ha.slot]
    exact h.handle
  · rw [ha.slot]
    exact h.started
  · -- each part says something about the slot, the closed inboxes and their number only
    unfold Stands at hstands ⊢
    cases hpart : w.stage.part with
    | before =>
      rw [hpart] at hstands
      exact ⟨hstands.1.stable ha, ha.slot ▸ hstands.2⟩
    | opened =>
      rw [hpart] at hstands
      obtain ⟨hsettled, e, hengine, hlt⟩ := hstands
      exact ⟨hsettled.stable ha, e, hengine, Nat.lt_of_lt_of_le hlt ha.size⟩
    | working | closing | after =>
      rw [hpart] at hstands
      exact hstands.stable ha
    | finished =>
      rw [hpart] at hstands
      exact ⟨hstands.1.stable ha, ha.slot ▸ hstands.2⟩

/-- The engine of the worker has gone on. -/
theorem InCharge.engine {e e' : Engine} (h : InCharge (some e) s ids) (hid : e'.id = e.id) :
    InCharge (some e') s ids := by
  obtain ⟨e₁, heq, hlt, howing⟩ := h
  cases heq
  exact ⟨e', rfl, hid ▸ hlt, hid ▸ howing⟩

/-- The engine has been closed, and is still to be counted. -/
theorem Owing.closeInbox {e : Engine} (h : Owing s ids (some e.id)) (hlt : e.id < s.inboxes.size) :
    Owing (e.closeInbox s).1 ids none := by
  refine ⟨h.closes, fun id hid _ => ?_, h.phase⟩
  change ((s.setInbox e.id (s.inbox e.id).close).inbox id).isClosed = true
  by_cases heq : id = e.id
  · rw [heq, Shared.inbox_setInbox hlt]
    rfl
  · rw [Shared.inbox_setInbox_of_ne heq]
    exact h.closed id hid fun hsome => heq (Option.some.inj hsome)

/-- The handle is published: the engine is in charge now, and is the last one to be counted. -/
theorem Accounts.publish {id : Nat} (h : Accounts w s ids)
    (hstep : w.step s = (t, w', s', signals)) (hpublishes : w.publishes = some id) :
    Accounts w' s' (ids ++ [id]) := by
  have hstands := h.stands
  obtain ⟨path, interval, engine, stage⟩ := w
  cases stage with
  | publish =>
    obtain ⟨hsettled, e, rfl, hlt⟩ := hstands
    obtain rfl := Option.some.inj hpublishes
    cases hstep
    refine ⟨⟨fun _ => .inl rfl, fun _ => rfl⟩, nofun, e, rfl, hlt, ?_, fun id hid hne => ?_,
      .inl rfl⟩
    · change s.slot.closes + 1 = (ids ++ [e.id]).length
      rw [List.length_append, hsettled.closes]
      rfl
    · -- all engines but the one just published were closed before
      rcases List.mem_append.mp hid with hold | hnew
      · exact hsettled.closed id hold
      · exact absurd (congrArg some (List.mem_singleton.mp hnew)) hne
  | _ => cases hpublishes

/-- **A step at which no handle is published** keeps the accounts. -/
theorem Accounts.quiet (h : Accounts w s ids) (hsteps : w.Steps s w' s')
    (hpublishes : w.publishes = none) : Accounts w' s' ids := by
  -- a turn of the engine leaves the slot to the worker
  have hstable : ∀ {s₀ : Shared}, s.Stable s₀ →
      (s₀.slot.handle.isSome = true ↔ s₀.slot.phase = .loading ∨ s₀.slot.phase = .running)
        ∧ (s₀.slot.phase = .running → s₀.slot.robotStarted = true) := by
    intro s₀ ha
    rw [ha.slot]
    exact ⟨h.handle, h.started⟩
  obtain ⟨hhandle, hstarted, hstands⟩ := h
  obtain ⟨path, interval, engine, stage⟩ := w
  cases hsteps with
  | cannotOpen hstage =>
    -- there is no interpreter: nothing is published, and nothing is to be closed
    cases hstage
    exact ⟨hhandle, hstarted, hstands.1⟩
  | opens hstage =>
    cases hstage
    have ha := (Shared.Alike.newInbox s).toStable
    refine ⟨(hstable ha).1, (hstable ha).2, hstands.1.stable ha, _, rfl, ?_⟩
    change s.inboxes.size < (s.inboxes.push {}).size
    rw [Array.size_push]
    exact Nat.lt_succ_self _
  | passesOver hengine hover =>
    -- from the time it is opened, the worker has its engine until that is closed
    cases hengine
    cases hover with
    | publish =>
      obtain ⟨-, e, he, -⟩ := hstands
      cases he
    | load | drive | closeInbox result =>
      obtain ⟨e, he, -⟩ := hstands
      cases he
    | closeEngine result => exact ⟨hhandle, hstarted, hstands⟩
  | publishes hstage hengine =>
    cases hstage
    cases hengine
    cases hpublishes
  | loads hstage hengine hid =>
    cases hstage
    cases hengine
    exact ⟨hhandle, hstarted, InCharge.engine hstands hid⟩
  | cannotLoad hstage =>
    cases hstage
    exact ⟨hhandle, hstarted, hstands⟩
  | drives hstage hengine hturn hid hdrives =>
    cases hstage
    cases hengine
    obtain ⟨-, halike, -⟩ := Engine.turn_alike hturn
    obtain ⟨hhandle₀, hstarted₀⟩ := hstable halike.toStable
    -- wherever the program goes next, the engine stays in charge
    have hcharge := (InCharge.stable hstands halike.toStable).engine hid
    cases hdrives with
    | goesOn => exact ⟨hhandle₀, hstarted₀, hcharge⟩
    | ready r => exact ⟨hhandle₀, hstarted₀, hcharge.stable (.setInbox _ _ rfl)⟩
    | ends h => exact ⟨hhandle₀, hstarted₀, hcharge⟩
  | marks hstage =>
    cases hstage
    obtain ⟨e, rfl, hlt, howing⟩ := hstands
    -- the phase goes from loading to running, and the handle stays where it is
    exact ⟨⟨fun _ => .inr rfl, fun _ => hhandle.mpr howing.phase⟩, fun _ => rfl, e, rfl, hlt,
      howing.closes, howing.closed, .inr rfl⟩
  | @enters r hstage =>
    cases hstage
    have hcharge : InCharge engine s ids := hstands
    obtain ⟨e, rfl, -⟩ := hstands
    exact ⟨hhandle, hstarted, hcharge.engine (Engine.id_begins (.start r))⟩
  | closes hstage hengine hid hnext =>
    cases hstage
    cases hengine
    obtain ⟨e, he, hlt, howing⟩ := hstands
    cases he
    have hclosed := howing.closeInbox hlt
    -- there may be finalizers to run, or none
    rcases hnext with rfl | rfl
    · exact ⟨hhandle, hstarted, hclosed⟩
    · exact ⟨hhandle, hstarted, hclosed⟩
  | finalizes hstage hengine hturn hid hnext =>
    cases hstage
    obtain ⟨-, halike, -⟩ := Engine.turn_alike hturn
    obtain ⟨hhandle₀, hstarted₀⟩ := hstable halike.toStable
    have howing := Owing.stable hstands halike.toStable
    rcases hnext with rfl | rfl
    · exact ⟨hhandle₀, hstarted₀, howing⟩
    · exact ⟨hhandle₀, hstarted₀, howing⟩
  | counts hstage =>
    cases hstage
    exact ⟨hhandle, hstarted, hstands.closes, fun id hid => hstands.closed id hid nofun⟩
  | fails hstage | succeeds hstage =>
    cases hstage
    exact ⟨hhandle, hstarted, hstands⟩
  | tells hstage | panics hstage =>
    cases hstage
    exact ⟨hhandle, hstarted, hstands.closes, hstands.closed⟩
  | finishes hstage =>
    -- the handle is withdrawn and the phase set in one step, so no snapshot sees one without
    -- the other
    cases hstage
    refine ⟨⟨nofun, ?_⟩, nofun, ⟨hstands.closes, hstands.closed⟩, rfl⟩
    rintro (hphase | hphase)
    · cases hphase
    · cases hphase
  | asksExit hstage =>
    cases hstage
    exact ⟨hhandle, hstarted, ⟨hstands.1.closes, hstands.1.closed⟩, hstands.2⟩

/-- **Each step keeps the accounts.** -/
theorem Accounts.step (h : Accounts w s ids) (hgo : w.result? = none)
    (hstep : w.step s = (t, w', s', signals)) : Accounts w' s' (ids ++ w.publishes.toList) := by
  cases hpublishes : w.publishes with
  | some id => exact h.publish hstep hpublishes
  | none =>
    change Accounts w' s' (ids ++ [])
    rw [List.append_nil]
    exact h.quiet (steps hgo hstep) hpublishes

/-! ### The request to leave the main loop -/

/-- An exit is asked for by a call of the host. -/
theorem asksExit_iff : w.asksExit s = true ↔ .requestExit ∈ w.stage.hostCalls := by
  -- what a stage calls is read off the signals of its step, where the request is looked for
  rw [← hostCalls_step (rfl : w.step s = (_, _, _, _))]
  unfold asksExit hostCalls
  rw [List.any_eq_true, List.mem_filterMap]
  constructor
  · rintro ⟨g, hg, hask⟩
    refine ⟨g, hg, ?_⟩
    split at hask
    · rfl
    · cases hask
  · rintro ⟨g, hg, hcall⟩
    refine ⟨g, hg, ?_⟩
    cases g with
    | host c =>
      obtain rfl : c = .requestExit := Option.some.inj hcall
      rfl
    | _ => cases hcall

/-- Only one stage asks for it. -/
theorem asksExit_eq_false (h : ∀ result, w.stage ≠ .requestExit result) : w.asksExit s = false := by
  rw [Bool.eq_false_iff, Ne, asksExit_iff]
  intro hmem
  cases hstage : w.stage with
  | requestExit result => exact h result hstage
  | sendError e =>
    rw [hstage] at hmem
    cases List.mem_singleton.mp hmem
  | _ =>
    rw [hstage] at hmem
    cases hmem

/-- Every other step leaves something to do. -/
theorem Steps.goesOn (hsteps : w.Steps s w' s') (h : ∀ result, w.stage ≠ .requestExit result) :
    w'.result? = none := by
  cases hsteps with
  | passesOver hengine hover =>
    obtain ⟨path, interval, engine, stage⟩ := w
    cases hover with
    | _ => rfl
  | drives hstage hengine hturn hid hdrives =>
    cases hdrives with
    | _ => rfl
  | closes hstage hengine hid hnext =>
    -- whether the thread dies at the end of the engine or not, the session goes on
    rcases hnext with rfl | rfl
    · rfl
    · rfl
  | finalizes hstage hengine hturn hid hnext =>
    rcases hnext with rfl | rfl
    · rfl
    · rfl
  | asksExit hstage => exact absurd hstage (h _)
  | _ => rfl

/-- **The last step of a run** asks the host to leave its main loop, and no other one does. -/
theorem exit_cases (hgo : w.result? = none) (hstep : w.step s = (t, w', s', signals)) :
    (∃ result, w.stage = .requestExit result ∧ w.asksExit s = true ∧ w'.stage = .done result)
      ∨ w.asksExit s = false ∧ w'.result? = none := by
  by_cases hlast : ∃ result, w.stage = .requestExit result
  · obtain ⟨result, hstage⟩ := hlast
    have hask : w.asksExit s = true := by
      rw [asksExit_iff, hstage]
      exact List.mem_singleton.mpr rfl
    refine .inl ⟨result, hstage, hask, ?_⟩
    unfold Worker.step at hstep
    rw [hstage] at hstep
    cases hstep
    rfl
  · -- at any other stage the worker goes on, and asks for nothing
    have hother := not_exists.mp hlast
    exact .inr ⟨asksExit_eq_false hother, (steps hgo hstep).goesOn hother⟩

/-- A worker that is done has a result. -/
theorem result?_of_done {result : WorkerResult} (h : w.stage = .done result) :
    w.result? = some result := by
  unfold result?
  rw [h]

/-- A worker with a result is done. -/
theorem done_of_isSome (h : w.result?.isSome = true) : ∃ result, w.stage = .done result := by
  unfold result? at h
  split at h
  · exact ⟨_, ‹_›⟩
  · cases h

/-- The log's answer keeps the accounts. -/
theorem Accounts.logged (h : Accounts w s ids) (panic : Option Payload) :
    Accounts (w.logged panic) s ids := by
  obtain ⟨hhandle, hstarted, hstands⟩ := h
  refine ⟨hhandle, hstarted, ?_⟩
  have hstage : (w.logged panic).stage = w.stage := rfl
  unfold Stands at hstands ⊢
  rw [hstage]
  -- only these two parts speak of the engine, which keeps its number when it has written a line
  cases hpart : w.stage.part with
  | opened =>
    rw [hpart] at hstands
    obtain ⟨hsettled, e, hengine, hlt⟩ := hstands
    refine ⟨hsettled, e.logged panic, ?_, hlt⟩
    exact congrArg (Option.map _) hengine
  | working =>
    rw [hpart] at hstands
    obtain ⟨e, hengine, hlt, howing⟩ := hstands
    exact ⟨e.logged panic, congrArg (Option.map _) hengine, hlt, howing⟩
  | _ =>
    rw [hpart] at hstands
    exact hstands

/-- **The slot is sound** by what the accounts say. -/
theorem Accounts.sound (h : Accounts w s ids) : s.SlotSound ids := by
  have hstands := h.stands
  -- between two engines all are counted, and while one is in charge it is still owed
  have hsettled : Settled s ids → s.SlotSound ids := fun hs =>
    { handle := h.handle
      started := h.started
      finished := fun hphase => by
        refine ⟨?_, hs.closed, hs.closes⟩
        cases hhandle : s.slot.handle with
        | none => rfl
        | some id =>
          have hphases := h.handle.mp (by rw [hhandle]; rfl)
          rw [hphase] at hphases
          rcases hphases with hp | hp <;> cases hp
      closes_le := Nat.le_of_eq hs.closes
      le_closes := hs.closes ▸ Nat.le_succ _ }
  have howing : ∀ {last}, Owing s ids last → s.SlotSound ids := fun ho =>
    { handle := h.handle
      started := h.started
      finished := fun hphase => by
        have hphases := ho.phase
        rw [hphase] at hphases
        rcases hphases with hp | hp <;> cases hp
      closes_le := Nat.le_of_lt (Nat.lt_of_lt_of_eq (Nat.lt_succ_self _) ho.closes)
      le_closes := Nat.le_of_eq ho.closes.symm }
  unfold Stands at hstands
  split at hstands
  · exact hsettled hstands.1
  · exact hsettled hstands.1
  · obtain ⟨e, -, -, ho⟩ := hstands
    exact howing ho
  · exact howing hstands
  · exact hsettled hstands
  · exact hsettled hstands.1

end Worker

/-! ### Runs -/

namespace Runner

variable {w : Worker} {s s₀ : Shared} {happened : List WorkerDeed} {path : ByteArray}
  {interval : Nat}

/-- The accounts of a runner, and the requests to leave the main loop: one for each run that
has ended. -/
structure Accounts (happened : List WorkerDeed) (x : Worker × Shared) : Prop where
  accounts : x.1.Accounts x.2 (published happened)
  exits : exits happened = restarts happened + if x.1.result?.isSome then 1 else 0

/-- **The accounts are kept** by every move. -/
theorem Accounts.move {x y : Worker × Shared} {l : WorkerDeed} (h : Accounts happened x)
    (hmove : Move x l y) : Accounts (happened ++ [l]) y := by
  obtain ⟨haccounts, hexits⟩ := h
  -- what is not a step of the worker publishes nothing
  have helsewhere : ∀ {y : Worker × Shared}, y.1.Accounts y.2 (published happened) →
      y.1.Accounts y.2 (published happened ++ []) := by
    intro y hy
    rw [List.append_nil]
    exact hy
  cases hmove with
  | worker hmove =>
    cases hmove with
    | step hgo hstep =>
      refine ⟨?_, ?_⟩
      · rw [published_append, published_step]
        exact haccounts.step hgo hstep
      · rw [exits_append, exits_step, restarts_append, hexits, hgo]
        rcases Worker.exit_cases hgo hstep with ⟨result, -, hasks, hdone⟩ | ⟨hasks, hgo'⟩
        · rw [hasks, Worker.result?_of_done hdone]
          rfl
        · rw [hasks, hgo']
          rfl
    | logged panic =>
      refine ⟨?_, ?_⟩
      · rw [published_append]
        exact helsewhere (haccounts.logged panic)
      · rw [exits_append, restarts_append]
        exact hexits
    | elsewhere halike =>
      refine ⟨?_, ?_⟩
      · rw [published_append]
        exact helsewhere (haccounts.stable halike.toStable)
      · rw [exits_append, restarts_append]
        exact hexits
  | again hdone path fault panics =>
    refine ⟨?_, ?_⟩
    · rw [published_append]
      have hstands := haccounts.stands
      unfold Worker.Stands at hstands
      rw [hdone] at hstands
      exact helsewhere ⟨haccounts.handle, haccounts.started,
        ⟨hstands.1.closes, hstands.1.closed⟩, .inr hstands.2⟩
    · -- the run that has ended is counted among the restarts from now on
      rw [exits_append, restarts_append, hexits, Worker.result?_of_done hdone]
      rfl

/-- So they are by every run. -/
theorem Accounts.run {x y : Worker × Shared} {later : List WorkerDeed} (h : Accounts happened x)
    (hrun : Run Move x later y) : Accounts (happened ++ later) y := by
  induction hrun with
  | refl =>
    rw [List.append_nil]
    exact h
  | tail run step ih =>
    rw [← List.append_assoc]
    exact ih.move step

/-- **Every snapshot of the slot is sound**, at every point of any number of runs. A run that
has ended, by returning or by a panic that goes on, has left the phase `finished`; and it
has asked the host once to leave its main loop, after that. -/
theorem slot_sound (hslot : s₀.slot = {})
    (hrun : Run Move ({ path, interval }, s₀) happened (w, s)) :
    s.SlotSound (published happened)
      ∧ (∀ {result}, w.stage = .done result →
        s.slot.phase = .finished ∧ exits happened = restarts happened + 1)
      ∧ (w.result? = none → exits happened = restarts happened)
      ∧ (w.asksExit s = true → w.result? = none → s.slot.phase = .finished) := by
  have hstart : Accounts [] ({ path, interval }, s₀) := by
    refine ⟨⟨?_, ?_, ⟨?_, nofun⟩, .inl ?_⟩, rfl⟩
    all_goals rw [hslot]
    · exact ⟨nofun, fun h => by rcases h with h | h <;> cases h⟩
    · exact nofun
    · rfl
  obtain ⟨haccounts, hexits⟩ := hstart.run hrun
  have hstands := haccounts.stands
  unfold Worker.Stands at hstands
  -- the accounts know the phase at the last stage, and the number of requests at each
  refine ⟨haccounts.sound, fun hdone => ?_, fun hgo => ?_, fun hasks hgo => ?_⟩
  · rw [hdone] at hstands
    rw [Worker.result?_of_done hdone] at hexits
    exact ⟨hstands.2, hexits⟩
  · rw [hgo] at hexits
    exact hexits
  · obtain ⟨result, hstage, -⟩ | ⟨hquiet, -⟩ :=
      Worker.exit_cases hgo (rfl : w.step s = (_, _, _, _))
    · rw [hstage] at hstands
      exact hstands.2
    · rw [hasks] at hquiet
      cases hquiet

/-- The moves of one program are moves of the runner, which starts no other one. -/
theorem run_of_worker {x y : Worker × Shared} (hrun : Run Worker.Move x happened y) :
    Run Move x happened y ∧ restarts happened = 0 := by
  induction hrun with
  | refl => exact ⟨.refl, rfl⟩
  | tail run step ih =>
    obtain ⟨hrun, hzero⟩ := ih
    refine ⟨.tail hrun (.worker step), ?_⟩
    rw [restarts_append, hzero]
    -- none of these is a restart
    cases step with
    | step => rfl
    | logged => rfl
    | elsewhere => rfl

/-- A program that is not there is run twice, and all is in order after the second run. -/
theorem slot_sound_missing : ∃ happened w s,
    Run Move ({ path := .empty, interval := 1000 }, {}) happened (w, s) ∧ restarts happened = 1
      ∧ s.SlotSound (published happened) ∧ exits happened = 2 := by
  -- the file is missing, so that both runs end after a few steps
  let first := Worker.advance 10 { path := .empty, interval := 1000 } {}
  let second := Worker.advance 10 { path := .empty, interval := first.1.interval }
    { first.2 with engineFault := none, panicsOnReport := false }
  have hfirst : first.1.result?.isSome = true := by decide +kernel
  have hsecond : second.1.result?.isSome = true := by decide +kernel
  obtain ⟨before, hbefore⟩ := Worker.run_advance 10 { path := .empty, interval := 1000 } {}
  obtain ⟨after, hafter⟩ := Worker.run_advance 10
    { path := .empty, interval := first.1.interval }
    { first.2 with engineFault := none, panicsOnReport := false }
  obtain ⟨hbefore, hnone⟩ := run_of_worker hbefore
  obtain ⟨hafter, hnone'⟩ := run_of_worker hafter
  obtain ⟨result, hdone⟩ := Worker.done_of_isSome hfirst
  obtain ⟨result', hdone'⟩ := Worker.done_of_isSome hsecond
  -- the second run begins where the first has ended, with a worker that has not begun
  have hrun := (hbefore.tail (.again hdone .empty none false)).trans hafter
  obtain ⟨hsound, hend, -⟩ := slot_sound rfl hrun
  have hrestarts : restarts (before ++ [.again] ++ after) = 1 := by
    unfold restarts at hnone hnone' ⊢
    rw [List.countP_append, List.countP_append, hnone, hnone']
    rfl
  refine ⟨_, _, _, hrun, hrestarts, hsound, ?_⟩
  rw [(hend hdone').2, hrestarts]

end Runner
end RobotSession
