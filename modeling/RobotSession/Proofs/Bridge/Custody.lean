import RobotSession.Proofs.Bridge.Interleaving
import RobotSession.Proofs.Bridge.Pipeline

/-!
# The engine of a session

A session opens one engine, if an interpreter can be made, and publishes one handle. So there is
one inbox of the session, known by its number before the engine is opened: what the controller
posts goes there, and what the engine takes comes from there. A call is taken at most as often
as it was posted, whether the engine is open, closed, or left alone.

* `Worker.Custody` — the number of the session's inbox, at each part of a run.
* `Worker.Custody.step` — each step of the program keeps to that inbox.
* `Worker.sublist_posted` — what was taken was posted.
-/

namespace RobotSession

open Lua

/-- A number under which there is no inbox yet reads as an empty inbox. -/
theorem Shared.inbox_newInbox (s : Shared) (id : Nat) : s.newInbox.2.inbox id = s.inbox id := by
  unfold Shared.newInbox Shared.inbox
  rw [Array.getD_eq_getD_getElem?, Array.getD_eq_getD_getElem?, Array.getElem?_push]
  split
  · rename_i hid
    rw [hid, Array.getElem?_eq_none (Nat.le_refl _)]
    rfl
  · rfl

namespace Worker

variable {w w' : Worker} {s s' : Shared} {n : Nat} {ids : List Nat}

/-- How many handles have been published at each part of a run. -/
def Custody.Part (w : Worker) (s : Shared) (n : Nat) (ids : List Nat) : Prop :=
  match w.stage.part with
  | .before => s.inboxes.size = n ∧ ids = []
  | .opened => s.engineFault = none ∧ w.engine.isSome = true ∧ ids = []
  | .working => s.engineFault = none ∧ ids = [n]
  | .closing => s.engineFault = none ∧ ids = [n]
  | .after => ids = if s.engineFault.isNone then [n] else []
  | .finished => ids = if s.engineFault.isNone then [n] else []

/-- **The engine of a session** has the next inbox there is. -/
structure Custody (n : Nat) (w : Worker) (s : Shared) (ids : List Nat) : Prop where
  engine : ∀ e ∈ w.engine, e.id = n ∧ n < s.inboxes.size
  handle : ∀ id ∈ s.slot.handle, id = n ∧ id ∈ ids
  part : Custody.Part w s n ids

/-- A turn of the engine neither makes an inbox nor touches the slot. -/
theorem frame_of_turn {e e₁ : Engine} {t : Turn} {signals : List Signal}
    (h : e.turn s = (t, e₁, s', signals)) :
    s'.inboxes.size = s.inboxes.size ∧ s'.slot = s.slot ∧ s'.engineFault = s.engineFault := by
  rcases Engine.turn_shared h with ⟨-, clock, rfl⟩ | ⟨-, rfl⟩
  · exact ⟨rfl, rfl, rfl⟩
  · exact ⟨Shared.size_setInbox .., rfl, rfl⟩

/-- The engine has gone on, and no inbox has been made. -/
theorem Custody.engine_of_kept {engine : Option Engine} (h : Custody n w s ids)
    (hsize : s'.inboxes.size = s.inboxes.size)
    (hfrom : ∀ e ∈ engine, ∃ e₀ ∈ w.engine, e.id = e₀.id) :
    ∀ e ∈ engine, e.id = n ∧ n < s'.inboxes.size := by
  intro e hmem
  obtain ⟨e₀, hmem₀, hid⟩ := hfrom e hmem
  obtain ⟨hn, hlt⟩ := h.engine e₀ hmem₀
  rw [hsize, hid]
  exact ⟨hn, hlt⟩

/-- **A step at which no handle is published** keeps to the inbox of the session. -/
theorem Custody.quiet (h : Custody n w s ids) (hpublishes : w.publishes = none)
    (hsteps : w.Steps s w' s') : Custody n w' s' ids := by
  have hpart := h.part
  have hsome : ∀ {e e' : Engine}, w.engine = some e → e'.id = e.id →
      ∀ e'' ∈ some e', ∃ e₀ ∈ w.engine, e''.id = e₀.id := by
    intro e e' hengine hid e'' hmem
    rw [← Option.some.inj hmem]
    exact ⟨e, hengine, hid⟩
  have hoption : ∀ {e : Engine} {engine : Option Engine}, w.engine = some e →
      (∀ e' ∈ engine, e'.id = e.id) → ∀ e' ∈ engine, ∃ e₀ ∈ w.engine, e'.id = e₀.id :=
    fun hengine hid e' hmem => ⟨_, hengine, hid e' hmem⟩
  unfold Custody.Part at hpart
  cases hsteps with
  | cannotOpen hstage hfault =>
    rw [hstage] at hpart
    refine ⟨h.engine, h.handle, ?_⟩
    show ids = if s.engineFault.isNone then [n] else []
    rw [hfault]
    exact hpart.2
  | opens hstage hfault =>
    rw [hstage] at hpart
    obtain ⟨hsize, hids⟩ := hpart
    refine ⟨?_, h.handle, hfault, rfl, hids⟩
    intro e hmem
    obtain rfl := Option.some.inj hmem
    refine ⟨hsize, ?_⟩
    show n < (s.inboxes.push {}).size
    rw [Array.size_push, hsize]
    exact Nat.lt_succ_self n
  | @passesOver stage hengine hover =>
    refine ⟨h.engine, h.handle, ?_⟩
    obtain ⟨path, interval, engine, before⟩ := w
    obtain rfl : engine = none := hengine
    cases hover with
    | publish => exact nomatch hpart.2.1
    | load => exact hpart
    | drive => exact hpart
    | closeInbox result => exact hpart
    | closeEngine result => exact hpart
  | publishes hstage hengine =>
    unfold publishes at hpublishes
    rw [hstage, hengine] at hpublishes
    cases hpublishes
  | loads hstage hengine hid =>
    rw [hstage] at hpart
    exact ⟨h.engine_of_kept rfl (hsome hengine hid), h.handle, hpart⟩
  | cannotLoad hstage | marks hstage | fails hstage | succeeds hstage | tells hstage | panics hstage
  | asksExit hstage =>
    rw [hstage] at hpart
    exact ⟨h.engine, h.handle, hpart⟩
  | drives hstage hengine hturn hid hdrives =>
    rw [hstage] at hpart
    obtain ⟨hsize, hslot, hfault⟩ := frame_of_turn hturn
    have hhandle := h.handle
    rw [← hslot] at hhandle
    rw [← hfault] at hpart
    cases hdrives with
    | goesOn => exact ⟨h.engine_of_kept hsize (hsome hengine hid), hhandle, hpart⟩
    | ready r =>
      refine ⟨h.engine_of_kept ?_ (hsome hengine hid), hhandle, hpart⟩
      rw [Shared.size_setInbox, hsize]
    | ends hpanicked => exact ⟨h.engine_of_kept hsize (hsome hengine hid), hhandle, hpart⟩
  | enters hstage =>
    rw [hstage] at hpart
    refine ⟨h.engine_of_kept rfl ?_, h.handle, hpart⟩
    intro e' hmem
    obtain ⟨e, hengine, rfl⟩ := Option.map_eq_some_iff.mp hmem
    exact ⟨e, hengine, rfl⟩
  | @closes e engine result stage hstage hengine hid hnext =>
    rw [hstage] at hpart
    have hsize : (s.setInbox e.id (s.inbox e.id).close).inboxes.size = s.inboxes.size :=
      Shared.size_setInbox ..
    rcases hnext with rfl | rfl
    · exact ⟨h.engine_of_kept hsize (hoption hengine hid), h.handle, hpart⟩
    · exact ⟨h.engine_of_kept hsize (hoption hengine hid), h.handle, hpart⟩
  | finalizes hstage hengine hturn hid hnext =>
    rw [hstage] at hpart
    obtain ⟨hsize, hslot, hfault⟩ := frame_of_turn hturn
    have hhandle := h.handle
    rw [← hslot] at hhandle
    rw [← hfault] at hpart
    rcases hnext with rfl | rfl
    · exact ⟨h.engine_of_kept hsize (hoption hengine hid), hhandle, hpart⟩
    · exact ⟨h.engine_of_kept hsize (hoption hengine hid), hhandle, hpart⟩
  | counts hstage =>
    rw [hstage] at hpart
    refine ⟨h.engine, h.handle, ?_⟩
    obtain ⟨hfault, hids⟩ := hpart
    show ids = if s.engineFault.isNone then [n] else []
    rw [hfault]
    exact hids
  | finishes hstage =>
    -- the handle is withdrawn
    rw [hstage] at hpart
    exact ⟨h.engine, fun id hmem => absurd hmem (Option.not_mem_none id), hpart⟩

/-- **The step at which the handle is published.** -/
theorem Custody.publish {id : Nat} (h : Custody n w s ids) (hpublishes : w.publishes = some id)
    (hsteps : w.Steps s w' s') : Custody n w' s' (ids ++ [id]) := by
  have hpart := h.part
  obtain ⟨path, interval, engine, stage⟩ := w
  cases stage with
  | publish =>
    obtain ⟨hfault, hengine, rfl⟩ := hpart
    cases engine with
    | none => cases hengine
    | some e =>
      obtain rfl := Option.some.inj hpublishes
      obtain ⟨hid, hlt⟩ := h.engine e rfl
      -- of all steps only this one has a stage that publishes, and an engine to do it with
      cases hsteps with
      | publishes hstage hsome =>
        obtain rfl := Option.some.inj hsome
        refine ⟨h.engine, ?_, hfault, ?_⟩
        · intro id hmem
          obtain rfl := Option.some.inj hmem
          exact ⟨hid, List.mem_singleton.mpr rfl⟩
        · rw [hid]
          rfl
      | passesOver hnone => cases hnone
      | _ => contradiction
  | _ => cases hpublishes

/-- **Each step keeps to the inbox of the session.** -/
theorem Custody.step (h : Custody n w s ids) (hsteps : w.Steps s w' s') :
    Custody n w' s' (ids ++ w.publishes.toList) := by
  cases hpublishes : w.publishes with
  | some id => exact h.publish hpublishes hsteps
  | none =>
    show Custody n w' s' (ids ++ [])
    rw [List.append_nil]
    exact h.quiet hpublishes hsteps

/-! ### The calls of a session -/

/-- Only a turn of the engine takes calls. -/
theorem takes_eq_none (hdrive : w.stage ≠ .drive) (hclose : ∀ result, w.stage ≠ .closeEngine result) :
    w.takes s = none := by
  unfold takes
  split
  · exact absurd ‹_› hdrive
  · exact absurd ‹_› (hclose _)
  · rfl

/-- **What a step leaves of the queue** comes after the call that it takes. -/
theorem Custody.sublist_queue (h : Custody n w s ids) (hsteps : w.Steps s w' s') :
    ((w.takes s).toList ++ (s'.inbox n).queue).Sublist (s.inbox n).queue := by
  have hnone : ∀ {s' : Shared} {stage : Stage}, w.stage = stage → stage ≠ .drive →
      (∀ result, stage ≠ .closeEngine result) → s'.inbox n = s.inbox n →
      ((w.takes s).toList ++ (s'.inbox n).queue).Sublist (s.inbox n).queue := by
    rintro s' stage rfl hdrive hclose hsame
    have hqueue : (w.takes s).toList ++ (s'.inbox n).queue = (s.inbox n).queue := by
      rw [takes_eq_none hdrive hclose, hsame]
      rfl
    exact hqueue ▸ List.Sublist.refl _
  -- a turn of the engine takes the oldest call out of this inbox, or none
  have hturned : ∀ {e e₁ : Engine} {s₁ : Shared} {t : Turn} {signals : List Signal},
      w.engine = some e → e.turn s = (t, e₁, s₁, signals) →
      (e.takes s).toList ++ (s₁.inbox n).queue = (s.inbox n).queue := by
    intro e e₁ s₁ t signals hengine hturn
    obtain ⟨rfl, hlt⟩ := h.engine e hengine
    rcases Engine.turn_shared hturn with ⟨htakes, clock, rfl⟩ | ⟨htakes, rfl⟩
    · rw [htakes]
      rfl
    · rw [htakes, Shared.inbox_setInbox hlt, Inbox.pop_queue]
  cases hsteps with
  | cannotOpen hstage => exact hnone hstage nofun nofun rfl
  | opens hstage => exact hnone hstage nofun nofun (s.inbox_newInbox n)
  | passesOver hengine hover =>
    have htakes : w.takes s = none := by
      unfold takes
      rw [hengine]
      split
      · contradiction
      · contradiction
      · rfl
    rw [htakes]
    exact .refl _
  | publishes hstage => exact hnone hstage nofun nofun rfl
  | loads hstage => exact hnone hstage nofun nofun rfl
  | cannotLoad hstage => exact hnone hstage nofun nofun rfl
  | @drives e e₁ e' s₁ s' t signals stage hstage hengine hturn hid hdrives =>
    have htakes : w.takes s = e.takes s := by
      unfold takes
      rw [hstage, hengine]
    have hqueue := hturned hengine hturn
    rw [← htakes] at hqueue
    cases hdrives with
    | goesOn => exact hqueue ▸ List.Sublist.refl _
    | ends hpanicked => exact hqueue ▸ List.Sublist.refl _
    | ready r =>
      -- binding the robot leaves the queue as it is
      have hbind : ((s₁.setInbox e.id (s₁.inbox e.id).bind).inbox n).queue = (s₁.inbox n).queue := by
        rcases Shared.inbox_setInbox_cases s₁ e.id n (s₁.inbox e.id).bind with ⟨hb, rfl⟩ | hsame
        · rw [hb]
          rfl
        · rw [hsame]
      rw [← hbind] at hqueue
      exact hqueue ▸ List.Sublist.refl _
  | marks hstage => exact hnone hstage nofun nofun rfl
  | enters hstage => exact hnone hstage nofun nofun rfl
  | @closes e engine result stage hstage hengine hid hnext =>
    rw [takes_eq_none (hstage ▸ nofun) (hstage ▸ nofun)]
    -- what is still queued is discarded
    rcases Shared.inbox_setInbox_cases s e.id n (s.inbox e.id).close with ⟨hb, -⟩ | hsame
    · rw [hb]
      exact List.nil_sublist _
    · rw [hsame]
      exact .refl _
  | @finalizes e e₁ engine s₁ t signals result stage hstage hengine hturn hid hnext =>
    have htakes : w.takes s = e.takes s := by
      unfold takes
      rw [hstage, hengine]
    have hqueue := hturned hengine hturn
    rw [← htakes] at hqueue
    exact hqueue ▸ List.Sublist.refl _
  | counts hstage => exact hnone hstage nofun nofun rfl
  | fails hstage => exact hnone hstage nofun nofun rfl
  | succeeds hstage => exact hnone hstage nofun nofun rfl
  | tells hstage => exact hnone hstage nofun nofun rfl
  | panics hstage => exact hnone hstage nofun nofun rfl
  | finishes hstage => exact hnone hstage nofun nofun rfl
  | asksExit hstage => exact hnone hstage nofun nofun rfl

/-! ### Runs -/

/-- **The inbox of a session over a run**: what was taken and what is queued was posted, in this
order. -/
structure Kept (n : Nat) (happened : List SessionDeed) (x : Worker × Shared) : Prop where
  custody : Custody n x.1 x.2 (published (happened.map SessionDeed.ofWorker))
  calls : (delivered happened ++ (x.2.inbox n).queue).Sublist (posted happened)

theorem published_map_append (happened : List SessionDeed) (l : SessionDeed) :
    published ((happened ++ [l]).map SessionDeed.ofWorker)
      = published (happened.map SessionDeed.ofWorker) ++ published [l.ofWorker] := by
  rw [List.map_append]
  exact published_append _ _

namespace Kept

variable {happened : List SessionDeed} {x y : Worker × Shared} {l : SessionDeed}

/-- What is not a step of the program, and posts nothing. -/
theorem aside (h : Kept n happened x) (hl : published [l.ofWorker] = []) (hd : delivered [l] = [])
    (hp : posted [l] = []) (hcustody : ∀ {ids}, Custody n x.1 x.2 ids → Custody n y.1 y.2 ids)
    (hqueue : (y.2.inbox n).queue = (x.2.inbox n).queue) : Kept n (happened ++ [l]) y := by
  refine ⟨?_, ?_⟩
  · rw [published_map_append, hl, List.append_nil]
    exact hcustody h.custody
  · rw [delivered_append, posted_append, hd, hp, List.append_nil, List.append_nil, hqueue]
    exact h.calls

/-- The controller posts a call through the handle in the slot. -/
theorem asksEnd {id : Nat} (h : Kept n happened (w, s)) (hhandle : s.slot.handle = some id) :
    Kept n (happened ++ [.asksEnd (s.post id .finish).1]) (w, (s.post id .finish).2) := by
  obtain ⟨rfl, hmem⟩ := h.custody.handle id hhandle
  have hsize : (s.post id .finish).2.inboxes.size = s.inboxes.size := Shared.size_setInbox ..
  refine ⟨?_, ?_⟩
  · rw [published_map_append]
    show Custody id w (s.post id .finish).2 (published _ ++ [])
    rw [List.append_nil]
    obtain ⟨hengine, hslot, hpart⟩ := h.custody
    refine ⟨?_, hslot, ?_⟩
    · rw [hsize]
      exact hengine
    · unfold Custody.Part at hpart ⊢
      rw [hsize]
      exact hpart
  · rw [delivered_append, posted_append]
    show (delivered happened ++ [] ++ ((s.post id .finish).2.inbox id).queue).Sublist _
    rw [List.append_nil]
    have hcalls := h.calls
    change (delivered happened ++ ((s.setInbox id ((s.inbox id).post .finish).2).inbox id).queue).Sublist
      (posted happened ++ posted [.asksEnd ((s.inbox id).post .finish).1])
    rcases (s.inbox id).post_cases .finish with ⟨hpost, -, -⟩ | ⟨hrefused, hsame⟩
    · -- an accepted call is the last one that is queued
      rw [hpost]
      show List.Sublist _ (posted happened ++ [Invocation.finish])
      rcases Shared.inbox_setInbox_cases s id id _ with ⟨hb, -⟩ | hb
      · rw [hb]
        show (delivered happened ++ ((s.inbox id).queue ++ [Invocation.finish])).Sublist _
        rw [← List.append_assoc]
        exact hcalls.append (.refl _)
      · rw [hb]
        exact hcalls.trans (List.sublist_append_left _ _)
    · have hnone : posted [.asksEnd ((s.inbox id).post .finish).1] = [] := by
        cases hanswer : ((s.inbox id).post .finish).1 with
        | queued => exact absurd hanswer hrefused
        | notBound => rfl
        | closed => rfl
      rw [hnone, hsame, List.append_nil]
      rcases Shared.inbox_setInbox_cases s id id (s.inbox id) with ⟨hb, -⟩ | hb
      · rw [hb]
        exact hcalls
      · rw [hb]
        exact hcalls

theorem move (h : Kept n happened x) (hmove : Worker.Hosted x l y) : Kept n (happened ++ [l]) y := by
  cases hmove with
  | @step w w' s s' t signals hgo hquiet hstep =>
    have hsteps := steps hgo hstep
    refine ⟨?_, ?_⟩
    · -- what is published, and what waits and was delivered, are two halves of the invariant
      rw [published_map_append]
      show Custody n w' s' (_ ++ published [.step w s])
      rw [published_step]
      exact h.custody.step hsteps
    · rw [delivered_append, posted_append, delivered_program]
      show List.Sublist _ (posted happened ++ [])
      rw [List.append_nil, List.append_assoc]
      exact ((List.Sublist.refl _).append (h.custody.sublist_queue hsteps)).trans h.calls
  | @logged w s line panic =>
    refine h.aside rfl rfl rfl (fun hcustody => ⟨?_, hcustody.handle, ?_⟩) rfl
    · intro e' hmem
      -- writing a line leaves the engine and its number as they were
      obtain ⟨e, hengine, rfl⟩ := Option.map_eq_some_iff.mp hmem
      exact hcustody.engine e hengine
    · have hpart := hcustody.part
      unfold Custody.Part at hpart ⊢
      rw [show (w.logged panic).engine.isSome = w.engine.isSome from Option.isSome_map ..]
      exact hpart
  | host hl hdiagnostics =>
    rcases hl with ⟨rfl, -⟩ | rfl
    · exact h.aside rfl rfl rfl (fun hcustody => ⟨hcustody.engine, hcustody.handle, hcustody.part⟩)
        rfl
    · exact h.aside rfl rfl rfl (fun hcustody => ⟨hcustody.engine, hcustody.handle, hcustody.part⟩)
        rfl
  | asksEnd hhandle => exact h.asksEnd hhandle
  | clock hlater =>
    exact h.aside rfl rfl rfl (fun hcustody => ⟨hcustody.engine, hcustody.handle, hcustody.part⟩) rfl

theorem run {s₀ : Shared} {w₀ : Worker} (hstage : w₀.stage = .start) (hengine : w₀.engine = none)
    (hhandle : s₀.slot.handle = none) (hrun : Run Worker.Hosted (w₀, s₀) happened x) :
    Kept s₀.inboxes.size happened x := by
  induction hrun with
  | refl =>
    -- a queue that does not exist yet reads as an empty one
    have hempty : (s₀.inbox s₀.inboxes.size).queue = [] := by
      unfold Shared.inbox
      rw [Array.getD_eq_getD_getElem?, Array.getElem?_eq_none (Nat.le_refl _)]
      rfl
    refine ⟨⟨?_, ?_, ?_⟩, ?_⟩
    · rw [hengine]
      exact fun e hmem => absurd hmem (Option.not_mem_none e)
    · rw [hhandle]
      exact fun id hmem => absurd hmem (Option.not_mem_none id)
    · unfold Custody.Part
      dsimp only
      rw [hstage]
      exact ⟨rfl, rfl⟩
    · dsimp only
      rw [hempty]
      exact .refl _
  | tail run step ih => exact ih.move step

end Kept
/-! ### The slot -/

section Slot

variable {w₀ : Worker} {s₀ : Shared} {happened : List SessionDeed}

/-- The accounts of a session whose slot is new. -/
theorem accounts_of_run (hstage : w₀.stage = .start) (hslot : s₀.slot = {})
    (hrun : Run Hosted (w₀, s₀) happened (w, s)) :
    w.Accounts s (published (happened.map SessionDeed.ofWorker)) := by
  -- the run of a worker is one of a runner that is given nothing else to do
  have hstart : Runner.Accounts [] (w₀, s₀) := by
    refine ⟨⟨?_, ?_, ?_⟩, ?_⟩
    · dsimp only
      rw [hslot]
      exact ⟨nofun, fun h => by rcases h with h | h <;> cases h⟩
    · dsimp only
      rw [hslot]
      exact nofun
    · unfold Stands
      dsimp only
      rw [hstage, hslot]
      exact ⟨⟨by rw [hslot]; rfl, nofun⟩, .inl rfl⟩
    · unfold result?
      dsimp only
      rw [hstage]
      rfl
  obtain ⟨hrunner, -⟩ := Runner.run_of_worker (run_move hrun)
  exact (hstart.run hrunner).accounts

/-- At most one engine is counted as closed. -/
theorem closes_le (hstage : w₀.stage = .start) (hengine : w₀.engine = none) (hslot : s₀.slot = {})
    (hrun : Run Hosted (w₀, s₀) happened (w, s)) : s.slot.closes ≤ 1 := by
  have hsound := (accounts_of_run hstage hslot hrun).sound
  have hpart := (Kept.run hstage hengine (by rw [hslot]) hrun).custody.part
  refine Nat.le_trans hsound.closes_le ?_
  -- as many closes as engines published, and no stage has published more than one
  unfold Custody.Part at hpart
  dsimp only at hpart
  split at hpart
  · rw [hpart.2]
    exact Nat.zero_le 1
  · rw [hpart.2.2]
    exact Nat.zero_le 1
  · rw [hpart.2]
    exact Nat.le_refl 1
  · rw [hpart.2]
    exact Nat.le_refl 1
  all_goals
    rw [hpart]
    split
    · exact Nat.le_refl 1
    · exact Nat.zero_le 1

/-- **The slot of a program that is over**: the handle is withdrawn, and the engine is closed if
there was one. -/
theorem slot_of_done (hstage : w₀.stage = .start) (hengine : w₀.engine = none)
    (hslot : s₀.slot = {}) (hrun : Run Hosted (w₀, s₀) happened (w, s))
    (hdone : w.result?.isSome = true) :
    s.slot.phase = .finished ∧ s.slot.handle = none
      ∧ s.slot.closes = if s.engineFault.isNone then 1 else 0 := by
  have haccounts := accounts_of_run hstage hslot hrun
  have hpart := (Kept.run hstage hengine (by rw [hslot]) hrun).custody.part
  obtain ⟨result, hlast⟩ := done_of_isSome hdone
  have hstands := haccounts.stands
  unfold Stands at hstands
  unfold Custody.Part at hpart
  dsimp only at hpart
  rw [hlast] at hstands hpart
  obtain ⟨hsettled, hphase⟩ := hstands
  -- the finished slot counts what was published, and that the part of the stage knows
  obtain ⟨hnone, -, hcloses⟩ := haccounts.sound.finished hphase
  refine ⟨hphase, hnone, ?_⟩
  rw [hcloses, hpart]
  split
  · rfl
  · rfl

end Slot

end Worker
end RobotSession
