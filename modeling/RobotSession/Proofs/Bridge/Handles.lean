import RobotSession.Proofs.Bridge.Pipeline
import RobotSession.Proofs.Bridge.Steps
import RobotSession.Proofs.Engine.Constructions
import RobotSession.Proofs.Engine.Fleet

/-!
# Handles of one engine and of another

A handle may be kept for longer than its engine lives. A worker closes its engine on every path,
also if the program is left by a panic, and a runner opens the next one only after that. So a
post through a handle from an earlier run is refused, and does nothing to the engine of a later
one.

The same holds for all engines that a process opens in any other way, as long as each is in the
hands of an owner.

* `Worker.notice`, `Runner.Told` — what the runs of a runner tell of the inboxes.
* `Runner.Tends` — all engines are closed, except the one that is in use.
* `answered_of_runs` — what posts are answered, in a process and in the runs of a runner.
-/

namespace RobotSession

open Lua

/-! ### What a worker tells of its inbox -/

namespace Worker

/-- What a step of a worker tells of its inbox. -/
def notice (w w' : Worker) (s : Shared) : Notice :=
  match w.stage, w'.stage, w.engine with
  | .start, .publish, _ => .opens s.inboxes.size
  | .drive, .markRunning _, some e => .binds e.id
  | .closeInbox _, _, some e => .closes e.id
  | _, _, _ => .aside

/-- The engine that a worker has in use. -/
def inUse (w : Worker) : Option Nat :=
  match w.stage with
  | .publish | .load | .drive | .markRunning _ | .enter _ | .closeInbox _ => w.engine.map Engine.id
  | _ => none

end Worker

/-- **What the runs of a runner tell of the inboxes**: the worker takes a step, a post is made
through some handle, another program is run, or something else happens. -/
inductive Runner.Told : Worker × Shared → Notice → Worker × Shared → Prop
  | step {w w' : Worker} {s s' : Shared} {t : WorkerTurn} {signals : List Signal}
      (hgo : w.result? = none) (h : w.step s = (t, w', s', signals)) :
      Told (w, s) (w.notice w' s) (w', s')
  | posts {w : Worker} {s : Shared} (id : Nat) (i : Invocation) :
      Told (w, s) (.posts id i (s.post id i).1) (w, (s.post id i).2)
  | logged {w : Worker} {s : Shared} (panic : Option Payload) : Told (w, s) .aside (w.logged panic, s)
  | again {w : Worker} {s : Shared} {result : WorkerResult} (hdone : w.stage = .done result)
      (path : ByteArray) (engineFault : Option String) (panicsOnReport : Bool) :
      Told (w, s) .aside ({ path, interval := w.interval }, { s with engineFault, panicsOnReport })
  | aside {w : Worker} {s s' : Shared} (h : s'.inboxes = s.inboxes) : Told (w, s) .aside (w, s')

namespace Runner

/-- **All engines are closed**, except the one that the worker has in use. -/
structure Tends (base : Nat) (x : Worker × Shared) : Prop where
  lt : ∀ {e}, x.1.engine = some e → e.id < x.2.inboxes.size
  closed : ∀ {id}, base ≤ id → id < x.2.inboxes.size → (x.2.inbox id).isClosed = false →
    x.1.inUse = some id

namespace Tends

variable {base : Nat} {w w' : Worker} {s s' : Shared} {l : Notice}

/-- No engine is opened or closed, and the one in use stays so. -/
theorem quiet (h : Tends base (w, s)) (hnotes : s.Notes l s') (hopens : ∀ id, l ≠ .opens id)
    (hengine : ∀ {e}, w'.engine = some e → ∃ e₀, w.engine = some e₀ ∧ e.id = e₀.id)
    (huse : ∀ {id}, w.inUse = some id → w'.inUse = some id) : Tends base (w', s') where
  lt he := by
    obtain ⟨e₀, he₀, hid⟩ := hengine he
    rw [hid]
    exact (hnotes.opened _).mpr (.inl (h.lt he₀))
  closed {id} hid hlt hopen := by
    have hlt₀ : id < s.inboxes.size := ((hnotes.opened id).mp hlt).resolve_right (hopens id)
    refine huse (h.closed hid hlt₀ ?_)
    rw [Bool.eq_false_iff] at hopen ⊢
    exact fun hclosed => hopen ((hnotes.closed id).mpr (.inl hclosed))

/-- The engine in use goes on, and stays in use. -/
theorem engine {path : ByteArray} {interval : Nat} {e e' : Engine} {stage stage' : Worker.Stage}
    (h : Tends base (⟨path, interval, some e, stage⟩, s)) (hnotes : s.Notes l s')
    (hopens : ∀ id, l ≠ .opens id) (hid : e'.id = e.id)
    (huse : (⟨path, interval, some e', stage'⟩ : Worker).inUse = some e'.id)
    (huse₀ : (⟨path, interval, some e, stage⟩ : Worker).inUse = some e.id) :
    Tends base (⟨path, interval, some e', stage'⟩, s') := by
  refine h.quiet hnotes hopens (fun he => ⟨e, rfl, ?_⟩) fun {id} hused => ?_
  · rw [← Option.some.inj he, hid]
  · rw [huse, hid, ← huse₀]
    exact hused

/-- A turn opens no engine. -/
theorem size_of_turn {e e' : Engine} {t : Turn} {signals : List Signal}
    (h : e.turn s = (t, e', s', signals)) : s'.inboxes.size = s.inboxes.size := by
  rcases Engine.turn_shared h with ⟨-, clock, rfl⟩ | ⟨-, rfl⟩
  · rfl
  · exact Shared.size_setInbox ..

/-- Each step of a worker tells what it does to the inboxes, and closes the engine before another
one is opened. -/
theorem steps (h : Tends base (w, s)) (hsteps : w.Steps s w' s') :
    s.Notes (w.notice w' s) s' ∧ Tends base (w', s') := by
  obtain ⟨path, interval, engine, stage⟩ := w
  -- most steps have nothing to do with inboxes
  have hquiet : ∀ {stage' : Worker.Stage} {s' : Shared}, s.Notes .aside s' →
      (∀ {id}, (⟨path, interval, engine, stage⟩ : Worker).inUse = some id →
        (⟨path, interval, engine, stage'⟩ : Worker).inUse = some id) →
      Tends base (⟨path, interval, engine, stage'⟩, s') := fun hnotes huse =>
    h.quiet hnotes nofun (fun he => ⟨_, he, rfl⟩) huse
  cases hsteps with
  | cannotOpen hstage | counts hstage | fails hstage | succeeds hstage | tells hstage
  | panics hstage | finishes hstage | asksExit hstage =>
    cases hstage
    exact ⟨.of_inboxes rfl, hquiet (.of_inboxes rfl) nofun⟩
  | opens hstage hfault =>
    cases hstage
    refine ⟨.newInbox s, fun he => ?_, fun {id} hid hlt hopen => ?_⟩
    · obtain rfl := Option.some.inj he
      exact ((Shared.Notes.newInbox s).opened _).mpr (.inr rfl)
    · rcases ((Shared.Notes.newInbox s).opened id).mp hlt with hlt | hnew
      · -- whatever was opened before is closed
        rw [(Shared.Alike.newInbox s).closed] at hopen
        cases h.closed hid hlt hopen
      · rw [Notice.opens.inj hnew]
        rfl
  | passesOver hengine hover =>
    cases hengine
    cases hover with
    | _ => exact ⟨.of_inboxes rfl, hquiet (.of_inboxes rfl) nofun⟩
  | publishes hstage | marks hstage =>
    cases hstage
    exact ⟨.of_inboxes rfl, hquiet (.of_inboxes rfl) (fun h => h)⟩
  | loads hstage hengine hid =>
    cases hstage
    cases hengine
    exact ⟨.of_inboxes rfl, h.engine (.of_inboxes rfl) nofun hid rfl rfl⟩
  | cannotLoad hstage hengine =>
    cases hstage
    cases hengine
    exact ⟨.of_inboxes rfl, h.engine (.of_inboxes rfl) nofun rfl rfl rfl⟩
  | @drives e e₁ e' s₁ _ t signals _ hstage hengine hturn hid hdrives =>
    cases hstage
    cases hengine
    obtain ⟨-, halike, -⟩ := Engine.turn_alike hturn
    have hsize := size_of_turn hturn
    have hnotes : s.Notes .aside s₁ := .of_alike halike hsize
    cases hdrives with
    | goesOn => exact ⟨hnotes, h.engine hnotes nofun hid rfl rfl⟩
    | ends => exact ⟨hnotes, h.engine hnotes nofun hid rfl rfl⟩
    | ready r =>
      have hlt : e.id < s₁.inboxes.size := hsize ▸ h.lt rfl
      have hbind := Shared.Notes.bind halike hsize hlt
      exact ⟨hbind, h.engine hbind nofun hid rfl rfl⟩
  | enters hstage =>
    cases hstage
    refine ⟨.of_inboxes rfl, h.quiet (.of_inboxes rfl) nofun (fun he => ?_) (fun huse => ?_)⟩
    · obtain ⟨e₀, he₀, rfl⟩ := Option.map_eq_some_iff.mp he
      exact ⟨e₀, he₀, rfl⟩
    · exact (Option.map_map ..).trans huse
  | @closes e engine' result _ hstage hengine hid hnext =>
    cases hstage
    cases hengine
    have hclose := Shared.Notes.close (s := s) (h.lt rfl)
    refine ⟨hclose, fun he => ?_, fun {id} hbase hlt hopen => ?_⟩
    · dsimp only
      rw [hid _ he, Shared.size_setInbox]
      exact h.lt rfl
    · -- the engine that was in use is closed, too
      dsimp only at hlt hopen
      rw [Shared.size_setInbox] at hlt
      rw [Bool.eq_false_iff] at hopen
      have hopen₀ : (s.inbox id).isClosed = false :=
        Bool.eq_false_iff.mpr fun hclosed => hopen ((hclose.closed id).mpr (.inl hclosed))
      have huse := h.closed hbase hlt hopen₀
      exact absurd ((hclose.closed id).mpr (.inr (by rw [Option.some.inj huse]))) hopen
  | finalizes hstage hengine hturn hid hnext =>
    cases hstage
    cases hengine
    obtain ⟨-, halike, -⟩ := Engine.turn_alike hturn
    have hnotes := Shared.Notes.of_alike halike (size_of_turn hturn)
    refine ⟨hnotes, h.quiet hnotes nofun (fun he => ⟨_, rfl, hid _ he⟩) nofun⟩

/-- **What the runs of a runner tell of the inboxes is so**, and they close their engines. -/
theorem told {x y : Worker × Shared} (h : Tends base x) (htold : Told x l y) :
    x.2.Notes l y.2 ∧ Tends base y := by
  cases htold with
  | step hgo hstep => exact h.steps (Worker.steps hgo hstep)
  | @posts w s id i =>
    have hnotes := Shared.Notes.post s id i
    exact ⟨hnotes, h.quiet hnotes nofun (fun he => ⟨_, he, rfl⟩) (fun huse => huse)⟩
  | @logged w s panic =>
    obtain ⟨path, interval, engine, stage⟩ := w
    refine ⟨.of_inboxes rfl, h.quiet (.of_inboxes rfl) nofun (fun he => ?_) (fun huse => ?_)⟩
    · obtain ⟨e₀, he₀, rfl⟩ := Option.map_eq_some_iff.mp he
      exact ⟨e₀, he₀, rfl⟩
    · -- a line that is written changes neither the engine's number nor whether it is in use
      cases engine with
      | none => exact huse
      | some e => exact huse
  -- a session that is over has no engine in use, and the next one starts without
  | again hdone path engineFault panicsOnReport =>
    refine ⟨.of_inboxes rfl, h.quiet (.of_inboxes rfl) nofun nofun (fun huse => ?_)⟩
    unfold Worker.inUse at huse
    rw [hdone] at huse
    cases huse
  | aside hinboxes =>
    have hnotes := Shared.Notes.of_inboxes hinboxes
    exact ⟨hnotes, h.quiet hnotes nofun (fun he => ⟨_, he, rfl⟩) (fun huse => huse)⟩

/-- A runner begins with all earlier engines closed. -/
theorem start (path : ByteArray) (interval : Nat) (s : Shared) :
    Tends s.inboxes.size ({ path, interval }, s) where
  lt he := by cases he
  closed hid hlt := absurd hlt (Nat.not_lt.mpr hid)

/-- **So it stays**, run after run. -/
theorem run {x y : Worker × Shared} {happened : List Notice} (h : Tends base x)
    (hrun : Run Told x happened y) : Run Shared.Notes x.2 happened y.2 ∧ Tends base y := by
  induction hrun with
  | refl => exact ⟨.refl, h⟩
  | tail run step ih =>
    obtain ⟨hnotes, htends⟩ := ih
    obtain ⟨hnote, htends'⟩ := htends.told step
    exact ⟨.tail hnotes hnote, htends'⟩

end Tends
end Runner

/-! ### What posts are answered -/

/-- **What posts are answered**, in every history of a process, whatever its engines do and
whoever posts through which handle: first that there is no robot, until one has been constructed
and bound; then that the call is queued; and that the engine is closed, from then on when it was.
A post that is refused changes nothing, and no post changes anything of another engine.

A runner closes its engine before it opens another one, on every path. So a post through a handle
from an earlier run is answered that the engine is closed, and nothing comes of it. -/
theorem answered_of_runs :
    (∀ {s₀ : Shared} {happened : List FleetDeed} {x : Fleet},
      Run Fleet.Move ⟨[], s₀⟩ happened x →
      x.shared.Answered s₀.inboxes.size (happened.map FleetDeed.notice)
        ∧ ∀ {h}, h ∈ x.engines → h.ready = none →
          ((x.shared.inbox h.engine.id).isBound = true ↔ Constructed h.engine.id happened))
      ∧ ∀ {path : ByteArray} {interval : Nat} {s₀ s : Shared} {happened : List Notice} {w : Worker},
        Run Runner.Told ({ path, interval }, s₀) happened (w, s) →
        s.Answered s₀.inboxes.size happened
          ∧ ∀ {id}, .opens id ∈ happened → s₀.inboxes.size ≤ id → w.inUse ≠ some id →
            ∀ i, s.post id i = (.closed, s) := by
  refine ⟨fun {s₀ happened x} hrun => ?_, fun {path interval s₀ s happened w} hrun => ?_⟩
  · obtain ⟨hsound, hnotes⟩ := (Fleet.Sound.new s₀).run hrun
    have hanswered := Shared.answered_of_run hnotes
    refine ⟨hanswered, fun {h} hmem hready => ?_⟩
    obtain ⟨k, hget⟩ := List.mem_iff_getElem?.mp hmem
    have hbuilt : h.ready ≠ none ∨ .owner h.engine.id .binds ∈ happened
        ↔ Constructed h.engine.id happened := hsound.built hget
    have hbase : s₀.inboxes.size ≤ h.engine.id := by
      rw [hsound.number hget]
      exact Nat.le_add_right _ _
    rw [hanswered.records.bound _ hbase, ← hbuilt, FleetDeed.binds_mem_notices]
    exact ⟨.inr, fun hor => hor.resolve_left (fun hne => hne hready)⟩
  · obtain ⟨hnotes, htends⟩ := (Runner.Tends.start path interval s₀).run hrun
    have hanswered := Shared.answered_of_run hnotes
    refine ⟨hanswered, fun {id} hopens hbase huse i => ?_⟩
    -- an engine that is not in use has been closed
    have hclosed : (s.inbox id).isClosed = true := by
      rw [← Bool.not_eq_false]
      intro hopen
      refine huse ?_
      exact htends.closed hbase ((hanswered.records.opened id hbase).mpr hopens) hopen
    have hpost : (s.post id i).1 = .closed := by
      rw [Shared.answer_post, hclosed]
      rfl
    exact Prod.ext hpost (hanswered.refused (by rw [hpost]; nofun))

/-! ### A handle that is kept -/

namespace Runner

/-- Steps of a worker answer no posts. -/
theorem run_advance (fuel : Nat) (w : Worker) (s : Shared) :
    ∃ happened, Run Told (w, s) happened (Worker.advance fuel w s)
      ∧ ∀ id, answers id happened = [] := by
  induction fuel generalizing w s with
  | zero => exact ⟨[], .refl, fun id => rfl⟩
  | succ fuel ih =>
    unfold Worker.advance
    split
    · exact ⟨[], .refl, fun id => rfl⟩
    · rename_i hgo
      obtain ⟨happened, hrun, hnone⟩ := ih (w.step s).2.1 (w.step s).2.2.1
      refine ⟨_, (Run.single (.step hgo rfl)).trans hrun, fun id => ?_⟩
      unfold answers at hnone ⊢
      rw [List.filterMap_append, hnone, List.append_nil]
      -- a step of the program is no answer to a call, whatever else it is
      unfold Worker.notice
      split
      all_goals rfl

/-- A post through the handle of the first engine. -/
def postTo (x : Worker × Shared) : Worker × Shared :=
  (x.1, (x.2.post 0 .finish).2)

/-- The same program is run again. -/
def rerun (x : Worker × Shared) : Worker × Shared :=
  ({ path := x.1.path, interval := x.1.interval },
    { x.2 with engineFault := none, panicsOnReport := false })

/-- A history after which a runner is in some state, with the answers of the first engine. -/
def Heard (x₀ x : Worker × Shared) (ds : List Delivery) : Prop :=
  ∃ happened, Run Told x₀ happened x ∧ answers 0 happened = ds

namespace Heard

variable {x₀ x : Worker × Shared} {ds : List Delivery}

/-- Nothing has been answered yet. -/
theorem refl (x : Worker × Shared) : Heard x x [] :=
  ⟨[], .refl, rfl⟩

/-- The worker goes on, and nobody posts. -/
theorem advance (h : Heard x₀ x ds) (fuel : Nat) : Heard x₀ (Worker.advance fuel x.1 x.2) ds := by
  obtain ⟨happened, hrun, hds⟩ := h
  obtain ⟨later, hlater, hnone⟩ := run_advance fuel x.1 x.2
  refine ⟨_, hrun.trans hlater, ?_⟩
  unfold answers at hds hnone ⊢
  rw [List.filterMap_append, hnone, List.append_nil, hds]

/-- Somebody posts, and is answered. -/
theorem post {d : Delivery} (h : Heard x₀ x ds) (hd : (x.2.post 0 .finish).1 = d) :
    Heard x₀ (postTo x) (ds ++ [d]) := by
  obtain ⟨happened, hrun, hds⟩ := h
  refine ⟨_, hrun.tail (.posts 0 .finish), ?_⟩
  rw [answers_append, hds, hd]
  rfl

/-- The runner begins anew once the worker is done. -/
theorem rerun (h : Heard x₀ x ds) (hdone : x.1.result?.isSome = true) :
    Heard x₀ (rerun x) ds := by
  obtain ⟨happened, hrun, hds⟩ := h
  obtain ⟨result, hstage⟩ := Worker.done_of_isSome hdone
  refine ⟨_, hrun.tail (.again hstage x.1.path none false), ?_⟩
  rw [answers_append, hds]
  exact List.append_nil ds

end Heard
end Runner

/-! ### Two engines of a process -/

namespace Held

variable {x y z : Held × Shared}

/-- **An owner comes to a state by itself**, with nobody else moving. -/
def Owns (x y : Held × Shared) : Prop :=
  ∃ happened, Run Move x happened y ∧ ∀ l ∈ happened, l.isOwn = true

/-- An owner makes one more move. -/
theorem Owns.tail {l : Dealing} (h : Owns x y) (hmove : Move y l z) (hown : l.isOwn = true) :
    Owns x z := by
  obtain ⟨happened, hrun, hall⟩ := h
  refine ⟨_, .tail hrun hmove, fun l' hmem => ?_⟩
  rcases List.mem_append.mp hmem with hbefore | hlast
  · exact hall l' hbefore
  · rw [List.mem_singleton.mp hlast]
    exact hown

/-- What an owner does next is a move of its own. -/
theorem isOwn_of_next {l : Dealing} (h : next x = some (l, y)) : l.isOwn = true := by
  unfold next at h
  split at h
  · -- the cases of `next`: each deed it chooses is the owner's
    split at h
    · cases h
      rfl
    · cases h
    · cases h
      rfl
    · split at h
      · cases h
      · cases h
        rfl
    · cases h
  · cases h

/-- An owner goes on by itself. -/
theorem Owns.follow {cs cs' : List Construction} {fuel : Nat} {c : Option Completion} (h : Owns x y)
    (hfollow : follow fuel y cs = (c, z, cs')) : Owns x z := by
  induction fuel generalizing y cs with
  | zero =>
    cases hfollow
    exact h
  | succ fuel ih =>
    unfold Held.follow at hfollow
    split at hfollow
    · cases hfollow
      exact h
    · rename_i l y' hnext
      have hmoved := h.tail (next_move hnext) (isOwn_of_next hnext)
      -- the deed that settles the task ends the following; any other goes on
      split at hfollow
      · cases hfollow
        exact hmoved
      · exact ih hmoved hfollow

/-- An engine that loads a program, constructs a robot and is bound. -/
def bound (source : String) (x : Held × Shared) : Option (Held × Shared) :=
  match x with
  | (⟨e, none⟩, s) =>
    match e.task, e.load .empty source with
    | .idle, .ok e =>
      match follow 100 (⟨e, none⟩, s) [] with
      | (some (.module table), (⟨e, none⟩, s), _) =>
        match e.task, follow 100 (⟨e.construct table, none⟩, s) [] with
        | .idle, (_, (⟨e, some r⟩, s), _) => some (⟨e, none⟩, (e.bindRobot s r).1)
        | _, _ => none
      | _ => none
    | _, _ => none
  | _ => none

/-- So it comes to a robot that is bound. -/
theorem owns_bound {source : String} (h : bound source x = some y) : Owns x y := by
  unfold bound at h
  split at h
  · rename_i e s
    split at h
    · rename_i e₁ hidle hload
      have hstarts : Owns (⟨e, none⟩, s) (⟨e, none⟩, s) :=
        ⟨[], .refl, fun _ hmem => absurd hmem List.not_mem_nil⟩
      -- the owner loads the file, constructs the robot from the module and binds it, one task after
      -- the other
      have hloading := hstarts.tail (.calls hidle (.load hload)) rfl
      split at h
      · rename_i table _ _ _ hmodule
        have hloaded := hloading.follow hmodule
        split at h
        · rename_i hidle' hrobot
          cases h
          have hbuilding := hloaded.tail (.calls hidle' (.construct table)) rfl
          exact (hbuilding.follow hrobot).tail (.binds _) rfl
        · cases h
      · cases h
    · cases h
  · cases h

end Held

namespace Fleet

/-- **A history of a process** that begins without engines, with what each has been answered. -/
def Heard (x : Fleet) (ds : Nat → List Delivery) : Prop :=
  ∃ happened, Run Move ⟨[], {}⟩ happened x
    ∧ ∀ id, answers id (happened.map FleetDeed.notice) = ds id

/-- Another engine is opened. -/
def openNext (x : Fleet) : Fleet :=
  ⟨x.engines ++ [⟨(Engine.openIn x.shared 1000).1, none⟩], (Engine.openIn x.shared 1000).2.1⟩

/-- The robot of an engine is asked to end. -/
def post (id : Nat) (x : Fleet) : Fleet :=
  ⟨x.engines, (x.shared.post id .finish).2⟩

namespace Heard

variable {x y : Fleet} {ds : Nat → List Delivery} {l : FleetDeed}

/-- What is answered is noted. -/
theorem move (h : Heard x ds) (hmove : Move x l y) :
    Heard y fun id => ds id ++ answers id [l.notice] := by
  obtain ⟨happened, hrun, hds⟩ := h
  refine ⟨_, hrun.tail hmove, fun id => ?_⟩
  rw [List.map_append, List.map_singleton, answers_append, hds]

/-- Who does not post is not answered. -/
theorem quiet (h : Heard x ds) (hmove : Move x l y) (hquiet : ∀ id i d, l ≠ .posts id i d) :
    Heard y ds := by
  have hmoved := h.move hmove
  have hnone : ∀ id, answers id [l.notice] = [] := by
    intro id
    cases l with
    | posts id' i d => exact absurd rfl (hquiet id' i d)
    | owner id' l' =>
      cases l' with
      | _ => rfl
    | _ => rfl
  simpa only [hnone, List.append_nil] using hmoved

/-- What an owner does by itself is not answered. -/
theorem owner {k : Nat} {held : Held} {y : Held × Shared} (h : Heard x ds)
    (hget : x.engines[k]? = some held) (howns : Held.Owns (held, x.shared) y) :
    Heard ⟨x.engines.set k y.1, y.2⟩ ds := by
  obtain ⟨dealings, hrun, hown⟩ := howns
  -- the induction is on the owner's run, so where it begins is named first
  generalize hbegins : (held, x.shared) = y₀ at hrun
  induction hrun with
  | refl =>
    subst hbegins
    obtain ⟨hk, rfl⟩ := List.getElem?_eq_some_iff.mp hget
    rw [List.set_getElem_self]
    exact h
  | @tail dealings y z l run step ih =>
    have hbefore := ih fun l' hmem => hown l' (List.mem_append_left _ hmem)
    have hget' : (x.engines.set k y.1)[k]? = some y.1 :=
      List.getElem?_set_self (List.getElem?_eq_some_iff.mp hget).1
    have hlast := hown l (List.mem_append_right _ (List.mem_singleton_self l))
    have hmoved := hbefore.quiet (.owner hget' hlast step) nofun
    -- each deed puts the owner back in its place
    rwa [List.set_set] at hmoved

end Heard

/-- Two engines beside each other, after the first was posted to. -/
def pair : Fleet :=
  ((⟨[], {}⟩ : Fleet).openNext.openNext).post 0

/-- Both engines are posted to. -/
def asked (s : Shared) : Shared :=
  ((s.post 0 .finish).2.post 1 .finish).2

/-- The second engine has been closed. -/
def closed (s : Shared) : Shared :=
  s.setInbox 1 (s.inbox 1).close

/-- The first engine is bound, and the answers to the posts tell it from the second one. -/
def isParted (y : Held × Shared) : Bool :=
  y.1.ready.isNone && y.1.engine.id == 0
    && (y.2.post 0 .finish).1 == .queued && ((y.2.post 0 .finish).2.post 1 .finish).1 == .notBound
    && ((closed (asked y.2)).post 1 .finish).1 == .closed
    && (((closed (asked y.2)).post 1 .finish).2.inbox 0).isBound
    && !(((closed (asked y.2)).post 1 .finish).2.inbox 1).isBound

/-- The first engine is bound by its owner, then both are posted to, and the second is closed and
posted to once more. -/
theorem Heard.parted {x : Fleet} {ds : Nat → List Delivery} {first : Held} {e : Engine}
    {y : Held × Shared} (h : Heard x ds) (hengines : x.engines = [first, ⟨e, none⟩])
    (hidle : e.task = .idle) (hid : e.id = 1) (howns : Held.Owns (first, x.shared) y)
    (hparted : isParted y = true) :
    ∃ (ds' : Nat → List Delivery) (second : Held),
      Heard ⟨[y.1, second], ((closed (asked y.2)).post 1 .finish).2⟩ ds'
      ∧ second.ready = none ∧ second.engine.id = 1
      ∧ ds' 0 = ds 0 ++ [Delivery.queued]
      ∧ ds' 1 = ds 1 ++ [Delivery.notBound, Delivery.closed] := by
  unfold isParted at hparted
  simp only [Bool.and_eq_true, beq_iff_eq, Option.isNone_iff_eq_none, Bool.not_eq_true'] at hparted
  obtain ⟨⟨⟨⟨⟨-, hqueued⟩, hunbound⟩, hclosed⟩, -⟩, -⟩ := hparted
  have hbound := h.owner (k := 0) (by rw [hengines]; rfl) howns
  rw [hengines] at hbound
  -- both engines are asked; then the second one is closed and asked again
  have hasked := (hbound.move (.posts 0 .finish)).move (.posts 1 .finish)
  have hcloses := hasked.quiet (.owner (k := 1) rfl rfl (.closes hidle)) nofun
  unfold Engine.closeInbox at hcloses
  rw [hid] at hcloses
  have hlast := hcloses.move (.posts 1 .finish)
  refine ⟨_, _, hlast, rfl, (Engine.id_close e).trans hid, ?_, ?_⟩
  · change ((ds 0 ++ [(y.2.post 0 .finish).1]) ++ []) ++ [] = _
    rw [hqueued, List.append_nil, List.append_nil]
  · change ((ds 1 ++ []) ++ [((y.2.post 0 .finish).2.post 1 .finish).1])
      ++ [((closed (asked y.2)).post 1 .finish).1] = _
    rw [hunbound, hclosed, List.append_nil, List.append_assoc]
    rfl

end Fleet

/-- A handle is posted to before the robot is there, when it is, after the run, and in the next
run. Of two engines beside each other, one is posted to before its robot is there and when it is, and
the other one, which never has one, before and after it is closed. -/
theorem answered_of_runs_idle :
    (∃ happened w s,
      Run Runner.Told ({ path := ⟨#[114]⟩, interval := 1000 }, { files := Worker.idleProgram })
          happened (w, s)
        ∧ answers 0 happened = [.notBound, .queued, .closed] ∧ w.inUse = some 1
        ∧ s.post 0 .finish = (.closed, s))
    ∧ ∃ happened x, Run Fleet.Move ⟨[], {}⟩ happened x
      ∧ answers 0 (happened.map FleetDeed.notice) = [.notBound, .queued]
      ∧ answers 1 (happened.map FleetDeed.notice) = [.notBound, .closed]
      ∧ Constructed 0 happened ∧ ¬ Constructed 1 happened := by
  -- one runner, asked before the robot is bound, while it is, and after the end, and then run
  -- again; and two engines of which only the first gets a robot
  refine ⟨?_, ?_⟩
  · let first : Worker × Shared :=
      ({ path := ⟨#[114]⟩, interval := 1000 }, { files := Worker.idleProgram })
    let opened := Worker.advance 1 first.1 first.2
    let bound := Worker.advance 7 (Runner.postTo opened).1 (Runner.postTo opened).2
    let last := Worker.advance 30 (Runner.postTo bound).1 (Runner.postTo bound).2
    let again := Runner.rerun (Runner.postTo last)
    obtain ⟨hbefore, hwhen, hafter, hdone, huse, hsize⟩ :
        (opened.2.post 0 .finish).1 = .notBound ∧ (bound.2.post 0 .finish).1 = .queued
          ∧ (last.2.post 0 .finish).1 = .closed ∧ (Runner.postTo last).1.result?.isSome = true
          ∧ (Worker.advance 1 again.1 again.2).1.inUse = some 1
          ∧ 0 < (Worker.advance 1 again.1 again.2).2.inboxes.size := by
      decide +kernel
    have hheard : Runner.Heard first (Worker.advance 1 again.1 again.2)
        [.notBound, .queued, .closed] :=
      ((((((Runner.Heard.refl first).advance 1).post hbefore).advance 7 |>.post hwhen).advance 30).post
        hafter |>.rerun hdone).advance 1
    generalize Worker.advance 1 again.1 again.2 = second at hheard huse hsize
    obtain ⟨happened, hrun, hanswers⟩ := hheard
    obtain ⟨hanswered, hrefused⟩ := answered_of_runs.2 hrun
    refine ⟨happened, second.1, second.2, hrun, hanswers, huse,
      hrefused ?_ (Nat.le_refl _) ?_ .finish⟩
    · exact (hanswered.records.opened 0 (Nat.le_refl _)).mp hsize
    · rw [huse]
      nofun
  · have hparted : (Held.bound Held.fickle
        (⟨(Engine.openIn {} 1000).1, none⟩, Fleet.pair.shared)).any Fleet.isParted = true := by
      decide +kernel
    obtain ⟨y, hy, hparted⟩ := (Option.any_eq_true _ _).mp hparted
    have hpair : Fleet.Heard Fleet.pair fun id => [] ++ answers id [.posts 0 .finish .notBound] := by
      have hnew : Fleet.Heard ⟨[], {}⟩ fun _ => [] := ⟨[], .refl, fun _ => rfl⟩
      exact ((hnew.quiet (.opens rfl) nofun).quiet (.opens rfl) nofun).move (.posts 0 .finish)
    obtain ⟨ds, second, ⟨happened, hrun, hds⟩, hready', hid', hfirst, hsecond⟩ :=
      hpair.parted rfl rfl rfl (Held.owns_bound hy) hparted
    unfold Fleet.isParted at hparted
    simp only [Bool.and_eq_true, beq_iff_eq, Option.isNone_iff_eq_none, Bool.not_eq_true']
      at hparted
    obtain ⟨⟨⟨⟨⟨⟨hready, hid⟩, -⟩, -⟩, -⟩, hisBound⟩, hisUnbound⟩ := hparted
    generalize ((Fleet.closed (Fleet.asked y.2)).post 1 .finish).2 = last
      at hrun hisBound hisUnbound
    obtain ⟨hanswered, hbuilt⟩ := answered_of_runs.1 hrun
    refine ⟨happened, _, hrun, (hds 0).trans hfirst, (hds 1).trans hsecond, ?_, ?_⟩
    · have hfinds := hbuilt (h := y.1) (.head _) hready
      rw [hid] at hfinds
      exact hfinds.mp hisBound
    · have hfinds := hbuilt (h := second) (.tail _ (.head _)) hready'
      rw [hid'] at hfinds
      exact fun hconstructed => nomatch hisUnbound.symm.trans (hfinds.mpr hconstructed)

end RobotSession
