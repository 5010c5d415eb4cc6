import RobotSession.Proofs.Engine.Owner
import RobotSession.Proofs.Lua.Deliveries
import RobotSession.Proofs.Lua.Retained

/-!
# The robot that an engine retains

An engine may construct several robots, one after the other, and constructions may fail. It
retains what the constructor returned last, and the end routine of the last construction that
succeeded. A construction that fails before its constructor returns leaves both as they were. If
it fails after that, because the start routine is missing, it leaves the end routine and replaces
the robot: from then on the end routine is called with an instance to which it does not belong,
until another construction succeeds.

Nothing else touches what is retained, neither what a script does nor what is delivered
meanwhile.

* `Construction`, `constructions` — the constructions of a history, as far as they have come.
* `Engine.retained_settle` — what one step of a construction retains.
* `Held.Kept` — what is retained, by the constructions, and which calls are accepted.
* `Held.retained_of_run` — so it is after every run.
* `Held.not_together` — a construction that fails may part the robot from its end routine.
-/

namespace RobotSession

open Lua

/-! ### Constructions -/

/-- **A construction**, as far as it has come. -/
structure Construction where
  /-- What the constructor has returned. -/
  given : Option Value := none
  /-- The robot, if the construction has succeeded. -/
  built : Option Robot := none

namespace Construction

/-- The constructions of a history, the latest one first, once something else has happened. -/
def note (cs : List Construction) : Dealing → List Construction
  | .calls true => {} :: cs
  | .settles given completion =>
    match cs with
    | [] => []
    | c :: earlier =>
      ⟨given <|> c.given, completion.bind Completion.robot? <|> c.built⟩ :: earlier
  | _ => cs

/-- What the last constructor has returned. -/
def instance_ (cs : List Construction) : Value :=
  (cs.findSome? given).getD .nil

/-- The robot of the last construction that has succeeded. -/
def robot (cs : List Construction) : Option Robot :=
  cs.findSome? built

/-- A construction that has succeeded had a table returned, with a start routine. -/
structure Whole (c : Construction) : Prop where
  given : ∀ r, c.built = some r → c.given = some (.table r.instance_)
  finish : ∀ r, c.built = some r → ∀ f, r.finish = some f → ∃ id, f = .func id

end Construction

/-- The constructions of a history, the latest one first. -/
def constructions (happened : List Dealing) : List Construction :=
  happened.foldl Construction.note []

/-- What has been constructed is noted move by move. -/
theorem constructions_append (happened : List Dealing) (l : Dealing) :
    constructions (happened ++ [l]) = Construction.note (constructions happened) l := by
  unfold constructions
  rw [List.foldl_append]
  rfl

/-! ### What a step of a task retains -/

namespace Engine

variable {e e' : Engine} {s s' : Shared} {l : Deed}

/-- To make an outcome of a result retains nothing. -/
theorem retained_outcome (e : Engine) (result : Except Value (List Value)) (wantsValue : Bool) :
    (e.outcome result wantsValue).2.machine.retained = e.machine.retained := by
  obtain ⟨α, w, hw⟩ := e.outcome_machine result wantsValue
  rw [hw]
  rfl

/-- Nor does it to begin a call. -/
theorem retained_call (e : Engine) (f : Value) (args : List Value) (task : Task) :
    (e.call f args task).machine.retained = e.machine.retained :=
  Machine.retained_start f args

/-- Nor does it to look up a field. -/
theorem retained_lookUp (e : Engine) (table : Nat) (name : String) (task : Task) :
    (e.lookUp table name task).machine.retained = e.machine.retained := by
  unfold lookUp
  dsimp only
  split
  · rfl
  · exact e.retained_call _ _ _
  · rfl

/-- Nor does it to begin a task. -/
theorem retained_begins (h : e.Begins e') : e'.machine.retained = e.machine.retained := by
  cases h with
  | version => exact e.retained_lookUp _ _ _
  | construct module => exact e.retained_lookUp _ _ _
  | start r => exact e.retained_call _ _ _
  | load hload =>
    unfold Engine.load at hload
    dsimp only at hload
    split at hload
    · cases hload
    · cases hload
    · obtain rfl := Except.ok.inj hload
      exact retained_call _ _ _ _

/-- **While a script function is under way**, what is retained stays the same. -/
theorem retained_inner (h : Move (e, s) l (e', s')) (hinner : l.isInner = true) :
    e'.machine.retained = e.machine.retained := by
  -- `retain` is called by `settle` only, and an inner deed is not one.
  cases h with
  | step hgo => exact Machine.retained_step
  | serve hmode htake hserve =>
    obtain ⟨rfl | ⟨a, rfl, -⟩, -⟩ := serve_cases htake hserve
    · rfl
    · exact Machine.retained_answer a
  | logged hmode hlog panic => exact Machine.retained_answer _
  | take hmode => exact Machine.retained_answer _
  | settle hmode => cases hinner
  | begin_ hidle hb => cases hinner
  | bind r => cases hinner
  | close hidle => cases hinner
  | post i => rfl
  | elsewhere hinbox hsize => rfl

end Engine

/-! ### What a step of a construction retains -/

/-- How far the construction of a robot has come. -/
inductive Progress
  /-- No robot is being constructed. -/
  | unrelated
  /-- Nothing has been returned so far. -/
  | awaited
  /-- Entry points are looked up in a table that has been returned. -/
  | returned (id : Nat)

/-- How far a task has come with a robot. -/
def Task.progress : Task → Progress
  | .findConstructor | .construct => .awaited
  | .findStart id | .findEnd id _ => .returned id
  | _ => .unrelated

namespace Engine

/-- **What a task retains** once a call of it has ended: what has been returned for a robot, and
what has come of the engine. -/
inductive Retains (e : Engine) : Option Value → Option Completion × Engine → Prop
  /-- Nothing is retained that was not before. -/
  | quiet {c : Option Completion} {e' : Engine} (hrobot : c.bind Completion.robot? = none)
      (hretained : e'.machine.retained = e.machine.retained)
      (hnext : c = none ∧ e'.task.progress = e.task.progress ∨ c ≠ none ∧ e'.task = .idle)
      (hmissing : ∀ id err, e.task.progress = .returned id → c = some (.failed err) →
        err = .missingStart) :
      Retains e none (c, e')
  | gives {c : Option Completion} {e' : Engine} {v : Value} (hprogress : e.task.progress = .awaited)
      (hretained : e'.machine.retained = { e.machine.retained with instance_ := v })
      (hnext : (∃ id, v = .table id ∧ c = none ∧ e'.task.progress = .returned id)
        ∨ c = some (.failed .missingStart) ∧ e'.task = .idle) :
      Retains e (some v) (c, e')
  | builds {e' : Engine} {r : Robot} (hprogress : e.task.progress = .returned r.instance_)
      (hretained : e'.machine.retained = { e.machine.retained with endRoutine := r.finish })
      (hfinish : ∀ f, r.finish = some f → ∃ id, f = .func id) (hidle : e'.task = .idle) :
      Retains e none (some (.robot r), e')

namespace Retains

variable {e e₁ : Engine} {c : Completion}

/-- A call of the owner is over, and no robot has come of it. -/
theorem done (hrobot : c.robot? = none) (hretained : e₁.machine.retained = e.machine.retained)
    (hmissing : ∀ id err, e.task.progress = .returned id → c = .failed err →
      err = .missingStart) : Retains e none (e₁.done c) :=
  .quiet hrobot hretained (.inr ⟨nofun, rfl⟩) fun id err hprogress hc =>
    hmissing id err hprogress (Option.some.inj hc)

/-- It is over before anything has been returned for a robot. -/
theorem early (hrobot : c.robot? = none) (hretained : e₁.machine.retained = e.machine.retained)
    (hprogress : ∀ id, e.task.progress ≠ .returned id) : Retains e none (e₁.done c) :=
  done hrobot hretained fun id _ h => absurd h (hprogress id)

/-- The finalizers of an engine construct nothing. -/
theorem finalize (hretained : e₁.machine.retained = e.machine.retained)
    (hprogress : e.task.progress = .unrelated) (tables : List Nat) :
    Retains e none (e₁.finalize tables) := by
  have hreturned : ∀ id, e.task.progress ≠ .returned id := by
    rw [hprogress]
    nofun
  -- the first table with a finalizer begins a call; the others are passed over
  induction tables with
  | nil => exact early rfl hretained hreturned
  | cons table rest ih =>
    unfold Engine.finalize
    split
    · exact .quiet rfl ((retained_call ..).trans hretained) (.inl ⟨rfl, hprogress.symm⟩)
        fun id _ h => absurd h (hreturned id)
    · exact ih

end Retains

/-- A field is looked up for a task. -/
theorem task_lookUp (e : Engine) (table : Nat) (name : String) (task : Task) :
    (e.lookUp table name task).task = task :=
  (e.lookUp_frame table name task).2

/-- **There is nothing else that comes of a call.** -/
theorem retains (e : Engine) (result : Except Value (List Value)) :
    Retains e (e.given result) (e.settle result) := by
  have hvalue := e.retained_outcome result true
  have hplain := e.retained_outcome result false
  -- until a constructor returns, a call that is over has no more to say
  have hover : ∀ {c : Completion} {e₁ : Engine}, c.robot? = none →
      e₁.machine.retained = e.machine.retained → (∀ id, e.task.progress ≠ .returned id) →
      Retains e none (e₁.done c) := Retains.early
  unfold settle given
  cases htask : e.task with
  | idle =>
    rw [htask] at hover
    exact .quiet rfl rfl (.inl ⟨rfl, rfl⟩) nofun
  | version | load =>
    rw [htask] at hover
    dsimp only
    split
    all_goals rename_i heq; rw [heq] at hvalue
    all_goals exact hover rfl hvalue nofun
  | findConstructor =>
    rw [htask] at hover
    dsimp only
    split
    all_goals rename_i heq; rw [heq] at hvalue
    · refine .quiet rfl ((retained_call ..).trans hvalue) (.inl ⟨rfl, ?_⟩) nofun
      rw [htask]
      rfl
    · exact hover rfl hvalue nofun
    · exact hover rfl hvalue nofun
  | construct =>
    rw [htask] at hover
    have hprogress : e.task.progress = .awaited := by
      rw [htask]
      rfl
    dsimp only
    rcases heq : e.outcome result true with ⟨o, e₁⟩
    rw [heq] at hvalue
    cases o with
    | value v =>
      have hretain : (e₁.retain v).machine.retained = { e.machine.retained with instance_ := v } := by
        rw [← hvalue]
        rfl
      dsimp only
      split
      · rename_i id
        refine .gives hprogress ((retained_lookUp ..).trans hretain) (.inl ⟨id, rfl, rfl, ?_⟩)
        rw [task_lookUp]
        rfl
      · exact .gives hprogress hretain (.inr ⟨rfl, rfl⟩)
    | error message => exact hover rfl hvalue nofun
    | panic p => exact hover rfl hvalue nofun
  | findStart id =>
    dsimp only
    split
    all_goals rename_i heq; rw [heq] at hvalue
    · refine .quiet rfl ((retained_lookUp ..).trans hvalue) (.inl ⟨rfl, ?_⟩) nofun
      rw [task_lookUp, htask]
      rfl
    · exact .done rfl hvalue nofun
    · exact .done rfl hvalue fun _ _ _ h => (Completion.failed.inj h).symm
  | findEnd id start =>
    dsimp only
    split
    all_goals rename_i heq; rw [heq] at hvalue
    · exact .done rfl hvalue nofun
    · refine .builds ?_ ?_ ?_ rfl
      · rw [htask]
        rfl
      · rw [← hvalue]
        rfl
      · intro f hf
        split at hf
        · exact ⟨_, (Option.some.inj hf).symm⟩
        · cases hf
  | start =>
    rw [htask] at hover
    dsimp only
    split
    all_goals rename_i heq; rw [heq] at hplain
    all_goals exact hover rfl hplain nofun
  | finalize rest =>
    refine .finalize rfl ?_ rest
    rw [htask]
    rfl

/-- An engine that is closed retains what it has retained. -/
theorem retains_close {e : Engine} (hidle : e.task = .idle) : Retains e none e.close := by
  have hretained : ({ e with machine := { e.machine with
      interval := none, heap := e.machine.heap.closed } } : Engine).machine.retained
    = e.machine.retained := rfl
  refine .finalize hretained ?_ e.machine.heap.finalizers
  rw [hidle]
  rfl

/-- A program that is loaded is a task of its own. -/
theorem task_load {e e' : Engine} {path : ByteArray} {source : String}
    (h : e.load path source = .ok e') : e'.task = .load := by
  unfold Engine.load at h
  dsimp only at h
  split at h
  · cases h
  · cases h
  · obtain rfl := Except.ok.inj h
    rfl

/-- A call of the owner begins, and what is looked up first for a robot is its constructor. -/
theorem progress_begins {e e' : Engine} (h : e.Begins e') :
    e'.isConstructing = true ∧ e'.task.progress = .awaited
      ∨ e'.isConstructing = false ∧ e'.task.progress = .unrelated := by
  unfold isConstructing
  -- only the look-up of a constructor is followed by a construction
  cases h with
  | version =>
    unfold version
    rw [task_lookUp]
    exact .inr ⟨rfl, rfl⟩
  | construct module =>
    unfold construct
    rw [task_lookUp]
    exact .inl ⟨rfl, rfl⟩
  | start r => exact .inr ⟨rfl, rfl⟩
  | load hload =>
    rw [task_load hload]
    exact .inr ⟨rfl, rfl⟩

end Engine

/-! ### What is retained -/

namespace Construction

/-- Nothing has come of a call, as far as constructions are concerned. -/
theorem note_quiet (cs : List Construction) {c : Option Completion}
    (h : c.bind Completion.robot? = none) : note cs (.settles none c) = cs := by
  unfold note
  cases cs with
  | nil => rfl
  | cons first earlier =>
    dsimp only
    rw [h]
    rfl

/-- A robot that is given is noted for the last construction. -/
theorem note_gives (earlier : List Construction) (v : Value) {c : Option Completion}
    (h : c.bind Completion.robot? = none) :
    note ({} :: earlier) (.settles (some v) c) = { given := some v } :: earlier := by
  unfold note
  dsimp only
  rw [h]
  rfl

end Construction

/-- How far the last construction has come, by the history. -/
def Progress.Of (cs : List Construction) : Progress → Prop
  | .unrelated => True
  | .awaited => ∃ earlier, cs = {} :: earlier
  | .returned id => ∃ earlier, cs = { given := some (.table id) } :: earlier

namespace Held

/-- **What an engine retains**, by its constructions, and whether calls are accepted. -/
structure Kept (cs : List Construction) (x : Held × Shared) : Prop where
  retained : x.1.engine.machine.retained
    = ⟨Construction.instance_ cs, (Construction.robot cs).bind Robot.finish⟩
  whole : ∀ c ∈ cs, c.Whole
  progress : x.1.engine.task.progress.Of cs
  inbox_lt : x.1.engine.id < x.2.inboxes.size
  /-- Calls are accepted once a construction has succeeded. -/
  bound : (x.2.inbox x.1.engine.id).isBound = true ∨ x.1.ready ≠ none ↔
    Construction.robot cs ≠ none

namespace Kept

variable {cs : List Construction} {e e' : Engine} {s s' : Shared} {ready : Option Robot}

/-- An engine without a task may have constructed anything. -/
theorem progress_of_idle (hidle : e.task = .idle) (cs : List Construction) :
    e.task.progress.Of cs := by
  rw [hidle]
  trivial

/-- While a script function is under way, nothing of it changes. -/
theorem inner {l : Deed} (h : Kept cs (⟨e, ready⟩, s)) (hinner : l.isInner = true)
    (hmove : Engine.Move (e, s) l (e', s')) : Kept cs (⟨e', ready⟩, s') := by
  obtain ⟨htask, hid, hbound, hsize⟩ := Engine.inner_frame hmove hinner
  refine ⟨(Engine.retained_inner hmove hinner).trans h.retained, h.whole, ?_, ?_, ?_⟩
  · change e'.task.progress.Of cs
    rw [htask]
    exact h.progress
  · exact Nat.lt_of_lt_of_le (hid ▸ h.inbox_lt) hsize
  · change (s'.inbox e'.id).isBound = true ∨ ready ≠ none ↔ _
    rw [hid, hbound]
    exact h.bound

/-- A construction begins with nothing, and another call changes none. -/
theorem calls (h : Kept cs (⟨e, none⟩, s)) (hbegins : e.Begins e') :
    Kept (Construction.note cs (.calls e'.isConstructing)) (⟨e', none⟩, s) := by
  have hid : e'.id = e.id := Engine.id_begins hbegins
  have hretained := (Engine.retained_begins hbegins).trans h.retained
  rcases Engine.progress_begins hbegins with ⟨hconstructs, hprogress⟩ | ⟨hconstructs, hprogress⟩
  · -- a construction has begun: an entry is added, and it has given nothing yet
    rw [hconstructs]
    refine ⟨hretained, ?_, ?_, hid ▸ h.inbox_lt, hid ▸ h.bound⟩
    · intro c hc
      rcases List.mem_cons.mp hc with rfl | hc
      · exact ⟨nofun, nofun⟩
      · exact h.whole c hc
    · change e'.task.progress.Of _
      rw [hprogress]
      exact ⟨cs, rfl⟩
  · -- any other call leaves the list as it is
    rw [hconstructs]
    refine ⟨hretained, h.whole, ?_, hid ▸ h.inbox_lt, hid ▸ h.bound⟩
    change e'.task.progress.Of _
    rw [hprogress]
    trivial

/-- **What a construction retains** as it goes on, fails or succeeds. -/
theorem settles {given : Option Value} {c : Option Completion} (h : Kept cs (⟨e, none⟩, s))
    (hretains : e.Retains given (c, e')) (hid : e'.id = e.id) :
    Kept (Construction.note cs (.settles given c)) (⟨e', c.bind Completion.robot?⟩, s) := by
  have hlt : e'.id < s.inboxes.size := hid ▸ h.inbox_lt
  have hbefore := h.progress
  change e.task.progress.Of cs at hbefore
  cases hretains with
  | quiet hrobot hretained hnext =>
    rw [Construction.note_quiet cs hrobot, hrobot]
    refine ⟨hretained.trans h.retained, h.whole, ?_, hlt, hid ▸ h.bound⟩
    rcases hnext with ⟨-, hprogress⟩ | ⟨-, hidle⟩
    · change e'.task.progress.Of cs
      rw [hprogress]
      exact hbefore
    · exact progress_of_idle hidle cs
  | @gives _ _ v hprogress hretained hnext =>
    rw [hprogress] at hbefore
    obtain ⟨earlier, rfl⟩ := hbefore
    have hrobot : c.bind Completion.robot? = none := by
      rcases hnext with ⟨id, -, rfl, -⟩ | ⟨rfl, -⟩
      · rfl
      · rfl
    rw [Construction.note_gives earlier v hrobot, hrobot]
    refine ⟨?_, ?_, ?_, hlt, hid ▸ h.bound⟩
    · -- the end routine is still that of the last construction that has succeeded
      change e'.machine.retained = _
      rw [hretained, h.retained]
      rfl
    · intro c' hc
      rcases List.mem_cons.mp hc with rfl | hc
      · exact ⟨nofun, nofun⟩
      · exact h.whole c' (List.mem_cons_of_mem _ hc)
    · rcases hnext with ⟨id, rfl, -, hreturned⟩ | ⟨-, hidle⟩
      · change e'.task.progress.Of _
        rw [hreturned]
        exact ⟨earlier, rfl⟩
      · exact progress_of_idle hidle _
  | @builds _ r hprogress hretained hfinish hidle =>
    rw [hprogress] at hbefore
    obtain ⟨earlier, rfl⟩ := hbefore
    refine ⟨?_, ?_, progress_of_idle hidle _, hlt, ?_⟩
    · change e'.machine.retained = _
      rw [hretained, h.retained]
      rfl
    · intro c' hc
      rcases List.mem_cons.mp hc with rfl | hc
      · refine ⟨fun r' hr => ?_, fun r' hr => ?_⟩
        · obtain rfl := Option.some.inj hr
          rfl
        · obtain rfl := Option.some.inj hr
          exact hfinish
      · exact h.whole c' (List.mem_cons_of_mem _ hc)
    · exact ⟨fun _ => nofun, fun _ => .inr nofun⟩

/-- **Every move keeps what is retained.** -/
theorem move {x y : Held × Shared} {l : Dealing} (h : Kept cs x) (hmove : Move x l y) :
    Kept (Construction.note cs l) y := by
  cases hmove with
  | calls hidle hbegins => exact h.calls hbegins
  | goesOn hinner hmove => exact h.inner hinner hmove
  | settles hmode =>
    exact h.settles (Engine.retains _ _) ((Engine.Rests.of_ended hmode).settle _).id_eq
  | @binds e s r =>
    refine ⟨h.retained, h.whole, h.progress, ?_, ?_⟩
    · change _ < (s.setInbox e.id (s.inbox e.id).bind).inboxes.size
      rw [Shared.size_setInbox]
      exact h.inbox_lt
    · have hbound : ((e.bindRobot s r).1.inbox e.id).isBound = true := by
        change ((s.setInbox e.id (s.inbox e.id).bind).inbox e.id).isBound = true
        rw [Shared.inbox_setInbox h.inbox_lt]
        rfl
      exact ⟨fun _ => h.bound.mp (.inr nofun), fun _ => .inl hbound⟩
  | @closes e s hidle =>
    have hid := e.id_close
    have hretains := Engine.retains_close hidle
    rcases hclose : e.close with ⟨c, e'⟩
    rw [hclose] at hid hretains
    -- an inbox that is closed is as bound as before
    have hclosed : Kept cs (⟨e, none⟩, (e.closeInbox s).1) := by
      refine ⟨h.retained, h.whole, h.progress, ?_, ?_⟩
      · change _ < (s.setInbox e.id (s.inbox e.id).close).inboxes.size
        rw [Shared.size_setInbox]
        exact h.inbox_lt
      · change ((s.setInbox e.id (s.inbox e.id).close).inbox e.id).isBound = true ∨ _ ↔ _
        rw [Shared.inbox_setInbox h.inbox_lt]
        exact h.bound
    have hkept := hclosed.settles hretains hid
    cases hretains with
    | quiet hrobot =>
      rw [Construction.note_quiet cs hrobot, hrobot] at hkept
      exact hkept
    | builds hprogress =>
      rw [hidle] at hprogress
      cases hprogress

/-- What is kept stays in step with the constructions. -/
theorem run {x y : Held × Shared} {happened : List Dealing} (hx : Kept [] x)
    (hrun : Run Move x happened y) : Kept (constructions happened) y := by
  induction hrun with
  | refl => exact hx
  | tail run step ih =>
    rw [constructions_append]
    exact ih.move step

end Kept

/-! ### A construction that fails -/

/-- **A construction under way**, by what was retained when it began, and whether calls were
accepted then. -/
structure Constructing (retained : Retained) (isBound : Bool) (x : Held × Shared) : Prop where
  ready : x.1.ready = none
  bound : (x.2.inbox x.1.engine.id).isBound = isBound
  endRoutine : x.1.engine.machine.retained.endRoutine = retained.endRoutine
  /-- The robot is replaced once another one has been returned. -/
  progress : x.1.engine.task.progress = .awaited ∧ x.1.engine.machine.retained = retained
    ∨ ∃ id, x.1.engine.task.progress = .returned id

namespace Constructing

variable {retained : Retained} {isBound : Bool} {x y : Held × Shared} {l : Dealing}

/-- The owner waits until the construction is over. -/
theorem busy (h : Constructing retained isBound x) : x.1.engine.task ≠ .idle := by
  intro hidle
  have hprogress := h.progress
  rw [hidle] at hprogress
  rcases hprogress with ⟨hawaited, -⟩ | ⟨id, hreturned⟩
  · cases hawaited
  · cases hreturned

/-- A construction that is under way stays so until it is settled. -/
theorem move (h : Constructing retained isBound x) (hmove : Move x l y)
    (hgoes : ∀ given c, l ≠ .settles given (some c)) : Constructing retained isBound y := by
  cases hmove with
  | calls hidle hbegins => exact absurd hidle h.busy
  | closes hidle => exact absurd hidle h.busy
  | binds r => exact absurd h.ready nofun
  | goesOn hinner hmove =>
    obtain ⟨htask, hid, hbound, -⟩ := Engine.inner_frame hmove hinner
    have hretained := Engine.retained_inner hmove hinner
    refine ⟨h.ready, ?_, ?_, ?_⟩
    · dsimp only
      rw [hid, hbound]
      exact h.bound
    · dsimp only
      rw [hretained]
      exact h.endRoutine
    · dsimp only
      rw [htask, hretained]
      exact h.progress
  -- the construction goes on, since it has not completed with this
  | @settles e s result hmode =>
    have hid := ((Engine.Rests.of_ended hmode).settle result).id_eq
    have hretains := e.retains result
    rcases hsettle : e.settle result with ⟨c, e'⟩
    rw [hsettle] at hid hretains hgoes
    dsimp only at hid hgoes ⊢
    have hbound : (s.inbox e'.id).isBound = isBound := by
      rw [hid]
      exact h.bound
    generalize e.given result = given at hretains hgoes
    cases hretains with
    | quiet hrobot hretained hnext =>
      -- either the next call has begun, or something is completed, which is excluded
      rcases hnext with ⟨-, hprogress⟩ | ⟨hsome, -⟩
      · refine ⟨hrobot, hbound, ?_, ?_⟩
        · dsimp only
          rw [hretained]
          exact h.endRoutine
        · dsimp only
          rw [hprogress, hretained]
          exact h.progress
      · obtain ⟨c', hc⟩ := Option.ne_none_iff_exists'.mp hsome
        exact absurd (by rw [hc]) (hgoes none c')
    | gives hprogress hretained hnext =>
      rcases hnext with ⟨id, -, rfl, hreturned⟩ | ⟨rfl, -⟩
      · refine ⟨rfl, hbound, ?_, .inr ⟨id, hreturned⟩⟩
        dsimp only
        rw [hretained]
        exact h.endRoutine
      · exact absurd rfl (hgoes _ _)
    | builds => exact absurd rfl (hgoes _ _)

/-- Until its call is over, the construction is under way, whatever else happens. -/
theorem run {later : List Dealing} (h : Constructing retained isBound x)
    (hrun : Run Move x later y) (hgoes : ∀ given c, .settles given (some c) ∉ later) :
    Constructing retained isBound y ∧ y.1.engine.id = x.1.engine.id := by
  induction hrun with
  | refl => exact ⟨h, rfl⟩
  | tail run step ih =>
    obtain ⟨hbefore, hid⟩ := ih fun given c hmem => hgoes given c (List.mem_append_left _ hmem)
    refine ⟨hbefore.move step fun given c hl => ?_, step.id_eq.trans hid⟩
    rw [hl] at hgoes
    exact hgoes given c (List.mem_append_right _ (List.mem_singleton_self _))

/-- **A construction that fails** leaves the end routine as it was, and accepts no calls that were
not accepted before. It leaves the robot as it was, too, unless a start routine is missing. -/
theorem fails {given : Option Value} {err : SessionError} (h : Constructing retained isBound x)
    (hmove : Move x (.settles given (some (.failed err))) y) :
    (y.2.inbox y.1.engine.id).isBound = isBound
      ∧ y.1.engine.machine.retained.endRoutine = retained.endRoutine
      ∧ (err ≠ .missingStart → y.1.engine.machine.retained = retained) := by
  generalize hl : Dealing.settles given (some (.failed err)) = l at hmove
  cases hmove with
  | @settles e s result hmode =>
    have hid := ((Engine.Rests.of_ended hmode).settle result).id_eq
    have hretains := e.retains result
    rcases hsettle : e.settle result with ⟨c, e'⟩
    rw [hsettle] at hid hretains hl
    obtain ⟨rfl, rfl⟩ := Dealing.settles.inj hl
    dsimp only at hid ⊢
    rw [hid]
    refine ⟨h.bound, ?_⟩
    generalize e.given result = given at hretains
    -- a failure before the value is given retains nothing, one after it is that of a missing start
    -- routine
    cases hretains with
    | quiet hrobot hretained hnext hmissing =>
      rw [hretained]
      refine ⟨h.endRoutine, fun herr => ?_⟩
      rcases h.progress with ⟨-, hsame⟩ | ⟨id, hreturned⟩
      · exact hsame
      · exact absurd (hmissing id err hreturned rfl) herr
    | gives hprogress hretained hnext =>
      rw [hretained]
      refine ⟨h.endRoutine, fun herr => ?_⟩
      rcases hnext with ⟨id, -, hnone, -⟩ | ⟨hfailed, -⟩
      · cases hnone
      · cases hfailed
        exact absurd rfl herr
  | _ => cases hl

end Constructing
/-! ### Runs -/

/-- Nothing has been constructed in an engine that has just been opened. -/
theorem kept_of_openIn {s₀ s₁ : Shared} {interval : Nat} {e₀ : Engine} {signals : List Signal}
    (hopen : Engine.openIn s₀ interval = (e₀, s₁, signals)) : Kept [] (⟨e₀, none⟩, s₁) := by
  obtain ⟨-, hlt, hinbox⟩ := Engine.openIn_sound hopen
  cases hopen
  refine ⟨rfl, fun c hc => absurd hc List.not_mem_nil, trivial, hlt, ?_⟩
  dsimp only
  rw [hinbox]
  exact ⟨fun h => h.elim nofun fun hnone => absurd rfl hnone, fun h => absurd rfl h⟩

/-- Until another constructor returns, the robot and its end routine belong to one
construction. -/
theorem Kept.together {later earlier : List Construction} {c : Construction} {r : Robot}
    {x : Held × Shared} (h : Kept (later ++ c :: earlier) x) (hbuilt : c.built = some r)
    (hlater : ∀ c' ∈ later, c'.given = none) :
    c.given = some (.table r.instance_)
      ∧ x.1.engine.machine.retained = ⟨.table r.instance_, r.finish⟩ := by
  have hgiven : c.given = some (.table r.instance_) :=
    (h.whole c (List.mem_append_right _ List.mem_cons_self)).given r hbuilt
  have hunbuilt : ∀ c' ∈ later, c'.built = none := by
    intro c' hc
    cases hrobot : c'.built with
    | none => rfl
    | some r' =>
      -- nothing has been built without an instance
      have hinstance := (h.whole c' (List.mem_append_left _ hc)).given r' hrobot
      rw [hlater c' hc] at hinstance
      cases hinstance
  refine ⟨hgiven, h.retained.trans ?_⟩
  unfold Construction.instance_ Construction.robot
  rw [List.findSome?_append, List.findSome?_append, List.findSome?_eq_none_iff.mpr hlater,
    List.findSome?_eq_none_iff.mpr hunbuilt, Option.none_or, Option.none_or, List.findSome?_cons,
    List.findSome?_cons, hgiven, hbuilt]
  rfl

/-- The end routine is called with the robot that is retained, if there is one. -/
theorem Kept.take_finish {cs : List Construction} {e : Engine} {s : Shared} {ready : Option Robot}
    {reason : DrainReason} {y : Held × Shared} (h : Kept cs (⟨e, ready⟩, s))
    (hmove : Move (⟨e, ready⟩, s) (.goesOn (.take reason (some .finish))) y) :
    y.1.engine.machine = Machine.drain { e.machine with mode := .run false } reason
      (match e.machine.retained.endRoutine with
        | some f => .call f [e.machine.retained.instance_] .finish
        | none => .take) := by
  generalize hl : Deed.take reason (some .finish) = l at hmove
  cases hmove with
  | goesOn hinner hmove =>
    cases hmove with
    | take hmode =>
      obtain ⟨rfl, hfound⟩ := Deed.take.inj hl
      have htaken : Library.Robot.taken e.machine.heap e.machine.retained .finish
          = match e.machine.retained.endRoutine with
            | some f => .call f [e.machine.retained.instance_] .finish
            | none => .take := by
        have hend := congrArg Retained.endRoutine h.retained
        dsimp only at hend
        -- what is retained as an end routine is a function
        cases hrobot : Construction.robot cs with
        | none =>
          rw [hrobot] at hend
          rw [hend]
          unfold Library.Robot.taken
          dsimp only
          rw [hend]
          rfl
        | some r =>
          obtain ⟨c, hc, hbuilt⟩ := List.exists_of_findSome?_eq_some hrobot
          rw [hrobot] at hend
          unfold Library.Robot.taken
          dsimp only
          cases hfinish : r.finish with
          | none =>
            rw [hend, Option.bind_some, hfinish]
            rfl
          | some f =>
            obtain ⟨id, rfl⟩ := (h.whole c hc).finish r hbuilt f hfinish
            rw [hend, Option.bind_some, hfinish]
            rfl
      rw [← htaken]
      change e.machine.answer (.invocation (s.inbox e.id).pop.1) = _
      rw [← hfound]
      exact Machine.answer_drainTake_some hmode .finish
    | _ => cases hl

/-- **What an engine retains**, after every history of calls, successful or not, and of
deliveries. The robot is what the last constructor has returned, the end routine is that of the
last construction that has succeeded, and a request to end calls this routine with this robot.

They belong to one construction until another constructor returns. A construction that fails
leaves the end routine, and whether calls are accepted. It leaves the robot as well, unless the
start routine is missing from what its constructor has returned. -/
theorem retained_of_run {s₀ s₁ s : Shared} {interval : Nat} {e₀ e : Engine}
    {signals : List Signal} {happened : List Dealing} {ready : Option Robot}
    (hopen : Engine.openIn s₀ interval = (e₀, s₁, signals))
    (hrun : Run Move (⟨e₀, none⟩, s₁) happened (⟨e, ready⟩, s)) :
    e.machine.retained = ⟨Construction.instance_ (constructions happened),
        (Construction.robot (constructions happened)).bind Robot.finish⟩
      ∧ (∀ {later c earlier r}, constructions happened = later ++ c :: earlier →
        c.built = some r → (∀ c' ∈ later, c'.given = none) →
        c.given = some (.table r.instance_) ∧ e.machine.retained = ⟨.table r.instance_, r.finish⟩)
      ∧ (∀ {reason y}, Move (⟨e, ready⟩, s) (.goesOn (.take reason (some .finish))) y →
        y.1.engine.machine = Machine.drain { e.machine with mode := .run false } reason
          (match e.machine.retained.endRoutine with
            | some f => .call f [e.machine.retained.instance_] .finish
            | none => .take))
      ∧ (ready = none →
        ((s.inbox e.id).isBound = true ↔ Construction.robot (constructions happened) ≠ none))
      ∧ ∀ {module later x given err y}, ready = none → e.task = .idle →
        Run Move (⟨e.construct module, none⟩, s) later x →
        (∀ given c, .settles given (some c) ∉ later) →
        Move x (.settles given (some (.failed err))) y →
          (y.2.inbox e.id).isBound = (s.inbox e.id).isBound
            ∧ y.1.engine.machine.retained.endRoutine = e.machine.retained.endRoutine
            ∧ (err ≠ .missingStart → y.1.engine.machine.retained = e.machine.retained) := by
  have hkept := (kept_of_openIn hopen).run hrun
  -- what is retained is the last instance given; the end routine is that of the last robot built,
  -- and the two need not be of one construction
  refine ⟨hkept.retained, ?_, hkept.take_finish, ?_, ?_⟩
  · intro later c earlier r hcs hbuilt hlater
    rw [hcs] at hkept
    exact hkept.together hbuilt hlater
  · rintro rfl
    rw [← hkept.bound]
    exact ⟨.inl, fun h => h.elim (fun hbound => hbound) fun hnone => absurd rfl hnone⟩
  · intro module later x given err y hready hidle hlater hgoes hfails
    have hbegins : e.Begins (e.construct module) := .construct module
    have hid : (e.construct module).id = e.id := Engine.id_begins hbegins
    have hretained := Engine.retained_begins hbegins
    have htask : (e.construct module).task = .findConstructor := Engine.task_lookUp ..
    -- the construction begins by looking up `new`, with everything still as the run left it
    have hbegun : Constructing e.machine.retained (s.inbox e.id).isBound
        (⟨e.construct module, none⟩, s) := by
      refine ⟨rfl, by rw [hid], by rw [hretained], .inl ⟨?_, hretained⟩⟩
      dsimp only
      rw [htask]
      rfl
    obtain ⟨hunderway, hsame⟩ := hbegun.run hlater hgoes
    have hfailed := hunderway.fails hfails
    rw [hfails.id_eq, hsame, hid] at hfailed
    exact hfailed

/-! ### A robot without its end routine -/

/-- A program that constructs a robot the first time, and nothing the second. -/
def fickle : String :=
  "local n = 0 return \x7bnew = function() n = n + 1 if n == 1 then return \x7b" ++
    "startCompetition = function() luabot.sleep(0) end, endCompetition = function() end\x7d" ++
    " end end\x7d"

/-- What the engine does next, if the owner waits for it and no call is taken. -/
def next (x : Held × Shared) : Option (Dealing × Held × Shared) :=
  match x with
  | (⟨e, none⟩, s) =>
    match e.machine.isWaiting, e.machine.mode, e.task with
    | false, _, _ => some (.goesOn .step, ⟨{ e with machine := e.machine.step }, none⟩, s)
    | true, .ended _, .idle => none
    | true, .ended result, _ =>
      some (.settles (e.given result) (e.settle result).1,
        ⟨(e.settle result).2, (e.settle result).1.bind Completion.robot?⟩, s)
    | true, .ask w, _ =>
      match w.question with
      | .take => none
      | q => some (.goesOn .serve, ⟨(e.serve s q).2.1, none⟩, (e.serve s q).2.2.1)
    | true, _, _ => none
  | _ => none

/-- What happens next is a move. -/
theorem next_move {x y : Held × Shared} {l : Dealing} (h : next x = some (l, y)) : Move x l y := by
  unfold next at h
  -- a held robot ends the following, and so does an engine that asks for a call
  split at h
  · split at h
    · rename_i hgo
      cases h
      exact .goesOn rfl (.step hgo)
    · cases h
    · rename_i hmode _
      cases h
      exact .settles hmode
    · rename_i hmode
      split at h
      · cases h
      · rename_i htake
        cases h
        exact .goesOn rfl (.serve hmode htake rfl)
    · cases h
  · cases h

/-- A history after which an engine is in some state, with the constructions so far. -/
def Reached (x₀ x : Held × Shared) (cs : List Construction) : Prop :=
  ∃ happened, Run Move x₀ happened x ∧ constructions happened = cs

/-- A state is reached by one move more. -/
theorem Reached.move {x₀ x y : Held × Shared} {cs : List Construction} {l : Dealing}
    (h : Reached x₀ x cs) (hmove : Move x l y) : Reached x₀ y (Construction.note cs l) := by
  obtain ⟨happened, hrun, rfl⟩ := h
  exact ⟨_, .tail hrun hmove, constructions_append happened l⟩

/-- Lets the engine go on, `fuel` moves at most, and tells what has come of the owner's call. -/
def follow : Nat → Held × Shared → List Construction →
    Option Completion × (Held × Shared) × List Construction
  | 0, x, cs => (none, x, cs)
  | fuel + 1, x, cs =>
    match next x with
    | none => (none, x, cs)
    | some (l, y) =>
      match l with
      | .settles _ (some c) => (some c, y, Construction.note cs l)
      | _ => follow fuel y (Construction.note cs l)

/-- It may be reached by a run that is followed. -/
theorem Reached.follow {x₀ x y : Held × Shared} {cs cs' : List Construction} {fuel : Nat}
    {c : Option Completion} (h : Reached x₀ x cs) (hfollow : follow fuel x cs = (c, y, cs')) :
    Reached x₀ y cs' := by
  induction fuel generalizing x cs with
  | zero =>
    -- out of fuel, or stuck: the state is the one that has been reached
    cases hfollow
    exact h
  | succ fuel ih =>
    unfold Held.follow at hfollow
    split at hfollow
    · cases hfollow
      exact h
    · rename_i l z hnext
      have hmoved := h.move (next_move hnext)
      split at hfollow
      · cases hfollow
        exact hmoved
      · exact ih hmoved hfollow

/-- An engine constructs a robot, which is bound and asked to end. It constructs another one, and
runs the first, until a call is about to be taken. -/
def ending (fuel : Nat) (source : String) (e : Engine) (s : Shared) :
    Option ((Held × Shared) × List Construction) :=
  match e.load .empty source with
  | .error _ => none
  | .ok e =>
    match follow fuel (⟨e, none⟩, s) [] with
    | (some (.module table), (⟨e, none⟩, s), cs) =>
      match e.task, follow fuel (⟨e.construct table, none⟩, s) ({} :: cs) with
      | .idle, (_, (⟨e, some r⟩, s), cs) =>
        match e.task, follow fuel (⟨e.construct table, none⟩,
            ((e.bindRobot s r).1.post e.id .finish).2) ({} :: cs) with
        | .idle, (_, (⟨e, none⟩, s), cs) =>
          match e.task with
          | .idle => some (follow fuel (⟨e.start r, none⟩, s) cs).2
          | _ => none
        | _, _ => none
      | _, _ => none
    | _ => none

/-- A state is reached from itself. -/
theorem Reached.refl (x : Held × Shared) : Reached x x [] :=
  ⟨[], .refl, rfl⟩

/-- A program may be loaded on the way. -/
theorem Reached.load {x₀ : Held × Shared} {e e' : Engine} {s : Shared} {cs : List Construction}
    {path : ByteArray} {source : String} (h : Reached x₀ (⟨e, none⟩, s) cs) (hidle : e.task = .idle)
    (hload : e.load path source = .ok e') : Reached x₀ (⟨e', none⟩, s) cs := by
  have hmoved := h.move (.calls hidle (.load hload))
  unfold Engine.isConstructing at hmoved
  rw [Engine.task_load hload] at hmoved
  exact hmoved

/-- A construction is under way when it has begun. -/
theorem isConstructing_construct (e : Engine) (module : Nat) :
    (e.construct module).isConstructing = true := by
  unfold Engine.isConstructing Engine.construct
  rw [Engine.task_lookUp]

/-- A construction may be begun on the way. -/
theorem Reached.construct {x₀ : Held × Shared} {e : Engine} {s : Shared} {cs : List Construction}
    (h : Reached x₀ (⟨e, none⟩, s) cs) (hidle : e.task = .idle) (module : Nat) :
    Reached x₀ (⟨e.construct module, none⟩, s) ({} :: cs) := by
  have hmoved := h.move (.calls hidle (.construct module))
  rw [isConstructing_construct] at hmoved
  exact hmoved

/-- **The program is run to the end routine.** -/
theorem reached_ending {fuel : Nat} {source : String} {e₀ : Engine} {s₀ : Shared} {x : Held × Shared}
    {cs : List Construction} (hidle₀ : e₀.task = .idle) (h : ending fuel source e₀ s₀ = some (x, cs)) :
    Reached (⟨e₀, none⟩, s₀) x cs := by
  unfold ending at h
  split at h
  · cases h
  · rename_i e₁ hload
    -- each look at the script's definition is one more move of the owner
    have hloading := (Reached.refl (⟨e₀, none⟩, s₀)).load hidle₀ hload
    split at h
    · rename_i hmodule
      have hloaded := hloading.follow hmodule
      split at h
      · rename_i _ r _ _ hidle hfirst
        have hbuilt := (hloaded.construct hidle _).follow hfirst
        split at h
        · rename_i hidle' hsecond
          -- the first robot is bound, and an end is asked for before the second construction fails
          have hposted := (hbuilt.move (.binds r)).move (.goesOn rfl (.post .finish))
          have hfailed := (hposted.construct hidle' _).follow hsecond
          split at h
          · rename_i hidle''
            have hstarted := hfailed.move (.calls hidle'' (.start r))
            exact hstarted.follow (Prod.ext rfl (Option.some.inj h))
          · cases h
        · cases h
      · cases h
    · cases h

/-- Whether a request to end is about to be taken, with a robot and an end routine of different
constructions. -/
def isParted : (Held × Shared) × List Construction → Bool
  | ((⟨e, none⟩, s), [⟨some .nil, none⟩, ⟨some (.table _), some _⟩]) =>
    (e.machine.mode matches .ask (.drainTake _)) && (s.inbox e.id).queue = [.finish]
      && e.machine.retained.endRoutine.isSome
  | _ => false

set_option maxRecDepth 100000 in
/-- It comes to an end routine that belongs to another robot. -/
theorem ending_isParted :
    (ending 100 fickle (Engine.openIn {} 1000).1 (Engine.openIn {} 1000).2.1).any isParted = true := by
  decide +kernel

/-- The second construction has replaced the robot by nothing, and left the end routine. -/
theorem reached_parted : ∃ happened e s table r reason f,
    Run Move (⟨(Engine.openIn {} 1000).1, none⟩, (Engine.openIn {} 1000).2.1) happened (⟨e, none⟩, s)
      ∧ constructions happened = [⟨some .nil, none⟩, ⟨some (.table table), some r⟩]
      ∧ Move (⟨e, none⟩, s) (.goesOn (.take reason (some .finish)))
        (⟨e.answer (.invocation (s.inbox e.id).pop.1), none⟩,
          s.setInbox e.id (s.inbox e.id).pop.2)
      ∧ e.machine.retained = ⟨.nil, some f⟩ := by
  have hparted := ending_isParted
  rcases hending : ending 100 fickle (Engine.openIn {} 1000).1 (Engine.openIn {} 1000).2.1 with ⟨⟩ | ⟨x, cs⟩
  · rw [hending] at hparted
    cases hparted
  · rw [hending] at hparted
    change isParted (x, cs) = true at hparted
    unfold isParted at hparted
    split at hparted
    · rename_i e s table r heq
      obtain ⟨rfl, rfl⟩ := Prod.mk.inj heq
      obtain ⟨happened, hrun, hcs⟩ := reached_ending rfl hending
      rw [Bool.and_eq_true, Bool.and_eq_true, decide_eq_true_iff] at hparted
      obtain ⟨⟨hmode, hqueue⟩, hfinish⟩ := hparted
      obtain ⟨f, hf⟩ := Option.isSome_iff_exists.mp hfinish
      -- what the engine retains is read off the list of constructions
      have hkept := (kept_of_openIn rfl).run hrun
      rw [hcs] at hkept
      split at hmode
      · rename_i reason hmode'
        have hfound : (s.inbox e.id).pop.1 = some .finish := by
          rw [Inbox.pop_head, hqueue]
          rfl
        have htake : Engine.Move (e, s) (.take reason (s.inbox e.id).pop.1) _ := .take hmode'
        have hmove : Move (⟨e, none⟩, s) (.goesOn (.take reason (s.inbox e.id).pop.1)) _ :=
          .goesOn rfl htake
        rw [hfound] at hmove
        refine ⟨happened, e, s, table, r, reason, f, hrun, hcs, ?_, ?_⟩
        · rw [hfound]
          exact hmove
        · have hretained := hkept.retained
          dsimp only at hretained
          rw [hretained] at hf ⊢
          dsimp only at hf
          rw [hf]
          rfl
      · cases hmode
    · cases hparted

/-- **A robot and its end routine do not always belong together.** After a construction that has
failed, the end routine of another robot is called with what is retained of it. -/
theorem not_together :
    ¬∀ {s₀ s₁ s : Shared} {interval : Nat} {e₀ e : Engine} {signals : List Signal}
      {happened : List Dealing} {ready : Option Robot} {reason : DrainReason} {y : Held × Shared}
      {f self : Value}, Engine.openIn s₀ interval = (e₀, s₁, signals) →
      Run Move (⟨e₀, none⟩, s₁) happened (⟨e, ready⟩, s) →
      Move (⟨e, ready⟩, s) (.goesOn (.take reason (some .finish))) y →
      y.1.engine.machine = Machine.drain { e.machine with mode := .run false } reason
        (.call f [self] .finish) →
      ∃ c ∈ constructions happened, c.given = some self ∧ c.built.bind Robot.finish = some f := by
  intro hclaim
  obtain ⟨happened, e, s, table, r, reason, f, hrun, hcs, hmove, hretained⟩ := reached_parted
  have htake := ((kept_of_openIn rfl).run hrun).take_finish hmove
  rw [hretained] at htake
  -- of the two constructions the later gave the instance and failed, and the earlier built the robot;
  -- neither did both
  obtain ⟨c, hc, hgiven, hbuilt⟩ := hclaim rfl hrun hmove htake
  rw [hcs] at hc
  rcases List.mem_cons.mp hc with rfl | hc
  · cases hbuilt
  · obtain rfl := List.mem_singleton.mp hc
    cases hgiven

/-- The end routine of the first robot is called without a robot. -/
theorem retained_of_run_fickle : ∃ happened e s f,
    Run Move (⟨(Engine.openIn {} 1000).1, none⟩, (Engine.openIn {} 1000).2.1) happened (⟨e, none⟩, s)
      ∧ (s.inbox e.id).isBound = true ∧ ∃ reason y,
        Move (⟨e, none⟩, s) (.goesOn (.take reason (some .finish))) y
          ∧ y.1.engine.machine = Machine.drain { e.machine with mode := .run false } reason
            (.call f [.nil] .finish) := by
  obtain ⟨happened, e, s, table, r, reason, f, hrun, hcs, hmove, hretained⟩ := reached_parted
  obtain ⟨-, -, hdelivers, hbound, -⟩ := retained_of_run rfl hrun
  refine ⟨happened, e, s, f, hrun, ?_, reason, _, hmove, ?_⟩
  · rw [hbound rfl, hcs]
    nofun
  · rw [hdelivers hmove, hretained]

end Held
end RobotSession
