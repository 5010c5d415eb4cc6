import RobotSession.Engine.Run

/-!
# Looking past a part of an engine

Between two calls of a task, an engine consults the store of its interpreter and nothing else. So
one may look past the hook of an interpreter, or past the time at which an engine was opened:
whether one does so before or after, what the engine makes of its task is the same.

A *view* (`Engine.View`) says what is looked past: in the interpreter, of the time, and of the
interval at which the hook is called. Its laws say that it leaves the store alone and that calls
begin as they did. From these follow the equations for all that an engine does between two calls.

* `Engine.View` — what is looked past, and its laws.
* `View.engine`, `View.shared` — an engine, and what the threads share, as they are seen.
* `View.engine_construct`, `View.engine_start`, `View.engine_loadFile` — how tasks begin.
* `View.settle_engine`, `View.close_engine` — what comes of a call, and of the finalizers.
-/

namespace RobotSession

open Lua

namespace Engine

/-- **A way to look at an engine** that what it does between two calls does not depend on. -/
structure View where
  machine : Machine → Machine
  clock : Nat → Nat
  interval : Nat → Nat
  heap : ∀ m, (machine m).heap = m.heap
  work : ∀ {α : Type} (m : Machine) (w : Work α),
    (machine m).work w = ((m.work w).1, machine (m.work w).2)
  start : ∀ m f args, machine (m.start f args) = (machine m).start f args
  ended : ∀ (m : Machine) result,
    machine { m with mode := .ended result } = { machine m with mode := .ended result }
  retained : ∀ (m : Machine) (change : Retained → Retained),
    machine { m with retained := change m.retained }
      = { machine m with retained := change (machine m).retained }
  collecting : ∀ (m : Machine) collections,
    machine (m.collecting collections) = (machine m).collecting collections
  /-- A hook is removed from what is seen, too. -/
  closing : ∀ (m : Machine) heap,
    machine { m with interval := none, heap } = { machine m with interval := none, heap }

namespace View

variable {v : View} {e e' : Engine} {s s' : Shared}

/-- An engine, as it is seen. -/
def engine (v : View) (e : Engine) : Engine :=
  { e with machine := v.machine e.machine, openedAt := v.clock e.openedAt }

/-- What the threads share, as it is seen. -/
def shared (v : View) (s : Shared) : Shared :=
  { s with clock := v.clock s.clock }

/-- A task does not show more or less. -/
@[simp]
theorem engine_task : (v.engine e).task = e.task := rfl

/-- The store is seen as it is. -/
@[simp]
theorem engine_heap : (v.engine e).machine.heap = e.machine.heap :=
  v.heap e.machine

/-- What is seen of an engine with another interpreter. -/
theorem engine_withMachine {m m' : Machine} (h : v.machine m = m') :
    v.engine { e with machine := m } = { v.engine e with machine := m' } :=
  congrArg (fun machine => ({ v.engine e with machine } : Engine)) h

/-- What is seen to be shared differs in nothing but the time. -/
theorem shared_cases (h : v.shared s' = v.shared s) :
    v.clock s'.clock = v.clock s.clock ∧ s' = { s with clock := s'.clock } :=
  ⟨congrArg Shared.clock h, congrArg (fun x : Shared => { x with clock := s'.clock }) h⟩

/-- What the threads share is seen alike, apart from the time. -/
theorem shared_eq (hclock : v.clock s'.clock = v.clock s.clock)
    (hrest : s' = { s with clock := s'.clock }) : v.shared s' = v.shared s := by
  rw [hrest]
  exact congrArg (fun clock => { s with clock }) hclock

/-- Engines that are seen alike have the same number. -/
theorem id_eq (he : v.engine e' = v.engine e) : e'.id = e.id :=
  show (v.engine e').id = (v.engine e).id by rw [he]

/-! ### Tasks begin -/

/-- A call is begun. -/
theorem engine_call (f : Value) (args : List Value) (task : Task) :
    v.engine (e.call f args task) = (v.engine e).call f args task :=
  congrArg (fun machine => ({ v.engine e with machine, task } : Engine)) (v.start e.machine f args)

/-- A field is looked up in the store. -/
theorem engine_lookUp (table : Nat) (name : String) (task : Task) :
    v.engine (e.lookUp table name task) = (v.engine e).lookUp table name task := by
  have hended : ∀ result, v.engine { e with machine := { e.machine with mode := .ended result }, task }
      = { v.engine e with machine := { (v.engine e).machine with mode := .ended result }, task } :=
    fun result => congrArg (fun machine => ({ v.engine e with machine, task } : Engine))
      (v.ended e.machine result)
  -- the lookup reads the heap alone, which a view leaves as it is
  have hread : Access.read (v.engine e).machine.heap (.table table) (.text name)
      = Access.read e.machine.heap (.table table) (.text name) := by
    rw [engine_heap]
  unfold lookUp
  dsimp only
  rw [hread]
  split
  · exact hended _
  · exact engine_call ..
  · exact hended _

/-- A robot is constructed. -/
theorem engine_construct (table : Nat) :
    v.engine (e.construct table) = (v.engine e).construct table :=
  engine_lookUp ..

/-- Its start routine is called. -/
theorem engine_start (r : Robot) : v.engine (e.start r) = (v.engine e).start r :=
  engine_call ..

/-- A program is loaded from its text. -/
theorem engine_load (path : ByteArray) (source : String) :
    (e.load path source).map v.engine = (v.engine e).load path source := by
  unfold load
  dsimp only
  split
  · rfl
  · rfl
  · rw [engine_heap, show (v.engine e).machine = v.machine e.machine from rfl, v.work]
    exact congrArg Except.ok (engine_call (e := { e with machine := _ }) ..)

/-- The text is read from a file, which is read alike. -/
theorem engine_loadFile (s : Shared) (path : ByteArray) :
    (e.loadFile s path).map v.engine = (v.engine e).loadFile s path := by
  unfold loadFile
  split
  · rfl
  · exact engine_load ..

/-! ### What comes of a task -/

/-- A robot is retained. -/
theorem engine_retain (value : Value) : v.engine (e.retain value) = (v.engine e).retain value :=
  engine_withMachine (v.retained e.machine fun r => { r with instance_ := value })

/-- So is its end routine. -/
theorem engine_retainEnd (f : Option Value) :
    v.engine (e.retainEnd f) = (v.engine e).retainEnd f :=
  engine_withMachine (v.retained e.machine fun r => { r with endRoutine := f })

/-- The outcome of a call is told by the result and the store. -/
theorem outcome_engine (result : Except Value (List Value)) (wantsValue : Bool) :
    (v.engine e).outcome result wantsValue
      = ((e.outcome result wantsValue).1, v.engine (e.outcome result wantsValue).2) := by
  unfold outcome
  dsimp only
  -- the conversion works on the heap, and the view is carried along
  rw [show (v.engine e).machine = v.machine e.machine from rfl, v.work]
  dsimp only
  split
  · rfl
  · rfl
  · rfl

/-- Finalizers are run one after the other, as the store has them. -/
theorem finalize_engine (tables : List Nat) :
    (v.engine e).finalize tables = ((e.finalize tables).1, v.engine (e.finalize tables).2) := by
  -- tables without a finalizer are passed over
  induction tables with
  | nil => rfl
  | cons table rest ih =>
    unfold finalize
    rw [engine_heap]
    split
    · exact congrArg (Prod.mk none) (engine_call ..).symm
    · exact ih

/-- **The finalizers are those of the store**, whatever is looked past. -/
theorem close_engine : (v.engine e).close = (e.close.1, v.engine e.close.2) := by
  have hclosing := engine_withMachine (e := e)
    (v.closing e.machine e.machine.heap.closed)
  unfold close
  dsimp only
  rw [engine_heap, ← finalize_engine, hclosing]
  rfl

/-- **What comes of a task is seen to be the same.** -/
theorem settle_engine (result : Except Value (List Value)) :
    (v.engine e).settle result = ((e.settle result).1, v.engine (e.settle result).2) := by
  have hout := outcome_engine (v := v) (e := e) result
  unfold settle
  rw [engine_task]
  -- every task looks at the outcome, and then begins or completes something that the view respects
  cases e.task with
  | idle => rfl
  | version =>
    dsimp only
    rw [hout]
    rcases e.outcome result true with ⟨o, e'⟩
    cases o with
    | value value =>
      dsimp only
      rw [engine_heap]
      rfl
    | _ => rfl
  | load =>
    dsimp only
    rw [hout]
    rcases e.outcome result true with ⟨o, e'⟩
    cases o with
    | value value =>
      cases value with
      | table id => rfl
      | _ =>
        dsimp only
        rw [engine_heap]
        rfl
    | _ => rfl
  | findConstructor =>
    dsimp only
    rw [hout]
    rcases e.outcome result true with ⟨o, e'⟩
    cases o with
    | value value =>
      cases value with
      | func f => exact congrArg (Prod.mk none) (engine_call ..).symm
      | _ => rfl
    | _ => rfl
  | construct =>
    dsimp only
    rw [hout]
    rcases e.outcome result true with ⟨o, e'⟩
    cases o with
    | value value =>
      dsimp only
      rw [← engine_retain]
      cases value with
      | table id => exact congrArg (Prod.mk none) (engine_lookUp ..).symm
      | _ => rfl
    | _ => rfl
  | findStart instance_ =>
    dsimp only
    rw [hout]
    rcases e.outcome result true with ⟨o, e'⟩
    cases o with
    | value value =>
      cases value with
      | func f => exact congrArg (Prod.mk none) (engine_lookUp ..).symm
      | _ => rfl
    | _ => rfl
  | findEnd instance_ start =>
    dsimp only
    rw [hout]
    rcases e.outcome result true with ⟨o, e'⟩
    -- whatever was found is retained, and the robot is complete
    have hdone : ∀ f, ((v.engine e').retainEnd f).done (.robot ⟨instance_, start, f⟩)
        = (some (.robot ⟨instance_, start, f⟩),
          v.engine ((e'.retainEnd f).done (.robot ⟨instance_, start, f⟩)).2) := by
      intro f
      rw [← engine_retainEnd]
      rfl
    cases o with
    | value value =>
      cases value with
      | _ => exact hdone _
    | error message => exact hdone none
    | panic p => rfl
  | start =>
    dsimp only
    rw [hout]
    rcases e.outcome result false with ⟨o, e'⟩
    cases o with
    | _ => rfl
  | finalize rest => exact finalize_engine rest

/-! ### Turns -/

/-- What a turn comes to, as it is seen. -/
def turn (v : View) (x : Turn × Engine × Shared × List Signal) :
    Turn × Engine × Shared × List Signal :=
  (x.1, v.engine x.2.1, v.shared x.2.2.1, x.2.2.2)

/-- Turns that are seen alike come to the same, in engines and shared states that are seen alike. -/
theorem turn_cases {x x' : Turn × Engine × Shared × List Signal} (h : v.turn x' = v.turn x) :
    ∃ t e e' s s' signals, x = (t, e, s, signals) ∧ x' = (t, e', s', signals)
      ∧ v.engine e' = v.engine e ∧ v.shared s' = v.shared s := by
  obtain ⟨t, e, s, signals⟩ := x
  obtain ⟨t', e', s', signals'⟩ := x'
  obtain ⟨ht, he, hs, hsignals⟩ : t' = t ∧ v.engine e' = v.engine e ∧ v.shared s' = v.shared s
      ∧ signals' = signals := by
    simpa only [turn, Prod.mk.injEq] using h
  exact ⟨t, e, e', s, s', signals, rfl, by rw [ht, hsignals], he, hs⟩

end View

end Engine

end RobotSession
