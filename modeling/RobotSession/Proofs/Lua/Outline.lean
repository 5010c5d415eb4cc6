import RobotSession.Lua.Open

/-!
# The outline of an interpreter

Most of what an interpreter holds does not matter for the delivery of queued calls: the
store, the values on the stacks, the number of nested calls. What matters is its
*outline*: the threads and which of them resumed which, what is left on each count of
instructions, and the **marks** on every stack, which are the calls of the host and the
deliveries that are under way there.

* `Frame.mark?`, `marks` — the marks on a stack.
* `Strand`, `Outline` — the outline of a thread, and of an interpreter.
* `Machine.outline_switchTo`, `Machine.outline_switchBack` — an outline does what its
  interpreter does.
-/

namespace RobotSession.Lua

/-! ### Marks -/

/-- What counts on a stack: a call of the host, or a delivery of queued calls. -/
inductive Mark
  | host
  | delivery (reason : DrainReason)
  deriving DecidableEq

/-- The mark of a frame, if it has one. -/
def Frame.mark? : Frame → Option Mark
  | .lua .. => none
  | .cont .entry _ => some .host
  | .cont c _ => c.drain?.map .delivery

/-- **The marks on a stack**, innermost first. -/
def marks (frames : List Frame) : List Mark :=
  frames.filterMap Frame.mark?

/-- A script frame leaves no mark. -/
@[simp]
theorem marks_lua (f : LuaFrame) (d : Nat) (rest : List Frame) :
    marks (.lua f d :: rest) = marks rest := rfl

/-- A call of the host does. -/
@[simp]
theorem marks_entry (d : Nat) (rest : List Frame) :
    marks (.cont .entry d :: rest) = .host :: marks rest := rfl

/-- So do only a few of the other frames. -/
theorem marks_cont {c : Cont} {d : Nat} {rest : List Frame} (hc : (Frame.cont c d).mark? = none) :
    marks (.cont c d :: rest) = marks rest := by
  unfold marks
  rw [List.filterMap_cons_none hc]

/-- A delivery leaves the mark of its reason. -/
theorem Frame.mark?_of_drain {c : Cont} {d : Nat} {reason : DrainReason}
    (hc : c.drain? = some reason) : (Frame.cont c d).mark? = some (.delivery reason) := by
  cases c with
  | drainLookup r i => exact congrArg (Option.map Mark.delivery) hc
  | drainCall r i => exact congrArg (Option.map Mark.delivery) hc
  | _ => cases hc

/-- So its frame is seen among the marks. -/
theorem marks_drain {c : Cont} {d : Nat} {rest : List Frame} {reason : DrainReason}
    (hc : c.drain? = some reason) :
    marks (.cont c d :: rest) = .delivery reason :: marks rest := by
  unfold marks
  rw [List.filterMap_cons_some (Frame.mark?_of_drain hc)]

/-- A frame at which no error ends has no mark. -/
theorem Frame.mark?_of_not_boundary {c : Cont} {d : Nat} (hc : c.isBoundary = false) :
    (Frame.cont c d).mark? = none := by
  cases c with
  | entry => cases hc
  | drainLookup r i => cases hc
  | drainCall r i => cases hc
  | _ => rfl

/-- A frame across which a thread can be suspended has no mark. -/
theorem Frame.mark?_of_isYieldable {f : Frame} (hf : f.isYieldable = true) : f.mark? = none := by
  cases f with
  | lua f d => rfl
  | cont c d =>
    cases c with
    | entry => cases hf
    | drainLookup r i => cases hf
    | drainCall r i => cases hf
    | _ => rfl

/-- A thread that can yield has no marks. -/
theorem marks_eq_nil_of_isYieldable {frames : List Frame}
    (h : frames.all Frame.isYieldable = true) : marks frames = [] := by
  unfold marks
  rw [List.filterMap_eq_nil_iff]
  intro f hf
  exact Frame.mark?_of_isYieldable (List.all_eq_true.mp h f hf)

/-- The frames that are kept to close variables have no marks. -/
@[simp]
theorem marks_closers (frames : List Frame) : marks (Machine.closers frames) = [] := by
  unfold marks
  rw [List.filterMap_eq_nil_iff]
  intro f hf
  have hkept := (List.mem_filter.mp hf).2
  cases f with
  | lua f d => rfl
  | cont c d => cases hkept

/-- An error that ends nowhere on a stack finds no marks on it. -/
theorem marks_eq_nil_of_boundary {frames : List Frame} (h : Machine.boundary frames = none) :
    marks frames = [] := by
  -- an error looks for its end frame by frame, from the top
  induction frames with
  | nil => rfl
  | cons f rest ih =>
    cases f with
    | lua f d => exact ih h
    | cont c d =>
      unfold Machine.boundary at h
      cases hc : c.isBoundary with
      | true =>
        -- the error would end here
        rw [if_pos hc] at h
        cases h
      | false =>
        rw [if_neg (by rw [hc]; exact Bool.false_ne_true)] at h
        rw [marks_cont (Frame.mark?_of_not_boundary hc)]
        exact ih h

/-- A hook that runs on a stack has left a mark there. -/
theorem mem_marks_of_isHook {frames : List Frame} (h : frames.any Frame.isHook = true) :
    ∃ ticket, Mark.delivery (.hook ticket) ∈ marks frames := by
  obtain ⟨f, hf, hhook⟩ := List.any_eq_true.mp h
  cases f with
  | lua f d => cases hhook
  | cont c d =>
    -- `isHook` looks at the reason of the delivery that the frame belongs to
    have hdrain : ∃ ticket, c.drain? = some (.hook ticket) := by
      unfold Frame.isHook Cont.isHook at hhook
      dsimp only at hhook
      split at hhook
      · exact ⟨_, ‹_›⟩
      · cases hhook
    obtain ⟨ticket, hc⟩ := hdrain
    exact ⟨ticket, List.mem_filterMap.mpr ⟨_, hf, Frame.mark?_of_drain hc⟩⟩

/-! ### Outlines -/

/-- The outline of a thread. -/
structure Strand where
  status : ThreadStatus
  marks : List Mark := []
  resumer : Option Nat := none
  hook : Option Nat := none

/-- What the outline shows of a thread. -/
def Thread.strand (t : Thread) : Strand :=
  { status := t.status, marks := Lua.marks t.frames, resumer := t.resumer, hook := t.hook }

/-- The outline of an interpreter. -/
structure Outline where
  strands : Array Strand
  current : Nat
  /-- The marks on the stack of the thread that runs. -/
  marks : List Mark
  interval : Option Nat
  owner : Nat
  ticket : Nat

namespace Outline

variable (o : Outline)

/-- The outline of a thread; what is no thread counts as a dead one. -/
def strand (id : Nat) : Strand :=
  o.strands.getD id { status := .dead }

/-- The thread that runs is given a hook, and it is the one that the hook is meant for. -/
def setHook (hook : Option Nat) : Outline :=
  { o with strands := o.strands.modify o.current fun t => { t with hook } }

/-- An instruction is taken off the count. -/
def counted : Machine.Count → Outline
  | .countDown left => o.setHook (some left)
  | .remove => o.setHook none
  | _ => o

/-- The current thread resumes another one, on whose stack there are marks. -/
def switchTo (id : Nat) (kept : List Mark) : Outline :=
  let strands := o.strands.modify o.current fun t => { t with status := .normal, marks := o.marks }
  { o with
    strands := strands.modify id fun t =>
      { t with status := .running, marks := [], resumer := some o.current }
    current := id, marks := kept }

/-- The thread that goes on when the current one is left. -/
def resumer : Nat :=
  (o.strand o.current).resumer.getD 0

/-- The current thread is left, with a status and no marks. -/
def switchBack (status : ThreadStatus) : Outline :=
  let strands := o.strands.modify o.current fun t =>
    { t with status, marks := [], resumer := none }
  { o with
    strands := strands.modify o.resumer fun t => { t with status := .running, marks := [] }
    current := o.resumer, marks := (o.strand o.resumer).marks }

/-- There is another thread. -/
def create (isHooked : Bool) : Outline :=
  { o with
    strands := o.strands.push
      { status := .suspended, hook := if isHooked then o.interval else none }
    owner := if isHooked then o.strands.size else o.owner
    ticket := if isHooked then o.ticket + 1 else o.ticket }

/-- A thread that does not run is closed. -/
def close (id : Nat) : Outline :=
  { o with strands := o.strands.modify id fun t => { t with status := .dead, marks := [] } }

end Outline

/-- The outline of an interpreter. -/
def Machine.outline (m : Machine) : Outline where
  strands := m.threads.map Thread.strand
  current := m.current
  marks := marks m.frames
  interval := m.interval
  owner := m.hookOwner
  ticket := m.hookTicket

namespace Machine

variable {m m' : Machine}

/-- What is made of an entry that has been changed is changed in the same place. -/
theorem map_modify {α β : Type} (xs : Array α) (g : α → β) (i : Nat) {f : α → α} {k : β → β}
    (h : ∀ a, g (f a) = k (g a)) : (xs.modify i f).map g = (xs.map g).modify i k := by
  apply Array.ext_getElem?
  intro j
  rw [Array.getElem?_map, Array.getElem?_modify, Array.getElem?_modify, Array.getElem?_map]
  split
  · rw [Option.map_map, Option.map_map]
    exact congrArg (fun f => Option.map f xs[j]?) (funext h)
  · rfl

/-- What a map does not see may change. -/
theorem map_modify_of_same {α β : Type} (xs : Array α) (g : α → β) (i : Nat) {f : α → α}
    (h : ∀ a, g (f a) = g a) : (xs.modify i f).map g = xs.map g := by
  apply Array.ext_getElem?
  intro j
  rw [Array.getElem?_map, Array.getElem?_modify, Array.getElem?_map]
  split
  · rw [Option.map_map]
    exact congrArg (fun f => Option.map f xs[j]?) (funext h)
  · rfl

/-- What the outline shows of a thread is read off the thread, also of the one that runs. -/
theorem strand_thread (id : Nat) : m.outline.strand id = (m.thread id).strand := by
  unfold Outline.strand outline thread Thread.at
  rw [Array.getD_eq_getD_getElem?, Array.getD_eq_getD_getElem?, Array.getElem?_map]
  cases m.threads[id]? with
  | none => rfl
  | some t => rfl

/-! ### Primitive operations -/

/-- Work on the store is not seen. -/
@[simp]
theorem outline_work {α : Type} (w : Work α) : (m.work w).2.outline = m.outline := rfl

/-- What the collector is going to do is in the store. -/
@[simp]
theorem outline_collecting (collections : List Collection) :
    (m.collecting collections).outline = m.outline := rfl

/-- A frame without a mark is not seen. -/
theorem outline_push {c : Cont} (hc : (Frame.cont c m.depth).mark? = none) :
    (m.push c).outline = m.outline := by
  unfold outline push
  rw [marks_cont hc]

/-- Nor is it seen when it is dropped. -/
theorem outline_pop {rest : List Frame} {d : Nat} :
    ({ m with frames := rest, depth := d } : Machine).outline
      = { m.outline with marks := marks rest } := rfl

/-- A hook is seen. -/
theorem outline_setHook (hook : Option Nat) :
    (m.setHook hook).outline = m.outline.setHook hook := by
  have hstrands := map_modify m.threads Thread.strand m.current
    (f := fun t => { t with hook }) (k := fun t => { t with hook }) fun _ => rfl
  exact congrArg (fun strands => { m.outline with strands }) hstrands

/-- Counting is seen. -/
theorem outline_counted (c : Count) : (m.counted c).outline = m.outline.counted c := by
  cases c with
  | countDown left => exact outline_setHook _
  | remove => exact outline_setHook _
  | go => rfl
  | poll => rfl

/-- **To switch to another thread** puts the marks aside. -/
theorem outline_switchTo (id : Nat) {c : Cont} (frames : List Frame)
    (hc : (Frame.cont c m.depth).mark? = none) :
    (m.switchTo id c frames).outline = m.outline.switchTo id (marks frames) := by
  -- the thread that resumes keeps its marks: the frame that is left on it has none
  have hown := map_modify m.threads Thread.strand m.current
    (f := fun t => { t with status := .normal, frames := .cont c m.depth :: m.frames })
    (k := fun t => { t with status := .normal, marks := marks m.frames })
    fun t => congrArg (fun s => Strand.mk .normal s t.resumer t.hook) (marks_cont hc)
  have hother := map_modify (m.threads.modify m.current
      fun t => { t with status := .normal, frames := .cont c m.depth :: m.frames })
    Thread.strand id
    (f := fun t =>
      { t with status := .running, frames := [], body := none, resumer := some m.current })
    (k := fun t => { t with status := .running, marks := [], resumer := some m.current })
    fun _ => rfl
  rw [hown] at hother
  exact congrArg (fun strands => { m.outline with strands, current := id, marks := marks frames })
    hother

/-- **To switch back** takes the marks of the other thread up again. -/
theorem outline_switchBack (change : Thread → Thread) {status : ThreadStatus}
    (hchange : ∀ t, (change t).strand = { t.strand with status, marks := [] }) :
    (m.switchBack change).outline = m.outline.switchBack status := by
  have hresumer : m.outline.resumer = (m.thread m.current).resumer.getD 0 := by
    unfold Outline.resumer
    rw [strand_thread]
    rfl
  have hown := map_modify m.threads Thread.strand m.current
    (f := fun t => { change t with resumer := none })
    (k := fun t => { t with status, marks := [], resumer := none })
    fun t => congrArg (fun s : Strand => { s with resumer := none }) (hchange t)
  -- the frames of the thread that goes on are on the stack again, so its strand has no marks
  have hother := map_modify (m.threads.modify m.current fun t => { change t with resumer := none })
    Thread.strand m.outline.resumer
    (f := fun t => { t with status := .running, frames := [] })
    (k := fun t => { t with status := .running, marks := [] })
    fun _ => rfl
  rw [hown, hresumer] at hother
  unfold Outline.switchBack
  rw [strand_thread, hresumer]
  exact congrArg (fun strands => { m.outline with
    strands, current := (m.thread m.current).resumer.getD 0
    marks := marks (m.thread ((m.thread m.current).resumer.getD 0)).frames }) hother

/-- A new thread is seen. -/
theorem outline_create {body : Value} {isHooked : Bool} {carrier : Option Native} :
    (m.create body isHooked carrier).outline = m.outline.create isHooked := by
  have hsize : m.outline.strands.size = m.threads.size := Array.size_map
  unfold Outline.create
  rw [hsize]
  -- a function that carries the thread is a value, and does not show in the outline
  cases carrier with
  | none =>
    unfold outline create give
    congr 1
    exact Array.map_push
  | some f =>
    unfold outline create give
    congr 1
    exact Array.map_push

/-- What is not seen in an outline may change. -/
theorem outline_modifyThread (id : Nat) (change : Thread → Thread)
    (h : ∀ t, (change t).strand = t.strand) : (m.modifyThread id change).outline = m.outline := by
  have hsame := map_modify_of_same m.threads Thread.strand id h
  exact congrArg (fun strands => { m.outline with strands }) hsame

/-- So it is that a thread is closed. -/
theorem outline_close (id : Nat) :
    (m.modifyThread id fun t =>
      { t with status := .dead, frames := [], body := none, failure := none }).outline
      = m.outline.close id := by
  have hstrands := map_modify m.threads Thread.strand id
    (f := fun t => { t with status := .dead, frames := [], body := none, failure := none })
    (k := fun t => { t with status := .dead, marks := [] }) fun _ => rfl
  exact congrArg (fun strands => { m.outline with strands }) hstrands

/-! ### What comes next -/

/-- A step is known from the mode and the frames. -/
theorem step_of_top {mode : Mode} {frames : List Frame} (hmode : m.mode = mode)
    (hframes : m.frames = frames) : m.step = ({ m with mode, frames } : Machine).step := by
  rw [← hmode, ← hframes]

/-- What comes of an answer is known from what was asked. -/
theorem answer_of_mode {mode : Mode} (hmode : m.mode = mode) (a : Answer) :
    m.answer a = ({ m with mode } : Machine).answer a := by
  rw [← hmode]

section Act

variable {w : Body Reply} {h : Heap}

/-- What a built-in function wants is done. -/
theorem act_of_ok {r : Reply} (hw : w m.heap = (.ok r, h)) (callee : Option Native)
    (origin : Origin) : m.act w callee origin = ({ m with heap := h } : Machine).reply r callee origin := by
  obtain ⟨heap, threads, current, frames, depth, mode, interval, owner, ticket, robot⟩ := m
  change w heap = _ at hw
  unfold act work Body.toAct
  dsimp only
  rw [hw]

/-- A built-in function that fails raises its failure. -/
theorem act_of_error {f : Fault} (hw : w m.heap = (.error f, h)) (callee : Option Native)
    (origin : Origin) : m.act w callee origin = ({ m with heap := h } : Machine).fail f callee origin := by
  obtain ⟨heap, threads, current, frames, depth, mode, interval, owner, ticket, robot⟩ := m
  change w heap = _ at hw
  unfold act work Body.toAct
  dsimp only
  rw [hw]
  rfl

end Act

end Machine

end RobotSession.Lua
