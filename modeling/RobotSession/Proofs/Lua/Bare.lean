import RobotSession.Proofs.Lua.Outline

/-!
# An interpreter apart from its hook

A hook leaves two traces in an interpreter. There is the count: how many instructions are left
on each thread, and whether the inbox has been looked after already. And there are the functions
that make coroutines, which are the host's once a hook has been set: a coroutine that such a
function wraps is resumed in another way.

`Machine.bare` takes the hook out of an interpreter. How much of it depends on what the
interpreter is compared with (`Grain`): one that has a hook as well has the same functions, and
only the count is left out; one that has none has other functions, and the kinds of resumption
are blurred, too. In both cases what is left is an interpreter, whose instructions are not
counted. It goes on as the hooked one does, apart from the hook: there is an equation `bare_*` for
each operation of an interpreter, here for those on frames and threads.

* `Grain`, `Machine.bare` — what is left of an interpreter without its hook.
* `Machine.bare_work`, `bare_deeper`, `bare_fail` — operations on the thread that runs.
* `Machine.bare_switchTo`, `bare_switchBack`, `bare_create` — operations on several threads.
-/

namespace RobotSession.Lua

open Library

/-- **How closely two interpreters are compared.** -/
inductive Grain
  /-- Both have a hook, or neither has. -/
  | fine
  /-- One has a hook and the other has none. -/
  | coarse

/-- A resumption by a function that wraps a coroutine. -/
def ResumeKind.isWrapped : ResumeKind → Bool
  | .guarded => false
  | .wrapped => true
  | .hooked => true

/-- Without the hook's functions, a hooked resumption is one of `coroutine.wrap`. -/
def ResumeKind.bare : Grain → ResumeKind → ResumeKind
  | .coarse, .hooked => .wrapped
  | _, kind => kind

/-- A continuation without the hook: only a resumption shows whether there is one. -/
def Cont.bare (g : Grain) : Cont → Cont
  | .resuming thread kind => .resuming thread (kind.bare g)
  | c => c

/-- A frame without the hook. -/
def Frame.bare (g : Grain) : Frame → Frame
  | .lua f d => .lua f d
  | .cont c d => .cont (c.bare g) d

/-- A thread without its hook. -/
def Thread.bare (g : Grain) (t : Thread) : Thread :=
  { t with frames := t.frames.map (Frame.bare g), hook := none }

/-- Whether the functions that make coroutines are the same. -/
def Grain.isFine : Grain → Bool
  | .fine => true
  | .coarse => false

/-- What the host keeps of a hook, apart from the count. -/
def Grain.kept (g : Grain) (n : Nat) : Nat :=
  match g with
  | .fine => n
  | .coarse => 0

/-- **An interpreter without its hook.** -/
def Machine.bare (g : Grain) (m : Machine) : Machine :=
  { m with
    threads := m.threads.map (Thread.bare g)
    frames := m.frames.map (Frame.bare g)
    interval := none
    hookOwner := g.kept m.hookOwner
    hookTicket := g.kept m.hookTicket }

/-! ### Frames -/

variable {g : Grain} {m : Machine}

/-- An error stops at the same continuations. -/
@[simp]
theorem Cont.isBoundary_bare (c : Cont) : (c.bare g).isBoundary = c.isBoundary := by
  cases c with
  | _ => rfl

/-- A thread can yield across the same ones. -/
@[simp]
theorem Cont.isYieldable_bare (c : Cont) : (c.bare g).isYieldable = c.isYieldable := by
  cases c with
  | _ => rfl

/-- A thread can yield across the same frames. -/
@[simp]
theorem Frame.isYieldable_bare (f : Frame) : (f.bare g).isYieldable = f.isYieldable := by
  cases f with
  | lua f d => rfl
  | cont c d => exact Cont.isYieldable_bare c

/-- The frames at which an error is placed are those of scripts. -/
@[simp]
theorem Frame.placeAt_bare (level : Nat) (frames : List Frame) :
    Frame.placeAt level (frames.map (Frame.bare g)) = Frame.placeAt level frames := by
  induction frames generalizing level with
  | nil => rfl
  | cons f rest ih =>
    cases f with
    | lua f d =>
      show Frame.placeAt level (.lua f d :: rest.map (Frame.bare g)) = _
      unfold Frame.placeAt
      rw [ih]
    | cont c d =>
      -- a hook stays a hook, and a call of the host stays one
      cases c with
      | _ =>
        unfold Frame.placeAt
        rw [← ih, ← ih]
        rfl

namespace Machine

/-- A thread can yield with the hook if it can without. -/
@[simp]
theorem all_isYieldable_bare (frames : List Frame) :
    (frames.map (Frame.bare g)).all Frame.isYieldable = frames.all Frame.isYieldable := by
  rw [List.all_map]
  exact congrArg frames.all (funext Frame.isYieldable_bare)

/-- The frames with variables that are to be closed are those of scripts. -/
@[simp]
theorem closers_bare (frames : List Frame) :
    closers (frames.map (Frame.bare g)) = (closers frames).map (Frame.bare g) := by
  unfold closers
  rw [List.filter_map]
  congr 2
  funext f
  cases f with
  | _ => rfl

/-- So are the frames that take slots. -/
@[simp]
theorem slotsBelow_bare (frames : List Frame) :
    slotsBelow (frames.map (Frame.bare g)) = slotsBelow frames := by
  induction frames with
  | nil => rfl
  | cons f rest ih =>
    cases f with
    | lua f d => rfl
    | cont c d => exact ih

/-- A frame at which an error ends is the same without the hook. -/
theorem bare_of_isBoundary {c : Cont} (hc : c.isBoundary = true) : c.bare g = c := by
  cases c with
  | resuming thread kind => cases hc
  | _ => rfl

/-- The nearest boundary of an error is the same. -/
@[simp]
theorem boundary_bare (frames : List Frame) :
    boundary (frames.map (Frame.bare g)) = boundary frames := by
  induction frames with
  | nil => rfl
  | cons f rest ih =>
    cases f with
    | lua f d => exact ih
    | cont c d =>
      show boundary (.cont (c.bare g) d :: rest.map (Frame.bare g)) = boundary (.cont c d :: rest)
      unfold boundary
      rw [Cont.isBoundary_bare]
      -- a boundary is no resumption, and only resumptions are stripped
      split
      · rw [bare_of_isBoundary ‹_›]
      · exact ih

end Machine

/-! ### Primitive operations -/

/-- A thread is found under its number. -/
theorem Thread.at_bare (threads : Array Thread) (id : Nat) :
    Thread.at (threads.map (Thread.bare g)) id = (Thread.at threads id).bare g := by
  unfold Thread.at
  rw [Array.getD_eq_getD_getElem?, Array.getD_eq_getD_getElem?, Array.getElem?_map]
  cases threads[id]? with
  | _ => rfl

namespace Machine

/-- It is the thread without its hook that is found. -/
@[simp]
theorem bare_thread (id : Nat) : (m.bare g).thread id = (m.thread id).bare g :=
  Thread.at_bare m.threads id

/-- Work on the store is the same work. -/
theorem bare_work {α : Type} (w : Work α) :
    (m.bare g).work w = ((m.work w).1, (m.work w).2.bare g) := rfl

/-- A change of a thread is made apart from its hook. -/
theorem bare_modifyThread (id : Nat) (change change' : Thread → Thread)
    (h : ∀ t, (change t).bare g = change' (t.bare g)) :
    (m.modifyThread id change).bare g = (m.bare g).modifyThread id change' := by
  have hthreads := map_modify m.threads (Thread.bare g) id h
  exact congrArg (fun threads => { m.bare g with threads }) hthreads

/-- A native call is counted, whatever it does. -/
theorem bare_deeper (k k' : Machine → Machine) (h : ∀ m, (k m).bare g = k' (m.bare g)) :
    (m.deeper k).bare g = (m.bare g).deeper k' := by
  unfold deeper
  dsimp only
  rw [show (m.bare g).frames = m.frames.map (Frame.bare g) from rfl, Frame.placeAt_bare,
    show (m.bare g).depth = m.depth from rfl]
  split
  · rfl
  · split
    · rfl
    · exact h _

/-- A call above a new frame. -/
theorem bare_push_deeper (c : Cont) (f : Value) (args : List Value) :
    ((m.push c).deeper (·.invoke f args)).bare g
      = ((m.bare g).push (c.bare g)).deeper (·.invoke f args) :=
  bare_deeper (m := m.push c) _ _ fun _ => rfl

/-- A function has the name by which it was called. -/
theorem bare_calleeName (callee : Option Native) (origin : Origin) :
    (m.bare g).calleeName callee origin = m.calleeName callee origin := by
  obtain ⟨heap, threads, current, frames, depth, mode, interval, owner, ticket, robot⟩ := m
  cases frames with
  | nil => rfl
  | cons f rest =>
    cases f with
    | _ => rfl

/-- A failure is told in the same words. -/
theorem bare_fail (f : Fault) (callee : Option Native) (origin : Origin) :
    (m.fail f callee origin).bare g = (m.bare g).fail f callee origin := by
  unfold fail argumentMessage
  rw [bare_calleeName, show (m.bare g).frames = m.frames.map (Frame.bare g) from rfl]
  -- three faults name their place, which is read off the frames
  cases f with
  | argument | located | atLevel =>
    dsimp only
    rw [Frame.placeAt_bare]
    rfl
  | _ => rfl

/-! ### Threads -/

/-- Another thread runs, with the same thread waiting for it. -/
theorem bare_switchTo (id : Nat) (c : Cont) (frames : List Frame) :
    (m.switchTo id c frames).bare g
      = (m.bare g).switchTo id (c.bare g) (frames.map (Frame.bare g)) := by
  -- two threads change, the one that is left and the one that is entered
  have hown := map_modify m.threads (Thread.bare g) m.current
    (f := fun t => { t with status := .normal, frames := .cont c m.depth :: m.frames })
    (k := fun t => { t with
      status := .normal, frames := .cont (c.bare g) m.depth :: m.frames.map (Frame.bare g) })
    fun _ => rfl
  have hother := map_modify (m.threads.modify m.current
      fun t => { t with status := .normal, frames := .cont c m.depth :: m.frames })
    (Thread.bare g) id
    (f := fun t =>
      { t with status := .running, frames := [], body := none, resumer := some m.current })
    (k := fun t =>
      { t with status := .running, frames := [], body := none, resumer := some m.current })
    fun _ => rfl
  rw [hown] at hother
  exact congrArg (fun threads => { m.bare g with
    threads, current := id, frames := frames.map (Frame.bare g) }) hother

/-- The thread that goes on when the current one is left. -/
def resumer (m : Machine) : Nat :=
  (m.thread m.current).resumer.getD 0

/-- A thread goes back to the one that has resumed it. -/
@[simp]
theorem resumer_bare : (m.bare g).resumer = m.resumer := by
  unfold resumer
  rw [show (m.bare g).current = m.current from rfl, bare_thread]
  rfl

/-- The thread that has resumed this one runs again. -/
theorem bare_switchBack {change change' : Thread → Thread}
    (h : ∀ t, (change t).bare g = change' (t.bare g)) :
    (m.switchBack change).bare g = (m.bare g).switchBack change' := by
  have hframes : ((m.bare g).thread (m.bare g).resumer).frames
      = (m.thread m.resumer).frames.map (Frame.bare g) := by
    rw [resumer_bare, bare_thread]
    rfl
  -- two threads change, the one that is left and the one that is entered again
  have hown := map_modify m.threads (Thread.bare g) m.current
    (f := fun t => { change t with resumer := none })
    (k := fun t => { change' t with resumer := none })
    fun t => congrArg (fun t : Thread => { t with resumer := none }) (h t)
  have hother := map_modify (m.threads.modify m.current fun t => { change t with resumer := none })
    (Thread.bare g) m.resumer
    (f := fun t => { t with status := .running, frames := [] })
    (k := fun t => { t with status := .running, frames := [] })
    fun _ => rfl
  rw [hown] at hother
  show _ = { m.bare g with
    threads := (((m.threads.map (Thread.bare g)).modify m.current
      fun t => { change' t with resumer := none }).modify (m.bare g).resumer
      fun t => { t with status := .running, frames := [] })
    current := (m.bare g).resumer
    frames := ((m.bare g).thread (m.bare g).resumer).frames }
  rw [hframes, resumer_bare, ← hother]
  rfl

/-- A thread is created, with a hook of its own only where the hook is looked at. -/
theorem bare_create (body : Value) (isHooked : Bool) (carrier : Option Native) :
    (m.create body isHooked carrier).bare g
      = (m.bare g).create body (g.isFine && isHooked) carrier := by
  obtain ⟨heap, threads, current, frames, depth, mode, interval, owner, ticket, robot⟩ := m
  have hsize : (threads.map (Thread.bare g)).size = threads.size := Array.size_map
  have howner : g.kept (if isHooked then threads.size else owner)
      = if g.isFine && isHooked then threads.size else g.kept owner := by
    cases g with
    | _ => rfl
  have hticket : g.kept (if isHooked then ticket + 1 else ticket)
      = if g.isFine && isHooked then g.kept ticket + 1 else g.kept ticket := by
    cases g with
    | _ => rfl
  -- the new thread is not counted, whoever makes it
  have hmade : (Machine.mk heap
        (threads.push
          { status := .suspended, body := some body, hook := if isHooked then interval else none })
        current frames depth mode interval (if isHooked then threads.size else owner)
        (if isHooked then ticket + 1 else ticket) robot).bare g
      = Machine.mk heap
        ((threads.map (Thread.bare g)).push
          { status := .suspended, body := some body
            hook := if g.isFine && isHooked then none else none })
        current (frames.map (Frame.bare g)) depth mode none
        (if g.isFine && isHooked then threads.size else g.kept owner)
        (if g.isFine && isHooked then g.kept ticket + 1 else g.kept ticket) robot := by
    rw [← howner, ← hticket, ite_self]
    dsimp only [bare]
    rw [Array.map_push]
    rfl
  unfold create
  dsimp only [bare]
  rw [hsize]
  cases carrier with
  | none => exact congrArg (give · [.thread threads.size]) hmade
  | some f =>
    let carried : Work Value := Work.newNative f [.thread threads.size]
    exact congrArg (fun m : Machine => (m.work carried).2.give [(m.work carried).1]) hmade

end Machine

end RobotSession.Lua
