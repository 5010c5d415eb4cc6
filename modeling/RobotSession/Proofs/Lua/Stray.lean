import RobotSession.Proofs.Lua.Bare
import RobotSession.Proofs.Lua.Exchange

/-!
# Where the hook shows

A hook leaves the functions that make coroutines to the host, and they are not quite the plain
ones. `Machine.strays` says of a step that it may show which of them a script has got: an error
leaves a coroutine that is wrapped, or a caught panic passes into it or out of it, or it cannot be
resumed, or what is to become a coroutine is no function. Every other step does the same with the
hook and without (`Machine.bare_step`); between interpreters that both have a hook, every step
does.

* `Heap.isClean`, `Exchange.values_of_clean` — values that pass through the host as they are.
* `Machine.isWrapped` — what leaves the current thread passes through a wrapping function.
* `Machine.straysWith`, `straysCalling`, `straysGiving`, `strays` — what shows the hook.
* `Machine.bare_step` — a step without the hook.
-/

namespace RobotSession.Lua

open Library

variable {g : Grain} {m : Machine}

/-! ### Values that pass through the host -/

/-- It is a caught panic, or was one. -/
def Heap.isPanic (h : Heap) : Value → Bool
  | .object id =>
    match h.object id with
    | .panic _ => true
    | _ => false
  | _ => false

/-- **Values that pass through the host as they are**: no caught panic is among them. -/
def Heap.isClean (h : Heap) (values : List Value) : Bool :=
  !values.any h.isPanic

/-- Values that are clean are handed over as they are. -/
theorem Exchange.values_of_clean {h : Heap} {values : List Value}
    (hclean : h.isClean values = true) : Exchange.values values h = (.ok values, h) := by
  unfold Heap.isClean at hclean
  induction values with
  | nil => rfl
  | cons v rest ih =>
    rw [List.any_cons, Bool.not_or, Bool.and_eq_true, Bool.not_eq_true'] at hclean
    obtain ⟨hv, hrest⟩ := hclean
    have hrest := ih hrest
    unfold Exchange.values at hrest ⊢
    rw [List.mapM_cons, Body.bind_of_ok (a := v), Body.bind_of_ok hrest]
    · rfl
    · cases v with
      -- among objects only a panic would not be handed over
      | object id =>
        unfold Heap.isPanic at hv
        dsimp only at hv ⊢
        apply (Body.bind_of_ok (b := get) (a := h) rfl).trans
        cases hobject : h.object id with
        | panic payload =>
          rw [hobject] at hv
          cases hv
        | _ => rfl
      | _ => rfl

/-- A result that a wrapping function of the host hands on as it is. -/
def Heap.handsOn (h : Heap) : Except Value (List Value) → Bool
  | .ok values => h.isClean values
  | .error _ => false

/-- The frame that waits on top is a wrapping function's. -/
def Frame.isWrapping : List Frame → Bool
  | .cont (.resuming _ kind) _ :: _ => kind.isWrapped
  | _ => false

/-- **What may happen at a grain**: with the same functions on both sides, anything. -/
def Grain.Allows (g : Grain) (stray : Bool) : Prop :=
  stray = true → g = .fine

/-- What does not stray is allowed. -/
theorem Grain.allows_of_eq_false {g : Grain} {stray : Bool} (h : stray = false) : g.Allows stray :=
  fun hstray => nomatch h.symm.trans hstray

/-! ### Resumptions -/

namespace Machine

/-- A hooked thread fails in the same way. -/
theorem bare_failHooked (e : Value) : (m.failHooked e).bare g = (m.bare g).failHooked e := by
  cases e with
  -- what a failure becomes depends on the store alone
  | object id =>
    unfold failHooked
    dsimp only
    rw [show (m.bare g).heap = m.heap from rfl]
    cases m.heap.object id with
    | panic payload =>
      cases payload with
      | _ => rfl
    | _ => rfl
  | _ =>
    unfold failHooked
    dsimp only
    rw [show (m.bare g).heap = m.heap from rfl]
    split
    · rfl
    · exact bare_push_deeper ..

/-- A resumption of one kind gives the same with the hook and without. -/
theorem bare_resumed_same (kind : ResumeKind) (result : Except Value (List Value)) :
    (m.resumed kind result).bare g = (m.bare g).resumed kind result := by
  unfold resumed
  -- whoever resumed sees the result only, never the hook
  split
  · rfl
  · rfl
  · rfl
  · rw [show (m.bare g).frames = m.frames.map (Frame.bare g) from rfl, Frame.placeAt_bare]
    rfl
  · rfl
  · rename_i values
    rw [bare_work]
    dsimp only
    split
    · rfl
    · exact bare_fail ..
  · exact bare_failHooked _

/-- A wrapping function of the host gives the same as a plain one, if it hands the result on. -/
theorem resumed_bare_kind {kind : ResumeKind} {result : Except Value (List Value)}
    (h : g.Allows (kind.isWrapped && !m.heap.handsOn result)) :
    m.resumed (kind.bare g) result = m.resumed kind result := by
  cases g with
  | fine => rfl
  | coarse =>
    cases kind with
    | hooked =>
      cases result with
      | error e => cases h rfl
      | ok values =>
        cases hclean : m.heap.isClean values with
        | false =>
          rw [show m.heap.handsOn (.ok values) = m.heap.isClean values from rfl, hclean] at h
          cases h rfl
        | true =>
          -- the values pass through the host and back
          show m.give values = _
          unfold resumed work
          dsimp only
          rw [Exchange.values_of_clean hclean]
    | _ => rfl

/-- A resumption gives the same, if what it gives would be handed on. -/
theorem bare_resumed {kind : ResumeKind} {result : Except Value (List Value)}
    (h : g.Allows (kind.isWrapped && !m.heap.handsOn result)) :
    (m.resumed kind result).bare g = (m.bare g).resumed (kind.bare g) result := by
  rw [bare_resumed_same, resumed_bare_kind]
  exact h

/-- So it does at the end of a thread. -/
theorem bare_deliverResult {result : Except Value (List Value)}
    (h : g.Allows (Frame.isWrapping m.frames && !m.heap.handsOn result)) :
    (m.deliverResult result).bare g = (m.bare g).deliverResult result := by
  obtain ⟨heap, threads, current, frames, depth, mode, interval, owner, ticket, robot⟩ := m
  cases frames with
  | nil => rfl
  | cons f rest =>
    cases f with
    | lua f d => rfl
    | cont c d =>
      cases c with
      | resuming thread kind =>
        exact bare_resumed
          (m := ⟨heap, threads, current, rest, d, mode, interval, owner, ticket, robot⟩) h
      -- a thread that was closed only forgets its failure
      | closingThread id =>
        have hforgets := bare_modifyThread (g := g)
          (m := ⟨heap, threads, current, rest, d, mode, interval, owner, ticket, robot⟩) id
          (fun t => { t with failure := none }) (fun t => { t with failure := none }) fun _ => rfl
        cases result with
        | ok values => exact congrArg (give · [.bool true]) hforgets
        | error e =>
          cases e with
          | nil => exact congrArg (give · [.bool true]) hforgets
          | _ => exact congrArg (give · [.bool false, _]) hforgets
      | _ => rfl

/-- **What leaves the current thread passes through a wrapping function.** -/
def isWrapped (m : Machine) : Bool :=
  Frame.isWrapping (m.thread m.resumer).frames

/-- A frame that waits for a wrapped thread is one without the hook. -/
theorem isWrapping_bare (frames : List Frame) :
    Frame.isWrapping (frames.map (Frame.bare g)) = Frame.isWrapping frames := by
  cases frames with
  | nil => rfl
  | cons f rest =>
    cases f with
    | lua f d => rfl
    | cont c d =>
      cases c with
      -- stripped coarsely, each kind of resumption counts as wrapped already
      | resuming thread kind =>
        cases g with
        | fine => rfl
        | coarse =>
          cases kind with
          | _ => rfl
      | _ => rfl

/-- A thread is wrapped in both. -/
@[simp]
theorem isWrapped_bare : (m.bare g).isWrapped = m.isWrapped := by
  unfold isWrapped
  rw [resumer_bare, bare_thread]
  exact isWrapping_bare _

/-- A thread ends with the same values. -/
theorem bare_finish {values : List Value}
    (h : g.Allows (m.isWrapped && !m.heap.isClean values)) :
    (m.finish values).bare g = (m.bare g).finish values := by
  unfold finish
  rw [show (m.bare g).current = m.current from rfl]
  split
  · rfl
  · rw [bare_deliverResult, bare_switchBack]
    · intro t
      rfl
    · exact h

/-- A thread that is not wrapped dies of the same error. -/
theorem bare_die {e : Value} (h : g.Allows m.isWrapped) :
    (m.die e).bare g = (m.bare g).die e := by
  unfold die
  rw [show (m.bare g).current = m.current from rfl]
  split
  · rfl
  · rw [bare_deliverResult, bare_switchBack]
    · intro t
      rfl
    · -- the coroutine dies with a payload that crosses a wrapped resumption, which is what is
      -- allowed for
      intro hstray
      rw [Bool.and_eq_true] at hstray
      exact h hstray.1

/-- A thread yields the same values. -/
theorem bare_yield {values : List Value}
    (h : g.Allows (m.isWrapped && !m.heap.isClean values)) :
    (m.yield values).bare g = (m.bare g).yield values := by
  unfold yield
  rw [show (m.bare g).current = m.current from rfl,
    show (m.bare g).frames = m.frames.map (Frame.bare g) from rfl, all_isYieldable_bare]
  split
  · rfl
  · -- outside a coroutine, and across a frame that cannot be left, a yield is an error either way
    split
    · rfl
    · dsimp only
      rw [bare_deliverResult, bare_switchBack]
      · intro t
        rfl
      · exact h

/-- A thread that can be resumed from the current one. -/
def isResumable (m : Machine) (id : Nat) : Bool :=
  id ≠ m.current && (m.thread id).status = .suspended && m.depth + 1 < depthLimit

/-- A thread can be resumed in both. -/
@[simp]
theorem isResumable_bare (id : Nat) : (m.bare g).isResumable id = m.isResumable id := by
  unfold isResumable
  rw [bare_thread]
  rfl

/-- It is resumed in the same way. -/
theorem bare_resume {id : Nat} {args : List Value} {kind : ResumeKind}
    (h : g.Allows (kind.isWrapped && !m.isResumable id)) :
    (m.resume id args kind).bare g = (m.bare g).resume id args (kind.bare g) := by
  have hthread : (m.bare g).thread id = (m.thread id).bare g := bare_thread id
  unfold resume
  dsimp only
  rw [hthread, show (m.bare g).current = m.current from rfl,
    show ((m.thread id).bare g).status = (m.thread id).status from rfl,
    show (m.bare g).depth = m.depth from rfl]
  by_cases hgo : (id ≠ m.current && (m.thread id).status = .suspended) = true
  · rw [if_pos hgo, if_pos hgo]
    split
    · -- too many nested calls: a failure of the resumption
      rename_i hdeep
      apply bare_resumed
      intro hstray
      apply h
      rw [Bool.and_eq_true] at hstray
      unfold isResumable
      rw [hstray.1, hgo, decide_eq_false (Nat.not_lt_of_le hdeep)]
      rfl
    · have hswitch := bare_switchTo (g := g) (m := m) id (.resuming id kind) (m.thread id).frames
      have hdeeper := congrArg (fun m : Machine => { m with depth := m.depth + 1 }) hswitch
      have hbody : ((m.thread id).bare g).body = (m.thread id).body := rfl
      rw [hbody]
      cases (m.thread id).body with
      | some f => exact congrArg (invoke · f args) hdeeper
      | none => exact congrArg (give · args) hdeeper
  · rw [if_neg hgo, if_neg hgo]
    have hstuck : m.isResumable id = false := by
      unfold isResumable
      rw [eq_false_of_ne_true hgo]
      rfl
    rw [hstuck] at h
    have hresumed : ∀ {text : String}, (m.resumed kind (.error (.text text))).bare g
        = (m.bare g).resumed (kind.bare g) (.error (.text text)) := by
      intro text
      apply bare_resumed
      intro hstray
      apply h
      rw [Bool.and_eq_true] at hstray
      rw [hstray.1]
      rfl
    cases kind with
    | hooked =>
      obtain rfl := h rfl
      dsimp only [ResumeKind.bare]
      split
      · rfl
      · rfl
    | wrapped =>
      cases g with
      | _ => exact hresumed
    | guarded =>
      cases g with
      | _ => exact hresumed

/-- A thread is closed in the same way. -/
theorem bare_closeThread (id : Nat) :
    (m.closeThread id).bare g = (m.bare g).closeThread id := by
  have hthread : (m.bare g).thread id = (m.thread id).bare g := bare_thread id
  unfold closeThread
  dsimp only
  rw [hthread, show (m.bare g).current = m.current from rfl,
    show ((m.thread id).bare g).status = (m.thread id).status from rfl,
    show ((m.thread id).bare g).frames = (m.thread id).frames.map (Frame.bare g) from rfl,
    show ((m.thread id).bare g).failure = (m.thread id).failure from rfl, closers_bare]
  -- all that is looked at is the same without a hook
  generalize (if id = m.current then ThreadStatus.running else (m.thread id).status) = status
  split
  · cases closers (m.thread id).frames with
    | nil =>
      have hcloses := bare_modifyThread (g := g) (m := m) id
        (fun t => { t with status := .dead, frames := [], body := none, failure := none })
        (fun t => { t with status := .dead, frames := [], body := none, failure := none })
        fun _ => rfl
      cases (m.thread id).failure with
      | none => exact congrArg (give · [.bool true]) hcloses
      | some e => exact congrArg (give · [.bool false, e]) hcloses
    | cons f rest =>
      have hswitch := bare_switchTo (g := g) (m := m) id (.closingThread id) (f :: rest)
      exact congrArg (fun m' : Machine =>
        { m' with depth := m.depth + 1, mode := .unwind ((m.thread id).failure.getD .nil) }) hswitch
  · exact bare_fail ..

/-! ### Replies of built-in functions -/

/-- The hook's functions are in place only where the hook is looked at. -/
theorem isHooked_bare : (m.bare g).isHooked = (g.isFine && m.isHooked) := by
  cases g with
  | _ => rfl

/-- A function that wraps a thread waits for it. -/
theorem wrapping_bare : (m.bare g).wrapping = m.wrapping.bare g := by
  unfold wrapping
  rw [isHooked_bare]
  cases g with
  | fine =>
    cases m.isHooked with
    | _ => rfl
  | coarse =>
    cases m.isHooked with
    | _ => rfl

/-- It waits for a wrapped thread. -/
theorem isWrapped_wrapping : m.wrapping.isWrapped = true := by
  unfold wrapping
  cases m.isHooked with
  | _ => rfl

/-- **A reply that shows whose functions make coroutines**: a caught panic passes through a wrapping
function, or a thread is resumed by one that cannot be resumed. -/
def straysWith (m : Machine) : Reply → Bool
  | .resume thread _ isWrapped => isWrapped && !m.isResumable thread
  | .yield values => m.isWrapped && !m.heap.isClean values
  | _ => false

/-- A reply strays in both. -/
theorem straysWith_bare (r : Reply) : (m.bare g).straysWith r = m.straysWith r := by
  cases r with
  | resume id args isWrapped => exact congrArg (isWrapped && !·) (isResumable_bare id)
  | yield values => exact congrArg (· && !m.heap.isClean values) isWrapped_bare
  | _ => rfl

/-- **A reply that does not stray** does the same in both. -/
theorem bare_reply {r : Reply} (h : g.Allows (m.straysWith r)) (callee : Option Native)
    (origin : Origin) :
    (m.reply r callee origin).bare g = (m.bare g).reply r callee origin := by
  cases r with
  | done values => rfl
  | fail f => exact bare_fail ..
  | call f args k => exact bare_push_deeper ..
  | tail f args => rfl
  | ask r => rfl
  | resume id args isWrapped =>
    unfold reply
    cases isWrapped with
    | false =>
      show (m.resume id args .guarded).bare g = (m.bare g).resume id args .guarded
      -- only a wrapped resumption is told apart by whether there is a hook
      have hguarded : ResumeKind.bare g .guarded = .guarded := by
        cases g with
        | _ => rfl
      rw [bare_resume (Grain.allows_of_eq_false rfl), hguarded]
    | true =>
      show (m.resume id args m.wrapping).bare g = (m.bare g).resume id args (m.bare g).wrapping
      rw [wrapping_bare, bare_resume]
      rw [isWrapped_wrapping]
      exact h
  | closeThread id => exact bare_closeThread id
  | yield values => exact bare_yield h
  | create body carrier =>
    unfold reply
    rw [bare_create, isHooked_bare]

/-- Work that comes to such a reply. -/
def straysActing (m : Machine) (b : Body Reply) : Bool :=
  let (r, m) := m.work b.toAct
  m.straysWith r

/-- Work strays in both. -/
theorem straysActing_bare (b : Body Reply) : (m.bare g).straysActing b = m.straysActing b := by
  unfold straysActing
  rw [bare_work]
  exact straysWith_bare _

/-- **Work that does not stray** does the same in both. -/
theorem bare_act {b : Body Reply} (h : g.Allows (m.straysActing b)) (callee : Option Native)
    (origin : Origin) : (m.act b callee origin).bare g = (m.bare g).act b callee origin :=
  bare_reply h callee origin

/-- A delivery does the same in both. -/
theorem bare_drain (reason : DrainReason) (s : DrainStep) :
    (m.drain reason s).bare g = (m.bare g).drain reason s := by
  cases s with
  | take => rfl
  | lookUp f args i => exact bare_push_deeper ..
  | call f args i => exact bare_push_deeper ..
  | report i error => rfl

/-- So does its end. -/
theorem bare_drained (reason : DrainReason) :
    (m.drained reason).bare g = (m.bare g).drained reason := by
  cases reason with
  | _ => rfl

/-! ### Calls -/

/-- A thread has the same status. -/
theorem status_bare (id : Nat) :
    Coroutines.status (m.bare g).caller id = Coroutines.status m.caller id := by
  unfold Coroutines.status
  rw [show (m.bare g).caller.threads = m.threads.map (Thread.bare g) from rfl, Thread.at_bare]
  rfl

/-- A caller can yield in both. -/
theorem isYieldable_caller_bare : (m.bare g).caller.isYieldable = m.caller.isYieldable := by
  unfold Caller.isYieldable
  rw [show (m.bare g).caller.frames = m.frames.map (Frame.bare g) from rfl, all_isYieldable_bare]
  rfl

end Machine

/-- **Arguments that show whose functions make coroutines**: something that is no function is to
become a coroutine, or a caught panic is handed to a wrapped one. -/
def Native.strays (h : Heap) (args : List Value) : Native → Bool
  | .coCreate => !(Args.nth args 1 matches .func _)
  | .coWrap => !(Args.nth args 1 matches .func _)
  | .coWrapped => !h.isClean args
  | _ => false

/-- The first argument, where the host wants a function. -/
theorem Exchange.first_function {h : Heap} {args : List Value} {id : Nat}
    (hargs : Args.nth args 1 = .func id) :
    Exchange.first args Exchange.function h = (.ok (.func id), h) := by
  cases args with
  | nil => cases hargs
  | cons v rest =>
    obtain rfl : v = .func id := hargs
    rfl

/-- **The hook's functions do what those of the library do**, where nothing strays. -/
theorem Coroutines.hooked_eq_plain {h : Heap} {f : Native} {args : List Value}
    (hmakes : f = .coCreate ∨ f = .coWrap ∨ f = .coWrapped) (hstays : f.strays h args = false)
    (captured : List Value) :
    Coroutines.hooked f captured args h = Coroutines.plain f captured args h := by
  -- the two bodies differ in how they complain, and here nothing is to complain about
  have hfunction : (Args.nth args 1 matches .func _) = true → ∃ id, Args.nth args 1 = .func id := by
    intro hfunc
    split at hfunc
    · exact ⟨_, ‹_›⟩
    · cases hfunc
  rcases hmakes with rfl | rfl | rfl
  · obtain ⟨id, hargs⟩ := hfunction (by simpa [Native.strays] using hstays)
    unfold Coroutines.hooked Coroutines.plain Args.function
    dsimp only
    rw [Body.bind_of_ok (Exchange.first_function hargs), hargs]
    rfl
  · obtain ⟨id, hargs⟩ := hfunction (by simpa [Native.strays] using hstays)
    unfold Coroutines.hooked Coroutines.plain Args.function
    dsimp only
    rw [Body.bind_of_ok (Exchange.first_function hargs), hargs]
    rfl
  · have hclean : h.isClean args = true := by simpa [Native.strays] using hstays
    unfold Coroutines.hooked Coroutines.plain
    dsimp only
    rw [Body.bind_of_ok (Exchange.values_of_clean hclean)]
/-- The functions of a hook do what the plain ones do. -/
theorem Coroutines.call_of_makes {f : Native} {args : List Value}
    (hmakes : f = .coCreate ∨ f = .coWrap ∨ f = .coWrapped) (h : g.Allows (f.strays m.heap args))
    (captured : List Value) :
    Coroutines.call f (m.bare g).caller captured args m.heap
      = Coroutines.call f m.caller captured args m.heap := by
  have hcall : ∀ caller, Coroutines.call f caller captured args
      = if caller.isHooked then Coroutines.hooked f captured args
        else Coroutines.plain f captured args := by
    rcases hmakes with rfl | rfl | rfl
    · intro caller
      rfl
    · intro caller
      rfl
    · intro caller
      rfl
  rw [hcall, hcall, show (m.bare g).caller.isHooked = (m.bare g).isHooked from rfl,
    show m.caller.isHooked = m.isHooked from rfl, Machine.isHooked_bare]
  cases g with
  | fine => rfl
  | coarse =>
    -- a call that strays would tell the two callers apart, and the coarse grain excludes it
    cases hstrays : f.strays m.heap args with
    | true => cases h hstrays
    | false =>
      cases m.isHooked with
      | true => exact (hooked_eq_plain hmakes hstrays captured).symm
      | false => rfl

/-- **A built-in function does the same without the hook**, unless it strays. -/
theorem Native.call_bare {f : Native} {args : List Value} (h : g.Allows (f.strays m.heap args))
    (captured : List Value) :
    f.call (m.bare g).caller captured args m.heap = f.call m.caller captured args m.heap := by
  -- of the functions that look at their caller, three make a thread
  cases f with
  | coCreate => exact Coroutines.call_of_makes (.inl rfl) h captured
  | coWrap => exact Coroutines.call_of_makes (.inr (.inl rfl)) h captured
  | coWrapped => exact Coroutines.call_of_makes (.inr (.inr rfl)) h captured
  | coStatus =>
    show Coroutines.call .coStatus _ captured args m.heap
      = Coroutines.call .coStatus _ captured args m.heap
    unfold Coroutines.call
    dsimp only
    simp only [Machine.status_bare]
  | coIsYieldable =>
    show Coroutines.call .coIsYieldable _ captured args m.heap
      = Coroutines.call .coIsYieldable _ captured args m.heap
    unfold Coroutines.call
    dsimp only
    simp only [Machine.isYieldable_caller_bare]
    rfl
  | _ => rfl

namespace Machine

/-- A script function is entered in the same way. -/
theorem bare_enter (chunk : Chunk) (number : Nat) (outer : Array Nat) (args : List Value)
    (origin : Origin) :
    (m.enter chunk number outer args origin).bare g
      = (m.bare g).enter chunk number outer args origin := by
  unfold enter
  dsimp only
  rw [show (m.bare g).frames = m.frames.map (Frame.bare g) from rfl, slotsBelow_bare,
    Frame.placeAt_bare]
  split
  · rfl
  · rfl

/-- **A call that shows whose functions make coroutines**, by its arguments or by its reply. -/
def straysCalling (m : Machine) (f : Value) (args : List Value) : Bool :=
  match f with
  | .func id =>
    match m.heap.function id with
    | .script .. => false
    | .native f captured =>
      f.strays m.heap args || m.straysActing (f.call m.caller captured args)
  | _ => false

/-- A built-in function does the same work. -/
theorem work_call_bare {f : Native} {args : List Value} (h : g.Allows (f.strays m.heap args))
    (captured : List Value) :
    (m.bare g).work (f.call (m.bare g).caller captured args).toAct
      = ((m.work (f.call m.caller captured args).toAct).1,
        (m.work (f.call m.caller captured args).toAct).2.bare g) := by
  unfold work Body.toAct
  dsimp only
  rw [show (m.bare g).heap = m.heap from rfl, Native.call_bare h]
  rfl

/-- **A call that does not stray** does the same in both. -/
theorem bare_callValue {f : Value} {args : List Value} (h : g.Allows (m.straysCalling f args))
    (origin : Origin) :
    (m.callValue f args origin).bare g = (m.bare g).callValue f args origin := by
  unfold straysCalling at h
  unfold callValue
  rw [show (m.bare g).heap = m.heap from rfl]
  split
  · dsimp only at h
    split
    · exact bare_enter ..
    · rename_i f captured hf
      rw [hf] at h
      dsimp only at h
      -- the work is the same, and so is the reply
      have hargs : g.Allows (f.strays m.heap args) := by
        intro hstray
        apply h
        rw [hstray]
        rfl
      unfold act
      rw [work_call_bare hargs]
      apply bare_reply
      intro hstray
      apply h
      rw [Bool.or_eq_true]
      exact .inr hstray
  · split
    · -- the message names what was called, as the frame on top knows it
      obtain ⟨heap, threads, current, frames, depth, mode, interval, owner, ticket, robot⟩ := m
      cases frames with
      | nil => exact bare_fail ..
      | cons top rest =>
        cases top with
        | _ => exact bare_fail ..
    · rfl

/-! ### Steps -/

/-- The collector looks at the store alone. -/
theorem bare_collect : m.collect.bare g = (m.bare g).collect := by
  unfold collect
  rw [bare_work]
  rcases m.work Heap.collected with ⟨_ | ⟨handler, id⟩, m₁⟩
  · rfl
  · exact bare_push_deeper ..

/-- The end of a finalizer is the same. -/
theorem bare_finalized : m.finalized.bare g = (m.bare g).finalized :=
  bare_collect (m := { m with heap := m.heap.occupy false })

/-- An instruction has the same effect. -/
theorem bare_effect (e : Effect) (d : Nat) : (m.effect e d).bare g = (m.bare g).effect e d := by
  cases e with
  | next f => exact bare_collect (m := { m with frames := .lua f d :: m.frames, depth := d })
  | fault f message => rfl
  | call f callee args origin isMeta =>
    -- the depth decides whether a call is too deep, and it is kept
    unfold effect
    dsimp only
    split
    · exact bare_deeper (m := { m with frames := .lua f d :: m.frames, depth := d }) _ _
        fun _ => rfl
    · rfl
  | tail f callee args origin =>
    unfold effect
    rw [show (m.bare g).heap = m.heap from rfl]
    dsimp only
    split
    · rfl
    · rfl
  | leave values => rfl

/-- To set a hook changes nothing else. -/
theorem bare_setHook (hook : Option Nat) : (m.setHook hook).bare g = m.bare g := by
  have hsame := map_modify_of_same m.threads (Thread.bare g) m.current
    (f := fun t => { t with hook }) fun _ => rfl
  exact congrArg (fun threads => { m.bare g with threads }) hsame

/-- To count instructions changes nothing else. -/
theorem bare_counted (count : Count) : (m.counted count).bare g = m.bare g := by
  cases count with
  | countDown left => exact bare_setHook _
  | remove => exact bare_setHook _
  | _ => rfl

/-- What waits for a thread is the same, but for the hook. -/
theorem bare_resumption? : (m.bare g).resumption? = m.resumption?.map (Cont.bare g) := by
  unfold resumption?
  rw [show (m.bare g).current = m.current from rfl, bare_thread,
    show ((m.thread m.current).bare g).resumer = (m.thread m.current).resumer from rfl]
  cases (m.thread m.current).resumer with
  | none => rfl
  -- the frame on top of the one who resumed is stripped as any other
  | some r =>
    dsimp only
    rw [bare_thread]
    unfold Thread.bare
    dsimp only
    cases (m.thread r).frames with
    | nil => rfl
    | cons f rest =>
      cases f with
      | _ => rfl

/-- Which frame waits for the current thread. -/
theorem isWrapped_of_resumption? {thread : Nat} {kind : ResumeKind}
    (h : m.resumption? = some (.resuming thread kind)) : m.isWrapped = kind.isWrapped := by
  unfold resumption? at h
  unfold isWrapped resumer
  -- the kind of a resumption stands on top of the frames of the resumer
  cases hresumer : (m.thread m.current).resumer with
  | none =>
    rw [hresumer] at h
    cases h
  | some r =>
    rw [hresumer] at h
    dsimp only at h
    show Frame.isWrapping (m.thread r).frames = _
    split at h
    · rename_i c d rest hframes
      rw [hframes]
      obtain rfl := Option.some.inj h
      rfl
    · cases h

/-- An error is handled in the same way. -/
theorem bare_handle {e : Value} (h : g.Allows ((boundary m.frames).isNone && m.isWrapped)) :
    (m.handle e).bare g = (m.bare g).handle e := by
  unfold handle
  rw [show (m.bare g).frames = m.frames.map (Frame.bare g) from rfl, boundary_bare,
    bare_resumption?, show (m.bare g).heap = m.heap from rfl]
  split
  · rename_i hboundary
    rw [hboundary] at h
    have h : g.Allows m.isWrapped := h
    have hdie := bare_die (e := e) h
    cases hc : m.resumption? with
    | none => exact hdie
    | some c =>
      cases c with
      | resuming thread kind =>
        -- an error that nothing catches here ends the thread, and the resumption says what becomes
        -- of it
        rw [isWrapped_of_resumption? hc] at h
        cases kind with
        | guarded =>
          cases g with
          | _ => exact hdie
        | wrapped =>
          obtain rfl := h rfl
          rfl
        | hooked =>
          obtain rfl := h rfl
          exact hdie
      | closingThread id => rfl
      | _ => exact hdie
  · exact bare_push_deeper ..
  · split
    · rfl
    · split
      · rfl
      · exact bare_push_deeper ..

/-- A call of the host ends with the same error. -/
theorem bare_unwindHost (e : Value) : (m.unwindHost e).bare g = (m.bare g).unwindHost e := by
  unfold unwindHost
  rw [bare_work]
  dsimp only
  split
  · rfl
  · exact bare_fail ..

/-- A delivered call fails in the same way. -/
theorem bare_unwindDelivery (reason : DrainReason) (invocation : Invocation) (e : Value) :
    (m.unwindDelivery reason invocation e).bare g
      = (m.bare g).unwindDelivery reason invocation e := by
  unfold unwindDelivery
  rw [bare_work]
  dsimp only
  split
  · exact bare_drain ..
  · exact bare_fail ..

/-- **A frame is left by an error** in the same way. -/
theorem bare_unwindTop {e : Value} (h : g.Allows (m.frames.isEmpty && m.isWrapped)) :
    (m.unwindTop e).bare g = (m.bare g).unwindTop e := by
  obtain ⟨heap, threads, current, frames, depth, mode, interval, owner, ticket, robot⟩ := m
  cases frames with
  | nil => exact bare_die h
  | cons f rest =>
    cases f with
    | lua f d =>
      obtain ⟨chunk, proto, pc, stack, locals, cells, outer, varargs, openCount, await, closing,
        isTail, origin, below⟩ := f
      cases closing with
      | nil => rfl
      | cons c cs =>
        -- the frame stays, with one variable less to close
        let f : LuaFrame := ⟨chunk, proto, pc, stack, locals, cells, outer, varargs, openCount,
          await, cs, isTail, origin, below⟩
        let left : Machine := ⟨heap, threads, current, .lua f d :: rest, d, mode, interval, owner,
          ticket, robot⟩
        let handler := heap.metamethod c.value "__close"
        let origin := Origin.metamethod (Text.octets "close")
        let close (m : Machine) : Machine :=
          { m with mode := .call handler [c.value, e] origin true }
        exact bare_deeper (m := left.push (.rethrow e)) close close fun _ => rfl
    | cont c d =>
      cases c with
      | native k =>
        cases k with
        | printLookup args => exact bare_unwindHost e
        | printing tostring done rest => exact bare_unwindHost e
        | _ => rfl
      | describingFailure => exact bare_unwindHost e
      | finalizing => exact bare_finalized
      | drainLookup reason invocation => exact bare_unwindDelivery ..
      | drainCall reason invocation => exact bare_unwindDelivery ..
      | _ => rfl

/-- **Values whose way shows whose functions make coroutines**: a caught panic is among those that
leave a wrapped coroutine, or the function that goes on with them strays. -/
def straysGiving (m : Machine) (values : List Value) : Bool :=
  match m.frames with
  | [] => m.isWrapped && !m.heap.isClean values
  | .cont (.native k) d :: rest =>
    { m with frames := rest, depth := d }.straysActing (k.withResults values)
  | _ => false

/-- **A frame is given values** in the same way. -/
theorem bare_giveTop {values : List Value} (h : g.Allows (m.straysGiving values)) :
    (m.giveTop values).bare g = (m.bare g).giveTop values := by
  obtain ⟨heap, threads, current, frames, depth, mode, interval, owner, ticket, robot⟩ := m
  cases frames with
  | nil => exact bare_finish h
  | cons f rest =>
    cases f with
    | lua f d => exact bare_effect ..
    | cont c d =>
      -- each continuation commutes by a lemma of its own, or by definition
      cases c with
      | native k => exact bare_act h none .unknown
      | describing =>
        show (giveTop _ values).bare g = Machine.giveTop (Machine.bare g _) values
        unfold giveTop
        dsimp only [bare, Frame.bare, Cont.bare, List.map_cons]
        split
        · rfl
        · exact bare_fail ..
      | describingFailure =>
        show (giveTop _ values).bare g = Machine.giveTop (Machine.bare g _) values
        unfold giveTop
        dsimp only [bare, Frame.bare, Cont.bare, List.map_cons]
        split
        · rfl
        · rfl
      | finalizing => exact bare_finalized
      | drainLookup reason i => exact bare_drain ..
      | drainCall reason i => exact bare_drain ..
      | _ => rfl

/-! ### Instructions -/

section Instructions

variable {polled : Bool} {f : LuaFrame} {i : Instr}

/-- The work of an instruction and what it comes to, once it has been taken off the count. -/
def carryOut (m : Machine) (count : Count) (w : Work Effect) (d : Nat) : Machine :=
  ((m.counted count).work w).2.effect ((m.counted count).work w).1 d

/-- Where the hook does not ask, the instruction is executed. -/
theorem runFrame_of_go (d : Nat) (hi : f.proto.code[f.pc]? = some i)
    (hgo : m.polls polled i m.frames ≠ .poll) :
    m.runFrame polled f d
      = m.carryOut (m.polls polled i m.frames) (i.execute { f with pc := f.pc + 1 }) d := by
  unfold runFrame
  rw [hi]
  dsimp only
  cases hcount : m.polls polled i m.frames with
  | poll => exact absurd hcount hgo
  | _ => rfl

/-- Where it asks, nothing is executed yet. -/
theorem runFrame_of_poll (d : Nat) (hi : f.proto.code[f.pc]? = some i)
    (hpoll : m.polls polled i m.frames = .poll) :
    m.runFrame polled f d
      = { m.setHook m.interval with
          frames := .lua f d :: m.frames, depth := d, mode := .ask (.hookPoll m.hookTicket) } := by
  unfold runFrame
  rw [hi]
  dsimp only
  rw [hpoll]
  rfl

/-- A frame that has no instruction left gives nothing. -/
theorem runFrame_of_end (d : Nat) (hi : f.proto.code[f.pc]? = none) :
    m.runFrame polled f d = { m with depth := d, mode := .give [] } := by
  unfold runFrame
  rw [hi]

/-- An instruction is carried out whatever has been counted. -/
theorem bare_carryOut (count : Count) (w : Work Effect) (d : Nat) :
    (m.carryOut count w d).bare g = (m.bare g).carryOut .go w d := by
  unfold carryOut
  have hsame := bare_counted (g := g) (m := m) count
  rw [bare_effect, show ((m.counted count).work w).2.bare g
    = (((m.counted count).bare g).work w).2 from rfl, hsame]
  cases count with
  | _ => rfl

/-- **An instruction is carried out without the hook.** -/
theorem bare_runFrame (d : Nat)
    (h : ∀ i, f.proto.code[f.pc]? = some i → m.polls polled i m.frames ≠ .poll) :
    (m.runFrame polled f d).bare g = (m.bare g).runFrame false f d := by
  cases hi : f.proto.code[f.pc]? with
  | none =>
    rw [runFrame_of_end d hi, runFrame_of_end d hi]
    rfl
  -- without a hook the bare machine never polls, and this one does not poll here
  | some i =>
    have hgo : (m.bare g).polls false i (m.bare g).frames = .go := rfl
    rw [runFrame_of_go d hi (h i hi),
      runFrame_of_go d hi (by rw [hgo]; exact Count.noConfusion), hgo]
    exact bare_carryOut ..

end Instructions

/-! ### Steps that are no instructions -/

/-- **A step that shows whose functions make coroutines.** Besides calls, replies and values, there
are the errors: an error that leaves a wrapped coroutine becomes a failure of the host. -/
def strays (m : Machine) : Bool :=
  match m.mode with
  | .call f args .. => m.straysCalling f args
  | .give values => m.straysGiving values
  | .raise _ => (boundary m.frames).isNone && m.isWrapped
  | .unwind _ => m.frames.isEmpty && m.isWrapped
  | _ => false

/-- A call strays in both. -/
theorem straysCalling_bare (f : Value) (args : List Value) :
    (m.bare g).straysCalling f args = m.straysCalling f args := by
  unfold straysCalling
  rw [show (m.bare g).heap = m.heap from rfl]
  cases f with
  | func id =>
    dsimp only
    cases hf : m.heap.function id with
    | script chunk number cells => rfl
    | native f captured =>
      dsimp only
      -- a function that does not stray acts alike, and so do its consequences
      cases hargs : f.strays m.heap args with
      | true => rfl
      | false =>
        unfold straysActing
        rw [work_call_bare (Grain.allows_of_eq_false hargs)]
        exact straysWith_bare _
  | _ => rfl

/-- Values stray in both. -/
theorem straysGiving_bare (values : List Value) :
    (m.bare g).straysGiving values = m.straysGiving values := by
  -- whether giving strays is read off the frame on top
  obtain ⟨heap, threads, current, frames, depth, mode, interval, owner, ticket, robot⟩ := m
  cases frames with
  | nil => exact congrArg (· && !heap.isClean values) isWrapped_bare
  | cons f rest =>
    cases f with
    | lua f d => rfl
    | cont c d =>
      cases c with
      | native k =>
        exact straysActing_bare
          (m := ⟨heap, threads, current, rest, d, mode, interval, owner, ticket, robot⟩) _
      | _ => rfl

/-- The hook shows in the same steps, with the hook and without. -/
theorem strays_bare : (m.bare g).strays = m.strays := by
  unfold strays
  rw [show (m.bare g).mode = m.mode from rfl]
  -- only these four modes can cross a resumption
  cases m.mode with
  | call f args origin isMeta => exact straysCalling_bare ..
  | give values => exact straysGiving_bare values
  | raise e =>
    dsimp only
    rw [show (m.bare g).frames = m.frames.map (Frame.bare g) from rfl, boundary_bare,
      isWrapped_bare]
  | unwind e =>
    dsimp only
    rw [isWrapped_bare, show (m.bare g).frames = m.frames.map (Frame.bare g) from rfl,
      List.isEmpty_map]
  | _ => rfl

end Machine

/-- Whether the next instruction is about to be carried out, the hook apart. -/
def Mode.isReady : Mode → Bool
  | .run _ => true
  | .ask (.hookPoll _) => true
  | _ => false

namespace Machine

/-- **A step that is no instruction** is the same without the hook, unless it strays. -/
theorem bare_step (hready : m.mode.isReady = false) (h : g.Allows m.strays) :
    m.step.bare g = (m.bare g).step := by
  unfold strays at h
  unfold step
  rw [show (m.bare g).mode = m.mode from rfl]
  -- each mode has its lemma; a machine at an instruction is not treated here
  cases hmode : m.mode with
  | run polled =>
    rw [hmode] at hready
    cases hready
  | call f args origin isMeta =>
    rw [hmode] at h
    exact bare_callValue h origin
  | give values =>
    rw [hmode] at h
    exact bare_giveTop h
  | raise e =>
    rw [hmode] at h
    exact bare_handle h
  | unwind e =>
    rw [hmode] at h
    exact bare_unwindTop h
  | ask w => rfl
  | ended result => rfl

end Machine

end RobotSession.Lua
