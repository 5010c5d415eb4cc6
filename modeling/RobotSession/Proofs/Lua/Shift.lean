import RobotSession.Proofs.Lua.Outline

/-!
# What a step does to the outline

`Machine.Shift` lists what a step can do to the outline of an interpreter. It is an
inversion lemma for `Machine.step`: later proofs split on its cases and never open a step
again.

Most steps are *calm*: they go on inside a thread, and leave the outline alone. The others
ask the host, carry out or hold up an instruction, go over to another thread, or move a
mark.

* `Machine.Calm` — the outline of a machine that goes on by itself.
* `Machine.Drains` — how a delivery goes on.
* `Machine.Acts` — the end of a function, or the reply of a built-in one.
* `Machine.shift_step` — every step is a `Shift`.
* `Machine.answered` — and every answer of the host is `Answered`.
-/

namespace RobotSession.Lua

/-- Whether an interpreter goes on by itself, and has not looked after the inbox. -/
def Mode.isCalm : Mode → Bool
  | .run polled => !polled
  | .ask _ => false
  | .ended _ => false
  | _ => true

namespace Waiting

/-- The delivery that waits for the host's answer. -/
def drain? : Waiting → Option DrainReason
  | .drainTake reason => some reason
  | .drainReport reason .. => some reason
  | _ => none

/-- A hook that reads the flag, or that waits for the host in a delivery. -/
def IsHook (w : Waiting) : Prop :=
  (∃ ticket, w = .hookPoll ticket) ∨ ∃ ticket, w.drain? = some (.hook ticket)

/-- The answer says that there is nothing to deliver. -/
def IsDone (w : Waiting) (a : Answer) : Prop :=
  (∃ ticket, w = .hookPoll ticket ∧ a ≠ .flag true)
    ∨ ∃ reason, w = .drainTake reason ∧ ∀ i, a ≠ .invocation (some i)

end Waiting

namespace Machine

variable {m m' : Machine}

/-! ### Steps inside a thread -/

/-- **A calm machine** has a given outline and goes on by itself, with the inbox not looked
after. Most steps lead from a machine to a calm one of the same outline. -/
structure Calm (o : Outline) (m : Machine) : Prop where
  outline : m.outline = o
  mode : m.mode.isCalm = true

/-- An error is raised. -/
theorem calm_raise (e : Value) : Calm m.outline (m.raise e) := ⟨rfl, rfl⟩

/-- Values are given to the frame that waits. -/
theorem calm_give (values : List Value) : Calm m.outline (m.give values) := ⟨rfl, rfl⟩

/-- A value is called. -/
theorem calm_invoke (f : Value) (args : List Value) : Calm m.outline (m.invoke f args) :=
  ⟨rfl, rfl⟩

/-- A native call goes one level deeper, or is refused. -/
theorem calm_deeper {k : Machine → Machine} (hk : ∀ d, Calm m.outline (k { m with depth := d })) :
    Calm m.outline (m.deeper k) := by
  unfold deeper
  dsimp only
  -- too many nested calls are an error, and the outline is left alone by that, too
  split
  · exact ⟨rfl, rfl⟩
  · split
    · exact ⟨rfl, rfl⟩
    · exact hk _

/-- A call is made under a new frame that is neither of the host nor of a delivery. -/
theorem calm_push_deeper {c : Cont} (hc : ∀ d, (Frame.cont c d).mark? = none) {f : Value}
    {args : List Value} : Calm m.outline ((m.push c).deeper (·.invoke f args)) := by
  rw [← outline_push (hc m.depth)]
  exact calm_deeper fun d => ⟨rfl, rfl⟩

/-- A failure of the host is raised as an error. -/
theorem calm_raiseFailure (e : HostError) : Calm m.outline (m.raiseFailure e) := ⟨rfl, rfl⟩

/-- Any fault of a built-in function is. -/
theorem calm_fail (f : Fault) (callee : Option Native) (origin : Origin) :
    Calm m.outline (m.fail f callee origin) := by
  cases f <;> exact ⟨rfl, rfl⟩

/-- So is the failure of a hooked thread. -/
theorem calm_failHooked (e : Value) : Calm m.outline (m.failHooked e) := by
  unfold failHooked
  split
  · split
    · exact calm_raiseFailure _
    · exact ⟨rfl, rfl⟩
    · exact calm_raiseFailure _
    · exact calm_raiseFailure _
  · split
    · exact calm_raiseFailure _
    · exact calm_push_deeper fun _ => rfl

/-- A resumption gives what the other thread has given. -/
theorem calm_resumed (kind : ResumeKind) (result : Except Value (List Value)) :
    Calm m.outline (m.resumed kind result) := by
  unfold resumed
  split
  · exact calm_give _
  · exact calm_give _
  · exact calm_give _
  · exact calm_raise _
  · exact calm_raise _
  · rename_i values
    -- the values pass through the host, which changes the store and nothing else
    rw [← outline_work (Library.Exchange.values values)]
    dsimp only
    split
    · exact calm_give _
    · exact calm_fail _ _ _
  · exact calm_failHooked _

/-- The frame that has resumed a thread is given its results. -/
theorem calm_deliverResult (result : Except Value (List Value)) :
    Calm m.outline (m.deliverResult result) := by
  unfold deliverResult
  split
  · rename_i thread kind depth rest hframes
    -- the frame that waits for the other thread is removed; it has no mark
    have hpop : ({ m with frames := rest, depth } : Machine).outline = m.outline := by
      unfold outline
      rw [hframes, marks_cont rfl]
    rw [← hpop]
    exact calm_resumed _ _
  · rename_i id depth rest hframes
    -- the same for a thread that was closed; that it had failed is forgotten
    have hpop : ({ m.modifyThread id fun t => { t with failure := none } with
        frames := rest, depth } : Machine).outline = m.outline := by
      have hsame := outline_modifyThread (m := m) id (fun t => { t with failure := none })
        fun _ => rfl
      rw [← hsame]
      unfold outline
      have hmarks : marks (m.modifyThread id fun t => { t with failure := none }).frames
          = marks rest := by
        change marks m.frames = marks rest
        rw [hframes, marks_cont rfl]
      rw [hmarks]
    rw [← hpop]
    split
    · exact calm_give _
    · exact calm_give _
    · exact calm_give _
  · exact calm_give _

/-! ### Deliveries -/

/-- **A delivery goes on**: it waits for the host, or for a call of its own, whose frame
stands above the frames it found. -/
inductive Drains (reason : DrainReason) (o : Outline) (m : Machine) : Prop
  | waits (w : Waiting) (hw : w.drain? = some reason) (houtline : m.outline = o)
      (hmode : m.mode = .ask w)
  | calls (houtline : m.outline = { o with marks := .delivery reason :: o.marks })
      (hmode : m.mode.isCalm = true)

/-- **A delivery goes on.** -/
theorem drains_drain (reason : DrainReason) (s : DrainStep) :
    Drains reason m.outline (m.drain reason s) := by
  -- a call of the delivery goes above a frame that carries the mark
  have hcall : ∀ {c : Cont} {f : Value} {args : List Value}, c.drain? = some reason →
      Drains reason m.outline ((m.push c).deeper (·.invoke f args)) := by
    intro c f args hc
    have hpush : (m.push c).outline
        = { m.outline with marks := .delivery reason :: m.outline.marks } := by
      unfold outline push
      rw [marks_drain hc]
    have hcalm : Calm (m.push c).outline ((m.push c).deeper (·.invoke f args)) :=
      calm_deeper fun _ => ⟨rfl, rfl⟩
    exact .calls (hcalm.outline.trans hpush) hcalm.mode
  cases s with
  | take => exact .waits (.drainTake reason) rfl rfl rfl
  | lookUp f args i => exact hcall rfl
  | call f args i => exact hcall rfl
  | report i error => exact .waits (.drainReport reason i error) rfl rfl rfl

/-! ### Steps between threads -/

/-- **What the end of a function or a built-in function can do** to an outline: go on inside
the thread, ask the host, end a call of the host, or go over to another thread. -/
inductive Acts (o : Outline) (m : Machine) : Prop
  | calm (h : Calm o m)
  | asks (r : Request) (houtline : m.outline = o) (hmode : m.mode = .ask (.native r))
  /-- The main thread has nothing left to do. -/
  | ends (hcurrent : o.current = 0) (hmarks : o.marks = []) (houtline : m.outline = o)
      (hmode : ∃ result, m.mode = .ended result)
  | switches (id : Nat) (kept : List Mark) (hid : id ≠ o.current) (hlt : id < o.strands.size)
      (hstatus : (o.strand id).status = .suspended ∨ (o.strand id).status = .dead)
      (hkept : kept = (o.strand id).marks ∨ kept = []) (h : Calm (o.switchTo id kept) m)
  | leaves (status : ThreadStatus) (hstatus : status = .suspended ∨ status = .dead)
      (hcurrent : o.current ≠ 0) (hmarks : o.marks = []) (h : Calm (o.switchBack status) m)
  | creates (isHooked : Bool) (h : Calm (o.create isHooked) m)
  | closes (id : Nat) (hid : id ≠ o.current)
      (hstatus : (o.strand id).status = .suspended ∨ (o.strand id).status = .dead)
      (h : Calm (o.close id) m)

/-- A thread ends, and the one that has resumed it goes on. The main thread ends the call. -/
theorem acts_finish (hmarks : marks m.frames = []) (values : List Value) :
    Acts m.outline (m.finish values) := by
  unfold finish
  split
  · exact .ends ‹_› hmarks rfl ⟨_, rfl⟩
  · rename_i hcurrent
    refine .leaves .dead (.inr rfl) hcurrent hmarks ?_
    rw [← outline_switchBack (m := m) (fun t => { t with status := .dead, frames := [] })
      fun _ => rfl]
    exact calm_deliverResult _

/-- So it is with a thread that dies. -/
theorem acts_die (hmarks : marks m.frames = []) (e : Value) : Acts m.outline (m.die e) := by
  unfold die
  -- the main state ends with the error; a coroutine hands it to the one who resumed it
  split
  · refine .ends ‹_› hmarks ?_ ⟨_, rfl⟩
    unfold outline
    rw [hmarks]
    rfl
  · rename_i hcurrent
    refine .leaves .dead (.inr rfl) hcurrent hmarks ?_
    rw [← outline_switchBack (m := m)
      (fun t => { t with status := .dead, failure := some e, frames := m.frames })
      fun t => congrArg (fun s => Strand.mk .dead s t.resumer t.hook) hmarks]
    exact calm_deliverResult _

/-- A thread yields, or may not. -/
theorem acts_yield (values : List Value) : Acts m.outline (m.yield values) := by
  unfold yield
  split
  · exact .calm (calm_raise _)
  · split
    · exact .calm (calm_raise _)
    · rename_i hcurrent hyieldable
      -- a thread is not suspended across a delivery or a call of the host
      have hall : m.frames.all Frame.isYieldable = true := by
        simpa using hyieldable
      have hmarks := marks_eq_nil_of_isYieldable hall
      refine .leaves .suspended (.inl rfl) hcurrent hmarks ?_
      rw [← outline_switchBack (m := m)
        (fun t => { t with status := .suspended, frames := m.frames })
        fun t => congrArg (fun s => Strand.mk .suspended s t.resumer t.hook) hmarks]
      exact calm_deliverResult _

/-- A thread that is no dead one is there. -/
theorem lt_size_of_status {id : Nat} (h : (m.thread id).status ≠ .dead) :
    id < m.outline.strands.size := by
  change id < (m.threads.map Thread.strand).size
  rw [Array.size_map]
  refine Nat.lt_of_not_le fun hle => h ?_
  unfold thread Thread.at
  rw [Array.getD_eq_getD_getElem?, Array.getElem?_eq_none hle]
  rfl

/-- A thread with frames is there. -/
theorem lt_size_of_frames {id : Nat} (h : (m.thread id).frames ≠ []) :
    id < m.outline.strands.size := by
  change id < (m.threads.map Thread.strand).size
  rw [Array.size_map]
  refine Nat.lt_of_not_le fun hle => h ?_
  unfold thread Thread.at
  rw [Array.getD_eq_getD_getElem?, Array.getElem?_eq_none hle]
  rfl

/-- Another thread is resumed, or cannot be. -/
theorem acts_resume (id : Nat) (args : List Value) (kind : ResumeKind) :
    Acts m.outline (m.resume id args kind) := by
  unfold resume
  dsimp only
  split
  · -- only a thread that is suspended is resumed, and it is another one
    rename_i hgo
    rw [Bool.and_eq_true, decide_eq_true_iff, decide_eq_true_iff] at hgo
    obtain ⟨hid, hstatus⟩ := hgo
    split
    · exact .calm (calm_resumed _ _)
    · have hlt : id < m.outline.strands.size :=
        lt_size_of_status (by rw [hstatus]; exact ThreadStatus.noConfusion)
      have hstrand := strand_thread (m := m) id
      refine .switches id _ hid hlt (.inl ?_) (.inl rfl) ?_
      · rw [hstrand]
        exact hstatus
      · rw [hstrand]
        have houtline := outline_switchTo (m := m) id (c := .resuming id kind)
          (m.thread id).frames rfl
        split
        · exact ⟨houtline, rfl⟩
        · exact ⟨houtline, rfl⟩
  · split
    · split
      · exact .calm (calm_raiseFailure _)
      · exact .calm (calm_raiseFailure _)
    · exact .calm (calm_resumed _ _)

/-- A thread is closed, or its variables are closed first. -/
theorem acts_closeThread (id : Nat) : Acts m.outline (m.closeThread id) := by
  unfold closeThread
  dsimp only
  by_cases hid : id = m.current
  · -- a thread that runs does not close itself
    rw [if_pos hid, if_neg (by decide)]
    exact .calm (calm_fail _ _ _)
  · rw [if_neg hid]
    split
    · rename_i hgo
      rw [Bool.or_eq_true, decide_eq_true_iff, decide_eq_true_iff] at hgo
      have hstatus : (m.outline.strand id).status = .suspended
          ∨ (m.outline.strand id).status = .dead := by
        rw [strand_thread]
        exact hgo
      -- with variables left to close, the thread runs once more to close them
      split
      · refine .closes id hid hstatus ?_
        rw [← outline_close]
        split
        · exact calm_give _
        · exact calm_give _
      · rename_i hclosers
        have hlt : id < m.outline.strands.size := by
          refine lt_size_of_frames fun hnil => hclosers ?_
          rw [hnil]
          rfl
        refine .switches id [] hid hlt hstatus (.inr rfl) ?_
        have houtline := outline_switchTo (m := m) id (c := .closingThread id)
          (closers (m.thread id).frames) rfl
        rw [marks_closers] at houtline
        exact ⟨houtline, rfl⟩
    · exact .calm (calm_fail _ _ _)

/-- A thread is created. -/
theorem acts_create (body : Value) (isHooked : Bool) (carrier : Option Native) :
    Acts m.outline (m.create body isHooked carrier) := by
  refine .creates isHooked ⟨outline_create, ?_⟩
  cases carrier <;> rfl

/-- **Every reply of a built-in function** is one of these. -/
theorem acts_reply (r : Reply) (callee : Option Native) (origin : Origin) :
    Acts m.outline (m.reply r callee origin) := by
  -- a reply either stays on this thread or is one of the coroutine operations
  cases r with
  | done values => exact .calm (calm_give _)
  | fail f => exact .calm (calm_fail _ _ _)
  | call f args k => exact .calm (calm_push_deeper fun _ => rfl)
  | tail f args => exact .calm (calm_invoke _ _)
  | ask r => exact .asks r rfl rfl
  | resume id args isWrapped => exact acts_resume _ _ _
  | closeThread id => exact acts_closeThread _
  | yield values => exact acts_yield _
  | create body carrier => exact acts_create _ _ _

/-- **A built-in function does its work**, and then what it replies. -/
theorem acts_act (b : Body Reply) (callee : Option Native) (origin : Origin) :
    Acts m.outline (m.act b callee origin) :=
  acts_reply (m := (m.work b.toAct).2) _ _ _

/-- A script function is entered. -/
theorem calm_enter (chunk : Chunk) (number : Nat) (outer : Array Nat) (args : List Value)
    (origin : Origin) : Calm m.outline (m.enter chunk number outer args origin) := by
  unfold enter
  dsimp only
  split
  · exact calm_raise _
  · exact ⟨rfl, rfl⟩

/-- **A value is called.** -/
theorem acts_callValue (f : Value) (args : List Value) (origin : Origin) :
    Acts m.outline (m.callValue f args origin) := by
  unfold callValue
  split
  · split
    · exact .calm (calm_enter _ _ _ _ _)
    · exact acts_act _ _ _
  · split
    · exact .calm (calm_fail _ _ _)
    · exact .calm ⟨rfl, rfl⟩

/-- The collector works on the store, and calls a finalizer above a frame without a mark. -/
theorem calm_collect : Calm m.outline m.collect := by
  rw [← outline_work Heap.collected]
  unfold collect
  split
  · rename_i m₁ hwork
    rw [hwork]
    exact ⟨rfl, rfl⟩
  · rename_i handler id m₁ hwork
    rw [hwork]
    exact calm_push_deeper fun _ => rfl

/-- A finalizer has ended. -/
theorem calm_finalized : Calm m.outline m.finalized :=
  calm_collect (m := { m with heap := m.heap.occupy false })

/-- **An instruction takes its effect** inside its thread. -/
theorem calm_effect (e : Effect) (d : Nat) : Calm m.outline (m.effect e d) := by
  -- an instruction calls, leaves or goes on, and puts no mark on the stack
  cases e with
  | next f => exact calm_collect (m := { m with frames := .lua f d :: m.frames, depth := d })
  | fault f message => exact ⟨rfl, rfl⟩
  | call f callee args origin isMeta =>
    unfold effect
    dsimp only
    split
    · exact calm_deeper (m := { m with frames := .lua f d :: m.frames, depth := d })
        fun _ => ⟨rfl, rfl⟩
    · exact ⟨rfl, rfl⟩
  | tail f callee args origin =>
    unfold effect
    dsimp only
    split
    · exact ⟨rfl, rfl⟩
    · exact ⟨rfl, rfl⟩
  | leave values => exact ⟨rfl, rfl⟩

/-! ### Steps -/

/-- **A panic reaches a delivery** that is on top of the stack. -/
def Forsaken (reason : DrainReason) (m : Machine) : Prop :=
  ∃ e c d rest fault, m.mode = .unwind e ∧ m.frames = .cont c d :: rest ∧ c.drain? = some reason
    ∧ (m.work (Library.Exchange.failure e)).1 = .error fault

/-- **An instruction is about to be carried out**, and the hook does not run before it. -/
structure Runs (i : Instr) (count : Count) (polled : Bool) (m : Machine) : Prop where
  mode : m.mode = .run polled
  top : ∃ f d rest, m.frames = .lua f d :: rest ∧ f.proto.code[f.pc]? = some i
    ∧ m.polls polled i rest = count
  count : count ≠ .poll

/-- **A step of an interpreter**, by what it does to the outline. -/
inductive Shift (m m' : Machine) : Prop
  | acts (h : Acts m.outline m')
  /-- An instruction is carried out. -/
  | runs (i : Instr) (count : Count) (polled : Bool) (hruns : Runs i count polled m)
      (h : Calm (m.outline.counted count) m')
  /-- The hook runs before an instruction. -/
  | polls (polled : Bool) (f : LuaFrame) (d : Nat) (rest : List Frame) (i : Instr)
      (hmode : m.mode = .run polled) (hframes : m.frames = .lua f d :: rest)
      (hi : f.proto.code[f.pc]? = some i) (hcount : m.polls polled i rest = .poll)
      (houtline : m'.outline = m.outline.setHook m.interval)
      (hasks : m'.mode = .ask (.hookPoll m.hookTicket))
  | delivers (reason : DrainReason) (rest : List Mark)
      (hmarks : m.outline.marks = .delivery reason :: rest)
      (h : Drains reason { m.outline with marks := rest } m')
  /-- A panic leaves a delivery. -/
  | forsakes (reason : DrainReason) (rest : List Mark) (hforsaken : Forsaken reason m)
      (hmarks : m.outline.marks = .delivery reason :: rest)
      (h : Calm { m.outline with marks := rest } m')
  /-- A call of the host has ended. -/
  | returns (rest : List Mark) (hmarks : m.outline.marks = .host :: rest)
      (houtline : m'.outline = { m.outline with marks := rest })
      (hended : ∃ result, m'.mode = .ended result)

/-- A script frame leaves no mark. -/
theorem outline_above {f : LuaFrame} {d : Nat} {rest : List Frame}
    (hframes : m.frames = .lua f d :: rest) :
    ({ m with frames := rest } : Machine).outline = m.outline := by
  unfold outline
  rw [hframes, marks_lua]

/-- **An instruction is executed**, and counted. -/
theorem calm_runFrame {polled : Bool} {f : LuaFrame} {d : Nat} {rest : List Frame} {i : Instr}
    (hframes : m.frames = .lua f d :: rest) (hi : f.proto.code[f.pc]? = some i)
    (hcount : m.polls polled i rest ≠ .poll) :
    Calm (m.outline.counted (m.polls polled i rest))
      ({ m with frames := rest }.runFrame polled f d) := by
  rw [← outline_above hframes, ← outline_counted]
  unfold runFrame
  dsimp only
  rw [hi]
  dsimp only
  -- by now the instruction is off the count, so the outline is the counted one
  split
  · rename_i hpoll
    exact absurd hpoll hcount
  · exact calm_effect (m := (work _ _).2) _ _

/-- A script frame runs: an instruction is executed, or the hook asks for the flag. -/
theorem shift_runFrame {polled : Bool} {f : LuaFrame} {d : Nat} {rest : List Frame}
    (hmode : m.mode = .run polled) (hframes : m.frames = .lua f d :: rest) :
    Shift m ({ m with frames := rest }.runFrame polled f d) := by
  cases hi : f.proto.code[f.pc]? with
  | none =>
    unfold runFrame
    rw [hi]
    exact .acts (.calm ⟨outline_above hframes, rfl⟩)
  | some i =>
    by_cases hcount : m.polls polled i rest = .poll
    · -- the count is full: it starts again, and the host is asked for the flag
      have hpolls : ({ m with frames := rest } : Machine).polls polled i rest = .poll := hcount
      unfold runFrame
      rw [hi]
      dsimp only
      rw [hpolls]
      refine .polls polled f d rest i hmode hframes hi hcount ?_ rfl
      rw [← outline_above hframes, ← outline_setHook]
      rfl
    · exact .runs i _ polled ⟨hmode, ⟨f, d, rest, hframes, hi, rfl⟩, hcount⟩
        (calm_runFrame hframes hi hcount)

/-- The frame on top runs, if it is one of a script. -/
theorem shift_runTop {polled : Bool} (hmode : m.mode = .run polled) :
    Shift m (m.runTop polled) := by
  obtain ⟨heap, threads, current, frames, depth, mode, interval, owner, ticket, robot⟩ := m
  unfold runTop
  dsimp only
  split
  · exact shift_runFrame
      (m := ⟨heap, threads, current, _, depth, mode, interval, owner, ticket, robot⟩) hmode rfl
  · exact .acts (.calm ⟨rfl, rfl⟩)

/-- Where an instruction is executed, nothing else happens in the step. -/
theorem Runs.calm_step {i : Instr} {count : Count} {polled : Bool} (h : Runs i count polled m) :
    Calm (m.outline.counted count) m.step := by
  obtain ⟨f, d, rest, hframes, hi, rfl⟩ := h.top
  -- a step looks at the mode and at the top frame, and both are known
  have hcalm := calm_runFrame hframes hi h.count
  have hmode := h.mode
  obtain ⟨heap, threads, current, frames, depth, mode, interval, owner, ticket, robot⟩ := m
  change mode = _ at hmode
  change frames = _ at hframes
  subst hmode hframes
  exact hcalm

/-- An error is handled where it has been raised. -/
theorem acts_handle (e : Value) : Acts m.outline (m.handle e) := by
  unfold handle
  -- an error is unwound to the frame where it ends, or its handler is called first
  split
  · split
    · exact .calm ⟨rfl, rfl⟩
    · exact .calm ⟨rfl, rfl⟩
    · -- no boundary, so no mark: the thread dies of the error
      rename_i hboundary _ _ _
      exact acts_die (marks_eq_nil_of_boundary hboundary) _
  · exact .calm (calm_push_deeper fun _ => rfl)
  · split
    · exact .calm ⟨rfl, rfl⟩
    · split
      · exact .calm ⟨rfl, rfl⟩
      · exact .calm (calm_push_deeper fun _ => rfl)

/-- A call of the host is left by an error. -/
theorem calm_unwindHost (e : Value) : Calm m.outline (m.unwindHost e) := by
  rw [← outline_work (Library.Exchange.failure e)]
  unfold unwindHost
  dsimp only
  split
  · exact calm_raiseFailure _
  · exact calm_fail _ _ _

/-- The failure of a delivered call is reported, or a panic leaves the delivery. -/
theorem unwindDelivery_cases (reason : DrainReason) (i : Invocation) (e : Value) :
    Drains reason m.outline (m.unwindDelivery reason i e)
      ∨ (∃ fault, (m.work (Library.Exchange.failure e)).1 = .error fault)
        ∧ Calm m.outline (m.unwindDelivery reason i e) := by
  rw [← outline_work (Library.Exchange.failure e)]
  unfold unwindDelivery
  dsimp only
  split
  · exact .inl (drains_drain _ _)
  · rename_i fault hfault
    exact .inr ⟨⟨fault, hfault⟩, calm_fail _ _ _⟩

/-- **A frame is left by an error.** The host's call ends with its last frame, and a delivery goes
on. -/
theorem shift_unwindTop {e : Value} (hmode : m.mode = .unwind e) : Shift m (m.unwindTop e) := by
  unfold unwindTop
  split
  · rename_i hframes
    refine .acts (acts_die ?_ e)
    rw [hframes]
    rfl
  · rename_i f d rest hframes
    have hmarks : marks m.frames = marks rest := by
      rw [hframes, marks_lua]
    have hpop : ({ m.outline with marks := marks rest } : Outline) = m.outline := by
      rw [← hmarks]
      rfl
    split
    · exact .acts (.calm ⟨hpop, rfl⟩)
    · rename_i c cs _
      refine .acts (.calm ?_)
      rw [← hpop]
      exact calm_deeper (m := Machine.push
        { m with frames := .lua { f with closing := cs } d :: rest, depth := d } (.rethrow e))
        fun _ => ⟨rfl, rfl⟩
  · rename_i c d rest hframes
    -- what is left of the outline once a frame without a mark has been removed
    have hplain : (Frame.cont c d).mark? = none →
        ({ m with frames := rest, depth := d } : Machine).outline = m.outline := by
      intro hc
      rw [outline_pop, ← marks_cont hc, ← hframes]
      rfl
    have hcalm : ∀ {m₁ : Machine}, (Frame.cont c d).mark? = none →
        Calm ({ m with frames := rest, depth := d } : Machine).outline m₁ → Shift m m₁ := by
      intro m₁ hc h
      rw [hplain hc] at h
      exact .acts (.calm h)
    -- a delivery survives an error of its call, and is left by a panic
    have hdelivery : ∀ {reason : DrainReason} {m₁ : Machine}, c.drain? = some reason →
        (Drains reason ({ m with frames := rest, depth := d } : Machine).outline m₁
          ∨ (∃ fault, (m.work (Library.Exchange.failure e)).1 = .error fault)
            ∧ Calm ({ m with frames := rest, depth := d } : Machine).outline m₁) → Shift m m₁ := by
      intro reason m₁ hc h
      have hmarks : m.outline.marks = .delivery reason :: marks rest := by
        change marks m.frames = _
        rw [hframes, marks_drain hc]
      rcases h with h | ⟨⟨fault, hfault⟩, h⟩
      · exact .delivers reason _ hmarks h
      · exact .forsakes reason _ ⟨e, c, d, rest, fault, hmode, hframes, hc, hfault⟩ hmarks h
    dsimp only
    split
    · refine .returns (marks rest) ?_ rfl ⟨_, rfl⟩
      change marks m.frames = _
      rw [hframes, marks_entry]
    · exact hcalm rfl (calm_give _)
    · exact hcalm rfl (calm_give _)
    · exact hcalm rfl (calm_unwindHost _)
    · exact hcalm rfl (calm_unwindHost _)
    · exact hcalm rfl (calm_unwindHost _)
    · exact hcalm rfl calm_finalized
    · exact hdelivery rfl (unwindDelivery_cases _ _ _)
    · exact hdelivery rfl (unwindDelivery_cases _ _ _)
    · -- every other frame is removed
      rename_i hentry _ _ _ _ _ _ hlookup hcall
      refine hcalm ?_ ⟨rfl, rfl⟩
      cases c with
      | entry => exact absurd rfl hentry
      | drainLookup r i => exact absurd rfl (hlookup r i)
      | drainCall r i => exact absurd rfl (hcall r i)
      | _ => rfl

/-- **A frame is given values.** -/
theorem shift_giveTop (values : List Value) : Shift m (m.giveTop values) := by
  obtain ⟨heap, threads, current, frames, depth, mode, interval, owner, ticket, robot⟩ := m
  unfold giveTop
  dsimp only
  split
  · exact .acts (acts_finish
      (m := ⟨heap, threads, current, [], depth, mode, interval, owner, ticket, robot⟩) rfl _)
  · rename_i f d rest
    exact .acts (.calm (calm_effect
      (m := ⟨heap, threads, current, rest, depth, mode, interval, owner, ticket, robot⟩) _ _))
  · rename_i c d rest
    -- a frame without a mark leaves no trace in the outline when it is removed
    have hcalm : ∀ {m₁ : Machine}, (Frame.cont c d).mark? = none →
        Acts (Machine.mk heap threads current rest d mode interval owner ticket robot).outline m₁ →
        Shift
          ⟨heap, threads, current, .cont c d :: rest, depth, mode, interval, owner, ticket, robot⟩
          m₁ := by
      intro m₁ hc h
      refine .acts ?_
      unfold outline
      rw [marks_cont hc]
      exact h
    cases c with
    | entry => exact .returns (marks rest) rfl rfl ⟨_, rfl⟩
    | native k => exact hcalm rfl (acts_act _ _ _)
    | handling => exact hcalm rfl (.calm ⟨rfl, rfl⟩)
    | describing =>
      refine hcalm rfl (.calm ?_)
      dsimp only
      split
      · exact ⟨rfl, rfl⟩
      · exact calm_fail _ _ _
    | describingFailure =>
      refine hcalm rfl (.calm ?_)
      dsimp only
      split
      · exact calm_raiseFailure _
      · exact calm_raiseFailure _
    | rethrow e => exact hcalm rfl (.calm ⟨rfl, rfl⟩)
    | finalizing => exact hcalm rfl (.calm calm_finalized)
    | resuming thread kind => exact hcalm rfl (.calm (calm_give _))
    | closingThread thread => exact hcalm rfl (.calm (calm_give _))
    | drainLookup reason i =>
      refine .delivers reason (marks rest) rfl ?_
      exact drains_drain
        (m := ⟨heap, threads, current, rest, d, mode, interval, owner, ticket, robot⟩) _ _
    | drainCall reason i =>
      refine .delivers reason (marks rest) rfl ?_
      exact drains_drain
        (m := ⟨heap, threads, current, rest, d, mode, interval, owner, ticket, robot⟩) _ _

/-- **A step that an interpreter takes by itself** is one of these. -/
theorem shift_step (h : m.isWaiting = false) : Shift m m.step := by
  unfold step
  unfold isWaiting at h
  -- one case for each mode; the last two are those that wait
  split
  · exact shift_runTop ‹_›
  · exact .acts (acts_callValue _ _ _)
  · exact shift_giveTop _
  · exact .acts (acts_handle _)
  · exact shift_unwindTop ‹_›
  · rename_i w hmode
    rw [hmode] at h
    cases h
  · rename_i result hmode
    rw [hmode] at h
    cases h

/-! ### Answers and calls of the host -/

section Answers

variable {reason : DrainReason} {a : Answer}

/-- **An answer of the host**, by what it does to the outline. -/
inductive Answered (m : Machine) (w : Waiting) (a : Answer) (m' : Machine) : Prop
  /-- A built-in function goes on, which no hook has called for itself. -/
  | acts (hw : ¬w.IsHook) (h : Acts m.outline m')
  /-- A delivery goes on; if a hook has asked, it is the hook's. -/
  | drains (reason : DrainReason) (hw : w.IsHook → ∃ ticket, reason = .hook ticket)
      (h : Drains reason m.outline m')
  /-- There is nothing to deliver. -/
  | done (hw : w.IsDone a) (houtline : m'.outline = m.outline) (hgo : m'.isWaiting = false)

/-- A built-in function goes on with the answer to what it has asked. -/
theorem acts_answer {r : Request} (hmode : m.mode = .ask (.native r))
    (hflag : ∀ deadline, r = .sleepCheck deadline → a ≠ .flag true) :
    Acts m.outline (m.answer a) := by
  rw [answer_of_mode hmode]
  have hact := acts_act (m := { m with mode := .run false }) (r.withAnswer a) none .unknown
  cases r with
  | sleepCheck deadline =>
    -- only a sleep that finds the flag set does something else than its request
    cases a with
    | flag b =>
      cases b with
      | true => exact absurd rfl (hflag deadline rfl)
      | false => exact hact
    | _ => exact hact
  | _ => exact hact

/-- Queued calls end a sleep. -/
theorem drains_answer_sleepCheck {deadline : Nat}
    (hmode : m.mode = .ask (.native (.sleepCheck deadline))) :
    Drains .sleep m.outline (m.answer (.flag true)) := by
  rw [answer_of_mode hmode]
  exact drains_drain (m := { m with mode := .run false }) .sleep .take

/-- A hook that finds the flag set begins a delivery. -/
theorem answer_hookPoll_flag {n : Nat} (hmode : m.mode = .ask (.hookPoll n)) :
    m.answer (.flag true) = { m with mode := .ask (.drainTake (.hook n)) } := by
  rw [answer_of_mode hmode]
  rfl

/-- The hook has found the flag raised, and begins to deliver. -/
theorem drains_answer_hookPoll {n : Nat} (hmode : m.mode = .ask (.hookPoll n)) :
    Drains (.hook n) m.outline (m.answer (.flag true)) := by
  rw [answer_hookPoll_flag hmode]
  exact drains_drain (m := m) (.hook n) .take

/-- A hook that finds the flag clear lets the instruction go on. -/
theorem answer_hookPoll {n : Nat} (hmode : m.mode = .ask (.hookPoll n)) (ha : a ≠ .flag true) :
    m.answer a = { m with mode := .run true } := by
  rw [answer_of_mode hmode]
  cases a with
  | flag b =>
    cases b with
    | true => exact absurd rfl ha
    | false => rfl
  | _ => rfl

/-- **A call that is taken is handed to the delivery** that asked for it. -/
theorem answer_drainTake_some (hmode : m.mode = .ask (.drainTake reason)) (i : Invocation) :
    m.answer (.invocation (some i)) = Machine.drain { m with mode := .run false } reason
      (Library.Robot.taken m.heap m.retained i) := by
  rw [answer_of_mode hmode]
  rfl

/-- A call has been taken, and is delivered. -/
theorem drains_answer_drainTake {i : Invocation} (hmode : m.mode = .ask (.drainTake reason)) :
    Drains reason m.outline (m.answer (.invocation (some i))) := by
  rw [answer_drainTake_some hmode i]
  exact drains_drain (m := { m with mode := .run false }) _ _

/-- A delivery that finds no call ends. -/
theorem answer_drainTake (hmode : m.mode = .ask (.drainTake reason))
    (ha : ∀ i, a ≠ .invocation (some i)) :
    m.answer a = { m with mode := .run false }.drained reason := by
  rw [answer_of_mode hmode]
  cases a with
  | invocation i =>
    cases i with
    | some i => exact absurd rfl (ha i)
    | none => rfl
  | _ => rfl

/-- A call has been reported, and the next one is asked for. -/
theorem drains_answer_drainReport {i : Invocation} {error : String}
    (hmode : m.mode = .ask (.drainReport reason i error)) :
    Drains reason m.outline (m.answer a) := by
  rw [answer_of_mode hmode]
  exact drains_drain (m := { m with mode := .run false }) reason .take

/-- **Every answer of the host** is one of these. -/
theorem answered {w : Waiting} (hmode : m.mode = .ask w) (a : Answer) :
    Answered m w a (m.answer a) := by
  -- a delivery that waits for the host is a hook's if the hook asks
  have hdrain : ∀ {reason}, w.drain? = some reason → w.IsHook →
      ∃ ticket, reason = .hook ticket := by
    rintro reason hw (⟨ticket, rfl⟩ | ⟨ticket, hhook⟩)
    · cases hw
    · exact ⟨ticket, Option.some.inj (hw.symm.trans hhook)⟩
  cases w with
  | native r =>
    have hno : ¬(Waiting.native r).IsHook := by
      rintro (⟨ticket, hw⟩ | ⟨ticket, hw⟩)
      · cases hw
      · cases hw
    by_cases hflag : (∃ deadline, r = .sleepCheck deadline) ∧ a = .flag true
    · obtain ⟨⟨deadline, rfl⟩, rfl⟩ := hflag
      exact .drains .sleep (fun hhook => absurd hhook hno) (drains_answer_sleepCheck hmode)
    · exact .acts hno (acts_answer hmode fun deadline hr ha => hflag ⟨⟨deadline, hr⟩, ha⟩)
  | hookPoll ticket =>
    by_cases ha : a = .flag true
    · rw [ha]
      exact .drains (.hook ticket) (fun _ => ⟨ticket, rfl⟩) (drains_answer_hookPoll hmode)
    · rw [answer_hookPoll hmode ha]
      exact .done (.inl ⟨ticket, rfl, ha⟩) rfl rfl
  | drainTake reason =>
    by_cases ha : ∃ i, a = .invocation (some i)
    · obtain ⟨i, rfl⟩ := ha
      exact .drains reason (hdrain rfl) (drains_answer_drainTake hmode)
    · have hnone : ∀ i, a ≠ .invocation (some i) := fun i hi => ha ⟨i, hi⟩
      rw [answer_drainTake hmode hnone]
      -- the hook lets its instruction go on, a sleep returns
      cases reason with
      | hook ticket => exact .done (.inr ⟨_, rfl, hnone⟩) rfl rfl
      | sleep => exact .done (.inr ⟨_, rfl, hnone⟩) rfl rfl
  | drainReport reason i error =>
    exact .drains reason (hdrain rfl) (drains_answer_drainReport hmode)

/-- A call of the host begins on the main thread, above nothing. -/
theorem calm_start (f : Value) (args : List Value) :
    Calm { m.outline with current := 0, marks := [.host] } (m.start f args) :=
  calm_deeper (m := Machine.push { m with current := 0, frames := [], depth := 0 } .entry)
    fun _ => ⟨rfl, rfl⟩

end Answers

end Machine

end RobotSession.Lua
