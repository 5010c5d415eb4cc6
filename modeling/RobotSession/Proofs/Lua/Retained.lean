import RobotSession.Proofs.Lua.Outline

/-!
# What an interpreter retains

The robot and its end routine are retained by the host, outside of all that a script can reach.
Whatever a script does, and whatever the host answers it, they stay as they are: only the host
itself exchanges them, between two of its calls.

* `Machine.retained_step`, `Machine.retained_answer` — a script changes nothing of it.
-/

namespace RobotSession.Lua.Machine

variable {m : Machine}

/-! ### Steps inside a thread -/

/-- A native call that goes too deep is an error, and the robot stays as it is. -/
theorem retained_deeper {k : Machine → Machine}
    (hk : ∀ d, (k { m with depth := d }).retained = m.retained) :
    (m.deeper k).retained = m.retained := by
  unfold deeper
  dsimp only
  split
  · rfl
  · split
    · rfl
    · exact hk _

/-- A call under a new frame leaves the robot to what is called. -/
theorem retained_push_deeper (c : Cont) (f : Value) (args : List Value) :
    ((m.push c).deeper (·.invoke f args)).retained = m.retained :=
  retained_deeper (m := m.push c) fun _ => rfl

/-- Every kind of failure is an error of the script, a failure of the host or a panic, and none of
them is about the robot. -/
theorem retained_fail (f : Fault) (callee : Option Native) (origin : Origin) :
    (m.fail f callee origin).retained = m.retained := by
  cases f <;> rfl

/-- A hooked thread that has failed is told of by a failure, or by a call of `__tostring`. -/
theorem retained_failHooked (e : Value) : (m.failHooked e).retained = m.retained := by
  unfold failHooked
  split
  · split <;> rfl
  · split
    · rfl
    · exact retained_push_deeper _ _ _

/-- What a resumption gives is given to the frame that waits for it. -/
theorem retained_resumed (kind : ResumeKind) (result : Except Value (List Value)) :
    (m.resumed kind result).retained = m.retained := by
  cases kind with
  | guarded =>
    cases result with
    | _ => rfl
  | wrapped =>
    cases result with
    | ok values => rfl
    | error e =>
      cases e with
      | _ => rfl
  -- the outermost call hands its values on, which may fail for what they hold
  | hooked =>
    cases result with
    | ok values =>
      unfold resumed
      dsimp only
      split
      · rfl
      · exact retained_fail (m := (m.work _).2) _ _ _
    | error e => exact retained_failHooked _

/-- The end of a thread is delivered to the frame that has resumed it. -/
theorem retained_deliverResult (result : Except Value (List Value)) :
    (m.deliverResult result).retained = m.retained := by
  unfold deliverResult
  split
  · rename_i thread kind depth rest hframes
    exact retained_resumed (m := { m with frames := rest, depth := depth }) _ _
  · split <;> rfl
  · rfl

/-! ### Steps between threads -/

/-- A thread that ends leads back to the one that has resumed it. -/
theorem retained_finish (values : List Value) : (m.finish values).retained = m.retained := by
  unfold finish
  split
  · rfl
  · exact retained_deliverResult (m := m.switchBack _) _

/-- So does one that dies of an error. -/
theorem retained_die (e : Value) : (m.die e).retained = m.retained := by
  unfold die
  split
  · rfl
  · exact retained_deliverResult (m := m.switchBack _) _

/-- So does one that yields. -/
theorem retained_yield (values : List Value) : (m.yield values).retained = m.retained := by
  unfold yield
  split
  · rfl
  · split
    · rfl
    · exact retained_deliverResult (m := m.switchBack _) _

/-- Another thread begins to run, or its resumption fails at once. -/
theorem retained_resume (id : Nat) (args : List Value) (kind : ResumeKind) :
    (m.resume id args kind).retained = m.retained := by
  unfold resume
  dsimp only
  split
  · split
    · exact retained_resumed _ _
    · split <;> rfl
  · split
    · split <;> rfl
    · exact retained_resumed _ _

/-- A thread is closed, once its variables that are to be closed have been. -/
theorem retained_closeThread (id : Nat) : (m.closeThread id).retained = m.retained := by
  unfold closeThread
  dsimp only
  generalize (if id = m.current then ThreadStatus.running else (m.thread id).status) = status
  split
  · split
    · split <;> rfl
    · rfl
  · exact retained_fail _ _ _

/-- A new thread is put beside those that there are. -/
theorem retained_create (body : Value) (isHooked : Bool) (carrier : Option Native) :
    (m.create body isHooked carrier).retained = m.retained := by
  cases carrier <;> rfl

/-- What a built-in function replies is done by one of the operations before. -/
theorem retained_reply (r : Reply) (callee : Option Native) (origin : Origin) :
    (m.reply r callee origin).retained = m.retained := by
  cases r with
  | fail f => exact retained_fail _ _ _
  | call f args k => exact retained_push_deeper _ _ _
  | resume id args isWrapped => exact retained_resume _ _ _
  | closeThread id => exact retained_closeThread _
  | yield values => exact retained_yield _
  | create body carrier => exact retained_create _ _ _
  | _ => rfl

/-- Its work is work on the store. -/
theorem retained_act (b : Body Reply) (callee : Option Native) (origin : Origin) :
    (m.act b callee origin).retained = m.retained :=
  retained_reply (m := (m.work b.toAct).2) _ _ _

/-- A delivery calls into the script, or asks for the next call. Only its frames say what it is
doing. -/
theorem retained_drain (reason : DrainReason) (s : DrainStep) :
    (m.drain reason s).retained = m.retained := by
  cases s with
  | lookUp f args i => exact retained_push_deeper _ _ _
  | call f args i => exact retained_push_deeper _ _ _
  | _ => rfl

/-- A delivery that has ended goes back to what it has interrupted. -/
theorem retained_drained (reason : DrainReason) : (m.drained reason).retained = m.retained := by
  cases reason <;> rfl

/-- A call enters a script function, runs a built-in one, or looks for `__call`. -/
theorem retained_callValue (f : Value) (args : List Value) (origin : Origin) :
    (m.callValue f args origin).retained = m.retained := by
  unfold callValue
  -- a Lua function is entered, a native one acts, and anything else goes through its call handler
  split
  · split
    · unfold enter
      dsimp only
      split <;> rfl
    · exact retained_act _ _ _
  · split
    · exact retained_fail _ _ _
    · rfl

/-- A turn of the collector changes the store, and may begin to call a finalizer. -/
theorem retained_collect : m.collect.retained = m.retained := by
  have hwork : (m.work Heap.collected).2.retained = m.retained := rfl
  unfold collect
  split
  · rename_i m₁ h
    rw [h] at hwork
    exact hwork
  · rename_i handler id m₁ h
    rw [h] at hwork
    exact (retained_push_deeper _ _ _).trans hwork

/-- A finalizer that has ended gives its turn back to the collector. -/
theorem retained_finalized : m.finalized.retained = m.retained :=
  retained_collect (m := { m with heap := m.heap.occupy false })

/-- What an instruction brings about, is brought about for the frame that has executed it. -/
theorem retained_effect (e : Effect) (d : Nat) : (m.effect e d).retained = m.retained := by
  cases e with
  -- a step onwards is where the collector may run; it does not look at the engine's references
  | next f => exact retained_collect (m := { m with frames := .lua f d :: m.frames, depth := d })
  | call f callee args origin isMeta =>
    unfold effect
    dsimp only
    split
    · exact retained_deeper (m := { m with frames := .lua f d :: m.frames, depth := d })
        fun _ => rfl
    · rfl
  | tail f callee args origin =>
    unfold effect
    dsimp only
    split <;> rfl
  | _ => rfl

/-- A script frame executes an instruction, or the hook looks at the inbox first. -/
theorem retained_runFrame (polled : Bool) (f : LuaFrame) (d : Nat) :
    (m.runFrame polled f d).retained = m.retained := by
  unfold runFrame
  split
  · rfl
  · dsimp only
    split
    · rfl
    · generalize m.polls polled _ m.frames = count
      cases count <;> exact retained_effect (m := (work _ _).2) _ _

/-! ### Errors -/

/-- A message handler is called before anything is unwound. -/
theorem retained_handle (e : Value) : (m.handle e).retained = m.retained := by
  unfold handle
  -- no handler below, a protected call, or a message handler still to be asked
  split
  · split
    · rfl
    · rfl
    · exact retained_die _
  · exact retained_push_deeper _ _ _
  · split
    · rfl
    · split
      · rfl
      · exact retained_push_deeper _ _ _

/-- An error that ends a call of the host is exchanged for one that the host can hold. -/
theorem retained_unwindHost (e : Value) : (m.unwindHost e).retained = m.retained := by
  unfold unwindHost
  dsimp only
  split
  · rfl
  · exact retained_fail (m := (m.work _).2) _ _ _

/-- An error that ends a delivered call is reported, and the next call is delivered. -/
theorem retained_unwindDelivery (reason : DrainReason) (i : Invocation) (e : Value) :
    (m.unwindDelivery reason i e).retained = m.retained := by
  unfold unwindDelivery
  dsimp only
  split
  · exact retained_drain (m := (m.work _).2) _ _
  · exact retained_fail (m := (m.work _).2) _ _ _

/-- A frame that is left by an error is dropped, or has a last word. -/
theorem retained_unwindTop (e : Value) : (m.unwindTop e).retained = m.retained := by
  unfold unwindTop
  split
  · exact retained_die _
  · rename_i f d rest hframes
    split
    · rfl
    · rename_i c cs _
      exact retained_deeper (m := Machine.push
        { m with frames := .lua { f with closing := cs } d :: rest, depth := d } (.rethrow e))
        fun _ => rfl
  · rename_i c d rest hframes
    -- a frame that only passes the failure on leaves everything but the frames alone
    cases c with
    | native k =>
      cases k with
      | printLookup args => exact retained_unwindHost (m := { m with frames := rest, depth := d }) _
      | printing tostring done values =>
        exact retained_unwindHost (m := { m with frames := rest, depth := d }) _
      | _ => rfl
    | describingFailure => exact retained_unwindHost (m := { m with frames := rest, depth := d }) _
    | finalizing => exact retained_finalized (m := { m with frames := rest, depth := d })
    | drainLookup reason i =>
      exact retained_unwindDelivery (m := { m with frames := rest, depth := d }) _ _ _
    | drainCall reason i =>
      exact retained_unwindDelivery (m := { m with frames := rest, depth := d }) _ _ _
    | _ => rfl

/-! ### Steps, answers and calls of the host -/

/-- A frame that is given the values it waits for goes on with them. -/
theorem retained_giveTop (values : List Value) : (m.giveTop values).retained = m.retained := by
  obtain ⟨heap, threads, current, frames, depth, mode, interval, owner, ticket, robot⟩ := m
  unfold giveTop
  dsimp only
  split
  · exact retained_finish _
  · exact retained_effect _ _
  · rename_i c d rest
    -- what a continuation does with the values, it does to the machine alone
    cases c with
    | native k => exact retained_act _ _ _
    | describing =>
      dsimp only
      split
      · rfl
      · exact retained_fail _ _ _
    | describingFailure =>
      dsimp only
      split
      · rfl
      · rfl
    | finalizing => exact retained_finalized
    | drainLookup reason i => exact retained_drain _ _
    | drainCall reason i => exact retained_drain _ _
    | _ => rfl

/-- **A step leaves the robot as it is.** -/
theorem retained_step : m.step.retained = m.retained := by
  unfold step
  split
  · -- the fields are named so that the two branches compute
    obtain ⟨heap, threads, current, frames, depth, mode, interval, owner, ticket, robot⟩ := m
    unfold runTop
    dsimp only
    split
    · exact retained_runFrame _ _ _
    · rfl
  · exact retained_callValue _ _ _
  · exact retained_giveTop _
  · exact retained_handle _
  · exact retained_unwindTop _
  · rfl
  · rfl

/-- **An answer leaves the robot as it is.** -/
theorem retained_answer (a : Answer) : (m.answer a).retained = m.retained := by
  unfold answer
  split
  · dsimp only
    -- the answer fits the question in these ways; in any other the machine stays as it is
    split
    · rfl
    · exact retained_act _ _ _
    · rfl
    · rfl
    · exact retained_drain _ _
    · exact retained_drained _
    · rfl
  · rfl

/-- A call of the host begins with no frames below it. -/
theorem retained_start (f : Value) (args : List Value) :
    (m.start f args).retained = m.retained :=
  retained_deeper (m := Machine.push { m with current := 0, frames := [], depth := 0 } .entry)
    fun _ => rfl

end RobotSession.Lua.Machine
