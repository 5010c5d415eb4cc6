import RobotSession.Proofs.Lua.Nesting
import RobotSession.Proofs.Lua.Stray

/-!
# What becomes of a queued call

A call that a delivery has taken is looked up in the robot that is retained: a request to end means
the end routine that was resolved when the robot was constructed, any other call the field of its
name, as it is now. If that is a function, it is called with the robot as its only argument; if it
is nothing, the next call is looked for; if it is something else, that is reported.

Whatever a call comes to, the delivery goes on. What it returns is dropped. An error is reported,
and then the next call is looked for, over the same frames as if the call had returned; only a
panic goes on through the delivery. So an error that is raised when nothing else is left of a call
leads to the very machine to which its end would have led (`Machine.Falls`).

* `Machine.Treats` — what is done with what has been found for a call.
* `Machine.Dispatched` — how a delivery goes on with a call that it has taken.
* `Machine.step_drainCall`, `Machine.step_failing` — a call returns, or an error ends it.
* `Machine.Forsaken.isPanic` — only a panic leaves a delivery.
* `Machine.Falls` — an error is on its way out of a call.
-/

namespace RobotSession.Lua.Machine

open Library

variable {m m' : Machine} {reason : DrainReason} {i : Invocation} {v e : Value}
  {values : List Value} {d : Nat} {rest : List Frame}

/-! ### What a call resolves to -/

/-- **What is done with what has been found** for a call. -/
inductive Treats (m : Machine) (reason : DrainReason) (i : Invocation) : Value → Machine → Prop
  /-- A function is called with the robot as its only argument. -/
  | calls (id : Nat) : Treats m reason i (.func id)
      ((m.push (.drainCall reason i)).deeper (·.invoke (.func id) [m.retained.instance_]))
  | skips : Treats m reason i .nil { m with mode := .ask (.drainTake reason) }
  | refuses {v : Value} (hnil : v ≠ .nil) (hfunc : ∀ id, v ≠ .func id) : Treats m reason i v
      { m with mode := .ask (.drainReport reason i
        (Exchange.mismatch m.heap v "function" none).message) }

/-- **How a delivery goes on with a call** that it has taken. -/
inductive Dispatched (m : Machine) (reason : DrainReason) : Invocation → Machine → Prop
  /-- The end routine is the one that is retained. -/
  | finish {m' : Machine}
      (h : Treats m reason .finish (m.retained.endRoutine.getD .nil) m') :
      Dispatched m reason .finish m'
  /-- A method is what the field of its name holds now. -/
  | field {name : String} {id : Nat} {v : Value} {m' : Machine}
      (hinstance : m.retained.instance_ = .table id)
      (hread : Access.read m.heap (.table id) (.text name) = .value v)
      (h : Treats m reason (.method name) v m') : Dispatched m reason (.method name) m'
  /-- A function looks it up. -/
  | looksUp {name : String} {id : Nat} {f object : Value}
      (hinstance : m.retained.instance_ = .table id)
      (hread : Access.read m.heap (.table id) (.text name) = .handler f object) :
      Dispatched m reason (.method name)
        ((m.push (.drainLookup reason (.method name))).deeper (·.invoke f [object, .text name]))
  /-- There is no way to look it up. -/
  | unreadable {name : String} {id : Nat} {error : String}
      (hinstance : m.retained.instance_ = .table id)
      (hvalue : ∀ v, Access.read m.heap (.table id) (.text name) ≠ .value v)
      (hhandler : ∀ f o, Access.read m.heap (.table id) (.text name) ≠ .handler f o) :
      Dispatched m reason (.method name)
        { m with mode := .ask (.drainReport reason (.method name) error) }
  /-- A robot that is no table has no methods. -/
  | fieldless {name : String} (hinstance : ∀ id, m.retained.instance_ ≠ .table id) :
      Dispatched m reason (.method name) { m with mode := .ask (.drainTake reason) }

theorem treats_deliver (m : Machine) (reason : DrainReason) (i : Invocation) (v : Value) :
    Treats m reason i v (m.drain reason (Robot.deliver m.heap m.retained i v)) := by
  cases v with
  | nil => exact .skips
  | func id => exact .calls id
  | _ => exact .refuses nofun nofun

theorem dispatched_taken (m : Machine) (reason : DrainReason) (i : Invocation) :
    Dispatched m reason i (m.drain reason (Robot.taken m.heap m.retained i)) := by
  cases i with
  -- the end routine was retained as a value, so there is no lookup
  | finish => exact .finish (treats_deliver m reason .finish _)
  | method name =>
    unfold Robot.taken
    cases hinstance : m.retained.instance_ with
    | table id =>
      dsimp only
      cases hread : Access.read m.heap (.table id) (.text name) with
      -- a method is looked up by its name on the retained instance
      | value v => exact .field hinstance hread (treats_deliver m reason _ v)
      | handler f object => exact .looksUp hinstance hread
      | notIndexable o => exact .unreadable hinstance (by rw [hread]; nofun) (by rw [hread]; nofun)
      | tooLong => exact .unreadable hinstance (by rw [hread]; nofun) (by rw [hread]; nofun)
    -- what is not a table is not even asked for the field
    | _ => exact .fieldless (by rw [hinstance]; nofun)

/-- What an interpreter has done before does not matter to a delivery. -/
theorem drain_mode (m : Machine) (mode : Mode) (reason : DrainReason) (s : DrainStep) :
    Machine.drain { m with mode } reason s = m.drain reason s := by
  cases s with
  | take => rfl
  | lookUp f args i => rfl
  | call f args i => rfl
  | report i error => rfl

/-- **A call that is taken** is looked up and treated as what it resolves to. -/
theorem dispatched_answer (hmode : m.mode = .ask (.drainTake reason)) (i : Invocation) :
    Dispatched m reason i (m.answer (.invocation (some i))) := by
  rw [answer_drainTake_some hmode i, drain_mode]
  exact dispatched_taken m reason i

/-- **What a function has looked up** is treated as if the field held it. -/
theorem treats_step (hmode : m.mode = .give values)
    (hframes : m.frames = .cont (.drainLookup reason i) d :: rest) :
    Treats { m with frames := rest, depth := d } reason i (values.headD .nil) m.step := by
  rw [step_of_top hmode hframes, hmode]
  exact treats_deliver { m with mode := .give values, frames := rest, depth := d } reason i _

/-! ### How a call ends -/

/-- **A call that returns** is done with, and what it returns is dropped. -/
theorem step_drainCall (hmode : m.mode = .give values)
    (hframes : m.frames = .cont (.drainCall reason i) d :: rest) :
    m.step = { m with frames := rest, depth := d, mode := .ask (.drainTake reason) } := by
  rw [step_of_top hmode hframes]
  rfl

/-- **An error that reaches a delivery is reported**, unless it is a panic, and nothing else is
done. -/
theorem step_failing {c : Cont} (hmode : m.mode = .unwind e) (hframes : m.frames = .cont c d :: rest)
    (hc : c = .drainLookup reason i ∨ c = .drainCall reason i) (hpanic : ¬ IsPanic m.heap e) :
    ∃ error, m.step
      = { m with frames := rest, depth := d, mode := .ask (.drainReport reason i error) } := by
  obtain ⟨heap, threads, current, frames, depth, mode, interval, owner, ticket, robot⟩ := m
  change mode = _ at hmode
  change frames = _ at hframes
  subst hmode hframes
  rcases failure_cases e heap with ⟨f, hf⟩ | ⟨id, p, he, hobject, -⟩
  · refine ⟨f.message, ?_⟩
    -- the two frames of a delivery do the same with an error
    have hstep : step ⟨heap, threads, current, .cont c d :: rest, depth, .unwind e, interval, owner,
          ticket, robot⟩
        = unwindDelivery ⟨heap, threads, current, rest, d, .unwind e, interval, owner, ticket, robot⟩
          reason i e := by
      rcases hc with rfl | rfl
      · rfl
      · rfl
    rw [hstep]
    unfold unwindDelivery work
    dsimp only
    rw [hf]
    rfl
  · exact absurd ⟨id, p, he, hobject⟩ hpanic

/-- Only a panic leaves a delivery. -/
theorem Forsaken.isPanic (h : Forsaken reason m) : ∃ e, m.mode = .unwind e ∧ IsPanic m.heap e := by
  obtain ⟨e, c, d, rest, fault, hmode, -, -, hfault⟩ := h
  refine ⟨e, hmode, ?_⟩
  rcases failure_cases e m.heap with ⟨f, hf⟩ | ⟨id, p, he, hobject, -⟩
  · have hok : (m.work (Exchange.failure e)).1 = .ok f := congrArg Prod.fst hf
    rw [hok] at hfault
    cases hfault
  · exact ⟨id, p, he, hobject⟩

/-- **A failure that has been reported** is done with. -/
theorem answer_drainReport {error : String} (hmode : m.mode = .ask (.drainReport reason i error))
    (a : Answer) : m.answer a = { m with mode := .ask (.drainTake reason) } := by
  rw [answer_of_mode hmode]
  rfl

/-! ### An error instead of a result -/

/-- **An error that needs no function of the script** on its way to a delivery: a failure of the
host, or a value whose text the host finds by itself. -/
structure Plain (h : Heap) (e : Value) : Prop where
  panic : ¬ IsPanic h e
  text : isHostObject h e = true ∨ ∃ s, Basics.describe h e = .ok s

end RobotSession.Lua.Machine

namespace RobotSession.Lua

/-- Whether an error leaves a frame without further ado: it does not end there, and there is no
variable to close. -/
def Frame.isPassed : Frame → Bool
  | .lua f _ => f.closing.isEmpty
  | .cont c _ => !c.isBoundary

namespace Machine

open Library

/-- The call is at its end: it returns. The machine `below` is the one whose delivery has made the
call. -/
def returning (below : Machine) (reason : DrainReason) (i : Invocation) (values : List Value)
    (d : Nat) : Machine :=
  { below with frames := .cont (.drainCall reason i) below.depth :: below.frames, depth := d,
               mode := .give values }

/-- The call is at its end, and there is an error instead. The frames `above` are what is left of
the call. -/
def failing (below : Machine) (reason : DrainReason) (i : Invocation) (above : List Frame)
    (d : Nat) (mode : Mode) : Machine :=
  { below with frames := above ++ .cont (.drainCall reason i) below.depth :: below.frames,
               depth := d, mode }

/-- **An error is on its way out of a call** of which nothing else is left to do. -/
inductive Falls (below : Machine) (reason : DrainReason) (i : Invocation) : Machine → Prop
  | raised {e : Value} {above : List Frame} {d : Nat} (habove : above.all Frame.isPassed = true)
      (he : Plain below.heap e) : Falls below reason i (below.failing reason i above d (.raise e))
  | unwound {e : Value} {above : List Frame} {d : Nat} (habove : above.all Frame.isPassed = true)
      (he : ¬ IsPanic below.heap e) : Falls below reason i (below.failing reason i above d (.unwind e))
  | reported (error : String) :
      Falls below reason i { below with mode := .ask (.drainReport reason i error) }

variable {below m : Machine} {reason : DrainReason} {i : Invocation} {above : List Frame} {e : Value}
  {d : Nat}

/-- The delivery is what ends the error. -/
theorem boundary_append (habove : above.all Frame.isPassed = true) (rest : List Frame) :
    boundary (above ++ .cont (.drainCall reason i) d :: rest) = some (.drainCall reason i) := by
  induction above with
  | nil => rfl
  -- what stands above the delivery lets errors pass, so the search goes on below it
  | cons frame above ih =>
    rw [List.all_cons, Bool.and_eq_true] at habove
    obtain ⟨hframe, habove⟩ := habove
    rw [List.cons_append]
    unfold boundary
    cases frame with
    | lua f d => exact ih habove
    | cont c d =>
      have hc : c.isBoundary = false := (Bool.not_eq_true' _).mp hframe
      dsimp only
      rw [hc]
      exact ih habove

section Falls

variable (reason i d)

/-- An error that has been raised has its text found, and is unwound. -/
theorem step_raised (habove : above.all Frame.isPassed = true) (he : Plain below.heap e) :
    ∃ e', ¬ IsPanic below.heap e' ∧ (below.failing reason i above d (.raise e)).step
      = below.failing reason i above d (.unwind e') := by
  -- the frames above are passed over, down to the delivery
  have hboundary : boundary (below.failing reason i above d (.raise e)).frames
      = some (.drainCall reason i) := boundary_append habove _
  change ∃ e', _ ∧ (below.failing reason i above d (.raise e)).handle e = _
  unfold handle
  rw [hboundary]
  dsimp only
  split
  · exact ⟨e, he.panic, rfl⟩
  · rename_i hhost
    -- what is no object of the host has a text of its own
    obtain ⟨s, hs⟩ : ∃ s, Basics.describe
        (below.failing reason i above d (.raise e)).heap e = .ok s := by
      refine he.text.resolve_left fun hobject => hhost ?_
      rw [Bool.or_eq_true]
      exact .inr hobject
    rw [hs]
    refine ⟨.str (s ++ Text.octets ("\n" ++ trace)), ?_, rfl⟩
    rintro ⟨id, p, htext, -⟩
    cases htext

/-- An error that is unwound leaves the innermost frame, or is reported. -/
theorem step_unwound (habove : above.all Frame.isPassed = true) (he : ¬ IsPanic below.heap e) :
    (∃ error, (below.failing reason i above d (.unwind e)).step
        = { below with mode := .ask (.drainReport reason i error) })
      ∨ ∃ frame above' d', above = frame :: above'
        ∧ (below.failing reason i above d (.unwind e)).step
          = below.failing reason i above' d' (.unwind e) := by
  cases above with
  | nil => exact .inl (step_failing rfl rfl (.inr rfl) he)
  | cons frame above =>
    rw [List.all_cons, Bool.and_eq_true] at habove
    obtain ⟨hframe, -⟩ := habove
    refine .inr ?_
    cases frame with
    | lua f df =>
      refine ⟨_, above, d, rfl, ?_⟩
      change (below.failing reason i (.lua f df :: above) d (.unwind e)).unwindTop e = _
      unfold unwindTop
      -- a frame that is passed over has nothing to close
      have hclosing : f.closing = [] := List.isEmpty_iff.mp hframe
      dsimp only [failing, List.cons_append]
      rw [hclosing]
    | cont c dc =>
      refine ⟨_, above, dc, rfl, ?_⟩
      -- nor is it one that would stop the unwinding
      have hc : c.isBoundary = false := (Bool.not_eq_true' _).mp hframe
      cases c with
      | native k =>
        cases k with
        | pcall => cases hc
        | xpcall handler => cases hc
        | printLookup args => cases hc
        | printing tostring done rest => cases hc
        | _ => rfl
      | entry => cases hc
      | describingFailure => cases hc
      | finalizing => cases hc
      | drainLookup r i => cases hc
      | drainCall r i => cases hc
      | _ => rfl

/-- It does not fall forever. -/
theorem exists_reported (habove : above.all Frame.isPassed = true) (he : ¬ IsPanic below.heap e) :
    ∃ n error, (below.failing reason i above d (.unwind e)).advance n
      = { below with mode := .ask (.drainReport reason i error) } := by
  -- a step for each frame that is left of the call
  induction above generalizing d with
  | nil =>
    rcases step_unwound reason i d habove he with
      ⟨error, hstep⟩ | ⟨frame, above', d', hnil, -⟩
    · exact ⟨1, error, hstep⟩
    · cases hnil
  | cons frame above ih =>
    rcases step_unwound reason i d habove he with
      ⟨error, hstep⟩ | ⟨frame, above', d', hcons, hstep⟩
    · exact ⟨1, error, hstep⟩
    · obtain ⟨-, rfl⟩ := List.cons.inj hcons
      rw [List.all_cons, Bool.and_eq_true] at habove
      obtain ⟨n, error, hn⟩ := ih d' habove.2
      refine ⟨n + 1, error, ?_⟩
      rw [← hn, ← hstep]
      rfl

end Falls

/-- An error goes on falling, until it is reported. -/
theorem Falls.step (h : Falls below reason i m) (hgo : m.isWaiting = false) :
    Falls below reason i m.step := by
  -- the error falls frame by frame until it meets the delivery, where it is reported
  cases h with
  | raised habove he =>
    obtain ⟨e', he', hstep⟩ := step_raised reason i _ habove he
    rw [hstep]
    exact .unwound habove he'
  | @unwound e above d habove he =>
    rcases step_unwound reason i d habove he with
      ⟨error, hstep⟩ | ⟨frame, above', d', rfl, hstep⟩
    · rw [hstep]
      exact .reported error
    · rw [hstep]
      rw [List.all_cons, Bool.and_eq_true] at habove
      exact .unwound habove.2 he
  | reported error => cases hgo

/-- **Every error that falls is reported** after some steps. -/
theorem Falls.reports (h : Falls below reason i m) :
    ∃ n error, m.advance n = { below with mode := .ask (.drainReport reason i error) } := by
  cases h with
  | @raised e above d habove he =>
    obtain ⟨e', he', hstep⟩ := step_raised reason i d habove he
    obtain ⟨n, error, hn⟩ := exists_reported reason i d habove he'
    refine ⟨n + 1, error, ?_⟩
    rw [← hn, ← hstep]
    rfl
  | unwound habove he => exact exists_reported reason i _ habove he
  | reported error => exact ⟨0, error, rfl⟩

end Machine
end RobotSession.Lua
