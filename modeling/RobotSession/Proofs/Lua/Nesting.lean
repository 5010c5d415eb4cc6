import RobotSession.Proofs.Lua.Deliveries

/-!
# How deliveries nest

A delivery of queued calls runs script code, and that code may sleep, or be interrupted, and so
begin another delivery. The deliveries that are under way are nested: the one that began last ends
first, on whatever threads they are, and no error or change of thread breaks their order.

The *nesting* of an interpreter is read off its outline: first the delivery that waits for the
host, then the marks on the stack of the thread that runs, then those on the stacks of the threads
that wait for it, one after the other. Only three things change it: a flag that is found set begins
a delivery, an empty inbox ends the innermost one, and a panic leaves the innermost one.

* `Outline.Piled` — the deliveries of the threads that wait, innermost first.
* `Machine.Nests` — the deliveries that are under way, innermost first.
* `Machine.Shift.nests`, `Machine.Forsaken.nests` — how steps change them.
* `Machine.Nests.opens`, `Machine.Nests.takes`, `Machine.Nests.ends`, `Machine.Nests.passes` — how
  answers do.
-/

namespace RobotSession.Lua

/-! ### Deliveries on a stack -/

/-- The delivery that a mark belongs to. -/
def Mark.reason? : Mark → Option DrainReason
  | .host => none
  | .delivery reason => some reason

/-- The deliveries on a stack, innermost first. -/
def deliveries (s : List Mark) : List DrainReason :=
  s.filterMap Mark.reason?

namespace Outline

variable {o o' : Outline} {a id : Nat} {l : List DrainReason} {kept : List Mark}
  {status : ThreadStatus}

/-! ### Deliveries of the threads that wait -/

/-- **The deliveries of the threads that wait** for a thread, from the one that has resumed it up
to the main thread. -/
inductive Piled (o : Outline) : Nat → List DrainReason → Prop
  | main {a : Nat} (h : (o.strand a).resumer = none) : Piled o a []
  | link {a b : Nat} {l : List DrainReason} (h : o.Resumed a b) (hl : Piled o b l) :
      Piled o a (deliveries (o.strand b).marks ++ l)

/-- The pile stays as it is while no thread of the chain is touched. -/
theorem Piled.congr (h : o.Piled a l) (hstart : (o'.strand a).resumer = (o.strand a).resumer)
    (hkept : ∀ c, Relation.TransGen o.Resumed a c →
      (o'.strand c).resumer = (o.strand c).resumer ∧ (o'.strand c).marks = (o.strand c).marks) :
    o'.Piled a l := by
  induction h with
  | main h => exact .main (hstart.trans h)
  | @link a b l h hl ih =>
    obtain ⟨hresumer, hmarks⟩ := hkept b (.single h)
    rw [← hmarks]
    exact .link (hstart.trans h) (ih hresumer fun c hc => hkept c (.head h hc))

/-- **The deliveries that have a mark**: those of the thread that runs, then those of the threads
that wait for it. -/
def Nests (o : Outline) (l : List DrainReason) : Prop :=
  ∃ below, o.Piled o.current below ∧ l = deliveries o.marks ++ below

namespace Nests

/-- The nesting stays as it is while no thread of the chain is touched. -/
theorem congr (h : o.Nests l) (ho : Sound o) (hcurrent : o'.current = o.current)
    (hmarks : o'.marks = o.marks)
    (hstart : (o'.strand o.current).resumer = (o.strand o.current).resumer)
    (hkept : ∀ c, (o.strand c).status = .normal →
      (o'.strand c).resumer = (o.strand c).resumer ∧ (o'.strand c).marks = (o.strand c).marks) :
    o'.Nests l := by
  obtain ⟨below, hpiled, rfl⟩ := h
  refine ⟨below, ?_, by rw [hmarks]⟩
  rw [hcurrent]
  exact hpiled.congr hstart fun c hc => hkept c (ho.normal_of_transGen hc)

theorem setHook (h : o.Nests l) (ho : Sound o) (hook : Option Nat) : (o.setHook hook).Nests l := by
  have hresumer : ∀ a, ((o.setHook hook).strand a).resumer = (o.strand a).resumer :=
    fun a => field_modify Strand.resumer _ _ _ _ _ fun _ => rfl
  exact h.congr ho rfl rfl (hresumer _) fun c _ => ⟨hresumer c, marks_setHook hook c⟩

theorem counted (h : o.Nests l) (ho : Sound o) (c : Machine.Count) : (o.counted c).Nests l := by
  cases c with
  | countDown left => exact h.setHook ho _
  | remove => exact h.setHook ho _
  | go => exact h
  | poll => exact h

theorem create (h : o.Nests l) (ho : Sound o) (isHooked : Bool) : (o.create isHooked).Nests l := by
  refine h.congr ho rfl rfl ?_ fun c hc => ⟨?_, marks_create isHooked c⟩
  · rw [strand_create_of_lt isHooked ho.current_lt]
  · rw [strand_create_of_lt isHooked (lt_of_status (by rw [hc]; exact nofun))]

theorem close (h : o.Nests l) (ho : Sound o) (hid : id ≠ o.current)
    (hstatus : (o.strand id).status = .suspended ∨ (o.strand id).status = .dead) :
    (o.close id).Nests l := by
  refine h.congr ho rfl rfl ?_ fun c hc => ?_
  · rw [strand_close_of_ne hid.symm]
  · rw [strand_close_of_ne (Sound.ne_of_normal_of_idle hstatus hc)]
    exact ⟨rfl, rfl⟩

/-- The thread that resumes another one waits for it with its own deliveries; the other one has
none, since it did not wait for anybody. -/
theorem switchTo (h : o.Nests l) (ho : Sound o) (hg : o.Gathered) (hid : id ≠ o.current)
    (hlt : id < o.strands.size)
    (hstatus : (o.strand id).status = .suspended ∨ (o.strand id).status = .dead)
    (hkept : kept = (o.strand id).marks ∨ kept = []) : (o.switchTo id kept).Nests l := by
  obtain ⟨below, hpiled, rfl⟩ := h
  obtain ⟨hlink, -⟩ := ho.chain_switchTo kept hid hlt hstatus
  -- a thread with a delivery on its stack is in the chain, and so it is not idle
  have hnone : kept = [] := by
    refine hkept.elim (fun heq => heq.trans ?_) fun hnil => hnil
    refine Classical.byContradiction fun hmarks => ?_
    exact Sound.ne_of_normal_of_idle hstatus (ho.normal_of_transGen (hg id hmarks)) rfl
  have hcurrent := strand_switchTo_current kept ho.current_lt hid
  refine ⟨deliveries o.marks ++ below, ?_, by rw [hnone]; rfl⟩
  -- the chain below is untouched
  have hrest : (o.switchTo id kept).Piled o.current below := by
    refine hpiled.congr (by rw [hcurrent]) fun c hc => ?_
    have hnormal := ho.normal_of_transGen hc
    rw [strand_switchTo_of_ne (Sound.ne_of_normal_of_idle hstatus hnormal)
      (ho.ne_current_of_normal hnormal)]
    exact ⟨rfl, rfl⟩
  have hall := Piled.link hlink hrest
  rw [hcurrent] at hall
  exact hall

/-- The thread that is left has no deliveries, and the one that goes on has its own again. -/
theorem switchBack (h : o.Nests l) (ho : Sound o) (status : ThreadStatus) (hcurrent : o.current ≠ 0)
    (hmarks : o.marks = []) : (o.switchBack status).Nests l := by
  obtain ⟨below, hpiled, rfl⟩ := h
  have hres := ho.resumer_eq hcurrent
  have hnormal := ho.normal hres
  have hne := ho.ne_current_of_normal hnormal
  have hlt : o.resumer < o.strands.size := lt_of_status (by rw [hnormal]; exact nofun)
  cases hpiled with
  | main h => exact nomatch h.symm.trans hres
  | @link _ b below h hl =>
    obtain rfl : b = o.resumer := Option.some.inj (h.symm.trans hres)
    refine ⟨below, hl.congr ?_ fun c hc => ?_, by rw [hmarks]; rfl⟩
    · rw [strand_switchBack_resumer status hlt hne]
    · -- a thread above the one that goes on is another one
      have hcr : c ≠ o.resumer := fun heq => ho.not_transGen_resumer hcurrent (heq ▸ hc)
      rw [strand_switchBack_of_ne hcr (ho.ne_current_of_normal (ho.normal_of_transGen hc))]
      exact ⟨rfl, rfl⟩

/-- While the main thread runs, all deliveries are on its stack. -/
theorem eq_deliveries (h : o.Nests l) (ho : Sound o) (hcurrent : o.current = 0) :
    l = deliveries o.marks := by
  obtain ⟨below, hpiled, rfl⟩ := h
  rw [hcurrent] at hpiled
  cases hpiled with
  | main h => exact List.append_nil _
  | link h hl => exact nomatch ho.main_resumer.symm.trans h

/-- Nothing nests on a main thread without deliveries. -/
theorem main (ho : Sound o) (hcurrent : o.current = 0) (hmarks : deliveries o.marks = []) :
    o.Nests [] := by
  refine ⟨[], .main ?_, by rw [hmarks]; rfl⟩
  rw [hcurrent]
  exact ho.main_resumer

end Nests
end Outline

/-! ### Interpreters -/

/-- The delivery that waits for the host's answer. -/
def Mode.drain? : Mode → Option DrainReason
  | .ask w => w.drain?
  | _ => none

/-- The delivery that begins if the flag is found set. -/
def Waiting.opens? : Waiting → Option DrainReason
  | .hookPoll ticket => some (.hook ticket)
  | .native (.sleepCheck _) => some .sleep
  | _ => none

def Mode.opens? : Mode → Option DrainReason
  | .ask w => w.opens?
  | _ => none

/-- Only a reading of the flag begins a delivery. -/
theorem Waiting.question_of_opens {w : Waiting} (h : w.opens?.isSome = true) :
    w.question = .pending := by
  cases w with
  | native r =>
    cases r with
    | sleepCheck deadline => rfl
    | _ => cases h
  | hookPoll ticket => rfl
  | drainTake reason => cases h
  | drainReport reason i error => cases h

namespace Machine

variable {m m' : Machine} {o : Outline} {l : List DrainReason} {reason : DrainReason} {w : Waiting}
  {a : Answer}

/-- **The deliveries that are under way**, innermost first: the one that waits for the host, and
those that have a mark. -/
def Nests (m : Machine) (l : List DrainReason) : Prop :=
  ∃ marked, m.outline.Nests marked ∧ l = m.mode.drain?.toList ++ marked

theorem nests_of_drain_none (h : m.outline.Nests l) (hmode : m.mode.drain? = none) : m.Nests l := by
  refine ⟨l, h, ?_⟩
  rw [hmode]
  rfl

theorem Calm.nests (h : Calm o m) (hn : o.Nests l) : m.Nests l := by
  refine nests_of_drain_none (h.outline ▸ hn) ?_
  have hcalm := h.mode
  cases hmode : m.mode with
  | ask w =>
    rw [hmode] at hcalm
    cases hcalm
  | _ => rfl

theorem Drains.nests (h : Drains reason o m) (hn : o.Nests l) : m.Nests (reason :: l) := by
  cases h with
  | waits w hw houtline hmode =>
    refine ⟨l, houtline ▸ hn, ?_⟩
    rw [hmode]
    change _ = w.drain?.toList ++ l
    rw [hw]
    rfl
  | calls houtline hmode =>
    -- the mark of the call takes the place of the delivery that waited
    refine Calm.nests ⟨houtline, hmode⟩ ?_
    obtain ⟨below, hpiled, rfl⟩ := hn
    exact ⟨below, hpiled.congr rfl fun _ _ => ⟨rfl, rfl⟩, rfl⟩

/-- No act of a script changes the nesting. -/
theorem Acts.nests (h : Acts o m) (ho : o.Sound) (hg : o.Gathered) (hn : o.Nests l) :
    m.Nests l := by
  -- no action begins or ends a delivery, and switching threads only moves the piles
  cases h with
  | calm h => exact h.nests hn
  | asks r houtline hmode =>
    refine nests_of_drain_none (houtline ▸ hn) ?_
    rw [hmode]
    rfl
  | ends hcurrent hmarks houtline hended =>
    obtain ⟨result, hmode⟩ := hended
    refine nests_of_drain_none (houtline ▸ hn) ?_
    rw [hmode]
    rfl
  | switches id kept hid hlt hstatus hkept h =>
    exact h.nests (hn.switchTo ho hg hid hlt hstatus hkept)
  | leaves status hstatus hcurrent hmarks h => exact h.nests (hn.switchBack ho status hcurrent hmarks)
  | creates isHooked h => exact h.nests (hn.create ho isHooked)
  | closes id hid hstatus h => exact h.nests (hn.close ho hid hstatus)

/-- What is left of the nesting when the innermost mark has been taken away. -/
theorem nests_tail {x : Mark} {rest : List Mark} (hn : o.Nests l) (hmarks : o.marks = x :: rest) :
    ∃ l', l = x.reason?.toList ++ l' ∧ Outline.Nests { o with marks := rest } l' := by
  obtain ⟨below, hpiled, rfl⟩ := hn
  refine ⟨deliveries rest ++ below, ?_, below, hpiled.congr rfl fun _ _ => ⟨rfl, rfl⟩, rfl⟩
  rw [hmarks, ← List.append_assoc]
  refine congrArg (· ++ below) ?_
  cases x with
  | host => rfl
  | delivery reason => rfl

/-- **A panic leaves the innermost delivery.** -/
theorem Forsaken.nests (h : Forsaken reason m) (hn : m.Nests l) :
    ∃ l', l = reason :: l' ∧ m.step.Nests l' := by
  obtain ⟨e, c, d, rest, fault, hmode, hframes, hc, hfault⟩ := h
  obtain ⟨marked, hmarked, rfl⟩ := hn
  have hmarks : m.outline.marks = .delivery reason :: marks rest := by
    change marks m.frames = _
    rw [hframes, marks_drain hc]
  obtain ⟨l', rfl, hrest⟩ := nests_tail hmarked hmarks
  refine ⟨l', by rw [hmode]; rfl, ?_⟩
  -- the panic goes on from the frames below the delivery
  have hstep : ∃ i, m.step
      = ({ m with frames := rest, depth := d } : Machine).unwindDelivery reason i e := by
    unfold step
    rw [hmode]
    dsimp only
    unfold unwindTop
    rw [hframes]
    cases c with
    | drainLookup r i =>
      obtain rfl := Option.some.inj hc
      exact ⟨i, rfl⟩
    | drainCall r i =>
      obtain rfl := Option.some.inj hc
      exact ⟨i, rfl⟩
    | _ => cases hc
  obtain ⟨i, hstep⟩ := hstep
  rw [hstep]
  unfold unwindDelivery
  have hwork : (({ m with frames := rest, depth := d } : Machine).work
      (Library.Exchange.failure e)).1 = .error fault := hfault
  dsimp only
  rw [hwork]
  dsimp only
  refine Calm.nests (o := { m.outline with marks := marks rest }) ?_ hrest
  have hcalm := calm_fail (m := (({ m with frames := rest, depth := d } : Machine).work
    (Library.Exchange.failure e)).2) fault none .unknown
  rw [outline_work] at hcalm
  exact hcalm

/-- **No other step changes the nesting.** -/
theorem Shift.nests (h : Shift m m') (hgo : m.isWaiting = false) (ho : m.outline.Sound)
    (hg : m.outline.Gathered) (hn : m.Nests l) (hkeeps : ∀ reason, ¬ Forsaken reason m) :
    m'.Nests l := by
  obtain ⟨marked, hmarked, rfl⟩ := hn
  -- a machine that runs is not asking for the next call
  have hdrain : m.mode.drain? = none := by
    cases hmode : m.mode with
    | ask w =>
      unfold isWaiting at hgo
      rw [hmode] at hgo
      cases hgo
    | _ => rfl
  rw [hdrain]
  change m'.Nests marked
  cases h with
  | acts h => exact h.nests ho hg hmarked
  | runs i count polled hruns h => exact h.nests (hmarked.counted ho count)
  | polls polled f d rest i hmode hframes hi hcount houtline hasks =>
    refine nests_of_drain_none (houtline ▸ hmarked.setHook ho _) ?_
    rw [hasks]
    rfl
  -- a delivery has come to its end, and the machine goes on to drain for the same reason
  | delivers reason rest hmarks h =>
    obtain ⟨l', rfl, hrest⟩ := nests_tail hmarked hmarks
    exact h.nests hrest
  | forsakes reason rest hforsaken hmarks h => exact absurd hforsaken (hkeeps reason)
  | returns rest hmarks houtline hended =>
    obtain ⟨result, hmode⟩ := hended
    obtain ⟨l', rfl, hrest⟩ := nests_tail hmarked hmarks
    refine nests_of_drain_none (houtline ▸ hrest) ?_
    rw [hmode]
    rfl

/-- **When a call of the host has ended, nothing nests.** -/
theorem Nests.eq_nil_of_ended (hn : m.Nests l) (hm : Sound m) {result : Except Value (List Value)}
    (hmode : m.mode = .ended result) : l = [] := by
  obtain ⟨marked, hmarked, rfl⟩ := hn
  obtain ⟨hcurrent, hmarks⟩ := hm.ended hmode
  rw [hmarked.eq_deliveries hm.outline hcurrent, hmarks, hmode]
  rfl

/-! ### Answers -/

namespace Nests

/-- The delivery that waits for the host is the innermost one. -/
theorem eq_cons (hn : m.Nests l) (hmode : m.mode = .ask w) (hw : w.drain? = some reason) :
    ∃ l', l = reason :: l' ∧ m.outline.Nests l' := by
  obtain ⟨marked, hmarked, rfl⟩ := hn
  refine ⟨marked, ?_, hmarked⟩
  rw [hmode]
  change w.drain?.toList ++ marked = _
  rw [hw]
  rfl

/-- Without a delivery that waits, the nesting is what has a mark. -/
theorem outline (hn : m.Nests l) (hmode : m.mode.drain? = none) : m.outline.Nests l := by
  obtain ⟨marked, hmarked, rfl⟩ := hn
  rw [hmode]
  exact hmarked

/-- **A flag that is found set begins a delivery.** -/
theorem opens (hn : m.Nests l) (hmode : m.mode = .ask w) (hw : w.opens? = some reason) :
    (m.answer (.flag true)).Nests (reason :: l) := by
  have houtline : m.outline.Nests l := by
    refine hn.outline ?_
    rw [hmode]
    cases w with
    | native r => rfl
    | hookPoll ticket => rfl
    | drainTake reason => cases hw
    | drainReport reason i error => cases hw
  -- two questions open a round, a sleep's and the hook's
  cases w with
  | native r =>
    cases r with
    | sleepCheck deadline =>
      obtain rfl := Option.some.inj hw
      exact (drains_answer_sleepCheck hmode).nests houtline
    | _ => cases hw
  | hookPoll ticket =>
    obtain rfl := Option.some.inj hw
    exact (drains_answer_hookPoll hmode).nests houtline
  | drainTake reason => cases hw
  | drainReport reason i error => cases hw

/-- **A call that is taken** belongs to the innermost delivery, which goes on. -/
theorem takes (hn : m.Nests l) (hmode : m.mode = .ask (.drainTake reason)) (i : Invocation) :
    (m.answer (.invocation (some i))).Nests l := by
  obtain ⟨l', rfl, houtline⟩ := hn.eq_cons hmode rfl
  exact (drains_answer_drainTake hmode).nests houtline

/-- **An empty inbox ends the innermost delivery.** -/
theorem ends (hn : m.Nests l) (hmode : m.mode = .ask (.drainTake reason)) :
    ∃ l', l = reason :: l' ∧ (m.answer (.invocation none)).Nests l' := by
  obtain ⟨l', rfl, houtline⟩ := hn.eq_cons hmode rfl
  refine ⟨l', rfl, ?_⟩
  have hnone : ∀ i, Answer.invocation none ≠ .invocation (some i) := fun i hi => nomatch hi
  rw [answer_drainTake hmode hnone]
  -- whether the delivery was the hook's or the sleep's, what it leaves behind is no delivery
  refine nests_of_drain_none ?_ ?_
  · cases reason with
    | hook ticket => exact houtline
    | sleep => exact houtline
  · cases reason with
    | hook ticket => rfl
    | sleep => rfl

/-- **No other answer changes the nesting.** -/
theorem passes (hn : m.Nests l) (hmode : m.mode = .ask w) (ho : m.outline.Sound)
    (hg : m.outline.Gathered) (htake : w.question ≠ .take)
    (hflag : w.opens?.isSome = true → a ≠ .flag true) : (m.answer a).Nests l := by
  -- no question but `take` begins or ends a delivery; a raised flag would, and is excluded
  cases w with
  | native r =>
    have hkeeps : ∀ deadline, r = .sleepCheck deadline → a ≠ .flag true := by
      rintro deadline rfl
      exact hflag rfl
    exact (acts_answer hmode hkeeps).nests ho hg (hn.outline (by rw [hmode]; rfl))
  | hookPoll ticket =>
    rw [answer_hookPoll hmode (hflag rfl)]
    exact nests_of_drain_none (hn.outline (by rw [hmode]; rfl)) rfl
  | drainTake reason => exact absurd rfl htake
  | drainReport reason i error =>
    obtain ⟨l', rfl, houtline⟩ := hn.eq_cons hmode rfl
    exact (drains_answer_drainReport hmode).nests houtline

end Nests

end Machine
end RobotSession.Lua
