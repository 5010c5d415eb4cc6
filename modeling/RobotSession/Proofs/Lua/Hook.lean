import RobotSession.Proofs.Lua.Threads

/-!
# What the hook looks after

Every thread counts its own instructions, but the hook has one owner: the thread for which
it was set last. When the count of another thread runs down, that thread is not looked
after any more, and no step ever gives the hook back to it.

The owner is looked after. What is left on its count and what it has executed since a call
was queued add up to at most one more than the interval (`Machine.Timely`), unless a hook
is at work already; and when the count has run down, the hook runs. But it does not run in a
finalizer: a turn that falls there is lost (`Machine.Misses`), and the count starts again.

* `Outline.Follows` — what a step may do to the hook of an outline.
* `Machine.Hooked` — the owner of the hook has a count.
* `Machine.Timely` — the bound on what the owner has executed.
* `Machine.Timely.step`, `Machine.Timely.answer` — the bound is kept.
* `Machine.Lapsed` — a thread that is not looked after any more.
-/

namespace RobotSession.Lua

namespace Outline

variable {o o' : Outline} {a id : Nat} {reason : DrainReason}

/-! ### The count of the owner -/

/-- What is left on the count of the thread that owns the hook. -/
def left (o : Outline) : Option Nat :=
  (o.strand o.owner).hook

/-- **The hook of an outline that follows another one**: it has the same owner with the same
count, or it belongs to a thread that is new, whose count starts. -/
structure Follows (o o' : Outline) : Prop where
  interval : o'.interval = o.interval
  size : o.strands.size ≤ o'.strands.size
  owner : (o'.owner = o.owner ∧ o'.left = o.left)
    ∨ (o'.owner = o.strands.size ∧ o.strands.size < o'.strands.size ∧ o'.left = o.interval)

namespace Follows

/-- Where nothing has changed, nothing has been lost. -/
theorem refl (o : Outline) : Follows o o := ⟨rfl, Nat.le_refl _, .inl ⟨rfl, rfl⟩⟩

/-- Marks and the thread that runs do not matter. -/
theorem of_strands_eq (hstrands : o'.strands = o.strands) (howner : o'.owner = o.owner)
    (hinterval : o'.interval = o.interval) : Follows o o' := by
  refine ⟨hinterval, Nat.le_of_eq (congrArg Array.size hstrands.symm), .inl ⟨howner, ?_⟩⟩
  unfold left strand
  rw [hstrands, howner]

/-- To resume a thread leaves the hook with its owner. -/
theorem switchTo (o : Outline) (id : Nat) (kept : List Mark) : Follows o (o.switchTo id kept) := by
  refine ⟨rfl, Nat.le_of_eq (size_switchTo id kept).symm, .inl ⟨rfl, ?_⟩⟩
  refine (field_modify Strand.hook _ _ _ _ _ ?_).trans (field_modify Strand.hook _ _ _ _ _ ?_)
  · exact fun _ => rfl
  · exact fun _ => rfl

/-- So it does to switch back. -/
theorem switchBack (o : Outline) (status : ThreadStatus) : Follows o (o.switchBack status) := by
  refine ⟨rfl, Nat.le_of_eq (size_switchBack status).symm, .inl ⟨rfl, ?_⟩⟩
  refine (field_modify Strand.hook _ _ _ _ _ ?_).trans (field_modify Strand.hook _ _ _ _ _ ?_)
  · exact fun _ => rfl
  · exact fun _ => rfl

/-- So it does to close a thread, even the owner. -/
theorem close (o : Outline) (id : Nat) : Follows o (o.close id) := by
  refine ⟨rfl, Nat.le_of_eq (size_close id).symm, .inl ⟨rfl, ?_⟩⟩
  refine field_modify Strand.hook _ _ _ _ _ ?_
  exact fun _ => rfl

/-- A new thread may take the hook over, with the whole interval left. -/
theorem create (howner : o.owner < o.strands.size) (isHooked : Bool) :
    Follows o (o.create isHooked) := by
  refine ⟨rfl, ?_, ?_⟩
  · rw [size_create]
    exact Nat.le_succ _
  · -- a thread that is hooked takes the hook away from its owner
    cases isHooked with
    | true =>
      refine .inr ⟨rfl, ?_, ?_⟩
      · rw [size_create]
        exact Nat.lt_succ_self _
      · change ((o.create true).strand o.strands.size).hook = _
        rw [strand_create_self]
        rfl
    | false =>
      refine .inl ⟨rfl, ?_⟩
      change ((o.create false).strand o.owner).hook = _
      rw [strand_create_of_lt false howner]
      rfl

end Follows

/-- What is left to the owner changes only if it is the owner that is given a hook. -/
theorem left_setHook (hook : Option Nat) (howner : o.owner < o.strands.size) :
    (o.setHook hook).left = if o.owner = o.current then hook else o.left := by
  have hstrand := strand_setHook (o := o) hook howner
  unfold left
  change ((o.setHook hook).strand o.owner).hook = _
  rw [hstrand]
  split
  · rfl
  · rfl

/-! ### Hooks at work -/

/-- A hook delivers calls on the stack of the thread that runs, or of one that waits for it. -/
def IsHooking (o : Outline) : Prop :=
  ∃ ticket, o.Engaged (.hook ticket)

/-- A mark that is taken away was not a hook's. -/
theorem IsHooking.of_marks {x : Mark} {rest : List Mark} (h : o.IsHooking)
    (hmarks : o.marks = x :: rest) (hx : ∀ ticket, x ≠ .delivery (.hook ticket)) :
    IsHooking { o with marks := rest } := by
  obtain ⟨ticket, hmark | hchain⟩ := h
  · rw [hmarks] at hmark
    rcases List.mem_cons.mp hmark with heq | hrest
    · exact absurd heq.symm (hx ticket)
    · exact ⟨ticket, .inl hrest⟩
  · exact ⟨ticket, .inr hchain⟩

/-- To count instructions does not take the hook away. -/
theorem IsHooking.counted (h : o.IsHooking) (ho : o.Sound) (count : Machine.Count) :
    (o.counted count).IsHooking := by
  obtain ⟨ticket, he⟩ := h
  exact ⟨ticket, ho.engaged_counted count he⟩

end Outline

namespace Machine

open Outline

variable {m m' : Machine} {o o' : Outline} {n : Nat} {age : Nat → Nat} {reason : DrainReason}

/-- **A hook is at work**. -/
def Busy (m : Machine) : Prop :=
  m.outline.IsHooking ∨ ∃ w, m.mode = .ask w ∧ w.IsHook

/-- A hook at work that does not wait for the host is on the stack. -/
theorem Busy.isHooking (h : m.Busy) (hask : ∀ w, m.mode = .ask w → ¬w.IsHook) :
    m.outline.IsHooking := by
  rcases h with hooking | ⟨w, hmode, hhook⟩
  · exact hooking
  · exact absurd hhook (hask w hmode)

/-! ### Steps that leave the hook alone -/

/-- **The hook has been left alone**: nothing has been counted, and no hook has read the
flag. -/
structure Leaves (o : Outline) (m : Machine) : Prop where
  follows : Follows o m.outline
  mode : m.mode ≠ .run true

/-- The hook has been left alone, and a hook at work is at work still. -/
structure Keeps (o : Outline) (m : Machine) : Prop extends Leaves o m where
  busy : o.IsHooking → m.Busy

/-- A step inside a thread leaves the hook to whom it has been left. -/
theorem Calm.leaves (h : Calm o' m) (hfollows : Follows o o') : Leaves o m := by
  have hmode := h.mode
  refine ⟨h.outline ▸ hfollows, fun heq => ?_⟩
  rw [heq] at hmode
  cases hmode

/-- So it keeps what has been kept. -/
theorem Calm.keeps (h : Calm o' m) (hfollows : Follows o o')
    (hhooking : o.IsHooking → o'.IsHooking) : Keeps o m where
  toLeaves := h.leaves hfollows
  busy := fun hooking => .inl (h.outline ▸ hhooking hooking)

/-- A call that ends leaves the hook as it is. -/
theorem Leaves.of_ended (houtline : m.outline = o) (hended : ∃ result, m.mode = .ended result) :
    Leaves o m := by
  obtain ⟨result, hmode⟩ := hended
  refine ⟨houtline ▸ Follows.refl _, fun heq => ?_⟩
  rw [hmode] at heq
  cases heq

/-- **Whatever happens to the threads**, an interpreter with a hook keeps it. -/
theorem Acts.keeps (h : Acts o m) (ho : o.Sound) : Keeps o m := by
  -- each operation on threads follows the hook, and a hook at work stays engaged
  cases h with
  | calm h => exact h.keeps (Follows.refl o) id
  | asks r houtline hmode =>
    refine ⟨⟨houtline ▸ Follows.refl _, fun heq => ?_⟩, fun hooking => ?_⟩
    · rw [hmode] at heq
      cases heq
    · exact .inl (houtline ▸ hooking)
  | ends hcurrent hmarks houtline hended =>
    exact ⟨Leaves.of_ended houtline hended, fun hooking => .inl (houtline ▸ hooking)⟩
  | switches id kept hid hlt hstatus hkept h =>
    refine h.keeps (Follows.switchTo o id kept) ?_
    exact fun ⟨ticket, he⟩ => ⟨ticket, ho.engaged_switchTo hid hlt hstatus he⟩
  | leaves status hstatus hcurrent hmarks h =>
    refine h.keeps (Follows.switchBack o status) ?_
    exact fun ⟨ticket, he⟩ => ⟨ticket, ho.engaged_switchBack hcurrent hmarks he⟩
  | creates isHooked h =>
    refine h.keeps (Follows.create ho.owner_lt isHooked) ?_
    exact fun ⟨ticket, he⟩ => ⟨ticket, ho.engaged_create isHooked he⟩
  | closes id hid hstatus h =>
    refine h.keeps (Follows.close o id) ?_
    exact fun ⟨ticket, he⟩ => ⟨ticket, ho.engaged_close hid hstatus he⟩

/-- A delivery that goes on, whose own mark has been taken away. -/
theorem Drains.keeps {s : List Mark} (h : Drains reason { o with marks := s } m)
    (hrest : o.IsHooking → (∃ ticket, reason = .hook ticket) ∨ IsHooking { o with marks := s }) :
    Keeps o m := by
  cases h with
  | waits w hw houtline hmode =>
    refine ⟨⟨?_, fun heq => ?_⟩, fun hooking => ?_⟩
    · rw [houtline]
      exact .of_strands_eq rfl rfl rfl
    · rw [hmode] at heq
      cases heq
    · -- the hook is still under way, as the reason of the delivery or below it
      rcases hrest hooking with ⟨ticket, rfl⟩ | hooking
      · exact .inr ⟨w, hmode, .inr ⟨ticket, hw⟩⟩
      · exact .inl (houtline ▸ hooking)
  | calls houtline hmode =>
    refine Calm.keeps ⟨houtline, hmode⟩ (.of_strands_eq rfl rfl rfl) fun hooking => ?_
    rcases hrest hooking with ⟨ticket, rfl⟩ | ⟨ticket, he⟩
    · exact ⟨ticket, .inl (List.mem_cons_self ..)⟩
    · exact ⟨ticket, he.mono fun x hx => List.mem_cons_of_mem _ hx⟩

/-- A delivery that goes on with nothing taken away. -/
theorem Drains.keeps_self (h : Drains reason o m) : Keeps o m :=
  Drains.keeps (s := o.marks) h fun hooking => .inr hooking

/-- A delivery of the hook is under way while it goes on. -/
theorem Drains.busy {ticket : Nat} (h : Drains (.hook ticket) o m) : m.Busy := by
  cases h with
  | waits w hw houtline hmode => exact .inr ⟨w, hmode, .inr ⟨ticket, hw⟩⟩
  | calls houtline hmode =>
    refine .inl ⟨ticket, .inl ?_⟩
    rw [houtline]
    exact List.mem_cons_self ..

/-- **A step at which no instruction is carried out**: the hook runs for its owner, or is left
alone. -/
theorem step_of_not_runs (hgo : m.isWaiting = false) (ho : m.outline.Sound)
    (hruns : ∀ i count polled, ¬Runs i count polled m) :
    (m.step.mode = .ask (.hookPoll m.hookTicket) ∧ m.step.outline = m.outline.setHook m.interval
        ∧ m.hookOwner = m.current)
      ∨ Keeps m.outline m.step
      ∨ (∃ ticket, Forsaken (.hook ticket) m) ∧ Leaves m.outline m.step := by
  cases shift_step hgo with
  | acts h => exact .inr (.inl (h.keeps ho))
  | runs i count polled h hcalm => exact absurd h (hruns i count polled)
  | polls polled f d rest i hmode hframes hi hcount houtline hasks =>
    exact .inl ⟨hasks, houtline, owner_of_poll hcount⟩
  | delivers reason rest hmarks h =>
    -- the mark that is taken away is put back, or belongs to a sleep
    refine .inr (.inl (h.keeps fun hooking => ?_))
    cases reason with
    | hook ticket => exact .inl ⟨ticket, rfl⟩
    | sleep => exact .inr (hooking.of_marks hmarks nofun)
  | forsakes reason rest hforsaken hmarks h =>
    -- only here may a hook stop being at work before it has found the inbox empty
    cases reason with
    | hook ticket => exact .inr (.inr ⟨⟨ticket, hforsaken⟩, h.leaves (.of_strands_eq rfl rfl rfl)⟩)
    | sleep =>
      exact .inr (.inl (h.keeps (.of_strands_eq rfl rfl rfl) fun hooking =>
        hooking.of_marks hmarks nofun))
  | returns rest hmarks houtline hended =>
    refine .inr (.inl ⟨?_, fun hooking => .inl ?_⟩)
    · have hleaves := Leaves.of_ended houtline hended
      exact ⟨houtline ▸ .of_strands_eq rfl rfl rfl, hleaves.mode⟩
    · rw [houtline]
      exact hooking.of_marks hmarks nofun

/-! ### What the owner has executed -/

/-- **The hook has an owner**, with something left on its count. -/
structure Hooked (n : Nat) (o : Outline) : Prop where
  interval : o.interval = some n
  left : ∃ left, o.left = some left ∧ 1 ≤ left ∧ left ≤ n

/-- A hook that has not been lost has an owner with at most so much left. -/
theorem Hooked.follows (h : Hooked n o) (hfollows : Follows o o') : Hooked n o' := by
  obtain ⟨left, hleft, hpos, hle⟩ := h.left
  refine ⟨hfollows.interval.trans h.interval, ?_⟩
  rcases hfollows.owner with ⟨-, hsame⟩ | ⟨-, -, hnew⟩
  · exact ⟨left, hsame.trans hleft, hpos, hle⟩
  · exact ⟨n, hnew.trans h.interval, Nat.le_trans hpos hle, Nat.le_refl n⟩

/-- **An instruction counts**: it is carried out, and no delivery is under way. -/
def Charges (m : Machine) : Prop :=
  (∃ i count polled, Runs i count polled m ∧ i.counts = true)
    ∧ ∀ reason, ¬m.outline.Engaged reason

/-- **A turn of the hook is lost**: the count runs down in a finalizer, where no hook runs. -/
def Misses (m : Machine) : Prop :=
  (∃ i count, Runs i count false m ∧ i.counts = true)
    ∧ (∃ left, (m.thread m.current).hook = some left ∧ left ≤ 1)
    ∧ m.frames.any Frame.isFinalizing = true

open Classical in
/-- What each thread has executed since a call was queued, after a step. A panic that leaves
a delivery of the hook begins the account anew, and a turn that is lost begins it anew for its
thread. -/
noncomputable def aged (m : Machine) (age : Nat → Nat) : Nat → Nat :=
  if ∃ ticket, Forsaken (.hook ticket) m then fun _ => 0
  else if Misses m then fun id => if id = m.current then 0 else age id
  else if Charges m then fun id => if id = m.current then age id + 1 else age id
  else age

/-- One instruction is executed in a step, by the thread that runs. -/
theorem aged_le (m : Machine) (age : Nat → Nat) (id : Nat) :
    aged m age id ≤ age id + 1 ∧ (id ≠ m.current → aged m age id ≤ age id) := by
  unfold aged
  split
  · exact ⟨Nat.zero_le _, fun _ => Nat.zero_le _⟩
  · -- a poll or a collection starts the count anew, and only the current thread can count one more
    split
    · dsimp only
      split
      · exact ⟨Nat.zero_le _, fun _ => Nat.zero_le _⟩
      · exact ⟨Nat.le_succ _, fun _ => Nat.le_refl _⟩
    · split
      · dsimp only
        split
        · exact ⟨Nat.le_refl _, fun hne => absurd ‹_› hne⟩
        · exact ⟨Nat.le_succ _, fun _ => Nat.le_refl _⟩
      · exact ⟨Nat.le_succ _, fun _ => Nat.le_refl _⟩

/-- An account goes up, unless the hook has had its turn. -/
theorem le_aged (age : Nat → Nat) (h : ¬∃ ticket, Forsaken (.hook ticket) m) (hmiss : ¬Misses m)
    (id : Nat) : age id ≤ aged m age id := by
  unfold aged
  rw [if_neg h, if_neg hmiss]
  split
  · dsimp only
    split
    · exact Nat.le_succ _
    · exact Nat.le_refl _
  · exact Nat.le_refl _

/-- **An instruction is charged** to the thread that has executed it. -/
theorem aged_of_charges (age : Nat → Nat) (h : ¬∃ ticket, Forsaken (.hook ticket) m)
    (hmiss : ¬Misses m) (hcharges : Charges m) : aged m age m.current = age m.current + 1 := by
  unfold aged
  rw [if_neg h, if_neg hmiss, if_pos hcharges]
  exact if_pos rfl

/-- A turn of the hook that falls into a finalizer is lost, and the account begins anew. -/
theorem aged_of_misses (age : Nat → Nat) (h : Misses m) : aged m age m.current = 0 := by
  unfold aged
  by_cases hforsaken : ∃ ticket, Forsaken (.hook ticket) m
  · rw [if_pos hforsaken]
  · rw [if_neg hforsaken, if_pos h]
    exact if_pos rfl

/-- Without an instruction no account goes up. -/
theorem aged_le_of_not_charges (age : Nat → Nat) (h : ¬Charges m) (id : Nat) :
    aged m age id ≤ age id := by
  unfold aged
  -- nothing is charged, so what is left are the ways to start anew
  rw [if_neg h]
  split
  · exact Nat.zero_le _
  · split
    · dsimp only
      split
      · exact Nat.zero_le _
      · exact Nat.le_refl _
    · exact Nat.le_refl _

/-- Nothing is counted while a hook is at work. -/
theorem aged_le_of_isHooking (age : Nat → Nat) (h : m.outline.IsHooking) (id : Nat) :
    aged m age id ≤ age id := by
  obtain ⟨ticket, he⟩ := h
  exact aged_le_of_not_charges age (fun hcharges => hcharges.2 _ he) id

/-- **The owner of the hook is in time.** What it has executed since a call was queued, and
what is left on its count, make no more than one interval and one instruction, unless a hook
is at work. -/
structure Timely (n : Nat) (age : Nat → Nat) (m : Machine) : Prop where
  fresh : ∀ {id}, m.outline.strands.size ≤ id → age id = 0
  /-- The hook has read the flag before the call was queued. -/
  polled : m.mode = .run true → ∀ id, age id = 0
  due : (m.Busy ∧ age m.outline.owner ≤ n)
    ∨ ∃ left, m.outline.left = some left ∧ age m.outline.owner + left ≤ n + 1

namespace Timely

/-- **No account of the owner exceeds the interval.** -/
theorem le (h : Timely n age m) (hooked : Hooked n m.outline) : age m.outline.owner ≤ n := by
  rcases h.due with ⟨-, hle⟩ | ⟨left, hleft, hle⟩
  · exact hle
  · obtain ⟨left', hleft', hpos, -⟩ := hooked.left
    rw [hleft] at hleft'
    cases hleft'
    omega

/-- All accounts begin at nothing. -/
theorem zero (hooked : Hooked n m.outline) : Timely n (fun _ => 0) m := by
  obtain ⟨left, hleft, -, hle⟩ := hooked.left
  exact ⟨fun _ => rfl, fun _ _ => rfl, .inr ⟨left, hleft, by omega⟩⟩

/-- A step that leaves the hook alone keeps the accounts in time. -/
theorem leaves (h : Timely n age m) (hooked : Hooked n m.outline) (hleaves : Leaves m.outline m')
    (hbusy : m.Busy → m'.Busy) : Timely n age m' := by
  refine ⟨fun hid => h.fresh (Nat.le_trans hleaves.follows.size hid),
    fun hmode => absurd hmode hleaves.mode, ?_⟩
  -- the owner is the same thread as before, or one that is new
  rcases hleaves.follows.owner with ⟨howner, hleft⟩ | ⟨howner, hlt, hleft⟩
  · rw [howner, hleft]
    rcases h.due with ⟨hb, hle⟩ | hdue
    · exact .inl ⟨hbusy hb, hle⟩
    · exact .inr hdue
  · -- a new owner has executed nothing
    rw [howner, hleft, h.fresh (Nat.le_refl _)]
    exact .inr ⟨n, hooked.interval, by omega⟩

/-- Lower accounts are in time, too. -/
theorem mono {age' : Nat → Nat} (h : Timely n age m) (hle : ∀ id, age' id ≤ age id) :
    Timely n age' m := by
  refine ⟨fun hid => Nat.le_zero.mp (h.fresh hid ▸ hle _),
    fun hmode id => Nat.le_zero.mp (h.polled hmode id ▸ hle _), ?_⟩
  rcases h.due with ⟨hbusy, hdue⟩ | ⟨left, hleft, hdue⟩
  · exact .inl ⟨hbusy, Nat.le_trans (hle _) hdue⟩
  · exact .inr ⟨left, hleft, Nat.le_trans (Nat.add_le_add_right (hle _) _) hdue⟩

end Timely

/-! ### Instructions -/

/-- Counting makes no thread. -/
theorem size_counted (count : Count) : (o.counted count).strands.size = o.strands.size := by
  cases count with
  | countDown left => exact size_setHook _
  | remove => exact size_setHook _
  | go => rfl
  | poll => rfl

/-- Nor does it hand the hook on. -/
theorem owner_counted (count : Count) : (o.counted count).owner = o.owner := by
  cases count <;> rfl

/-- Nor does it change the interval. -/
theorem interval_counted (count : Count) : (o.counted count).interval = o.interval := by
  cases count <;> rfl

/-- The count of the owner changes with the owner's instructions only. -/
theorem left_counted_of_ne (count : Count) (howner : o.owner < o.strands.size)
    (hne : o.owner ≠ o.current) : (o.counted count).left = o.left := by
  cases count with
  | countDown left => exact (left_setHook _ howner).trans (if_neg hne)
  | remove => exact (left_setHook _ howner).trans (if_neg hne)
  | go => rfl
  | poll => rfl

/-- The owner has what the count has left it. -/
theorem left_countDown (left : Nat) (howner : o.owner < o.strands.size)
    (heq : o.owner = o.current) : (o.counted (.countDown left)).left = some left :=
  (left_setHook _ howner).trans (if_pos heq)

/-- What becomes of the count of the owner when one of its instructions is carried out. -/
theorem Runs.count_cases {i : Instr} {count : Count} {polled : Bool} {left : Nat}
    (h : Runs i count polled m) (hinterval : m.interval = some n)
    (howner : m.hookOwner = m.current) (hleft : m.outline.left = some left) :
    count = .go ∧ (polled = true ∨ i.counts = false)
      ∨ polled = false ∧ (count = .countDown (left - 1) ∧ 1 < left
        ∨ count = .countDown n ∧ (m.outline.IsHooking ∨ Misses m)) := by
  have hruns := h
  obtain ⟨f, d, rest, hframes, hi, rfl⟩ := h.top
  have hhook : (m.thread m.current).hook = some left := by
    unfold Outline.left at hleft
    change (m.outline.strand m.hookOwner).hook = _ at hleft
    rw [howner, strand_thread] at hleft
    exact hleft
  have habove : ({ m.outline with marks := marks rest } : Outline) = m.outline :=
    outline_above hframes
  cases polled with
  | true =>
    -- the instruction was held up by the hook, and has been counted by then
    refine .inl ⟨?_, .inl rfl⟩
    unfold polls
    rw [hinterval, Bool.or_true]
    rfl
  | false =>
    cases hcounts : i.counts with
    | false =>
      refine .inl ⟨?_, .inr rfl⟩
      unfold polls
      rw [hinterval, hcounts]
      rfl
    | true =>
      refine .inr ⟨rfl, ?_⟩
      rcases polls_cases rest hinterval hhook hcounts with
        hdown | ⟨hagain, ticket, he⟩ | ⟨hagain, hlast, hfinalizes⟩ | ⟨-, hne⟩ | ⟨hpoll, -⟩
      · exact .inl hdown
      · rw [habove] at he
        exact .inr ⟨hagain, .inl ⟨ticket, he⟩⟩
      · refine .inr ⟨hagain, .inr ⟨⟨i, _, hruns, hcounts⟩, ⟨left, hhook, hlast⟩, ?_⟩⟩
        rw [hframes, List.any_cons, hfinalizes, Bool.or_true]
      · exact absurd howner hne
      · exact absurd hpoll h.count

/-- What is charged is counted. -/
theorem Runs.counts_of_charges {i : Instr} {count : Count} {polled : Bool}
    (h : Runs i count polled m) (hcharges : Charges m) : i.counts = true := by
  obtain ⟨⟨i', count', polled', h', hcounts⟩, -⟩ := hcharges
  obtain ⟨f, d, rest, hframes, hi, -⟩ := h.top
  obtain ⟨f', d', rest', hframes', hi', -⟩ := h'.top
  rw [hframes] at hframes'
  cases hframes'
  rw [hi] at hi'
  cases hi'
  exact hcounts

/-- While an instruction is carried out, nothing waits for the host. -/
theorem Runs.isHooking {i : Instr} {count : Count} {polled : Bool} (h : Runs i count polled m)
    (hbusy : m.Busy) : m.outline.IsHooking := by
  refine hbusy.isHooking fun w hmode => ?_
  rw [h.mode] at hmode
  cases hmode

/-- A new thread has executed nothing. -/
theorem Timely.fresh_aged (h : Timely n age m) (ho : m.outline.Sound) {id : Nat}
    (hid : m.outline.strands.size ≤ id) : aged m age id = 0 := by
  have hle := (aged_le m age id).2 (Nat.ne_of_gt (Nat.lt_of_lt_of_le ho.current_lt hid))
  exact Nat.le_zero.mp (h.fresh hid ▸ hle)

/-- A thread that does not own the hook executes an instruction. -/
theorem Timely.runs_of_ne (h : Timely n age m) (hooked : Hooked n m.outline)
    (ho : m.outline.Sound) {i : Instr} {count : Count} {polled : Bool}
    (hruns : Runs i count polled m) (hne : m.hookOwner ≠ m.current) :
    Hooked n m.step.outline ∧ Timely n (aged m age) m.step := by
  have hcalm := hruns.calm_step
  have hleft := left_counted_of_ne count ho.owner_lt hne
  refine ⟨?_, ?_, ?_, ?_⟩
  · rw [hcalm.outline]
    refine ⟨(interval_counted count).trans hooked.interval, ?_⟩
    rw [hleft]
    exact hooked.left
  · intro id hid
    rw [hcalm.outline, size_counted] at hid
    exact h.fresh_aged ho hid
  · exact fun hmode => absurd hmode (hcalm.leaves (Follows.refl _)).mode
  · -- the owner has executed nothing, and its count is as it was
    have hle := (aged_le m age m.hookOwner).2 hne
    rw [hcalm.outline, owner_counted, hleft]
    rcases h.due with ⟨hbusy, hdue⟩ | ⟨left, hleft, hdue⟩
    · refine .inl ⟨.inl ?_, Nat.le_trans hle hdue⟩
      rw [hcalm.outline]
      exact (hruns.isHooking hbusy).counted ho count
    · exact .inr ⟨left, hleft, Nat.le_trans (Nat.add_le_add_right hle _) hdue⟩

/-- The owner of the hook executes an instruction, by what is left on its count then. -/
theorem Timely.runs_left (h : Timely n age m) (hooked : Hooked n m.outline)
    (ho : m.outline.Sound) {i : Instr} {count : Count} {polled : Bool}
    (hruns : Runs i count polled m) {left : Nat}
    (hleft : (m.outline.counted count).left = some left) (hpos : 1 ≤ left) (hle : left ≤ n)
    (hdue : m.outline.IsHooking ∨ aged m age m.hookOwner + left ≤ n + 1) :
    Hooked n m.step.outline ∧ Timely n (aged m age) m.step := by
  have hcalm := hruns.calm_step
  refine ⟨?_, ?_, ?_, ?_⟩
  · rw [hcalm.outline]
    exact ⟨(interval_counted count).trans hooked.interval, left, hleft, hpos, hle⟩
  · intro id hid
    rw [hcalm.outline, size_counted] at hid
    exact h.fresh_aged ho hid
  · exact fun hmode => absurd hmode (hcalm.leaves (Follows.refl _)).mode
  · rw [hcalm.outline, owner_counted]
    rcases hdue with hooking | hdue
    · -- nothing is counted for the call while a hook is at work, whatever is left
      refine .inl ⟨.inl ?_, Nat.le_trans (aged_le_of_isHooking age hooking _) (h.le hooked)⟩
      rw [hcalm.outline]
      exact hooking.counted ho count
    · exact .inr ⟨left, hleft, hdue⟩

/-- Before a step at which no hook is at work, the bound is on what is left. -/
theorem Timely.due_of_not_busy (h : Timely n age m) (hbusy : ¬m.Busy) {left : Nat}
    (hleft : m.outline.left = some left) : age m.hookOwner + left ≤ n + 1 := by
  rcases h.due with ⟨hb, -⟩ | ⟨left', hleft', hdue⟩
  · exact absurd hb hbusy
  · rw [hleft] at hleft'
    cases hleft'
    exact hdue

/-- The owner of the hook executes an instruction, and its count runs down. -/
theorem Timely.runs_of_eq (h : Timely n age m) (hooked : Hooked n m.outline)
    (ho : m.outline.Sound) {i : Instr} {count : Count} {polled : Bool}
    (hruns : Runs i count polled m) (heq : m.hookOwner = m.current) :
    Hooked n m.step.outline ∧ Timely n (aged m age) m.step := by
  obtain ⟨left, hleft, hpos, hle⟩ := hooked.left
  have hage := (aged_le m age m.hookOwner).1
  -- with a hook at work there is nothing to show, so the bound is on what is left
  have hrest : ¬m.outline.IsHooking → age m.hookOwner + left ≤ n + 1 := fun hooking =>
    h.due_of_not_busy (fun hbusy => hooking (hruns.isHooking hbusy)) hleft
  rcases hruns.count_cases hooked.interval heq hleft with
    ⟨rfl, hpolled | hcounts⟩ | ⟨-, ⟨rfl, hlt⟩ | ⟨rfl, hooking | hmisses⟩⟩
  · -- the hook has read the flag just before, so no call was queued until now
    refine h.runs_left hooked ho hruns hleft hpos hle (.inr ?_)
    have hzero := h.polled (hruns.mode.trans (congrArg Mode.run hpolled)) m.hookOwner
    omega
  · -- an instruction that does not count
    refine h.runs_left hooked ho hruns hleft hpos hle ?_
    by_cases hooking : m.outline.IsHooking
    · exact .inl hooking
    · have hcharges : ¬Charges m := fun hcharges =>
        absurd (hruns.counts_of_charges hcharges) (by rw [hcounts]; exact Bool.false_ne_true)
      have hsame := aged_le_of_not_charges age hcharges m.hookOwner
      have hdue := hrest hooking
      exact .inr (by omega)
  · -- one more is executed, and one less is left
    refine h.runs_left hooked ho hruns (left_countDown _ ho.owner_lt heq) (by omega) (by omega) ?_
    by_cases hooking : m.outline.IsHooking
    · exact .inl hooking
    · refine .inr ?_
      calc aged m age m.hookOwner + (left - 1) ≤ age m.hookOwner + 1 + (left - 1) :=
            Nat.add_le_add_right hage _
        _ = age m.hookOwner + left := by omega
        _ ≤ n + 1 := hrest hooking
  · -- the count starts again because a hook is at work
    exact h.runs_left hooked ho hruns (left_countDown _ ho.owner_lt heq) (by omega) (Nat.le_refl n)
      (.inl hooking)
  · -- a finalizer has swallowed the turn of the hook, and the account begins anew with the count
    refine h.runs_left hooked ho hruns (left_countDown _ ho.owner_lt heq) (by omega) (Nat.le_refl n)
      (.inr ?_)
    rw [heq, aged_of_misses age hmisses]
    omega

/-- **Every step keeps the owner of the hook in time.** -/
theorem Timely.step (h : Timely n age m) (hooked : Hooked n m.outline) (ho : m.outline.Sound)
    (hgo : m.isWaiting = false) : Hooked n m.step.outline ∧ Timely n (aged m age) m.step := by
  by_cases hruns : ∃ i count polled, Runs i count polled m
  · obtain ⟨i, count, polled, hruns⟩ := hruns
    by_cases heq : m.hookOwner = m.current
    · exact h.runs_of_eq hooked ho hruns heq
    · exact h.runs_of_ne hooked ho hruns heq
  · have hcharges : ¬Charges m := by
      rintro ⟨⟨i, count, polled, hruns', -⟩, -⟩
      exact hruns ⟨i, count, polled, hruns'⟩
    have hage := aged_le_of_not_charges age hcharges
    have hbusy : m.Busy → m.outline.IsHooking := by
      intro hb
      refine hb.isHooking fun w hmode => ?_
      unfold isWaiting at hgo
      rw [hmode] at hgo
      cases hgo
    rcases step_of_not_runs hgo ho fun i count polled hr => hruns ⟨i, count, polled, hr⟩
      with ⟨hmode, houtline, heq⟩ | hkeeps | ⟨hforsaken, hleaves⟩
    · -- the hook runs for its owner: the count starts again, and the flag is about to be read
      have hleft : m.step.outline.left = some n := by
        rw [houtline]
        exact ((left_setHook _ ho.owner_lt).trans (if_pos heq)).trans hooked.interval
      have hpos : 1 ≤ n := by
        obtain ⟨left, -, hpos, hle⟩ := hooked.left
        omega
      refine ⟨⟨?_, n, hleft, hpos, Nat.le_refl n⟩, Timely.mono ⟨?_, ?_, .inl ⟨?_, ?_⟩⟩ hage⟩
      · rw [houtline]
        exact hooked.interval
      · intro id hid
        rw [houtline, size_setHook] at hid
        exact h.fresh hid
      · rw [hmode]
        exact nofun
      · exact .inr ⟨_, hmode, .inl ⟨_, rfl⟩⟩
      · rw [houtline]
        exact h.le hooked
    · exact ⟨hooked.follows hkeeps.follows,
        (h.leaves hooked hkeeps.toLeaves fun hb => hkeeps.busy (hbusy hb)).mono hage⟩
    · -- a panic leaves the hook, and the account begins anew
      have hzero : aged m age = fun _ => 0 := if_pos hforsaken
      rw [hzero]
      exact ⟨hooked.follows hleaves.follows, .zero (hooked.follows hleaves.follows)⟩

/-! ### Answers and calls of the host -/

/-- An answer leaves the counts alone. -/
theorem Hooked.answer (h : Hooked n m.outline) (ho : m.outline.Sound) {w : Waiting}
    (hmode : m.mode = .ask w) (a : Answer) : Hooked n (m.answer a).outline := by
  cases answered hmode a with
  | acts hw hacts => exact h.follows (hacts.keeps ho).follows
  | drains reason hw hdrains => exact h.follows hdrains.keeps_self.follows
  | done hw houtline hgo => exact houtline ▸ h

/-- **An answer keeps the owner of the hook in time**, unless a hook finds no call. -/
theorem Timely.answer (h : Timely n age m) (hooked : Hooked n m.outline) (ho : m.outline.Sound)
    {w : Waiting} {a : Answer} (hmode : m.mode = .ask w) (hfound : ¬w.IsDone a) :
    Timely n age (m.answer a) := by
  -- a request that is no hook's leaves only the hooks on the stack
  have hhooking : ¬w.IsHook → m.Busy → m.outline.IsHooking := by
    intro hw hb
    refine hb.isHooking fun w' hmode' hhook => hw ?_
    rw [hmode] at hmode'
    cases hmode'
    exact hhook
  cases answered hmode a with
  | acts hw hacts =>
    have hkeeps := hacts.keeps ho
    exact h.leaves hooked hkeeps.toLeaves fun hb => hkeeps.busy (hhooking hw hb)
  | drains reason hw hdrains =>
    have hkeeps := hdrains.keeps_self
    refine h.leaves hooked hkeeps.toLeaves fun hb => ?_
    by_cases hhook : w.IsHook
    · -- the hook that asked goes on with its delivery
      obtain ⟨ticket, rfl⟩ := hw hhook
      exact hdrains.busy
    · exact hkeeps.busy (hhooking hhook hb)
  | done hw houtline hgo => exact absurd hw hfound

/-- Between two calls of the host no hook is at work. -/
theorem not_busy_of_ended (hm : Sound m) {result : Except Value (List Value)}
    (hmode : m.mode = .ended result) : ¬m.Busy := by
  obtain ⟨hcurrent, hmarks⟩ := hm.ended hmode
  rintro (⟨ticket, he⟩ | ⟨w, hask, -⟩)
  · refine hm.outline.not_engaged hcurrent ?_ he
    rw [hmarks]
    exact List.not_mem_nil
  · rw [hmode] at hask
    cases hask

/-! ### Threads that are not looked after -/

/-- **A thread is not looked after any more**: the hook belongs to another thread. -/
structure Lapsed (id : Nat) (m : Machine) : Prop where
  lt : id < m.outline.strands.size
  ne : m.outline.owner ≠ id

namespace Lapsed

variable {id : Nat}

/-- A thread that has lost the hook does not get it back by a step that leaves it alone. -/
theorem leaves (h : Lapsed id m) (hleaves : Leaves m.outline m') : Lapsed id m' := by
  have hfollows := hleaves.follows
  refine ⟨Nat.lt_of_lt_of_le h.lt hfollows.size, ?_⟩
  -- the hook changes hands only to a thread that is new
  rcases hfollows.owner with ⟨howner, -⟩ | ⟨howner, -⟩
  · rw [howner]
    exact h.ne
  · rw [howner]
    exact Nat.ne_of_gt h.lt

/-- **No step gives the hook back** to a thread. -/
theorem step (h : Lapsed id m) (ho : m.outline.Sound) (hgo : m.isWaiting = false) :
    Lapsed id m.step := by
  -- an instruction leaves the owner as it is, any other step can only take the hook away
  by_cases hruns : ∃ i count polled, Runs i count polled m
  · obtain ⟨i, count, polled, hruns⟩ := hruns
    have hcalm := hruns.calm_step
    refine ⟨?_, ?_⟩
    · rw [hcalm.outline, size_counted]
      exact h.lt
    · rw [hcalm.outline, owner_counted]
      exact h.ne
  · rcases step_of_not_runs hgo ho fun i count polled hr => hruns ⟨i, count, polled, hr⟩
      with ⟨-, houtline, -⟩ | hkeeps | ⟨-, hleaves⟩
    · refine ⟨?_, ?_⟩
      · rw [houtline, size_setHook]
        exact h.lt
      · rw [houtline]
        exact h.ne
    · exact h.leaves hkeeps.toLeaves
    · exact h.leaves hleaves

/-- Nor does it by an answer. -/
theorem answer (h : Lapsed id m) (ho : m.outline.Sound) {w : Waiting} (hmode : m.mode = .ask w)
    (a : Answer) : Lapsed id (m.answer a) := by
  cases answered hmode a with
  | acts hw hacts => exact h.leaves (hacts.keeps ho).toLeaves
  | drains reason hw hdrains => exact h.leaves hdrains.keeps_self.toLeaves
  | done hw houtline hgo =>
    exact ⟨Nat.lt_of_lt_of_eq h.lt (congrArg (fun o => o.strands.size) houtline.symm),
      houtline ▸ h.ne⟩

end Lapsed

end Machine
end RobotSession.Lua
