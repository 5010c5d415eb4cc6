import RobotSession.Proofs.Lua.Threads

/-!
# Where deliveries come from

A delivery of queued calls is under way as long as it has a mark on some stack, or waits for the
host. It begins with the host's answer that something is queued, and with nothing else: an
interpreter that is never told so goes on without deliveries, whatever its script does.

When a call of the host has ended, no delivery is left anywhere. For this the marks have to be
gathered: only the thread that runs, and those that wait for it, have marks on their stacks.

* `Outline.Gathered` — a thread with marks on its stack waits for the one that runs.
* `Machine.Delivers` — calls are being delivered.
* `Machine.Shift.not_delivers`, `Machine.not_delivers_answer` — no delivery begins by itself.
* `Machine.not_delivers_of_ended` — none is left when a call of the host has ended.
-/

namespace RobotSession.Lua

namespace Outline

variable {o o' : Outline} {a id : Nat} {x : Mark} {kept : List Mark} {status : ThreadStatus}

/-! ### The marks of all stacks -/

/-- A mark is on some stack. -/
def Has (o : Outline) (x : Mark) : Prop :=
  x ∈ o.marks ∨ ∃ a, x ∈ (o.strand a).marks

/-- A hook leaves all frames alone. -/
theorem marks_setHook (hook : Option Nat) (a : Nat) :
    ((o.setHook hook).strand a).marks = (o.strand a).marks :=
  field_modify Strand.marks _ _ _ _ _ fun _ => rfl

/-- A new thread has no marks. -/
theorem marks_create (isHooked : Bool) (a : Nat) :
    ((o.create isHooked).strand a).marks = (o.strand a).marks := by
  -- a strand beyond the last reads as the default one, which has no marks
  have hnone : ∀ {o : Outline} {a : Nat}, o.strands.size ≤ a → (o.strand a).marks = [] := by
    intro o a ha
    unfold strand
    rw [Array.getD_eq_getD_getElem?, Array.getElem?_eq_none ha]
    rfl
  -- the new strand takes the first free place and has no marks either
  rcases Nat.lt_trichotomy a o.strands.size with hlt | rfl | hgt
  · rw [strand_create_of_lt isHooked hlt]
  · rw [strand_create_self, hnone (Nat.le_refl _)]
  · rw [hnone (Nat.le_of_lt hgt)]
    refine hnone ?_
    rw [size_create]
    exact hgt

/-- A thread that is closed loses its frames, the others keep theirs. -/
theorem marks_close (id a : Nat) :
    ((o.close id).strand a).marks = (o.strand a).marks ∨ ((o.close id).strand a).marks = [] := by
  by_cases ha : a = id
  · by_cases hlt : id < o.strands.size
    · rw [ha, strand_close_self hlt]
      exact .inr rfl
    · -- what is no thread is closed already
      refine .inl ?_
      unfold close strand
      rw [getD_modify, if_neg fun h => hlt (ha ▸ h.2)]
  · rw [strand_close_of_ne ha]
    exact .inl rfl

/-- The thread that resumes another one keeps its marks, and the other one runs with its own. -/
theorem marks_switchTo (kept : List Mark) (h : Sound o) (hid : id ≠ o.current)
    (hlt : id < o.strands.size) (a : Nat) :
    a = id ∧ ((o.switchTo id kept).strand a).marks = []
      ∨ a = o.current ∧ ((o.switchTo id kept).strand a).marks = o.marks
      ∨ a ≠ id ∧ a ≠ o.current ∧ (o.switchTo id kept).strand a = o.strand a := by
  -- the switch touches two strands: the one switched to gives up its marks and the one left keeps
  -- them
  by_cases ha : a = id
  · refine .inl ⟨ha, ?_⟩
    rw [ha, strand_switchTo_self kept hlt hid]
  · by_cases hcurrent : a = o.current
    · refine .inr (.inl ⟨hcurrent, ?_⟩)
      rw [hcurrent, strand_switchTo_current kept h.current_lt hid]
    · exact .inr (.inr ⟨ha, hcurrent, strand_switchTo_of_ne ha hcurrent⟩)

/-- The threads that are left and resumed have no frames put aside, and the others keep theirs. -/
theorem marks_switchBack (status : ThreadStatus) (h : Sound o) (hcurrent : o.current ≠ 0)
    (a : Nat) :
    ((o.switchBack status).strand a).marks = []
      ∨ a ≠ o.resumer ∧ a ≠ o.current ∧ (o.switchBack status).strand a = o.strand a := by
  -- the one resumed back and the one left are two strands, and both end up without marks of their
  -- own
  have hres := h.resumer_eq hcurrent
  have hne := h.ne_current_of_normal (h.normal hres)
  by_cases ha : a = o.resumer
  · have hlt : o.resumer < o.strands.size := lt_of_status (by rw [h.normal hres]; exact nofun)
    rw [ha, strand_switchBack_resumer status hlt hne]
    exact .inl rfl
  · by_cases hac : a = o.current
    · rw [hac, strand_switchBack_current status h.current_lt hne]
      exact .inl rfl
    · exact .inr ⟨ha, hac, strand_switchBack_of_ne ha hac⟩

/-- Marks that were not on one of the stacks before cannot be there now. -/
theorem Has.of_strands (h : o'.Has x) (hmarks : ∀ y ∈ o'.marks, o.Has y)
    (hstrands : ∀ a, (o'.strand a).marks = (o.strand a).marks ∨ (o'.strand a).marks = []) :
    o.Has x := by
  rcases h with hmark | ⟨a, hmark⟩
  · exact hmarks x hmark
  · rcases hstrands a with hsame | hnone
    · rw [hsame] at hmark
      exact .inr ⟨a, hmark⟩
    · rw [hnone] at hmark
      cases hmark

/-- A mark that is there with the hook was there before. -/
theorem Has.of_setHook {hook : Option Nat} (h : (o.setHook hook).Has x) : o.Has x :=
  h.of_strands (fun _ hy => .inl hy) fun a => .inl (marks_setHook hook a)

/-- So it was if instructions have been counted. -/
theorem Has.of_counted {c : Machine.Count} (h : (o.counted c).Has x) : o.Has x := by
  cases c with
  | countDown left => exact Has.of_setHook h
  | remove => exact Has.of_setHook h
  | go => exact h
  | poll => exact h

/-- A new thread has no marks. -/
theorem Has.of_create {isHooked : Bool} (h : (o.create isHooked).Has x) : o.Has x :=
  h.of_strands (fun _ hy => .inl hy) fun a => .inl (marks_create isHooked a)

/-- A closed one has lost its marks. -/
theorem Has.of_close (h : (o.close id).Has x) : o.Has x :=
  h.of_strands (fun _ hy => .inl hy) fun a => marks_close id a

/-- The marks of the thread that is resumed were there before, put aside. -/
theorem Has.of_switchTo (h : (o.switchTo id kept).Has x) (ho : Sound o) (hid : id ≠ o.current)
    (hlt : id < o.strands.size) (hkept : kept = (o.strand id).marks ∨ kept = []) : o.Has x := by
  -- the marks now on the stack were those of the strand switched to, and its strand has none left
  rcases h with hmark | ⟨a, hmark⟩
  · have hmark : x ∈ kept := hmark
    rcases hkept with rfl | rfl
    · exact .inr ⟨id, hmark⟩
    · cases hmark
  · rcases marks_switchTo kept ho hid hlt a with ⟨-, hnone⟩ | ⟨-, hown⟩ | ⟨-, -, hsame⟩
    · rw [hnone] at hmark
      cases hmark
    · rw [hown] at hmark
      exact .inl hmark
    · rw [hsame] at hmark
      exact .inr ⟨a, hmark⟩

/-- So were those of the one that has resumed the other. -/
theorem Has.of_switchBack (h : (o.switchBack status).Has x) (ho : Sound o)
    (hcurrent : o.current ≠ 0) : o.Has x := by
  refine h.of_strands (fun y hy => .inr ⟨o.resumer, hy⟩) fun a => ?_
  rcases marks_switchBack status ho hcurrent a with hnone | ⟨-, -, hsame⟩
  · exact .inr hnone
  · rw [hsame]
    exact .inl rfl

/-! ### Gathered marks -/

/-- **The marks are gathered**: a thread with marks on its stack waits for the one that runs. -/
def Gathered (o : Outline) : Prop :=
  ∀ a, (o.strand a).marks ≠ [] → Relation.TransGen o.Resumed o.current a

namespace Gathered

/-- The marks stay gathered while no thread of the chain is touched. -/
theorem congr (h : Gathered o) (ho : Sound o) (hcurrent : o'.current = o.current)
    (hstart : (o'.strand o.current).resumer = (o.strand o.current).resumer)
    (hkept : ∀ c, (o.strand c).status = .normal → (o'.strand c).resumer = (o.strand c).resumer)
    (hmarks : ∀ a, (o'.strand a).marks = (o.strand a).marks ∨ (o'.strand a).marks = []) :
    Gathered o' := by
  intro a ha
  rw [hcurrent]
  -- a strand that still has marks had the same ones before, and the links that lead to it are
  -- unchanged
  refine ho.transGen_congr hstart hkept (h a ?_)
  rcases hmarks a with hsame | hnone
  · rw [← hsame]
    exact ha
  · exact absurd hnone ha

/-- The marks of the thread that runs do not matter. -/
theorem marks (h : Gathered o) (s : List Mark) : Gathered { o with marks := s } := h

/-- A hook moves no deliveries. -/
theorem setHook (h : Gathered o) (ho : Sound o) (hook : Option Nat) :
    Gathered (o.setHook hook) := by
  have hresumer : ∀ a, ((o.setHook hook).strand a).resumer = (o.strand a).resumer :=
    fun a => field_modify Strand.resumer _ _ _ _ _ fun _ => rfl
  exact h.congr ho rfl (hresumer _) (fun c _ => hresumer c) fun a => .inl (marks_setHook hook a)

/-- Nor does counting. -/
theorem counted (h : Gathered o) (ho : Sound o) (c : Machine.Count) : Gathered (o.counted c) := by
  cases c with
  | countDown left => exact h.setHook ho _
  | remove => exact h.setHook ho _
  | go => exact h
  | poll => exact h

/-- A new thread delivers nothing. -/
theorem create (h : Gathered o) (ho : Sound o) (isHooked : Bool) :
    Gathered (o.create isHooked) := by
  refine h.congr ho rfl ?_ ?_ fun a => .inl (marks_create isHooked a)
  · rw [strand_create_of_lt isHooked ho.current_lt]
  · intro c hc
    rw [strand_create_of_lt isHooked (lt_of_status (by rw [hc]; exact nofun))]

/-- A thread that is closed was not delivering, or delivers no more. -/
theorem close (h : Gathered o) (ho : Sound o) (hid : id ≠ o.current)
    (hstatus : (o.strand id).status = .suspended ∨ (o.strand id).status = .dead) :
    Gathered (o.close id) := by
  refine h.congr ho rfl ?_ ?_ fun a => marks_close id a
  · rw [strand_close_of_ne hid.symm]
  · intro c hc
    rw [strand_close_of_ne (Sound.ne_of_normal_of_idle hstatus hc)]

/-- The thread that resumes another one waits for it, and keeps its marks. -/
theorem switchTo (h : Gathered o) (ho : Sound o) (hid : id ≠ o.current) (hlt : id < o.strands.size)
    (hstatus : (o.strand id).status = .suspended ∨ (o.strand id).status = .dead) :
    Gathered (o.switchTo id kept) := by
  obtain ⟨hlink, hchain⟩ := ho.chain_switchTo kept hid hlt hstatus
  intro a ha
  rcases marks_switchTo kept ho hid hlt a with ⟨-, hnone⟩ | ⟨rfl, -⟩ | ⟨-, -, hsame⟩
  · exact absurd hnone ha
  · exact .single hlink
  · rw [hsame] at ha
    exact hchain (h a ha)

/-- The thread that is left was the first one of the chain. -/
theorem switchBack (h : Gathered o) (ho : Sound o) (status : ThreadStatus)
    (hcurrent : o.current ≠ 0) : Gathered (o.switchBack status) := by
  intro a ha
  rcases marks_switchBack status ho hcurrent a with hnone | ⟨hne, -, hsame⟩
  · exact absurd hnone ha
  · rw [hsame] at ha
    rcases ho.chain_switchBack status hcurrent (h a ha) with heq | ⟨-, hchain⟩
    · exact absurd heq hne
    · exact hchain

/-- While the main thread runs, no other thread has marks on its stack. -/
theorem marks_eq_nil (h : Gathered o) (ho : Sound o) (hcurrent : o.current = 0) (a : Nat) :
    (o.strand a).marks = [] := by
  refine Classical.byContradiction fun ha => ?_
  obtain ⟨b, hb, -⟩ := Relation.TransGen.head'_iff.mp (h a ha)
  -- the main thread was not resumed by anyone
  have hmain : (o.strand o.current).resumer = none := by
    rw [hcurrent]
    exact ho.main_resumer
  exact nomatch hmain.symm.trans hb

end Gathered
end Outline

/-! ### Interpreters -/

namespace Machine

variable {m m' : Machine} {o : Outline}

/-- **Calls are being delivered**: a delivery has a mark on some stack, or waits for the host. -/
def Delivers (m : Machine) : Prop :=
  (∃ reason, m.outline.Has (.delivery reason)) ∨ ∃ w, m.mode = .ask w ∧ w.drain?.isSome = true

/-- A calm interpreter delivers only what was being delivered before. -/
theorem Calm.not_delivers (h : Calm o m) (hhas : ∀ reason, ¬ o.Has (.delivery reason)) :
    ¬ m.Delivers := by
  rintro (⟨reason, hmark⟩ | ⟨w, hmode, -⟩)
  · rw [h.outline] at hmark
    exact hhas reason hmark
  · have hcalm := h.mode
    rw [hmode] at hcalm
    cases hcalm

/-- Nothing is delivered where no frame and no question is that of a delivery. -/
theorem not_delivers_of_mode (houtline : ∀ reason, ¬ m.outline.Has (.delivery reason))
    (hmode : ∀ w, m.mode = .ask w → w.drain? = none) : ¬ m.Delivers := by
  rintro (⟨reason, hmark⟩ | ⟨w, hw, hdrain⟩)
  · exact houtline reason hmark
  · rw [hmode w hw] at hdrain
    cases hdrain

/-- **No act of a script begins a delivery.** -/
theorem Acts.not_delivers (h : Acts o m) (ho : o.Sound)
    (hhas : ∀ reason, ¬ o.Has (.delivery reason)) : ¬ m.Delivers := by
  -- no action makes a mark of a delivery, and the machine delivers only under one
  cases h with
  | calm h => exact h.not_delivers hhas
  | asks r houtline hmode =>
    refine not_delivers_of_mode (houtline ▸ hhas) fun w hw => ?_
    obtain rfl := Mode.ask.inj (hmode.symm.trans hw)
    rfl
  | ends hcurrent hmarks houtline hended =>
    obtain ⟨result, hmode⟩ := hended
    exact not_delivers_of_mode (houtline ▸ hhas) fun w hw => nomatch hmode.symm.trans hw
  | switches id kept hid hlt hstatus hkept h =>
    exact h.not_delivers fun reason hmark => hhas reason (hmark.of_switchTo ho hid hlt hkept)
  | leaves status hstatus hcurrent hmarks h =>
    exact h.not_delivers fun reason hmark => hhas reason (hmark.of_switchBack ho hcurrent)
  | creates isHooked h => exact h.not_delivers fun reason hmark => hhas reason hmark.of_create
  | closes id hid hstatus h => exact h.not_delivers fun reason hmark => hhas reason hmark.of_close

/-- **No step begins a delivery.** -/
theorem Shift.not_delivers (h : Shift m m') (ho : m.outline.Sound) (hm : ¬ m.Delivers) :
    ¬ m'.Delivers := by
  have hhas : ∀ reason, ¬ m.outline.Has (.delivery reason) :=
    fun reason hmark => hm (.inl ⟨reason, hmark⟩)
  -- a delivery that goes on is one that was under way
  have hnone : ∀ {reason rest}, m.outline.marks ≠ .delivery reason :: rest := by
    intro reason rest hmarks
    refine hhas reason (.inl ?_)
    rw [hmarks]
    exact List.mem_cons_self ..
  cases h with
  | acts h => exact h.not_delivers ho hhas
  | runs i count polled hruns h =>
    exact h.not_delivers fun reason hmark => hhas reason hmark.of_counted
  | polls polled f d rest i hmode hframes hi hcount houtline hasks =>
    refine not_delivers_of_mode (fun reason hmark => ?_) fun w hw => ?_
    · rw [houtline] at hmark
      exact hhas reason hmark.of_setHook
    · obtain rfl := Mode.ask.inj (hasks.symm.trans hw)
      rfl
  | delivers reason rest hmarks h => exact absurd hmarks hnone
  | forsakes reason rest hforsaken hmarks h => exact absurd hmarks hnone
  | returns rest hmarks houtline hended =>
    obtain ⟨result, hmode⟩ := hended
    refine not_delivers_of_mode (fun reason hmark => ?_) fun w hw => nomatch hmode.symm.trans hw
    rw [houtline] at hmark
    rcases hmark with hmark | hmark
    · refine hhas reason (.inl ?_)
      rw [hmarks]
      exact List.mem_cons_of_mem _ hmark
    · exact hhas reason (.inr hmark)

/-- **No answer begins a delivery**, unless it says that something is queued. -/
theorem not_delivers_answer {w : Waiting} {a : Answer} (hmode : m.mode = .ask w)
    (ho : m.outline.Sound) (hm : ¬ m.Delivers) (ha : a ≠ .flag true) : ¬ (m.answer a).Delivers := by
  have hhas : ∀ reason, ¬ m.outline.Has (.delivery reason) :=
    fun reason hmark => hm (.inl ⟨reason, hmark⟩)
  -- asking for the next call would already be a delivery
  have hwaits : ∀ reason, w.drain? ≠ some reason := by
    intro reason hdrain
    refine hm (.inr ⟨w, hmode, ?_⟩)
    rw [hdrain]
    rfl
  cases w with
  | native r => exact (acts_answer hmode fun _ _ => ha).not_delivers ho hhas
  | hookPoll ticket =>
    rw [answer_hookPoll hmode ha]
    exact not_delivers_of_mode hhas fun w hw => nomatch hw
  | drainTake reason => exact absurd rfl (hwaits reason)
  | drainReport reason i error => exact absurd rfl (hwaits reason)

/-! ### Gathered marks -/

/-- A step inside a thread moves no delivery to another one. -/
theorem Calm.gathered (h : Calm o m) (ho : o.Gathered) : m.outline.Gathered := by
  rw [h.outline]
  exact ho

/-- A delivery goes on in the thread that it has begun in. -/
theorem Drains.gathered {reason : DrainReason} (h : Drains reason o m) (ho : o.Gathered) :
    m.outline.Gathered := by
  cases h with
  | waits w hw houtline hmode =>
    rw [houtline]
    exact ho
  | calls houtline hmode =>
    rw [houtline]
    exact ho.marks _

/-- **Deliveries stay together** whatever happens to the threads. -/
theorem Acts.gathered (h : Acts o m) (ho : o.Sound) (hg : o.Gathered) : m.outline.Gathered := by
  -- one lemma for each thing an action may do to the outline
  cases h with
  | calm h => exact h.gathered hg
  | asks r houtline hmode =>
    rw [houtline]
    exact hg
  | ends hcurrent hmarks houtline hended =>
    rw [houtline]
    exact hg
  | switches id kept hid hlt hstatus hkept h => exact h.gathered (hg.switchTo ho hid hlt hstatus)
  | leaves status hstatus hcurrent hmarks h => exact h.gathered (hg.switchBack ho status hcurrent)
  | creates isHooked h => exact h.gathered (hg.create ho isHooked)
  | closes id hid hstatus h => exact h.gathered (hg.close ho hid hstatus)

/-- **Every step keeps the marks gathered.** -/
theorem Shift.gathered (h : Shift m m') (ho : m.outline.Sound) (hg : m.outline.Gathered) :
    m'.outline.Gathered := by
  cases h with
  | acts h => exact h.gathered ho hg
  -- only hooks and marks of the current strand change from here on
  | runs i count polled hruns h => exact h.gathered (hg.counted ho count)
  | polls polled f d rest i hmode hframes hi hcount houtline hasks =>
    rw [houtline]
    exact hg.setHook ho _
  | delivers reason rest hmarks h => exact h.gathered (hg.marks rest)
  | forsakes reason rest hforsaken hmarks h => exact h.gathered (hg.marks rest)
  | returns rest hmarks houtline hended =>
    rw [houtline]
    exact hg.marks rest

/-- **Every answer keeps the marks gathered.** -/
theorem gathered_answer {w : Waiting} (hmode : m.mode = .ask w) (ho : m.outline.Sound)
    (hg : m.outline.Gathered) (a : Answer) : (m.answer a).outline.Gathered := by
  cases answered hmode a with
  | acts hw h => exact h.gathered ho hg
  | drains reason hw h => exact h.gathered hg
  | done hw houtline hgo =>
    rw [houtline]
    exact hg

/-- The marks of an interpreter that has run nothing are gathered. -/
theorem gathered_opened (interval : Nat) : (Machine.opened interval).outline.Gathered := by
  intro a ha
  refine absurd ?_ ha
  rw [strand_opened]
  split
  · rfl
  · rfl

/-- **When a call of the host has ended, no delivery is left** on any stack. -/
theorem not_delivers_of_ended (hm : Sound m) (hg : m.outline.Gathered)
    {result : Except Value (List Value)} (hmode : m.mode = .ended result) : ¬ m.Delivers := by
  obtain ⟨hcurrent, hmarks⟩ := hm.ended hmode
  refine not_delivers_of_mode ?_ fun w hw => nomatch hmode.symm.trans hw
  rintro reason (hmark | ⟨a, hmark⟩)
  · rw [hmarks] at hmark
    cases hmark
  · rw [hg.marks_eq_nil hm.outline hcurrent] at hmark
    cases hmark

end Machine
end RobotSession.Lua
