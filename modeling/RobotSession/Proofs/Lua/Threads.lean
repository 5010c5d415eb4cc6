import Mathlib.Logic.Relation
import RobotSession.Proofs.Lua.Shift

/-!
# Which thread resumed which

One thread runs. It was resumed by another one, which waits for it and was resumed by a
third one, and so on up to the main thread: the threads that wait form a chain, and a
delivery of queued calls is under way if its mark is on one of their stacks.

The chain is kept by every step (`Outline.Sound`): a thread is resumed only while it is
suspended, and then no thread of the chain is touched; and a thread that is left gives way
to the one that resumed it. So a delivery stays under way until its mark is taken away on
top of the stack of the thread that runs (`Outline.Engaged`).

* `Outline.Sound` — the shape of the chain, and where calls of the host stand.
* `Outline.Engaged` — a delivery is under way.
* `Outline.Sound.switchTo`, `Outline.Sound.switchBack` — the chain is kept.
* `Outline.Sound.engaged_switchTo`, `Outline.Sound.engaged_switchBack` — so is a delivery.
-/

namespace RobotSession.Lua

namespace Outline

variable {o : Outline} {a b id : Nat} {reason : DrainReason}

/-! ### Threads of an outline that has changed -/

/-- What stands in an array after one of its entries has been changed. -/
theorem getD_modify {α : Type} (xs : Array α) (i j : Nat) (f : α → α) (d : α) :
    (xs.modify i f).getD j d
      = if i = j ∧ j < xs.size then f (xs.getD j d) else xs.getD j d := by
  rw [Array.getD_eq_getD_getElem?, Array.getD_eq_getD_getElem?, Array.getElem?_modify]
  -- beyond the end, nothing is changed and the default is read
  by_cases hj : j < xs.size
  · rw [Array.getElem?_eq_getElem hj]
    by_cases hi : i = j
    · rw [if_pos hi, if_pos ⟨hi, hj⟩]
      rfl
    · have hij : ¬(i = j ∧ j < xs.size) := fun h => hi h.1
      rw [if_neg hi, if_neg hij]
  · have hij : ¬(i = j ∧ j < xs.size) := fun h => hj h.2
    rw [Array.getElem?_eq_none (Nat.le_of_not_lt hj), if_neg hij]
    split
    · rfl
    · rfl

/-- A field that a change leaves alone. -/
theorem field_modify {α β : Type} (field : α → β) (xs : Array α) (i j : Nat) (f : α → α) (d : α)
    (hf : ∀ x, field (f x) = field x) :
    field ((xs.modify i f).getD j d) = field (xs.getD j d) := by
  rw [getD_modify]
  split
  · exact hf _
  · rfl

/-- A hook makes no thread. -/
@[simp]
theorem size_setHook (hook : Option Nat) : (o.setHook hook).strands.size = o.strands.size :=
  Array.size_modify ..

/-- Nor does it make one to switch to another. -/
@[simp]
theorem size_switchTo (id : Nat) (kept : List Mark) :
    (o.switchTo id kept).strands.size = o.strands.size :=
  (Array.size_modify ..).trans (Array.size_modify ..)

/-- Nor to switch back. -/
@[simp]
theorem size_switchBack (status : ThreadStatus) :
    (o.switchBack status).strands.size = o.strands.size :=
  (Array.size_modify ..).trans (Array.size_modify ..)

/-- A thread that is closed keeps its number. -/
@[simp]
theorem size_close (id : Nat) : (o.close id).strands.size = o.strands.size :=
  Array.size_modify ..

/-- A new thread has a number of its own. -/
@[simp]
theorem size_create (isHooked : Bool) : (o.create isHooked).strands.size = o.strands.size + 1 :=
  Array.size_push _

/-- A thread that is no dead one is there. -/
theorem lt_of_status (h : (o.strand a).status ≠ .dead) : a < o.strands.size := by
  refine Nat.lt_of_not_le fun hle => h ?_
  unfold strand
  rw [Array.getD_eq_getD_getElem?, Array.getElem?_eq_none hle]
  rfl

/-- A hook is set on the thread that runs. -/
theorem strand_setHook (hook : Option Nat) (ha : a < o.strands.size) :
    (o.setHook hook).strand a
      = if a = o.current then { o.strand a with hook } else o.strand a := by
  unfold strand setHook
  rw [getD_modify]
  by_cases h : a = o.current
  · rw [if_pos h, if_pos ⟨h.symm, ha⟩]
  · rw [if_neg h, if_neg fun h' => h h'.1.symm]

section Switch

variable {kept : List Mark} {status : ThreadStatus}

/-- The thread that is resumed runs, and knows who has resumed it. -/
theorem strand_switchTo_self (kept : List Mark) (hlt : id < o.strands.size) (hid : id ≠ o.current) :
    (o.switchTo id kept).strand id
      = { o.strand id with status := .running, marks := [], resumer := some o.current } := by
  unfold switchTo strand
  rw [getD_modify, getD_modify, Array.size_modify, if_pos ⟨rfl, hlt⟩,
    if_neg fun h => hid h.1.symm]

/-- The thread that has resumed it waits with its frames. -/
theorem strand_switchTo_current (kept : List Mark) (hlt : o.current < o.strands.size)
    (hid : id ≠ o.current) :
    (o.switchTo id kept).strand o.current
      = { o.strand o.current with status := .normal, marks := o.marks } := by
  unfold switchTo strand
  rw [getD_modify, getD_modify, if_neg fun h => hid h.1, if_pos ⟨rfl, hlt⟩]

/-- The others stay as they are. -/
theorem strand_switchTo_of_ne (ha : a ≠ id) (hcurrent : a ≠ o.current) :
    (o.switchTo id kept).strand a = o.strand a := by
  unfold switchTo strand
  rw [getD_modify, getD_modify, if_neg fun h => ha h.1.symm, if_neg fun h => hcurrent h.1.symm]

/-- The thread that is left has no frames any more, or has put them aside. -/
theorem strand_switchBack_current (status : ThreadStatus) (hlt : o.current < o.strands.size)
    (hid : o.resumer ≠ o.current) :
    (o.switchBack status).strand o.current
      = { o.strand o.current with status, marks := [], resumer := none } := by
  unfold switchBack strand
  rw [getD_modify, getD_modify, if_neg fun h => hid h.1, if_pos ⟨rfl, hlt⟩]

/-- The thread that has resumed it runs again. -/
theorem strand_switchBack_resumer (status : ThreadStatus) (hlt : o.resumer < o.strands.size)
    (hid : o.resumer ≠ o.current) :
    (o.switchBack status).strand o.resumer
      = { o.strand o.resumer with status := .running, marks := [] } := by
  unfold switchBack strand
  rw [getD_modify, getD_modify, Array.size_modify, if_pos ⟨rfl, hlt⟩,
    if_neg fun h => hid h.1.symm]

/-- The others stay as they are. -/
theorem strand_switchBack_of_ne (ha : a ≠ o.resumer) (hcurrent : a ≠ o.current) :
    (o.switchBack status).strand a = o.strand a := by
  unfold switchBack strand
  rw [getD_modify, getD_modify, if_neg fun h => ha h.1.symm, if_neg fun h => hcurrent h.1.symm]

end Switch

/-- So they do when a thread is created. -/
theorem strand_create_of_lt (isHooked : Bool) (ha : a < o.strands.size) :
    (o.create isHooked).strand a = o.strand a := by
  unfold create strand
  rw [Array.getD_eq_getD_getElem?, Array.getElem?_push_lt ha, Array.getD_eq_getD_getElem?,
    Array.getElem?_eq_getElem ha]

/-- The new thread is suspended, with the hook if it is to have one. -/
theorem strand_create_self (isHooked : Bool) :
    (o.create isHooked).strand o.strands.size
      = { status := .suspended, hook := if isHooked then o.interval else none } := by
  unfold create strand
  rw [Array.getD_eq_getD_getElem?, Array.getElem?_push_size]
  rfl

/-- A closed thread is dead, and has no frames. -/
theorem strand_close_self (hlt : id < o.strands.size) :
    (o.close id).strand id = { o.strand id with status := .dead, marks := [] } := by
  unfold close strand
  rw [getD_modify, if_pos ⟨rfl, hlt⟩]

/-- The others stay as they are. -/
theorem strand_close_of_ne (ha : a ≠ id) : (o.close id).strand a = o.strand a := by
  unfold close strand
  rw [getD_modify, if_neg fun h => ha h.1.symm]

/-! ### The chain -/

/-- **Calls of the host stand at the bottom** of the main thread's stack. -/
def Stacked (isMain : Prop) (s : List Mark) : Prop :=
  ∀ above below, s = above ++ .host :: below → below = [] ∧ isMain

/-- Nothing is on top of nothing. -/
theorem stacked_nil (isMain : Prop) : Stacked isMain [] := by
  intro above below h
  exact absurd h (by simp)

/-- On the main thread the call of the host is at the bottom. -/
theorem stacked_host {isMain : Prop} (h : isMain) : Stacked isMain [.host] := by
  intro above below heq
  cases above with
  | nil => exact ⟨(List.cons.inj heq).2.symm, h⟩
  | cons x rest => exact absurd (List.cons.inj heq).2 (by simp)

/-- What is below stays in order. -/
theorem Stacked.tail {isMain : Prop} {x : Mark} {s : List Mark} (h : Stacked isMain (x :: s)) :
    Stacked isMain s := by
  intro above below heq
  exact h (x :: above) below (by rw [heq]; rfl)

/-- A delivery may come on top of anything. -/
theorem Stacked.cons {isMain : Prop} {s : List Mark} (h : Stacked isMain s)
    (reason : DrainReason) : Stacked isMain (.delivery reason :: s) := by
  intro above below heq
  cases above with
  | nil => exact absurd (List.cons.inj heq).1 Mark.noConfusion
  | cons x rest => exact h rest below (List.cons.inj heq).2

/-- **The shape of the chain** of threads that wait for one another. -/
structure Sound (o : Outline) : Prop where
  current_lt : o.current < o.strands.size
  owner_lt : o.owner < o.strands.size
  running : (o.strand o.current).status = .running
  /-- Who has resumed a thread waits for it. -/
  normal : ∀ {a b}, (o.strand a).resumer = some b → (o.strand b).status = .normal
  /-- A thread waits for one thread only. -/
  unique : ∀ {a a' b}, (o.strand a).resumer = some b → (o.strand a').resumer = some b → a = a'
  /-- A thread that has been resumed has a resumer, the main thread aside. -/
  resumed : ∀ {a}, a ≠ 0 → (o.strand a).status = .running ∨ (o.strand a).status = .normal →
    ∃ b, (o.strand a).resumer = some b
  main : (o.strand 0).status = .running ∨ (o.strand 0).status = .normal
  main_resumer : (o.strand 0).resumer = none
  stacked : Stacked (o.current = 0) o.marks
  stacked_strand : ∀ a, Stacked (a = 0) (o.strand a).marks

namespace Sound

/-- Marks may come and go, as long as calls of the host stay at the bottom. -/
theorem marks (h : Sound o) {s : List Mark} (hs : Stacked (o.current = 0) s) :
    Sound { o with marks := s } :=
  { h with stacked := hs }

/-- The count of a thread does not matter. -/
theorem of_strand_eq {o' : Outline} (h : Sound o) (hsize : o'.strands.size = o.strands.size)
    (hcurrent : o'.current = o.current) (howner : o'.owner = o.owner) (hmarks : o'.marks = o.marks)
    (hstatus : ∀ a, (o'.strand a).status = (o.strand a).status)
    (hresumer : ∀ a, (o'.strand a).resumer = (o.strand a).resumer)
    (hstrand : ∀ a, (o'.strand a).marks = (o.strand a).marks) : Sound o' where
  -- each clause reads statuses, resumers and marks, all of which are the same
  current_lt := by
    rw [hcurrent, hsize]
    exact h.current_lt
  owner_lt := by
    rw [howner, hsize]
    exact h.owner_lt
  running := by
    rw [hcurrent, hstatus]
    exact h.running
  normal := by
    intro a b hab
    rw [hresumer] at hab
    rw [hstatus]
    exact h.normal hab
  unique := by
    intro a a' b hab hab'
    rw [hresumer] at hab hab'
    exact h.unique hab hab'
  resumed := by
    intro a ha hlive
    rw [hstatus] at hlive
    rw [hresumer]
    exact h.resumed ha hlive
  main := by
    rw [hstatus]
    exact h.main
  main_resumer := by
    rw [hresumer]
    exact h.main_resumer
  stacked := by
    rw [hcurrent, hmarks]
    exact h.stacked
  stacked_strand := by
    intro a
    rw [hstrand]
    exact h.stacked_strand a

/-- Hooks do not matter for who waits for whom. -/
theorem setHook (h : Sound o) (hook : Option Nat) : Sound (o.setHook hook) := by
  refine h.of_strand_eq (size_setHook hook) rfl rfl rfl ?_ ?_ ?_
  · exact fun a => field_modify Strand.status _ _ _ _ _ fun _ => rfl
  · exact fun a => field_modify Strand.resumer _ _ _ _ _ fun _ => rfl
  · exact fun a => field_modify Strand.marks _ _ _ _ _ fun _ => rfl

/-- Nor does it matter that instructions are counted. -/
theorem counted (h : Sound o) (c : Machine.Count) : Sound (o.counted c) := by
  cases c with
  | countDown left => exact h.setHook _
  | remove => exact h.setHook _
  | go => exact h
  | poll => exact h

/-- A thread that waits is not the one that runs. -/
theorem ne_current_of_normal (h : Sound o) (ha : (o.strand a).status = .normal) :
    a ≠ o.current := by
  intro heq
  rw [heq, h.running] at ha
  cases ha

/-- A thread that can be resumed or closed is neither the main thread nor waits. -/
theorem ne_of_idle (h : Sound o)
    (hid : (o.strand id).status = .suspended ∨ (o.strand id).status = .dead) : id ≠ 0 := by
  intro heq
  rw [heq] at hid
  rcases h.main with hmain | hmain <;> rcases hid with hid | hid <;> rw [hmain] at hid <;> cases hid

/-- A thread that waits for another one is not one that could be resumed. -/
theorem ne_of_normal_of_idle
    (hid : (o.strand id).status = .suspended ∨ (o.strand id).status = .dead)
    (ha : (o.strand a).status = .normal) : a ≠ id := by
  intro heq
  rw [heq] at ha
  rcases hid with hid | hid <;> rw [ha] at hid <;> cases hid

/-- **Another thread is resumed**, which nobody waits for yet. -/
theorem switchTo (h : Sound o) {kept : List Mark} (hid : id ≠ o.current)
    (hlt : id < o.strands.size)
    (hstatus : (o.strand id).status = .suspended ∨ (o.strand id).status = .dead)
    (hkept : kept = (o.strand id).marks ∨ kept = []) : Sound (o.switchTo id kept) := by
  have hne := h.ne_of_idle hstatus
  have hself := strand_switchTo_self kept hlt hid
  have hcurrent := strand_switchTo_current kept h.current_lt hid
  have hother : ∀ a, a ≠ id → a ≠ o.current → (o.switchTo id kept).strand a = o.strand a :=
    fun a => strand_switchTo_of_ne
  -- only the thread that is resumed has another resumer than before
  have hresumer : ∀ {a b}, ((o.switchTo id kept).strand a).resumer = some b →
      (a = id ∧ b = o.current) ∨ (a ≠ id ∧ (o.strand a).resumer = some b) := by
    intro a b hab
    by_cases ha : a = id
    · rw [ha, hself] at hab
      exact .inl ⟨ha, (Option.some.inj hab).symm⟩
    · refine .inr ⟨ha, ?_⟩
      by_cases hcur : a = o.current
      · rw [hcur, hcurrent] at hab
        rw [hcur]
        exact hab
      · rw [hother a ha hcur] at hab
        exact hab
  refine
    { current_lt := ?current_lt, owner_lt := ?owner_lt, running := ?running, normal := ?normal
      unique := ?unique, resumed := ?resumed, main := ?main, main_resumer := ?main_resumer
      stacked := ?stacked, stacked_strand := ?stacked_strand }
  case current_lt =>
    change id < (o.switchTo id kept).strands.size
    rw [size_switchTo]
    exact hlt
  case owner_lt =>
    change o.owner < ((o.strands.modify _ _).modify _ _).size
    rw [Array.size_modify, Array.size_modify]
    exact h.owner_lt
  case running =>
    change ((o.switchTo id kept).strand id).status = .running
    rw [hself]
  case normal =>
    intro a b hab
    rcases hresumer hab with ⟨-, rfl⟩ | ⟨-, hold⟩
    · rw [hcurrent]
    · -- a thread that waited before is neither the one that is resumed nor the one that ran
      have hb := h.normal hold
      rw [hother b (ne_of_normal_of_idle hstatus hb) (h.ne_current_of_normal hb)]
      exact hb
  case unique =>
    intro a a' b hab hab'
    -- the thread that ran had resumed no other one, since it did not wait
    rcases hresumer hab with ⟨ha, hb⟩ | ⟨-, hold⟩
    · rcases hresumer hab' with ⟨ha', -⟩ | ⟨-, hold'⟩
      · rw [ha, ha']
      · exact absurd hb (h.ne_current_of_normal (h.normal hold'))
    · rcases hresumer hab' with ⟨-, hb'⟩ | ⟨-, hold'⟩
      · exact absurd hb' (h.ne_current_of_normal (h.normal hold))
      · exact h.unique hold hold'
  case resumed =>
    intro a ha hlive
    by_cases haid : a = id
    · rw [haid, hself]
      exact ⟨_, rfl⟩
    · by_cases hcur : a = o.current
      · rw [hcur, hcurrent]
        exact h.resumed (by rw [← hcur]; exact ha) (.inl h.running)
      · rw [hother a haid hcur] at hlive ⊢
        exact h.resumed ha hlive
  case main =>
    by_cases hcur : 0 = o.current
    · rw [hcur, hcurrent]
      exact .inr rfl
    · rw [hother 0 hne.symm hcur]
      exact h.main
  case main_resumer =>
    by_cases hcur : 0 = o.current
    · have hmain := h.main_resumer
      rw [hcur] at hmain ⊢
      rw [hcurrent]
      exact hmain
    · rw [hother 0 hne.symm hcur]
      exact h.main_resumer
  case stacked =>
    -- the stack of the thread that is resumed is as it was left, or has been cut to nothing
    change Stacked (id = 0) kept
    rcases hkept with rfl | rfl
    · exact h.stacked_strand id
    · exact stacked_nil _
  case stacked_strand =>
    intro a
    by_cases haid : a = id
    · rw [haid, hself]
      exact stacked_nil _
    · by_cases hcur : a = o.current
      · rw [hcur, hcurrent]
        exact h.stacked
      · rw [hother a haid hcur]
        exact h.stacked_strand a

/-- The thread that runs was resumed by the one that goes on when it is left. -/
theorem resumer_eq (h : Sound o) (hcurrent : o.current ≠ 0) :
    (o.strand o.current).resumer = some o.resumer := by
  obtain ⟨b, hb⟩ := h.resumed hcurrent (.inl h.running)
  unfold resumer
  rw [hb]
  rfl

/-- **A thread goes back** to the one that has resumed it. -/
theorem switchBack (h : Sound o) {status : ThreadStatus} (hcurrent : o.current ≠ 0)
    (hstatus : status = .suspended ∨ status = .dead) : Sound (o.switchBack status) := by
  have hres := h.resumer_eq hcurrent
  have hnormal := h.normal hres
  have hne := h.ne_current_of_normal hnormal
  have hlt : o.resumer < o.strands.size := lt_of_status (by rw [hnormal]; exact nofun)
  have hleft := strand_switchBack_current status h.current_lt hne
  have hback := strand_switchBack_resumer status hlt hne
  have hother : ∀ a, a ≠ o.resumer → a ≠ o.current →
      (o.switchBack status).strand a = o.strand a := fun a => strand_switchBack_of_ne
  -- the thread that is left has no resumer any more, all others keep theirs
  have hresumer : ∀ {a}, a ≠ o.current →
      ((o.switchBack status).strand a).resumer = (o.strand a).resumer := by
    intro a ha
    by_cases har : a = o.resumer
    · rw [har, hback]
    · rw [hother a har ha]
  have hold : ∀ {a b}, ((o.switchBack status).strand a).resumer = some b →
      a ≠ o.current ∧ (o.strand a).resumer = some b := by
    intro a b hab
    by_cases ha : a = o.current
    · rw [ha, hleft] at hab
      cases hab
    · rw [hresumer ha] at hab
      exact ⟨ha, hab⟩
  refine
    { current_lt := ?current_lt, owner_lt := ?owner_lt, running := ?running, normal := ?normal
      unique := ?unique, resumed := ?resumed, main := ?main, main_resumer := ?main_resumer
      stacked := ?stacked, stacked_strand := ?stacked_strand }
  case current_lt =>
    change o.resumer < (o.switchBack status).strands.size
    rw [size_switchBack]
    exact hlt
  case owner_lt =>
    change o.owner < ((o.strands.modify _ _).modify _ _).size
    rw [Array.size_modify, Array.size_modify]
    exact h.owner_lt
  case running =>
    change ((o.switchBack status).strand o.resumer).status = .running
    rw [hback]
  case normal =>
    intro a b hab
    obtain ⟨ha, hab⟩ := hold hab
    have hb := h.normal hab
    -- the thread that goes on waited for the one that is left, and for no other one
    have hbr : b ≠ o.resumer := by
      intro heq
      rw [heq] at hab
      exact ha (h.unique hab hres)
    rw [hother b hbr (h.ne_current_of_normal hb)]
    exact hb
  case unique =>
    intro a a' b hab hab'
    exact h.unique (hold hab).2 (hold hab').2
  case resumed =>
    intro a ha hlive
    -- the thread that is left is suspended or dead now
    have hac : a ≠ o.current := by
      intro heq
      rw [heq, hleft] at hlive
      rcases hstatus with rfl | rfl <;> rcases hlive with hlive | hlive <;> cases hlive
    rw [hresumer hac]
    by_cases har : a = o.resumer
    · rw [har]
      exact h.resumed (by rw [← har]; exact ha) (.inr hnormal)
    · rw [hother a har hac] at hlive
      exact h.resumed ha hlive
  case main =>
    by_cases h0 : 0 = o.resumer
    · rw [h0, hback]
      exact .inl rfl
    · rw [hother 0 h0 hcurrent.symm]
      exact h.main
  case main_resumer =>
    rw [hresumer hcurrent.symm]
    exact h.main_resumer
  case stacked =>
    exact h.stacked_strand o.resumer
  case stacked_strand =>
    intro a
    by_cases hac : a = o.current
    · rw [hac, hleft]
      exact stacked_nil _
    · by_cases har : a = o.resumer
      · rw [har, hback]
        exact stacked_nil _
      · rw [hother a har hac]
        exact h.stacked_strand a

/-- A thread that does not run is closed. -/
theorem close (h : Sound o) (hid : id ≠ o.current)
    (hstatus : (o.strand id).status = .suspended ∨ (o.strand id).status = .dead) :
    Sound (o.close id) := by
  have hne := h.ne_of_idle hstatus
  have hother : ∀ a, a ≠ id → (o.close id).strand a = o.strand a := fun a => strand_close_of_ne
  have hresumer : ∀ a, ((o.close id).strand a).resumer = (o.strand a).resumer :=
    fun a => field_modify Strand.resumer _ _ _ _ _ fun _ => rfl
  refine
    { current_lt := ?current_lt, owner_lt := ?owner_lt, running := ?running, normal := ?normal
      unique := ?unique, resumed := ?resumed, main := ?main, main_resumer := ?main_resumer
      stacked := h.stacked, stacked_strand := ?stacked_strand }
  case current_lt =>
    rw [size_close]
    exact h.current_lt
  case owner_lt =>
    rw [size_close]
    exact h.owner_lt
  case running =>
    change ((o.close id).strand o.current).status = .running
    rw [hother _ hid.symm]
    exact h.running
  case normal =>
    intro a b hab
    rw [hresumer] at hab
    have hb := h.normal hab
    rw [hother b (ne_of_normal_of_idle hstatus hb)]
    exact hb
  case unique =>
    intro a a' b hab hab'
    rw [hresumer] at hab hab'
    exact h.unique hab hab'
  case resumed =>
    intro a ha hlive
    -- a thread that is closed was not in the chain, and is not in it now
    have haid : a ≠ id := by
      intro heq
      by_cases hlt : id < o.strands.size
      · rw [heq, strand_close_self hlt] at hlive
        rcases hlive with hlive | hlive <;> cases hlive
      · have hdead : (o.close id).strand id = o.strand id := by
          unfold strand Outline.close
          rw [getD_modify, if_neg fun hand => hlt hand.2]
        rw [heq, hdead] at hlive
        rcases hstatus with hstatus | hstatus <;> rw [hstatus] at hlive <;>
          rcases hlive with hlive | hlive <;> cases hlive
    rw [hresumer]
    rw [hother a haid] at hlive
    exact h.resumed ha hlive
  case main =>
    rw [hother 0 hne.symm]
    exact h.main
  case main_resumer =>
    rw [hresumer]
    exact h.main_resumer
  case stacked_strand =>
    intro a
    unfold strand Outline.close
    rw [getD_modify]
    split
    · exact stacked_nil _
    · exact h.stacked_strand a

/-- A thread that nobody has resumed is added. -/
theorem create (h : Sound o) (isHooked : Bool) : Sound (o.create isHooked) := by
  have hself := strand_create_self (o := o) isHooked
  have hold : ∀ a, a < o.strands.size → (o.create isHooked).strand a = o.strand a :=
    fun a => strand_create_of_lt isHooked
  have hpos : 0 < o.strands.size := Nat.lt_of_le_of_lt (Nat.zero_le _) h.current_lt
  -- each thread is an old one, or the new one, which nobody has resumed yet
  have hnew : ∀ a, (o.create isHooked).strand a = o.strand a
      ∨ (a = o.strands.size ∧ ((o.create isHooked).strand a).resumer = none
        ∧ ((o.create isHooked).strand a).status = .suspended
        ∧ ((o.create isHooked).strand a).marks = []) := by
    intro a
    rcases Nat.lt_trichotomy a o.strands.size with hlt | heq | hgt
    · exact .inl (hold a hlt)
    · refine .inr ⟨heq, ?_⟩
      rw [heq, hself]
      exact ⟨rfl, rfl, rfl⟩
    · refine .inl ?_
      unfold strand
      rw [Array.getD_eq_getD_getElem?, Array.getD_eq_getD_getElem?,
        Array.getElem?_eq_none (by rw [size_create]; exact hgt),
        Array.getElem?_eq_none (Nat.le_of_lt hgt)]
  have hresumer : ∀ {a b}, ((o.create isHooked).strand a).resumer = some b →
      (o.strand a).resumer = some b := by
    intro a b hab
    rcases hnew a with ha | ⟨-, ha, -⟩
    · rw [ha] at hab
      exact hab
    · rw [ha] at hab
      cases hab
  refine
    { current_lt := ?current_lt, owner_lt := ?owner_lt, running := ?running, normal := ?normal
      unique := ?unique, resumed := ?resumed, main := ?main, main_resumer := ?main_resumer
      stacked := h.stacked, stacked_strand := ?stacked_strand }
  case current_lt =>
    rw [size_create]
    exact Nat.lt_succ_of_lt h.current_lt
  case owner_lt =>
    -- a thread that is hooked takes the hook over
    rw [size_create]
    cases isHooked with
    | true => exact Nat.lt_succ_self _
    | false => exact Nat.lt_succ_of_lt h.owner_lt
  case running =>
    change ((o.create isHooked).strand o.current).status = .running
    rw [hold _ h.current_lt]
    exact h.running
  case normal =>
    intro a b hab
    have hb := h.normal (hresumer hab)
    rw [hold b (lt_of_status (by rw [hb]; exact nofun))]
    exact hb
  case unique =>
    intro a a' b hab hab'
    exact h.unique (hresumer hab) (hresumer hab')
  case resumed =>
    intro a ha hlive
    rcases hnew a with hsame | ⟨-, -, hstatus, -⟩
    · rw [hsame] at hlive ⊢
      exact h.resumed ha hlive
    · rw [hstatus] at hlive
      rcases hlive with hlive | hlive <;> cases hlive
  case main =>
    rw [hold 0 hpos]
    exact h.main
  case main_resumer =>
    rw [hold 0 hpos]
    exact h.main_resumer
  case stacked_strand =>
    intro a
    rcases hnew a with hsame | ⟨-, -, -, hmarks⟩
    · rw [hsame]
      exact h.stacked_strand a
    · rw [hmarks]
      exact stacked_nil _

end Sound

/-! ### Deliveries under way -/

/-- A thread was resumed by another one. -/
def Resumed (o : Outline) (a b : Nat) : Prop :=
  (o.strand a).resumer = some b

/-- **A delivery is under way**: its mark is on the stack of the thread that runs, or of one
that waits for it. -/
def Engaged (o : Outline) (reason : DrainReason) : Prop :=
  .delivery reason ∈ o.marks
    ∨ ∃ q, Relation.TransGen o.Resumed o.current q ∧ .delivery reason ∈ (o.strand q).marks

namespace Sound

/-- Whoever waits for another thread, at any distance, is in the status of one that waits. -/
theorem normal_of_transGen (h : Sound o) (hab : Relation.TransGen o.Resumed a b) :
    (o.strand b).status = .normal := by
  cases hab with
  | single hab => exact h.normal hab
  | tail _ hab => exact h.normal hab

/-- A chain of which no link has changed is there still. -/
theorem transGen_congr {o' : Outline} (h : Sound o)
    (hstart : (o'.strand a).resumer = (o.strand a).resumer)
    (hkept : ∀ c, (o.strand c).status = .normal → (o'.strand c).resumer = (o.strand c).resumer)
    (hab : Relation.TransGen o.Resumed a b) : Relation.TransGen o'.Resumed a b := by
  -- along the chain: each thread after the first one waits, so its link is kept
  induction hab with
  | single hab =>
    refine .single ?_
    unfold Resumed
    rw [hstart]
    exact hab
  | tail hac hcb ih =>
    refine .tail ih ?_
    unfold Resumed
    rw [hkept _ (h.normal_of_transGen hac)]
    exact hcb

/-- A delivery goes on while no thread of the chain is touched. -/
theorem engaged_congr {o' : Outline} (h : Sound o) (hcurrent : o'.current = o.current)
    (hmarks : o'.marks = o.marks)
    (hstart : (o'.strand o.current).resumer = (o.strand o.current).resumer)
    (hkept : ∀ c, (o.strand c).status = .normal →
      (o'.strand c).resumer = (o.strand c).resumer ∧ (o'.strand c).marks = (o.strand c).marks)
    (he : o.Engaged reason) : o'.Engaged reason := by
  -- the mark stands on the current strand, or further down the chain of those who resumed it
  rcases he with hmark | ⟨q, hq, hmark⟩
  · refine .inl ?_
    rw [hmarks]
    exact hmark
  · refine .inr ⟨q, ?_, ?_⟩
    · rw [hcurrent]
      exact h.transGen_congr hstart (fun c hc => (hkept c hc).1) hq
    · rw [(hkept q (h.normal_of_transGen hq)).2]
      exact hmark

/-- A delivery goes on below a hook. -/
theorem engaged_setHook (h : Sound o) (hook : Option Nat) (he : o.Engaged reason) :
    (o.setHook hook).Engaged reason := by
  have hstrand : ∀ a, ((o.setHook hook).strand a).resumer = (o.strand a).resumer
      ∧ ((o.setHook hook).strand a).marks = (o.strand a).marks := fun a =>
    ⟨field_modify Strand.resumer _ _ _ _ _ fun _ => rfl,
      field_modify Strand.marks _ _ _ _ _ fun _ => rfl⟩
  exact h.engaged_congr rfl rfl (hstrand _).1 (fun c _ => hstrand c) he

/-- So it does while instructions are counted. -/
theorem engaged_counted (h : Sound o) (c : Machine.Count) (he : o.Engaged reason) :
    (o.counted c).Engaged reason := by
  cases c with
  | countDown left => exact h.engaged_setHook _ he
  | remove => exact h.engaged_setHook _ he
  | go => exact he
  | poll => exact he

/-- So it does when a thread is created. -/
theorem engaged_create (h : Sound o) (isHooked : Bool) (he : o.Engaged reason) :
    (o.create isHooked).Engaged reason := by
  refine h.engaged_congr rfl rfl ?_ ?_ he
  · rw [strand_create_of_lt isHooked h.current_lt]
  · intro c hc
    rw [strand_create_of_lt isHooked (lt_of_status (by rw [hc]; exact nofun))]
    exact ⟨rfl, rfl⟩

/-- So it does when one is closed that is not in the way. -/
theorem engaged_close (h : Sound o) (hid : id ≠ o.current)
    (hstatus : (o.strand id).status = .suspended ∨ (o.strand id).status = .dead)
    (he : o.Engaged reason) : (o.close id).Engaged reason := by
  refine h.engaged_congr rfl rfl ?_ ?_ he
  · rw [strand_close_of_ne hid.symm]
  · intro c hc
    rw [strand_close_of_ne (ne_of_normal_of_idle hstatus hc)]
    exact ⟨rfl, rfl⟩

/-- **The chain becomes longer by one link** when a thread is resumed. -/
theorem chain_switchTo (h : Sound o) (kept : List Mark) (hid : id ≠ o.current)
    (hlt : id < o.strands.size)
    (hstatus : (o.strand id).status = .suspended ∨ (o.strand id).status = .dead) :
    (o.switchTo id kept).Resumed id o.current
      ∧ ∀ {q}, Relation.TransGen o.Resumed o.current q →
        Relation.TransGen (o.switchTo id kept).Resumed id q := by
  -- the chain grows by one link at its front
  have hlink : (o.switchTo id kept).Resumed id o.current := by
    unfold Resumed
    rw [strand_switchTo_self kept hlt hid]
  refine ⟨hlink, fun hq => .head hlink (h.transGen_congr ?_ ?_ hq)⟩
  · rw [strand_switchTo_current kept h.current_lt hid]
  · intro c hc
    rw [strand_switchTo_of_ne (ne_of_normal_of_idle hstatus hc) (h.ne_current_of_normal hc)]

/-- **A delivery goes on in the thread that is resumed.** -/
theorem engaged_switchTo (h : Sound o) {kept : List Mark} (hid : id ≠ o.current)
    (hlt : id < o.strands.size)
    (hstatus : (o.strand id).status = .suspended ∨ (o.strand id).status = .dead)
    (he : o.Engaged reason) : (o.switchTo id kept).Engaged reason := by
  obtain ⟨hlink, hchain⟩ := h.chain_switchTo kept hid hlt hstatus
  rcases he with hmark | ⟨q, hq, hmark⟩
  · -- the mark was on the stack, and is on the stack of the thread that waits now
    refine .inr ⟨o.current, .single hlink, ?_⟩
    rw [strand_switchTo_current kept h.current_lt hid]
    exact hmark
  · have hqn := h.normal_of_transGen hq
    refine .inr ⟨q, hchain hq, ?_⟩
    rw [strand_switchTo_of_ne (ne_of_normal_of_idle hstatus hqn) (h.ne_current_of_normal hqn)]
    exact hmark

/-- The thread that goes on when the current one is left does not wait for itself. -/
theorem not_transGen_resumer (h : Sound o) (hcurrent : o.current ≠ 0) :
    ¬ Relation.TransGen o.Resumed o.resumer o.resumer := by
  intro hcycle
  -- it would have been resumed by the thread that runs, which would have to wait, too
  have hres := h.resumer_eq hcurrent
  obtain ⟨c, hc, hlast⟩ := Relation.TransGen.tail'_iff.mp hcycle
  have hcc : c = o.current := h.unique hlast hres
  rcases Relation.reflTransGen_iff_eq_or_transGen.mp hc with heq | hc
  · exact h.ne_current_of_normal (h.normal hres) (heq.symm.trans hcc)
  · exact h.ne_current_of_normal (h.normal_of_transGen hc) hcc

/-- **The chain loses its first link** when a thread is left. -/
theorem chain_switchBack (h : Sound o) (status : ThreadStatus) (hcurrent : o.current ≠ 0) {q : Nat}
    (hq : Relation.TransGen o.Resumed o.current q) :
    q = o.resumer ∨ q ≠ o.resumer ∧ Relation.TransGen (o.switchBack status).Resumed o.resumer q := by
  have hres := h.resumer_eq hcurrent
  have hne := h.ne_current_of_normal (h.normal hres)
  have hlt : o.resumer < o.strands.size :=
    lt_of_status (by rw [h.normal hres]; exact nofun)
  -- only the link of the thread that is left is cut
  have hresumer : ∀ {c}, c ≠ o.current →
      ((o.switchBack status).strand c).resumer = (o.strand c).resumer := by
    intro c hc
    by_cases hcr : c = o.resumer
    · rw [hcr, strand_switchBack_resumer status hlt hne]
    · rw [strand_switchBack_of_ne hcr hc]
  obtain ⟨b, hb, hbq⟩ := Relation.TransGen.head'_iff.mp hq
  obtain rfl : b = o.resumer := Option.some.inj (hb.symm.trans hres)
  -- the chain begins with that link, and goes on from the resumer
  rcases Relation.reflTransGen_iff_eq_or_transGen.mp hbq with rfl | hchain
  · exact .inl rfl
  · refine .inr ⟨fun heq => ?_, ?_⟩
    · exact h.not_transGen_resumer hcurrent (heq ▸ hchain)
    · exact h.transGen_congr (hresumer hne) (fun c hc => hresumer (h.ne_current_of_normal hc)) hchain

/-- **A delivery goes on in the thread that resumed** the one that is left. -/
theorem engaged_switchBack (h : Sound o) {status : ThreadStatus} (hcurrent : o.current ≠ 0)
    (hmarks : o.marks = []) (he : o.Engaged reason) : (o.switchBack status).Engaged reason := by
  rcases he with hmark | ⟨q, hq, hmark⟩
  · rw [hmarks] at hmark
    cases hmark
  · rcases h.chain_switchBack status hcurrent hq with rfl | ⟨hqr, hchain⟩
    · exact .inl hmark
    · refine .inr ⟨q, hchain, ?_⟩
      rw [strand_switchBack_of_ne hqr (h.ne_current_of_normal (h.normal_of_transGen hq))]
      exact hmark

/-- No delivery is under way while the main thread runs, unless its mark is on the stack. -/
theorem not_engaged (h : Sound o) (hcurrent : o.current = 0) (hmarks : .delivery reason ∉ o.marks) :
    ¬o.Engaged reason := by
  rintro (hmark | ⟨q, hq, -⟩)
  · exact hmarks hmark
  · obtain ⟨b, hb, -⟩ := Relation.TransGen.head'_iff.mp hq
    have hmain := h.main_resumer
    rw [hcurrent] at hb
    unfold Resumed at hb
    rw [hmain] at hb
    cases hb

end Sound

/-- Marks that are added change nothing about a delivery that is under way. -/
theorem Engaged.mono {s : List Mark} (he : o.Engaged reason) (hs : ∀ x ∈ o.marks, x ∈ s) :
    Engaged { o with marks := s } reason := by
  rcases he with hmark | hchain
  · exact .inl (hs _ hmark)
  · exact .inr hchain

end Outline

/-! ### Interpreters -/

namespace Machine

variable {m m' : Machine} {reason : DrainReason}

/-- **An interpreter in order**: its threads form a chain, and between two calls of the host
nothing is left of it. -/
structure Sound (m : Machine) : Prop where
  outline : m.outline.Sound
  ended : ∀ {result}, m.mode = .ended result → m.outline.current = 0 ∧ m.outline.marks = []
  /-- The hook runs for its owner only. -/
  poll : ∀ {ticket}, m.mode = .ask (.hookPoll ticket) → m.hookOwner = m.current

/-- A step inside a thread does not end the host's call. -/
theorem Calm.not_ended {o : Outline} (h : Calm o m) {result : Except Value (List Value)} :
    m.mode ≠ .ended result := by
  intro hmode
  have hcalm := h.mode
  rw [hmode] at hcalm
  cases hcalm

/-- **A step inside a thread** leaves the threads as they are. -/
theorem Calm.sound {o : Outline} (h : Calm o m) (ho : o.Sound) : Sound m where
  outline := h.outline ▸ ho
  ended := fun hmode => absurd hmode h.not_ended
  poll := by
    intro ticket hmode
    have hcalm := h.mode
    rw [hmode] at hcalm
    cases hcalm

/-- So does a delivery that goes on. -/
theorem Drains.sound {o : Outline} (h : Drains reason o m) (ho : o.Sound) : Sound m := by
  cases h with
  | waits w hw houtline hmode =>
    refine ⟨houtline ▸ ho, fun hended => ?_, fun hpoll => ?_⟩
    · rw [hmode] at hended
      cases hended
    · -- what waits in a delivery is not a hook that reads the flag
      rw [hmode] at hpoll
      cases hpoll
      cases hw
  | calls houtline hmode =>
    exact Calm.sound ⟨houtline, hmode⟩ (ho.marks (Outline.Stacked.cons ho.stacked reason))

/-- The outline of an interpreter that has run nothing. -/
theorem outline_opened (interval : Nat) : (Machine.opened interval).outline =
    { strands := #[{ status := .running, hook := (Machine.opened interval).interval }]
      current := 0, marks := [], interval := (Machine.opened interval).interval
      owner := 0, ticket := (Machine.opened interval).hookTicket } := by
  unfold outline opened
  rw [List.map_toArray]
  rfl

/-- There is the main thread at first, and it runs. -/
theorem strand_opened (interval a : Nat) : (Machine.opened interval).outline.strand a
    = if a = 0 then { status := .running, hook := (Machine.opened interval).interval }
      else { status := .dead } := by
  rw [outline_opened]
  cases a with
  | zero => rfl
  | succ a => rfl

/-- The hook runs for its owner only. -/
theorem owner_of_poll {polled : Bool} {i : Instr} {rest : List Frame}
    (h : m.polls polled i rest = .poll) : m.hookOwner = m.current := by
  unfold polls at h
  -- every other end of the case distinction says something else about the count
  split at h
  · cases h
  · split at h
    · cases h
    · split at h
      · cases h
      · split at h
        · cases h
        · split at h
          · cases h
          · split at h
            · cases h
            · exact Decidable.not_not.mp ‹_›

namespace Sound

/-- Where the host's call has ended, only the main thread is left to run. -/
theorem of_ended (ho : m.outline.Sound) (hended : ∃ result, m.mode = .ended result)
    (hcurrent : m.outline.current = 0) (hmarks : m.outline.marks = []) : Sound m := by
  obtain ⟨result, hmode⟩ := hended
  refine ⟨ho, fun _ => ⟨hcurrent, hmarks⟩, fun hpoll => ?_⟩
  rw [hmode] at hpoll
  cases hpoll

/-- **What a step does to the threads** keeps them sound. -/
theorem acts (ho : m.outline.Sound) (h : Acts m.outline m') : Sound m' := by
  -- what changes the chain is kept in order by its operation on outlines
  cases h with
  | calm h => exact h.sound ho
  | asks r houtline hmode =>
    refine ⟨houtline ▸ ho, fun hended => ?_, fun hpoll => ?_⟩
    · rw [hmode] at hended
      cases hended
    · rw [hmode] at hpoll
      cases hpoll
  | ends hcurrent hmarks houtline hmode =>
    exact of_ended (houtline ▸ ho) hmode (houtline ▸ hcurrent) (houtline ▸ hmarks)
  | switches id kept hid hlt hstatus hkept h => exact h.sound (ho.switchTo hid hlt hstatus hkept)
  | leaves status hstatus hcurrent hmarks h => exact h.sound (ho.switchBack hcurrent hstatus)
  | creates isHooked h => exact h.sound (ho.create isHooked)
  | closes id hid hstatus h => exact h.sound (ho.close hid hstatus)

/-- So does every step. -/
theorem shift (hm : Sound m) (h : Shift m m') : Sound m' := by
  have ho := hm.outline
  cases h with
  | acts h => exact acts ho h
  | runs i count polled hruns h => exact h.sound (ho.counted _)
  | polls polled f d rest i hmode hframes hi hcount houtline hasks =>
    refine ⟨houtline ▸ ho.setHook _, fun hended => ?_, fun _ => ?_⟩
    · rw [hasks] at hended
      cases hended
    · change m'.outline.owner = m'.outline.current
      rw [houtline]
      exact owner_of_poll hcount
  | delivers reason rest hmarks h =>
    have hstacked := ho.stacked
    rw [hmarks] at hstacked
    exact h.sound (ho.marks (Outline.Stacked.tail hstacked))
  | forsakes reason rest hforsaken hmarks h =>
    have hstacked := ho.stacked
    rw [hmarks] at hstacked
    exact h.sound (ho.marks (Outline.Stacked.tail hstacked))
  | returns rest hmarks houtline hended =>
    -- a call of the host stands at the bottom, so nothing is left when it has ended
    obtain ⟨hrest, hcurrent⟩ := ho.stacked [] rest hmarks
    refine of_ended ?_ hended ?_ ?_
    · rw [houtline]
      exact ho.marks (hrest ▸ Outline.stacked_nil _)
    · rw [houtline]
      exact hcurrent
    · rw [houtline]
      exact hrest

/-- **Threads stay sound** at a step. -/
theorem step (hm : Sound m) : Sound m.step := by
  cases h : m.isWaiting with
  | false => exact hm.shift (shift_step h)
  | true =>
    -- an interpreter that waits does not move
    have hstep : m.step = m := by
      unfold isWaiting at h
      unfold Machine.step
      cases hmode : m.mode with
      | ask w => rfl
      | ended result => rfl
      | _ =>
        rw [hmode] at h
        cases h
    rw [hstep]
    exact hm

/-- Where nothing is waited for, nothing has to be known of it. -/
theorem of_not_waiting (ho : m.outline.Sound) (hgo : m.isWaiting = false) : Sound m := by
  unfold isWaiting at hgo
  refine ⟨ho, fun hended => ?_, fun hpoll => ?_⟩
  · rw [hended] at hgo
    cases hgo
  · rw [hpoll] at hgo
    cases hgo

/-- What the collector is going to do does not matter. -/
theorem collecting (hm : Sound m) (collections : List Collection) :
    Sound (m.collecting collections) :=
  ⟨hm.outline, hm.ended, hm.poll⟩

/-- The answer that the host gives does not matter. -/
theorem answer (hm : Sound m) (a : Answer) : Sound (m.answer a) := by
  have ho := hm.outline
  cases hmode : m.mode with
  | ask w =>
    cases answered hmode a with
    | acts hw h => exact acts ho h
    | drains reason hw h => exact h.sound ho
    | done hw houtline hgo => exact of_not_waiting (houtline ▸ ho) hgo
  | _ =>
    -- nothing was asked
    have hsame : m.answer a = m := by
      unfold Machine.answer
      split
      · cases hmode
      · rfl
    rw [hsame]
    exact hm

/-- **An interpreter that is opened** has sound threads. -/
theorem opened (interval : Nat) : Sound (Machine.opened interval) where
  outline := by
    -- there is the main thread only, and nobody has resumed anybody
    have hresumer : ∀ a, ((Machine.opened interval).outline.strand a).resumer = none := by
      intro a
      rw [strand_opened]
      split
      · rfl
      · rfl
    have hmain := strand_opened interval 0
    rw [if_pos rfl] at hmain
    refine
      { current_lt := ?current_lt, owner_lt := ?owner_lt, running := ?running, normal := ?normal
        unique := ?unique, resumed := ?resumed, main := ?main, main_resumer := hresumer 0
        stacked := Outline.stacked_nil _, stacked_strand := ?stacked_strand }
    case current_lt =>
      rw [outline_opened]
      exact Nat.zero_lt_one
    case owner_lt =>
      rw [outline_opened]
      exact Nat.zero_lt_one
    case running =>
      change ((Machine.opened interval).outline.strand 0).status = .running
      rw [hmain]
    case normal =>
      intro a b hab
      rw [hresumer] at hab
      cases hab
    case unique =>
      intro a a' b hab
      rw [hresumer] at hab
      cases hab
    case resumed =>
      intro a ha hlive
      rw [strand_opened, if_neg ha] at hlive
      rcases hlive with hlive | hlive <;> cases hlive
    case main =>
      rw [hmain]
      exact .inl rfl
    case stacked_strand =>
      intro a
      rw [strand_opened]
      split
      · exact Outline.stacked_nil _
      · exact Outline.stacked_nil _
  ended := fun _ => ⟨rfl, rfl⟩
  poll := nofun

end Sound

/-! ### Looking after the inbox -/

/-- What `isDelivering` finds is on the stack of a thread that waits. -/
theorem transGen_of_isDelivering {ticket : Nat} {fuel : Nat} {a : Nat}
    (h : isDelivering m.threads ticket fuel (m.thread a).resumer = true) :
    ∃ q, Relation.TransGen m.outline.Resumed a q
      ∧ .delivery (.hook ticket) ∈ (m.outline.strand q).marks := by
  -- the fuel bounds how far the chain is followed, and only what was found matters here
  induction fuel generalizing a with
  | zero =>
    unfold isDelivering at h
    cases h
  | succ fuel ih =>
    cases hres : (m.thread a).resumer with
    | none =>
      rw [hres] at h
      unfold isDelivering at h
      cases h
    | some b =>
      rw [hres] at h
      unfold isDelivering at h
      have hlink : m.outline.Resumed a b := by
        unfold Outline.Resumed
        rw [strand_thread]
        exact hres
      -- the mark is on this stack, or further down the chain
      rcases Bool.or_eq_true _ _ |>.mp h with hhere | hfurther
      · refine ⟨b, .single hlink, ?_⟩
        rw [strand_thread]
        obtain ⟨f, hf, hticket⟩ := List.any_eq_true.mp hhere
        cases f with
        | lua f d => cases hticket
        | cont c d =>
          have hc : c.drain? = some (.hook ticket) := of_decide_eq_true hticket
          refine List.mem_filterMap.mpr ⟨_, hf, ?_⟩
          exact Frame.mark?_of_drain hc
      · obtain ⟨q, hq, hmark⟩ := ih hfurther
        exact ⟨q, .head hlink hq, hmark⟩

/-- **What becomes of a count** before an instruction that is counted. -/
theorem polls_cases {n left : Nat} {i : Instr} (rest : List Frame) (hinterval : m.interval = some n)
    (hhook : (m.thread m.current).hook = some left) (hi : i.counts = true) :
    (m.polls false i rest = .countDown (left - 1) ∧ 1 < left)
      ∨ (m.polls false i rest = .countDown n
        ∧ ∃ ticket, Outline.Engaged { m.outline with marks := marks rest } (.hook ticket))
      ∨ (m.polls false i rest = .countDown n ∧ left ≤ 1 ∧ rest.any Frame.isFinalizing = true)
      ∨ (m.polls false i rest = .remove ∧ m.hookOwner ≠ m.current)
      ∨ (m.polls false i rest = .poll ∧ m.hookOwner = m.current ∧ left ≤ 1) := by
  unfold polls
  rw [hinterval, hi, hhook]
  dsimp only
  rw [if_neg (by decide)]
  split
  · exact .inl ⟨rfl, ‹_›⟩
  · -- the count has run down: it starts again in a hook or a finalizer, and is given up by another
    -- thread
    rename_i hleft
    have hlast := Nat.le_of_not_lt hleft
    refine .inr ?_
    split
    · rename_i hbusy
      rcases (Bool.or_eq_true ..).mp hbusy with hhooks | hfinalizes
      · obtain ⟨ticket, hmark⟩ := mem_marks_of_isHook hhooks
        exact .inl ⟨rfl, ticket, .inl hmark⟩
      · exact .inr (.inl ⟨rfl, hlast, hfinalizes⟩)
    · split
      · exact .inr (.inr (.inl ⟨rfl, ‹_›⟩))
      · rename_i howner
        split
        · rename_i hdelivering
          exact .inl ⟨rfl, _, .inr (transGen_of_isDelivering hdelivering)⟩
        · exact .inr (.inr (.inr ⟨rfl, Decidable.not_not.mp howner, hlast⟩))

end Machine
end RobotSession.Lua
