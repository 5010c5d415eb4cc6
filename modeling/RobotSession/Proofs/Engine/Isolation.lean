import RobotSession.Proofs.Engine.Life
import RobotSession.Proofs.Lua.Dispatch

/-!
# An error stays in its call

Two engines are in the same state, apart from one thing: a call that a delivery has made is at its
end, and in the first it returns while in the second it raises an error instead. Then nothing
comes of the difference. Whatever the first does next, the second can do as well, and the other
way round: other threads move in the same way, the call ends, the error is told to the log at most,
and then both engines are in the same state and share the same surroundings. From there on they
have the same runs. So neither the code that was interrupted nor the other calls nor the session
can tell whether there was an error.

* `Engine.Apart` — the two engines.
* `Engine.Meets` — two runs that come to the same state.
* `Engine.Isolated` — every run of one goes along with one of the other, until they meet.
* `Engine.Apart.isolated` — so it is with the two engines.
-/

namespace RobotSession

open Lua

/-- Whether a move may be a part of the end of a call. -/
def Deed.isLeaving (l : Deed) : Bool :=
  l.isAround || l matches .step || l matches .serve

theorem Deed.isLeaving_of_isAround {l : Deed} (h : l.isAround = true) : l.isLeaving = true := by
  unfold isLeaving
  rw [h]
  rfl

namespace Engine

variable {e e' : Engine} {s s' : Shared} {x x₁ x₂ y y₁ y₂ : Engine × Shared} {l : Deed}
  {reason : DrainReason} {i : Invocation} {happened happened₁ happened₂ before later : List Deed}

/-! ### Moves of an engine and moves around it -/

/-- An engine whose interpreter goes on by itself does nothing else. -/
theorem move_of_going (hgo : e.machine.isWaiting = false) (hbusy : e.task ≠ .idle)
    (h : Move (e, s) l (e', s')) :
    (l = .step ∧ e' = { e with machine := e.machine.step } ∧ s' = s)
      ∨ e' = e ∧ l.isAround = true := by
  -- neither asking nor ended, and so nobody but itself can move it on
  have hwaiting : ∀ {mode : Mode}, e.machine.mode = mode → (∃ w, mode = .ask w) ∨ (∃ r, mode = .ended r) →
      False := by
    intro mode hmode hmodes
    unfold Machine.isWaiting at hgo
    rw [hmode] at hgo
    rcases hmodes with ⟨w, rfl⟩ | ⟨r, rfl⟩
    · cases hgo
    · cases hgo
  cases h with
  | step _ => exact .inl ⟨rfl, rfl, rfl⟩
  | serve hmode htake hserve => exact (hwaiting hmode (.inl ⟨_, rfl⟩)).elim
  | logged hmode hlog panic => exact (hwaiting hmode (.inl ⟨_, rfl⟩)).elim
  | take hmode => exact (hwaiting hmode (.inl ⟨_, rfl⟩)).elim
  | settle hmode => exact (hwaiting hmode (.inr ⟨_, rfl⟩)).elim
  | begin_ hidle hb => exact absurd hidle hbusy
  | close hidle => exact absurd hidle hbusy
  | bind r => exact .inr ⟨rfl, rfl⟩
  | post i => exact .inr ⟨rfl, rfl⟩
  | elsewhere hinbox hsize => exact .inr ⟨rfl, rfl⟩

/-- **What happens around an engine** does not depend on what it does. -/
theorem move_around {e₂ : Engine} (h : Move (e, s) l (e', s')) (haround : l.isAround = true)
    (hid : e₂.id = e.id) : Move (e₂, s) l (e₂, s') := by
  cases h with
  -- `bind` and `post` reach the engine only through its id, which the two engines share.
  | bind r =>
    have hbind := Move.bind (e := e₂) (s := s) r
    unfold bindRobot at hbind ⊢
    rw [hid] at hbind
    exact hbind
  | post i =>
    have hpost := Move.post (e := e₂) (s := s) i
    rw [hid] at hpost
    exact hpost
  | elsewhere hinbox hsize => exact .elsewhere (by rw [hid]; exact hinbox) hsize
  -- every other move is the engine's own and is not around it
  | _ => cases haround

/-- The engine reports a failure of a call. -/
def reporting (e : Engine) (reason : DrainReason) (i : Invocation) (error : String) : Engine :=
  { e with machine := { e.machine with mode := .ask (.drainReport reason i error) } }

/-- The engine goes on with its delivery. -/
def delivering (e : Engine) (reason : DrainReason) : Engine :=
  { e with machine := { e.machine with mode := .ask (.drainTake reason) } }

/-- **A failure that is reported** leaves a record, and nothing else. -/
theorem serve_reporting (e : Engine) (s : Shared) (reason : DrainReason) (i : Invocation)
    (error : String) : (e.reporting reason i error).serve s (.failed i error)
      = (.going, e.delivering reason, s, [.record (failedRecord i error)]) := by
  have hanswer : (e.reporting reason i error).answer .done = e.delivering reason :=
    congrArg (fun m => { e with machine := m }) (Machine.answer_drainReport rfl .done)
  rw [← hanswer]
  rfl

theorem move_reporting (e : Engine) (s : Shared) (reason : DrainReason) (i : Invocation)
    (error : String) : Move (e.reporting reason i error, s) .serve (e.delivering reason, s) :=
  .serve (w := .drainReport reason i error) rfl nofun (serve_reporting e s reason i error)

/-- **An error that falls** ends its call, and then the delivery goes on. -/
theorem exists_run_of_falls {m : Machine} (h : e.machine.Falls reason i m) (s : Shared) :
    ∃ happened, Run Move ({ e with machine := m }, s) happened (e.delivering reason, s)
      ∧ ∀ l ∈ happened, l = .step ∨ l = .serve := by
  obtain ⟨n, error, hn⟩ := h.reports
  obtain ⟨steps, hsteps⟩ := run_advance { e with machine := m } s n
  dsimp only at hsteps
  rw [hn] at hsteps
  refine ⟨_, .tail hsteps (move_reporting e s reason i error), fun l hl => ?_⟩
  rcases List.mem_append.mp hl with hstep | hserve
  · exact .inl (List.eq_of_mem_replicate hstep)
  · exact .inr (List.mem_singleton.mp hserve)

/-! ### Two engines -/

/-- **Two engines that differ in the end of one call**: in the first it returns, in the second it
raises an error instead. -/
inductive Apart (e : Engine) (reason : DrainReason) (i : Invocation) :
    Engine × Shared → Engine × Shared → Prop
  | intro (s : Shared) (values : List Value) (d : Nat) {m : Machine}
      (h : e.machine.Falls reason i m) :
      Apart e reason i ({ e with machine := e.machine.returning reason i values d }, s)
        ({ e with machine := m }, s)

/-- **Two runs beside each other**: nothing happens in them but the end of a call, and the same
moves around the engines. -/
structure Beside (x₁ x₂ : Engine × Shared) (happened₁ happened₂ : List Deed)
    (y₁ y₂ : Engine × Shared) : Prop where
  first : Run Move x₁ happened₁ y₁
  second : Run Move x₂ happened₂ y₂
  leaving : ∀ l ∈ happened₁ ++ happened₂, l.isLeaving = true
  around : happened₁.filter Deed.isAround = happened₂.filter Deed.isAround

/-- **Two runs come to the same state**, where the delivery goes on. -/
structure Meets (reason : DrainReason) (x₁ x₂ : Engine × Shared) (happened₁ happened₂ : List Deed)
    (x : Engine × Shared) : Prop where
  beside : Beside x₁ x₂ happened₁ happened₂ x x
  goesOn : x.1.machine.mode = .ask (.drainTake reason)

namespace Beside

variable {z₁ z₂ : Engine × Shared} {later₁ later₂ : List Deed}

theorem refl (x₁ x₂ : Engine × Shared) : Beside x₁ x₂ [] [] x₁ x₂ :=
  ⟨.refl, .refl, fun _ hl => absurd hl List.not_mem_nil, rfl⟩

theorem trans (h : Beside x₁ x₂ happened₁ happened₂ y₁ y₂) (h' : Beside y₁ y₂ later₁ later₂ z₁ z₂) :
    Beside x₁ x₂ (happened₁ ++ later₁) (happened₂ ++ later₂) z₁ z₂ := by
  refine ⟨h.first.trans h'.first, h.second.trans h'.second, fun l hl => ?_, ?_⟩
  · rcases List.mem_append.mp hl with hl | hl
    · rcases List.mem_append.mp hl with hl | hl
      · exact h.leaving l (List.mem_append_left _ hl)
      · exact h'.leaving l (List.mem_append_left _ hl)
    · rcases List.mem_append.mp hl with hl | hl
      · exact h.leaving l (List.mem_append_right _ hl)
      · exact h'.leaving l (List.mem_append_right _ hl)
  · rw [List.filter_append, List.filter_append, h.around, h'.around]

/-- The same happens around both. -/
theorem of_around (h₁ : Move x₁ l y₁) (h₂ : Move x₂ l y₂) (haround : l.isAround = true) :
    Beside x₁ x₂ [l] [l] y₁ y₂ := by
  refine ⟨.single h₁, .single h₂, fun l' hl => ?_, rfl⟩
  rcases List.mem_cons.mp hl with rfl | hl
  · exact Deed.isLeaving_of_isAround haround
  · rw [List.mem_singleton.mp hl]
    exact Deed.isLeaving_of_isAround haround

/-- Nothing but steps and reports happens in either. -/
theorem of_own (h₁ : Run Move x₁ happened₁ y₁) (h₂ : Run Move x₂ happened₂ y₂)
    (hown : ∀ l ∈ happened₁ ++ happened₂, l = .step ∨ l = .serve) :
    Beside x₁ x₂ happened₁ happened₂ y₁ y₂ := by
  -- neither run has a deed of the surroundings, so there is nothing on which they could disagree
  have hnone : (happened₁ ++ happened₂).filter Deed.isAround = [] := by
    rw [List.filter_eq_nil_iff]
    intro l hl
    rcases hown l hl with rfl | rfl
    · exact Bool.false_ne_true
    · exact Bool.false_ne_true
  rw [List.filter_append, List.append_eq_nil_iff] at hnone
  refine ⟨h₁, h₂, fun l hl => ?_, hnone.1.trans hnone.2.symm⟩
  rcases hown l hl with rfl | rfl
  · rfl
  · rfl

/-- Runs beside each other go on until they meet. -/
theorem meets {x : Engine × Shared} (h : Beside x₁ x₂ happened₁ happened₂ y₁ y₂)
    (h' : Meets reason y₁ y₂ later₁ later₂ x) :
    Meets reason x₁ x₂ (happened₁ ++ later₁) (happened₂ ++ later₂) x :=
  ⟨h.trans h'.beside, h'.goesOn⟩

end Beside

namespace Apart

/-- **The two engines come together** as soon as both go on by themselves. -/
theorem meets (h : Apart e reason i x₁ x₂) :
    ∃ happened₂, Meets reason x₁ x₂ [.step] happened₂ (e.delivering reason, x₁.2) := by
  cases h with
  | intro s values d hfalls =>
    obtain ⟨happened₂, hrun, hown⟩ := exists_run_of_falls hfalls s
    have hreturn : Move ({ e with machine := e.machine.returning reason i values d }, s) .step
        (e.delivering reason, s) := .step rfl
    refine ⟨happened₂, .of_own (.single hreturn) hrun fun l hl => ?_, rfl⟩
    rcases List.mem_cons.mp hl with rfl | hl
    · exact .inl rfl
    · exact hown l hl

/-- **What the first engine does, the second can do**: the same goes on around it, or its call
ends, too. -/
theorem forth (h : Apart e reason i x₁ x₂) (hbusy : e.task ≠ .idle) (hmove : Move x₁ l y₁) :
    (∃ y₂, Beside x₁ x₂ [l] [l] y₁ y₂ ∧ Apart e reason i y₁ y₂)
      ∨ ∃ happened₂, Meets reason x₁ x₂ [l] happened₂ y₁ := by
  have hmeets := h.meets
  cases h with
  | intro s values d hfalls =>
    obtain ⟨e', s'⟩ := y₁
    rcases move_of_going (e := { e with machine := e.machine.returning reason i values d }) rfl
        hbusy hmove with ⟨rfl, rfl, rfl⟩ | ⟨rfl, haround⟩
    · exact .inr hmeets
    · exact .inl ⟨_, .of_around hmove (move_around hmove haround rfl) haround,
        .intro s' values d hfalls⟩

/-- **What the second engine does, the first can do**: the same goes on around it, or the error
falls, or it has been reported, and then the call ends in the first as well. -/
theorem back (h : Apart e reason i x₁ x₂) (hbusy : e.task ≠ .idle) (hmove : Move x₂ l y₂) :
    (∃ happened₁ y₁, Beside x₁ x₂ happened₁ [l] y₁ y₂ ∧ Apart e reason i y₁ y₂)
      ∨ Meets reason x₁ x₂ [.step] [l] y₂ := by
  cases h with
  | @intro s values d m hfalls =>
    obtain ⟨e', s'⟩ := y₂
    -- what goes on around the engines happens to both alike
    have haround : l.isAround = true → e' = { e with machine := m } →
        ∃ happened₁ y₁, Beside ({ e with machine := e.machine.returning reason i values d }, s)
          ({ e with machine := m }, s) happened₁ [l] y₁ (e', s')
            ∧ Apart e reason i y₁ (e', s') := by
      rintro haround rfl
      exact ⟨_, _, .of_around (move_around hmove haround rfl) hmove haround,
        .intro s' values d hfalls⟩
    cases hwaiting : m.isWaiting with
    | false =>
      -- the failed call falls one step further, while the other engine stands still
      rcases move_of_going (e := { e with machine := m }) hwaiting hbusy hmove with
        ⟨rfl, rfl, rfl⟩ | ⟨he, hl⟩
      · refine .inl ⟨[], _, .of_own .refl (.single hmove) fun l hl => ?_,
          .intro s' values d (hfalls.step hwaiting)⟩
        exact .inl (List.mem_singleton.mp hl)
      · exact .inl (haround hl he)
    | true =>
      cases hfalls with
      | raised habove he => cases hwaiting
      | unwound habove he => cases hwaiting
      | reported error =>
        rcases move_of_ask (e := e.reporting reason i error) rfl hbusy hmove with
          ⟨r, hw, -⟩ | ⟨rfl, -, ⟨t, signals, hserve⟩ | ⟨line, hlog⟩⟩ | ⟨he, hl⟩
        · cases hw
        · cases (serve_reporting e s reason i error).symm.trans hserve
          have hreturn : Move ({ e with machine := e.machine.returning reason i values d }, s) .step
              (e.delivering reason, s) := .step rfl
          -- the failure is reported and the other call returns: both meet
          refine .inr ⟨.of_own (.single hreturn) (.single hmove) fun l hl => ?_, rfl⟩
          rcases List.mem_cons.mp hl with rfl | hl
          · exact .inl rfl
          · exact .inr (List.mem_singleton.mp hl)
        · cases hlog
        · exact .inl (haround hl he)

end Apart

/-! ### Their runs -/

/-- **An error stays in its call**: each run of one engine goes along with one of the other until
they meet, and from there on it is a run of both. -/
structure Isolated (e : Engine) (reason : DrainReason) (i : Invocation) (x₁ x₂ : Engine × Shared) :
    Prop where
  meets : ∃ happened₁ happened₂ x, Meets reason x₁ x₂ happened₁ happened₂ x
  forth : ∀ {happened y₁}, Run Move x₁ happened y₁ →
    (∃ happened₂ y₂, Beside x₁ x₂ happened happened₂ y₁ y₂ ∧ Apart e reason i y₁ y₂)
      ∨ ∃ before later happened₂ x, happened = before ++ later
        ∧ Meets reason x₁ x₂ before happened₂ x ∧ Run Move x later y₁
  back : ∀ {happened y₂}, Run Move x₂ happened y₂ →
    (∃ happened₁ y₁, Beside x₁ x₂ happened₁ happened y₁ y₂ ∧ Apart e reason i y₁ y₂)
      ∨ ∃ before later happened₁ x, happened = before ++ later
        ∧ Meets reason x₁ x₂ happened₁ before x ∧ Run Move x later y₂

/-- **Whether a call returns or raises an error** at its end makes no difference. -/
theorem Apart.isolated (h : Apart e reason i x₁ x₂) (hbusy : e.task ≠ .idle) :
    Isolated e reason i x₁ x₂ := by
  obtain ⟨happened₂, hmeets⟩ := h.meets
  refine ⟨⟨_, happened₂, _, hmeets⟩, ?_, ?_⟩
  · intro happened y₁ hrun
    induction hrun with
    | refl => exact .inl ⟨[], x₂, .refl x₁ x₂, h⟩
    | tail run step ih =>
      -- still apart, or met at some point, from where both go the same way
      rcases ih with ⟨happened₂, y₂, hbeside, hapart⟩ | ⟨before, later, happened₂, x, rfl, hmeets, hrun⟩
      · rcases hapart.forth hbusy step with ⟨z₂, hnext, hapart'⟩ | ⟨later₂, hmeets⟩
        · exact .inl ⟨_, z₂, hbeside.trans hnext, hapart'⟩
        · exact .inr ⟨_, [], _, _, (List.append_nil _).symm, hbeside.meets hmeets, .refl⟩
      · exact .inr ⟨before, _, happened₂, x, List.append_assoc .., hmeets, .tail hrun step⟩
  · intro happened y₂ hrun
    induction hrun with
    | refl => exact .inl ⟨[], x₁, .refl x₁ x₂, h⟩
    | tail run step ih =>
      rcases ih with ⟨happened₁, y₁, hbeside, hapart⟩ | ⟨before, later, happened₁, x, rfl, hmeets, hrun⟩
      · rcases hapart.back hbusy step with ⟨later₁, z₁, hnext, hapart'⟩ | hmeets
        · exact .inl ⟨_, z₁, hbeside.trans hnext, hapart'⟩
        · exact .inr ⟨_, [], _, _, (List.append_nil _).symm, hbeside.meets hmeets, .refl⟩
      · exact .inr ⟨before, _, happened₁, x, List.append_assoc .., hmeets, .tail hrun step⟩

end Engine
end RobotSession
