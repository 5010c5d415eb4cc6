import Mathlib.Tactic.Choose

/-!
# Runs

A system goes from state to state, one labelled step after the other. A run is a finite
sequence of steps, and its labels in order are what happened.

* `Run Next x happened y` — a run from `x` to `y`.
* `Run.invariant` — what every step keeps, a run keeps.
* `Run.beside` — a run told with a state beside it.
* `Endless Next x` — an infinite run.
* `Endless.exists_along` — an infinite run of one system, told as one of another.
* `eventually_of_rank` — what comes about if every helpful step brings it closer.
-/

namespace RobotSession

variable {σ ε : Type}

/-- **A run** of a system, with what happened, in order. -/
inductive Run (Next : σ → ε → σ → Prop) (x : σ) : List ε → σ → Prop
  | refl : Run Next x [] x
  | tail {happened : List ε} {y z : σ} {l : ε} (run : Run Next x happened y)
      (step : Next y l z) : Run Next x (happened ++ [l]) z

namespace Run

variable {Next : σ → ε → σ → Prop} {x y z : σ} {happened later : List ε} {l : ε}

theorem single (step : Next x l y) : Run Next x [l] y :=
  .tail .refl step

theorem trans (hxy : Run Next x happened y) (hyz : Run Next y later z) :
    Run Next x (happened ++ later) z := by
  -- on the second run, whose last step comes last in the whole
  induction hyz with
  | refl =>
    rw [List.append_nil]
    exact hxy
  | tail run step ih =>
    rw [← List.append_assoc]
    exact .tail ih step

/-- The last of what happened was the last step. -/
theorem last (hrun : Run Next x (happened ++ [l]) z) : ∃ y, Run Next x happened y ∧ Next y l z := by
  generalize hall : happened ++ [l] = all at hrun
  cases hrun with
  | refl => exact absurd hall (List.append_ne_nil_of_right_ne_nil _ (List.cons_ne_nil _ _))
  | tail run step =>
    obtain ⟨rfl, hlast⟩ := List.append_inj' hall rfl
    obtain rfl := List.head_eq_of_cons_eq hlast
    exact ⟨_, run, step⟩

/-- A run goes through a state between any two things that happened. -/
theorem split (hrun : Run Next x (happened ++ later) z) :
    ∃ y, Run Next x happened y ∧ Run Next y later z := by
  -- deeds are split off from the end, one at a time
  induction later generalizing happened with
  | nil =>
    rw [List.append_nil] at hrun
    exact ⟨z, hrun, .refl⟩
  | cons l later ih =>
    rw [← List.singleton_append, ← List.append_assoc] at hrun
    obtain ⟨w, hfirst, hsecond⟩ := ih hrun
    obtain ⟨y, hbefore, hlast⟩ := hfirst.last
    exact ⟨y, hbefore, (single hlast).trans hsecond⟩

/-- Whatever happened was a step of the run. -/
theorem through (hrun : Run Next x (happened ++ l :: later) z) :
    ∃ y y', Run Next x happened y ∧ Next y l y' ∧ Run Next y' later z := by
  rw [← List.singleton_append, ← List.append_assoc] at hrun
  obtain ⟨y', hfirst, hafter⟩ := hrun.split
  obtain ⟨y, hbefore, hstep⟩ := hfirst.last
  exact ⟨y, y', hbefore, hstep, hafter⟩

/-- What holds at first and is kept by every step holds after every run. -/
theorem invariant {P : σ → Prop} (hrun : Run Next x happened y)
    (hstep : ∀ {a l b}, P a → Next a l b → P b) (hx : P x) : P y := by
  induction hrun with
  | refl => exact hx
  | tail run step ih => exact hstep ih step

/-- A run can be told with a state beside it that every step determines. -/
theorem beside {τ : Type} {Next' : σ × τ → ε → σ × τ → Prop} {next : σ → ε → τ → τ}
    (hrun : Run Next x happened y) (hstep : ∀ {x l y} (t : τ), Next x l y →
      Next' (x, t) l (y, next x l t)) (t : τ) : ∃ t', Run Next' (x, t) happened (y, t') := by
  induction hrun with
  | refl => exact ⟨t, .refl⟩
  | tail run step ih =>
    obtain ⟨t', hrun⟩ := ih
    exact ⟨_, .tail hrun (hstep t' step)⟩

end Run

/-! ### Infinite runs -/

/-- **An infinite run** of a system. -/
structure Endless (Next : σ → ε → σ → Prop) (x : σ) where
  state : Nat → σ
  deed : Nat → ε
  begins : state 0 = x
  next : ∀ i, Next (state i) (deed i) (state (i + 1))

namespace Endless

variable {Next : σ → ε → σ → Prop} {x : σ}

/-- What happened before a point, in order. -/
def past (E : Endless Next x) : Nat → List ε
  | 0 => []
  | i + 1 => E.past i ++ [E.deed i]

theorem run (E : Endless Next x) (i : Nat) : Run Next x (E.past i) (E.state i) := by
  induction i with
  | zero =>
    rw [E.begins]
    exact .refl
  | succ i ih => exact .tail ih (E.next i)

theorem mem_past {E : Endless Next x} {l : ε} {i : Nat} (h : l ∈ E.past i) : ∃ j, E.deed j = l := by
  induction i with
  | zero => cases h
  | succ i ih =>
    rcases List.mem_append.mp h with hbefore | hlast
    · exact ih hbefore
    · exact ⟨i, (List.mem_singleton.mp hlast).symm⟩

/-- **An infinite run of one system is one of another**, if each of its steps is a step there
from every state that goes along with it. -/
theorem exists_along {τ δ : Type} {Other : τ → δ → τ → Prop} {name : ε → δ} {y : τ}
    (E : Endless Next x) (Along : Nat → τ → Prop) (hy : Along 0 y)
    (hstep : ∀ i b, Along i b → ∃ b', Along (i + 1) b' ∧ Other b (name (E.deed i)) b') :
    ∃ F : Endless Other y, (∀ i, F.deed i = name (E.deed i)) ∧ ∀ i, Along i (F.state i) := by
  have hnext : ∀ i (b : { b // Along i b }), ∃ b' : { b // Along (i + 1) b },
      Other b (name (E.deed i)) b' := by
    rintro i ⟨b, hb⟩
    obtain ⟨b', hb', hother⟩ := hstep i b hb
    exact ⟨⟨b', hb'⟩, hother⟩
  -- a state of the other system is chosen from the one before it
  choose next hother using hnext
  let states : (i : Nat) → { b // Along i b } :=
    fun i => Nat.rec (motive := fun i => { b // Along i b }) ⟨y, hy⟩ next i
  refine ⟨⟨fun i => states i, fun i => name (E.deed i), rfl, ?_⟩, fun _ => rfl, ?_⟩
  · intro i
    exact hother i (states i)
  · intro i
    exact (states i).2

/-- What happened, told as what happened in the other system. -/
theorem past_map {τ δ : Type} {Other : τ → δ → τ → Prop} {name : ε → δ} {y : τ}
    {E : Endless Next x} {F : Endless Other y} (hdeed : ∀ i, F.deed i = name (E.deed i)) (i : Nat) :
    F.past i = (E.past i).map name := by
  induction i with
  | zero => rfl
  | succ i ih =>
    unfold past
    rw [ih, hdeed, List.map_append]
    rfl

end Endless

/-- What has to come about once every step keeps a rank, a helpful one lowers it, and there is
always a helpful one to come. -/
theorem eventually_of_rank (Good Goal helpful : Nat → Prop) (rank : Nat → Nat)
    (hstep : ∀ i, Good i → ¬ Goal i →
      Good (i + 1) ∧ rank (i + 1) ≤ rank i ∧ (helpful i → rank (i + 1) < rank i))
    (hfair : ∀ i, Good i → ¬ Goal i → ∃ j, i ≤ j ∧ helpful j) {i : Nat} (hi : Good i) :
    ∃ j, i ≤ j ∧ Goal j := by
  -- by induction on the rank, since a helpful step leaves a smaller one
  induction hrank : rank i using Nat.strongRecOn generalizing i with
  | ind r ih =>
    subst hrank
    refine Classical.byContradiction fun hnever => ?_
    have hnot : ∀ j, i ≤ j → ¬ Goal j := fun j hij hgoal => hnever ⟨j, hij, hgoal⟩
    have hkeep : ∀ n, Good (i + n) ∧ rank (i + n) ≤ rank i := by
      intro n
      induction n with
      | zero => exact ⟨hi, Nat.le_refl _⟩
      | succ n ihn =>
        obtain ⟨hgood, hle⟩ := ihn
        obtain ⟨hgood', hle', -⟩ := hstep (i + n) hgood (hnot _ (Nat.le_add_right i n))
        exact ⟨hgood', Nat.le_trans hle' hle⟩
    obtain ⟨j, hij, hhelpful⟩ := hfair i hi (hnot i (Nat.le_refl i))
    obtain ⟨n, rfl⟩ := Nat.exists_eq_add_of_le hij
    obtain ⟨hgood, hle⟩ := hkeep n
    obtain ⟨hgood', -, hlower⟩ := hstep (i + n) hgood (hnot _ hij)
    obtain ⟨k, hk, hgoal⟩ := ih _ (Nat.lt_of_lt_of_le (hlower hhelpful) hle) hgood' rfl
    exact hnot k (Nat.le_trans (Nat.le_succ_of_le hij) hk) hgoal

end RobotSession
