import RobotSession.Proofs.Engine.Inbox
import RobotSession.Proofs.Engine.Life
import RobotSession.Proofs.Lua.Nesting

/-!
# Rounds

A delivery takes one call after the other until it finds the inbox empty; this is a *round*. A
call that a round delivers may sleep, and the sleep may begin a round of its own. So at any moment
there are several rounds, one inside the other, and each call that is taken is taken by the
innermost one.

Here a move of an engine is told together with the rounds that are under way and with the calls
that each of them has taken. The rounds are those of the interpreter: they have the reasons of the
deliveries that nest there, in the same order, whatever threads the script goes through and
whatever errors it raises (`Engine.Nested`).

* `Round` — a delivery, with the calls that it has taken.
* `Engine.rounds` — what a move does to the rounds that are under way.
* `Engine.Nested.move` — every move keeps them in step with the interpreter.
* `Engine.Nested.proceeds` — what a move does to one of them.
-/

namespace RobotSession

open Lua

/-- **A delivery that is under way**, with the calls that it has taken, in order. -/
structure Round where
  reason : DrainReason
  calls : List Invocation := []

/-- A round takes one more call. -/
def Round.take (i : Invocation) (r : Round) : Round :=
  { r with calls := r.calls ++ [i] }

/-- The innermost round takes a call. -/
def takeRound (i : Invocation) : List Round → List Round
  | [] => []
  | r :: rest => r.take i :: rest

theorem map_reason_takeRound (i : Invocation) (rs : List Round) :
    (takeRound i rs).map Round.reason = rs.map Round.reason := by
  cases rs with
  | nil => rfl
  | cons r rest => rfl

namespace Engine

open Classical in
/-- **The rounds after a move**, innermost first: a flag that is found set begins one, an empty
inbox ends the innermost one, and a panic leaves it. -/
noncomputable def rounds (x : Engine × Shared) (l : Deed) (rs : List Round) : List Round :=
  match l with
  | .step => if ∃ reason, Machine.Forsaken reason x.1.machine then rs.tail else rs
  | .serve =>
    match x.1.machine.mode.opens? with
    | some reason => if (x.2.inbox x.1.id).isPending then { reason } :: rs else rs
    | none => rs
  | .take _ (some i) => takeRound i rs
  | .take _ none => rs.tail
  | _ => rs

variable {x y : Engine × Shared} {l : Deed} {rs : List Round} {e e' : Engine} {s s' : Shared}

/-- A flag that is not read, or that is clear, begins no round. -/
theorem rounds_serve (h : x.1.machine.mode.opens? = none ∨ (x.2.inbox x.1.id).isPending = false) :
    rounds x .serve rs = rs := by
  unfold rounds
  dsimp only
  split
  · rename_i reason hopens
    have hclear := h.resolve_left fun hnone => nomatch hnone.symm.trans hopens
    rw [if_neg (by rw [hclear]; exact Bool.false_ne_true)]
  · rfl

theorem rounds_serve_pending {reason : DrainReason}
    (hopens : x.1.machine.mode.opens? = some reason)
    (hpending : (x.2.inbox x.1.id).isPending = true) :
    rounds x .serve rs = { reason } :: rs := by
  unfold rounds
  dsimp only
  rw [hopens]
  dsimp only
  rw [if_pos hpending]

/-- A reading of the flag begins at most one round. -/
theorem rounds_serve_cases (x : Engine × Shared) (rs : List Round) :
    rounds x .serve rs = rs ∨ ∃ r, rounds x .serve rs = r :: rs := by
  unfold rounds
  dsimp only
  split
  · split
    · exact .inr ⟨_, rfl⟩
    · exact .inl rfl
  · exact .inl rfl

theorem rounds_step (h : ∀ reason, ¬ Machine.Forsaken reason x.1.machine) :
    rounds x .step rs = rs := by
  unfold rounds
  dsimp only
  rw [if_neg]
  rintro ⟨reason, hforsaken⟩
  exact h reason hforsaken

theorem rounds_step_forsaken {reason : DrainReason} (h : Machine.Forsaken reason x.1.machine) :
    rounds x .step rs = rs.tail := by
  unfold rounds
  dsimp only
  rw [if_pos ⟨reason, h⟩]

/-- **The rounds of an engine** are the deliveries that nest in its interpreter. -/
structure Nested (e : Engine) (rs : List Round) : Prop where
  engine : e.Sound
  gathered : e.machine.outline.Gathered
  nests : e.machine.Nests (rs.map Round.reason)

namespace Nested

variable {result : Except Value (List Value)}

/-- When a call of the host has ended, there is no round. -/
theorem eq_nil (h : Nested e rs) (hmode : e.machine.mode = .ended result) : rs = [] :=
  List.map_eq_nil_iff.mp (h.nests.eq_nil_of_ended h.engine.machine hmode)

/-- A call of the host has ended, and the engine goes on with its task or with another one. -/
theorem goesOn {o : Outline} {id : Nat} (h : Nested e rs) (hmode : e.machine.mode = .ended result)
    (hgoes : GoesOn o id e') (ho : o.Sound) (hg : o.Gathered) (hcurrent : o.current = 0)
    (hmarks : o.marks = []) : Nested e' rs := by
  -- a machine that has ended is in no round
  obtain rfl := h.eq_nil hmode
  have hsound := hgoes.sound ho hcurrent hmarks
  cases hgoes with
  | rests h =>
    obtain ⟨result, hended⟩ := h.ended
    have hnests : e'.machine.outline.Nests [] := by
      rw [h.outline]
      exact .main ho hcurrent (by rw [hmarks]; rfl)
    exact ⟨hsound, h.outline ▸ hg, Machine.nests_of_drain_none hnests (by rw [hended]; rfl)⟩
  | calls h hid htask =>
    have hmain : ({ o with current := 0 } : Outline).Gathered := by
      rw [← hcurrent]
      exact hg
    refine ⟨hsound, h.gathered (hmain.marks [.host]), h.nests ?_⟩
    exact ⟨[], .main ho.main_resumer, rfl⟩

/-- The answer to a question other than for the next call. -/
theorem answer (h : Nested e rs) {w : Waiting} {a : Answer} (hmode : e.machine.mode = .ask w)
    (htake : w.question ≠ .take) (hflag : w.opens?.isSome = true → a ≠ .flag true) :
    Nested (e.answer a) rs := by
  have ho := h.engine.machine.outline
  exact ⟨h.engine.answer hmode a, Machine.gathered_answer hmode ho h.gathered a,
    h.nests.passes hmode ho h.gathered htake hflag⟩

/-- A flag that is found set begins a round. -/
theorem opens (h : Nested e rs) {w : Waiting} {reason : DrainReason}
    (hmode : e.machine.mode = .ask w) (hopens : w.opens? = some reason) :
    Nested (e.answer (.flag true)) ({ reason } :: rs) :=
  ⟨h.engine.answer hmode _, Machine.gathered_answer hmode h.engine.machine.outline h.gathered _,
    h.nests.opens hmode hopens⟩

theorem step (h : Nested e rs) (hgo : e.machine.isWaiting = false) :
    Nested { e with machine := e.machine.step } (rounds (e, s) .step rs) := by
  have ho := h.engine.machine.outline
  have hshift := Machine.shift_step hgo
  have hsound := (h.engine.move (.step (s := s) hgo)).1
  have hgathered := hshift.gathered ho h.gathered
  -- a failure that unwinds through a delivery ends its round, nothing else does
  by_cases hforsaken : ∃ reason, Machine.Forsaken reason e.machine
  · obtain ⟨reason, hforsaken⟩ := hforsaken
    obtain ⟨l', hl, hnests⟩ := hforsaken.nests h.nests
    rw [rounds_step_forsaken hforsaken]
    refine ⟨hsound, hgathered, ?_⟩
    rw [List.map_tail, hl]
    exact hnests
  · have hkeeps : ∀ reason, ¬ Machine.Forsaken reason e.machine :=
      fun reason h => hforsaken ⟨reason, h⟩
    rw [rounds_step hkeeps]
    exact ⟨hsound, hgathered, hshift.nests hgo ho h.gathered h.nests hkeeps⟩

/-- The innermost round looks for the next call. -/
theorem take (h : Nested e rs) {reason : DrainReason}
    (hmode : e.machine.mode = .ask (.drainTake reason)) (found : Option Invocation) :
    Nested (e.answer (.invocation found)) (rounds (e, s) (.take reason found) rs) := by
  have ho := h.engine.machine.outline
  have hsound := h.engine.answer hmode (.invocation found)
  have hgathered := Machine.gathered_answer hmode ho h.gathered (.invocation found)
  cases found with
  | some i =>
    refine ⟨hsound, hgathered, ?_⟩
    change Machine.Nests _ ((takeRound i rs).map Round.reason)
    rw [map_reason_takeRound]
    exact h.nests.takes hmode i
  -- nothing is left to deliver, and the round is over
  | none =>
    obtain ⟨l', hl, hnests⟩ := h.nests.ends hmode
    refine ⟨hsound, hgathered, ?_⟩
    change Machine.Nests _ (rs.tail.map Round.reason)
    rw [List.map_tail, hl]
    exact hnests

/-- The round that looks for the next call is the innermost one. -/
theorem eq_cons (h : Nested e rs) {w : Waiting} {reason : DrainReason}
    (hmode : e.machine.mode = .ask w) (hw : w.drain? = some reason) :
    ∃ calls rest, rs = ⟨reason, calls⟩ :: rest := by
  obtain ⟨l', hl, -⟩ := h.nests.eq_cons hmode hw
  -- the innermost round has the reason of the innermost mark
  cases rs with
  | nil => cases hl
  | cons r rest =>
    obtain ⟨reason', calls⟩ := r
    obtain rfl := (List.cons.inj hl).1
    exact ⟨calls, rest, rfl⟩

/-- **Every move keeps the rounds** in step with the interpreter. -/
theorem move (h : Nested x.1 rs) (hmove : Move x l y) : Nested y.1 (rounds x l rs) := by
  have ho := h.engine.machine.outline
  cases hmove with
  | step hgo => exact h.step hgo
  | @serve e e' s s' w t signals hmode htake hserve =>
    by_cases hopens : w.opens?.isSome = true
    · obtain ⟨reason, hreason⟩ := Option.isSome_iff_exists.mp hopens
      have hmodeOpens : e.machine.mode.opens? = some reason := by
        rw [hmode]
        exact hreason
      rw [Waiting.question_of_opens hopens] at hserve
      cases hserve
      cases hpending : (s.inbox e.id).isPending with
      | true =>
        rw [rounds_serve_pending hmodeOpens hpending]
        exact h.opens hmode hreason
      | false =>
        rw [rounds_serve (.inr hpending)]
        exact h.answer hmode htake fun _ => nofun
    · have hnone : e.machine.mode.opens? = none := by
        rw [hmode]
        exact Option.not_isSome_iff_eq_none.mp hopens
      rw [rounds_serve (.inl hnone)]
      obtain ⟨rfl | ⟨a, rfl, -⟩, -⟩ := serve_cases htake hserve
      · exact h
      · exact h.answer hmode htake fun hsome => absurd hsome hopens
  | @logged e s w line hmode hlog panic =>
    have hnone : w.opens? = none := by
      refine Option.not_isSome_iff_eq_none.mp fun hopens => ?_
      exact nomatch (Waiting.question_of_opens hopens).symm.trans hlog
    have hmodeOpens : e.machine.mode.opens? = none := by
      rw [hmode]
      exact hnone
    rw [rounds_serve (.inl hmodeOpens)]
    exact h.answer hmode (by rw [hlog]; exact nofun) fun hsome => by rw [hnone] at hsome; cases hsome
  | take hmode => exact h.take hmode _
  | @settle e s result hmode =>
    obtain ⟨hcurrent, hmarks⟩ := h.engine.machine.ended hmode
    exact h.goesOn hmode ((Rests.of_ended hmode).settle result) ho h.gathered hcurrent hmarks
  | begin_ hidle hb =>
    obtain ⟨result, hmode⟩ := h.engine.idle hidle
    obtain ⟨hcurrent, hmarks⟩ := h.engine.machine.ended hmode
    exact h.goesOn hmode ((h.engine.rests hidle).begins hb) ho h.gathered hcurrent hmarks
  | bind r => exact h
  | close hidle =>
    obtain ⟨result, hmode⟩ := h.engine.idle hidle
    obtain ⟨hcurrent, hmarks⟩ := h.engine.machine.ended hmode
    refine h.goesOn hmode (h.engine.rests hidle).close ?_ ?_ hcurrent hmarks
    · -- the chain of threads has nothing to do with the interval
      exact ho.of_strand_eq rfl rfl rfl rfl (fun _ => rfl) (fun _ => rfl) (fun _ => rfl)
    · exact h.gathered.congr ho rfl rfl (fun _ _ => rfl) fun _ => .inl rfl
  | post i => exact h
  | elsewhere => exact h

/-! ### One round -/

/-- **What a move does to a round** that is under way. The rounds `above` it are of deliveries that
its own calls have begun. -/
inductive Proceeds (x : Engine × Shared) (l : Deed) (reason : DrainReason)
    (above : List Round) (calls : List Invocation) (base rs : List Round) : Prop
  /-- It stays as it is. -/
  | keeps (above' : List Round) (htake : above = [] → ∀ r found, l ≠ .take r found)
      (hrounds : rs = above' ++ ⟨reason, calls⟩ :: base)
  | takes (i : Invocation) (habove : above = []) (hl : l = .take reason (some i))
      (hrounds : rs = ⟨reason, calls ++ [i]⟩ :: base)
  /-- It has found the inbox empty. -/
  | ends (habove : above = []) (hl : l = .take reason none) (hrounds : rs = base)
  /-- A panic leaves it. -/
  | forsaken (habove : above = []) (hl : l = .step)
      (hpanic : Machine.Forsaken reason x.1.machine) (hrounds : rs = base)

section Proceeds

variable {reason : DrainReason} {above base : List Round} {calls : List Invocation}

/-- While there is a round, no call of the host has ended. -/
theorem not_ended (h : Nested e (above ++ ⟨reason, calls⟩ :: base)) : e.machine.mode ≠ .ended result :=
  fun hmode =>
    absurd (h.eq_nil hmode) (List.append_ne_nil_of_right_ne_nil _ (List.cons_ne_nil _ _))

/-- While there is a round, the engine has a task. -/
theorem not_idle (h : Nested e (above ++ ⟨reason, calls⟩ :: base)) : e.task ≠ .idle := by
  intro hidle
  obtain ⟨result, hended⟩ := h.engine.idle hidle
  exact h.not_ended hended

/-- **A round goes on until it finds the inbox empty**, unless a panic leaves it. -/
theorem proceeds (h : Nested x.1 (above ++ ⟨reason, calls⟩ :: base)) (hmove : Move x l y) :
    Proceeds x l reason above calls base (rounds x l (above ++ ⟨reason, calls⟩ :: base)) := by
  have hserve : l = .serve →
      Proceeds x l reason above calls base (rounds x l (above ++ ⟨reason, calls⟩ :: base)) := by
    rintro rfl
    rcases rounds_serve_cases x (above ++ ⟨reason, calls⟩ :: base) with heq | ⟨r, hr⟩
    · exact .keeps above (fun _ _ _ => nofun) heq
    · exact .keeps (r :: above) (fun _ _ _ => nofun) hr
  cases hmove with
  | @step e s hgo =>
    by_cases hforsaken : ∃ r, Machine.Forsaken r e.machine
    · obtain ⟨r, hforsaken⟩ := hforsaken
      rw [rounds_step_forsaken hforsaken]
      cases above with
      | nil =>
        -- the panic leaves the innermost delivery, which is this one
        obtain ⟨l', hl, -⟩ := hforsaken.nests h.nests
        obtain rfl : reason = r := (List.cons.inj hl).1
        exact .forsaken rfl rfl hforsaken rfl
      | cons r above => exact .keeps above nofun rfl
    · have hkeeps : ∀ r, ¬ Machine.Forsaken r e.machine := fun r hr => hforsaken ⟨r, hr⟩
      rw [rounds_step hkeeps]
      exact .keeps above (fun _ _ _ => nofun) rfl
  | serve hmode htake hanswer => exact hserve rfl
  | logged hmode hlog panic => exact hserve rfl
  | @take e s r hmode =>
    cases hfound : (s.inbox e.id).pop.1 with
    | some i =>
      cases above with
      | nil =>
        obtain ⟨calls', rest, hcons⟩ := h.eq_cons hmode rfl
        obtain rfl : reason = r := congrArg Round.reason (List.cons.inj hcons).1
        exact .takes i rfl rfl rfl
      | cons r' above => exact .keeps (r'.take i :: above) nofun rfl
    | none =>
      cases above with
      | nil =>
        obtain ⟨calls', rest, hcons⟩ := h.eq_cons hmode rfl
        obtain rfl : reason = r := congrArg Round.reason (List.cons.inj hcons).1
        exact .ends rfl rfl rfl
      | cons r' above => exact .keeps above nofun rfl
  | settle hmode => exact absurd hmode h.not_ended
  | begin_ hidle hb => exact absurd hidle h.not_idle
  | close hidle => exact absurd hidle h.not_idle
  | bind r => exact .keeps above (fun _ _ _ => nofun) rfl
  | post i => exact .keeps above (fun _ _ _ => nofun) rfl
  | elsewhere => exact .keeps above (fun _ _ _ => nofun) rfl

end Proceeds

/-- An engine that has just been opened has no rounds. -/
theorem openIn {s₀ s₁ : Shared} {interval : Nat} {signals : List Signal}
    (hopen : Engine.openIn s₀ interval = (e, s₁, signals)) : Nested e [] := by
  obtain ⟨hsound, -, -⟩ := openIn_sound hopen
  cases hopen
  refine ⟨hsound, ?_, ?_⟩
  · change ((Machine.opened interval).collecting _).outline.Gathered
    rw [Machine.outline_collecting]
    exact Machine.gathered_opened interval
  · exact Machine.nests_of_drain_none (.main hsound.machine.outline rfl rfl) rfl

end Nested
end Engine
end RobotSession
