import Mathlib.Data.Nat.Find
import RobotSession.Proofs.Engine.Constructions
import RobotSession.Proofs.Engine.History
import RobotSession.Proofs.Engine.Rounds
import RobotSession.Proofs.Lua.Dispatch

/-!
# How a delivery ends

A delivery takes calls until it finds the inbox empty. It ends, if each call that it makes does:
with every call the queue becomes shorter, whether the delivery has taken it or another one that
the call has begun, and nobody adds to the queue meanwhile. Other threads may move at any time.

What it has to wait for in between are its own questions, which the engine answers when it runs,
and its calls. So the rank of a state is the length of the queue, three times, and what is left to
do for the call that was taken last (`Engine.rank`); every move keeps it or lowers it, and there is
always one to come that lowers it.

* `Engine.Rounded` — a move of an engine, told with its rounds.
* `Engine.Undisturbed` — nothing is accepted, every call ends, and no panic leaves the delivery.
* `Engine.Underway` — what has been taken and what is queued are what was queued at first.
* `Engine.exists_endsAt` — the delivery ends, and all has been taken.
-/

namespace RobotSession

open Lua

/-- Whether the interpreter goes on. -/
def Deed.advances : Deed → Bool
  | .step | .serve | .take .. => true
  | _ => false

theorem Deed.not_advances {l : Deed} (h : l.isAround = true) : l.advances = false := by
  cases l with
  | bind => rfl
  | post i answer => rfl
  | elsewhere => rfl
  | _ => cases h

namespace Engine

/-- An engine with its surroundings and its rounds. -/
abbrev Scene := (Engine × Shared) × List Round

/-- **A move**, told with the rounds that are under way. -/
inductive Rounded : Scene → Deed → Scene → Prop
  | move {x y : Engine × Shared} {l : Deed} {rs : List Round} (h : Move x l y) :
      Rounded (x, rs) l (y, rounds x l rs)

/-- Any run can be told with its rounds. -/
theorem rounded_of_run {x y : Engine × Shared} {happened : List Deed} (h : Run Move x happened y)
    (rs : List Round) : ∃ rs', Run Rounded (x, rs) happened (y, rs') :=
  h.beside (fun _ => .move) rs

/-- The calls that are queued. -/
def queue (z : Scene) : List Invocation :=
  (z.1.2.inbox z.1.1.id).queue

/-- **A scene in order.** -/
structure Orderly (z : Scene) : Prop where
  nested : z.1.1.Nested z.2
  inbox : (z.1.2.inbox z.1.1.id).Sound
  inbox_lt : z.1.1.id < z.1.2.inboxes.size

variable {z z' z₀ : Scene} {l : Deed}

/-- **Every move keeps a scene in order**, and takes and accepts as its name says. -/
theorem Orderly.move (h : Orderly z) (hmove : Rounded z l z') :
    Orderly z' ∧ taken [l] ++ queue z' ++ discarded [l] = queue z ++ accepted [l] := by
  cases hmove with
  | move hmove =>
    obtain ⟨haccount, hinbox, hlt⟩ := account_move h.nested.engine h.inbox h.inbox_lt hmove
    exact ⟨⟨h.nested.move hmove, hinbox, hlt⟩, haccount⟩

theorem Orderly.run {happened : List Deed} (h : Orderly z) (hrun : Run Rounded z happened z') :
    Orderly z' :=
  hrun.invariant (fun ha hmove => (ha.move hmove).1) h

theorem orderly_of_openIn {s₀ s₁ : Shared} {interval : Nat} {e₀ : Engine} {signals : List Signal}
    (hopen : openIn s₀ interval = (e₀, s₁, signals)) : Orderly ((e₀, s₁), []) := by
  have hhistory := history_of_openIn hopen
  exact ⟨.openIn hopen, hhistory.inbox, hhistory.inbox_lt⟩

/-- While there is a delivery, what is retained stays the same. -/
theorem Nested.retained {x y : Engine × Shared} {reason : DrainReason} {above base : List Round}
    {calls : List Invocation} (h : Nested x.1 (above ++ ⟨reason, calls⟩ :: base))
    (hmove : Move x l y) : y.1.machine.retained = x.1.machine.retained := by
  by_cases hinner : l.isInner = true
  · exact retained_inner hmove hinner
  · cases hmove with
    | settle hmode => exact absurd hmode h.not_ended
    | begin_ hidle hb => exact absurd hidle h.not_idle
    | close hidle => exact absurd hidle h.not_idle
    | bind r => rfl
    | _ => exact absurd rfl hinner

/-! ### A delivery along a run -/

section Delivery

variable (E : Endless Rounded z₀) (reason : DrainReason) (base : List Round)

/-- **The delivery ends**: it finds the inbox empty. -/
def EndsAt (i : Nat) : Prop :=
  E.deed i = .take reason none ∧ ∃ calls, (E.state i).2 = ⟨reason, calls⟩ :: base

/-- The delivery has not ended yet. -/
def Lasts (i : Nat) : Prop :=
  ∀ k, k < i → ¬ EndsAt E reason base k

/-- **A call of the delivery is under way**, or the function that looks one up. -/
def InCall (z : Scene) : Prop :=
  ∃ above calls, z.2 = above ++ ⟨reason, calls⟩ :: base
    ∧ (above = [] → z.1.1.machine.mode.drain? = none)

/-- **Nothing disturbs a delivery** as long as it lasts. -/
structure Undisturbed : Prop where
  /-- The engine's thread runs again and again. -/
  runs : ∀ i, Lasts E reason base i → ∃ j, i ≤ j ∧ (E.deed j).advances = true
  /-- No call is accepted. -/
  posts : ∀ i, Lasts E reason base i → ∀ call, E.deed i ≠ .post call .queued
  /-- Each call that is made ends. -/
  returns : ∀ i, Lasts E reason base i → InCall reason base (E.state i) →
    ∃ j, i ≤ j ∧ ¬ InCall reason base (E.state j)
  /-- None ends with a panic. -/
  panics : ∀ i, Lasts E reason base i → E.deed i = .step →
    (∃ calls, (E.state i).2 = ⟨reason, calls⟩ :: base) →
    ¬ Machine.Forsaken reason (E.state i).1.1.machine

/-- **A delivery that is under way**: what has been taken, and what is queued, are what was queued
at first, and the robot is the same. -/
structure Underway (i : Nat) : Prop where
  lasts : Lasts E reason base i
  round : ∃ above calls, (E.state i).2 = above ++ ⟨reason, calls⟩ :: base
  account : taken (E.past i) ++ queue (E.state i) = queue z₀
  retained : (E.state i).1.1.machine.retained = z₀.1.1.machine.retained

/-- What is left to do for the call that was taken last: to look for the next one, to report a
failure before that, or to run it. -/
def phase (z : Scene) : Nat :=
  match z.1.1.machine.mode with
  | .ask (.drainTake _) => if z.2.length = base.length + 1 then 0 else 2
  | .ask (.drainReport ..) => if z.2.length = base.length + 1 then 1 else 2
  | _ => 2

/-- **How far a delivery is from its end.** -/
def rank (z : Scene) : Nat :=
  3 * (queue z).length + phase base z

end Delivery

section Phase

variable {reason : DrainReason} {above base : List Round} {calls : List Invocation}

theorem phase_le (base : List Round) (z : Scene) : phase base z ≤ 2 := by
  unfold phase
  split
  · split
    · exact Nat.zero_le _
    · exact Nat.le_refl _
  · split
    · exact Nat.le_succ _
    · exact Nat.le_refl _
  · exact Nat.le_refl _

/-- While a call is under way, it is what is left to do. -/
theorem phase_of_inCall (h : InCall reason base z) : phase base z = 2 := by
  obtain ⟨above, calls, hrounds, hdrain⟩ := h
  -- a round above the own one would show in the length
  have hlength : z.2.length = base.length + 1 → above = [] := by
    intro hlength
    rw [hrounds, List.length_append, List.length_cons] at hlength
    exact List.eq_nil_of_length_eq_zero (Nat.add_eq_right.mp hlength)
  unfold phase
  split
  · rename_i r hmode
    -- with the own round on top, a call within it is not about to drain
    refine if_neg fun hown => ?_
    have hnone := hdrain (hlength hown)
    rw [hmode] at hnone
    cases hnone
  · rename_i r i error hmode
    refine if_neg fun hown => ?_
    have hnone := hdrain (hlength hown)
    rw [hmode] at hnone
    cases hnone
  · rfl

/-- **Between its calls a delivery asks**: for the next one, or to report that one has failed. -/
theorem asks_of_not_inCall (hrounds : z.2 = above ++ ⟨reason, calls⟩ :: base)
    (h : ¬ InCall reason base z) :
    above = [] ∧ ((∃ r, z.1.1.machine.mode = .ask (.drainTake r))
      ∨ ∃ r i error, z.1.1.machine.mode = .ask (.drainReport r i error)) := by
  -- a round above, or a machine that is not draining, would be within a call
  have habove : above = [] := by
    cases above with
    | nil => rfl
    | cons r above => exact absurd ⟨r :: above, calls, hrounds, nofun⟩ h
  refine ⟨habove, ?_⟩
  have hdrain : z.1.1.machine.mode.drain? ≠ none :=
    fun hnone => h ⟨above, calls, hrounds, fun _ => hnone⟩
  cases hmode : z.1.1.machine.mode with
  | ask w =>
    rw [hmode] at hdrain
    cases w with
    | drainTake r => exact .inl ⟨r, rfl⟩
    | drainReport r i error => exact .inr ⟨r, i, error, rfl⟩
    | native r => exact absurd rfl hdrain
    | hookPoll ticket => exact absurd rfl hdrain
  | _ =>
    rw [hmode] at hdrain
    exact absurd rfl hdrain

theorem phase_of_drainTake {r : DrainReason} (hrounds : z.2 = ⟨reason, calls⟩ :: base)
    (hmode : z.1.1.machine.mode = .ask (.drainTake r)) : phase base z = 0 := by
  unfold phase
  rw [hmode]
  exact if_pos (by rw [hrounds]; rfl)

theorem phase_of_drainReport {r : DrainReason} {i : Invocation} {error : String}
    (hrounds : z.2 = ⟨reason, calls⟩ :: base)
    (hmode : z.1.1.machine.mode = .ask (.drainReport r i error)) : phase base z = 1 := by
  unfold phase
  rw [hmode]
  exact if_pos (by rw [hrounds]; rfl)

/-- Between its calls a delivery has less to do than in one. -/
theorem phase_lt_of_not_inCall (hrounds : z.2 = above ++ ⟨reason, calls⟩ :: base)
    (h : ¬ InCall reason base z) : phase base z < 2 := by
  obtain ⟨rfl, ⟨r, hmode⟩ | ⟨r, i, error, hmode⟩⟩ := asks_of_not_inCall hrounds h
  · rw [phase_of_drainTake hrounds hmode]
    exact Nat.zero_lt_two
  · rw [phase_of_drainReport hrounds hmode]
    exact Nat.one_lt_two

/-- A failure that has been reported is done with: the next call is looked for. -/
theorem mode_of_reported {e e' : Engine} {s s' : Shared} {r : DrainReason} {i : Invocation}
    {error : String} {t : Turn} {signals : List Signal}
    (hmode : e.machine.mode = .ask (.drainReport r i error))
    (hserve : e.serve s (.failed i error) = (t, e', s', signals)) :
    e'.machine.mode = .ask (.drainTake r) := by
  cases hserve
  exact congrArg Machine.mode (Machine.answer_drainReport hmode .done)

/-- A move that leaves the engine alone leaves the phase as it is. -/
theorem phase_of_around {e e' : Engine} {s s' : Shared} {rs : List Round} (he : e' = e)
    (haround : l.isAround = true) :
    phase base ((e', s'), rounds (e, s) l rs) = phase base ((e, s), rs) := by
  subst he
  cases l with
  | bind => rfl
  | post i answer => rfl
  | elsewhere => rfl
  | _ => cases haround

end Phase

/-! ### One move of a delivery -/

variable {E : Endless Rounded z₀} {reason : DrainReason} {base : List Round} {i : Nat}

theorem Orderly.state (h : Orderly z₀) (i : Nat) : Orderly (E.state i) :=
  h.run (E.run i)

namespace Underway

/-- **A delivery goes on** until it ends. -/
theorem next (h : Underway E reason base i) (hz₀ : Orderly z₀) (hE : Undisturbed E reason base)
    (hgoes : ¬ EndsAt E reason base i) :
    Underway E reason base (i + 1) ∧ taken [E.deed i] ++ queue (E.state (i + 1)) = queue (E.state i) := by
  obtain ⟨above, calls, hrounds⟩ := h.round
  have hi : Orderly (E.state i) := hz₀.state i
  obtain ⟨-, haccount⟩ := hi.move (E.next i)
  have hlasts : Lasts E reason base (i + 1) := by
    intro k hk
    rcases Nat.lt_succ_iff_lt_or_eq.mp hk with hbefore | rfl
    · exact h.lasts k hbefore
    · exact hgoes
  have haccepted : accepted [E.deed i] = [] := by
    have hpost := hE.posts i h.lasts
    generalize E.deed i = l at hpost
    cases l with
    | post call answer =>
      cases answer with
      | queued => exact absurd rfl (hpost call)
      | notBound => rfl
      | closed => rfl
    | _ => rfl
  have hnested := hi.nested
  rw [hrounds] at hnested
  have hdiscarded : discarded [E.deed i] = [] := by
    have hnext := E.next i
    generalize E.deed i = l at hnext
    cases l with
    | close rest =>
      -- an engine with a task is not closed
      generalize E.state i = z at hnext hnested
      generalize E.state (i + 1) = z' at hnext
      cases hnext with
      | move hmove =>
        cases hmove with
        | close hidle => exact absurd hidle hnested.not_idle
    | _ => rfl
  rw [haccepted, hdiscarded, List.append_nil, List.append_nil] at haccount
  refine ⟨⟨hlasts, ?_, ?_, ?_⟩, haccount⟩
  · have hpanics := hE.panics i h.lasts
    have hends : ∀ calls, (E.state i).2 = ⟨reason, calls⟩ :: base → E.deed i ≠ .take reason none :=
      fun calls hown htake => hgoes ⟨htake, calls, hown⟩
    have hnext := E.next i
    generalize E.state i = z at hnext hnested hrounds hpanics hends
    generalize E.state (i + 1) = z' at hnext
    cases hnext with
    | @move x y l rs hmove =>
      obtain rfl : rs = _ := hrounds
      cases hnested.proceeds hmove with
      | keeps above' htake hkeeps => exact ⟨above', calls, hkeeps⟩
      | takes call habove hl htakes => exact ⟨[], _, htakes⟩
      | ends habove hl hover => exact absurd hl (hends calls (by rw [habove]; rfl))
      | forsaken habove hl hpanic hover =>
        exact absurd hpanic (hpanics hl ⟨calls, by rw [habove]; rfl⟩)
  · change taken (E.past i ++ [E.deed i]) ++ queue (E.state (i + 1)) = _
    rw [taken_append, List.append_assoc, haccount]
    exact h.account
  · rw [← h.retained]
    have hnext := E.next i
    generalize E.state i = z at hnext hnested
    generalize E.state (i + 1) = z' at hnext
    cases hnext with
    | move hmove => exact hnested.retained hmove

/-- **Every move keeps the rank or lowers it**, and it is lowered by a move that leaves a call and by
one with which the engine goes on between its calls. -/
theorem rank_next (h : Underway E reason base i) (hz₀ : Orderly z₀) (hE : Undisturbed E reason base)
    (hgoes : ¬ EndsAt E reason base i) :
    rank base (E.state (i + 1)) ≤ rank base (E.state i)
      ∧ (InCall reason base (E.state i) ∧ ¬ InCall reason base (E.state (i + 1))
          ∨ ¬ InCall reason base (E.state i) ∧ (E.deed i).advances = true →
        rank base (E.state (i + 1)) < rank base (E.state i)) := by
  obtain ⟨hnext, hqueue⟩ := h.next hz₀ hE hgoes
  have hlength := congrArg List.length hqueue
  rw [List.length_append] at hlength
  have hle := phase_le base (E.state (i + 1))
  unfold rank
  by_cases htaken : taken [E.deed i] = []
  · -- nothing is taken, so it depends on what is left to do
    rw [htaken, List.length_nil, Nat.zero_add] at hlength
    rw [hlength]
    by_cases hcall : InCall reason base (E.state i)
    · rw [phase_of_inCall hcall]
      refine ⟨Nat.add_le_add_left hle _, ?_⟩
      rintro (⟨-, hleft⟩ | ⟨hnot, -⟩)
      · obtain ⟨above, calls, hrounds⟩ := hnext.round
        exact Nat.add_lt_add_left (phase_lt_of_not_inCall hrounds hleft) _
      · exact absurd hcall hnot
    · obtain ⟨above, calls, hrounds⟩ := h.round
      obtain ⟨habove, hasks⟩ := asks_of_not_inCall hrounds hcall
      have hown : (E.state i).2 = ⟨reason, calls⟩ :: base := by
        rw [hrounds, habove]
        rfl
      suffices hphase : phase base (E.state (i + 1)) ≤ phase base (E.state i)
          ∧ ((E.deed i).advances = true →
            phase base (E.state (i + 1)) < phase base (E.state i)) by
        refine ⟨Nat.add_le_add_left hphase.1 _, ?_⟩
        rintro (⟨hin, -⟩ | ⟨-, hadvances⟩)
        · exact absurd hin hcall
        · exact Nat.add_lt_add_left (hphase.2 hadvances) _
      have hnested := (hz₀.state (E := E) i).nested
      rw [hrounds] at hnested
      have hmove := E.next i
      have hends : E.deed i ≠ .take reason none := fun htake => hgoes ⟨htake, calls, hown⟩
      generalize E.state i = z at hmove hasks hown hnested hrounds
      generalize E.state (i + 1) = z' at hmove
      generalize E.deed i = l at hmove htaken hends
      cases hmove with
      | @move x y l rs hmove =>
        obtain ⟨e, s⟩ := x
        obtain ⟨e', s'⟩ := y
        have haround : e' = e → l.isAround = true →
            phase base ((e', s'), rounds (e, s) l rs) ≤ phase base ((e, s), rs)
              ∧ (l.advances = true →
                phase base ((e', s'), rounds (e, s) l rs) < phase base ((e, s), rs)) := by
          intro he haround
          refine ⟨Nat.le_of_eq (phase_of_around he haround), fun hadvances => ?_⟩
          rw [Deed.not_advances haround] at hadvances
          cases hadvances
        rcases hasks with ⟨r, hmode⟩ | ⟨r, call, error, hmode⟩
        · rcases move_of_ask hmode hnested.not_idle hmove with
            ⟨r', hw, hl⟩ | ⟨-, htake, -⟩ | ⟨he, hl⟩
          · -- an empty inbox would be the end
            obtain ⟨calls', rest, hcons⟩ := (habove ▸ hnested).eq_cons hmode rfl
            obtain rfl : reason = r := congrArg Round.reason (List.cons.inj hcons).1
            obtain rfl := Waiting.drainTake.inj hw
            cases hfound : (s.inbox e.id).pop.1 with
            | none => exact absurd (hl.trans (by rw [hfound])) hends
            | some call =>
              rw [hl, hfound] at htaken
              cases htaken
          · exact absurd rfl htake
          · exact haround he hl
        · rcases move_of_ask hmode hnested.not_idle hmove with
            ⟨r', hw, -⟩ | ⟨hl, -, ⟨t, signals, hserve⟩ | ⟨line, hlog⟩⟩ | ⟨he, hl⟩
          · cases hw
          · -- the failure is reported
            have hreported := mode_of_reported hmode hserve
            have hsame : rounds (e, s) l rs = rs := by
              rw [hl]
              refine rounds_serve (.inl ?_)
              change e.machine.mode.opens? = none
              rw [show e.machine.mode = _ from hmode]
              rfl
            rw [phase_of_drainReport hown hmode,
              phase_of_drainTake (z := ((e', s'), rounds (e, s) l rs)) (hsame.trans hown) hreported]
            exact ⟨Nat.zero_le _, fun _ => Nat.zero_lt_one⟩
          · cases hlog
          · exact haround he hl
  · -- the queue has become shorter
    have hpos : 0 < (taken [E.deed i]).length := List.length_pos_iff.mpr htaken
    have hlt : 3 * (queue (E.state (i + 1))).length + phase base (E.state (i + 1))
        < 3 * (queue (E.state i)).length + phase base (E.state i) := by
      omega
    exact ⟨Nat.le_of_lt hlt, fun _ => hlt⟩

end Underway

/-! ### The end of a delivery -/

/-- **What a delivery has come to** when it ends. -/
structure Completed (E : Endless Rounded z₀) (reason : DrainReason) (base : List Round) (i : Nat) :
    Prop where
  ends : EndsAt E reason base i
  /-- Every call that was queued has been taken, in order and once. -/
  taken : taken (E.past i) = queue z₀
  /-- Each of them, also one that a call has taken meanwhile, is looked up in the robot that is
  retained, and called if that comes to a function. -/
  dispatched : ∀ k, k < i → ∀ r call, E.deed k = .take r (some call) →
    Machine.Dispatched (E.state k).1.1.machine r call (E.state (k + 1)).1.1.machine
  /-- Neither the robot nor its end routine is another one meanwhile. -/
  retained : ∀ k, k ≤ i → (E.state k).1.1.machine.retained = z₀.1.1.machine.retained
  queue : queue (E.state (i + 1)) = []
  pending : ((E.state (i + 1)).1.2.inbox (E.state (i + 1)).1.1.id).isPending = false
  /-- The code that was interrupted goes on. -/
  goesOn : (E.state (i + 1)).1.1.machine
    = Machine.drained { (E.state i).1.1.machine with mode := .run false } reason
  rounds : (E.state (i + 1)).2 = base

/-- A delivery that has not ended is under way. -/
theorem underway_of_lasts {calls : List Invocation} (hz₀ : Orderly z₀)
    (hbegun : z₀.2 = ⟨reason, calls⟩ :: base) (hE : Undisturbed E reason base)
    (hlasts : Lasts E reason base i) : Underway E reason base i := by
  induction i with
  | zero =>
    refine ⟨hlasts, ⟨[], calls, ?_⟩, ?_, ?_⟩
    · rw [E.begins]
      exact hbegun
    · rw [E.begins]
      rfl
    · rw [E.begins]
  -- not returned at `i + 1` means not returned before it, so the state at `i` is still the
  -- delivery's
  | succ i ih =>
    have hbefore : Lasts E reason base i := fun k hk => hlasts k (Nat.lt_succ_of_lt hk)
    exact ((ih hbefore).next hz₀ hE (hlasts i (Nat.lt_succ_self i))).1

/-- A delivery that ends has found the inbox empty, and leaves it so. -/
theorem Orderly.ends (h : Orderly z) (hmove : Rounded z (.take reason none) z') :
    queue z = [] ∧ queue z' = []
      ∧ z'.1.1.machine = Machine.drained { z.1.1.machine with mode := .run false } reason
      ∧ z'.2 = z.2.tail := by
  obtain ⟨-, haccount⟩ := h.move hmove
  cases hmove with
  | @move x y l rs hmove =>
    obtain ⟨e, s⟩ := x
    obtain ⟨hmode, hfound, hanswer⟩ := mode_of_take hmove
    -- nothing was taken, so that nothing was there
    have hempty : queue ((e, s), rs) = [] := by
      rw [Inbox.pop_head] at hfound
      exact List.head?_eq_none_iff.mp hfound
    have hunchanged : queue (y, rounds (e, s) (.take reason none) rs) ++ [] = _ ++ [] := haccount
    rw [List.append_nil, List.append_nil, hempty] at hunchanged
    refine ⟨hempty, hunchanged, ?_, rfl⟩
    change y.1.machine = _
    rw [hanswer]
    exact Machine.answer_drainTake hmode nofun

/-- A call that is taken is looked up in the robot that is retained. -/
theorem dispatched_of_take {r : DrainReason} {call : Invocation}
    (h : Rounded z (.take r (some call)) z') :
    Machine.Dispatched z.1.1.machine r call z'.1.1.machine := by
  cases h with
  | @move x y l rs hmove =>
    obtain ⟨hmode, -, hanswer⟩ := mode_of_take hmove
    change Machine.Dispatched x.1.machine r call y.1.machine
    rw [hanswer]
    exact Machine.dispatched_answer hmode call

/-- When a delivery ends, it has taken all there was. -/
theorem completed_of_endsAt {calls : List Invocation} (hz₀ : Orderly z₀)
    (hbegun : z₀.2 = ⟨reason, calls⟩ :: base) (hE : Undisturbed E reason base)
    (hlasts : Lasts E reason base i) (hends : EndsAt E reason base i) :
    Completed E reason base i := by
  have hunder := underway_of_lasts hz₀ hbegun hE hlasts
  have hi : Orderly (E.state i) := hz₀.state i
  obtain ⟨hdeed, calls', hrounds⟩ := hends
  have hnext := E.next i
  rw [hdeed] at hnext
  obtain ⟨hempty, hleft, hgoesOn, hbase⟩ := hi.ends hnext
  have haccount := hunder.account
  rw [hempty, List.append_nil] at haccount
  have hpending := (hi.move hnext).1.inbox.pending
  -- all that was in the queue has been taken, and each taking has led to a call
  refine ⟨⟨hdeed, calls', hrounds⟩, haccount, ?_, ?_, hleft, ?_, hgoesOn, ?_⟩
  · intro k _ r call htake
    have hmove := E.next k
    rw [htake] at hmove
    exact dispatched_of_take hmove
  · intro k hk
    have hbefore : Lasts E reason base k := fun j hj => hlasts j (Nat.lt_of_lt_of_le hj hk)
    exact (underway_of_lasts hz₀ hbegun hE hbefore).retained
  · rw [hpending]
    change (!(queue (E.state (i + 1))).isEmpty) = false
    rw [hleft]
    rfl
  · rw [hbase, hrounds]
    rfl

/-- **A delivery that is not disturbed ends**, and then every call that was queued has been taken, in
order and exactly once, and the inbox is empty with its flag clear. -/
theorem exists_endsAt {calls : List Invocation} (hz₀ : Orderly z₀)
    (hbegun : z₀.2 = ⟨reason, calls⟩ :: base) (hE : Undisturbed E reason base) :
    ∃ i, Completed E reason base i := by
  let helpful : Nat → Prop := fun i =>
    InCall reason base (E.state i) ∧ ¬ InCall reason base (E.state (i + 1))
      ∨ ¬ InCall reason base (E.state i) ∧ (E.deed i).advances = true
  have hstep : ∀ i, Underway E reason base i → ¬ EndsAt E reason base i →
      Underway E reason base (i + 1) ∧ rank base (E.state (i + 1)) ≤ rank base (E.state i)
        ∧ (helpful i → rank base (E.state (i + 1)) < rank base (E.state i)) := fun i h hgoes =>
    ⟨(h.next hz₀ hE hgoes).1, h.rank_next hz₀ hE hgoes⟩
  have hfair : ∀ i, Underway E reason base i → ¬ EndsAt E reason base i →
      ∃ j, i ≤ j ∧ (helpful j ∨ EndsAt E reason base j) := by
    intro i h hgoes
    refine Classical.byContradiction fun hnever => ?_
    have hnot : ∀ j, i ≤ j → ¬ helpful j ∧ ¬ EndsAt E reason base j := fun j hj =>
      ⟨fun hhelp => hnever ⟨j, hj, .inl hhelp⟩, fun hend => hnever ⟨j, hj, .inr hend⟩⟩
    have hunder : ∀ n, Underway E reason base (i + n) := by
      intro n
      induction n with
      | zero => exact h
      | succ n ih => exact (ih.next hz₀ hE (hnot _ (Nat.le_add_right i n)).2).1
    -- the thread runs at some point, then a call is under way, and it is never left
    obtain ⟨j, hij, hadvances⟩ := hE.runs i h.lasts
    have hin : InCall reason base (E.state j) :=
      Classical.byContradiction fun hout => (hnot j hij).1 (.inr ⟨hout, hadvances⟩)
    have hstays : ∀ n, InCall reason base (E.state (j + n)) := by
      intro n
      induction n with
      | zero => exact hin
      | succ n ih =>
        refine Classical.byContradiction fun hout => ?_
        exact (hnot (j + n) (Nat.le_trans hij (Nat.le_add_right j n))).1 (.inl ⟨ih, hout⟩)
    obtain ⟨m, rfl⟩ := Nat.exists_eq_add_of_le hij
    obtain ⟨k, hjk, hout⟩ := hE.returns _ (hunder m).lasts hin
    obtain ⟨n, rfl⟩ := Nat.exists_eq_add_of_le hjk
    exact hout (hstays n)
  have hfirst : Underway E reason base 0 :=
    underway_of_lasts hz₀ hbegun hE fun k hk => absurd hk (Nat.not_lt_zero k)
  obtain ⟨j, -, hj⟩ : ∃ j, 0 ≤ j ∧ EndsAt E reason base j := by
    refine eventually_of_rank (Underway E reason base) (EndsAt E reason base)
      (fun i => helpful i ∨ EndsAt E reason base i) (fun i => rank base (E.state i)) ?_ hfair hfirst
    intro i h hgoes
    obtain ⟨hnext, hle, hlower⟩ := hstep i h hgoes
    exact ⟨hnext, hle, fun hhelp => hlower (hhelp.resolve_right hgoes)⟩
  -- the first end is the one that counts
  classical
  have hex : ∃ j, EndsAt E reason base j := ⟨j, hj⟩
  have hlasts : Lasts E reason base (Nat.find hex) := fun k hk => Nat.find_min hex hk
  exact ⟨Nat.find hex, completed_of_endsAt hz₀ hbegun hE hlasts (Nat.find_spec hex)⟩

end Engine
end RobotSession
