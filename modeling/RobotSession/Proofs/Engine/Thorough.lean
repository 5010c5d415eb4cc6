import RobotSession.Proofs.Engine.Draining
import RobotSession.Proofs.Engine.Isolation

/-!
# Deliveries are thorough

Queued calls are delivered between two instructions of a script, or while it sleeps. Whatever robot
has been constructed and whatever its methods do, a delivery takes all the calls that are queued,
one after the other, and looks each of them up in the robot that is retained: a function is called
with this robot as its only argument, and anything else is passed over or reported. If the calls
end, and none is added, the delivery ends, with an empty inbox. An error of a call is reported, and
is of no further consequence.

This holds of every state that an engine comes to in the hands of its owner, however many deliveries
are under way there, and whatever threads the script has made.

* `Engine.Contained` — what becomes of a call.
* `Engine.Thorough` — what holds of the deliveries in a state.
* `Engine.thorough_of_run` — and it holds after every run.
-/

namespace RobotSession

open Lua

/-- A run in an owner's hands is one of the engine. -/
theorem Held.run_engine {x y : Held × Shared} {happened : List Dealing}
    (h : Run Held.Move x happened y) :
    Run Engine.Move (x.1.engine, x.2) (happened.map Dealing.deed) (y.1.engine, y.2) := by
  induction h with
  | refl => exact .refl
  | tail run step ih =>
    rw [List.map_append]
    exact .tail ih step.engine

namespace Engine

/-- The engine without what is left of a call. -/
def leaving (e : Engine) (rest : List Frame) (d : Nat) : Engine :=
  { e with machine := { e.machine with frames := rest, depth := d } }

/-- **The end of a call is contained**: whatever a lookup or a call comes to, the delivery that has
made it goes on, over the frames that it found. -/
structure Contained (e : Engine) (s : Shared) : Prop where
  /-- What a function of the script has looked up is treated as what a field holds. -/
  looked : ∀ {reason i d rest values}, e.machine.mode = .give values →
    e.machine.frames = .cont (.drainLookup reason i) d :: rest →
    (e.leaving rest d).machine.Treats reason i (values.headD .nil) e.machine.step
  /-- After a call the next one is looked for. -/
  returns : ∀ {reason i d rest values}, e.machine.mode = .give values →
    e.machine.frames = .cont (.drainCall reason i) d :: rest →
    e.machine.step = { e.machine with
      frames := rest, depth := d, mode := .ask (.drainTake reason) }
  /-- An error that is no panic is reported. -/
  fails : ∀ {reason i c d rest error}, e.machine.mode = .unwind error →
    e.machine.frames = .cont c d :: rest → c = .drainLookup reason i ∨ c = .drainCall reason i →
    ¬ Machine.IsPanic e.machine.heap error →
    ∃ message, e.machine.step = { e.machine with
      frames := rest, depth := d, mode := .ask (.drainReport reason i message) }
  /-- The report is a record, and then the next call is looked for. -/
  reports : ∀ {reason i message}, e.machine.mode = .ask (.drainReport reason i message) →
    e.serve s (.failed i message)
      = (.going, e.delivering reason, s, [.record (failedRecord i message)])
  /-- Whether a call returns or raises an error at its end makes no difference. -/
  isolated : ∀ {reason i d rest values m}, e.machine.mode = .give values →
    e.machine.frames = .cont (.drainCall reason i) d :: rest →
    (e.leaving rest d).machine.Falls reason i m →
    Isolated (e.leaving rest d) reason i (e, s) ({ e with machine := m }, s)

/-- **The deliveries of an engine are thorough.** The rounds of the scene are those that are under
way, and `cs` are the constructions so far. -/
structure Thorough (cs : List Construction) (z : Scene) : Prop where
  /-- The robot is what its constructor has returned, and the end routine is the one that was
  resolved then. -/
  retained : z.1.1.machine.retained
    = ⟨Construction.instance_ cs, (Construction.robot cs).bind Robot.finish⟩
  /-- A delivery ends, and has taken every call then. -/
  ends : ∀ {reason calls base}, z.2 = ⟨reason, calls⟩ :: base → ∀ E : Endless Rounded z,
    Undisturbed E reason base → ∃ i, Completed E reason base i
  /-- So it goes from now on with each call. -/
  contained : ∀ {happened z'}, Run Rounded z happened z' → Contained z'.1.1 z'.1.2

variable {s₀ s₁ s : Shared} {interval : Nat} {e₀ e : Engine} {signals : List Signal}
  {happened : List Dealing} {ready : Option Robot} {rs : List Round}

/-- A failure that is reported leaves the engine to its delivery. -/
theorem serve_of_report {reason : DrainReason} {i : Invocation} {message : String}
    (hmode : e.machine.mode = .ask (.drainReport reason i message)) (s : Shared) :
    e.serve s (.failed i message)
      = (.going, e.delivering reason, s, [.record (failedRecord i message)]) := by
  have hreporting : e = e.reporting reason i message := by
    -- taken apart, the engine is literally the one that reports: its mode is the only field named
    obtain ⟨id, ⟨heap, threads, current, frames, depth, mode, interval, owner, ticket, robot⟩, task,
      openedAt⟩ := e
    change mode = _ at hmode
    subst hmode
    rfl
  have hserve := serve_reporting e s reason i message
  rw [← hreporting] at hserve
  exact hserve

/-- A call that is about to return is apart from one that is about to fail. -/
theorem Sound.isolated {reason : DrainReason} {i : Invocation} {d : Nat} {rest : List Frame}
    {values : List Value} {m : Machine} (h : Sound e) (hmode : e.machine.mode = .give values)
    (hframes : e.machine.frames = .cont (.drainCall reason i) d :: rest)
    (hfalls : (e.leaving rest d).machine.Falls reason i m) (s : Shared) :
    Isolated (e.leaving rest d) reason i (e, s) ({ e with machine := m }, s) := by
  -- the engine as it is, written as one whose call is about to return
  have hreturning : e = { e.leaving rest d with
      machine := (e.leaving rest d).machine.returning reason i values e.machine.depth } := by
    obtain ⟨id, ⟨heap, threads, current, frames, depth, mode, interval, owner, ticket, robot⟩, task,
      openedAt⟩ := e
    change mode = _ at hmode
    change frames = _ at hframes
    subst hmode hframes
    rfl
  -- an idle engine has ended, but this one hands over values
  have hbusy : e.task ≠ .idle := by
    intro hidle
    obtain ⟨result, hended⟩ := h.idle hidle
    rw [hmode] at hended
    cases hended
  have hapart := Apart.intro s values e.machine.depth hfalls
  rw [← hreturning] at hapart
  exact hapart.isolated hbusy

theorem Sound.contained (h : Sound e) (s : Shared) : Contained e s where
  looked := Machine.treats_step
  returns := Machine.step_drainCall
  fails := Machine.step_failing
  reports := fun hmode => serve_of_report hmode s
  isolated := fun hmode hframes hfalls => h.isolated hmode hframes hfalls s

/-- **Deliveries are thorough**, in every state that an engine comes to. -/
theorem thorough_of_run (hopen : openIn s₀ interval = (e₀, s₁, signals))
    (hrun : Run Held.Move (⟨e₀, none⟩, s₁) happened (⟨e, ready⟩, s)) :
    (∃ rs, e.Nested rs) ∧ ∀ rs, e.Nested rs → Thorough (constructions happened) ((e, s), rs) := by
  obtain ⟨rs₀, hrounds⟩ := rounded_of_run (Held.run_engine hrun) []
  have horderly := (orderly_of_openIn hopen).run hrounds
  refine ⟨⟨rs₀, horderly.nested⟩, fun rs hnested => ?_⟩
  have hz : Orderly ((e, s), rs) := ⟨hnested, horderly.inbox, horderly.inbox_lt⟩
  exact ⟨((Held.kept_of_openIn hopen).run hrun).retained, fun hbegun _ hE => exists_endsAt hz hbegun hE,
    fun hlater => (hz.run hlater).nested.engine.contained _⟩

/-! ### A request to end that is followed -/

/-- The innermost round is the one whose call is about to return. -/
theorem Nested.eq_cons_of_returning {reason : DrainReason} {i : Invocation} {d : Nat}
    {rest : List Frame} {values : List Value} (h : e.Nested rs)
    (hmode : e.machine.mode = .give values)
    (hframes : e.machine.frames = .cont (.drainCall reason i) d :: rest) :
    ∃ calls base, rs = ⟨reason, calls⟩ :: base := by
  -- the frame on top is a delivery's, so the innermost mark is its reason, and the rounds follow
  -- the marks
  have hmarks : e.machine.outline.marks = .delivery reason :: marks rest := by
    change marks e.machine.frames = _
    rw [hframes, marks_drain rfl]
  have hnests := h.nests.outline (by rw [hmode]; rfl)
  obtain ⟨l', hl, -⟩ := Machine.nests_tail hnests hmarks
  cases rs with
  | nil => cases hl
  | cons r base =>
    obtain ⟨r, calls⟩ := r
    obtain rfl : r = reason := (List.cons.inj hl).1
    exact ⟨calls, base, rfl⟩

/-- A delivery whose call is about to return is not disturbed, if nothing happens but that it goes
on. -/
theorem exists_undisturbed {reason : DrainReason} {i : Invocation} {d : Nat} {rest : List Frame}
    {values : List Value} (hmode : e.machine.mode = .give values)
    (hframes : e.machine.frames = .cont (.drainCall reason i) d :: rest)
    (hqueue : (s.inbox e.id).queue = []) (calls : List Invocation) (base : List Round) :
    ∃ E : Endless Rounded ((e, s), ⟨reason, calls⟩ :: base), Undisturbed E reason base := by
  let e₁ : Engine := { e with machine := e.machine.step }
  have hmode₁ : e₁.machine.mode = .ask (.drainTake reason) :=
    congrArg Machine.mode (Machine.step_drainCall hmode hframes)
  let e₂ := e₁.answer (.invocation none)
  let s₂ := s.setInbox e₁.id (s.inbox e₁.id).pop.2
  have hkeeps : ∀ r, ¬ Machine.Forsaken r e.machine := by
    rintro r ⟨v, c, d, rest, fault, hunwind, -⟩
    exact nomatch hunwind.symm.trans hmode
  have hgo : e.machine.isWaiting = false := by
    unfold Machine.isWaiting
    rw [hmode]
  have hsecond : Move (e₁, s) (.take reason none) (e₂, s₂) := by
    have htake := Move.take (s := s) hmode₁
    have hempty : (s.inbox e₁.id).pop.1 = none := by
      rw [Inbox.pop_head]
      exact List.head?_eq_none_iff.mpr hqueue
    rw [hempty] at htake
    exact htake
  -- the call returns, the delivery finds the inbox empty, and then other threads go on
  let state : Nat → Scene
    | 0 => ((e, s), ⟨reason, calls⟩ :: base)
    | 1 => ((e₁, s), ⟨reason, calls⟩ :: base)
    | _ => ((e₂, s₂), base)
  let deed : Nat → Deed
    | 0 => .step
    | 1 => .take reason none
    | _ => .elsewhere
  have hnext : ∀ k, Rounded (state k) (deed k) (state (k + 1)) := by
    intro k
    match k with
    | 0 =>
      have hstep : Rounded ((e, s), ⟨reason, calls⟩ :: base) .step _ := .move (.step hgo)
      rw [rounds_step hkeeps] at hstep
      exact hstep
    | 1 => exact .move hsecond
    | k + 2 => exact .move (.elsewhere rfl (Nat.le_refl _))
  let E : Endless Rounded ((e, s), ⟨reason, calls⟩ :: base) := ⟨state, deed, rfl, hnext⟩
  have hends : EndsAt E reason base 1 := ⟨rfl, _, rfl⟩
  have hlasts : ∀ {P : Nat → Prop}, P 0 → P 1 → ∀ k, Lasts E reason base k → P k := by
    intro P h0 h1 k hk
    match k with
    | 0 => exact h0
    | 1 => exact h1
    | k + 2 => exact absurd hends (hk 1 (Nat.succ_lt_succ (Nat.succ_pos k)))
  have hreturned : ¬ InCall reason base (state 1) := by
    intro hcall
    have hphase := phase_of_inCall hcall
    rw [phase_of_drainTake (z := state 1) rfl hmode₁] at hphase
    cases hphase
  exact ⟨E, hlasts ⟨0, Nat.le_refl _, rfl⟩ ⟨1, Nat.le_refl _, rfl⟩, hlasts nofun nofun,
    hlasts (fun _ => ⟨1, Nat.zero_le _, hreturned⟩) (fun _ => ⟨1, Nat.le_refl _, hreturned⟩),
    hlasts (fun _ _ => hkeeps reason) nofun⟩

end Engine

namespace Held

/-- A program with a robot that ends when it is asked to. -/
def obedient : String :=
  "return \x7bnew = function() return \x7bstartCompetition = function() luabot.sleep(0) end, " ++
    "endCompetition = function() end\x7d end\x7d"

/-- An engine constructs a robot, which is bound, asked to end, and run. A sleep takes the request,
and the engine goes on, `steps` moves at most. -/
def serving (steps fuel : Nat) (source : String) (e : Engine) (s : Shared) :
    Option ((Held × Shared) × List Construction) :=
  match e.load .empty source with
  | .error _ => none
  | .ok e =>
    match follow fuel (⟨e, none⟩, s) [] with
    | (some (.module table), (⟨e, none⟩, s), cs) =>
      match e.task, follow fuel (⟨e.construct table, none⟩, s) ({} :: cs) with
      | .idle, (_, (⟨e, some r⟩, s), cs) =>
        match e.task with
        | .idle =>
          match follow fuel (⟨e.start r, none⟩, ((e.bindRobot s r).1.post e.id .finish).2) cs with
          | (_, (⟨e, none⟩, s), cs) =>
            match e.machine.mode with
            | .ask (.drainTake _) =>
              some (follow steps (⟨e.answer (.invocation (s.inbox e.id).pop.1), none⟩,
                s.setInbox e.id (s.inbox e.id).pop.2) cs).2
            | _ => none
          | _ => none
        | _ => none
      | _, _ => none
    | _ => none

theorem reached_serving {steps fuel : Nat} {source : String} {e₀ : Engine} {s₀ : Shared}
    {x : Held × Shared} {cs : List Construction} (hidle₀ : e₀.task = .idle)
    (h : serving steps fuel source e₀ s₀ = some (x, cs)) : Reached (⟨e₀, none⟩, s₀) x cs := by
  unfold serving at h
  split at h
  · cases h
  · rename_i e₁ hload
    -- each look at the script's definition is one more move of the owner
    have hloading := (Reached.refl (⟨e₀, none⟩, s₀)).load hidle₀ hload
    split at h
    · rename_i hmodule
      have hloaded := hloading.follow hmodule
      split at h
      · rename_i _ r _ _ hidle hbuilds
        have hbuilt := (hloaded.construct hidle _).follow hbuilds
        split at h
        · rename_i hidle'
          have hposted := (hbuilt.move (.binds r)).move (.goesOn rfl (.post .finish))
          have hstarted := hposted.move (.calls hidle' (.start r))
          split at h
          · rename_i hruns
            have hasks := hstarted.follow hruns
            split at h
            · rename_i hmode
              have htaken := hasks.move (.goesOn rfl (.take hmode))
              exact htaken.follow (Prod.ext rfl (Option.some.inj h))
            · cases h
          · cases h
        · cases h
      · cases h
    · cases h

/-- Whether the end routine is about to return to the delivery that has called it. -/
def isReturning : (Held × Shared) × List Construction → Bool
  | ((⟨e, none⟩, s), _) =>
    (e.machine.mode matches .give _) && (e.machine.frames matches .cont (.drainCall _ .finish) _ :: _)
      && (s.inbox e.id).queue = []
  | _ => false

set_option maxRecDepth 100000 in
theorem serving_isReturning : (serving 2 100 obedient (Engine.openIn {} 1000).1
    (Engine.openIn {} 1000).2.1).any isReturning = true := by
  decide +kernel

end Held

namespace Engine

/-- A robot that is asked to end while it sleeps: its end routine is about to return, the delivery
ends after that, and it would have made no difference if the routine had failed. -/
theorem thorough_of_run_obedient : ∃ happened e s reason calls base rest d,
    Run Held.Move (⟨(openIn {} 1000).1, none⟩, (openIn {} 1000).2.1) happened (⟨e, none⟩, s)
      ∧ (∃ E : Endless Rounded ((e, s), ⟨reason, calls⟩ :: base), Undisturbed E reason base
        ∧ ∃ i, Completed E reason base i)
      ∧ Isolated (e.leaving rest d) reason .finish (e, s)
        ({ e with machine := (e.leaving rest d).machine.failing reason .finish [] d (.unwind .nil) },
          s) := by
  -- the run is computed up to the moment its delivery returns; what it comes to is read back from
  -- the checks
  have hreturning := Held.serving_isReturning
  rcases hserving : Held.serving 2 100 Held.obedient (openIn {} 1000).1 (openIn {} 1000).2.1 with
    ⟨⟩ | ⟨x, cs⟩
  · rw [hserving] at hreturning
    cases hreturning
  · rw [hserving] at hreturning
    change Held.isReturning (x, cs) = true at hreturning
    unfold Held.isReturning at hreturning
    split at hreturning
    · rename_i e s cs' heq
      obtain ⟨rfl, rfl⟩ := Prod.mk.inj heq
      obtain ⟨happened, hrun, -⟩ := Held.reached_serving rfl hserving
      rw [Bool.and_eq_true, Bool.and_eq_true, decide_eq_true_iff] at hreturning
      obtain ⟨⟨hmode, hframes⟩, hqueue⟩ := hreturning
      split at hmode
      · rename_i values hmode'
        split at hframes
        · rename_i reason d rest hframes'
          -- at that moment the theorem applies, and the delivery goes on undisturbed from here
          obtain ⟨⟨rs, hnested⟩, hthorough⟩ := thorough_of_run rfl hrun
          obtain ⟨calls, base, rfl⟩ := hnested.eq_cons_of_returning hmode' hframes'
          have hz := hthorough _ hnested
          obtain ⟨E, hE⟩ := exists_undisturbed hmode' hframes' hqueue calls base
          refine ⟨happened, e, s, reason, calls, base, rest, d, hrun, ⟨E, hE, hz.ends rfl E hE⟩, ?_⟩
          refine (hz.contained .refl).isolated hmode' hframes' (.unwound rfl ?_)
          rintro ⟨id, p, hobject, -⟩
          cases hobject
        · cases hframes
      · cases hmode
    · cases hreturning

end Engine
end RobotSession
