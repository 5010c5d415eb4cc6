import RobotSession.Proofs.Engine.Notices
import RobotSession.Proofs.Engine.Owner

/-!
# The engines of a process

A process may open any number of engines, one after the other or at the same time, each in the
hands of its owner. Handles are kept as long as one likes, so a post may go to any of them.

* `Fleet`, `Fleet.Move` — the engines of a process, and the moves.
* `Fleet.run_notes` — what is told of the inboxes meanwhile.
* `Fleet.Sound.built` — calls are accepted for an engine that has constructed a robot.
-/

namespace RobotSession

open Lua

/-! ### Moves -/

/-- What an owner does by itself, apart from what other threads do meanwhile. -/
def Dealing.isOwn : Dealing → Bool
  | .goesOn (.post ..) | .goesOn .elsewhere => false
  | _ => true

/-- What an owner does, as it is told of the inbox of its engine. -/
def Dealing.notice (id : Nat) : Dealing → Notice
  | .binds => .binds id
  | .closes _ => .closes id
  | _ => .aside

/-- **The engines of a process**, and what its threads share. -/
structure Fleet where
  engines : List Held
  shared : Shared

/-- **What happens** in a process. -/
inductive FleetDeed
  | opens (id : Nat)
  /-- The owner of an engine does something. -/
  | owner (id : Nat) (l : Dealing)
  | posts (id : Nat) (invocation : Invocation) (answer : Delivery)
  | aside

/-- What a deed tells of the inboxes. -/
def FleetDeed.notice : FleetDeed → Notice
  | .opens id => .opens id
  | .owner id l => l.notice id
  | .posts id i d => .posts id i d
  | .aside => .aside

/-- An inbox is bound by its owner only. -/
theorem FleetDeed.binds_mem_notices {id : Nat} {happened : List FleetDeed} :
    Notice.binds id ∈ happened.map FleetDeed.notice ↔ .owner id .binds ∈ happened := by
  rw [List.mem_map]
  refine ⟨?_, fun hmem => ⟨_, hmem, rfl⟩⟩
  -- of the deeds only an owner's `binds` is noticed as one, so the notice names its deed
  rintro ⟨deed, hmem, hnotice⟩
  cases deed with
  | owner id' l =>
    cases l with
    | binds =>
      obtain rfl := Notice.binds.inj hnotice
      exact hmem
    | _ => cases hnotice
  | _ => cases hnotice

/-- Whether an engine has constructed a robot. -/
def Constructed (id : Nat) (happened : List FleetDeed) : Prop :=
  ∃ given r, FleetDeed.owner id (.settles given (some (.robot r))) ∈ happened

/-- **A move** of a process: an engine is opened, an owner goes on, a post is made through some
handle, or something else happens that has nothing to do with the inboxes. -/
inductive Fleet.Move : Fleet → FleetDeed → Fleet → Prop
  | opens {engines : List Held} {s s' : Shared} {interval : Nat} {e : Engine}
      {signals : List Signal} (h : Engine.openIn s interval = (e, s', signals)) :
      Move ⟨engines, s⟩ (.opens e.id) ⟨engines ++ [⟨e, none⟩], s'⟩
  | owner {engines : List Held} {s s' : Shared} {k : Nat} {h h' : Held} {l : Dealing}
      (hget : engines[k]? = some h) (hown : l.isOwn = true) (hmove : Held.Move (h, s) l (h', s')) :
      Move ⟨engines, s⟩ (.owner h.engine.id l) ⟨engines.set k h', s'⟩
  | posts {engines : List Held} {s : Shared} (id : Nat) (i : Invocation) :
      Move ⟨engines, s⟩ (.posts id i (s.post id i).1) ⟨engines, (s.post id i).2⟩
  | aside {engines : List Held} {s s' : Shared} (h : s'.inboxes = s.inboxes) :
      Move ⟨engines, s⟩ .aside ⟨engines, s'⟩

/-! ### Notices -/

/-- What nobody does to the inboxes changes none of them. -/
theorem Shared.Notes.of_inboxes {s s' : Shared} (h : s'.inboxes = s.inboxes) :
    s.Notes .aside s' := by
  have hinbox : ∀ id, s'.inbox id = s.inbox id := by
    intro id
    unfold Shared.inbox
    rw [h]
  refine ⟨fun id => ?_, fun id => ?_, fun id => ?_, nofun⟩
  · rw [h, or_iff_left nofun]
  · rw [hinbox, or_iff_left nofun]
  · rw [hinbox, or_iff_left nofun]

/-- **What an owner does to the inboxes** is told of its own engine. -/
theorem Held.Move.notes {h h' : Held} {s s' : Shared} {l : Dealing}
    (hmove : Held.Move (h, s) l (h', s')) (hown : l.isOwn = true)
    (hid : h.engine.id < s.inboxes.size) :
    s.Notes (l.notice h.engine.id) s' ∧ s'.inboxes.size = s.inboxes.size := by
  cases hmove with
  | calls hidle hbegins => exact ⟨.of_inboxes rfl, rfl⟩
  | settles hmode => exact ⟨.of_inboxes rfl, rfl⟩
  | binds r => exact ⟨.bind (.refl s) rfl hid, Shared.size_setInbox ..⟩
  | closes hidle => exact ⟨.close hid, Shared.size_setInbox ..⟩
  | goesOn hinner hmove =>
    -- an engine touches its own queue only, and that in two of its moves
    cases hmove with
    | step hgo => exact ⟨.of_inboxes rfl, rfl⟩
    | serve hmode htake hserve =>
      obtain ⟨-, hs⟩ := Engine.serve_cases htake hserve
      rw [hs]
      exact ⟨.of_inboxes rfl, rfl⟩
    | logged hmode hlog panic => exact ⟨.of_inboxes rfl, rfl⟩
    | take hmode => exact ⟨.of_alike (.pop s _) (Shared.size_setInbox ..), Shared.size_setInbox ..⟩
    | settle hmode => cases hinner
    | begin_ hidle hb => cases hinner
    | bind r => cases hinner
    | close hidle => cases hinner
    | post i => cases hown
    | elsewhere hinbox hsize => cases hown

/-! ### Robots -/

/-- **An engine is bound in the end of the call** that has constructed a robot. -/
def Held.IsBuilt (happened : List FleetDeed) (h : Held) : Prop :=
  h.ready ≠ none ∨ .owner h.engine.id .binds ∈ happened ↔ Constructed h.engine.id happened

namespace Held.IsBuilt

variable {happened : List FleetDeed} {h h' : Held} {s s' : Shared} {l : FleetDeed}

/-- What does not concern an engine changes nothing of what it has constructed. -/
theorem of_ne (hbuilt : h.IsBuilt happened) (hne : ∀ l', l ≠ .owner h.engine.id l') :
    h.IsBuilt (happened ++ [l]) := by
  have hmem : ∀ l', .owner h.engine.id l' ∈ happened ++ [l]
      ↔ .owner h.engine.id l' ∈ happened := by
    intro l'
    rw [List.mem_append, List.mem_singleton, or_iff_left (hne l').symm]
  unfold IsBuilt Constructed at hbuilt ⊢
  simp only [hmem]
  exact hbuilt

/-- **A call that constructs a robot** binds it before it returns. -/
theorem move {l : Dealing} (hbuilt : h.IsBuilt happened) (hmove : Held.Move (h, s) l (h', s')) :
    h'.IsBuilt (happened ++ [.owner h.engine.id l]) := by
  have hid : h'.engine.id = h.engine.id := hmove.id_eq
  unfold IsBuilt Constructed at hbuilt ⊢
  -- a deed of this engine is added, which matters if it is a binding or completes a robot
  simp only [hid, List.mem_append, List.mem_singleton, FleetDeed.owner.injEq, true_and]
  cases hmove with
  | calls hidle hbegins => simpa using hbuilt
  | goesOn hinner hmove => simpa using hbuilt
  | closes hidle => simpa using hbuilt
  | binds r =>
    refine ⟨fun _ => ?_, fun _ => .inr (.inr rfl)⟩
    -- a robot that is bound has been built before
    obtain ⟨given, r', hmem⟩ := hbuilt.mp (.inl nofun)
    exact ⟨given, r', .inl hmem⟩
  | @settles e s result hmode =>
    dsimp only at hbuilt ⊢
    generalize e.given result = given
    cases hc : (e.settle result).1 with
    | none => simpa using hbuilt
    | some c =>
      cases c with
      | robot r => exact ⟨fun _ => ⟨given, r, .inr rfl⟩, fun _ => .inl nofun⟩
      | _ => simpa [Completion.robot?] using hbuilt

end Held.IsBuilt

/-! ### Processes in order -/

namespace Fleet

/-- **A process in order**, since it has had `base` engines before. -/
structure Sound (base : Nat) (happened : List FleetDeed) (x : Fleet) : Prop where
  /-- The engines are numbered as they were opened. -/
  number : ∀ {k : Nat} {h : Held}, x.engines[k]? = some h → h.engine.id = base + k
  size : base + x.engines.length = x.shared.inboxes.size
  owned : ∀ {id l}, .owner id l ∈ happened → id < x.shared.inboxes.size
  built : ∀ {k : Nat} {h : Held}, x.engines[k]? = some h → h.IsBuilt happened

namespace Sound

variable {base : Nat} {happened : List FleetDeed} {x y : Fleet} {l : FleetDeed}

/-- The inbox of an engine has been opened. -/
theorem lt (h : Sound base happened x) {k : Nat} {held : Held} (hget : x.engines[k]? = some held) :
    held.engine.id < x.shared.inboxes.size := by
  have hk := (List.getElem?_eq_some_iff.mp hget).1
  have hsize := h.size
  rw [h.number hget]
  omega

/-- **A move does to the inboxes** what is told of them. -/
theorem notes (h : Sound base happened x) (hmove : Move x l y) :
    x.shared.Notes l.notice y.shared := by
  cases hmove with
  | opens hopen =>
    cases hopen
    exact .newInbox _
  | owner hget hown hmove => exact (hmove.notes hown (h.lt hget)).1
  | posts id i => exact .post _ id i
  | aside hinboxes => exact .of_inboxes hinboxes

/-- What other threads do leaves the engines as they are. -/
theorem aside {engines : List Held} {s s' : Shared} (h : Sound base happened ⟨engines, s⟩)
    (hsize : s'.inboxes.size = s.inboxes.size) (hother : ∀ id l', l ≠ .owner id l') :
    Sound base (happened ++ [l]) ⟨engines, s'⟩ where
  number := h.number
  size := h.size.trans hsize.symm
  owned hmem := by
    rcases List.mem_append.mp hmem with hmem | hmem
    · exact hsize ▸ h.owned hmem
    · exact absurd (List.mem_singleton.mp hmem).symm (hother _ _)
  built hget := (h.built hget).of_ne (hother _)

/-- An engine is one of those before, or the new one. -/
theorem opened_cases {engines : List Held} {new held : Held} {k : Nat}
    (hget : (engines ++ [new])[k]? = some held) :
    engines[k]? = some held ∨ k = engines.length ∧ held = new := by
  rw [List.getElem?_append] at hget
  split at hget
  · exact .inl hget
  · rename_i hk
    rw [List.getElem?_singleton] at hget
    split at hget
    · exact .inr ⟨by omega, (Option.some.inj hget).symm⟩
    · cases hget

/-- An engine is the one that has been changed, or one of the others. -/
theorem set_cases {engines : List Held} {held held' : Held} {k j : Nat}
    (hget : (engines.set k held')[j]? = some held) :
    (j = k ∧ held = held') ∨ (k ≠ j ∧ engines[j]? = some held) := by
  rw [List.getElem?_set] at hget
  split at hget
  · rename_i heq
    split at hget
    · exact .inl ⟨heq.symm, (Option.some.inj hget).symm⟩
    · cases hget
  · exact .inr ⟨‹_›, hget⟩

/-- **An engine is opened**, with a number that no other one has. -/
theorem opens {engines : List Held} {s s' : Shared} {interval : Nat} {e : Engine}
    {signals : List Signal} (h : Sound base happened ⟨engines, s⟩)
    (hopen : Engine.openIn s interval = (e, s', signals)) :
    Sound base (happened ++ [.opens e.id]) ⟨engines ++ [⟨e, none⟩], s'⟩ := by
  have hsize : base + engines.length = s.inboxes.size := h.size
  have hid : e.id = s.inboxes.size := by
    cases hopen
    rfl
  have hsize' : s'.inboxes.size = s.inboxes.size + 1 := by
    cases hopen
    exact Array.size_push ..
  have howned : ∀ {id l}, .owner id l ∈ happened ++ [.opens e.id] → .owner id l ∈ happened := by
    intro id l hmem
    rcases List.mem_append.mp hmem with hmem | hmem
    · exact hmem
    · exact absurd (List.mem_singleton.mp hmem) nofun
  refine ⟨fun hget => ?_, ?_, fun hmem => ?_, fun hget => ?_⟩
  · rcases opened_cases hget with hget | ⟨rfl, rfl⟩
    · exact h.number hget
    · exact hid.trans hsize.symm
  · rw [List.length_append, ← Nat.add_assoc, hsize, hsize']
    rfl
  · rw [hsize']
    exact Nat.lt_succ_of_lt (h.owned (howned hmem))
  · rcases opened_cases hget with hget | ⟨rfl, rfl⟩
    · exact (h.built hget).of_ne fun l' hl => nomatch hl
    · -- nobody has called the new engine
      have hnone : ∀ l, .owner e.id l ∉ happened := fun l hmem =>
        absurd (h.owned hmem) (by rw [hid]; exact Nat.lt_irrefl _)
      constructor
      · rintro (hready | hmem)
        · exact absurd rfl hready
        · exact absurd (howned hmem) (hnone _)
      · rintro ⟨given, r, hmem⟩
        exact absurd (howned hmem) (hnone _)

/-- **An engine is moved by its owner**, and the others stay. -/
theorem owner {engines : List Held} {s s' : Shared} {k : Nat} {held held' : Held} {l : Dealing}
    (h : Sound base happened ⟨engines, s⟩) (hget : engines[k]? = some held) (hown : l.isOwn = true)
    (hmove : Held.Move (held, s) l (held', s')) :
    Sound base (happened ++ [.owner held.engine.id l]) ⟨engines.set k held', s'⟩ := by
  obtain ⟨-, hsize⟩ := hmove.notes hown (h.lt hget)
  have hid : held'.engine.id = held.engine.id := hmove.id_eq
  refine ⟨fun {j other} hother => ?_, ?_, fun hmem => ?_, fun {j other} hother => ?_⟩
  · rcases set_cases hother with ⟨rfl, rfl⟩ | ⟨-, hother⟩
    · rw [hid]
      exact h.number hget
    · exact h.number hother
  · rw [List.length_set, hsize]
    exact h.size
  · rw [hsize]
    rcases List.mem_append.mp hmem with hmem | hmem
    · exact h.owned hmem
    · obtain ⟨rfl, -⟩ := FleetDeed.owner.inj (List.mem_singleton.mp hmem)
      exact h.lt hget
  · rcases set_cases hother with ⟨rfl, rfl⟩ | ⟨hne, hother⟩
    · exact (h.built hget).move hmove
    · -- no two engines have the same number
      refine (h.built hother).of_ne fun l' hl => ?_
      obtain ⟨hsame, -⟩ := FleetDeed.owner.inj hl
      rw [h.number hget, h.number hother] at hsame
      omega

/-- A move keeps the numbers of the engines apart. -/
theorem move (h : Sound base happened x) (hmove : Move x l y) : Sound base (happened ++ [l]) y := by
  cases hmove with
  | opens hopen => exact h.opens hopen
  | owner hget hown hmove => exact h.owner hget hown hmove
  | posts id i => exact h.aside (Shared.size_setInbox ..) fun id' l' hl => nomatch hl
  | aside hinboxes => exact h.aside (by rw [hinboxes]) fun id' l' hl => nomatch hl

/-- At first there are no engines. -/
theorem new (s : Shared) : Sound s.inboxes.size [] ⟨[], s⟩ where
  number hget := by cases hget
  size := rfl
  owned hmem := absurd hmem List.not_mem_nil
  built hget := by cases hget

/-- **A history of engines** is one of their inboxes. -/
theorem run {later : List FleetDeed} (h : Sound base happened x) (hrun : Run Move x later y) :
    Sound base (happened ++ later) y
      ∧ Run Shared.Notes x.shared (later.map FleetDeed.notice) y.shared := by
  induction hrun with
  | refl =>
    rw [List.append_nil]
    exact ⟨h, .refl⟩
  | tail run step ih =>
    obtain ⟨hsound, hnotes⟩ := ih
    rw [← List.append_assoc, List.map_append]
    exact ⟨hsound.move step, .tail hnotes (hsound.notes step)⟩

end Sound
end Fleet
end RobotSession
