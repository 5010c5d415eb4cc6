import RobotSession.Lua.Library.Robot

/-!
# Values that are handed to the host

Script values pass to the host as they are, but for a panic that the script has caught: it goes on
in the host, and what is left of it afterwards counts as nothing. An error stands for a failure of
the host in the same way.

* `Heap.handed`, `Heap.panics` — what the host is handed for a value, and when a panic goes on.
* `Exchange.values_of_calm` — several values, one after the other.
* `Machine.failure_cases` — what an error stands for.
-/

namespace RobotSession.Lua

open Library

/-! ### Work that may fail -/

/-- What comes after work that succeeds. -/
theorem Body.bind_of_ok {α β : Type} {b : Body α} {k : α → Body β} {h h' : Heap} {a : α}
    (hb : b h = (.ok a, h')) : (b >>= k) h = k a h' := by
  show ExceptT.bindCont k (b h).1 (b h).2 = k a h'
  rw [hb]
  rfl

/-- What comes after work that fails. -/
theorem Body.bind_of_error {α β : Type} {b : Body α} {k : α → Body β} {h h' : Heap} {f : Fault}
    (hb : b h = (.error f, h')) : (b >>= k) h = (.error f, h') := by
  show ExceptT.bindCont k (b h).1 (b h).2 = _
  rw [hb]
  rfl

/-! ### Values -/

/-- What the host is handed for a value: a panic that has gone on already is nothing. -/
def Heap.handed (h : Heap) (v : Value) : Value :=
  match v with
  | .object id =>
    match h.object id with
    | .panic none => .nil
    | _ => v
  | _ => v

/-- It is a caught panic that has not gone on yet. -/
def Heap.panics (h : Heap) (v : Value) : Bool :=
  match v with
  | .object id =>
    match h.object id with
    | .panic (some _) => true
    | _ => false
  | _ => false

/-- The first of some values is handed to the host, or the panic that it holds goes on. -/
theorem Exchange.values_cons (h : Heap) (v : Value) (rest : List Value) :
    h.panics v = false ∧ Exchange.values (v :: rest) h
        = (Exchange.values rest >>= fun vs => pure (h.handed v :: vs)) h
      ∨ h.panics v = true
        ∧ ∃ payload h', Exchange.values (v :: rest) h = (.error (.panic payload), h') := by
  unfold Heap.panics Heap.handed Exchange.values
  rw [List.mapM_cons]
  -- only a panic whose payload is still there stops the exchange
  cases v with
  | object id =>
    dsimp only
    cases hobject : h.object id with
    | panic payload =>
      cases payload with
      | none =>
        refine .inl ⟨rfl, Body.bind_of_ok (a := Value.nil) ?_⟩
        apply (Body.bind_of_ok (b := get) (a := h) rfl).trans
        rw [hobject]
        rfl
      | some payload =>
        refine .inr ⟨rfl, payload,
          { h with objects := h.objects.modify id fun _ => .panic none }, Body.bind_of_error ?_⟩
        apply (Body.bind_of_ok (b := get) (a := h) rfl).trans
        rw [hobject]
        rfl
    | _ =>
      refine .inl ⟨rfl, Body.bind_of_ok (a := Value.object id) ?_⟩
      apply (Body.bind_of_ok (b := get) (a := h) rfl).trans
      rw [hobject]
      rfl
  | _ => exact .inl ⟨rfl, Body.bind_of_ok rfl⟩

/-- **Values are handed to the host** one after the other, as long as no caught panic goes on. -/
theorem Exchange.values_of_calm {h : Heap} {values : List Value} (hcalm : values.any h.panics = false) :
    Exchange.values values h = (.ok (values.map h.handed), h) := by
  induction values with
  | nil => rfl
  | cons v rest ih =>
    rw [List.any_cons, Bool.or_eq_false_iff] at hcalm
    obtain ⟨hv, hrest⟩ := hcalm
    rcases Exchange.values_cons h v rest with ⟨-, hvalues⟩ | ⟨hpanics, -⟩
    · rw [hvalues, Body.bind_of_ok (ih hrest)]
      rfl
    · exact nomatch hv.symm.trans hpanics

/-- A caught panic is one of the objects. -/
theorem Heap.panics_iff {h : Heap} {v : Value} :
    h.panics v = true ↔ ∃ id p, v = .object id ∧ h.object id = .panic (some p) := by
  unfold Heap.panics
  constructor
  · intro hpanics
    -- only a host object can hold a panic, and only one that was not taken yet
    split at hpanics
    · rename_i id
      split at hpanics
      · exact ⟨id, _, rfl, ‹_›⟩
      · cases hpanics
    · cases hpanics
  · rintro ⟨id, p, rfl, hobject⟩
    dsimp only
    rw [hobject]

/-! ### Errors -/

namespace Machine

/-- What stands for an object that is an error. -/
theorem failure_object (id : Nat) (h : Heap) :
    Exchange.failure (.object id) h = (match h.object id with
      | .failure f => return f
      | .panic none => return .panicTaken
      | .panic (some _) => do
        let _ ← Exchange.values [.object id]
        return .panicTaken
      | _ =>
        return .runtime (Text.Utf8.lossy (Access.plainText (← get) (.object id))) : Body HostError) h :=
  rfl

/-- A caught panic does not pass through the host. -/
theorem values_panic {id : Nat} {h : Heap} {p : Payload} (hobject : h.object id = .panic (some p)) :
    Exchange.values [.object id] h
      = (.error (.panic p), { h with objects := h.objects.modify id fun _ => .panic none }) := by
  unfold Exchange.values
  rw [List.mapM_cons]
  apply Body.bind_of_error
  apply (Body.bind_of_ok (b := get) (a := h) rfl).trans
  rw [hobject]
  rfl

/-- **An error is a failure of the host or a text**, and then the store is left alone, or it is a
caught panic. -/
theorem failure_cases (e : Value) (h : Heap) :
    (∃ f, Exchange.failure e h = (.ok f, h))
      ∨ ∃ id p, e = .object id ∧ h.object id = .panic (some p)
        ∧ (Exchange.failure e h).1 = .error (.panic p) := by
  cases e with
  | object id =>
    rw [failure_object]
    cases hobject : h.object id with
    | failure f => exact .inl ⟨f, rfl⟩
    | stream name => exact .inl ⟨_, rfl⟩
    | panic payload =>
      -- only a panic that nobody has taken yet is handed on
      cases payload with
      | none => exact .inl ⟨_, rfl⟩
      | some p =>
        have hvalues := Body.bind_of_error (k := fun _ => pure HostError.panicTaken)
          (values_panic hobject)
        exact .inr ⟨id, p, rfl, hobject, congrArg Prod.fst hvalues⟩
  | _ => exact .inl ⟨_, rfl⟩

/-- Whether an error is a caught panic that has not been passed on. -/
def IsPanic (h : Heap) (e : Value) : Prop :=
  ∃ id p, e = .object id ∧ h.object id = .panic (some p)

end Machine

/-- A caught panic does not pass as an error either. -/
theorem Library.Exchange.failure_of_panic {h : Heap} {id : Nat} {p : Payload}
    (hobject : h.object id = .panic (some p)) :
    Exchange.failure (.object id) h
      = (.error (.panic p), { h with objects := h.objects.modify id fun _ => .panic none }) := by
  rw [Machine.failure_object, hobject]
  exact Body.bind_of_error (Machine.values_panic hobject)

end RobotSession.Lua
