import RobotSession.Proofs.Json.Records
import RobotSession.Settings.Basic

/-!
# What a value says about the settings

An object need not give all settings, and may have keys for other purposes. What is given is taken
from it, what is missing has its default, and nothing else matters: neither the order of the keys,
nor the blanks, nor how a text is escaped. The settings and those of the host may also be given as
lists of their values, in order.

* `valuesOf` — the values that an object has for a key.
* `SimSettings.Says`, `Settings.Says` — what a value says about settings.
* `pick` — what is made of the values of a key.
* `Settings.foldlM_iff`, `Settings.fill_iff` — what is made of an object, and of a list.
* `Settings.decode_iff` — a text is read as what it says.
-/

namespace RobotSession

open Json

variable {β : Type} {name : String} {m : Member} {ms : List Member} {t : Tree} {ts : List Tree}

/-! ### Values that may be missing -/

/-- **The values that an object has for a key**, in order. -/
def valuesOf (name : String) (ms : List Member) : List Tree :=
  ms.filterMap fun m => if Part.textOf m.1 = some name then some m.2 else none

/-- All keys of an object are texts. -/
def Keyed (ms : List Member) : Prop :=
  ∀ m ∈ ms, (Part.textOf m.1).isSome = true

/-- What a value says that may be missing. -/
def Stands (P : Tree → β → Prop) (default : β) : Option Tree → β → Prop
  | none, v => v = default
  | some t, v => P t v

/-- **What an object says by a key**: the value that it gives once, or the default. -/
structure Given (name : String) (P : Tree → β → Prop) (default : β) (ms : List Member) (v : β) :
    Prop where
  once : (valuesOf name ms).length ≤ 1
  stands : Stands P default (valuesOf name ms).head? v

/-- A number of 64 bits: without a sign, a fraction or an exponent. -/
def IsWord64 (t : Tree) (v : UInt64) : Prop :=
  t.natural? = some v.toNat

/-- A number of 32 bits. -/
def IsWord32 (t : Tree) (v : UInt32) : Prop :=
  t.natural? = some v.toNat

/-- A list of texts. -/
def IsNames (t : Tree) (names : List String) : Prop :=
  t.items? Tree.string? = some names

/-- The extensions of the host if none are given. -/
def defaultNames : List String :=
  ["halsim_ds_socket", "halsim_gui"]

/-- **What a value says about the settings of the host.** -/
inductive SimSettings.Says : Tree → SimSettings → Prop
  | object {ms : List Member} {s : SimSettings} (hkeys : Keyed ms)
      (hextensions : Given "extensions" IsNames defaultNames ms s.extensions) : Says (.object ms) s
  | list {ts : List Tree} {s : SimSettings} (hlength : ts.length ≤ 1)
      (hextensions : Stands IsNames defaultNames ts[0]? s.extensions) : Says (.list ts) s

/-- **What a value says about the settings.** -/
inductive Settings.Says : Tree → Settings → Prop
  | object {ms : List Member} {s : Settings} (hkeys : Keyed ms)
      (hjoin : Given "join_timeout_ms" IsWord64 1000 ms s.joinTimeoutMs)
      (hhook : Given "hook_interval" IsWord32 1000 ms s.hookInterval)
      (hsim : Given "sim" SimSettings.Says ⟨defaultNames⟩ ms s.sim) : Says (.object ms) s
  | list {ts : List Tree} {s : Settings} (hlength : ts.length ≤ 3)
      (hjoin : Stands IsWord64 1000 ts[0]? s.joinTimeoutMs)
      (hhook : Stands IsWord32 1000 ts[1]? s.hookInterval)
      (hsim : Stands SimSettings.Says ⟨defaultNames⟩ ts[2]? s.sim) : Says (.list ts) s

/-! ### Keys, one by one -/

/-- A member with the name counts. -/
theorem valuesOf_cons (h : Part.textOf m.1 = some name) (ms : List Member) :
    valuesOf name (m :: ms) = m.2 :: valuesOf name ms := by
  unfold valuesOf
  rw [List.filterMap_cons, if_pos h]

/-- A member with another name does not. -/
theorem valuesOf_cons_ne (h : Part.textOf m.1 ≠ some name) (ms : List Member) :
    valuesOf name (m :: ms) = valuesOf name ms := by
  unfold valuesOf
  rw [List.filterMap_cons, if_neg h]

/-- What is made of the values of a key, if `o` is what there was. -/
def pick (μ : Tree → Option β) : Option β → List Tree → Option (Option β)
  | o, [] => some o
  | some _, _ :: _ => none
  | none, t :: ts => (μ t).bind fun v => pick μ (some v) ts

variable {μ : Tree → Option β} {o o' : Option β}

/-- Where a field does not come, it stays as it is. -/
theorem pick_nil : pick μ o [] = some o' ↔ o = o' := by
  cases o with
  | none => exact Option.some_inj
  | some v => exact Option.some_inj

/-- A field may come once only. -/
theorem pick_cons : pick μ o (t :: ts) = some o'
    ↔ o = none ∧ ∃ v, μ t = some v ∧ pick μ (some v) ts = some o' := by
  cases o with
  | none => simp [pick, Option.bind_eq_some_iff]
  | some v => simp [pick]

/-- One value at most is taken. -/
theorem pick_iff {P : Tree → β → Prop} (hP : ∀ t v, μ t = some v ↔ P t v) (default v : β) :
    (∃ o, pick μ none ts = some o ∧ o.getD default = v)
      ↔ ts.length ≤ 1 ∧ Stands P default ts.head? v := by
  cases ts with
  | nil => simp [pick, Stands, eq_comm]
  | cons t ts =>
    cases ts with
    | nil => simp [pick, Stands, ← hP, Option.bind_eq_some_iff]
    | cons t' ts => simp [pick]

/-- **What is picked for a field** is what it is given. -/
theorem pick_valuesOf_iff {P : Tree → β → Prop} (hP : ∀ t v, μ t = some v ↔ P t v) (default v : β)
    (name : String) (ms : List Member) :
    (∃ o, pick μ none (valuesOf name ms) = some o ∧ o.getD default = v)
      ↔ Given name P default ms v :=
  (pick_iff hP default v).trans ⟨fun h => ⟨h.1, h.2⟩, fun h => ⟨h.once, h.stands⟩⟩

/-- A value that may be missing is taken. -/
theorem pick_toList_iff {P : Tree → β → Prop} (hP : ∀ t v, μ t = some v ↔ P t v) (default v : β)
    (value : Option Tree) :
    (∃ o, pick μ none value.toList = some o ∧ o.getD default = v) ↔ Stands P default value v := by
  rw [pick_iff hP]
  cases value with
  | none => exact and_iff_right (Nat.zero_le _)
  | some t => exact and_iff_right (Nat.le_refl _)

/-- **What a key with its value makes of one field**, which has that `name`. -/
def Entered (name : String) (μ : Tree → Option β) (o : Option β) (m : Member) (o' : Option β) : Prop :=
  if Part.textOf m.1 = some name then o = none ∧ ∃ v, μ m.2 = some v ∧ some v = o' else o = o'

/-- A member is picked for its field, and passed over by the others. -/
theorem pick_valuesOf_cons : pick μ o (valuesOf name (m :: ms)) = some o'
    ↔ ∃ o₁, Entered name μ o m o₁ ∧ pick μ o₁ (valuesOf name ms) = some o' := by
  unfold Entered
  -- a member of the name is entered, once; any other is passed over
  by_cases hname : Part.textOf m.1 = some name
  · rw [valuesOf_cons hname, pick_cons]
    simp only [if_pos hname]
    constructor
    · rintro ⟨hnone, v, hv, hmore⟩
      exact ⟨some v, ⟨hnone, v, hv, rfl⟩, hmore⟩
    · rintro ⟨o₁, ⟨hnone, v, hv, rfl⟩, hmore⟩
      exact ⟨hnone, v, hv, hmore⟩
  · rw [valuesOf_cons_ne hname]
    simp only [if_neg hname, exists_eq_left']

/-- A number is read into a type of so many numbers if it is one of them. -/
theorem within?_iff {size : Nat} {ofNat : Nat → β} {toNat : β → Nat} (hlt : ∀ v, toNat v < size)
    (hof : ∀ n < size, toNat (ofNat n) = n) (hto : ∀ v, ofNat (toNat v) = v) (v : β) :
    t.within? size ofNat = some v ↔ t.natural? = some (toNat v) := by
  unfold Tree.within?
  cases t.natural? with
  | none => simp
  -- a number fits exactly when it is the value of a word
  | some n =>
    simp only [Option.bind_some, Option.ite_none_right_eq_some, Option.some.injEq]
    constructor
    · rintro ⟨hn, rfl⟩
      exact (hof n hn).symm
    · rintro rfl
      exact ⟨hlt v, hto v⟩

/-- A number of 64 bits is one within its bounds. -/
theorem word64?_iff (t : Tree) (v : UInt64) : t.word64? = some v ↔ IsWord64 t v :=
  within?_iff UInt64.toNat_lt (fun _ => UInt64.toNat_ofNat_of_lt) (fun _ => UInt64.ofNat_toNat) v

/-- So is one of 32 bits. -/
theorem word32?_iff (t : Tree) (v : UInt32) : t.word32? = some v ↔ IsWord32 t v :=
  within?_iff UInt32.toNat_lt (fun _ => UInt32.toNat_ofNat_of_lt) (fun _ => UInt32.ofNat_toNat) v

/-! ### The settings of the host -/

namespace SimSettings

/-- What a value of a key makes of a draft. -/
def put (_ : String) (d : Draft) (t : Tree) : Option Draft :=
  (t.items? Tree.string?).map fun v => { d with extensions := some v }

/-- Each member is put in the place of its name, and other names are passed over. -/
theorem understood : schema.Understood put where
  fields f hf := by
    obtain rfl := List.mem_singleton.mp hf
    exact Codec.understands_text.list.field _ _ _ _
  lenient := rfl
  short := rfl

/-- A member is taken if its key is a text and its value one for the field. -/
theorem enter_iff {d d' : Draft} : schema.enter put d m = some d'
    ↔ (Part.textOf m.1).isSome = true
      ∧ Entered "extensions" (Tree.items? Tree.string?) d.extensions m d'.extensions := by
  unfold Schema.enter Entered
  cases Part.textOf m.1 with
  | none => simp
  -- a key that is no text is refused, and one of another name leaves the draft alone
  | some key =>
    obtain ⟨extensions⟩ := d
    obtain ⟨extensions'⟩ := d'
    by_cases hname : key = "extensions"
    · subst hname
      cases extensions <;> simp [Schema.entry, schema, Field.of, put]
    · simp [Schema.entry, schema, Field.of, hname, Ne.symm hname]

/-- **The members are taken** if all keys are texts, and the field comes once at most. -/
theorem foldlM_iff (ms : List Member) : ∀ d d' : Draft,
    ms.foldlM (schema.enter put) d = some d'
      ↔ Keyed ms ∧ pick (Tree.items? Tree.string?) d.extensions (valuesOf "extensions" ms)
          = some d'.extensions := by
  -- the members are entered one by one, and each list of values grows by what its key gives
  induction ms with
  | nil =>
    rintro ⟨o⟩ ⟨o'⟩
    simp [Keyed, valuesOf, pick_nil]
  | cons m ms ih =>
    intro d d'
    rw [List.foldlM_cons, pick_valuesOf_cons]
    simp only [Option.bind_eq_bind, Option.bind_eq_some_iff, enter_iff, ih, Keyed,
      List.forall_mem_cons]
    constructor
    · rintro ⟨d₁, ⟨hkey, hextensions⟩, hkeys, hpick⟩
      exact ⟨⟨hkey, hkeys⟩, _, hextensions, hpick⟩
    · rintro ⟨⟨hkey, hkeys⟩, o, hextensions, hpick⟩
      exact ⟨⟨o⟩, ⟨hkey, hextensions⟩, hkeys, hpick⟩

/-- The value of a list is the extensions. -/
theorem fill_iff (d : Draft) : Schema.fill put schema.fields {} ts = some d
    ↔ ts.length ≤ 1 ∧ pick (Tree.items? Tree.string?) none ts[0]?.toList = some d.extensions := by
  obtain ⟨o⟩ := d
  rcases ts with _ | ⟨t, _ | ⟨t', ts⟩⟩
  · simp [Schema.fill, pick, schema]
  · simp [Schema.fill, pick, schema, put, Field.of, Option.map_eq_some_iff, Option.bind_eq_some_iff]
  · simp [Schema.fill, schema, put, Field.of]

/-- A field that has not come has its default. -/
theorem finish_iff {d : Draft} {s : SimSettings} :
    (schema.finish d).toOption = some s ↔ d.extensions.getD defaultNames = s.extensions := by
  obtain ⟨names⟩ := s
  simp [schema, Except.toOption, defaultNames]

/-- **What is read is what a value says about the settings of the host.** -/
theorem means_iff (t : Tree) (s : SimSettings) : schema.means put t = some s ↔ Says t s := by
  -- the meaning of a list of names is its definition
  have hP : ∀ t names, t.items? Tree.string? = some names ↔ IsNames t names := fun _ _ => Iff.rfl
  -- an object names its fields and a list places them; both come to the same three values
  cases t with
  | object ms =>
    simp only [Schema.means, Option.bind_eq_some_iff, finish_iff, foldlM_iff]
    constructor
    · rintro ⟨d, ⟨hkeys, hd⟩, hs⟩
      exact .object hkeys ((pick_valuesOf_iff hP _ _ _ _).mp ⟨_, hd, hs⟩)
    · intro h
      cases h with
      | object hkeys hextensions =>
        obtain ⟨o, ho, hs⟩ := (pick_valuesOf_iff hP _ _ _ _).mpr hextensions
        exact ⟨⟨o⟩, ⟨hkeys, ho⟩, hs⟩
  | list ts =>
    simp only [Schema.means, Option.bind_eq_some_iff, finish_iff]
    constructor
    · rintro ⟨d, hfill, hs⟩
      obtain ⟨hlength, hd⟩ := (fill_iff d).mp hfill
      exact .list hlength ((pick_toList_iff hP _ _ _).mp ⟨_, hd, hs⟩)
    · intro h
      cases h with
      | list hlength hstands =>
        obtain ⟨o, ho, hs⟩ := (pick_toList_iff hP _ _ _).mpr hstands
        exact ⟨⟨o⟩, (fill_iff ⟨o⟩).mpr ⟨hlength, ho⟩, hs⟩
  | _ => exact ⟨nofun, nofun⟩

end SimSettings

/-! ### The settings -/

namespace Settings

/-- The settings of a simulation in a tree, if they are there. -/
def sim? : Tree → Option SimSettings :=
  SimSettings.schema.means SimSettings.put

/-- What a value of a key makes of a draft. -/
def put (name : String) (d : Draft) (t : Tree) : Option Draft :=
  if name = "join_timeout_ms" then t.word64?.map fun v => { d with joinTimeoutMs := some v }
  else if name = "hook_interval" then t.word32?.map fun v => { d with hookInterval := some v }
  else (sim? t).map fun v => { d with sim := some v }

/-- The time to wait is put in its place. -/
theorem put_joinTimeoutMs (d : Draft) (t : Tree) : put "join_timeout_ms" d t
    = t.word64?.map fun v => { d with joinTimeoutMs := some v } :=
  if_pos rfl

/-- So is the interval. -/
theorem put_hookInterval (d : Draft) (t : Tree) : put "hook_interval" d t
    = t.word32?.map fun v => { d with hookInterval := some v } :=
  (if_neg (by decide)).trans (if_pos rfl)

/-- So are the settings of the simulation. -/
theorem put_sim (d : Draft) (t : Tree) :
    put "sim" d t = (sim? t).map fun v => { d with sim := some v } :=
  (if_neg (by decide)).trans (if_neg (by decide))

/-- Each member is put in the place of its name, and other names are passed over. -/
theorem understood : schema.Understood put where
  fields f hf := by
    simp only [schema, List.mem_cons, List.not_mem_nil, or_false] at hf
    rcases hf with rfl | rfl | rfl
    · exact (Codec.understands_word64 "u64").field _ _ _ _
    · exact (Codec.understands_word32 "u32").field _ _ _ _
    · exact (Schema.understands SimSettings.understood).field _ _ _ _
  lenient := rfl
  short := rfl

/-- A member is taken if its key is a text and its value one for the field of that name. -/
theorem enter_iff {d d' : Draft} : schema.enter put d m = some d'
    ↔ (Part.textOf m.1).isSome = true
      ∧ Entered "join_timeout_ms" Tree.word64? d.joinTimeoutMs m d'.joinTimeoutMs
      ∧ Entered "hook_interval" Tree.word32? d.hookInterval m d'.hookInterval
      ∧ Entered "sim" sim? d.sim m d'.sim := by
  unfold Schema.enter Entered
  cases Part.textOf m.1 with
  | none => simp
  | some key =>
    obtain ⟨join, hook, sim⟩ := d
    obtain ⟨join', hook', sim'⟩ := d'
    -- the key names one field or none, and a field that is set already is not entered again
    by_cases hjoin : key = "join_timeout_ms"
    · subst hjoin
      cases join with
      | some v => simp [Schema.entry, schema, Field.of]
      | none =>
        simp [Schema.entry, schema, Field.of, put]
        grind
    · by_cases hhook : key = "hook_interval"
      · subst hhook
        cases hook with
        | some v => simp [Schema.entry, schema, Field.of]
        | none =>
          simp [Schema.entry, schema, Field.of, put]
          grind
      · by_cases hsim : key = "sim"
        · subst hsim
          cases sim with
          | some v => simp [Schema.entry, schema, Field.of]
          | none =>
            simp [Schema.entry, schema, Field.of, put]
            grind
        · simp [Schema.entry, schema, Field.of, hjoin, hhook, hsim, Ne.symm hjoin, Ne.symm hhook,
            Ne.symm hsim]

/-- **The members are taken** if all keys are texts, and no field comes twice. -/
theorem foldlM_iff (ms : List Member) : ∀ d d' : Draft,
    ms.foldlM (schema.enter put) d = some d'
      ↔ Keyed ms
        ∧ pick Tree.word64? d.joinTimeoutMs (valuesOf "join_timeout_ms" ms) = some d'.joinTimeoutMs
        ∧ pick Tree.word32? d.hookInterval (valuesOf "hook_interval" ms) = some d'.hookInterval
        ∧ pick sim? d.sim (valuesOf "sim" ms) = some d'.sim := by
  -- by members again, now with three lists of values at once
  induction ms with
  | nil =>
    rintro ⟨join, hook, sim⟩ ⟨join', hook', sim'⟩
    simp [Keyed, valuesOf, pick_nil]
  | cons m ms ih =>
    intro d d'
    rw [List.foldlM_cons, pick_valuesOf_cons, pick_valuesOf_cons, pick_valuesOf_cons]
    simp only [Option.bind_eq_bind, Option.bind_eq_some_iff, enter_iff, ih, Keyed,
      List.forall_mem_cons]
    constructor
    · rintro ⟨d₁, ⟨hkey, hjoin, hhook, hsim⟩, hkeys, hjoins, hhooks, hsims⟩
      exact ⟨⟨hkey, hkeys⟩, ⟨_, hjoin, hjoins⟩, ⟨_, hhook, hhooks⟩, ⟨_, hsim, hsims⟩⟩
    · rintro ⟨⟨hkey, hkeys⟩, ⟨join, hjoin, hjoins⟩, ⟨hook, hhook, hhooks⟩, ⟨sim, hsim, hsims⟩⟩
      exact ⟨⟨join, hook, sim⟩, ⟨hkey, hjoin, hhook, hsim⟩, hkeys, hjoins, hhooks, hsims⟩

/-- The values of a list are those of the fields in order. -/
theorem fill_iff (d : Draft) : Schema.fill put schema.fields {} ts = some d
    ↔ ts.length ≤ 3
      ∧ pick Tree.word64? none ts[0]?.toList = some d.joinTimeoutMs
      ∧ pick Tree.word32? none ts[1]?.toList = some d.hookInterval
      ∧ pick sim? none ts[2]?.toList = some d.sim := by
  obtain ⟨join, hook, sim⟩ := d
  -- by the number of elements: each that is there stands for one field
  rcases ts with _ | ⟨t₀, _ | ⟨t₁, _ | ⟨t₂, _ | ⟨t₃, ts⟩⟩⟩⟩
  · change some (Draft.mk none none none) = _ ↔ _ ∧ some none = _ ∧ some none = _ ∧ some none = _
    simp
  · change (put "join_timeout_ms" {} t₀).bind some = _
      ↔ _ ∧ (t₀.word64?.bind fun v => some (some v)) = _ ∧ some none = _ ∧ some none = _
    rw [put_joinTimeoutMs]
    cases t₀.word64? <;> simp
  · change ((put "join_timeout_ms" {} t₀).bind fun d => (put "hook_interval" d t₁).bind some) = _
      ↔ _ ∧ (t₀.word64?.bind fun v => some (some v)) = _
        ∧ (t₁.word32?.bind fun v => some (some v)) = _ ∧ some none = _
    simp only [put_joinTimeoutMs, put_hookInterval]
    cases t₀.word64? <;> cases t₁.word32? <;> simp
  · change ((put "join_timeout_ms" {} t₀).bind fun d => (put "hook_interval" d t₁).bind fun d =>
        (put "sim" d t₂).bind some) = _
      ↔ _ ∧ (t₀.word64?.bind fun v => some (some v)) = _
        ∧ (t₁.word32?.bind fun v => some (some v)) = _
        ∧ ((sim? t₂).bind fun v => some (some v)) = _
    simp only [put_joinTimeoutMs, put_hookInterval, put_sim]
    cases t₀.word64? <;> cases t₁.word32? <;> cases sim? t₂ <;> simp
  · have hlong : ¬ (t₀ :: t₁ :: t₂ :: t₃ :: ts).length ≤ 3 := by
      simp
    refine ⟨fun h => ?_, fun h => absurd h.1 hlong⟩
    change ((put "join_timeout_ms" {} t₀).bind fun d => (put "hook_interval" d t₁).bind fun d =>
        (put "sim" d t₂).bind fun _ => none) = _ at h
    simp at h

/-- The fields that have not come have their defaults. -/
theorem finish_iff {d : Draft} {s : Settings} : (schema.finish d).toOption = some s
    ↔ d.joinTimeoutMs.getD 1000 = s.joinTimeoutMs ∧ d.hookInterval.getD 1000 = s.hookInterval
      ∧ d.sim.getD ⟨defaultNames⟩ = s.sim := by
  obtain ⟨join, hook, sim⟩ := s
  change some (ofDraft d) = _ ↔ _
  rw [Option.some_inj]
  unfold ofDraft
  rw [Settings.mk.injEq]
  rfl

/-- **What is read is what a value says about the settings.** -/
theorem means_iff (t : Tree) (s : Settings) : schema.means put t = some s ↔ Says t s := by
  cases t with
  | object ms =>
    simp only [Schema.means, Option.bind_eq_some_iff, finish_iff, foldlM_iff]
    constructor
    · rintro ⟨d, ⟨hkeys, hjoin, hhook, hsim⟩, hjoin', hhook', hsim'⟩
      exact .object hkeys ((pick_valuesOf_iff word64?_iff _ _ _ _).mp ⟨_, hjoin, hjoin'⟩)
        ((pick_valuesOf_iff word32?_iff _ _ _ _).mp ⟨_, hhook, hhook'⟩)
        ((pick_valuesOf_iff SimSettings.means_iff _ _ _ _).mp ⟨_, hsim, hsim'⟩)
    · intro h
      cases h with
      | object hkeys hjoin hhook hsim =>
        obtain ⟨join, hjoin, hjoin'⟩ := (pick_valuesOf_iff word64?_iff _ _ _ _).mpr hjoin
        obtain ⟨hook, hhook, hhook'⟩ := (pick_valuesOf_iff word32?_iff _ _ _ _).mpr hhook
        obtain ⟨sim, hsim, hsim'⟩ := (pick_valuesOf_iff SimSettings.means_iff _ _ _ _).mpr hsim
        exact ⟨⟨join, hook, sim⟩, ⟨hkeys, hjoin, hhook, hsim⟩, hjoin', hhook', hsim'⟩
  | list ts =>
    simp only [Schema.means, Option.bind_eq_some_iff, finish_iff]
    constructor
    · rintro ⟨d, hfill, hjoin', hhook', hsim'⟩
      obtain ⟨hlength, hjoin, hhook, hsim⟩ := (fill_iff d).mp hfill
      exact .list hlength ((pick_toList_iff word64?_iff _ _ _).mp ⟨_, hjoin, hjoin'⟩)
        ((pick_toList_iff word32?_iff _ _ _).mp ⟨_, hhook, hhook'⟩)
        ((pick_toList_iff SimSettings.means_iff _ _ _).mp ⟨_, hsim, hsim'⟩)
    · intro h
      cases h with
      | list hlength hjoin hhook hsim =>
        obtain ⟨join, hjoin, hjoin'⟩ := (pick_toList_iff word64?_iff _ _ _).mpr hjoin
        obtain ⟨hook, hhook, hhook'⟩ := (pick_toList_iff word32?_iff _ _ _).mpr hhook
        obtain ⟨sim, hsim, hsim'⟩ := (pick_toList_iff SimSettings.means_iff _ _ _).mpr hsim
        exact ⟨⟨join, hook, sim⟩, (fill_iff _).mpr ⟨hlength, hjoin, hhook, hsim⟩, hjoin', hhook',
          hsim'⟩
  | _ => exact ⟨nofun, nofun⟩

/-- **A text is read as what the value in it says about the settings**, however it is spelled. -/
theorem decode_iff {bs : List UInt8} (h : Spelled (.item t) bs) (s : Settings) :
    codec.decode bs = .ok s ↔ Says t s :=
  ((Schema.understands understood).decode_iff h s).trans (means_iff t s)

end Settings

end RobotSession
