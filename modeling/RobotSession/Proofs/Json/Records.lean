import RobotSession.Proofs.Json.Understanding

/-!
# Records that are understood

A record is read from an object or from a list of its fields. In an object the fields come in any
order, and between them may stand keys that no field has, with any values; a field that comes again
is refused. In a list the fields come in their order, and the last ones may be missing. What is
missing is a matter of the record, which is made of what was there.

* `Field.Understands` — a field reads what values mean to it.
* `Schema.enter`, `Schema.fill` — what a key with its value, and the values of a list, make of a draft.
* `Schema.means` — what a value means to a record.
* `Schema.understands` — the codec of a record whose fields are understood.
-/

namespace RobotSession.Json

open Reader

variable {α β δ : Type} {r : Schema δ α} {μ : String → δ → Tree → Option δ} {d : δ} {t : Tree}
  {ts : List Tree} {m : Member} {ms : List Member} {bs x y z rest : List UInt8} {b : UInt8}

/-! ### What values mean -/

/-- A field reads what values mean to a draft. -/
def Field.Understands (f : Field δ α) (meaning : δ → Tree → Option δ) : Prop :=
  ∀ ⦃d : δ⦄ ⦃t : Tree⦄ ⦃bs rest x : List UInt8⦄, Spelled (.value t) bs → Follows rest →
    solid x = bs ++ rest → (f.read d).Yields x (meaning d t) rest

theorem Codec.Understands.field {c : Codec β} {meaning : Tree → Option β} (hc : c.Understands meaning)
    (name : String) (draft : δ → Option β) (put : δ → β → δ) (value : α → β) :
    (Field.of name c draft put value).Understands fun d t => (meaning t).map (put d) :=
  fun _ _ _ _ _ h hrest hsolid => (hc h hrest hsolid).map

namespace Schema

/-- **What a value of a key makes of a draft**: it is entered if a field has that key and is not set,
and makes no difference if no field has it. -/
def entry (r : Schema δ α) (μ : String → δ → Tree → Option δ) (d : δ) (t : Tree) (key : String) :
    Option δ :=
  match r.fields.find? fun f => f.name = key with
  | some f => if f.isSet d then none else μ key d t
  | none => some d

/-- A key that is no text has no value. -/
def enter (r : Schema δ α) (μ : String → δ → Tree → Option δ) (d : δ) (m : Member) : Option δ :=
  (Part.textOf m.1).bind (r.entry μ d m.2)

/-- **What the values of a list make of a draft**, field by field. -/
def fill (μ : String → δ → Tree → Option δ) : List (Field δ α) → δ → List Tree → Option δ
  | _, d, [] => some d
  | [], _, _ :: _ => none
  | f :: fields, d, t :: ts => (μ f.name d t).bind fun d => fill μ fields d ts

/-- **What a value means to a record**: the record of the draft that its parts make. -/
def means (r : Schema δ α) (μ : String → δ → Tree → Option δ) : Tree → Option α
  | .object ms => (ms.foldlM (r.enter μ) r.start).bind fun d => (r.finish d).toOption
  | .list ts => (fill μ r.fields r.start ts).bind fun d => (r.finish d).toOption
  | _ => none

theorem yields_close (d : δ) (rest : List UInt8) :
    (r.close d).Yields rest (r.finish d).toOption rest := by
  unfold close
  cases r.finish d with
  | ok a => exact gives_pure _ _
  | error m => exact fails_mismatch m

end Schema

/-! ### Objects -/

namespace Reader

theorem gives_hasKey_end (first : Bool) (hsolid : solid x = 125 :: rest) :
    (hasKey first).Gives x false (125 :: rest) := by
  have hpeek := gives_peekSolid x
  rw [hsolid] at hpeek
  exact hpeek.bind (gives_pure _ _)

/-- The first key of an object comes. -/
theorem gives_hasKey_first (hsolid : solid x = 34 :: y) : (hasKey true).Gives x true (34 :: y) := by
  have hpeek := gives_peekSolid x
  rw [hsolid] at hpeek
  exact hpeek.bind (gives_pure _ _)

/-- Another key of an object comes, after a comma. -/
theorem gives_hasKey_next (hsolid : solid x = 44 :: y) (hnext : solid y = 34 :: z) :
    (hasKey false).Gives x true (34 :: z) := by
  have hpeek := gives_peekSolid x
  have hpeek' := gives_peekSolid y
  rw [hsolid] at hpeek
  rw [hnext] at hpeek'
  exact hpeek.bind (gives_skip.bind (hpeek'.bind (gives_pure _ _)))

theorem gives_colon (hsolid : solid x = 58 :: rest) : colon.Gives x () rest := by
  have hpeek := gives_peekSolid x
  rw [hsolid] at hpeek
  exact hpeek.bind gives_skip

theorem gives_objectEnd (hsolid : solid x = 125 :: rest) : objectEnd.Gives x () rest := by
  have hpeek := gives_peekSolid x
  rw [hsolid] at hpeek
  exact hpeek.bind gives_skip

end Reader

/-- There is an octet at least to every key of an object. -/
theorem Spelled.length_members (h : Spelled (.members ms) bs) : ms.length ≤ bs.length := by
  induction ms generalizing bs with
  | nil => exact Nat.zero_le _
  | cons m ms ih =>
    cases h with
    | lastMember h =>
      obtain ⟨y, hfront⟩ := h.solid_member []
      rw [List.append_nil] at hfront
      exact length_pos_of_solid hfront
    | nextMember h hs =>
      rw [List.length_append, List.length_cons, List.length_cons]
      exact Nat.le_trans (Nat.succ_le_succ (ih hs)) (Nat.le_add_left _ _)

/-- The keys of an object begin with one. -/
theorem Spelled.gives_hasKey (h : Spelled (.members ms) bs) (rest : List UInt8) :
    (hasKey true).Gives (bs ++ rest) true (solid (bs ++ rest)) := by
  obtain ⟨z, hfront⟩ := h.solid_members rest
  rw [hfront]
  exact gives_hasKey_first hfront

namespace Schema

/-- What is done after a key, and `next` with the draft then. -/
def keyed (r : Schema δ α) (d : δ) (next : δ → Reader δ) (key : String) : Reader δ :=
  match r.fields.find? fun f => f.name = key with
  | some f =>
    if f.isSet d then mismatch (.duplicateField key)
    else do
      colon
      let d ← f.read d
      next d
  | none =>
    if r.strict then mismatch (.unknownField key (r.fields.map (·.name)))
    else do
      colon
      skipValue
      next d

/-- **The fields of a record are understood**; others do no harm, and the last ones of a list may be
missing. -/
structure Understood (r : Schema δ α) (μ : String → δ → Tree → Option δ) : Prop where
  fields : ∀ f : Field δ α, f ∈ r.fields → f.Understands (μ f.name)
  lenient : r.strict = false
  short : r.full = none

theorem members_succ (r : Schema δ α) (fuel : Nat) (first : Bool) (d : δ) :
    r.members (fuel + 1) first d = (do
      if !(← hasKey first) then return d
      else
        skip
        r.keyed d (r.members fuel false) (← text)) := by
  conv => lhs; unfold members
  unfold keyed
  -- the two sides read the same; they differ in where the choice of the field stands
  refine congrArg (hasKey first >>= ·) (funext fun more => ?_)
  cases more with
  | false => rfl
  | true =>
    refine congrArg (skip >>= ·) (funext fun _ => congrArg (text >>= ·) (funext fun key => ?_))
    cases r.fields.find? fun f => f.name = key <;> rfl

/-- The value of a key is entered, or skipped. -/
theorem yields_keyed (hr : r.Understood μ) (h : Spelled (.item t) bs)
    (hrest : Follows rest) (hsolid : solid x = 58 :: (bs ++ rest)) {key : String}
    {next : δ → Reader δ} {o : δ → Option δ} {final : List UInt8}
    (hnext : ∀ d y, solid y = solid rest → (next d).Yields y (o d) final) :
    (r.keyed d next key).Yields x
      ((r.entry μ d t key).bind o) final := by
  obtain ⟨bs', y, hvalue, hfollows, hfront, hsame⟩ := h.value hrest rfl
  unfold keyed entry
  -- a key of the schema is read as its field, any other one is skipped with its value
  cases hfind : r.fields.find? fun f => f.name = key with
  | some f =>
    have hname : f.name = key := by simpa using List.find?_some hfind
    dsimp only
    split
    · exact fails_mismatch _
    · refine (gives_colon hsolid).yields ?_
      have hread := hr.fields f (List.mem_of_find?_eq_some hfind) (d := d) hvalue hfollows hfront
      rw [hname] at hread
      exact hread.bind fun d _ => hnext d y hsame
  | none =>
    dsimp only
    rw [if_neg (by rw [hr.lenient]; exact Bool.false_ne_true)]
    refine (gives_colon hsolid).yields ((gives_skipValue hvalue hfollows hfront).yields ?_)
    exact hnext d y hsame

/-- A key is taken with its value. -/
theorem yields_member (hr : r.Understood μ) (h : Spelled (.member m) bs) (hrest : Follows rest)
    {next : δ → Reader δ} {o : δ → Option δ} {final : List UInt8}
    (hnext : ∀ d y, solid y = solid rest → (next d).Yields y (o d) final) :
    (skip >>= fun _ => text >>= r.keyed d next).Yields (solid (bs ++ rest))
      ((r.enter μ d m).bind o) final := by
  cases h with
  | @member key t w w' bs hw hkey hw' h =>
    -- blanks may stand around the key
    have hfront : solid (w ++ 34 :: (Part.body key ++ 34 :: (w' ++ 58 :: bs)) ++ rest)
        = 34 :: (Part.body key ++ 34 :: (w' ++ 58 :: (bs ++ rest))) := by
      rw [List.append_assoc, solid_blanks hw, List.cons_append, solid_cons rfl]
      simp only [List.append_assoc, List.cons_append]
    have hcolon : solid (w' ++ 58 :: (bs ++ rest)) = 58 :: (bs ++ rest) :=
      (solid_blanks hw' _).trans (solid_cons rfl)
    rw [hfront]
    unfold enter
    rw [Option.bind_assoc]
    exact gives_skip.yields ((yields_text _ hkey).bind fun key _ => yields_keyed hr h hrest hcolon hnext)

/-- **The keys of an object are taken one by one**, up to the end. -/
theorem yields_members (hr : r.Understood μ) (h : Spelled (.members ms) bs) :
    ∀ {fuel first d x}, ms.length < fuel →
      (hasKey first).Gives x true (solid (bs ++ 125 :: rest)) →
      (r.members fuel first d).Yields x (ms.foldlM (r.enter μ) d) (125 :: rest) := by
  induction ms generalizing bs with
  | nil => cases h
  | cons m ms ih =>
    intro fuel first d x hfuel hfirst
    obtain ⟨fuel, rfl⟩ := Nat.exists_eq_succ_of_ne_zero (Nat.ne_zero_of_lt hfuel)
    have hfuel' : ms.length < fuel := Nat.lt_of_succ_lt_succ hfuel
    rw [members_succ, List.foldlM_cons]
    refine hfirst.yields ?_
    cases h with
    -- after the last member the brace is met, which costs one more unit of fuel
    | lastMember h =>
      refine yields_member hr h Follows.brace fun d y hy => ?_
      obtain ⟨fuel, rfl⟩ := Nat.exists_eq_succ_of_ne_zero (Nat.ne_zero_of_lt hfuel')
      exact Gives.bind (gives_hasKey_end false (hy.trans (solid_cons rfl))) (gives_pure _ _)
    | @nextMember _ _ bs bs' h hs =>
      have hcomma : solid (44 :: bs' ++ 125 :: rest) = 44 :: (bs' ++ 125 :: rest) := solid_cons rfl
      obtain ⟨z, hfront⟩ := hs.solid_members (125 :: rest)
      rw [List.append_assoc]
      refine yields_member hr h Follows.comma fun d y hy => ih hs hfuel' ?_
      rw [hfront]
      exact gives_hasKey_next (hy.trans hcomma) hfront

end Schema

/-! ### Lists -/

namespace Reader

variable {q : Reader α} {f : α → Reader β} {g : α → Option β} {o : Option α} {close : Reader Unit}

/-- Something is read inside what encloses it, and then the rest. -/
theorem yields_closing_bind (h : q.Yields x o y)
    (hf : ∀ a, o = some a → (closing close (f a)).Yields y (g a) rest) :
    (closing close (q >>= f)).Yields x (o.bind g) rest := by
  cases o with
  | some a =>
    refine Yields.of_step (fun p => ?_) (hf a rfl)
    obtain ⟨p', hp⟩ := h p
    refine ⟨p', ?_⟩
    unfold closing
    rw [bind_ok hp]
  | none => exact Fails.closing (Fails.bind h)

/-- What does not end where it should is refused. -/
theorem fails_closing (h : q.Yields x o y) (hclose : close.Fails y) : (closing close q).Fails x := by
  cases o with
  | some a =>
    intro p
    obtain ⟨p', hp⟩ := h p
    obtain ⟨e, c, hp'⟩ := hclose p'
    unfold closing
    rw [hp]
    dsimp only
    rw [hp']
    exact ⟨e, c, rfl⟩
  | none => exact Fails.closing h

/-- A list does not end before a value or a comma. -/
theorem fails_listEnd (hsolid : solid x = b :: y) (hb : b ≠ 93) : listEnd.Fails x := by
  have hpeek := gives_peekSolid x
  rw [hsolid] at hpeek
  refine hpeek.fails ?_
  dsimp only [List.head?_cons]
  rw [if_neg hb]
  split
  · refine gives_skip.fails ((gives_peekSolid _).fails ?_)
    split
    · exact fails_failNext _
    · exact fails_failNext _
  · exact fails_failNext _

end Reader

namespace Schema

/-- A list may end before a field. -/
theorem yields_elements_end (hr : r.Understood μ) (fields : List (Field δ α)) (count : Nat)
    (hsolid : solid x = 93 :: rest) :
    (closing listEnd (r.elements fields count d >>= r.close)).Yields x
      ((fill μ fields d []).bind fun d => (r.finish d).toOption) rest := by
  cases fields with
  | nil => exact (yields_close d x).closing (gives_listEnd hsolid)
  | cons f fields =>
    -- the list ends early, and the fields left over are filled by their defaults
    have hnone : (r.elements (f :: fields) count d).Gives x d (93 :: rest) := by
      unfold elements
      refine (gives_hasElement_end _ hsolid).bind ?_
      rw [if_neg Bool.false_ne_true, hr.short]
      exact gives_pure _ _
    exact (hnone.yields (yields_close d _)).closing (gives_listEnd (solid_cons rfl))

/-- **The values of a list are taken field by field**, up to the end. -/
theorem yields_elements (hr : r.Understood μ) (h : Spelled (.items ts) bs) :
    ∀ {fields : List (Field δ α)} {count d x}, fields ⊆ r.fields →
      (hasElement (count = 0)).Gives x true (solid (bs ++ 93 :: rest)) →
      (∃ b y, solid x = b :: y ∧ b ≠ 93) →
      (closing listEnd (r.elements fields count d >>= r.close)).Yields x
        ((fill μ fields d ts).bind fun d => (r.finish d).toOption) rest := by
  induction ts generalizing bs with
  | nil => cases h
  | cons t ts ih =>
    intro fields count d x hfields hfirst hmore
    cases fields with
    | nil =>
      obtain ⟨b, y, hsolid, hb⟩ := hmore
      -- more elements than fields: the bracket is expected where an element is
      exact fails_closing (yields_close d x) (fails_listEnd hsolid hb)
    | cons f fields =>
      obtain ⟨hf, hfields⟩ := List.cons_subset.mp hfields
      -- one element is read into its field, whatever comes behind it
      have hread : ∀ {bs rest'}, Spelled (.item t) bs → Follows rest' →
          (∀ d y, solid y = solid rest' →
            (closing listEnd (r.elements fields (count + 1) d >>= r.close)).Yields y
              ((fill μ fields d ts).bind fun d => (r.finish d).toOption) rest) →
          (hasElement (count = 0)).Gives x true (solid (bs ++ rest')) →
          (closing listEnd (r.elements (f :: fields) count d >>= r.close)).Yields x
            ((fill μ (f :: fields) d (t :: ts)).bind fun d => (r.finish d).toOption) rest := by
        intro bs rest' h hrest' hnext hfirst
        obtain ⟨bs', y, hvalue, hfollows, hfront, hsame⟩ := h.value hrest' (solid_solid _)
        have hfill : (fill μ (f :: fields) d (t :: ts)).bind (fun d => (r.finish d).toOption)
            = (some true).bind fun _ => (μ f.name d t).bind fun d =>
              (fill μ fields d ts).bind fun d => (r.finish d).toOption :=
          Option.bind_assoc _ _ _
        rw [elements, bind_assoc, hfill]
        refine yields_closing_bind hfirst fun more hsome => ?_
        rw [← Option.some.inj hsome, if_pos rfl, bind_assoc]
        exact yields_closing_bind (hr.fields f hf hvalue hfollows hfront) fun d _ => hnext d y hsame
      cases h with
      | lastItem h =>
        exact hread h Follows.bracket
          (fun d y hy => yields_elements_end hr _ _ (hy.trans (solid_cons rfl))) hfirst
      | @nextItem _ _ bs bs' h hs =>
        have hcomma : solid (44 :: bs' ++ 93 :: rest) = 44 :: (bs' ++ 93 :: rest) := solid_cons rfl
        obtain ⟨b, z, hfront, -, hb⟩ := hs.solid_items (93 :: rest)
        rw [List.append_assoc] at hfirst
        refine hread h Follows.comma (fun d y hy => ih hs hfields ?_ ?_) hfirst
        · rw [hfront]
          exact gives_hasElement_next (hy.trans hcomma) hfront hb
        · exact ⟨_, _, hy.trans hcomma, by decide⟩

/-! ### Records -/

/-- **A record is read as what a value means to it**, however it is spelled. -/
theorem understands (hr : r.Understood μ) : r.codec.Understands (r.means μ) := by
  intro t bs rest x h hrest hsolid
  obtain ⟨b, y, hfront, hb⟩ := h.front hsolid
  cases t with
  | list ts =>
    cases h with
    | @noItems w hw =>
      rw [List.cons_append, List.append_assoc] at hsolid
      refine yields_starting hsolid (if_pos rfl) (gives_skip.yields ?_)
      exact yields_elements_end hr _ _ ((solid_blanks hw _).trans (solid_cons rfl))
    | @list _ bs h =>
      rw [List.cons_append, List.append_assoc] at hsolid
      refine yields_starting hsolid (if_pos rfl) (gives_skip.yields ?_)
      obtain ⟨b, z, hfirst, -, hb⟩ := h.solid_items (93 :: rest)
      exact yields_elements hr h (List.Subset.refl _) (h.gives_hasElement _) ⟨b, z, hfirst, hb⟩
  | object ms =>
    cases h with
    | @noMembers w hw =>
      rw [List.cons_append, List.append_assoc] at hsolid
      refine yields_starting hsolid rfl (gives_skip.yields ?_)
      refine Yields.closing (gives_left.yields ?_) (gives_objectEnd (solid_cons rfl))
      refine Gives.yields ?_ (yields_close r.start _)
      exact Gives.bind (gives_hasKey_end true ((solid_blanks hw _).trans (solid_cons rfl)))
        (gives_pure _ _)
    | @object _ bs h =>
      rw [List.cons_append, List.append_assoc] at hsolid
      refine yields_starting hsolid rfl (gives_skip.yields ?_)
      refine Yields.closing (gives_left.yields ?_) (gives_objectEnd (solid_cons rfl))
      refine Yields.bind (yields_members hr h ?_ (h.gives_hasKey _)) fun d _ => yields_close d _
      exact Nat.lt_succ_of_le (Nat.le_trans h.length_members (length_le_append bs (125 :: rest)))
  | _ =>
    refine fails_starting hfront ((if_neg fun hbracket => ?_).trans (if_neg fun hbrace => ?_))
    · -- the opening octet of any other value is neither bracket
      exact (hb.opening.2.1 hbracket).elim nofun
    · exact (hb.opening.2.2 hbrace).elim nofun

end Schema
end RobotSession.Json
