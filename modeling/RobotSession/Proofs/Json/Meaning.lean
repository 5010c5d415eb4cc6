import RobotSession.Proofs.Json.Skipping

/-!
# What a value means to a type

Every type makes of a value what it can: a number is one for a type of numbers, if it has neither
point nor exponent and is not too large; a text is one however it is escaped; everything else is
refused. A codec understands values as a type does if it reads them so, however they are spelled.

* `Reader.Yields` — a reader gives a value, or fails if there is none.
* `Codec.Understands` — a codec reads what values mean.
* `Tree.natural?`, `Tree.string?`, `Tree.strings?` — what values mean to plain types.
* `Codec.decode_iff` — whole texts.
-/

namespace RobotSession.Json

open Reader

namespace Reader

variable {α β : Type} {r : Reader α} {f : α → Reader β} {a : α} {o : Option α} {o' : Option β}
  {b : UInt8} {bs bs' x y rest ds : List UInt8} {parts : List Part} {n : Numeral}

/-- **A reader gives a value, or fails if there is none.** -/
def Yields (r : Reader α) (bs : List UInt8) (o : Option α) (rest : List UInt8) : Prop :=
  match o with
  | some a => r.Gives bs a rest
  | none => r.Fails bs

/-- A reader goes on where the other has stopped. -/
theorem Gives.yields (h : r.Gives bs a bs') (hf : (f a).Yields bs' o' rest) :
    (r >>= f).Yields bs o' rest := by
  cases o' with
  | some y => exact h.bind hf
  | none => exact h.fails hf

/-- So it does where the first one may fail. -/
theorem Yields.bind {g : α → Option β} (h : r.Yields bs o bs')
    (hf : ∀ a, o = some a → (f a).Yields bs' (g a) rest) : (r >>= f).Yields bs (o.bind g) rest := by
  cases o with
  | some a => exact Gives.yields h (hf a rfl)
  | none => exact Fails.bind h

/-- Something may be made of the value. -/
theorem Yields.map {g : α → β} (h : r.Yields bs o rest) :
    (r >>= fun a => pure (g a)).Yields bs (o.map g) rest := by
  cases o with
  | some a => exact Gives.bind h (gives_pure _ _)
  | none => exact Fails.bind h

/-- An error is placed. -/
theorem Yields.placed (h : r.Yields bs o rest) : (placed r).Yields bs o rest := by
  cases o with
  | some a => exact Gives.placed h
  | none => exact Fails.placed h

/-- A reader that goes on like another one yields the same. -/
theorem Yields.of_step {r' : Reader α} (hstep : ∀ p, ∃ p', r ⟨x, p⟩ = r' ⟨y, p'⟩)
    (h : r'.Yields y o rest) : r.Yields x o rest := by
  -- a step that both readers share changes neither a value nor a refusal, only the place
  cases o with
  | some a =>
    intro p
    obtain ⟨p', hp⟩ := hstep p
    obtain ⟨p'', hp'⟩ := h p'
    exact ⟨p'', hp.trans hp'⟩
  | none =>
    intro p
    obtain ⟨p', hp⟩ := hstep p
    obtain ⟨e, c, hp'⟩ := h p'
    exact ⟨e, c, hp.trans hp'⟩

/-- A reader fails if what comes after it fails on whatever it gives. -/
theorem error_bind {c : Cursor} (h : ∀ a c', r c = .ok a c' → ∃ e c'', f a c' = .error e c'') :
    ∃ e c', (r >>= f) c = .error e c' := by
  cases hr : r c with
  | ok a c' =>
    obtain ⟨e, c'', hfail⟩ := h a c' hr
    exact ⟨e, c'', (bind_ok hr).trans hfail⟩
  | error e c' =>
    refine ⟨e, c', ?_⟩
    change EStateM.bind r f _ = _
    unfold EStateM.bind
    rw [hr]

/-- A reader fails if what follows it does. -/
theorem fails_bind (hf : ∀ a bs, (f a).Fails bs) : (r >>= f).Fails bs :=
  fun _ => error_bind fun a c _ => hf a c.rest c.place

/-! ### Values of another type -/

/-- **A value that is not expected is refused**, whatever it is. -/
theorem fails_unexpected (expected : String) : (unexpected expected : Reader α).Fails bs := by
  -- whatever is there, it is named in the failure
  have hword : ∀ (w : List UInt8) (m : Mismatch),
      (skip >>= fun _ => word w >>= fun _ => mismatch m : Reader α).Fails bs :=
    fun w m => fails_bind fun _ _ => fails_bind fun _ _ => fails_mismatch m
  refine Fails.placed (gives_peek.fails ?_)
  split
  · exact hword _ _
  · exact hword _ _
  · exact hword _ _
  · exact fails_bind fun _ _ => fails_bind fun _ _ => fails_mismatch _
  · exact fails_bind fun _ _ => fails_bind fun _ _ => fails_mismatch _
  · exact fails_mismatch _
  · exact fails_mismatch _
  · split
    · exact fails_bind fun _ _ => fails_mismatch _
    · exact fails_failNext _
  · exact fails_failNext _

variable {expected : String} {start : UInt8 → Option (Reader α)}

/-- A value is read by what it begins with. -/
theorem yields_starting (hsolid : solid x = b :: y) (hstart : start b = some r)
    (h : r.Yields (b :: y) o rest) : (starting expected start).Yields x o rest := by
  have hpeek := gives_peekSolid x
  rw [hsolid] at hpeek
  refine hpeek.yields ?_
  dsimp only [List.head?_cons]
  rw [hstart]
  exact h.placed

/-- A value that begins otherwise is refused. -/
theorem fails_starting (hsolid : solid x = b :: y) (hstart : start b = none) :
    (starting expected start).Fails x := by
  have hpeek := gives_peekSolid x
  rw [hsolid] at hpeek
  refine hpeek.fails ?_
  dsimp only [List.head?_cons]
  rw [hstart]
  exact fails_unexpected expected

/-! ### Texts -/

/-- The octet that is wanted is taken. -/
theorem gives_surrogatePart (b : UInt8) (x : List UInt8) : (surrogatePart b).Gives (b :: x) () x := by
  unfold surrogatePart
  refine gives_peek.bind (gives_skip.bind ?_)
  rw [if_neg (not_not.mpr rfl)]
  exact gives_pure _ _

/-- Any other one is refused. -/
theorem fails_surrogatePart {b b' : UInt8} (h : b' ≠ b) (x : List UInt8) :
    (surrogatePart b).Fails (b' :: x) := by
  unfold surrogatePart
  refine gives_peek.fails (gives_skip.fails ?_)
  rw [if_pos h]
  exact fails_failHere _

section Codes

variable {i j k l : UInt8}

/-- A code that has to stand after another one is refused. -/
theorem fails_codeEscape_trailing (h : (Part.code i j k l).IsValid)
    (htrailing : Part.isTrailing (Part.codeOf i j k l) = true) :
    codeEscape.Fails (i :: j :: k :: l :: x) := by
  unfold codeEscape
  refine (gives_hexEscape h).fails ?_
  unfold Part.isTrailing at htrailing
  rw [if_pos htrailing]
  exact fails_failHere _

/-- A code that is no surrogate stands for a character. -/
theorem gives_codeEscape (h : (Part.code i j k l).IsValid)
    (htrailing : ¬ Part.isTrailing (Part.codeOf i j k l) = true)
    (hleading : (!Part.isLeading (Part.codeOf i j k l)) = true) :
    codeEscape.Gives (i :: j :: k :: l :: x) (Text.Utf8.encodeExtended (Part.codeOf i j k l)) x := by
  unfold codeEscape
  refine (gives_hexEscape h).bind ?_
  unfold Part.isTrailing at htrailing
  unfold Part.isLeading at hleading
  rw [if_neg htrailing, if_pos (by simp at hleading ⊢; omega)]
  exact gives_pure _ _

/-- After a leading surrogate another code has to follow. -/
theorem yields_codeEscape_leading (rest : List UInt8) (h : (Part.code i j k l).IsValid)
    (htrailing : ¬ Part.isTrailing (Part.codeOf i j k l) = true)
    (hleading : ¬ (!Part.isLeading (Part.codeOf i j k l)) = true) {o : Option (List UInt8)}
    (hnext : (do
      surrogatePart 92
      surrogatePart 117
      let m ← hexEscape
      if m < 0xDC00 || 0xDFFF < m then failHere .loneSurrogate
      else pure (Text.Utf8.encodeExtended
        ((Part.codeOf i j k l - 0xD800) * 1024 + (m - 0xDC00) + 0x10000)) :
      Reader (List UInt8)).Yields x o rest) :
    codeEscape.Yields (i :: j :: k :: l :: x) o rest := by
  unfold codeEscape
  refine (gives_hexEscape h).yields ?_
  -- the reader compares numbers where the grammar speaks of halves
  unfold Part.isTrailing at htrailing
  unfold Part.isLeading at hleading
  rw [if_neg htrailing, if_neg (by simp at hleading ⊢; omega)]
  exact hnext

section Pairs

variable {i' j' k' l' : UInt8}

/-- A leading surrogate and a trailing one stand for a character together. -/
theorem gives_codeEscape_pair (h : (Part.code i j k l).IsValid) (h' : (Part.code i' j' k' l').IsValid)
    (htrailing : ¬ Part.isTrailing (Part.codeOf i j k l) = true)
    (hleading : ¬ (!Part.isLeading (Part.codeOf i j k l)) = true)
    (htrailing' : Part.isTrailing (Part.codeOf i' j' k' l') = true) :
    codeEscape.Gives (i :: j :: k :: l :: 92 :: 117 :: i' :: j' :: k' :: l' :: x)
      (Text.Utf8.encodeExtended ((Part.codeOf i j k l - 0xD800) * 1024
        + (Part.codeOf i' j' k' l' - 0xDC00) + 0x10000)) x := by
  -- after a leading half the reader insists on a backslash, a `u` and four digits
  refine yields_codeEscape_leading _ (o := some _) h htrailing hleading ?_
  refine (gives_surrogatePart 92 _).bind ((gives_surrogatePart 117 _).bind
    ((gives_hexEscape h').bind ?_))
  -- the second code is a trailing half, so the two are put together
  unfold Part.isTrailing at htrailing'
  rw [if_neg (by simp at htrailing' ⊢; omega)]
  exact gives_pure _ _

/-- A leading surrogate stands for nothing before a code that is not a trailing one. -/
theorem fails_codeEscape_pair (h : (Part.code i j k l).IsValid) (h' : (Part.code i' j' k' l').IsValid)
    (htrailing : ¬ Part.isTrailing (Part.codeOf i j k l) = true)
    (hleading : ¬ (!Part.isLeading (Part.codeOf i j k l)) = true)
    (htrailing' : ¬ Part.isTrailing (Part.codeOf i' j' k' l') = true) :
    codeEscape.Fails (i :: j :: k :: l :: 92 :: 117 :: i' :: j' :: k' :: l' :: x) := by
  refine yields_codeEscape_leading [] (o := none) h htrailing hleading ?_
  refine (gives_surrogatePart 92 _).fails ((gives_surrogatePart 117 _).fails
    ((gives_hexEscape h').fails ?_))
  unfold Part.isTrailing at htrailing'
  rw [if_pos (by simp at htrailing' ⊢; omega)]
  exact fails_failHere _

end Pairs

/-- A leading surrogate stands for nothing before anything else than a code. -/
theorem fails_codeEscape_lone (h : (Part.code i j k l).IsValid)
    (htrailing : ¬ Part.isTrailing (Part.codeOf i j k l) = true)
    (hleading : ¬ (!Part.isLeading (Part.codeOf i j k l)) = true) (hparts : ∀ part ∈ parts, part.IsValid)
    (hno : ∀ i j k l more, parts ≠ .code i j k l :: more) :
    codeEscape.Fails (i :: j :: k :: l :: (Part.body parts ++ 34 :: x)) := by
  refine yields_codeEscape_leading [] (o := none) h htrailing hleading ?_
  -- what comes instead of the next code is the end, an octet or a short escape
  cases parts with
  | nil => exact Fails.bind (fails_surrogatePart (by decide) _)
  | cons part parts =>
    obtain ⟨hpart, -⟩ := List.forall_mem_cons.mp hparts
    cases part with
    | octet b => exact Fails.bind (fails_surrogatePart hpart.2.1 _)
    | short b =>
      refine (gives_surrogatePart 92 _).fails (Fails.bind (fails_surrogatePart ?_ _))
      rintro rfl
      cases hpart
    | code i j k l => exact absurd rfl (hno i j k l parts)

end Codes

/-- An escape is read, and then the parts after it. -/
theorem yields_textOctets_escape {fuel : Nat} {done : List UInt8} {meant : Option (List UInt8)}
    (hescape : escape.Gives y bs x)
    (h : (textOctets fuel (bs.reverse ++ done)).Yields x
      (meant.map ((bs.reverse ++ done).reverse ++ ·)) rest) :
    (textOctets (fuel + 1) done).Yields (92 :: y)
      ((meant.map (bs ++ ·)).map (done.reverse ++ ·)) rest := by
  rw [Option.map_map]
  have hsame : ((done.reverse ++ ·) ∘ (bs ++ ·)) = ((bs.reverse ++ done).reverse ++ ·) := by
    funext z
    simp only [Function.comp_apply, List.reverse_append, List.reverse_reverse, List.append_assoc]
  rw [hsame]
  exact gives_next.yields (hescape.yields h)

/-- A text fails with its escape. -/
theorem fails_textOctets_escape {fuel : Nat} {done : List UInt8} (hescape : escape.Fails y) :
    (textOctets (fuel + 1) done).Fails (92 :: y) :=
  gives_next.fails hescape.bind

/-- **A text is read as what its parts stand for**, octet by octet. -/
theorem yields_textOctets (rest : List UInt8) (h : ∀ part ∈ parts, part.IsValid) :
    ∀ fuel done, (Part.body parts).length < fuel →
      (textOctets fuel done).Yields (Part.body parts ++ 34 :: rest)
        ((Part.meant parts).map (done.reverse ++ ·)) rest := by
  -- as the octets that parts stand for are found, two codes at a time
  induction parts using Part.meant.induct with
  | case1 =>
    intro fuel done hfuel
    obtain ⟨fuel, rfl⟩ := Nat.exists_eq_succ_of_ne_zero (Nat.ne_zero_of_lt hfuel)
    unfold textOctets Part.meant
    refine gives_next.bind ?_
    dsimp only
    rw [if_pos rfl, List.append_nil]
    exact gives_pure _ _
  | case2 b parts ih =>
    intro fuel done hfuel
    obtain ⟨fuel, rfl⟩ := Nat.exists_eq_succ_of_ne_zero (Nat.ne_zero_of_lt hfuel)
    obtain ⟨⟨hquote, hslash, hlow⟩, hparts⟩ := List.forall_mem_cons.mp h
    have hmore := ih hparts fuel (b :: done) (Nat.lt_of_succ_lt_succ hfuel)
    unfold textOctets Part.meant
    refine gives_next.yields ?_
    dsimp only
    rw [if_neg hquote, if_neg hslash, if_neg hlow, Option.map_map]
    rw [List.reverse_cons] at hmore
    simp only [List.append_assoc, List.singleton_append] at hmore
    exact hmore
  | case3 b parts ih =>
    intro fuel done hfuel
    obtain ⟨fuel, rfl⟩ := Nat.exists_eq_succ_of_ne_zero (Nat.ne_zero_of_lt hfuel)
    obtain ⟨hshort, hparts⟩ := List.forall_mem_cons.mp h
    obtain ⟨v, hv⟩ := Option.isSome_iff_exists.mp hshort
    have hescape : escape.Gives (b :: (Part.body parts ++ 34 :: rest)) [v]
      (Part.body parts ++ 34 :: rest) := (takes_escape hv).gives _
    unfold Part.meant
    rw [hv]
    exact yields_textOctets_escape hescape
      (ih hparts fuel _ (Nat.lt_of_succ_lt (Nat.lt_of_succ_lt_succ hfuel)))
  | case4 i j k l parts n htrailing =>
    intro fuel done hfuel
    obtain ⟨fuel, rfl⟩ := Nat.exists_eq_succ_of_ne_zero (Nat.ne_zero_of_lt hfuel)
    obtain ⟨hcode, -⟩ := List.forall_mem_cons.mp h
    unfold Part.meant
    rw [if_pos htrailing]
    exact fails_textOctets_escape (gives_next.fails (fails_codeEscape_trailing hcode htrailing))
  | case5 i j k l parts n htrailing hleading ih =>
    intro fuel done hfuel
    obtain ⟨fuel, rfl⟩ := Nat.exists_eq_succ_of_ne_zero (Nat.ne_zero_of_lt hfuel)
    obtain ⟨hcode, hparts⟩ := List.forall_mem_cons.mp h
    have hescape : escape.Gives (117 :: i :: j :: k :: l :: (Part.body parts ++ 34 :: rest))
        (Text.Utf8.encodeExtended n) (Part.body parts ++ 34 :: rest) :=
      gives_next.bind (gives_codeEscape hcode htrailing hleading)
    unfold Part.meant
    rw [if_neg htrailing, if_pos hleading]
    refine yields_textOctets_escape hescape (ih hparts fuel _ ?_)
    have hlength : (Part.body parts).length + 6 < fuel + 1 := hfuel
    omega
  | case6 i j k l n htrailing hleading i' j' k' l' parts m htrailing' ih =>
    intro fuel done hfuel
    obtain ⟨fuel, rfl⟩ := Nat.exists_eq_succ_of_ne_zero (Nat.ne_zero_of_lt hfuel)
    obtain ⟨hcode, hmore⟩ := List.forall_mem_cons.mp h
    obtain ⟨hcode', hparts⟩ := List.forall_mem_cons.mp hmore
    have hlength : (Part.body parts).length + 6 + 6 < fuel + 1 := hfuel
    have hpair := gives_codeEscape_pair (x := Part.body parts ++ 34 :: rest) hcode hcode' htrailing
      hleading htrailing'
    unfold Part.meant
    rw [if_neg htrailing, if_neg hleading]
    dsimp only
    rw [if_pos htrailing']
    exact yields_textOctets_escape (gives_next.bind hpair) (ih hparts fuel _ (by omega))
  | case7 i j k l n htrailing hleading i' j' k' l' parts m htrailing' =>
    intro fuel done hfuel
    obtain ⟨fuel, rfl⟩ := Nat.exists_eq_succ_of_ne_zero (Nat.ne_zero_of_lt hfuel)
    obtain ⟨hcode, hmore⟩ := List.forall_mem_cons.mp h
    obtain ⟨hcode', hparts⟩ := List.forall_mem_cons.mp hmore
    have hlone := fails_codeEscape_pair (x := Part.body parts ++ 34 :: rest) hcode hcode' htrailing
      hleading htrailing'
    unfold Part.meant
    rw [if_neg htrailing, if_neg hleading]
    dsimp only
    rw [if_neg htrailing']
    exact fails_textOctets_escape (gives_next.fails hlone)
  | case8 i j k l parts n htrailing hleading hno =>
    intro fuel done hfuel
    obtain ⟨fuel, rfl⟩ := Nat.exists_eq_succ_of_ne_zero (Nat.ne_zero_of_lt hfuel)
    obtain ⟨hcode, hparts⟩ := List.forall_mem_cons.mp h
    have hlone := fails_codeEscape_lone (x := rest) hcode htrailing hleading hparts
      fun i j k l more hmore => hno i j k l more hmore
    have hnone : Part.meant (.code i j k l :: parts) = none := by
      unfold Part.meant
      rw [if_neg htrailing, if_neg hleading]
      split
      · exact (hno _ _ _ _ _ rfl).elim
      · rfl
    rw [hnone]
    exact fails_textOctets_escape (gives_next.fails hlone)

/-- A reader that looks at its place yields the same at every place. -/
theorem yields_get {f : Cursor → Reader α} (h : ∀ p, (f ⟨bs, p⟩).Yields bs o rest) :
    (get >>= f).Yields bs o rest := by
  cases o with
  | some a => exact fun p => h p p
  | none => exact fun p => h p p

/-- **A text is read as the text that its parts stand for**, if there is one. -/
theorem yields_text (rest : List UInt8) (h : ∀ part ∈ parts, part.IsValid) :
    text.Yields (Part.body parts ++ 34 :: rest) (Part.textOf parts) rest := by
  have hoctets := yields_textOctets rest h ((Part.body parts ++ 34 :: rest).length + 1) []
    (Nat.lt_succ_of_le (length_le_append _ _))
  have hsame : (Part.meant parts).map (([] : List UInt8).reverse ++ ·) = Part.meant parts :=
    Option.map_id'
  rw [hsame] at hoctets
  refine yields_get fun p => Yields.bind hoctets fun bs _ => ?_
  cases Text.Utf8.decode? bs.toByteArray with
  | some s => exact gives_pure _ _
  | none => exact yields_get (o := none) fun _ _ => ⟨_, _, rfl⟩

/-! ### Numbers -/

/-- What a reader gives, if it gives anything, is of some kind. -/
def Only (r : Reader α) (P : α → Prop) : Prop :=
  ∀ c a c', r c = .ok a c' → P a

/-- What is read in two parts has been read by both. -/
theorem of_bind_ok {c c' : Cursor} {y : β} (h : (r >>= f) c = .ok y c') :
    ∃ a c₁, r c = .ok a c₁ ∧ f a c₁ = .ok y c' := by
  change EStateM.bind r f c = _ at h
  unfold EStateM.bind at h
  split at h
  · exact ⟨_, _, ‹_›, h⟩
  · cases h

/-- What is read last decides. -/
theorem Only.bind {P : β → Prop} (h : ∀ a, (f a).Only P) : (r >>= f).Only P := by
  intro c y c' hok
  obtain ⟨a, c₁, -, hf⟩ := of_bind_ok hok
  exact h a _ _ _ hf

/-- A value is given if it may be. -/
theorem only_pure {P : α → Prop} (h : P a) : (pure a : Reader α).Only P := by
  rintro c _ _ ⟨⟩
  exact h

/-- A fault gives none. -/
theorem only_fault {P : α → Prop} (fault : Fault) :
    (failNext fault : Reader α).Only P ∧ (failHere fault : Reader α).Only P :=
  ⟨nofun, nofun⟩

/-- A number that is not whole, or that is too large for one. -/
def IsFloat (n : Number) : Prop :=
  ∃ x, n = .float x

/-- A number with a point, with an exponent or with digits that were dropped is not whole. -/
theorem isFloat_numberRest {positive : Bool} {n dropped : Nat} {c c' : Cursor} {a : Number}
    (hwhole : dropped ≠ 0 ∨ c.rest.head? = some 46 ∨ c.rest.head? = some 101
      ∨ c.rest.head? = some 69)
    (h : numberRest positive n dropped c = .ok a c') : IsFloat a := by
  have hfloat : ∀ r : Reader Float, (r >>= fun x => pure (Number.float x)).Only IsFloat :=
    fun r => .bind fun x => only_pure ⟨x, rfl⟩
  unfold numberRest at h
  obtain ⟨head, c₁, ⟨⟩, h⟩ := of_bind_ok h
  generalize c.rest.head? = head at h hwhole
  split at h
  · exact hfloat _ _ _ _ h
  · exact hfloat _ _ _ _ h
  · exact hfloat _ _ _ _ h
  · rename_i hpoint hlower hupper
    -- no point and no exponent, so that digits have been dropped
    rcases hwhole with hdropped | hhead | hhead | hhead
    · rw [if_pos hdropped] at h
      exact hfloat _ _ _ _ h
    · exact (hpoint hhead).elim
    · exact (hlower hhead).elim
    · exact (hupper hhead).elim

/-- After a sign there is no number that is not negative. -/
theorem only_number_negative :
    (number false).Only fun n => IsFloat n ∨ ∃ i < 0, n = .negative i := by
  have hfloat : ∀ r : Reader Float, (r >>= fun x => pure (Number.float x)).Only fun n =>
      IsFloat n ∨ ∃ i < 0, n = .negative i :=
    fun r => .bind fun x => only_pure (.inl ⟨x, rfl⟩)
  -- behind a sign a number is a float or below zero
  have hrest : ∀ n dropped, (numberRest false n dropped).Only fun n =>
      IsFloat n ∨ ∃ i < 0, n = .negative i := by
    intro n dropped
    unfold numberRest
    refine .bind fun head => ?_
    split
    · exact hfloat _
    · exact hfloat _
    · exact hfloat _
    · split
      · exact hfloat _
      · rw [if_neg Bool.false_ne_true]
        split
        · exact only_pure (.inl ⟨_, rfl⟩)
        · rename_i hsmall
          refine only_pure (.inr ⟨_, ?_, rfl⟩)
          simp at hsmall
          omega
  unfold number
  refine .bind fun head => ?_
  split
  · exact (only_fault _).2
  · split
    · refine .bind fun head => ?_
      split
      · split
        · exact (only_fault _).1
        · exact hrest _ _
      · exact hrest _ _
    · split
      · exact .bind fun _ => .bind fun _ => .bind fun _ => .bind fun _ => hrest _ _
      · exact (only_fault _).2

/-- Digits that would lead beyond the limit are left. -/
theorem digits_beyond {limit : Nat} (rest : List UInt8) (ds : List UInt8) :
    ∀ (fuel n count : Nat) (p : Place), (∀ d ∈ ds, isDigit d = true) → n ≤ limit →
    limit < valueAfter n ds → ds.length ≤ fuel →
    ∃ m count' ds' p', ds' ≠ [] ∧ (∀ d ∈ ds', isDigit d = true) ∧
      digits limit fuel n count ⟨ds ++ rest, p⟩ = .ok (m, count') ⟨ds' ++ rest, p'⟩ := by
  induction ds with
  | nil =>
    intro fuel n count p _ hn hbeyond _
    exact absurd hbeyond (Nat.not_lt_of_le hn)
  | cons d ds ih =>
    intro fuel n count p hdigits hn hbeyond hfuel
    obtain ⟨fuel, rfl⟩ := Nat.exists_eq_succ_of_ne_zero (Nat.ne_zero_of_lt hfuel)
    obtain ⟨hd, hds⟩ := List.forall_mem_cons.mp hdigits
    have hstep : digits limit (fuel + 1) n count ⟨d :: ds ++ rest, p⟩
        = (if isDigit d && n * 10 + (d.toNat - 48) ≤ limit then
            skip >>= fun _ => digits limit fuel (n * 10 + (d.toNat - 48)) (count + 1)
          else (pure (n, count) : Reader (Nat × Nat))) ⟨d :: (ds ++ rest), p⟩ := rfl
    -- the digit still fits, or it is the first one that is left
    by_cases hle : n * 10 + (d.toNat - 48) ≤ limit
    · obtain ⟨m, count', ds', p', hsome, hds', hmore⟩ := ih fuel _ (count + 1) (p.after d) hds hle
        hbeyond (Nat.le_of_succ_le_succ hfuel)
      refine ⟨m, count', ds', p', hsome, hds', hstep.trans ?_⟩
      rw [hd, decide_eq_true hle, Bool.and_self, if_pos rfl, bind_ok skip_cons]
      exact hmore
    · refine ⟨n, count, d :: ds, p, List.cons_ne_nil _ _, hdigits, hstep.trans ?_⟩
      rw [hd, decide_eq_false hle, Bool.and_false, if_neg Bool.false_ne_true]
      rfl

/-- **Digits beyond the largest number** make it one that is not whole. -/
theorem number_beyond (positive : Bool) {k : Nat} (h : IsDecimal ds k) (hbeyond : largest < k)
    (hstops : ∀ b ∈ rest.head?, isDigit b = false) (p : Place) :
    ∃ m dropped p', dropped ≠ 0 ∧
      number positive ⟨ds ++ rest, p⟩ = numberRest positive m dropped ⟨rest, p'⟩ := by
  obtain ⟨hdigits, hvalue, d, ds, rfl, halone⟩ := h
  obtain ⟨hd, hds⟩ := List.forall_mem_cons.mp hdigits
  -- zero is too small to be beyond the limit
  have hnonzero : d ≠ 48 := by
    rintro rfl
    rw [halone rfl] at hvalue
    subst hvalue
    cases hbeyond
  have hvalue' : valueAfter (d.toNat - 48) ds = k := by
    rw [← hvalue]
    change _ = valueAfter (0 * 10 + (d.toNat - 48)) ds
    rw [Nat.zero_mul, Nat.zero_add]
  -- the first digit always fits
  have hsmall : d.toNat - 48 ≤ largest := by
    have hlt := d.toNat_lt
    unfold largest UInt64.size
    omega
  obtain ⟨m, count, ds', p', hsome, hds', hread⟩ := digits_beyond rest ds (ds ++ rest).length
    (d.toNat - 48) 0 (p.after d) hds hsmall (hvalue'.symm ▸ hbeyond) (length_le_append _ _)
  obtain ⟨p'', hskip⟩ := gives_skipDigits hds' hstops (ds' ++ rest).length 0 (length_le_append _ _) p'
  refine ⟨m, 0 + ds'.length, p'', ?_, ?_⟩
  · rw [Nat.zero_add]
    exact fun hzero => hsome (List.eq_nil_of_length_eq_zero hzero)
  · rw [List.cons_append]
    unfold number
    rw [bind_ok next_cons]
    dsimp only
    rw [if_neg hnonzero, if_pos hd, bind_ok left_eq, bind_ok hread, bind_ok left_eq, bind_ok hskip]

/-- After digits that do not go on there is a whole number. -/
theorem numberRest_follows {k : Nat} (hrest : Follows rest) (p : Place) :
    numberRest true k 0 ⟨rest, p⟩ = .ok (.natural k) ⟨rest, p⟩ := by
  cases rest with
  | nil => rfl
  | cons b rest =>
    -- a point or an exponent would make it a float; what may follow a value is neither
    obtain ⟨-, hpoint, hlower, hupper⟩ := hrest.stops b rfl
    unfold numberRest
    rw [bind_ok peek_cons]
    generalize hhead : some b = head
    split
    · exact absurd (Option.some.inj hhead) hpoint
    · exact absurd (Option.some.inj hhead) hlower
    · exact absurd (Option.some.inj hhead) hupper
    · rfl

/-- What a type of whole numbers makes of a number. -/
def settled (expected : String) (accept : Int → Option α) (n : Number) : Reader α :=
  match n with
  | .float x => mismatch (.wrongType (.float x) expected)
  | n =>
    let i : Int := match n with
      | .natural n => n
      | .negative i => i
      | .float _ => 0
    match accept i with
    | some a => return a
    | none => mismatch (.wrongValue (.integer i) expected)

/-- A number with a fraction is refused. -/
theorem fails_settled_isFloat {accept : Int → Option α} {k : Number} (h : IsFloat k) :
    (settled expected accept k).Fails bs := by
  obtain ⟨x, rfl⟩ := h
  exact fails_mismatch _

/-- So is one below the bounds. -/
theorem fails_settled_negative {accept : Int → Option α} {i : Int} (h : accept i = none) :
    (settled expected accept (.negative i)).Fails bs := by
  unfold settled
  dsimp only
  rw [h]
  exact fails_mismatch _

/-- One without a sign is accepted as far as the bounds go. -/
theorem yields_settled {accept : Int → Option α} (k : Nat) :
    (settled expected accept (.natural k)).Yields rest (accept k) rest := by
  unfold settled
  dsimp only
  cases accept k with
  | some a => exact gives_pure _ _
  | none => exact fails_mismatch _

end Reader

/-- **The number that a value is**, if it is one, without a sign, a fraction or an exponent. -/
def Tree.natural? : Tree → Option Nat
  | .number ⟨false, ds, none, none⟩ => some (valueAfter 0 ds)
  | _ => none

namespace Reader

section Whole

variable {α : Type} {expected : String} {accept : Int → Option α} {n : Numeral} {t : Tree}
  {bs x rest : List UInt8}

/-- Every number that is not whole to a type has a fraction or an exponent behind its digits. -/
theorem head_tail (h : n.IsValid) (htail : n.fraction ≠ none ∨ n.exponent ≠ none) :
    ∃ b bs, n.tail = b :: bs ∧ (b = 46 ∨ b = 101 ∨ b = 69) := by
  obtain ⟨negative, ds, fraction, exponent⟩ := n
  cases fraction with
  | some fs => exact ⟨_, _, rfl, .inl rfl⟩
  | none =>
    cases exponent with
    | some e => exact ⟨_, _, rfl, .inr (h.letter e rfl)⟩
    | none => exact (htail.elim (· rfl) (· rfl)).elim

/-- A number with a fraction or an exponent is not whole. -/
theorem fails_whole_tail (h : n.IsValid) (htail : n.fraction ≠ none ∨ n.exponent ≠ none)
    (hrest : Follows rest) :
    (number true >>= settled expected accept).Fails (n.digits ++ (n.tail ++ rest)) := by
  intro p
  have hstops := isDigit_tail h hrest
  obtain ⟨b, bs, hb, hfirst⟩ := head_tail h htail
  have hhead : (n.tail ++ rest).head? = some 46 ∨ (n.tail ++ rest).head? = some 101
      ∨ (n.tail ++ rest).head? = some 69 := by
    rw [hb]
    rcases hfirst with rfl | rfl | rfl
    · exact .inl rfl
    · exact .inr (.inl rfl)
    · exact .inr (.inr rfl)
  -- the digits are read first, whether they fit or not
  obtain ⟨k, dropped, p', hread⟩ : ∃ k dropped p', number true ⟨n.digits ++ (n.tail ++ rest), p⟩
      = numberRest true k dropped ⟨n.tail ++ rest, p'⟩ := by
    by_cases hlarge : valueAfter 0 n.digits ≤ largest
    · exact ⟨_, _, _, number_decimal true h.digits hlarge hstops⟩
    · obtain ⟨m, dropped, p', -, hread⟩ :=
        number_beyond true h.digits (Nat.lt_of_not_le hlarge) hstops p
      exact ⟨m, dropped, p', hread⟩
  -- what a point or an exponent follows is a float, and no integer is made of it
  refine error_bind fun a c hok => fails_settled_isFloat ?_ c.place
  exact isFloat_numberRest (.inr hhead) (hread.symm.trans hok)

/-- A number is read, up to what follows it. -/
theorem yields_whole_digits {ds : List UInt8} (h : IsDecimal ds (valueAfter 0 ds))
    (hlarge : ∀ k : Nat, largest < k → accept k = none) (hrest : Follows rest) :
    (number true >>= settled expected accept).Yields (ds ++ rest) (accept (valueAfter 0 ds)) rest := by
  have hstops : ∀ b ∈ rest.head?, isDigit b = false := fun b hb => (hrest.stops b hb).1
  -- up to the largest 64-bit number the digits are kept; beyond it they are read as a float, which
  -- no accepted value is
  by_cases hle : valueAfter 0 ds ≤ largest
  · have hread : (number true).Gives (ds ++ rest) (.natural (valueAfter 0 ds)) rest := fun p =>
      ⟨_, (number_decimal true h hle hstops).trans (numberRest_follows hrest (p.afterAll ds))⟩
    exact hread.yields (yields_settled _)
  · rw [hlarge _ (Nat.lt_of_not_le hle)]
    intro p
    obtain ⟨m, dropped, p', hdropped, hread⟩ :=
      number_beyond true h (Nat.lt_of_not_le hle) hstops p
    refine error_bind fun a c hok => fails_settled_isFloat ?_ c.place
    exact isFloat_numberRest (.inl hdropped) (hread.symm.trans hok)

/-- **A whole number within the limits of a type is read**, and nothing else. -/
theorem yields_whole (ht : Spelled (.value t) bs) (hneg : ∀ i < 0, accept i = none)
    (hlarge : ∀ k : Nat, largest < k → accept k = none) (hrest : Follows rest)
    (hsolid : solid x = bs ++ rest) :
    (whole expected accept).Yields x (t.natural?.bind fun k => accept k) rest := by
  obtain ⟨b, y, hy, hb⟩ := ht.starts
  have hfront : solid x = b :: (y ++ rest) := by
    rw [hsolid, hy, List.cons_append]
  -- a value that is no number begins with neither a sign nor a digit
  have hother : b ≠ 45 ∧ isDigit b = false → (whole expected accept).Fails x := by
    rintro ⟨hsign, hdigit⟩
    refine fails_starting hfront ((if_neg hsign).trans (if_neg ?_))
    rw [hdigit]
    exact Bool.false_ne_true
  cases ht with
  | @number n h =>
    obtain ⟨negative, ds, fraction, exponent⟩ := n
    cases negative with
    | true =>
      refine yields_starting (o := none) hsolid rfl (gives_skip.fails fun p => ?_)
      refine error_bind fun a c hok => ?_
      rcases only_number_negative _ _ _ hok with hfloat | ⟨i, hi, rfl⟩
      · exact fails_settled_isFloat hfloat c.place
      · exact fails_settled_negative (hneg i hi) c.place
    | false =>
      obtain ⟨hdigits, -, d, ds, rfl, -⟩ := h.digits
      have hdigit := hdigits d List.mem_cons_self
      have hread : ∀ {o : Option α} {z : List UInt8}, solid x = d :: ds ++ z →
          (number true >>= settled expected accept).Yields (d :: ds ++ z) o rest →
          (whole expected accept).Yields x o rest := fun hz h =>
        yields_starting (y := ds ++ _) hz
          ((if_neg (isBlank_of_isDigit hdigit).2).trans (if_pos hdigit)) h
      have htail : solid x = d :: ds ++ (Numeral.tail ⟨false, d :: ds, fraction, exponent⟩ ++ rest) :=
        hsolid.trans (List.append_assoc _ _ _)
      cases fraction with
      | some fs =>
        exact hread (o := none) htail (fails_whole_tail h (.inl (Option.some_ne_none fs)) hrest)
      | none =>
        cases exponent with
        | some e =>
          exact hread (o := none) htail (fails_whole_tail h (.inr (Option.some_ne_none e)) hrest)
        | none => exact hread htail (yields_whole_digits h.digits hlarge hrest)
  | text | noItems | list | noMembers | object =>
    obtain rfl := hb
    exact hother (by decide)
  | null | isTrue | isFalse =>
    obtain rfl := hb
    exact hother (by decide)

end Whole

end Reader
end RobotSession.Json
