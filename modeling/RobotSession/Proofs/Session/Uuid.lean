import RobotSession.Session.Uuid

/-!
# Identifiers that were written

The written form of an identifier has its hyphens at fixed places and small digits between them,
whatever the identifier is. So it is read as the identifier that was written.

* `Uuid.read_write` — reading what was written.
-/

namespace RobotSession.Uuid

/-- A digit is read as it was written. -/
theorem digit?_digitChar : ∀ d : Fin 16, digit? (digitChar d) = some d := by
  decide

/-- It is no hyphen. -/
theorem digitChar_ne_hyphen : ∀ d : Fin 16, digitChar d ≠ '-' := by
  decide

/-- It takes one octet. -/
theorem utf8Size_digitChar : ∀ d : Fin 16, (digitChar d).utf8Size = 1 := by
  decide

/-- A text of one octet each. -/
theorem size_eq_length {cs : List Char} (h : ∀ c ∈ cs, c.utf8Size = 1) : size cs = cs.length := by
  -- the size is summed up from the left, so the sum begun with is generalised
  have hfold : ∀ (cs : List Char) (n : Nat), (∀ c ∈ cs, c.utf8Size = 1) →
      cs.foldl (fun n c => n + c.utf8Size) n = n + cs.length := by
    intro cs
    induction cs with
    | nil => exact fun _ _ => rfl
    | cons c cs ih =>
      intro n hall
      obtain ⟨hc, hcs⟩ := List.forall_mem_cons.mp hall
      rw [List.foldl_cons, hc, ih _ hcs, List.length_cons]
      omega
  unfold size
  rw [hfold cs 0 h, Nat.zero_add]

/-- Where the hyphens are is seen from where they are not. -/
theorem hyphens_eq (cs : List Char) :
    hyphens cs = (List.range cs.length).filter fun i => (cs.map (· == '-'))[i]? = some true := by
  unfold hyphens
  refine List.filter_congr fun i _ => ?_
  rw [List.getElem?_map]
  cases cs[i]? with
  | none => rfl
  | some c => simp

/-- There are no hyphens among digits. -/
theorem map_hyphen {cs : List Char} (h : ∀ c ∈ cs, c ≠ '-') :
    cs.map (· == '-') = List.replicate cs.length false := by
  rw [List.eq_replicate_iff]
  refine ⟨List.length_map .., fun b hmem => ?_⟩
  obtain ⟨c, hc, rfl⟩ := List.mem_map.mp hmem
  exact beq_eq_false_iff_ne.mpr (h c hc)

/-- So none are dropped. -/
theorem filter_hyphen {cs : List Char} (h : ∀ c ∈ cs, c ≠ '-') :
    cs.filter (· ≠ '-') = cs :=
  List.filter_eq_self.mpr fun c hc => decide_eq_true (h c hc)

/-- A hyphen behind digits is dropped. -/
theorem filter_hyphen_cons {cs rest : List Char} (h : ∀ c ∈ cs, c ≠ '-') :
    (cs ++ '-' :: rest).filter (· ≠ '-') = cs ++ rest.filter (· ≠ '-') := by
  rw [List.filter_append, filter_hyphen h]
  rfl

/-- Digits are read one by one. -/
theorem mapM_digit? (ds : List (Fin 16)) : (ds.map digitChar).mapM digit? = some ds := by
  induction ds with
  | nil => rfl
  | cons d ds ih =>
    rw [List.map_cons, List.mapM_cons, digit?_digitChar, ih]
    rfl

/-- **The groups of digits**, with hyphens between them. -/
structure Grouped (cs : List Char) (ds : List (Fin 16)) : Prop where
  hyphens : hyphens cs = [8, 13, 18, 23]
  digits : cs.filter (· ≠ '-') = ds.map digitChar
  size : size cs = 36

/-- **The groups of an identifier** hold its digits. -/
theorem grouped_written {ds : List (Fin 16)} (hlength : ds.length = 32) :
    Grouped (List.intercalate ['-'] (cut groups (ds.map digitChar))) ds := by
  have hall : ∀ c ∈ ds.map digitChar, c ≠ '-' ∧ c.utf8Size = 1 := by
    intro c hmem
    obtain ⟨d, -, rfl⟩ := List.mem_map.mp hmem
    exact ⟨digitChar_ne_hyphen d, utf8Size_digitChar d⟩
  have hlength' : (ds.map digitChar).length = 32 := by rw [List.length_map, hlength]
  obtain ⟨cs, hcs⟩ : ∃ cs, ds.map digitChar = cs := ⟨_, rfl⟩
  rw [hcs] at hall hlength' ⊢
  -- the groups, one after the other
  obtain ⟨a, b, c, d, e, rfl, ha, hb, hc, hd, he⟩ : ∃ a b c d e, cs = a ++ (b ++ (c ++ (d ++ e)))
      ∧ a.length = 8 ∧ b.length = 4 ∧ c.length = 4 ∧ d.length = 4 ∧ e.length = 12 := by
    refine ⟨cs.take 8, (cs.drop 8).take 4, ((cs.drop 8).drop 4).take 4,
      (((cs.drop 8).drop 4).drop 4).take 4, (((cs.drop 8).drop 4).drop 4).drop 4, ?_, ?_⟩
    · simp only [List.take_append_drop]
    · simp only [List.length_take, List.length_drop, hlength']
      decide
  have hcut : cut groups (a ++ (b ++ (c ++ (d ++ e)))) = [a, b, c, d, e] := by
    simp only [groups, cut, List.take_left' ha, List.drop_left' ha, List.take_left' hb,
      List.drop_left' hb, List.take_left' hc, List.drop_left' hc, List.take_left' hd,
      List.drop_left' hd, List.take_of_length_le (Nat.le_of_eq he)]
  have hwritten : List.intercalate ['-'] (cut groups (a ++ (b ++ (c ++ (d ++ e)))))
      = a ++ '-' :: (b ++ '-' :: (c ++ '-' :: (d ++ '-' :: e))) := by
    rw [hcut]
    simp [List.intercalate]
  rw [hwritten]
  simp only [List.forall_mem_append] at hall
  obtain ⟨hall_a, hall_b, hall_c, hall_d, hall_e⟩ := hall
  refine ⟨?_, ?_, ?_⟩
  · rw [hyphens_eq]
    simp only [List.map_append, List.map_cons, List.length_append, List.length_cons, ha, hb, hc,
      hd, he, map_hyphen fun x hx => (hall_a x hx).1, map_hyphen fun x hx => (hall_b x hx).1,
      map_hyphen fun x hx => (hall_c x hx).1, map_hyphen fun x hx => (hall_d x hx).1,
      map_hyphen fun x hx => (hall_e x hx).1]
    decide
  · rw [hcs, filter_hyphen_cons fun x hx => (hall_a x hx).1,
      filter_hyphen_cons fun x hx => (hall_b x hx).1,
      filter_hyphen_cons fun x hx => (hall_c x hx).1,
      filter_hyphen_cons fun x hx => (hall_d x hx).1, filter_hyphen fun x hx => (hall_e x hx).1]
  · rw [size_eq_length]
    · simp only [List.length_append, List.length_cons, ha, hb, hc, hd, he]
    · simp only [List.forall_mem_append, List.forall_mem_cons]
      exact ⟨fun x hx => (hall_a x hx).2, by decide, fun x hx => (hall_b x hx).2, by decide,
        fun x hx => (hall_c x hx).2, by decide, fun x hx => (hall_d x hx).2, by decide,
        fun x hx => (hall_e x hx).2⟩

/-- **An identifier is read as it was written.** -/
theorem read_write (u : Uuid) : read (write u) = .ok u := by
  obtain ⟨hhyphens, hdigits, hsize⟩ := grouped_written u.length_digits
  -- the hyphens stand where the reader looks for them, and between them are the digits
  have hgroups : ofGroups? (write u).toList = some u := by
    unfold ofGroups? write
    rw [String.toList_ofList, if_pos hhyphens, hdigits]
    unfold ofDigits?
    rw [mapM_digit?]
    exact dif_pos u.length_digits
  have hsize' : size (write u).toList = 36 := by
    unfold write
    rw [String.toList_ofList, hsize]
  unfold read
  simp only [hsize', hgroups]

end RobotSession.Uuid
