import RobotSession.Proofs.Json.Tree

/-!
# Values that are skipped

The value of a key that nobody knows is skipped, whatever it is: a number that is too large, a text
with half a character in it, lists and objects in each other as deep as one likes. What is open is
kept as a list, and taken apart as the octets come.

* `Reader.resume` — how the reader goes on when a value has been taken.
* `Reader.gives_skipNested` — a value is taken, inside whatever is open.
* `Reader.gives_skipValue` — a value is skipped, up to what follows it.
-/

namespace RobotSession.Json.Reader

variable {b : UInt8} {bs rest ds : List UInt8} {parts : List Part} {part : Part} {n : Numeral}

/-! ### Texts -/

theorem gives_hexEscape {x y z w : UInt8} (h : (Part.code x y z w).IsValid) :
    hexEscape.Gives (x :: y :: z :: w :: rest) (Part.codeOf x y z w) rest := by
  have hdigit : ∀ d ∈ [x, y, z, w], hexDigit? d = some ((hexDigit? d).getD 0) := by
    intro d hmem
    obtain ⟨i, hi⟩ := Option.isSome_iff_exists.mp (h d hmem)
    rw [hi]
    rfl
  have htakes := takes_hexEscape (hdigit x (by simp)) (hdigit y (by simp)) (hdigit z (by simp))
    (hdigit w (by simp))
  -- the code is the fold over the digits, spelled out for four of them
  have hcode : Part.codeOf x y z w = (((hexDigit? x).getD 0 * 16 + (hexDigit? y).getD 0) * 16
      + (hexDigit? z).getD 0) * 16 + (hexDigit? w).getD 0 := by
    unfold Part.codeOf
    simp only [List.map_cons, List.map_nil, List.foldl_cons, List.foldl_nil, Nat.zero_mul,
      Nat.zero_add]
  rw [hcode]
  exact htakes.gives rest

/-- A part of a text is skipped. -/
theorem gives_skipText_cons (h : part.IsValid) {fuel : Nat} (hrest : (skipText fuel).Gives bs () rest) :
    (skipText (fuel + 1)).Gives (part.octets ++ bs) () rest := by
  unfold skipText
  cases part with
  | octet b =>
    obtain ⟨hquote, hslash, hlow⟩ := h
    refine gives_peek.bind ?_
    -- an octet of its own is neither a quote nor a backslash nor a control character
    change (if b = 34 then skip else if b = 92 then _ else if b < 32 then _ else _ : Reader Unit).Gives
      (b :: bs) () rest
    rw [if_neg hquote, if_neg hslash, if_neg hlow]
    exact gives_skip.bind hrest
  | short b =>
    -- a backslash and one letter
    have hshort : (shortEscape? b).isSome = true := h
    have hescape : skipEscape.Gives (b :: bs) () bs := by
      unfold skipEscape
      refine gives_next.bind ?_
      dsimp only
      rw [if_pos hshort]
      exact gives_pure _ _
    refine gives_peek.bind ?_
    exact gives_skip.bind (hescape.bind hrest)
  | code x y z w =>
    have hescape : skipEscape.Gives (117 :: x :: y :: z :: w :: bs) () bs := by
      unfold skipEscape
      refine gives_next.bind ?_
      exact (gives_hexEscape h).bind (gives_pure _ _)
    refine gives_peek.bind ?_
    exact gives_skip.bind (hescape.bind hrest)

/-- **A text is skipped**, whatever it stands for. -/
theorem gives_skipText (h : ∀ part ∈ parts, part.IsValid) (rest : List UInt8) :
    ∀ fuel, (Part.body parts).length < fuel →
      (skipText fuel).Gives (Part.body parts ++ 34 :: rest) () rest := by
  -- each part uses one unit of fuel and has at least one octet
  induction parts with
  | nil =>
    intro fuel hfuel
    obtain ⟨fuel, rfl⟩ := Nat.exists_eq_succ_of_ne_zero (Nat.ne_zero_of_lt hfuel)
    unfold skipText
    exact gives_peek.bind gives_skip
  | cons part parts ih =>
    intro fuel hfuel
    obtain ⟨fuel, rfl⟩ := Nat.exists_eq_succ_of_ne_zero (Nat.ne_zero_of_lt hfuel)
    obtain ⟨hpart, hparts⟩ := List.forall_mem_cons.mp h
    have hlength : 1 ≤ part.octets.length := by
      cases part with
      | _ => exact Nat.succ_pos _
    unfold Part.body at hfuel ⊢
    rw [List.flatMap_cons, List.length_append] at hfuel
    rw [List.flatMap_cons, List.append_assoc]
    exact gives_skipText_cons hpart (ih hparts fuel (by unfold Part.body; omega))

/-! ### Numbers -/

theorem length_le_append (ds rest : List UInt8) : ds.length ≤ (ds ++ rest).length := by
  rw [List.length_append]
  exact Nat.le_add_right _ _

theorem gives_skipDigits (hds : ∀ d ∈ ds, isDigit d = true)
    (hrest : ∀ b ∈ rest.head?, isDigit b = false) :
    ∀ fuel count, ds.length ≤ fuel →
      (skipDigits fuel count).Gives (ds ++ rest) (count + ds.length) rest := by
  induction ds with
  | nil => exact fun fuel count _ p => ⟨p, skipDigits_nothing hrest fuel count⟩
  | cons d ds ih =>
    intro fuel count hfuel
    obtain ⟨fuel, rfl⟩ := Nat.exists_eq_succ_of_ne_zero (Nat.ne_zero_of_lt hfuel)
    obtain ⟨hd, hds⟩ := List.forall_mem_cons.mp hds
    -- one digit more has been counted
    have hmore := ih hds fuel (count + 1) (Nat.le_of_succ_le_succ hfuel)
    rw [Nat.add_assoc, Nat.add_comm 1] at hmore
    unfold skipDigits
    refine gives_peek.bind ?_
    change (if isDigit d then _ else _ : Reader Nat).Gives (d :: (ds ++ rest)) _ _
    rw [if_pos hd]
    exact gives_skip.bind hmore

/-- A digit is neither sign. -/
theorem ne_sign_of_isDigit (hdigit : isDigit b = true) : b ≠ 43 ∧ b ≠ 45 := by
  constructor
  all_goals
    rintro rfl
    cases hdigit

/-- An exponent is skipped. -/
theorem gives_skipExponent {letter : UInt8} {sign : Option UInt8}
    (hsign : ∀ b ∈ sign, b = 43 ∨ b = 45) (hds : Numeral.IsSome ds)
    (hrest : ∀ b ∈ rest.head?, isDigit b = false) :
    skipExponent.Gives (letter :: (sign.toList ++ (ds ++ rest))) () rest := by
  obtain ⟨hsome, hds⟩ := hds
  obtain ⟨d, ds, rfl⟩ := List.exists_cons_of_ne_nil hsome
  obtain ⟨hd, hds⟩ := List.forall_mem_cons.mp hds
  -- one digit is needed, and all that follow are taken
  have hdigits : ∀ after : Option UInt8 → Reader Unit,
      after (some d) = (if isDigit d then do
          let _ ← skipDigits (← left) 0
          pure ()
        else failHere Fault.invalidNumber) →
      (next >>= after).Gives (d :: ds ++ rest) () rest := by
    intro after hafter
    refine gives_next.bind ?_
    rw [hafter, if_pos hd]
    exact gives_left.bind ((gives_skipDigits hds hrest _ _ (length_le_append ds rest)).bind
      (gives_pure _ _))
  unfold skipExponent
  refine gives_skip.bind (gives_peek.bind ?_)
  dsimp only
  cases sign with
  | none =>
    -- a digit is no sign
    obtain ⟨hplus, hminus⟩ := ne_sign_of_isDigit hd
    split
    · rename_i hhead
      exact absurd (Option.some.inj hhead) hplus
    · rename_i hhead
      exact absurd (Option.some.inj hhead) hminus
    · exact hdigits _ rfl
  | some b =>
    rcases hsign b rfl with rfl | rfl
    · exact gives_skip.bind (hdigits _ rfl)
    · exact gives_skip.bind (hdigits _ rfl)

/-- An exponent is skipped, if there is one. -/
theorem gives_skipExponent? (h : n.IsValid) (hrest : Follows rest) :
    skipExponent?.Gives (Numeral.scaled n.exponent ++ rest) () rest := by
  obtain ⟨isNegative, digits, fraction, exponent⟩ := n
  unfold skipExponent?
  refine gives_peek.bind ?_
  cases exponent with
  | none =>
    split
    · rename_i hhead
      -- what may follow a number does not begin with the letter of an exponent
      exact absurd rfl (hrest.stops 101 hhead).2.2.1
    · rename_i hhead
      exact absurd rfl (hrest.stops 69 hhead).2.2.2
    · exact gives_pure _ _
  | some e =>
    obtain ⟨letter, sign, ds⟩ := e
    have hexponent : skipExponent.Gives (letter :: (sign.toList ++ (ds ++ rest))) () rest :=
      gives_skipExponent (h.sign _ rfl) (h.exponent _ rfl) fun b hb => (hrest.stops b hb).1
    rw [← List.append_assoc] at hexponent
    rcases h.letter _ rfl with hletter | hletter
    · obtain rfl : letter = 101 := hletter
      exact hexponent
    · obtain rfl : letter = 69 := hletter
      exact hexponent

/-- No digit comes after those of an exponent, or before it. -/
theorem isDigit_scaled (h : n.IsValid) (hrest : Follows rest) :
    ∀ b ∈ (Numeral.scaled n.exponent ++ rest).head?, isDigit b = false ∧ b ≠ 46 := by
  obtain ⟨isNegative, digits, fraction, exponent⟩ := n
  cases exponent with
  | none =>
    intro b hb
    obtain ⟨hdigit, hpoint, -⟩ := hrest.stops b hb
    exact ⟨hdigit, hpoint⟩
  -- with an exponent the next octet is its letter
  | some e =>
    rintro b ⟨⟩
    rcases h.letter _ rfl with hletter | hletter
    all_goals
      rw [hletter]
      decide

/-- **What follows the digits of a number** is skipped. -/
theorem gives_skipNumberRest (h : n.IsValid) (hrest : Follows rest) :
    skipNumberRest.Gives (n.tail ++ rest) () rest := by
  have hstops := isDigit_scaled h hrest
  have hexponent := gives_skipExponent? h hrest
  have hfraction := h.fraction
  unfold Numeral.tail
  rw [List.append_assoc]
  unfold skipNumberRest
  refine gives_peek.bind ?_
  dsimp only
  cases hpoint : n.fraction with
  | none =>
    -- without digits behind a point there is no point
    have hhead : (Numeral.pointed none ++ (Numeral.scaled n.exponent ++ rest)).head? ≠ some 46 :=
      fun hhead => absurd rfl (hstops 46 hhead).2
    rw [if_neg hhead]
    exact hexponent
  | some ds =>
    obtain ⟨hsome, hds⟩ := hfraction ds hpoint
    have hcount : 0 + ds.length ≠ 0 := by
      rw [Nat.zero_add]
      exact fun hzero => hsome (List.eq_nil_of_length_eq_zero hzero)
    rw [if_pos (show (Numeral.pointed (some ds) ++ _).head? = some 46 from rfl)]
    refine gives_skip.bind (gives_left.bind ((gives_skipDigits hds (fun b hb => (hstops b hb).1) _ _
      (length_le_append ds _)).bind ?_))
    rw [if_neg hcount]
    exact hexponent

/-- No digit comes after those of a number. -/
theorem isDigit_tail (h : n.IsValid) (hrest : Follows rest) :
    ∀ b ∈ (n.tail ++ rest).head?, isDigit b = false := by
  have hstops := isDigit_scaled h hrest
  unfold Numeral.tail
  cases n.fraction with
  | none => exact fun b hb => (hstops b hb).1
  | some ds =>
    rintro b ⟨⟩
    rfl

/-- **A number is skipped**, after its sign. -/
theorem gives_skipNumber (h : n.IsValid) (hrest : Follows rest) :
    skipNumber.Gives (n.digits ++ (n.tail ++ rest)) () rest := by
  have hmore := gives_skipNumberRest h hrest
  have hstops := isDigit_tail h hrest
  obtain ⟨hdigits, -, d, ds, hds, halone⟩ := h.digits
  rw [hds] at hdigits ⊢
  obtain ⟨hd, hdigits⟩ := List.forall_mem_cons.mp hdigits
  unfold skipNumber
  refine gives_next.bind ?_
  dsimp only
  split
  · rename_i hzero
    -- a zero stands alone
    obtain rfl := halone hzero
    change (peek >>= _).Gives (n.tail ++ rest) () rest
    refine gives_peek.bind ?_
    split
    · rename_i b hb
      rw [if_neg (by rw [hstops b hb]; exact Bool.false_ne_true)]
      exact hmore
    · exact hmore
  · exact gives_left.bind ((gives_skipDigits hdigits hstops _ _ (length_le_append ds _)).bind hmore)

/-! ### What is open -/

/-- **How the reader goes on** when a value has been taken, or has been opened if it is the `first`
thing there, with what is open then. -/
def resume (fuel k : Nat) (open_ : List Bool) (first : Bool) : Reader Unit := do
  match ← skipBetween k open_ first with
  | [] => return ()
  | open_ => skipNested fuel open_

/-- How the reader goes on inside a list or an object. -/
def goOn (fuel : Nat) (object : Bool) (outer : List Bool) : Reader Unit := do
  if object then skipKey
  skipNested fuel (object :: outer)

variable {open_ outer : List Bool} {object first : Bool} {final x y : List UInt8} {fuel k : Nat}

theorem resume_nil (rest : List UInt8) : (resume fuel k [] first).Gives rest () rest := by
  unfold resume skipBetween
  cases k with
  | _ => exact (gives_pure _ _).bind (gives_pure _ _)

/-- What is open is closed. -/
theorem resume_close (hsolid : solid x = (if object then 125 else 93) :: y)
    (h : (resume fuel k outer false).Gives y () final) :
    (resume fuel (k + 1) (object :: outer) first).Gives x () final := by
  have hpeek := gives_peekSolid x
  rw [hsolid] at hpeek
  unfold resume skipBetween
  rw [bind_assoc]
  refine hpeek.bind ?_
  dsimp only [List.head?_cons]
  rw [if_pos rfl, bind_assoc]
  exact gives_skip.bind h

/-- A value follows, after its key in an object. -/
theorem gives_goOn (h : (goOn fuel object outer).Gives x () final) :
    ((do
        if object then skipKey
        return object :: outer : Reader (List Bool)) >>= fun
      | [] => pure ()
      | open_ => skipNested fuel open_).Gives x () final := by
  unfold goOn at h
  cases object with
  -- in an object the key is skipped before the value
  | true =>
    rw [if_pos rfl] at h ⊢
    rw [bind_assoc]
    exact h
  | false => exact h

/-- The first value comes. -/
theorem resume_first (hsolid : solid x = b :: y) (hb : b ≠ (if object then 125 else 93))
    (h : (goOn fuel object outer).Gives (b :: y) () final) :
    (resume fuel (k + 1) (object :: outer) true).Gives x () final := by
  have hpeek := gives_peekSolid x
  rw [hsolid] at hpeek
  unfold resume skipBetween
  rw [bind_assoc]
  refine hpeek.bind ?_
  dsimp only [List.head?_cons]
  rw [if_neg hb, if_pos rfl]
  exact gives_goOn h

/-- The next value comes, after a comma. -/
theorem resume_next (hsolid : solid x = 44 :: y) (h : (goOn fuel object outer).Gives y () final) :
    (resume fuel (k + 1) (object :: outer) false).Gives x () final := by
  have hpeek := gives_peekSolid x
  rw [hsolid] at hpeek
  unfold resume skipBetween
  rw [bind_assoc]
  refine hpeek.bind ?_
  -- the comma closes neither an object nor a list, so the reader goes on with the next member
  have hcomma : (44 : UInt8) ≠ (if object then 125 else 93) := by
    cases object with
    | _ => decide
  dsimp only [List.head?_cons]
  rw [if_neg hcomma, if_neg Bool.false_ne_true, if_pos rfl, bind_assoc]
  exact gives_skip.bind (gives_goOn h)

/-- A value begins. -/
theorem gives_skipNested {opening : Opening} {rest : List UInt8}
    (h : skipOpening.Gives x opening rest) (hnext : (match opening with
      | .taken => resume fuel (rest.length + 1) open_ false
      | .list => resume fuel (rest.length + 1) (false :: open_) true
      | .object => resume fuel (rest.length + 1) (true :: open_) true).Gives rest () final) :
    (skipNested (fuel + 1) open_).Gives x () final := by
  unfold skipNested
  refine h.bind ?_
  cases opening with
  | _ => exact gives_left.bind hnext

/-! ### Values -/

/-- A key is skipped, with its colon. -/
theorem gives_skipKey {w : List UInt8} (hkey : ∀ part ∈ parts, part.IsValid) (hw : Blanks w)
    (hsolid : solid x = 34 :: (Part.body parts ++ 34 :: (w ++ 58 :: rest))) :
    skipKey.Gives x () rest := by
  have hpeek := gives_peekSolid x
  rw [hsolid] at hpeek
  have hcolon := gives_peekSolid (w ++ 58 :: rest)
  rw [solid_blanks hw, solid_cons rfl] at hcolon
  have htext := gives_skipText hkey (w ++ 58 :: rest) _
    (Nat.lt_succ_of_le (length_le_append _ (34 :: (w ++ 58 :: rest))))
  unfold skipKey
  refine hpeek.bind ?_
  exact gives_skip.bind (gives_left.bind (htext.bind (hcolon.bind gives_skip)))

/-- A list is opened. -/
theorem gives_skipOpening_list (hsolid : solid x = 91 :: y) : skipOpening.Gives x .list y := by
  have hpeek := gives_peekSolid x
  rw [hsolid] at hpeek
  exact hpeek.bind (gives_skip.bind (gives_pure _ _))

/-- An object is opened. -/
theorem gives_skipOpening_object (hsolid : solid x = 123 :: y) : skipOpening.Gives x .object y := by
  have hpeek := gives_peekSolid x
  rw [hsolid] at hpeek
  exact hpeek.bind (gives_skip.bind (gives_pure _ _))

theorem gives_skipOpening_number (h : n.IsValid) (hrest : Follows rest)
    (hsolid : solid x = n.octets ++ rest) : skipOpening.Gives x .taken rest := by
  have hpeek := gives_peekSolid x
  have hnumber := gives_skipNumber h hrest
  unfold Numeral.octets at hsolid
  rw [hsolid, List.append_assoc, List.append_assoc] at hpeek
  unfold skipOpening
  cases hsign : n.isNegative with
  | true =>
    rw [hsign] at hpeek
    exact hpeek.bind (gives_skip.bind (hnumber.bind (gives_pure _ _)))
  | false =>
    obtain ⟨hdigits, -, d, ds, hds, -⟩ := h.digits
    have hd : isDigit d = true := hdigits d (hds ▸ List.mem_cons_self)
    -- the first digit is no bracket
    have hlist : d ≠ 91 := by
      rintro rfl
      cases hd
    have hobject : d ≠ 123 := by
      rintro rfl
      cases hd
    rw [hsign, if_neg Bool.false_ne_true, List.nil_append, hds] at hpeek
    rw [hds] at hnumber
    refine hpeek.bind ?_
    dsimp only [List.cons_append, List.head?_cons]
    rw [if_neg hlist, if_neg hobject, if_pos hd]
    exact hnumber.bind (gives_pure _ _)

theorem gives_skipOpening_text (h : ∀ part ∈ parts, part.IsValid)
    (hsolid : solid x = 34 :: (Part.body parts ++ 34 :: rest)) : skipOpening.Gives x .taken rest := by
  have hpeek := gives_peekSolid x
  have htext := gives_skipText h rest _ (Nat.lt_succ_of_le (length_le_append _ (34 :: rest)))
  rw [hsolid] at hpeek
  exact hpeek.bind (gives_skip.bind (gives_left.bind (htext.bind (gives_pure _ _))))

/-- One of the words is skipped. -/
theorem gives_skipOpening_word (hword : (b, bs) = (110, nullRest) ∨ (b, bs) = (116, trueRest)
    ∨ (b, bs) = (102, falseRest)) (hsolid : solid x = b :: (bs ++ rest)) :
    skipOpening.Gives x .taken rest := by
  have hpeek := gives_peekSolid x
  rw [hsolid] at hpeek
  have hrest : (word bs >>= fun _ => pure Opening.taken).Gives (bs ++ rest) .taken rest :=
    ((takes_word bs).gives rest).bind (gives_pure _ _)
  rcases hword with h | h | h
  all_goals
    obtain ⟨rfl, rfl⟩ := Prod.mk.inj h
    exact hpeek.bind (gives_skip.bind hrest)

/-- **How what is spelled is skipped**: whatever the reader does on what is left, it does after that,
too. There is always fuel for the octets that are left. -/
def Skips : Shape → List UInt8 → Prop
  | .value _, bs => ∀ open_ rest final fuel x, Follows rest → solid x = bs ++ rest →
      (bs ++ rest).length < fuel →
      (∀ fuel k, rest.length < fuel → rest.length < k →
        (resume fuel k open_ false).Gives rest () final) →
      (skipNested fuel open_).Gives x () final
  | .item _, bs => ∀ object outer rest final fuel x, Ends rest → solid x = solid (bs ++ rest) →
      (bs ++ rest).length < fuel →
      (∀ fuel k y, solid y = solid rest → y.length < fuel → y.length < k →
        (resume fuel k (object :: outer) false).Gives y () final) →
      (skipNested fuel (object :: outer)).Gives x () final
  | .items _, bs => ∀ outer rest final fuel x, solid x = solid (bs ++ 93 :: rest) →
      (bs ++ 93 :: rest).length < fuel →
      (∀ fuel k, rest.length < fuel → rest.length < k →
        (resume fuel k outer false).Gives rest () final) →
      (goOn fuel false outer).Gives x () final
  | .member _, bs => ∀ outer rest final fuel x, Ends rest → solid x = solid (bs ++ rest) →
      (bs ++ rest).length < fuel →
      (∀ fuel k y, solid y = solid rest → y.length < fuel → y.length < k →
        (resume fuel k (true :: outer) false).Gives y () final) →
      (goOn fuel true outer).Gives x () final
  | .members _, bs => ∀ outer rest final fuel x, solid x = solid (bs ++ 125 :: rest) →
      (bs ++ 125 :: rest).length < fuel →
      (∀ fuel k, rest.length < fuel → rest.length < k →
        (resume fuel k outer false).Gives rest () final) →
      (goOn fuel true outer).Gives x () final

/-- A value that is not opened is skipped. -/
theorem skips_short {t : Tree} (hsome : bs ≠ [])
    (hopening : ∀ x rest, Follows rest → solid x = bs ++ rest → skipOpening.Gives x .taken rest) :
    Skips (.value t) bs := by
  intro open_ rest final fuel x hrest hsolid hfuel hnext
  obtain ⟨fuel, rfl⟩ := Nat.exists_eq_succ_of_ne_zero (Nat.ne_zero_of_lt hfuel)
  have hlength := List.length_pos_of_ne_nil hsome
  rw [List.length_append] at hfuel
  exact gives_skipNested (hopening x rest hrest hsolid) (hnext _ _ (by omega) (Nat.lt_succ_self _))

/-- A list or an object with nothing in it is skipped. -/
theorem skips_empty {t : Tree} {w : List UInt8} (opening : UInt8) (object : Bool) (hw : Blanks w)
    (hopening : ∀ x y, solid x = opening :: y →
      skipOpening.Gives x (if object then .object else .list) y) :
    Skips (.value t) (opening :: (w ++ [if object then 125 else 93])) := by
  intro open_ rest final fuel x hrest hsolid hfuel hnext
  obtain ⟨fuel, rfl⟩ := Nat.exists_eq_succ_of_ne_zero (Nat.ne_zero_of_lt hfuel)
  rw [List.cons_append, List.append_assoc, List.singleton_append] at hsolid hfuel
  rw [List.length_cons, List.length_append, List.length_cons] at hfuel
  have hblank : Cursor.isBlank (if object then 125 else 93) = false := by
    cases object with
    | _ => rfl
  -- behind the blanks the bracket is closed, and the next value is due
  have hclose : (resume fuel ((w ++ (if object then 125 else 93) :: rest).length + 1)
      (object :: open_) true).Gives (w ++ (if object then 125 else 93) :: rest) () final := by
    refine resume_close (y := rest) ?_ (hnext _ _ (by omega) ?_)
    · rw [solid_blanks hw, solid_cons hblank]
    · rw [List.length_append, List.length_cons]
      omega
  refine gives_skipNested (hopening _ _ hsolid) ?_
  cases object with
  | _ => exact hclose

/-- What is open is closed after a value. -/
theorem resume_end (hsolid : solid y = (if object then 125 else 93) :: rest)
    (hfuel : y.length < fuel) (hk : y.length < k)
    (hnext : ∀ fuel k, rest.length < fuel → rest.length < k →
      (resume fuel k outer false).Gives rest () final) :
    (resume fuel k (object :: outer) false).Gives y () final := by
  have hlength := length_solid y
  rw [hsolid, List.length_cons] at hlength
  obtain ⟨k, rfl⟩ := Nat.exists_eq_succ_of_ne_zero (Nat.ne_zero_of_lt hk)
  exact resume_close hsolid (hnext _ _ (by omega) (by omega))

/-- **Whatever is spelled is skipped.** -/
theorem skips {s : Shape} (h : Spelled s bs) : Skips s bs := by
  -- on the spelling: what a list or an object encloses is skipped as the parts come
  induction h with
  | null => exact skips_short nofun fun x rest _ hx => gives_skipOpening_word (.inl rfl) hx
  | isTrue => exact skips_short nofun fun x rest _ hx => gives_skipOpening_word (.inr (.inl rfl)) hx
  | isFalse => exact skips_short nofun fun x rest _ hx => gives_skipOpening_word (.inr (.inr rfl)) hx
  | number h =>
    obtain ⟨b, bs, hbs, -⟩ := (Spelled.number h).starts
    exact skips_short (hbs ▸ nofun) fun x rest hrest hx => gives_skipOpening_number h hrest hx
  | @text parts h =>
    refine skips_short nofun fun x rest _ hx => gives_skipOpening_text h ?_
    rw [hx, List.cons_append, List.append_assoc, List.singleton_append]
  | noItems hw => exact skips_empty 91 false hw fun _ _ => gives_skipOpening_list
  | noMembers hw => exact skips_empty 123 true hw fun _ _ => gives_skipOpening_object
  | @list ts bs h ih =>
    intro open_ rest final fuel x hrest hsolid hfuel hnext
    obtain ⟨fuel, rfl⟩ := Nat.exists_eq_succ_of_ne_zero (Nat.ne_zero_of_lt hfuel)
    rw [List.cons_append, List.append_assoc, List.singleton_append] at hsolid hfuel
    obtain ⟨b, y, hfirst, hblank, hb⟩ := h.solid_items (93 :: rest)
    refine gives_skipNested (gives_skipOpening_list hsolid) (resume_first hfirst hb ?_)
    exact ih _ _ _ _ _ ((solid_cons hblank).trans hfirst.symm) (Nat.lt_of_succ_lt_succ hfuel) hnext
  | @object ms bs h ih =>
    intro open_ rest final fuel x hrest hsolid hfuel hnext
    obtain ⟨fuel, rfl⟩ := Nat.exists_eq_succ_of_ne_zero (Nat.ne_zero_of_lt hfuel)
    rw [List.cons_append, List.append_assoc, List.singleton_append] at hsolid hfuel
    obtain ⟨y, hfirst⟩ := h.solid_members (125 :: rest)
    refine gives_skipNested (gives_skipOpening_object hsolid) (resume_first hfirst (by decide) ?_)
    exact ih _ _ _ _ _ ((solid_cons rfl).trans hfirst.symm) (Nat.lt_of_succ_lt_succ hfuel) hnext
  | @item t w bs w' hw h hw' ih =>
    intro object outer rest final fuel x hrest hsolid hfuel hnext
    obtain ⟨b, bs', rfl, hb⟩ := h.starts
    rw [List.append_assoc, solid_blanks hw, List.append_assoc, List.cons_append,
      solid_cons hb.ne.1, ← List.cons_append] at hsolid
    rw [List.append_assoc, List.length_append, List.append_assoc] at hfuel
    refine ih _ _ _ _ _ (.blanks hw' (.ofEnds hrest)) hsolid (by omega) fun fuel k hlt hlt' => ?_
    exact hnext _ _ _ (solid_blanks hw' rest) hlt hlt'
  | @lastItem t bs h ih =>
    intro outer rest final fuel x hsolid hfuel hnext
    refine ih false _ _ _ _ _ ?_ hsolid hfuel fun fuel k y hy hlt hlt' => ?_
    · rintro b ⟨⟩
      exact .inr (.inl rfl)
    · rw [solid_cons rfl] at hy
      exact resume_end hy hlt hlt' hnext
  | @nextItem t ts bs bs' h hs ih ihs =>
    intro outer rest final fuel x hsolid hfuel hnext
    rw [List.append_assoc, List.cons_append] at hsolid hfuel
    refine ih false _ _ _ _ _ ?_ hsolid hfuel fun fuel k y hy hlt hlt' => ?_
    · rintro b ⟨⟩
      exact .inl rfl
    · rw [solid_cons rfl] at hy
      have hlength := length_solid y
      rw [hy, List.length_cons] at hlength
      obtain ⟨k, rfl⟩ := Nat.exists_eq_succ_of_ne_zero (Nat.ne_zero_of_lt hlt')
      exact resume_next hy (ihs _ _ _ _ _ rfl (by omega) hnext)
  | @member key t w w' bs hw hkey hw' h ih =>
    intro outer rest final fuel x hrest hsolid hfuel hnext
    simp only [List.append_assoc, List.cons_append] at hsolid hfuel
    rw [solid_blanks hw, solid_cons rfl] at hsolid
    simp only [List.length_append, List.length_cons] at hfuel
    refine (gives_skipKey hkey hw' hsolid).bind (ih _ _ _ _ _ _ hrest rfl ?_ hnext)
    rw [List.length_append]
    omega
  | @lastMember m bs h ih =>
    intro outer rest final fuel x hsolid hfuel hnext
    refine ih _ _ _ _ _ ?_ hsolid hfuel fun fuel k y hy hlt hlt' => ?_
    · rintro b ⟨⟩
      exact .inr (.inr rfl)
    · rw [solid_cons rfl] at hy
      exact resume_end hy hlt hlt' hnext
  | @nextMember m ms bs bs' h hs ih ihs =>
    intro outer rest final fuel x hsolid hfuel hnext
    rw [List.append_assoc, List.cons_append] at hsolid hfuel
    refine ih _ _ _ _ _ ?_ hsolid hfuel fun fuel k y hy hlt hlt' => ?_
    · rintro b ⟨⟩
      exact .inl rfl
    · rw [solid_cons rfl] at hy
      have hlength := length_solid y
      rw [hy, List.length_cons] at hlength
      obtain ⟨k, rfl⟩ := Nat.exists_eq_succ_of_ne_zero (Nat.ne_zero_of_lt hlt')
      exact resume_next hy (ihs _ _ _ _ _ rfl (by omega) hnext)

/-- **A value that nobody wants is taken**, up to what follows it. -/
theorem gives_skipValue {t : Tree} (h : Spelled (.value t) bs) (hrest : Follows rest)
    (hsolid : solid x = bs ++ rest) : skipValue.Gives x () rest := by
  have hlength := length_solid x
  rw [hsolid] at hlength
  refine gives_left.bind (skips h [] rest rest (x.length + 1) x hrest hsolid (by omega) ?_)
  exact fun _ _ _ _ => resume_nil rest

end RobotSession.Json.Reader
