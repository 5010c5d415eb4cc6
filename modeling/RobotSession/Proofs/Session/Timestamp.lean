import Mathlib.Algebra.Group.Nat.Defs
import RobotSession.Session.Timestamp

/-!
# Points in time that were written

The written form of a point in time has all the digits of its parts, and no blanks. Years with four
digits are read without looking further; of other years, and of the fraction of a second, a
character that is no digit says where they end.

* `Timestamp.read_write` — reading what was written.
-/

namespace RobotSession.Timestamp

open Calendar

variable {α β : Type} {m : Scan α} {a : α} {cs rest : List Char}

/-- A scan goes on where the one before has stopped. -/
theorem bind_ok {f : α → Scan β} (h : m cs = .ok (a, rest)) : (m >>= f) cs = f a rest := by
  change StateT.bind m f cs = _
  unfold StateT.bind
  rw [h]
  rfl

/-- What is left can be looked at. -/
theorem get_bind {f : List Char → Scan β} : ((get : Scan (List Char)) >>= f) cs = f cs cs :=
  rfl

/-- It can be replaced. -/
theorem set_bind {f : PUnit → Scan β} : ((set rest : Scan PUnit) >>= f) cs = f ⟨⟩ rest :=
  rfl

/-! ### Digits -/

/-- **The digits of a number**, perhaps with zeros before them. -/
structure IsDigits (ds : List Char) (n : Nat) : Prop where
  digits : ∀ d ∈ ds, d.isDigit = true
  value : valueOf ds = n
  some_ : ds ≠ []

/-- The value of digits is that of the library. -/
theorem valueOf_eq_ofDigitChars (ds : List Char) : valueOf ds = Nat.ofDigitChars 10 ds 0 := by
  rw [Nat.ofDigitChars_eq_foldl]
  unfold valueOf digitValue
  congr 1
  funext n c
  rw [Nat.mul_comm]
  rfl

/-- A number with zeros before it has the same value. -/
theorem isDigits_padded (width n : Nat) : IsDigits (padded width n) n where
  digits d hmem := by
    rcases List.mem_append.mp hmem with hzero | hdigit
    · rw [List.eq_of_mem_replicate hzero]
      rfl
    · exact Nat.isDigit_of_mem_toDigits (by decide) (by decide) hdigit
  -- the zeros in front do not count
  value := by
    rw [valueOf_eq_ofDigitChars]
    unfold padded
    rw [Nat.ofDigitChars_append, Nat.ofDigitChars_replicate_zero, Nat.mul_zero,
      Nat.ofDigitChars_ten_toDigits]
  some_ := by
    intro hnil
    exact Nat.toDigits_ne_nil (List.append_eq_nil_iff.mp hnil).2

/-- It has as many places as are wanted, if they are enough. -/
theorem length_padded {width n : Nat} (hwidth : 0 < width) (hn : n < 10 ^ width) :
    (padded width n).length = width := by
  have hle := (Nat.length_toDigits_le_iff (by decide) hwidth).mpr hn
  unfold padded
  rw [List.length_append, List.length_replicate]
  omega

/-- No digit comes next. -/
def Stops (rest : List Char) : Prop :=
  ∀ c ∈ rest.head?, c.isDigit = false

/-- Digits are taken up to what is none. -/
theorem takeWhile_digits {ds : List Char} (hdigits : ∀ d ∈ ds, d.isDigit = true)
    (hstops : Stops rest) : (ds ++ rest).takeWhile Char.isDigit = ds := by
  rw [List.takeWhile_append_of_pos hdigits]
  cases rest with
  | nil => exact List.append_nil ds
  | cons c rest => rw [List.takeWhile_cons_of_neg (by rw [hstops c rfl]; decide), List.append_nil]

/-- What is read as a number at the front of a text, of which `field` may be taken. -/
def numberOf (field cs : List Char) : Except Fault (Nat × List Char) :=
  let ds := field.takeWhile Char.isDigit
  if cs.isEmpty then .error .tooShort
  else if ds.isEmpty then .error .invalid
  else if maxNumber < valueOf ds then .error .outOfRange
  else .ok (valueOf ds, cs.drop ds.length)

/-- A number is read from the places that it may have. -/
theorem number_eq (width : Option Nat) (cs : List Char) :
    number width cs = numberOf (match width with | some w => cs.take w | none => cs) cs := by
  unfold number numberOf
  rw [get_bind]
  -- with a width or without, the reader tests for digits, for none and for too many in the same
  -- order
  cases width with
  | none | some w =>
    dsimp only
    split
    · rfl
    · split
      · rfl
      · split
        · rfl
        · rfl

/-- **A number is read as it was written**, if it is as wide as it may be, or if no digit comes
next. -/
theorem number_digits {width : Option Nat} {ds : List Char} {n : Nat} (h : IsDigits ds n)
    (hn : n ≤ maxNumber)
    (hwidth : width = some ds.length ∨ Stops rest ∧ ∀ w ∈ width, ds.length ≤ w) :
    number width (ds ++ rest) = .ok (n, rest) := by
  -- the digits are all that is taken, for nothing but the width or what follows ends them
  have hfield : (match width with | some w => (ds ++ rest).take w | none => ds ++ rest).takeWhile
      Char.isDigit = ds := by
    rcases hwidth with rfl | ⟨hstops, hwide⟩
    · have hall : (ds ++ []).takeWhile Char.isDigit = ds := takeWhile_digits h.digits nofun
      rw [List.append_nil] at hall
      dsimp only
      rw [List.take_left, hall]
    · cases width with
      | none => exact takeWhile_digits h.digits hstops
      | some w =>
        dsimp only
        rw [List.take_append, List.take_of_length_le (hwide w rfl)]
        refine takeWhile_digits h.digits fun c hmem => hstops c ?_
        rw [List.head?_take] at hmem
        split at hmem
        · cases hmem
        · exact hmem
  have hsome : (ds ++ rest).isEmpty = false := by
    rw [List.isEmpty_eq_false_iff]
    exact List.append_ne_nil_of_left_ne_nil h.some_ rest
  rw [number_eq]
  unfold numberOf
  dsimp only
  rw [hfield, hsome, List.isEmpty_eq_false_iff.mpr h.some_, h.value, List.drop_left,
    if_neg (by decide), if_neg (by decide), if_neg (Nat.not_lt_of_le hn)]

/-! ### Parts -/

/-- What a part of a written point in time starts with. -/
theorem blanks_eq {c : Char} (hsolid : Text.isBlank c = false) :
    blanks (c :: cs) = .ok ((), c :: cs) := by
  change Except.ok ((), (c :: cs).dropWhile Text.isBlank) = _
  rw [List.dropWhile_cons_of_neg (by rw [hsolid]; decide)]

/-- A digit is no blank. -/
theorem isBlank_of_isDigit {c : Char} (hdigit : c.isDigit = true) : Text.isBlank c = false := by
  have hrange : 48 ≤ c.toNat ∧ c.toNat ≤ 57 := Char.isDigit_iff_toNat.mp hdigit
  unfold Text.isBlank Text.blankRanges
  simp only [List.any_cons, List.any_nil, Bool.or_eq_false_iff, Bool.and_eq_false_iff,
    decide_eq_false_iff_not, and_true]
  omega

/-- There are no blanks before a number. -/
theorem blanks_padded (width n : Nat) :
    blanks (padded width n ++ rest) = .ok ((), padded width n ++ rest) := by
  obtain ⟨hdigits, -, hsome⟩ := isDigits_padded width n
  obtain ⟨d, ds, hpadded⟩ := List.exists_cons_of_ne_nil hsome
  rw [hpadded] at hdigits ⊢
  exact blanks_eq (isBlank_of_isDigit (hdigits d List.mem_cons_self))

/-- A part of two digits. -/
theorem field_padded {low high n : Nat} (hlow : low ≤ n) (hhigh : n ≤ high) (hn : n < 100) :
    field low high (padded 2 n ++ rest) = .ok (n, rest) := by
  have hnumber : number (some 2) (padded 2 n ++ rest) = .ok (n, rest) :=
    number_digits (isDigits_padded 2 n) (Nat.le_trans (Nat.le_of_lt hn) (by decide))
      (.inl (by rw [length_padded (by decide) hn]))
  unfold field
  rw [bind_ok (blanks_padded 2 n), bind_ok hnumber]
  unfold within
  rw [decide_eq_true hlow, decide_eq_true hhigh]
  rfl

/-- A year that has been read is not too large. -/
theorem year_within {y : Int} (hlow : minYear ≤ y) (hhigh : y ≤ maxYear) :
    (if -0x80000000 ≤ y && y < 0x80000000 then (pure y : Scan Int) else throw .outOfRange) rest
      = .ok (y, rest) := by
  unfold minYear at hlow
  unfold maxYear at hhigh
  rw [decide_eq_true (show -0x80000000 ≤ y by omega), decide_eq_true (show y < 0x80000000 by omega)]
  rfl

/-- **A year** is read as it was written, with its sign. -/
theorem year_yearText {y : Int} (hlow : minYear ≤ y) (hhigh : y ≤ maxYear) (hstops : Stops rest) :
    year (yearText y ++ rest) = .ok (y, rest) := by
  have hbounds : -262143 ≤ y ∧ y ≤ 262142 := ⟨hlow, hhigh⟩
  have hsign : Text.isBlank '-' = false ∧ Text.isBlank '+' = false := by decide
  unfold yearText year
  split
  · rename_i hfour
    rw [Bool.and_eq_true, decide_eq_true_eq, decide_eq_true_eq] at hfour
    have hnumber : number (some 4) (padded 4 y.toNat ++ rest) = .ok (y.toNat, rest) := by
      refine number_digits (isDigits_padded 4 y.toNat) ?_ (.inl ?_)
      · unfold maxNumber
        omega
      · rw [length_padded (by decide) (by omega)]
    -- the first character is a digit, and so no sign
    have hfirst : ∀ {c : Char} {cs : List Char}, padded 4 y.toNat ++ rest = c :: cs →
        c.isDigit = true := by
      intro c cs heq
      obtain ⟨hdigits, -, hsome⟩ := isDigits_padded 4 y.toNat
      obtain ⟨d, ds, hpadded⟩ := List.exists_cons_of_ne_nil hsome
      rw [hpadded] at hdigits heq
      obtain ⟨rfl, -⟩ := List.cons.inj heq
      exact hdigits d List.mem_cons_self
    rw [bind_ok (blanks_padded 4 y.toNat), get_bind]
    generalize padded 4 y.toNat ++ rest = cs at hnumber hfirst ⊢
    dsimp only
    split
    · have hminus : '-'.isDigit = true := hfirst rfl
      cases hminus
    · have hplus : '+'.isDigit = true := hfirst rfl
      cases hplus
    · rw [bind_ok hnumber, pure_bind, Int.toNat_of_nonneg hfour.1]
      exact year_within hlow hhigh
  · rename_i hsigned
    have hnumber : number none (padded 4 y.natAbs ++ rest) = .ok (y.natAbs, rest) := by
      refine number_digits (isDigits_padded 4 y.natAbs) ?_ (.inr ⟨hstops, nofun⟩)
      unfold maxNumber
      omega
    split
    · rw [List.cons_append, bind_ok (blanks_eq hsign.1), get_bind]
      change ((set (padded 4 y.natAbs ++ rest) : Scan PUnit) >>= fun _ => number none >>= fun n =>
        (pure (-(n : Int)) : Scan Int) >>= _) _ = _
      rw [set_bind, bind_ok hnumber, pure_bind, show -(y.natAbs : Int) = y by omega]
      exact year_within hlow hhigh
    · rw [List.cons_append, bind_ok (blanks_eq hsign.2), get_bind]
      change ((set (padded 4 y.natAbs ++ rest) : Scan PUnit) >>= fun _ => number none >>= fun n =>
        (pure (n : Int) : Scan Int) >>= _) _ = _
      rw [set_bind, bind_ok hnumber, pure_bind, show (y.natAbs : Int) = y by omega]
      exact year_within hlow hhigh

/-- **A fraction** is read as it was written, in as many places as it needs. -/
theorem fraction_fractionText {n : Nat} (hn : n < 1000000000) :
    fraction (fractionText n ++ 'Z' :: rest) = .ok (n, 'Z' :: rest) := by
  -- a fraction of some digits
  have hdigits : ∀ {k m : Nat}, 0 < k → k ≤ 9 → m < 10 ^ k → n = m * 10 ^ (9 - k) →
      fraction ('.' :: padded k m ++ 'Z' :: rest) = .ok (n, 'Z' :: rest) := by
    intro k m hk hle hm heq
    have hlength := length_padded hk hm
    have hnumber : number (some 9) (padded k m ++ 'Z' :: rest) = .ok (m, 'Z' :: rest) := by
      refine number_digits (isDigits_padded k m) ?_ (.inr ⟨?_, ?_⟩)
      · have hpower := Nat.pow_le_pow_right (n := 10) (by decide) hle
        unfold maxNumber
        omega
      · intro c hmem
        obtain rfl := Option.some.inj hmem
        rfl
      · rintro w hmem
        obtain rfl := Option.some.inj hmem
        rw [hlength]
        exact hle
    unfold fraction
    rw [List.cons_append, get_bind]
    change ((set (padded k m ++ 'Z' :: rest) : Scan PUnit) >>= fun _ => number (some 9) >>= fun n =>
      (get : Scan (List Char)) >>= fun cs => (set (cs.dropWhile Char.isDigit) : Scan PUnit) >>=
        fun _ => pure (n * Nat.pow 10 (9 - ((padded k m ++ 'Z' :: rest).length - cs.length)))) _ = _
    rw [set_bind, bind_ok hnumber, get_bind, set_bind, List.length_append, hlength,
      Nat.add_sub_cancel, heq]
    rfl
  unfold fractionText
  split
  · subst n
    rfl
  · split
    · exact hdigits (k := 3) (m := n / 1000000) (by decide) (by decide) (by omega) (by omega)
    · split
      · exact hdigits (k := 6) (m := n / 1000) (by decide) (by decide) (by omega) (by omega)
      · exact hdigits (k := 9) (m := n) (by decide) (by decide) (by omega) (by omega)

/-- The local time of UTC is the point in time. -/
theorem ofLocal_utc (t : Timestamp) :
    ofLocal t.date t.hour t.minute t.second t.nanosecond 0 = .ok t := by
  obtain ⟨date, hour, minute, second, nanosecond, hdate, hhour, hminute, hsecond, hnano⟩ := t
  -- with an offset of zero no day is carried over, and the minutes come apart again
  have hday : Int.fdiv ((hour : Int) * 60 + minute - 0) 1440 = 0 := by
    rw [Int.fdiv_eq_ediv_of_nonneg _ (by decide)]
    omega
  have hmod : (Int.fmod ((hour : Int) * 60 + minute - 0) 1440).toNat = hour * 60 + minute := by
    rw [Int.fmod_eq_emod_of_nonneg _ (by decide)]
    omega
  unfold ofLocal
  dsimp only
  rw [hday, hmod, hdate, if_neg (by decide), if_neg (by decide), if_neg (by decide),
    show (hour * 60 + minute) / 60 = hour by omega,
    show (hour * 60 + minute) % 60 = minute by omega]
  unfold of?
  rw [dif_pos ⟨hdate, hhour, hminute, hsecond, hnano⟩]

/-- A character is read. -/
theorem literal_eq (c : Char) : literal c (c :: rest) = .ok ((), rest) := by
  unfold literal
  rw [get_bind]
  dsimp only
  rw [if_pos rfl]
  rfl

/-- No month has more than 31 days. -/
theorem daysIn_le (year : Int) (month : Nat) : daysIn year month ≤ 31 := by
  unfold daysIn
  repeat' split
  all_goals decide

/-- **A point in time** is read part after part. -/
theorem whole_write (t : Timestamp) : whole (write t).toList = .ok (t, []) := by
  have hdate := t.date_valid
  unfold Date.isValid at hdate
  simp only [Bool.and_eq_true, decide_eq_true_eq] at hdate
  obtain ⟨⟨⟨⟨⟨hlow, hhigh⟩, hmonth⟩, hmonth'⟩, hday⟩, hday'⟩ := hdate
  have hdays := Nat.le_trans hday' (daysIn_le _ _)
  have hhour := t.hour_lt
  have hminute := t.minute_lt
  have hsecond := t.second_le
  have hstops : ∀ cs, Stops ('-' :: cs) := by
    intro cs c hmem
    obtain rfl := Option.some.inj hmem
    rfl
  have hzone : zone ['Z'] = .ok (0, []) := by
    unfold zone
    rw [get_bind, if_neg (by decide)]
    rfl
  unfold write
  rw [String.toList_ofList]
  simp only [List.append_assoc, List.cons_append]
  unfold whole
  -- each part is read as it was written, and no blanks are in between
  rw [bind_ok (year_yearText hlow hhigh (hstops _)), bind_ok (blanks_eq rfl),
    bind_ok (literal_eq '-'), bind_ok (field_padded hmonth hmonth' (by omega)),
    bind_ok (blanks_eq rfl), bind_ok (literal_eq '-'),
    bind_ok (field_padded hday hdays (by omega)), get_bind]
  dsimp only
  rw [if_pos (by decide), set_bind, bind_ok (field_padded (Nat.zero_le _) (by omega) (by omega)),
    bind_ok (blanks_eq rfl), bind_ok (literal_eq ':'),
    bind_ok (field_padded (Nat.zero_le _) (by omega) (by omega)),
    bind_ok (blanks_eq rfl), bind_ok (literal_eq ':'),
    bind_ok (field_padded (Nat.zero_le _) (by omega) (by omega)),
    bind_ok (fraction_fractionText t.nanosecond_lt), bind_ok (blanks_eq rfl), bind_ok hzone,
    bind_ok (show blanks [] = .ok ((), []) from rfl), get_bind, if_neg (by decide), ofLocal_utc]
  rfl

/-- **A point in time is read as it was written.** -/
theorem read_write (t : Timestamp) : read (write t) = .ok t := by
  unfold read
  rw [whole_write]

end RobotSession.Timestamp
