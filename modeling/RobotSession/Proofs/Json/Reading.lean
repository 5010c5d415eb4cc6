import RobotSession.Json.Codec
import RobotSession.Proofs.Text.Utf8

/-!
# Reading what was written

A reader takes octets if it succeeds on whatever begins with them and stops right after them. The
written form of a value is followed by the end of the text, by a comma, or by the end of what
encloses it; by none of them does a number go on.

* `Reader.Takes`, `Reader.Reads` — a reader takes octets, whatever follows or where a value ends.
* `Reader.takes_text` — texts, with their escapes.
* `Reader.number_writeNatural` — numbers.
-/

namespace RobotSession.Json

open Codec

/-- What may follow a value. -/
def Ends (rest : List UInt8) : Prop :=
  ∀ b ∈ rest.head?, b = 44 ∨ b = 93 ∨ b = 125

/-- No digit follows a value. -/
theorem Ends.isDigit_eq_false {rest : List UInt8} (h : Ends rest) :
    ∀ b ∈ rest.head?, Reader.isDigit b = false := by
  intro b hmem
  rcases h b hmem with rfl | rfl | rfl <;> rfl

/-- Places are counted octet by octet. -/
theorem Place.afterAll_append (p : Place) (bs bs' : List UInt8) :
    p.afterAll (bs ++ bs') = (p.afterAll bs).afterAll bs' :=
  List.foldl_append ..

/-- The first octet is counted first. -/
theorem Place.afterAll_cons (p : Place) (b : UInt8) (bs : List UInt8) :
    p.afterAll (b :: bs) = (p.after b).afterAll bs :=
  rfl

namespace Reader

variable {α β : Type} {a : α} {r : Reader α} {b : UInt8} {bs bs' rest : List UInt8} {p : Place}
  {c c' : Cursor}

/-- A reader takes octets, whatever follows. -/
def Takes (r : Reader α) (bs : List UInt8) (a : α) : Prop :=
  ∀ rest p, r ⟨bs ++ rest, p⟩ = .ok a ⟨rest, p.afterAll bs⟩

/-- A reader takes octets where a value may end. -/
def Reads (r : Reader α) (bs : List UInt8) (a : α) : Prop :=
  ∀ rest p, Ends rest → r ⟨bs ++ rest, p⟩ = .ok a ⟨rest, p.afterAll bs⟩

/-- What is taken whatever follows is read where a value may end. -/
theorem Takes.reads (h : Takes r bs a) : Reads r bs a :=
  fun rest p _ => h rest p

/-- A reader goes on where the one before has stopped. -/
theorem bind_ok {f : α → Reader β} (h : r c = .ok a c') : (r >>= f) c = f a c' := by
  change EStateM.bind r f c = _
  unfold EStateM.bind
  rw [h]

/-- What is made of a value does not matter for what is taken. -/
theorem Takes.returns {y : β} (h : Takes r bs a) : Takes (r >>= fun _ => pure y) bs y :=
  fun rest p => bind_ok (h rest p)

/-! ### Octets -/

/-- An octet is taken, and others after it. -/
theorem Takes.next {f : Option UInt8 → Reader α} (h : Takes (f (some b)) bs a) :
    Takes (Reader.next >>= f) (b :: bs) a :=
  fun rest p => h rest (p.after b)

/-- An octet may be skipped before. -/
theorem Takes.skip (h : Takes r bs a) : Takes (Reader.skip >>= fun _ => r) (b :: bs) a :=
  fun rest p => h rest (p.after b)

/-- An octet is skipped. -/
theorem skip_cons : skip ⟨b :: rest, p⟩ = .ok () ⟨rest, p.after b⟩ :=
  rfl

/-- An octet is taken. -/
theorem next_cons : next ⟨b :: rest, p⟩ = .ok (some b) ⟨rest, p.after b⟩ :=
  rfl

/-- The octets that are left are counted. -/
theorem left_eq : left c = .ok c.rest.length c :=
  rfl

/-- An octet is looked at. -/
theorem peek_cons : peek ⟨b :: rest, p⟩ = .ok (some b) ⟨b :: rest, p⟩ :=
  rfl

/-- There are no blanks to be skipped. -/
theorem peekSolid_cons (hsolid : Cursor.isBlank b = false) :
    peekSolid ⟨b :: rest, p⟩ = .ok (some b) ⟨b :: rest, p⟩ := by
  change peek (Cursor.skipBlanks (b :: rest) p) = _
  unfold Cursor.skipBlanks
  rw [hsolid]
  rfl

/-- A word is taken octet by octet. -/
theorem takes_word (bs : List UInt8) : Takes (word bs) bs () := by
  induction bs with
  | nil => exact fun _ _ => rfl
  | cons b bs ih =>
    refine Takes.next ?_
    change Takes (if b = b then word bs else failHere .expectedWord) bs ()
    rw [if_pos rfl]
    exact ih

/-- Only an error is placed. -/
theorem placed_ok (h : r c = .ok a c') : placed r c = .ok a c' := by
  unfold placed
  rw [h]

/-- A value is read by its first octet. -/
theorem starting_eq {expected : String} {start : UInt8 → Option (Reader α)}
    (hsolid : Cursor.isBlank b = false) (hstart : start b = some r) :
    starting expected start ⟨b :: rest, p⟩ = placed r ⟨b :: rest, p⟩ := by
  unfold starting
  rw [bind_ok (peekSolid_cons hsolid)]
  dsimp only
  rw [hstart]

/-- A value is read by the reader that its first octet stands for. -/
theorem Reads.starting {expected : String} {start : UInt8 → Option (Reader α)}
    (hsolid : Cursor.isBlank b = false) (hstart : start b = some r) (h : Reads r (b :: bs) a) :
    Reads (starting expected start) (b :: bs) a := by
  intro rest p hrest
  exact (starting_eq hsolid hstart).trans (placed_ok (h rest p hrest))

/-! ### Texts -/

/-- A hexadecimal digit is read as it was written. -/
theorem hexDigit?_hexOctet : ∀ n < 16, hexDigit? (hexOctet n) = some n := by
  decide

/-- So are four of them. -/
theorem takes_hexEscape {x y z w : UInt8} {i j k l : Nat} (hx : hexDigit? x = some i)
    (hy : hexDigit? y = some j) (hz : hexDigit? z = some k) (hw : hexDigit? w = some l) :
    Takes hexEscape [x, y, z, w] (((i * 16 + j) * 16 + k) * 16 + l) := by
  intro rest p
  -- four digits are taken at once, and their value is computed from the left
  have hdigits : [x, y, z, w].mapM hexDigit? = some [i, j, k, l] := by
    simp only [List.mapM_cons, List.mapM_nil, hx, hy, hz, hw, Option.bind_eq_bind, Option.pure_def,
      Option.bind_some]
  have hvalue : [i, j, k, l].foldl (fun n d => n * 16 + d) 0 = ((i * 16 + j) * 16 + k) * 16 + l := by
    simp only [List.foldl_cons, List.foldl_nil, Nat.zero_mul, Nat.zero_add]
  rw [← hvalue]
  have hget : (get : Reader Cursor) ⟨[x, y, z, w] ++ rest, p⟩
      = .ok ⟨[x, y, z, w] ++ rest, p⟩ ⟨[x, y, z, w] ++ rest, p⟩ := rfl
  have hset : ∀ c, (set (Cursor.mk rest (p.afterAll [x, y, z, w])) : Reader PUnit) c
      = .ok ⟨⟩ ⟨rest, p.afterAll [x, y, z, w]⟩ := fun _ => rfl
  unfold hexEscape
  rw [bind_ok hget]
  dsimp only [List.cons_append, List.nil_append]
  rw [bind_ok (hset _), hdigits]
  rfl

/-- An octet that would be a control character is written by its number. -/
theorem takes_codeEscape (hlow : b < 32) :
    Takes codeEscape [48, 48, hexOctet (b.toNat / 16), hexOctet (b.toNat % 16)] [b] := by
  intro rest p
  have hbound : b.toNat < 32 := hlow
  have hzero : hexDigit? 48 = some 0 := rfl
  -- the two leading zeros and two digits are read back to the number they were written for
  have hhex := takes_hexEscape hzero hzero
    (hexDigit?_hexOctet (b.toNat / 16) (by omega)) (hexDigit?_hexOctet (b.toNat % 16) (by omega))
    rest p
  rw [show ((0 * 16 + 0) * 16 + b.toNat / 16) * 16 + b.toNat % 16 = b.toNat by omega] at hhex
  unfold codeEscape
  rw [bind_ok hhex, if_neg (by simp; omega), if_pos (by simp; omega)]
  unfold Text.Utf8.encodeExtended
  rw [if_pos (by omega), UInt8.ofNat_toNat]
  rfl

/-- An escape of one letter stands for one octet. -/
theorem takes_escape {x : UInt8} (hshort : shortEscape? b = some x) : Takes escape [b] [x] := by
  intro rest p
  unfold escape
  rw [List.singleton_append, bind_ok next_cons]
  dsimp only
  rw [hshort]
  rfl

/-- **An octet of a text is read as it was written**, and what follows is read with it. -/
theorem textOctets_escaped (b : UInt8) (fuel : Nat) (done rest : List UInt8) (p : Place) :
    textOctets (fuel + 1) done ⟨escaped b ++ rest, p⟩
      = textOctets fuel (b :: done) ⟨rest, p.afterAll (escaped b)⟩ := by
  -- an octet that is escaped
  have hescape : ∀ bs, Takes escape bs [b] → textOctets (fuel + 1) done ⟨92 :: (bs ++ rest), p⟩
      = textOctets fuel (b :: done) ⟨rest, p.afterAll (92 :: bs)⟩ := by
    intro bs htakes
    change (escape >>= fun bs => textOctets fuel (bs.reverse ++ done)) ⟨bs ++ rest, p.after 92⟩ = _
    rw [bind_ok (htakes rest _)]
    rfl
  unfold escaped
  split
  · subst b
    exact hescape [34] (takes_escape rfl)
  split
  · subst b
    exact hescape [92] (takes_escape rfl)
  split
  · subst b
    exact hescape [98] (takes_escape rfl)
  split
  · subst b
    exact hescape [116] (takes_escape rfl)
  split
  · subst b
    exact hescape [110] (takes_escape rfl)
  split
  · subst b
    exact hescape [102] (takes_escape rfl)
  split
  · subst b
    exact hescape [114] (takes_escape rfl)
  split
  · exact hescape _ (Takes.next (takes_codeEscape ‹_›))
  · rename_i hquote hslash _ _ _ _ _ hlow
    change (if b = 34 then (pure done.reverse : Reader (List UInt8))
      else if b = 92 then escape >>= fun bs => textOctets fuel (bs.reverse ++ done)
      else if b < 32 then failHere .controlCharacter
      else textOctets fuel (b :: done)) ⟨rest, p.after b⟩ = _
    rw [if_neg hquote, if_neg hslash, if_neg hlow]
    rfl

/-- **The octets of a text** are read up to the quote. -/
theorem textOctets_written (bs : List UInt8) : ∀ (fuel : Nat) (done rest : List UInt8) (p : Place),
    bs.length < fuel →
    textOctets fuel done ⟨bs.flatMap escaped ++ 34 :: rest, p⟩
      = .ok (done.reverse ++ bs) ⟨rest, p.afterAll (bs.flatMap escaped ++ [34])⟩ := by
  -- each octet of the text uses one unit of fuel, however many octets its escape takes
  induction bs with
  | nil =>
    intro fuel done rest p hfuel
    obtain ⟨fuel, rfl⟩ := Nat.exists_eq_add_of_lt hfuel
    rw [List.append_nil]
    rfl
  | cons b bs ih =>
    intro fuel done rest p hfuel
    obtain ⟨fuel, rfl⟩ := Nat.exists_eq_succ_of_ne_zero (Nat.ne_zero_of_lt hfuel)
    rw [List.flatMap_cons, List.append_assoc, textOctets_escaped,
      ih fuel _ _ _ (Nat.lt_of_succ_lt_succ hfuel), List.reverse_cons, List.append_assoc,
      List.singleton_append, List.append_assoc, Place.afterAll_append p]

/-- Every octet is written as at least one. -/
theorem length_flatMap_escaped (bs : List UInt8) : bs.length ≤ (bs.flatMap escaped).length := by
  rw [List.length_flatMap]
  have hone : ∀ n ∈ bs.map fun b => (escaped b).length, 1 ≤ n := by
    intro n hmem
    obtain ⟨b, -, rfl⟩ := List.mem_map.mp hmem
    unfold escaped
    repeat' split
    all_goals simp
  have hle := List.length_le_sum_of_one_le _ hone
  rwa [List.length_map] at hle

/-- **A text is read as it was written.** -/
theorem takes_text (s : String) :
    Takes text (s.toUTF8.toList.flatMap escaped ++ [34]) s := by
  intro rest p
  have hlength := length_flatMap_escaped s.toUTF8.toList
  -- the fuel is one more than what is left to read, and an escape is never shorter than its octet
  have hoctets := textOctets_written s.toUTF8.toList
    ((s.toUTF8.toList.flatMap escaped ++ 34 :: rest).length + 1) [] rest p
    (by rw [List.length_append]; omega)
  unfold text
  rw [List.append_assoc, List.singleton_append]
  change (textOctets ((s.toUTF8.toList.flatMap escaped ++ 34 :: rest).length + 1) [] >>= _) _ = _
  rw [bind_ok hoctets]
  simp only [List.reverse_nil, List.nil_append, Text.toByteArray_toList, Text.Utf8.decode?_toUTF8]
  rfl

/-! ### Numbers -/

/-- The number that is read when digits follow those of `n`. -/
def valueAfter (n : Nat) (ds : List UInt8) : Nat :=
  ds.foldl (fun n d => n * 10 + (d.toNat - 48)) n

/-- More digits do not make a number smaller. -/
theorem le_valueAfter (ds : List UInt8) : ∀ n, n ≤ valueAfter n ds := by
  induction ds with
  | nil => exact fun _ => Nat.le_refl _
  | cons d ds ih =>
    intro n
    have hstep : n ≤ n * 10 + (d.toNat - 48) := by omega
    exact Nat.le_trans hstep (ih _)

/-- **The digits of a number**: a zero stands at the front only if it is alone. -/
structure IsDecimal (ds : List UInt8) (n : Nat) : Prop where
  digits : ∀ d ∈ ds, isDigit d = true
  value : valueAfter 0 ds = n
  front : ∃ d ds', ds = d :: ds' ∧ (d = 48 → ds' = [])

/-- A digit is written as one. -/
theorem isDigit_digitOctet (n : Nat) : isDigit (digitOctet n) = true := by
  unfold isDigit digitOctet
  simp only [Bool.and_eq_true, decide_eq_true_eq, UInt8.le_iff_toNat_le, UInt8.toNat_ofNat',
    UInt8.toNat_ofNat]
  omega

/-- It is the last digit of its number. -/
theorem toNat_digitOctet (n : Nat) : (digitOctet n).toNat - 48 = n % 10 := by
  unfold digitOctet
  simp only [UInt8.toNat_ofNat']
  omega

/-- A number of one digit is written as this digit. -/
theorem isDecimal_digitOctet {n : Nat} (hn : n < 10) : IsDecimal [digitOctet n] n where
  digits d hmem := by
    rw [List.mem_singleton.mp hmem]
    exact isDigit_digitOctet n
  value := by
    change 0 * 10 + ((digitOctet n).toNat - 48) = n
    rw [toNat_digitOctet]
    omega
  front := ⟨_, _, rfl, fun _ => rfl⟩

/-- Digits are written from the last one to the first, which is not a zero. -/
theorem naturalOctets_eq : ∀ (fuel n : Nat) (done : List UInt8), n ≤ fuel →
    ∃ ds, naturalOctets fuel n done = ds ++ done ∧ IsDecimal ds n := by
  intro fuel
  induction fuel with
  | zero =>
    intro n done hle
    exact ⟨[digitOctet n], rfl, isDecimal_digitOctet (by omega)⟩
  | succ fuel ih =>
    intro n done hle
    unfold naturalOctets
    split
    · exact ⟨[digitOctet n], rfl, isDecimal_digitOctet ‹_›⟩
    · rename_i hlarge
      obtain ⟨ds, hds, hdecimal⟩ := ih (n / 10) (digitOctet n :: done) (by omega)
      refine ⟨ds ++ [digitOctet n], ?_, ?_, ?_, ?_⟩
      · rw [hds, List.append_assoc, List.singleton_append]
      · intro d hmem
        rcases List.mem_append.mp hmem with hbefore | hlast
        · exact hdecimal.digits d hbefore
        · rw [List.mem_singleton.mp hlast]
          exact isDigit_digitOctet n
      · have hvalue := hdecimal.value
        unfold valueAfter at hvalue ⊢
        rw [List.foldl_append, hvalue, List.foldl_cons, List.foldl_nil, toNat_digitOctet]
        omega
      · obtain ⟨d, ds', rfl, halone⟩ := hdecimal.front
        refine ⟨d, ds' ++ [digitOctet n], rfl, fun hzero => ?_⟩
        -- a zero alone would be the number itself
        have hvalue := hdecimal.value
        rw [halone hzero, hzero] at hvalue
        change 0 = n / 10 at hvalue
        omega

/-- **A number is written in digits** without a zero at the front. -/
theorem isDecimal_writeNatural (n : Nat) : IsDecimal (writeNatural n) n := by
  obtain ⟨ds, hds, hdecimal⟩ := naturalOctets_eq n n [] (Nat.le_refl n)
  unfold writeNatural
  rw [hds, List.append_nil]
  exact hdecimal

/-- The digits of a number are read up to what follows them. -/
theorem digits_written {limit : Nat} (hrest : ∀ b ∈ rest.head?, isDigit b = false)
    (ds : List UInt8) : ∀ (fuel n count : Nat) (p : Place), (∀ d ∈ ds, isDigit d = true) →
    valueAfter n ds ≤ limit → ds.length ≤ fuel →
    digits limit fuel n count ⟨ds ++ rest, p⟩
      = .ok (valueAfter n ds, count + ds.length) ⟨rest, p.afterAll ds⟩ := by
  induction ds with
  | nil =>
    intro fuel n count p _ _ _
    cases fuel with
    | zero => rfl
    | succ fuel =>
      cases rest with
      | nil => rfl
      | cons b rest =>
        change (if isDigit b && n * 10 + (b.toNat - 48) ≤ limit then
            skip >>= fun _ => digits limit fuel (n * 10 + (b.toNat - 48)) (count + 1)
          else (pure (n, count) : Reader (Nat × Nat))) ⟨b :: rest, p⟩ = _
        rw [hrest b rfl]
        rfl
  | cons d ds ih =>
    intro fuel n count p hdigits hlimit hfuel
    obtain ⟨fuel, rfl⟩ := Nat.exists_eq_succ_of_ne_zero (Nat.ne_zero_of_lt hfuel)
    obtain ⟨hd, hds⟩ := List.forall_mem_cons.mp hdigits
    -- the value never falls, so that each beginning is within the limit as well
    have hle : n * 10 + (d.toNat - 48) ≤ limit := Nat.le_trans (le_valueAfter ds _) hlimit
    change (if isDigit d && n * 10 + (d.toNat - 48) ≤ limit then
        skip >>= fun _ => digits limit fuel (n * 10 + (d.toNat - 48)) (count + 1)
      else (pure (n, count) : Reader (Nat × Nat))) ⟨d :: (ds ++ rest), p⟩ = _
    rw [hd, decide_eq_true hle, Bool.and_self, if_pos rfl, bind_ok skip_cons]
    rw [ih fuel _ _ _ hds hlimit (Nat.le_of_succ_le_succ hfuel), List.length_cons]
    rw [Nat.add_assoc, Nat.add_comm 1]
    rfl

/-- Where no digit stands, none is skipped. -/
theorem skipDigits_nothing (hrest : ∀ b ∈ rest.head?, isDigit b = false) (fuel count : Nat) :
    skipDigits fuel count ⟨rest, p⟩ = .ok count ⟨rest, p⟩ := by
  cases fuel with
  | zero => rfl
  | succ fuel =>
    cases rest with
    | nil => rfl
    | cons b rest =>
      change (if isDigit b then skip >>= fun _ => skipDigits fuel (count + 1)
        else (pure count : Reader Nat)) ⟨b :: rest, p⟩ = _
      rw [hrest b rfl]
      rfl

/-- **The digits of a number are read**, up to where it may go on with a fraction. -/
theorem number_decimal {ds : List UInt8} {n : Nat} (positive : Bool) (h : IsDecimal ds n)
    (hn : n ≤ largest) (hnot : ∀ b ∈ rest.head?, isDigit b = false) :
    number positive ⟨ds ++ rest, p⟩ = numberRest positive n 0 ⟨rest, p.afterAll ds⟩ := by
  obtain ⟨hdigits, hvalue, d, ds, rfl, halone⟩ := h
  obtain ⟨hd, htail⟩ := List.forall_mem_cons.mp hdigits
  rw [List.cons_append]
  unfold number
  rw [bind_ok next_cons]
  dsimp only
  split
  · rename_i hzero
    -- a zero stands alone, and no digit may follow
    obtain rfl := halone hzero
    subst hzero
    obtain rfl : 0 = n := hvalue
    cases rest with
    | nil => rfl
    | cons b rest =>
      change (if isDigit b then failNext .invalidNumber else numberRest positive 0 0) _ = _
      rw [hnot b rfl]
      rfl
  · have hvalue' : valueAfter (d.toNat - 48) ds = n := by
      rw [← hvalue]
      change _ = valueAfter (0 * 10 + (d.toNat - 48)) ds
      rw [Nat.zero_mul, Nat.zero_add]
    have hdigits := digits_written hnot ds (ds ++ rest).length (d.toNat - 48) 0 (p.after d) htail
      (Nat.le_trans (Nat.le_of_eq hvalue') hn) (by rw [List.length_append]; omega)
    rw [bind_ok left_eq, bind_ok hdigits, bind_ok left_eq, bind_ok (skipDigits_nothing hnot _ _),
      hvalue']
    rfl

/-- **A number is read as it was written**, up to where it may go on with a fraction. -/
theorem number_written {n : Nat} (positive : Bool) (hn : n ≤ largest) (hrest : Ends rest) :
    number positive ⟨writeNatural n ++ rest, p⟩
      = numberRest positive n 0 ⟨rest, p.afterAll (writeNatural n)⟩ :=
  number_decimal positive (isDecimal_writeNatural n) hn hrest.isDigit_eq_false

/-- A number ends where a value does. -/
theorem numberRest_ends {n : Nat} (positive : Bool) (hrest : Ends rest) :
    numberRest positive n 0 ⟨rest, p⟩ =
      .ok (if positive then .natural n
        else if n = 0 || 0x8000000000000000 < n then .float (-(Number.Binary64.nearest false n 0))
        else .negative (-n)) ⟨rest, p⟩ := by
  have hplain : numberRest positive n 0 ⟨rest, p⟩
      = (if positive then (pure (.natural n) : Reader Number)
        else if n = 0 || 0x8000000000000000 < n then
          pure (.float (-(Number.Binary64.nearest false n 0)))
        else pure (.negative (-n))) ⟨rest, p⟩ := by
    cases rest with
    | nil => rfl
    | cons b rest =>
      -- a comma or a closing bracket is neither a point nor an exponent
      rcases hrest b rfl with rfl | rfl | rfl <;> rfl
  rw [hplain]
  split
  · rfl
  · split
    · rfl
    · rfl

/-! ### Whole numbers -/

/-- What a whole number that is written starts with. -/
theorem writeNatural_front (n : Nat) :
    ∃ d ds, writeNatural n = d :: ds ∧ isDigit d = true := by
  obtain ⟨hdigits, -, d, ds, hds, -⟩ := isDecimal_writeNatural n
  rw [hds] at hdigits ⊢
  exact ⟨d, ds, rfl, hdigits d List.mem_cons_self⟩

/-- A digit is no blank, and no sign. -/
theorem isBlank_of_isDigit (hdigit : isDigit b = true) : Cursor.isBlank b = false ∧ b ≠ 45 := by
  unfold isDigit at hdigit
  unfold Cursor.isBlank
  simp only [Bool.and_eq_true, decide_eq_true_eq, UInt8.le_iff_toNat_le, UInt8.toNat_ofNat,
    Bool.or_eq_false_iff, beq_eq_false_iff_ne, ne_eq, ← UInt8.toNat_inj] at hdigit ⊢
  omega

/-- **A whole number within the limits of a type is read as it was written.** -/
theorem reads_whole {type : String} {accept : Int → Option α} {i : Int}
    (haccept : accept i = some a) (hlow : -0x8000000000000000 ≤ i) (hhigh : i ≤ largest) :
    Reads (whole type accept) (writeInteger i) a := by
  unfold writeInteger
  split
  · rename_i hneg
    refine Reads.starting rfl rfl ?_
    intro rest p hrest
    -- both bounds together leave a magnitude that is read exactly
    have hbound : i.natAbs ≤ largest := by
      unfold largest UInt64.size
      omega
    rw [List.cons_append, bind_ok skip_cons]
    rw [bind_ok ((number_written false hbound hrest).trans (numberRest_ends false hrest))]
    rw [if_neg (by decide), if_neg (by simp; omega)]
    dsimp only
    rw [show -((i.natAbs : Nat) : Int) = i by omega, haccept]
    rfl
  · rename_i hnat
    -- without a sign the reader is chosen by the first digit
    obtain ⟨d, ds, hds, hdigit⟩ := writeNatural_front i.natAbs
    obtain ⟨hsolid, hsign⟩ := isBlank_of_isDigit hdigit
    have hbound : i.natAbs ≤ largest := by omega
    rw [hds]
    refine Reads.starting hsolid ((if_neg hsign).trans (if_pos hdigit)) ?_
    intro rest p hrest
    rw [← hds, bind_ok ((number_written true hbound hrest).trans (numberRest_ends true hrest)),
      if_pos rfl]
    dsimp only
    rw [show ((i.natAbs : Nat) : Int) = i by omega, haccept]
    rfl

end Reader
end RobotSession.Json
