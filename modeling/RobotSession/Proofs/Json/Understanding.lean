import Mathlib.Data.List.DropRight
import RobotSession.Proofs.Json.Meaning

/-!
# Codecs that understand what is spelled

A codec understands values as a type does if it reads from every spelling of a value what the value
means to the type, stops right behind it, and fails if it means nothing.

* `Codec.Understands` — a codec reads what values mean.
* `Tree.word64?`, `Tree.word32?`, `Tree.string?`, `Tree.items?` — what values mean to types.
* `Codec.understands_whole`, `Codec.understands_text` — plain types.
* `Codec.Understands.list` — lists of what a codec understands.
* `Codec.decode_iff` — whole texts.
-/

namespace RobotSession.Json

open Reader

variable {α β : Type} {c : Codec α} {meaning : Tree → Option α} {t : Tree} {ts : List Tree}
  {bs x y z rest : List UInt8} {b : UInt8}

/-! ### What values mean -/

namespace Tree

/-- The number that a value is, in a type of so many numbers. -/
def within? (size : Nat) (ofNat : Nat → α) (t : Tree) : Option α :=
  t.natural?.bind fun n => if n < size then some (ofNat n) else none

def word64? : Tree → Option UInt64 :=
  within? UInt64.size .ofNat

def word32? : Tree → Option UInt32 :=
  within? UInt32.size .ofNat

/-- **The text that a value is**, if it is one. -/
def string? : Tree → Option String
  | .text parts => Part.textOf parts
  | _ => none

/-- **The values of a list**, if there is one and all of them have a meaning. -/
def items? (meaning : Tree → Option α) : Tree → Option (List α)
  | .list ts => ts.mapM meaning
  | _ => none

end Tree

namespace Codec

/-- **A codec reads what values mean**, however they are spelled, and refuses what means nothing. -/
def Understands (c : Codec α) (meaning : Tree → Option α) : Prop :=
  ∀ ⦃t : Tree⦄ ⦃bs rest x : List UInt8⦄, Spelled (.value t) bs → Follows rest →
    solid x = bs ++ rest → c.read.Yields x (meaning t) rest

/-- A value is read from between its blanks. -/
theorem Understands.item (hc : c.Understands meaning) (h : Spelled (.item t) bs)
    (hrest : Follows rest) (hsolid : solid x = solid (bs ++ rest)) :
    ∃ y, c.read.Yields x (meaning t) y ∧ solid y = solid rest := by
  obtain ⟨bs', y, hvalue, hfollows, hfront, hsame⟩ := h.value hrest hsolid
  exact ⟨y, hc hvalue hfollows hfront, hsame⟩

/-! ### Plain types -/

/-- **Numbers of a type are understood**, and no others. -/
theorem understands_within {type : String} {size : Nat} {ofNat : Nat → α} {value : α → Int}
    (hsize : size ≤ UInt64.size) :
    (whole type (fun i => if 0 ≤ i ∧ i < size then some (ofNat i.toNat) else none) value).Understands
      (Tree.within? size ofNat) := by
  intro t bs rest x h hrest hsolid
  have hread : (Reader.whole type fun i : Int =>
      if 0 ≤ i ∧ i < size then some (ofNat i.toNat) else none).Yields x
      (t.natural?.bind fun k : Nat =>
        if 0 ≤ (k : Int) ∧ (k : Int) < size then some (ofNat (k : Int).toNat) else none) rest := by
    -- a negative number is refused, and so is one that is too large for any word
    refine yields_whole h (fun i hi => if_neg fun hle => ?_) (fun k hk => if_neg fun hle => ?_) hrest
      hsolid
    · exact Int.not_le.mpr hi hle.1
    · have hlt := Int.ofNat_lt.mp hle.2
      unfold largest UInt64.size at hk
      unfold UInt64.size at hsize
      omega
  simp only [Int.natCast_nonneg, true_and, Int.ofNat_lt, Int.toNat_natCast] at hread
  exact hread

theorem understands_word64 (type : String) : (word64 type).Understands Tree.word64? :=
  understands_within (Nat.le_refl _)

theorem understands_word32 (type : String) : (word32 type).Understands Tree.word32? :=
  understands_within (by decide)

/-- **Texts are understood.** -/
theorem understands_text : text.Understands Tree.string? := by
  intro t bs rest x h hrest hsolid
  obtain ⟨b, y, hfront, hb⟩ := h.front hsolid
  cases t with
  | text parts =>
    cases h with
    | text h =>
      rw [List.cons_append, List.append_assoc] at hsolid
      refine yields_starting hsolid (if_pos rfl) (gives_skip.yields ?_)
      have htext := (yields_text rest h).map (g := id)
      rw [Option.map_id] at htext
      exact htext
  -- any other tree starts with another octet than a quote
  | _ => exact fails_starting hfront (if_neg fun hquote => (hb.opening.1 hquote).elim nofun)

end Codec

/-! ### Lists -/

namespace Reader

theorem gives_hasElement_end (first : Bool) (hsolid : solid x = 93 :: rest) :
    (hasElement first).Gives x false (93 :: rest) := by
  have hpeek := gives_peekSolid x
  rw [hsolid] at hpeek
  exact hpeek.bind (gives_pure _ _)

/-- The first element of a list comes. -/
theorem gives_hasElement_first (hsolid : solid x = b :: y) (hb : b ≠ 93) :
    (hasElement true).Gives x true (b :: y) := by
  have hpeek := gives_peekSolid x
  rw [hsolid] at hpeek
  refine hpeek.bind ?_
  dsimp only [List.head?_cons]
  rw [if_neg hb]
  exact gives_pure _ _

/-- Another element of a list comes, after a comma. -/
theorem gives_hasElement_next (hsolid : solid x = 44 :: y) (hnext : solid y = b :: z)
    (hb : b ≠ 93) : (hasElement false).Gives x true (b :: z) := by
  have hpeek := gives_peekSolid x
  have hpeek' := gives_peekSolid y
  rw [hsolid] at hpeek
  rw [hnext] at hpeek'
  refine hpeek.bind (gives_skip.bind (hpeek'.bind ?_))
  dsimp only [List.head?_cons]
  rw [if_neg hb]
  exact gives_pure _ _

theorem gives_listEnd (hsolid : solid x = 93 :: rest) : listEnd.Gives x () rest := by
  have hpeek := gives_peekSolid x
  rw [hsolid] at hpeek
  exact hpeek.bind gives_skip

variable {r : Reader α} {f : α → Reader β} {o : Option α} {close : Reader Unit}

/-- A failure inside what encloses it is a failure. -/
theorem Fails.closing (h : r.Fails x) : (closing close r).Fails x := by
  intro p
  obtain ⟨e, c, hp⟩ := h p
  unfold Reader.closing
  rw [hp]
  dsimp only
  split
  · exact ⟨_, _, rfl⟩
  · exact ⟨_, _, rfl⟩

/-- What is read up to the end of what encloses it is read with the end. -/
theorem Yields.closing (h : r.Yields x o y) (hclose : close.Gives y () rest) :
    (closing close r).Yields x o rest := by
  cases o with
  -- only a value is followed by the closing octet; a refusal stays what it was
  | some a =>
    intro p
    obtain ⟨p', hp⟩ := h p
    obtain ⟨p'', hp'⟩ := hclose p'
    refine ⟨p'', ?_⟩
    unfold Reader.closing
    rw [hp]
    dsimp only
    rw [hp']
  | none => exact Fails.closing h

end Reader

theorem Reader.solid_solid (bs : List UInt8) : solid (solid bs) = solid bs :=
  List.dropWhile_idempotent _ bs

/-- There is an octet at least to every value of a list. -/
theorem Spelled.length_items (h : Spelled (.items ts) bs) : ts.length ≤ bs.length := by
  induction ts generalizing bs with
  | nil => exact Nat.zero_le _
  | cons t ts ih =>
    cases h with
    | lastItem h =>
      obtain ⟨b, y, hfront, -⟩ := h.solid_item []
      rw [List.append_nil] at hfront
      exact length_pos_of_solid hfront
    | nextItem h hs =>
      rw [List.length_append, List.length_cons, List.length_cons]
      exact Nat.le_trans (Nat.succ_le_succ (ih hs)) (Nat.le_add_left _ _)

/-- The values of a list begin with one. -/
theorem Spelled.gives_hasElement (h : Spelled (.items ts) bs) (rest : List UInt8) :
    (hasElement true).Gives (bs ++ rest) true (solid (bs ++ rest)) := by
  obtain ⟨b, z, hfront, -, hb⟩ := h.solid_items rest
  rw [hfront]
  exact gives_hasElement_first hfront hb

namespace Codec

/-- **The values of a list are read one by one**, up to the end. -/
theorem Understands.elements (hc : c.Understands meaning) (h : Spelled (.items ts) bs) :
    ∀ {fuel first done x}, ts.length < fuel →
      (hasElement first).Gives x true (solid (bs ++ 93 :: rest)) →
      (elements c.read fuel first done).Yields x
        ((ts.mapM meaning).map (done.reverse ++ ·)) (93 :: rest) := by
  induction ts generalizing bs with
  | nil => cases h
  | cons t ts ih =>
    intro fuel first done x hfuel hfirst
    obtain ⟨fuel, rfl⟩ := Nat.exists_eq_succ_of_ne_zero (Nat.ne_zero_of_lt hfuel)
    have hfuel' : ts.length < fuel := Nat.lt_of_succ_lt_succ hfuel
    refine hfirst.yields ?_
    rw [if_pos rfl]
    -- the list has a meaning if its first tree has one and the others have
    have hmeant : ((t :: ts).mapM meaning).map (done.reverse ++ ·)
        = (meaning t).bind fun a => (ts.mapM meaning).map ((a :: done).reverse ++ ·) := by
      rw [List.mapM_cons]
      cases meaning t with
      | none => rfl
      | some a => cases ts.mapM meaning <;> simp
    rw [hmeant]
    cases h with
    | lastItem h =>
      obtain ⟨y, hread, hy⟩ := hc.item h (Follows.bracket : Follows (93 :: rest)) (solid_solid _)
      refine hread.bind fun a _ => ?_
      obtain ⟨fuel, rfl⟩ := Nat.exists_eq_succ_of_ne_zero (Nat.ne_zero_of_lt hfuel')
      refine (gives_hasElement_end false (hy.trans (solid_cons rfl))).yields ?_
      have hnone : (([] : List Tree).mapM meaning).map ((a :: done).reverse ++ ·)
          = some (a :: done).reverse := congrArg some (List.append_nil _)
      rw [if_neg Bool.false_ne_true, hnone]
      exact gives_pure _ _
    | @nextItem _ _ bs bs' h hs =>
      have hcomma : solid (44 :: bs' ++ 93 :: rest) = 44 :: (bs' ++ 93 :: rest) := solid_cons rfl
      -- behind the comma the next element begins
      obtain ⟨b, z, hfront, -, hb⟩ := hs.solid_items (93 :: rest)
      rw [List.append_assoc]
      obtain ⟨y, hread, hy⟩ := hc.item h (Follows.comma : Follows (44 :: bs' ++ 93 :: rest)) (solid_solid _)
      refine hread.bind fun a _ => ih hs hfuel' ?_
      rw [hfront]
      exact gives_hasElement_next (hy.trans hcomma) hfront hb

/-- **Lists are understood** if their elements are. -/
theorem Understands.list (hc : c.Understands meaning) :
    (Codec.list c).Understands (Tree.items? meaning) := by
  intro t bs rest x h hrest hsolid
  obtain ⟨b, y, hfront, hb⟩ := h.front hsolid
  cases t with
  | list ts =>
    cases h with
    | @noItems w hw =>
      rw [List.cons_append, List.append_assoc] at hsolid
      refine yields_starting hsolid (if_pos rfl) (gives_skip.yields ?_)
      refine Yields.closing (o := some []) (gives_left.bind ?_) (gives_listEnd (solid_cons rfl))
      exact (gives_hasElement_end true ((solid_blanks hw _).trans (solid_cons rfl))).bind
        (gives_pure _ _)
    | @list _ bs h =>
      rw [List.cons_append, List.append_assoc] at hsolid
      refine yields_starting hsolid (if_pos rfl) (gives_skip.yields ?_)
      refine Yields.closing (gives_left.yields ?_) (gives_listEnd (solid_cons rfl))
      -- the fuel is the number of octets, of which each element takes one at least
      have hfuel : ts.length < (bs ++ 93 :: rest).length + 1 :=
        Nat.lt_succ_of_le (Nat.le_trans h.length_items (length_le_append bs (93 :: rest)))
      have hread : (Codec.elements c.read ((bs ++ 93 :: rest).length + 1) true []).Yields
          (bs ++ 93 :: rest) ((ts.mapM meaning).map ([].reverse ++ ·)) (93 :: rest) :=
        hc.elements h hfuel (h.gives_hasElement (93 :: rest))
      have hsame : (ts.mapM meaning).map (([] : List α).reverse ++ ·) = ts.mapM meaning :=
        Option.map_id'
      rw [hsame] at hread
      exact hread
  | _ => exact fails_starting hfront (if_neg fun hbracket => (hb.opening.2.1 hbracket).elim nofun)

/-! ### Whole texts -/

/-- A whole text is read as the value that it spells. -/
theorem Understands.decode_eq (hc : c.Understands meaning) (h : Spelled (.item t) bs) :
    (∃ a, meaning t = some a ∧ c.decode bs = .ok a)
      ∨ meaning t = none ∧ ∃ f, c.decode bs = .error f := by
  have hsame : bs = bs ++ [] := (List.append_nil bs).symm
  obtain ⟨y, hread, hy⟩ := hc.item h Follows.nil (congrArg solid hsame)
  unfold decode
  cases hmeaning : meaning t with
  | some a =>
    rw [hmeaning] at hread
    obtain ⟨p, hp⟩ := hread ⟨1, 0⟩
    -- the text is read to its end, where nothing but blanks is left
    obtain ⟨p', hp'⟩ := gives_peekSolid y p
    rw [hy] at hp'
    refine .inl ⟨a, rfl, ?_⟩
    dsimp only
    rw [bind_ok hp, bind_ok hp']
    rfl
  | none =>
    rw [hmeaning] at hread
    obtain ⟨e, c', hp⟩ := Fails.bind hread ⟨1, 0⟩
    refine .inr ⟨rfl, e, ?_⟩
    dsimp only
    rw [hp]

/-- **A whole text comes to what the value that it spells means**, and to a failure if that means
nothing. -/
theorem Understands.decode_iff (hc : c.Understands meaning) (h : Spelled (.item t) bs) (a : α) :
    c.decode bs = .ok a ↔ meaning t = some a := by
  rcases hc.decode_eq h with ⟨a', hmeaning, hdecode⟩ | ⟨hmeaning, f, hdecode⟩
  · rw [hmeaning, hdecode, Except.ok.injEq, Option.some.injEq]
  · rw [hmeaning, hdecode]
    exact ⟨nofun, nofun⟩

end Codec
end RobotSession.Json
