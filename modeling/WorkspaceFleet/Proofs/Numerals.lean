import Mathlib.Data.List.Basic
import WorkspaceFleet.Document.Json

/-!
# WorkspaceFleet.Proofs.Numerals

Numbers as they are written in JSON are read as one number.

A numeral that is `Proper` (it has a digit before its point, and a leading zero only alone) is read
to its end, whatever follows that cannot continue it (`Json.parseNumber_text`). Whole numbers are
written as such numerals (`Json.parseNumber_int`), and so are binary64 values, because the shortest
decimal of a value other than zero does not begin with a zero (`Numeral.proper_ofFloat`); these have
a point or a power of ten, which keeps them apart from whole numbers. That the shortest decimal is
the shortest one is `shortest_coarsest`.
-/

namespace WorkspaceFleet

namespace Text

/-! ## Digits -/

namespace Decimal

theorem toDigits_eq_digits (n : Nat) : Nat.toDigits 10 n = digits n := by
  have hchar : ∀ m : Fin 10, Nat.digitChar m = digitChar m := by decide
  induction n using Nat.strongRecOn with
  | ind n ih =>
    rw [Nat.toDigits_eq_if (by decide), digits]
    split
    · next h => rw [hchar ⟨n, h⟩]
    · next h => rw [ih (n / 10) (by omega), hchar ⟨n % 10, Nat.mod_lt n (by decide)⟩]

/-- A whole number is written as its sign and its digits. -/
theorem toList_toString (n : Int) :
    (toString n).toList = (if n < 0 then ['-'] else []) ++ digits n.natAbs := by
  cases n with
  | ofNat m =>
    have hnonneg : ¬Int.ofNat m < 0 := Int.not_lt.2 (Int.natCast_nonneg m)
    rw [if_neg hnonneg, List.nil_append, ← toDigits_eq_digits]
    exact Nat.toList_repr
  | negSucc m =>
    rw [if_pos (Int.negSucc_lt_zero m), ← toDigits_eq_digits]
    show ("-" ++ (m + 1).repr).toList = _
    rw [String.toList_append, Nat.toList_repr]
    rfl

theorem head?_digits {n : Nat} (hn : n ≠ 0) : (digits n).head? ≠ some '0' := by
  induction n using Nat.strongRecOn with
  | ind n ih =>
    rw [digits]
    split
    · next h =>
      have hchar : ∀ m : Fin 10, (m : Nat) ≠ 0 → digitChar m ≠ '0' := by decide
      exact fun heq => hchar ⟨n, h⟩ hn (Option.some.inj heq)
    · next h =>
      rw [List.head?_append_of_ne_nil _ (digits_ne_nil _)]
      exact ih (n / 10) (by omega) (by omega)

end Decimal

/-! ## Shortest decimals -/

theorem toBits_injective {x y : Float} (h : x.toBits = y.toBits) : x = y := by
  rcases x with ⟨⟨bits, hx⟩⟩
  rcases y with ⟨⟨bits', hy⟩⟩
  cases (show bits = bits' from h)
  rfl

namespace RoundingInterval

theorem low_pos_ofBinary {m : Nat} (hm : 0 < m) (q : Int) (narrow : Bool) :
    0 < (ofBinary m q narrow).low := by
  have hunit : 0 < Nat.pow 2 (q - 2).toNat := Nat.pow_pos (by decide)
  refine Nat.mul_pos ?_ hunit
  split <;> omega

theorem contains_zero {i : RoundingInterval} (hi : 0 < i.low) (k : Int) :
    i.contains ⟨0, k⟩ = false := by
  have hunit : 0 < Nat.pow 10 (-k).toNat := Nat.pow_pos (by decide)
  have hlow : 0 < i.low * Nat.pow 10 (-k).toNat := Nat.mul_pos hi hunit
  simp only [contains, scale, Nat.zero_mul]
  split
  · rw [decide_eq_false (Nat.not_le.2 hlow), Bool.false_and]
  · rw [decide_eq_false (Nat.not_lt_zero _), Bool.false_and]

theorem exponent_onGrid? {i : RoundingInterval} {k : Int} {d : Scientific}
    (h : i.onGrid? k = some d) : d.exponent = k := by
  simp only [onGrid?] at h
  split at h
  · split at h <;> cases h <;> rfl
  · cases h
    rfl
  · cases h
    rfl
  · cases h

theorem coefficient_ne_zero_of_search {i : RoundingInterval} (hi : 0 < i.low) {n : Nat} {k : Int}
    {d : Scientific} (h : i.search n k = some d) : d.coefficient ≠ 0 := by
  induction n generalizing k with
  | zero => cases h
  | succ n ih =>
    rw [search] at h
    split at h
    · next found =>
      cases h
      intro hzero
      have hcontains := contains_of_onGrid? found
      have := contains_zero hi d.exponent
      rw [← hzero] at this
      rw [this] at hcontains
      cases hcontains
    · exact ih h

/-- The search passes over a grid only if none of its points is in the interval. -/
theorem coarsest_of_search {i : RoundingInterval} (hi : i.Proper) {n : Nat} {first : Int}
    {d : Scientific} (h : i.search n first = some d) :
    i.contains d = true ∧
      ∀ k c, d.exponent < k → k ≤ first → i.contains ⟨c, k⟩ = false := by
  induction n generalizing first with
  | zero => cases h
  | succ n ih =>
    rw [search] at h
    split at h
    · next found =>
      cases h
      rw [exponent_onGrid? found]
      exact ⟨contains_of_onGrid? found, fun k c coarser le => absurd le (Int.not_le.2 coarser)⟩
    · next passed =>
      obtain ⟨hcontains, hcoarser⟩ := ih h
      refine ⟨hcontains, fun k c coarser le => ?_⟩
      rcases Int.lt_or_eq_of_le le with hlt | rfl
      · exact hcoarser k c coarser (Int.le_sub_one_of_lt hlt)
      · exact (onGrid?_eq_none_iff hi).1 passed c

end RoundingInterval

/-- A value other than zero is a positive number of powers of two. -/
theorem exists_ofBinary {x : Float} (hx : (x == 0) = false) :
    ∃ (m : Nat) (q : Int) (narrow : Bool), 0 < m ∧
      RoundingInterval.ofFloat x = .ofBinary m q narrow := by
  have hbits : x.toBits.toNat % halfWord64 ≠ 0 := by
    intro hzero
    have hlt : x.toBits.toNat < 18446744073709551616 := x.toBits.toNat_lt
    have hcases : x.toBits.toNat = 0 ∨ x.toBits.toNat = halfWord64 := by
      simp only [halfWord64] at *
      omega
    rcases hcases with h | h
    · have heq : x = 0 := toBits_injective (UInt64.toNat_inj.1 h)
      rw [heq] at hx
      exact absurd hx (by decide)
    · have heq : x = -0 := toBits_injective (UInt64.toNat_inj.1 h)
      rw [heq] at hx
      exact absurd hx (by decide)
  unfold RoundingInterval.ofFloat
  dsimp only
  split
  · next hsmall =>
    refine ⟨_, _, _, Nat.pos_of_ne_zero ?_, rfl⟩
    rcases Nat.div_eq_zero_iff.1 hsmall with hfractions | hlt
    · cases hfractions
    · rwa [Nat.mod_eq_of_lt hlt]
  · exact ⟨_, _, _, Nat.add_pos_left (by decide) _, rfl⟩

theorem low_pos_ofFloat {x : Float} (hx : (x == 0) = false) :
    0 < (RoundingInterval.ofFloat x).low := by
  obtain ⟨m, q, narrow, hm, h⟩ := exists_ofBinary hx
  rw [h]
  exact RoundingInterval.low_pos_ofBinary hm q narrow

theorem proper_ofFloat {x : Float} (hx : (x == 0) = false) :
    (RoundingInterval.ofFloat x).Proper := by
  obtain ⟨m, q, narrow, hm, h⟩ := exists_ofBinary hx
  rw [h]
  exact RoundingInterval.proper_ofBinary hm q narrow

/-- The shortest decimal of a value other than zero is not zero, if one was found at all. -/
theorem coefficient_shortest {x : Float} (hx : (x == 0) = false) :
    (shortest x).coefficient = 0 → shortest x = ⟨0, 0⟩ := by
  rw [shortest]
  cases h : (RoundingInterval.ofFloat x).search 24 (RoundingInterval.ofFloat x).firstGrid with
  | none => exact fun _ => rfl
  | some d =>
    intro hzero
    exact absurd hzero (RoundingInterval.coefficient_ne_zero_of_search (low_pos_ofFloat hx) h)

/-- **The shortest decimal** of a value other than zero, if one was found at all, rounds to it, and
no decimal on a coarser grid does, from the first grid on. -/
theorem shortest_coarsest {x : Float} (hx : (x == 0) = false) :
    shortest x = ⟨0, 0⟩ ∨
      (RoundingInterval.ofFloat x).contains (shortest x) = true ∧
        ∀ k c, (shortest x).exponent < k → k ≤ (RoundingInterval.ofFloat x).firstGrid →
          (RoundingInterval.ofFloat x).contains ⟨c, k⟩ = false := by
  rw [shortest]
  cases h : (RoundingInterval.ofFloat x).search 24 (RoundingInterval.ofFloat x).firstGrid with
  | none => exact .inl rfl
  | some d => exact .inr (RoundingInterval.coarsest_of_search (proper_ofFloat hx) h)

/-! ## Numerals -/

namespace Numeral

/-- The digits are digits, there is one before the point, and a leading zero stands alone. -/
structure Proper (n : Numeral) : Prop where
  whole : n.whole ≠ []
  digits : ∀ c ∈ n.whole, Decimal.isDigit c = true
  leading : n.whole.head? ≠ some '0' ∨ n.whole.length = 1
  fraction : ∀ c ∈ n.fraction, Decimal.isDigit c = true

/-- It has a point or a power of ten. -/
def Fractional (n : Numeral) : Prop := n.fraction ≠ [] ∨ n.exponent ≠ none

/-- The characters after the digits. -/
def tail (n : Numeral) : List Char :=
  (if n.fraction.isEmpty then [] else '.' :: n.fraction) ++
    n.exponent.elim [] fun e => 'e' :: (toString e).toList

theorem toList_text (n : Numeral) :
    n.text.toList = (if n.negative then ['-'] else []) ++ (n.whole ++ n.tail) := by
  rw [text, String.toList_append, String.toList_ofList, tail]
  cases n.exponent with
  | none => simp
  | some e => simp [String.toList_append]

/-- A numeral begins with its sign or with a digit. -/
theorem Proper.first {n : Numeral} (proper : n.Proper) :
    ∃ c cs, n.text.toList = c :: cs ∧ (c = '-' ∨ Decimal.isDigit c = true) := by
  rw [toList_text]
  cases n.negative with
  | true => exact ⟨'-', _, rfl, .inl rfl⟩
  | false =>
    obtain ⟨c, cs, hcons⟩ := List.exists_cons_of_ne_nil proper.whole
    refine ⟨c, cs ++ n.tail, by rw [hcons]; rfl, .inr (proper.digits c ?_)⟩
    rw [hcons]
    exact List.mem_cons_self

/-- The numeral of a whole number. -/
def ofInt (n : Int) : Numeral := ⟨decide (n < 0), Decimal.digits n.natAbs, [], none⟩

theorem text_ofInt (n : Int) : (ofInt n).text = toString n := by
  rw [← String.toList_inj, toList_text, Decimal.toList_toString]
  simp [ofInt, tail]

theorem proper_ofInt (n : Int) : (ofInt n).Proper := by
  refine ⟨Decimal.digits_ne_nil _, fun c hc => Decimal.isDigit_of_mem_digits hc, ?_, nofun⟩
  by_cases hzero : n.natAbs = 0
  · right
    rw [ofInt, hzero]
    simp [Decimal.digits]
  · exact .inl (Decimal.head?_digits hzero)

theorem ofScientific_zero (negative : Bool) :
    ofScientific negative ⟨0, 0⟩ = ⟨negative, ['0'], ['0'], none⟩ := by
  simp [ofScientific, Decimal.digits, Decimal.digitChar]

theorem isDigit_of_mem_zeros {k : Nat} {c : Char} (h : c ∈ List.replicate k '0') :
    Decimal.isDigit c = true := by
  rw [List.eq_of_mem_replicate h]
  rfl

/-- The numeral of zero. -/
theorem proper_zero (negative : Bool) :
    (⟨negative, ['0'], ['0'], none⟩ : Numeral).Proper ∧
      (⟨negative, ['0'], ['0'], none⟩ : Numeral).Fractional :=
  ⟨⟨nofun, fun _ hc => isDigit_of_mem_zeros (k := 1) hc, .inr rfl,
    fun _ hc => isDigit_of_mem_zeros (k := 1) hc⟩, .inl nofun⟩

theorem proper_ofScientific (negative : Bool) {d : Scientific}
    (h : d.coefficient = 0 → d = ⟨0, 0⟩) :
    (ofScientific negative d).Proper ∧ (ofScientific negative d).Fractional := by
  by_cases hzero : d.coefficient = 0
  · rw [h hzero, ofScientific_zero]
    exact proper_zero negative
  have hdigits : ∀ c ∈ Decimal.digits d.coefficient, Decimal.isDigit c = true :=
    fun c hc => Decimal.isDigit_of_mem_digits hc
  have hnonempty := Decimal.digits_ne_nil d.coefficient
  have hleading := Decimal.head?_digits hzero
  have hlength := List.length_pos_iff.2 hnonempty
  have htake : ∀ k, 0 < k → (Decimal.digits d.coefficient).take k ≠ [] := fun k hk hnil =>
    (List.take_eq_nil_iff.1 hnil).elim (Nat.ne_of_gt hk) hnonempty
  unfold ofScientific
  dsimp only
  split
  · -- zeros before the point
    refine ⟨⟨?_, fun c hc => ?_, .inl ?_, fun c hc => isDigit_of_mem_zeros (k := 1) hc⟩, .inl nofun⟩
    · exact List.append_ne_nil_of_left_ne_nil hnonempty _
    · exact (List.mem_append.1 hc).elim (hdigits c) isDigit_of_mem_zeros
    · rwa [List.head?_append_of_ne_nil _ hnonempty]
  · next hbehind =>
    split
    · next hwithin =>
      -- the point within the digits
      refine ⟨⟨htake _ (by omega), fun c hc => hdigits c (List.mem_of_mem_take hc), .inl ?_,
        fun c hc => hdigits c (List.mem_of_mem_drop hc)⟩, .inl ?_⟩
      · rwa [List.head?_take, if_neg (by omega)]
      · rw [Ne, List.drop_eq_nil_iff]
        omega
    · split
      · -- zeros behind the point
        refine ⟨⟨nofun, fun c hc => isDigit_of_mem_zeros (k := 1) hc, .inr rfl, fun c hc => ?_⟩,
          .inl (List.append_ne_nil_of_right_ne_nil _ hnonempty)⟩
        exact (List.mem_append.1 hc).elim isDigit_of_mem_zeros (hdigits c)
      · -- a power of ten
        refine ⟨⟨htake 1 Nat.one_pos, fun c hc => hdigits c (List.mem_of_mem_take hc), .inr ?_,
          fun c hc => hdigits c (List.mem_of_mem_drop hc)⟩, .inr nofun⟩
        rw [List.length_take]
        omega

/-- **A binary64 value** is written as a proper numeral that is not taken for a whole number. -/
theorem proper_ofFloat (x : Float) : (ofFloat x).Proper ∧ (ofFloat x).Fractional := by
  rw [ofFloat]
  split
  · exact proper_zero _
  · next hx => exact proper_ofScientific _ (coefficient_shortest (Bool.not_eq_true _ ▸ hx))

end Numeral

end Text

/-! ## Reading -/

namespace Json

open Text (Numeral)
open Text.Decimal (isDigit)

variable {rest : List Char}

/-- What follows does not continue a number. -/
def Ends (rest : List Char) : Prop :=
  ∀ c, rest.head? = some c → isDigit c = false ∧ c ≠ '.' ∧ c ≠ 'e' ∧ c ≠ 'E'

theorem span_digits {ds : List Char} (hds : ∀ c ∈ ds, isDigit c = true)
    (hrest : ∀ c, rest.head? = some c → isDigit c = false) :
    (ds ++ rest).takeWhile isDigit = ds ∧ (ds ++ rest).dropWhile isDigit = rest := by
  rw [List.takeWhile_append_of_pos hds, List.dropWhile_append_of_pos hds]
  cases rest with
  | nil => simp
  | cons c rest =>
    have hc := hrest c rfl
    simp [hc]

theorem isDigit_ne {c : Char} (hc : isDigit c = true) : c ≠ '+' ∧ c ≠ '-' := by
  constructor <;> · rintro rfl; cases hc

theorem Ends.ne (h : Ends rest) (r : List Char) :
    rest ≠ '.' :: r ∧ rest ≠ 'e' :: r ∧ rest ≠ 'E' :: r := by
  refine ⟨?_, ?_, ?_⟩ <;> rintro rfl
  · exact (h _ rfl).2.1 rfl
  · exact (h _ rfl).2.2.1 rfl
  · exact (h _ rfl).2.2.2 rfl

theorem parseExponent_toString (e : Int) (ends : Ends rest) :
    parseExponent ((toString e).toList ++ rest) = some (e, rest) := by
  have hdigits : ∀ c ∈ Text.Decimal.digits e.natAbs, isDigit c = true :=
    fun c hc => Text.Decimal.isDigit_of_mem_digits hc
  obtain ⟨htake, hdrop⟩ := span_digits hdigits fun c hc => (ends c hc).1
  have hnonempty := Text.Decimal.digits_ne_nil e.natAbs
  have hfirst : ∀ c r, Text.Decimal.digits e.natAbs ++ rest = c :: r → isDigit c = true := by
    intro c r heq
    refine hdigits c (List.mem_of_mem_head? ?_)
    rw [← List.head?_append_of_ne_nil _ hnonempty, heq, List.head?_cons]
    rfl
  rw [Text.Decimal.toList_toString]
  split
  · next hneg =>
    simp only [List.cons_append, List.nil_append, parseExponent, htake, hdrop,
      List.isEmpty_eq_false_iff.2 hnonempty, Text.Decimal.value_digits, Bool.false_eq_true,
      if_false, if_true]
    rw [Int.ofNat_natAbs_of_nonpos (Int.le_of_lt hneg), Int.neg_neg]
  · next hnonneg =>
    rw [List.nil_append]
    unfold parseExponent
    split
    next negative cs hsign =>
    split at hsign
    · next heq => exact absurd rfl (isDigit_ne (hfirst _ _ heq)).1
    · next heq => exact absurd rfl (isDigit_ne (hfirst _ _ heq)).2
    · cases hsign
      simp only [htake, hdrop, List.isEmpty_eq_false_iff.2 hnonempty, Text.Decimal.value_digits,
        Bool.false_eq_true, if_false]
      rw [Int.natAbs_of_nonneg (Int.not_lt.1 hnonneg)]

/-- The reader of what may stand behind a point. -/
def parseFraction : List Char → Option (List Char × List Char)
  | '.' :: r =>
    if (r.takeWhile isDigit).isEmpty then none
    else some (r.takeWhile isDigit, r.dropWhile isDigit)
  | r => some ([], r)

/-- The reader of a power of ten, if there is one. -/
def parsePower : List Char → Option (Option Int × List Char)
  | 'e' :: r => (parseExponent r).map fun p => (some p.1, p.2)
  | 'E' :: r => (parseExponent r).map fun p => (some p.1, p.2)
  | r => some (none, r)

/-- As the reader of numbers goes on from there. -/
theorem parseFraction_bind {β : Type} (cs : List Char) (k : List Char × List Char → Option β) :
    (match cs with
      | '.' :: r =>
        if (r.takeWhile isDigit).isEmpty then do
          let x ← none
          k x
        else do
          let x ← some (r.takeWhile isDigit, r.dropWhile isDigit)
          k x
      | r => do
        let x ← some ([], r)
        k x) = (parseFraction cs).bind k := by
  unfold parseFraction
  split
  · split <;> rfl
  · rfl

theorem parsePower_bind {β : Type} (cs : List Char) (k : Option Int × List Char → Option β) :
    (match cs with
      | 'e' :: r => do
        let x ← (parseExponent r).map fun p => (some p.1, p.2)
        k x
      | 'E' :: r => do
        let x ← (parseExponent r).map fun p => (some p.1, p.2)
        k x
      | r => do
        let x ← some (none, r)
        k x) = (parsePower cs).bind k := by
  unfold parsePower
  split <;> rfl

theorem parsePower_tail (ends : Ends rest) (exponent : Option Int) :
    parsePower (exponent.elim [] (fun e => 'e' :: (toString e).toList) ++ rest) =
      some (exponent, rest) := by
  cases exponent with
  | none =>
    rw [Option.elim_none, List.nil_append]
    unfold parsePower
    split
    · exact absurd rfl (ends.ne _).2.1
    · exact absurd rfl (ends.ne _).2.2
    · rfl
  | some e =>
    rw [Option.elim_some, List.cons_append, parsePower, parseExponent_toString e ends]
    rfl

/-- What follows the digits of a numeral begins with no digit. -/
theorem head?_tail (ends : Ends rest) (exponent : Option Int) {c : Char}
    (h : (exponent.elim [] (fun e => 'e' :: (toString e).toList) ++ rest).head? = some c) :
    isDigit c = false ∧ c ≠ '.' := by
  cases exponent with
  | none => exact ⟨(ends c h).1, (ends c h).2.1⟩
  | some e =>
    cases h
    exact ⟨rfl, by decide⟩

theorem parseFraction_tail {n : Numeral} (proper : n.Proper) (ends : Ends rest) :
    parseFraction (n.tail ++ rest) =
      some (n.fraction, n.exponent.elim [] (fun e => 'e' :: (toString e).toList) ++ rest) := by
  obtain ⟨htake, hdrop⟩ := span_digits proper.fraction fun c hc => (head?_tail ends n.exponent hc).1
  unfold Numeral.tail
  rw [List.append_assoc]
  split
  · next hnone =>
    rw [List.isEmpty_iff.1 hnone, List.nil_append]
    unfold parseFraction
    split
    · next heq =>
      exact absurd rfl (head?_tail ends n.exponent (congrArg List.head? heq)).2
    · rfl
  · next hsome =>
    rw [List.cons_append, parseFraction, htake, hdrop, if_neg hsome]

/-- A sign is taken off, and without one the digits stand first. -/
theorem take_sign {negative : Bool} {ds cs l : List Char} (hds : ∀ c ∈ ds, isDigit c = true)
    (hne : ds ≠ []) (hl : l = (if negative = true then ['-'] else []) ++ (ds ++ cs)) :
    (if l.head? = some '-' then (true, l.drop 1) else (false, l)) = (negative, ds ++ cs) := by
  subst hl
  cases negative with
  | true => rfl
  | false =>
    have hfirst : (ds ++ cs).head? ≠ some '-' := by
      rw [List.head?_append_of_ne_nil _ hne]
      exact fun hc => (isDigit_ne (hds _ (List.mem_of_mem_head? hc))).2 rfl
    exact if_neg hfirst

/-- **A proper numeral is read to its end.** -/
theorem parseNumber_text {n : Numeral} (proper : n.Proper) (ends : Ends rest) :
    parseNumber (n.text.toList ++ rest) = (number? n).map fun d => (d, rest) := by
  have hfollows : ∀ c, (n.tail ++ rest).head? = some c → isDigit c = false := by
    intro c hc
    rw [Numeral.tail, List.append_assoc] at hc
    split at hc
    · exact (head?_tail ends n.exponent hc).1
    · cases hc
      rfl
  obtain ⟨htake, hdrop⟩ := span_digits proper.digits hfollows
  have hguard :
      (!n.whole.isEmpty && (n.whole.head? != some '0' || n.whole.length == 1)) = true := by
    rw [List.isEmpty_eq_false_iff.2 proper.whole]
    simpa using proper.leading
  rw [Numeral.toList_text, parseNumber, List.append_assoc, List.append_assoc,
    take_sign proper.digits proper.whole rfl]
  dsimp only
  rw [htake, hdrop, hguard]
  refine (parseFraction_bind _ _).trans ?_
  rw [parseFraction_tail proper ends]
  refine (parsePower_bind _ _).trans ?_
  rw [parsePower_tail ends]
  exact Option.map_eq_bind.symm

/-! ## Whole numbers and others -/

theorem number?_ofInt {n : Int} (low : -(halfWord64 : Int) ≤ n) (high : n < word64) :
    number? (Numeral.ofInt n) = some (.int n) := by
  unfold number?
  simp only [Numeral.ofInt, Text.Decimal.value_digits, List.isEmpty_nil, decide_eq_true_eq,
    true_and]
  split
  · next h => rw [Int.ofNat_natAbs_of_nonpos (Int.le_of_lt h.1), Int.neg_neg]
  · next h =>
    have hnonneg : 0 ≤ n := by
      simp only [halfWord64] at *
      omega
    rw [if_pos]
    · rw [Int.natAbs_of_nonneg hnonneg]
    · simp only [word64] at *
      omega

/-- **A whole number that fits a word** is read as it is written. -/
theorem parseNumber_int {n : Int} (low : -(halfWord64 : Int) ≤ n) (high : n < word64)
    (ends : Ends rest) : parseNumber ((toString n).toList ++ rest) = some (.int n, rest) := by
  rw [← Numeral.text_ofInt, parseNumber_text (Numeral.proper_ofInt n) ends, number?_ofInt low high]
  rfl

theorem number?_of_fractional {n : Numeral} (h : n.Fractional) :
    number? n = n.stepwise?.map .real := by
  have hnot : ¬(n.fraction.isEmpty = true ∧ n.exponent = none) := fun hboth =>
    h.elim (fun hfraction => hfraction (List.isEmpty_iff.1 hboth.1)) fun hpower => hpower hboth.2
  unfold number?
  dsimp only
  rw [if_neg fun hall => hnot ⟨hall.1, hall.2.1⟩, if_neg fun hall => hnot ⟨hall.1, hall.2.1⟩]

/-- **A binary64 value** whose text reads back is read so from its text. -/
theorem parseNumber_real {x : Float} (readable : (Text.Real.reread x).isFinite = true)
    (ends : Ends rest) :
    parseNumber ((Text.Real.text x).toList ++ rest) = some (.real (Text.Real.reread x), rest) := by
  obtain ⟨hproper, hfractional⟩ := Numeral.proper_ofFloat x
  rw [Text.Real.text, parseNumber_text hproper ends, number?_of_fractional hfractional]
  rw [Text.Real.reread] at readable ⊢
  cases hvalue : (Numeral.ofFloat x).stepwise? with
  | none =>
    rw [hvalue] at readable
    exact absurd readable (by decide)
  | some y => rfl

end Json
end WorkspaceFleet
