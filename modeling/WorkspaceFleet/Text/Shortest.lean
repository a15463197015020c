import WorkspaceFleet.Word

/-!
# WorkspaceFleet.Text.Shortest

The shortest decimal that denotes a binary64 value.

A positive value `m · 2 ^ q` stands in the middle of an interval of real numbers, which are those that
round to it. Of the decimals in that interval `shortest` takes one on the coarsest grid `10 ^ k`, and of
two on the same grid the nearer one. All arithmetic is exact.

Main statements: `contains_of_onGrid?` and `onGrid?_eq_none_iff` say that a grid is passed over exactly if
none of its points is in the interval, though only the two next to the value are looked at.
-/

namespace WorkspaceFleet
namespace Text

/-- A number `coefficient · 10 ^ exponent`. -/
structure Scientific where
  coefficient : Nat
  exponent : Int
  deriving DecidableEq, Repr

/-- The real numbers that round to a binary64 value. They are counted in units of which `denominator` make
up one. -/
structure RoundingInterval where
  low : Nat
  middle : Nat
  high : Nat
  denominator : Nat
  /-- Whether the ends round to the middle, as they do where it is even. -/
  closed : Bool
  deriving DecidableEq, Repr

namespace RoundingInterval

/-- The interval around `m · 2 ^ q`. It reaches half way to the values next to it, of which the lower
one is only half as far where `narrow`. -/
def ofBinary (m : Nat) (q : Int) (narrow : Bool) : RoundingInterval :=
  let unit := Nat.pow 2 (q - 2).toNat
  { low := (4 * m - if narrow then 1 else 2) * unit
    middle := 4 * m * unit
    high := (4 * m + 2) * unit
    denominator := Nat.pow 2 (2 - q).toNat
    closed := m % 2 == 0 }

/-- The number of fractions that binary64 values of the same power of two have. -/
def fractions : Nat := 4503599627370496

def ofFloat (x : Float) : RoundingInterval :=
  let bits := x.toBits.toNat % halfWord64
  let power : Nat := bits / fractions
  let fraction := bits % fractions
  if power = 0 then ofBinary fraction (-1074) false
  else ofBinary (fractions + fraction) ((power : Int) - 1075) (fraction == 0 && 1 < power)

/-- Both sides of a comparison with `10 ^ k`: how often a unit counts, and how long a step is. -/
def scale (i : RoundingInterval) (k : Int) : Nat × Nat :=
  (Nat.pow 10 (-k).toNat, Nat.pow 10 k.toNat * i.denominator)

def contains (i : RoundingInterval) (d : Scientific) : Bool :=
  let (unit, step) := i.scale d.exponent
  let point := d.coefficient * step
  if i.closed then i.low * unit ≤ point && point ≤ i.high * unit
  else i.low * unit < point && point < i.high * unit

/-- The decimal on a grid that rounds to the middle and is nearest to it. Half way between two, the even
one is taken. -/
def onGrid? (i : RoundingInterval) (k : Int) : Option Scientific :=
  let (unit, step) := i.scale k
  let n := i.middle * unit / step
  match i.contains ⟨n, k⟩, i.contains ⟨n + 1, k⟩ with
  | true, true =>
    match compare (2 * i.middle * unit) ((2 * n + 1) * step) with
    | .lt => some ⟨n, k⟩
    | .gt => some ⟨n + 1, k⟩
    | .eq => some ⟨if n % 2 = 0 then n else n + 1, k⟩
  | true, false => some ⟨n, k⟩
  | false, true => some ⟨n + 1, k⟩
  | false, false => none

theorem contains_of_onGrid? {i : RoundingInterval} {k : Int} {d : Scientific}
    (h : i.onGrid? k = some d) : i.contains d = true := by
  simp only [onGrid?] at h
  split at h
  · next h₀ h₁ =>
    split at h
    · cases h; exact h₀
    · cases h; exact h₁
    · cases h
      split
      · exact h₀
      · exact h₁
  · next h₀ _ => cases h; exact h₀
  · next h₁ => cases h; exact h₁
  · cases h

/-- Whether the middle is where its name says, and the ends are apart from it where they do not count. -/
def Proper (i : RoundingInterval) : Prop :=
  i.low ≤ i.middle ∧ i.middle ≤ i.high ∧ (i.closed = false → i.low < i.middle ∧ i.middle < i.high)

theorem proper_ofBinary {m : Nat} (hm : 0 < m) (q : Int) (narrow : Bool) :
    (ofBinary m q narrow).Proper := by
  have hunit : 0 < Nat.pow 2 (q - 2).toNat := Nat.pow_pos (by decide)
  have low : (4 * m - if narrow then 1 else 2) < 4 * m := by split <;> omega
  have low := Nat.mul_lt_mul_of_pos_right low hunit
  have high := Nat.mul_lt_mul_of_pos_right (show 4 * m < 4 * m + 2 by omega) hunit
  exact ⟨Nat.le_of_lt low, Nat.le_of_lt high, fun _ => ⟨low, high⟩⟩

/-- If a point of a grid is in the interval, so is one of the two next to the middle. -/
theorem contains_neighbour {i : RoundingInterval} (hi : i.Proper) {k : Int} {c : Nat}
    (hc : i.contains ⟨c, k⟩ = true) :
    let n := i.middle * (i.scale k).1 / (i.scale k).2
    i.contains ⟨n, k⟩ = true ∨ i.contains ⟨n + 1, k⟩ = true := by
  intro n
  have hunit : 0 < (i.scale k).1 := Nat.pow_pos (by decide)
  have below : n * (i.scale k).2 ≤ i.middle * (i.scale k).1 := Nat.div_mul_le_self _ _
  rcases Nat.lt_or_ge n c with h | h
  · right
    have hle : (n + 1) * (i.scale k).2 ≤ c * (i.scale k).2 := Nat.mul_le_mul_right _ h
    rcases Nat.eq_zero_or_pos (i.scale k).2 with hz | hpos
    · simp_all [contains]
    have above : i.middle * (i.scale k).1 < (n + 1) * (i.scale k).2 := by
      rw [Nat.mul_comm (n + 1)]
      exact Nat.lt_mul_div_succ _ hpos
    simp only [contains] at hc ⊢
    cases hclosed : i.closed with
    | true =>
      simp only [hclosed, if_true, Bool.and_eq_true, decide_eq_true_eq] at hc ⊢
      have := Nat.mul_le_mul_right (i.scale k).1 hi.1
      omega
    | false =>
      simp only [hclosed, if_false, Bool.false_eq_true, Bool.and_eq_true, decide_eq_true_eq] at hc ⊢
      have := Nat.mul_lt_mul_of_pos_right (hi.2.2 hclosed).1 hunit
      omega
  · left
    have hle : c * (i.scale k).2 ≤ n * (i.scale k).2 := Nat.mul_le_mul_right _ h
    simp only [contains] at hc ⊢
    cases hclosed : i.closed with
    | true =>
      simp only [hclosed, if_true, Bool.and_eq_true, decide_eq_true_eq] at hc ⊢
      have := Nat.mul_le_mul_right (i.scale k).1 hi.2.1
      omega
    | false =>
      simp only [hclosed, if_false, Bool.false_eq_true, Bool.and_eq_true, decide_eq_true_eq] at hc ⊢
      have := Nat.mul_lt_mul_of_pos_right (hi.2.2 hclosed).2 hunit
      omega

theorem onGrid?_eq_none_iff {i : RoundingInterval} (hi : i.Proper) {k : Int} :
    i.onGrid? k = none ↔ ∀ c, i.contains ⟨c, k⟩ = false := by
  constructor
  · intro h c
    cases hc : i.contains ⟨c, k⟩ with
    | false => rfl
    | true =>
      have := contains_neighbour hi hc
      simp only [onGrid?] at h
      split at h
      · split at h <;> cases h
      · cases h
      · cases h
      · simp_all
  · intro h
    simp [onGrid?, h]

/-- The decimal on the first of `n` grids, each ten times finer than the one before. -/
def search (i : RoundingInterval) : Nat → Int → Option Scientific
  | 0, _ => none
  | n + 1, k =>
    match i.onGrid? k with
    | some d => some d
    | none => i.search n (k - 1)

/-- A grid that is coarser than the whole interval is long. A decimal logarithm is three tenths of a
binary one, and somewhat more. -/
def firstGrid (i : RoundingInterval) : Int :=
  ((Nat.log2 i.high : Int) - Nat.log2 i.denominator) * 30103 / 100000 + 2

end RoundingInterval

/-- The shortest decimal that rounds to the magnitude of a finite value other than zero. Seventeen digits
are always enough, and the first grid is at most four coarser than the first digit. -/
def shortest (x : Float) : Scientific :=
  let i := RoundingInterval.ofFloat x
  (i.search 24 i.firstGrid).getD ⟨0, 0⟩

end Text
end WorkspaceFleet
