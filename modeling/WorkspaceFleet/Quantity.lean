import WorkspaceFleet.Text.Real

/-!
# WorkspaceFleet.Quantity

The arithmetic in which processor capacity is counted.

Servers declare and workspaces request fractions of a core. The bookkeeping and the placement
rules are written once, over any type with the operations of `Quantity`: `Float` is what a
running fleet uses, `Rat` reads the same rules as exact arithmetic.
-/

namespace WorkspaceFleet

/-- A number type for processor capacity. Comparisons follow the type's own `≤` and `<`;
`rank` is a total order that also places values no comparison relates. -/
class Quantity (κ : Type) extends Add κ, Sub κ, Div κ, LE κ, LT κ where
  decidableLE : DecidableLE κ
  decidableLT : DecidableLT κ
  ofInt : Int → κ
  /-- Two amounts closer than this count as the same amount. -/
  tolerance : κ
  magnitude : κ → κ
  /-- The larger of two values; a value that is not a number loses to one that is. -/
  larger : κ → κ → κ
  rank : κ → κ → Ordering
  equal : κ → κ → Bool
  /-- False for infinities and for what is not a number. -/
  isFinite : κ → Bool
  /-- The written form of a finite value. -/
  text : κ → String
  /-- What the written form of a finite value reads back as; not finite where it cannot be read. -/
  reread : κ → κ

namespace Quantity

variable {κ : Type} [Quantity κ]

instance (x y : κ) : Decidable (x ≤ y) := decidableLE x y
instance (x y : κ) : Decidable (x < y) := decidableLT x y

def zero : κ := ofInt 0

/-- Everything there is, as a share. -/
def one : κ := ofInt 1

def unitClamp (x : κ) : κ :=
  if x < zero then zero else if one < x then one else x

/-- The share of `total` that is used. Where nothing is declared everything counts as used. -/
def share (used total : κ) : κ :=
  if total ≤ zero then one else unitClamp (used / total)

/-- The position of a binary64 value in the total order of its bit patterns: negative values
run backwards below the positive ones, with `-0.0` just below `0.0`. -/
def binary64Rank (x : Float) : Int :=
  let bits := x.toBits.toNat
  if bits < halfWord64 then bits else -1 - ((bits - halfWord64 : Nat) : Int)

end Quantity

instance : Quantity Float where
  decidableLE := inferInstance
  decidableLT := inferInstance
  ofInt := Float.ofInt
  tolerance := 1e-9
  magnitude := Float.abs
  larger x y := if x < y then y else if x.isNaN then y else x
  rank x y := compare (Quantity.binary64Rank x) (Quantity.binary64Rank y)
  equal x y := x == y
  isFinite := Float.isFinite
  text := Text.Real.text
  reread := Text.Real.reread

instance : Quantity Rat where
  decidableLE := inferInstance
  decidableLT := inferInstance
  ofInt n := n
  tolerance := mkRat 1 1000000000
  magnitude x := if x < 0 then -x else x
  larger x y := if x < y then y else x
  rank x y := compareOfLessAndEq x y
  equal x y := x == y
  isFinite _ := true
  text x := toString x.num ++ "/" ++ Text.Decimal.text x.den
  reread x := x

end WorkspaceFleet
