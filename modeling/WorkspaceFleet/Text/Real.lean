import WorkspaceFleet.Text.Decimal
import WorkspaceFleet.Text.Shortest
import WorkspaceFleet.Word

/-!
# WorkspaceFleet.Text.Real

Real numbers in decimal notation.

`nearest` reads a numeral as the binary64 value nearest to it. `stepwise?` reads it in two steps that
round one after the other, so that a numeral of many digits may miss the nearest value; `reread` says which
value comes of writing one and reading it so.
-/

namespace WorkspaceFleet
namespace Text
namespace Real

/-- The binary64 value nearest to `digits · 10 ^ exponent`; beyond the largest finite one it is
infinite. -/
def nearest (negative : Bool) (digits : List Char) (exponent : Int) : Float :=
  let m := Decimal.value digits
  let top : Int := exponent + digits.length
  let x : Float :=
    if m = 0 ∨ top < -400 then 0
    else if 0 ≤ exponent then
      if 400 < exponent then 1 / 0 else OfScientific.ofScientific m false exponent.toNat
    else OfScientific.ofScientific m true exponent.natAbs
  if negative then -x else x

def largestPower : Nat := 308

def powerOfTen (n : Nat) : Float := OfScientific.ofScientific 1 false n

/-- A value times a power of ten, in as many steps as the power needs. -/
def shift? (x : Float) (exponent : Int) : Option Float :=
  if largestPower < exponent then if x == 0 then some x else none
  else if 0 ≤ exponent then
    let y := x * powerOfTen exponent.toNat
    if y.isInf then none else some y
  else if -(largestPower : Int) ≤ exponent then some (x / powerOfTen exponent.natAbs)
  else shift? (x / powerOfTen largestPower) (exponent + largestPower)
termination_by (-exponent).toNat
decreasing_by simp only [largestPower] at *; omega

end Real

structure Numeral where
  negative : Bool
  whole : List Char
  /-- The digits after the point; without any there is no point. -/
  fraction : List Char
  /-- The power of ten after the digits, if one is written. -/
  exponent : Option Int
  deriving DecidableEq, Repr

namespace Numeral

/-- The digits with the power of ten that their number is multiplied by. -/
def parts (n : Numeral) : List Char × Int :=
  (n.whole ++ n.fraction, n.exponent.getD 0 - n.fraction.length)

def nearest (n : Numeral) : Float := Real.nearest n.negative n.parts.1 n.parts.2

/-- A number with digits appended as long as it fits a 64-bit word, and the digits that are left. -/
def takeWord (m : Nat) : List Char → Nat × List Char
  | [] => (m, [])
  | c :: rest =>
    let next := m * 10 + (c.toNat - 48)
    if next < word64 then takeWord next rest else (m, c :: rest)

/-- The value of a numeral in two steps: the leading digits as far as they fit a 64-bit word are rounded to
a value, and that is multiplied or divided by a power of ten. There is none beyond the largest finite
value. -/
def stepwise? (n : Numeral) : Option Float :=
  let (m, skipped) := takeWord 0 n.whole
  let (m, unread) := takeWord m n.fraction
  let exponent : Int := n.exponent.getD 0 + skipped.length - (n.fraction.length - unread.length : Nat)
  (Real.shift? (Float.ofNat m) exponent).map (fun x => if n.negative then -x else x)

def text (n : Numeral) : String :=
  String.ofList ((if n.negative then ['-'] else []) ++ n.whole ++
      (if n.fraction.isEmpty then [] else '.' :: n.fraction)) ++
    match n.exponent with
    | none => ""
    | some e => "e" ++ toString e

/-- A decimal as a numeral. The point stands within or beside the digits where that takes no more than
sixteen places before and four zeros behind it; otherwise it stands after the first digit, and a power of
ten follows. -/
def ofScientific (negative : Bool) (d : Scientific) : Numeral :=
  let ds := Decimal.digits d.coefficient
  let point : Int := ds.length + d.exponent
  let zeros (n : Int) : List Char := List.replicate n.toNat '0'
  if 0 ≤ d.exponent ∧ point ≤ 16 then ⟨negative, ds ++ zeros d.exponent, ['0'], none⟩
  else if 0 < point ∧ point ≤ 16 then
    ⟨negative, ds.take point.toNat, ds.drop point.toNat, none⟩
  else if -5 < point ∧ point ≤ 0 then ⟨negative, ['0'], zeros (-point) ++ ds, none⟩
  else ⟨negative, ds.take 1, ds.drop 1, some (point - 1)⟩

/-- The numeral that a finite value is written as: the shortest one that denotes it. -/
def ofFloat (x : Float) : Numeral :=
  let negative := halfWord64 ≤ x.toBits.toNat
  if x == 0 then ⟨negative, ['0'], ['0'], none⟩ else ofScientific negative (shortest x)

end Numeral

namespace Real

def text (x : Float) : String := (Numeral.ofFloat x).text

/-- What the text of a finite value reads back as; infinite where it does not read back. -/
def reread (x : Float) : Float := (Numeral.ofFloat x).stepwise?.getD (1 / 0)

end Real
end Text
end WorkspaceFleet
