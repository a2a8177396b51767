import RowBinding.Decimal.Binary64

/-!
# Shortest decimals

The text of a magnitude has the fewest digits that read back as the same magnitude, and of those
the nearest. Magnitudes from 10 ^ -5 to below 10 ^ 16 are written positionally, with at least
one digit after the point; others with an exponent that always has a sign and never padding.
-/
namespace RowBinding.Decimal

/-- A point of the decimal grid 10 ^ power. -/
structure GridPoint where
  digits : Nat
  power : Int
deriving DecidableEq, Repr

namespace Binary64

/-- A quarter of the magnitude's last place, and the lower end, the magnitude and the upper end
of the numbers that round to it, counted in such quarters. -/
def bounds (x : Binary64) : Int × Nat × Nat × Nat :=
  let m := 4 * x.mantissa
  let below := if x.mantissa = twoTo 52 ∧ -1074 < x.exponent then 1 else 2
  (x.exponent - 2, m - below, m, m + 2)

/-- The point of the grid 10 ^ k that is nearest to `x` among those that round to it. The two
neighbours of `x` on the grid are the only candidates. -/
def nearestOnGrid (x : Binary64) (k : Int) : Option Nat :=
  let (e, low, mid, high) := x.bounds
  let up := twoTo e.toNat * tenTo (-k).toNat
  let unit := twoTo (-e).toNat * tenTo k.toNat
  let inside (n : Nat) : Bool :=
    if x.mantissa % 2 = 0 then low * up ≤ n * unit && n * unit ≤ high * up
    else low * up < n * unit && n * unit < high * up
  let n := mid * up / unit
  let r := mid * up % unit
  let upperIsNearer := unit < 2 * r || (2 * r == unit && n % 2 == 1)
  match inside n, inside (n + 1) with
  | true, true => some (if upperIsNearer then n + 1 else n)
  | true, false => some n
  | false, true => some (n + 1)
  | false, false => none

/-- The first hit on the grids 10 ^ k, 10 ^ (k - 1), and so on; the last grid looked at is that
of `x` itself. -/
def coarsestHit (x : Binary64) : Nat → Int → GridPoint
  | 0, k => ⟨(x.bounds.2.2.1 * twoTo x.bounds.1.toNat * tenTo (-k).toNat) /
      (twoTo (-x.bounds.1).toNat * tenTo k.toNat), k⟩
  | steps + 1, k =>
    match x.nearestOnGrid k with
    | some n => ⟨n, k⟩
    | none => x.coarsestHit steps (k - 1)

/-- The shortest decimal that rounds to a magnitude other than zero, the nearest of those. The
first grid is coarser than the magnitude itself; seventeen digits always suffice. -/
def shortest (x : Binary64) : GridPoint :=
  let binaryDigits : Int := (Nat.log2 x.mantissa : Int) + x.exponent + 1
  x.coarsestHit 24 (Int.fdiv (binaryDigits * 30103) 100000 + 1)

end Binary64

def digitsOf (n : Nat) : List Char := Nat.toDigits 10 n

/-- The text of an exponent: its sign, then the digits of its size. -/
def exponentText (e : Int) : List Char :=
  (if e < 0 then '-' else '+') :: digitsOf e.natAbs

/-- A point of a grid as text, with `point` digits before the decimal point. -/
def GridPoint.text (p : GridPoint) : List Char :=
  let ds := digitsOf p.digits
  let point : Int := ds.length + p.power
  if 0 ≤ p.power && point ≤ 16 then
    ds ++ List.replicate p.power.toNat '0' ++ ['.', '0']
  else if 0 < point && point ≤ 16 then
    ds.take point.toNat ++ '.' :: ds.drop point.toNat
  else if -5 < point && point ≤ 0 then
    '0' :: '.' :: (List.replicate (-point).toNat '0' ++ ds)
  else
    match ds with
    | [] => []
    | [d] => d :: 'e' :: exponentText (point - 1)
    | d :: more => d :: '.' :: (more ++ 'e' :: exponentText (point - 1))

/-- The text of a magnitude with its sign. -/
def Binary64.text (negative : Bool) (x : Binary64) : String :=
  let body := if x.mantissa = 0 then ['0', '.', '0'] else x.shortest.text
  String.ofList (if negative then '-' :: body else body)

end RowBinding.Decimal
