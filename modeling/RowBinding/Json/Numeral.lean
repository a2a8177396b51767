import RowBinding.Decimal.Shortest

/-!
# Numerals

A numeral is a number as it is written. An integer that fits in 64 bits, signed or unsigned,
keeps its exact value; every other numeral stands for a double-precision number, and one that is
too large for that stands for nothing. Minus zero is a double.

Only as many leading digits count as fit in 64 bits; later digits before the point still raise
the power of ten.
-/
namespace RowBinding.Json
open Decimal

/-- A number as written: the digits before and after the point, and the exponent. There is a
point exactly when there are digits after it. -/
structure Numeral where
  negative : Bool
  whole : List Nat
  fraction : List Nat
  exponent : Option Int
deriving DecidableEq, Repr

inductive Number where
  | integer (n : Int)
  | double (negative : Bool) (magnitude : Binary64)
deriving DecidableEq, Repr

/-- Appends digits to `n` while the result is below 2 ^ 64; also how many digits are left. -/
def gather (n : Nat) : List Nat → Nat × Nat
  | [] => (n, 0)
  | d :: ds => if n * 10 + d < twoTo 64 then gather (n * 10 + d) ds else (n, ds.length + 1)

/-- The value that a numeral stands for, unless it is too large. -/
def Numeral.number? (x : Numeral) : Option Number :=
  let (n, left) := gather 0 x.whole
  if left = 0 && x.fraction.isEmpty && x.exponent.isNone && (!x.negative || (0 < n && n ≤ twoTo 63))
  then some (.integer (if x.negative then -n else n))
  else
    let (digits, unused) := gather n x.fraction
    let power : Int := x.exponent.getD 0 + left - (x.fraction.length - unused : Nat)
    (Binary64.ofDecimal digits power).map (.double x.negative)

def Number.text : Number → String
  | .integer n => if n < 0 then "-" ++ n.natAbs.repr else n.natAbs.repr
  | .double negative magnitude => magnitude.text negative

end RowBinding.Json
