/-!
# Finite double-precision numbers

A magnitude is a mantissa of at most 53 binary digits times a power of two. Products and
quotients are exact fractions rounded to the nearest magnitude, ties to the even mantissa;
nothing stands for a result that is too large.

`ofDecimal` reads a decimal by rounding three times: the digits, the power of ten, and their
product or quotient. So it may miss the nearest magnitude by a little.
-/
namespace RowBinding.Decimal

def twoTo (k : Nat) : Nat := Nat.pow 2 k

def tenTo (k : Nat) : Nat := Nat.pow 10 k

/-- The magnitude mantissa · 2 ^ exponent. The mantissa is below 2 ^ 53, and at least 2 ^ 52
unless the exponent is the least one, -1074. -/
structure Binary64 where
  mantissa : Nat
  exponent : Int
deriving DecidableEq, Repr

/-- The numerator and denominator of a fraction divided by 2 ^ e. -/
def overPowerOfTwo (num den : Nat) (e : Int) : Nat × Nat :=
  if 0 ≤ e then (num, den * twoTo e.toNat) else (num * twoTo (-e).toNat, den)

/-- The natural number nearest to a fraction, the even one of two. -/
def roundHalfEven (num den : Nat) : Nat :=
  let q := num / den
  let r := num % den
  if den < 2 * r || (2 * r == den && q % 2 == 1) then q + 1 else q

/-- The exponent at which a fraction has 53 binary digits before the point, or the least one. -/
def exponentFor (num den : Nat) : Int :=
  let e : Int := (Nat.log2 num : Int) - (Nat.log2 den : Int) - 52
  let (n, d) := overPowerOfTwo num den e
  max (if n < twoTo 52 * d then e - 1 else e) (-1074)

namespace Binary64

def zero : Binary64 := ⟨0, -1074⟩

/-- The magnitude nearest to a fraction, unless it is too large. -/
def round (num den : Nat) : Option Binary64 :=
  if num = 0 then some zero
  else
    let e := exponentFor num den
    let (n, d) := overPowerOfTwo num den e
    let m := roundHalfEven n d
    let x : Binary64 := if m = twoTo 53 then ⟨twoTo 52, e + 1⟩ else ⟨m, e⟩
    if 971 < x.exponent then none else some x

def fraction (x : Binary64) : Nat × Nat := overPowerOfTwo x.mantissa 1 (-x.exponent)

def mul (x y : Binary64) : Option Binary64 :=
  round (x.fraction.1 * y.fraction.1) (x.fraction.2 * y.fraction.2)

def div (x y : Binary64) : Option Binary64 :=
  round (x.fraction.1 * y.fraction.2) (x.fraction.2 * y.fraction.1)

/-- The magnitude divided by 10 ^ k. -/
def overPowerOfTen (x : Binary64) (k : Nat) : Option Binary64 := do
  x.div (← round (tenTo k) 1)

/-- The magnitude divided `n` times by 10 ^ 308, or zero once it is reached. -/
def shrink : Nat → Binary64 → Option Binary64
  | 0, x => some x
  | n + 1, x => if x.mantissa = 0 then some x else (x.overPowerOfTen 308).bind (shrink n)

/-- The magnitude of a decimal with the given digits and power of ten, unless it is too large. -/
def ofDecimal (digits : Nat) (power : Int) : Option Binary64 := do
  let x ← round digits 1
  if 0 ≤ power then
    if power ≤ 308 then x.mul (← round (tenTo power.toNat) 1)
    else if x.mantissa = 0 then some x
    else none
  else
    let k := (-power).toNat
    let n := (k - 1) / 308
    (← shrink n x).overPowerOfTen (k - 308 * n)

end Binary64

end RowBinding.Decimal
