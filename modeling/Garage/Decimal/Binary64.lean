/-
# Floating point numbers, exactly

A finite floating point number of 64 bits is a sign and a magnitude `mant * 2 ^ exp`.  Nothing
here is computed with approximations: a quotient of natural numbers is rounded to the nearest
magnitude, ties going to the even one, and products and quotients of magnitudes are the exact
ones rounded.  A result that is too large for 64 bits is `none`.
-/

namespace Garage.Decimal

/-- A magnitude `mant * 2 ^ exp`.  Either `2 ^ 52 ≤ mant < 2 ^ 53`, or `mant` is less than that and
`exp` is the least exponent. -/
structure Magnitude where
  mant : Nat
  exp : Int
deriving DecidableEq, Repr

/-- A finite floating point number. -/
structure Binary64 where
  negative : Bool
  magnitude : Magnitude
deriving DecidableEq, Repr

namespace Magnitude

/-- The exponent of the smallest magnitudes. -/
def minExp : Int := -1074

/-- The exponent of the largest magnitudes. -/
def maxExp : Int := 971

def zero : Magnitude := ⟨0, minExp⟩

def isZero (x : Magnitude) : Bool := x.mant = 0

/-- The magnitude as a quotient of two natural numbers. -/
def ratio (x : Magnitude) : Nat × Nat :=
  (x.mant <<< x.exp.toNat, 1 <<< (-x.exp).toNat)

/-- `num / den`, rounded to a whole number; a half goes to the even neighbour. -/
def roundHalfEven (num den : Nat) : Nat :=
  let q := num / den
  let r := num % den
  if den < 2 * r ∨ (2 * r = den ∧ q % 2 = 1) then q + 1 else q

/-- `num / (den * 2 ^ e)` as a quotient of two natural numbers. -/
def scaled (num den : Nat) (e : Int) : Nat × Nat :=
  (num <<< (-e).toNat, den <<< e.toNat)

/-- The exponent with which the quotient `num / den` is written: the one that gives a mantissa of
53 binary digits, unless that is too small. -/
def exponentOf (num den : Nat) : Int :=
  let guess := (num.log2 : Int) - den.log2 - 52
  let (n, d) := scaled num den guess
  max (if n / d < 1 <<< 52 then guess - 1 else guess) minExp

/-- The magnitude nearest to `num / den`. -/
def ofRatio (num den : Nat) : Option Magnitude :=
  if num = 0 then some zero
  else
    let e := exponentOf num den
    let (n, d) := scaled num den e
    let m := roundHalfEven n d
    let x : Magnitude := if m = 1 <<< 53 then ⟨1 <<< 52, e + 1⟩ else ⟨m, e⟩
    if maxExp < x.exp then none else some x

def ofNat (n : Nat) : Option Magnitude := ofRatio n 1

def mul (x y : Magnitude) : Option Magnitude :=
  ofRatio (x.ratio.1 * y.ratio.1) (x.ratio.2 * y.ratio.2)

/-- The quotient of `x` and a magnitude `y` other than zero. -/
def div (x y : Magnitude) : Option Magnitude :=
  ofRatio (x.ratio.1 * y.ratio.2) (x.ratio.2 * y.ratio.1)

/-- The magnitude nearest to `digits * 10 ^ e`.  Very large and very small exponents are not worked
out: their results are known from the number of digits. -/
def ofDecimal (digits : Nat) (e : Int) : Option Magnitude :=
  let size := (Nat.toDigits 10 digits).length + e
  if digits = 0 ∨ size < -400 then some zero
  else if 400 < size then none
  else ofRatio (digits * Nat.pow 10 e.toNat) (Nat.pow 10 (-e).toNat)

end Magnitude

end Garage.Decimal
