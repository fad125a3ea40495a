/-
# The text of floating point numbers

A style says in which range numbers are written without an exponent and where ties go.  Without
an exponent there is always a point with a digit on either side of it.
-/
import Garage.Decimal.Shortest

namespace Garage.Decimal

/-- How floating point numbers are written. -/
structure Style where
  /-- Whether a number whose first digit stands for `10 ^ e` is written without an exponent. -/
  isPlain : Int → Bool
  tie : Tie

namespace Scientific

/-- The digits, the first of which is not zero unless the number is. -/
def digitList (d : Scientific) : List Char := Nat.toDigits 10 d.digits

/-- The exponent of the first digit. -/
def leading (d : Scientific) : Int := d.exp + d.digitList.length - 1

/-- The number with a point and without an exponent. -/
def plain (d : Scientific) : List Char :=
  let digits := d.digitList
  if 0 ≤ d.exp then digits ++ List.replicate d.exp.toNat '0' ++ ['.', '0']
  else
    let places := (-d.exp).toNat
    if places < digits.length then
      digits.take (digits.length - places) ++ '.' :: digits.drop (digits.length - places)
    else '0' :: '.' :: List.replicate (places - digits.length) '0' ++ digits

/-- The number with an exponent, which has a sign; there is a point only between digits. -/
def withExponent (d : Scientific) : List Char :=
  let mantissa :=
    match d.digitList with
    | first :: [] => [first]
    | first :: rest => first :: '.' :: rest
    | [] => []
  let e := d.leading
  mantissa ++ ['e', if e < 0 then '-' else '+'] ++ Nat.toDigits 10 e.natAbs

end Scientific

/-- The text of a floating point number. -/
def Binary64.text (style : Style) (x : Binary64) : List Char :=
  let d := x.magnitude.shortest style.tie
  (if x.negative then ['-'] else [])
    ++ if style.isPlain d.leading then d.plain else d.withExponent

end Garage.Decimal
