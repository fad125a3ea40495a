/-
# Numbers in JSON

A number is an integer of 64 bits or a floating point number.  A fraction, an exponent or too
many digits make it the latter, and so does a sign before zero.

The floating point number is worked out from the digits that fit into 64 bits; further digits
only count for the exponent.  The digits and the power of ten are rounded first, and their
product or quotient is rounded again.
-/
import Garage.Decimal.Style
import Garage.Json.Fault

namespace Garage.Json

open Decimal

/-- A number in JSON text. -/
inductive Number
  | integer (n : Int)
  | real (x : Binary64)
deriving DecidableEq, Repr

/-- Floating point numbers from `0.00001` on and below `10 ^ 16` are written without an exponent;
of two decimals that are equally near, the even one is taken. -/
def realStyle : Style := ⟨fun e => -5 ≤ e ∧ e < 16, .toEven⟩

def Number.found : Number → Found
  | integer n => .integer n
  | real x => .real (x.text realStyle)

/-- The parts of a number. -/
structure NumberParts where
  negative : Bool
  whole : List Char
  /-- The digits after the point; none if there is no point. -/
  fraction : List Char
  /-- The sign of the exponent and its digits, if there is an exponent. -/
  exponent : Option (Bool × List Char)
deriving DecidableEq, Repr

/-- The parts of a number, where it stops, and what follows; `exponentStart` is the offset of the
exponent's digits. -/
structure ScannedNumber where
  parts : NumberParts
  exponentStart : Nat
  stop : Nat
  rest : List Char

/-- A digit was wanted: after this many bytes, and perhaps the text was over. -/
structure DigitExpected where
  offset : Nat
  atEnd : Bool

/-- Digits, of which there has to be one at least. -/
def scanDigits (offset : Nat) (cs : List Char) :
    Except DigitExpected (List Char × Nat × List Char) :=
  match cs.takeWhile Char.isDigit with
  | [] => .error (if cs.isEmpty then ⟨offset, true⟩ else ⟨offset + 1, false⟩)
  | ds => .ok (ds, offset + ds.length, cs.drop ds.length)

/-- The digits before the point: a zero stands alone. -/
def scanWhole (offset : Nat) (cs : List Char) :
    Except DigitExpected (List Char × Nat × List Char) := do
  let (ds, stop, rest) ← scanDigits offset cs
  match ds with
  | '0' :: _ :: _ => throw ⟨offset + 2, false⟩
  | _ => return (ds, stop, rest)

/-- The point and the digits after it, if there is a point. -/
def scanFraction (offset : Nat) (cs : List Char) :
    Except DigitExpected (List Char × Nat × List Char) :=
  match cs with
  | '.' :: rest => scanDigits (offset + 1) rest
  | _ => .ok ([], offset, cs)

/-- The exponent, if there is one, and the offset of its digits. -/
def scanExponent (offset : Nat) (cs : List Char) :
    Except DigitExpected (Option (Bool × List Char) × Nat × Nat × List Char) :=
  let digits (negative : Bool) (offset : Nat) (cs : List Char) := do
    let (ds, stop, rest) ← scanDigits offset cs
    return (some (negative, ds), offset, stop, rest)
  match cs with
  | c :: rest =>
    if c = 'e' ∨ c = 'E' then
      match rest with
      | '+' :: rest => digits false (offset + 2) rest
      | '-' :: rest => digits true (offset + 2) rest
      | rest => digits false (offset + 1) rest
    else .ok (none, offset, offset, cs)
  | [] => .ok (none, offset, offset, cs)

/-- A number at the beginning of a text. -/
def scanNumber (offset : Nat) (cs : List Char) : Except DigitExpected ScannedNumber := do
  let negative := cs.head? = some '-'
  let signLength := if negative then 1 else 0
  let (whole, stop, rest) ← scanWhole (offset + signLength) (cs.drop signLength)
  let (fraction, stop, rest) ← scanFraction stop rest
  let (exponent, exponentStart, stop, rest) ← scanExponent stop rest
  return ⟨⟨negative, whole, fraction, exponent⟩, exponentStart, stop, rest⟩

def digitValue (c : Char) : Nat := c.toNat - '0'.toNat

/-- Appends digits to a number as long as it stays below `bound`.  The result is the number and
how many digits were appended. -/
def absorb (bound n : Nat) : List Char → Nat × Nat
  | [] => (n, 0)
  | d :: ds =>
    let next := n * 10 + digitValue d
    if next < bound then
      let (m, count) := absorb bound next ds
      (m, count + 1)
    else (n, 0)

/-- `x * 10 ^ e`, where exponents beyond 308 are taken in steps of 308.  Very small numbers become
zero after a few steps, for which `fuel` is enough. -/
def scaleByTen (fuel : Nat) (x : Magnitude) (e : Int) : Option Magnitude :=
  match fuel with
  | 0 => some .zero
  | fuel + 1 =>
    if e.natAbs ≤ 308 then do
      let power ← Magnitude.ofDecimal 1 e.natAbs
      if 0 ≤ e then x.mul power else x.div power
    else if x.isZero then some .zero
    else if 0 ≤ e then none
    else do
      let power ← Magnitude.ofDecimal 1 308
      scaleByTen fuel (← x.div power) (e + 308)

/-- The value of a number, or where it was found to be out of range. -/
def ScannedNumber.value (s : ScannedNumber) : Except Fault Number :=
  let p := s.parts
  let (whole, taken) := absorb UInt64.size 0 p.whole
  let dropped := p.whole.length - taken
  if dropped = 0 ∧ p.fraction.isEmpty ∧ p.exponent.isNone
      ∧ (p.negative = false ∨ (0 < whole ∧ whole ≤ 1 <<< 63)) then
    .ok (.integer (if p.negative then -whole else whole))
  else
    let (digits, places) := absorb UInt64.size whole p.fraction
    let scale : Int := dropped - places
    let real (e : Int) : Except Fault Number :=
      match (Magnitude.ofNat digits).bind (scaleByTen 8 · e) with
      | some x => .ok (.real ⟨p.negative, x⟩)
      | none => .error ⟨.numberOutOfRange, s.stop⟩
    match p.exponent with
    | none => real scale
    | some (negative, ds) =>
      let (e, count) := absorb (1 <<< 31) 0 ds
      if count < ds.length then
        if digits ≠ 0 ∧ ¬ negative then
          .error ⟨.numberOutOfRange, s.exponentStart + count + 1⟩
        else .ok (.real ⟨p.negative, .zero⟩)
      else real (if negative then scale - e else scale + e)

end Garage.Json
