/-
# The fewest digits

Of the decimals that are nearer to a given magnitude than to any other, the shortest is taken;
if there are several, the one nearest to the magnitude.  The search goes over the powers of ten
downwards: on the first power that has such a decimal among its multiples, the decimal is one of
the two multiples next to the magnitude.
-/
import Garage.Decimal.Binary64

namespace Garage.Decimal

/-- The decimal `digits * 10 ^ exp`. -/
structure Scientific where
  digits : Nat
  exp : Int
deriving DecidableEq, Repr

/-- Which of two decimals is taken that are equally near. -/
inductive Tie
  | toEven
  | upwards
deriving DecidableEq, Repr

namespace Magnitude

/-- Compares `a * 10 ^ i` with `b * 2 ^ j`. -/
def compareScaled (a : Nat) (i : Int) (b : Nat) (j : Int) : Ordering :=
  compare ((a * Nat.pow 10 i.toNat) <<< (-j).toNat) ((b <<< j.toNat) * Nat.pow 10 (-i).toNat)

/-- Whether a decimal is nearer to `x` than to the magnitudes next to `x`, or in the middle and
rounded to `x`.  The magnitude below a power of two is only half as far away as the one above. -/
def rounds (x : Magnitude) (d : Scientific) : Bool :=
  let below := if x.mant = 1 <<< 52 ∧ minExp < x.exp then 1 else 2
  let lower := compareScaled d.digits d.exp (4 * x.mant - below) (x.exp - 2)
  let upper := compareScaled d.digits d.exp (4 * x.mant + 2) (x.exp - 2)
  if x.mant % 2 = 0 then lower != .lt && upper != .gt else lower == .gt && upper == .lt

/-- The largest multiple of `10 ^ i` that is not above `x`, as a number of such powers. -/
def floorOn (x : Magnitude) (i : Int) : Nat :=
  ((x.mant <<< x.exp.toNat) * Nat.pow 10 (-i).toNat)
    / ((1 <<< (-x.exp).toNat) * Nat.pow 10 i.toNat)

/-- The better of the two multiples of `10 ^ i` next to `x`, if one of them will do. -/
def nearestOn (x : Magnitude) (tie : Tie) (i : Int) : Option Scientific :=
  let low : Scientific := ⟨x.floorOn i, i⟩
  let high : Scientific := ⟨low.digits + 1, i⟩
  match x.rounds low, x.rounds high with
  | true, false => some low
  | false, true => some high
  | false, false => none
  | true, true =>
    -- the middle between the two is an odd number of halves
    match compareScaled (2 * low.digits + 1) i (2 * x.mant) x.exp with
    | .gt => some low
    | .lt => some high
    | .eq =>
      match tie with
      | .upwards => some high
      | .toEven => if low.digits % 2 = 0 then some low else some high

/-- The search over `fuel` powers of ten, from `10 ^ i` downwards. -/
def search (x : Magnitude) (tie : Tie) : Nat → Int → Option Scientific
  | 0, _ => none
  | fuel + 1, i => (x.nearestOn tie i).or (search x tie fuel (i - 1))

/-- The shortest decimal for a magnitude; zero is written with one digit. -/
def shortest (x : Magnitude) (tie : Tie) : Scientific :=
  if x.isZero then ⟨0, 0⟩ else (x.search tie 700 310).getD ⟨0, 0⟩

end Magnitude

end Garage.Decimal
