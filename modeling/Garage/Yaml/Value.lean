/-
# What scalars say

A plain scalar may say nothing, or be a truth value or a number; otherwise it is a text.  Scalars
in quotes or in lines of their own are texts.  A tag can say what a scalar has to be.

An integer may be written with base sixteen, eight or two.  A decimal that begins with a needless
zero is a text, and so is a number that is too large for a floating point number.
-/
import Garage.Decimal.Style
import Garage.Layout.Mismatch
import Garage.Text.Digits
import Garage.Yaml.Token

namespace Garage.Yaml

open Decimal

/-! ## Plain scalars -/

def isNull (cs : List Char) : Bool := ["~", "null", "Null", "NULL"].contains (String.ofList cs)

def truth? (cs : List Char) : Option Bool :=
  let word := String.ofList cs
  if ["true", "True", "TRUE"].contains word then some true
  else if ["false", "False", "FALSE"].contains word then some false
  else none

def dropPlus (cs : List Char) : List Char := if cs.head? = some '+' then cs.tail else cs

/-- Whether a text is a decimal that begins with a needless zero. -/
def hasLeadingZero (cs : List Char) : Bool :=
  let body := if cs.head? = some '-' then cs.tail else dropPlus cs
  match body with
  | '0' :: rest => !rest.isEmpty && rest.all Char.isDigit
  | _ => false

/-- A number without a sign. -/
def magnitude? (cs : List Char) : Option Nat :=
  match cs with
  | '0' :: 'x' :: rest => Text.number? 16 rest
  | '0' :: 'o' :: rest => Text.number? 8 rest
  | '0' :: 'b' :: rest => Text.number? 2 rest
  | _ => if hasLeadingZero cs then none else Text.number? 10 cs

/-- An integer that is not negative. -/
def unsigned? (cs : List Char) : Option Nat := magnitude? (dropPlus cs)

/-- An integer of 128 bits. -/
def integer? (cs : List Char) : Option Int :=
  match cs with
  | '-' :: rest => (magnitude? rest).bind fun n => if n ≤ 1 <<< 127 then some (-n) else none
  | _ => (unsigned? cs).bind fun n => if n < 1 <<< 128 then some n else none

/-- The sign and the digits of an exponent, if that is all there is; no text is the exponent
zero. -/
def exponent? (cs : List Char) : Option Int :=
  match cs with
  | [] => some 0
  | e :: rest =>
    if e = 'e' ∨ e = 'E' then
      match rest with
      | '-' :: ds => (Text.number? 10 ds).map fun n => -n
      | _ => (Text.number? 10 (dropPlus rest)).map fun n => n
    else none

/-- A decimal without a sign.  Digits may be left out before the point or after it, but not on both
sides. -/
def decimal? (cs : List Char) : Option Magnitude := do
  let whole := cs.takeWhile Char.isDigit
  let behind := cs.drop whole.length
  let fraction := if behind.head? = some '.' then behind.tail.takeWhile Char.isDigit else []
  let rest := if behind.head? = some '.' then behind.tail.drop fraction.length else behind
  let n ← Text.number? 10 (whole ++ fraction)
  let e ← exponent? rest
  Magnitude.ofDecimal n (e - fraction.length)

/-- Floating point numbers are written without an exponent. -/
def realStyle : Decimal.Style := ⟨fun _ => true, .upwards⟩

/-- How a floating point number would be written out. -/
def real? (cs : List Char) : Option (List Char) :=
  let infinities := [".inf", ".Inf", ".INF"]
  let word := String.ofList cs
  if [".nan", ".NaN", ".NAN"].contains word then some "NaN".toList
  else if infinities.contains (String.ofList (dropPlus cs)) then some "inf".toList
  else
    match cs with
    | '-' :: rest =>
      if infinities.contains (String.ofList rest) then some "-inf".toList
      else (decimal? rest).map fun x => (Binary64.mk true x).text realStyle
    | _ => (decimal? (dropPlus cs)).map fun x => (Binary64.mk false x).text realStyle

/-- No value, under the name that it has in messages. -/
def nothing : Found := .nothing "unit value"

/-- What a plain scalar without a tag says. -/
def plainValue (cs : List Char) : Found :=
  if cs.isEmpty ∨ isNull cs then nothing
  else
    match truth? cs, integer? cs, if hasLeadingZero cs then none else real? cs with
    | some b, _, _ => .truth b
    | none, some n, _ => .integer n
    | none, none, some spelling => .real spelling
    | none, none, none => .text cs

/-! ## Tags -/

/-- The kinds of scalars that a tag can ask for. -/
inductive ScalarTag
  | truth
  | integer
  | real
  | null
deriving DecidableEq, Repr

namespace ScalarTag

def ofText? (tag : List Char) : Option ScalarTag :=
  match String.ofList tag with
  | "tag:yaml.org,2002:bool" => some truth
  | "tag:yaml.org,2002:int" => some integer
  | "tag:yaml.org,2002:float" => some real
  | "tag:yaml.org,2002:null" => some null
  | _ => none

/-- How the kind is called in messages. -/
def title : ScalarTag → String
  | truth => "a boolean"
  | integer => "an integer"
  | real => "a float"
  | null => "null"

/-- The value of a scalar with such a tag. -/
def value? (t : ScalarTag) (cs : List Char) : Option Found :=
  match t with
  | truth => (truth? cs).map .truth
  | integer => (integer? cs).map .integer
  | real => (real? cs).map .real
  | null => if isNull cs then some nothing else none

end ScalarTag

/-- What is wrong with a scalar where something else is wanted.  A tag that begins with an
exclamation mark is as good as none. -/
def scalarMismatch (wanted : String) (tag : Option (List Char)) (style : Style)
    (cs : List Char) : Mismatch :=
  match tag.bind ScalarTag.ofText? with
  | some t =>
    match t.value? cs with
    | some found => .wrongKind found wanted
    | none => .wrongValue (.text cs) t.title
  | none =>
    let isUntagged := tag.all fun t => t.head? = some '!'
    .wrongKind (if style = .plain ∧ isUntagged then plainValue cs else .text cs) wanted

/-- The number of 32 bits that a scalar gives.  It has to be plain, or to have lines of its own and
the tag of an integer. -/
def scalarWord (tag : Option (List Char)) (style : Style) (cs : List Char) :
    Except Mismatch UInt32 :=
  let isNumeric := style = .plain ∨ (style = .literal ∧ tag.bind ScalarTag.ofText? = some .integer)
  match if isNumeric then (unsigned? cs).filter (· < UInt64.size) else none with
  | some n => wordOfNat n
  | none => .error (scalarMismatch wordName tag style cs)

end Garage.Yaml
