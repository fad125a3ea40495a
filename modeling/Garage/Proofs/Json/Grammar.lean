/-
# JSON text

What JSON text is, whoever reads it.  A value is a scalar, a list of values, or an object, which has
members with names.  Its text is a row of pieces, which are marks and scalars; blanks may stand
before, between and behind them.

Scalars are kept as they are spelt, so that every well-formed text belongs to a value and nothing
is lost but the blanks.  That they are well-formed is part of their types.

* `Value`, `Value.pieces`: values and their pieces.
* `Value.IsText`: the texts of a value.
* `Quotation.name?`: the text that a quoted text stands for, if it is one.
-/
import Mathlib.Tactic.Common
import Garage.Json.Lexeme

namespace Garage.Json

/-! ### Quoted text -/

/-- How a character, or half of a surrogate pair, is spelt in quoted text. -/
inductive Symbol
  | plain (c : Char) (hquote : c ≠ '"') (hbackslash : c ≠ '\\') (hle : 0x20 ≤ c.toNat)
  /-- A backslash and a letter, which stand for `c`. -/
  | letter (e c : Char) (hchar : simpleEscape? e = some c)
  /-- Four digits in base sixteen. -/
  | code (w x y z : Char) (n : Nat) (hquad : hexQuad? w x y z = some n)

def Symbol.text : Symbol → List Char
  | plain c .. => [c]
  | letter e .. => ['\\', e]
  | code w x y z .. => ['\\', 'u', w, x, y, z]

/-- What stands between two quotes. -/
abbrev Quotation := List Symbol

namespace Quotation

def text (q : Quotation) : List Char := '"' :: q.flatMap Symbol.text ++ ['"']

/-- The characters that a quoted text stands for: none if half of a surrogate pair stands alone. -/
def characters? : Quotation → Option (List Char)
  | [] => some []
  | .plain c .. :: q => (characters? q).map (c :: ·)
  | .letter _ c _ :: q => (characters? q).map (c :: ·)
  | .code _ _ _ _ n _ :: q =>
    if isSecondHalf n then none
    else if isFirstHalf n then
      match q with
      | .code _ _ _ _ m _ :: q =>
        if isSecondHalf m then (characters? q).map (Char.ofNat (joinHalves n m) :: ·) else none
      | _ => none
    else (characters? q).map (Char.ofNat n :: ·)

def name? (q : Quotation) : Option String := q.characters?.map String.ofList

/-- The characters of a text that can all stand for themselves. -/
def plain (cs : List Char) (h : cs.all (fun c => c ≠ '"' ∧ c ≠ '\\' ∧ 0x20 ≤ c.toNat) = true) :
    Quotation :=
  cs.attach.map fun ⟨c, hc⟩ =>
    have hplain := of_decide_eq_true (List.all_eq_true.mp h c hc)
    .plain c hplain.1 hplain.2.1 hplain.2.2

end Quotation

/-! ### Numbers -/

/-- Digits, of which there is one at least. -/
structure Digits where
  text : List Char
  ne_nil : text ≠ []
  isDigit : ∀ c ∈ text, c.isDigit = true

/-- The sign of an exponent, if it is written. -/
inductive ExponentSign
  | none
  | plus
  | minus
deriving DecidableEq

namespace ExponentSign

def text : ExponentSign → List Char
  | none => []
  | plus => ['+']
  | minus => ['-']

def isNegative : ExponentSign → Bool
  | minus => true
  | _ => false

end ExponentSign

structure Exponent where
  letter : Char
  letter_eq : letter = 'e' ∨ letter = 'E'
  sign : ExponentSign
  digits : Digits

/-- A number as it is spelt. -/
structure Numeral where
  negative : Bool
  whole : Digits
  /-- A zero stands alone. -/
  eq_nil_of_zero : ∀ ds, whole.text = '0' :: ds → ds = []
  fraction : Option Digits
  exponent : Option Exponent

namespace Numeral

def fractionText : Option Digits → List Char
  | none => []
  | some ds => '.' :: ds.text

def exponentText : Option Exponent → List Char
  | none => []
  | some e => e.letter :: (e.sign.text ++ e.digits.text)

variable (n : Numeral)

def signText : List Char := if n.negative then ['-'] else []

def text : List Char :=
  n.signText ++ (n.whole.text ++ (fractionText n.fraction ++ exponentText n.exponent))

/-- What there is to be known about the number. -/
def parts : NumberParts where
  negative := n.negative
  whole := n.whole.text
  fraction := (n.fraction.map (·.text)).getD []
  exponent := n.exponent.map fun e => (e.sign.isNegative, e.digits.text)

end Numeral

/-! ### Values -/

inductive Scalar
  | null
  | truth (b : Bool)
  | number (n : Numeral)
  | text (q : Quotation)

def Scalar.spelling : Scalar → List Char
  | null => "null".toList
  | truth true => "true".toList
  | truth false => "false".toList
  | number n => n.text
  | text q => q.text

inductive Value
  | scalar (s : Scalar)
  | list (items : List Value)
  | object (members : List (Quotation × Value))

/-- Holds for a value if it does for what is in it. -/
theorem Value.induction {motive : Value → Prop} (scalar : ∀ s, motive (.scalar s))
    (list : ∀ items, (∀ v ∈ items, motive v) → motive (.list items))
    (object : ∀ members, (∀ m ∈ members, motive m.2) → motive (.object members)) (v : Value) :
    motive v :=
  Value.rec (motive_1 := motive) (motive_2 := fun items => ∀ v ∈ items, motive v)
    (motive_3 := fun members => ∀ m ∈ members, motive m.2) (motive_4 := fun m => motive m.2)
    scalar list object
    (List.forall_mem_nil _) (fun _ _ hv hvs => List.forall_mem_cons.mpr ⟨hv, hvs⟩)
    (List.forall_mem_nil _) (fun _ _ hm hms => List.forall_mem_cons.mpr ⟨hm, hms⟩)
    (fun _ _ hv => hv) v

/-! ### Pieces -/

/-- What is not interrupted by blanks. -/
inductive Piece
  | mark (m : Mark)
  | scalar (s : Scalar)

def Mark.char : Mark → Char
  | openList => '['
  | closeList => ']'
  | openObject => '{'
  | closeObject => '}'
  | colon => ':'
  | comma => ','

def Piece.text : Piece → List Char
  | mark m => [m.char]
  | scalar s => s.spelling

/-- The pieces of several things with commas between them. -/
def Piece.separated : List (List Piece) → List Piece
  | [] => []
  | ps :: pss => ps ++ pss.flatMap (.mark .comma :: ·)

/-- The pieces of several things between two marks. -/
def Piece.enclosed (first last : Mark) (pss : List (List Piece)) : List Piece :=
  .mark first :: (separated pss ++ [.mark last])

mutual

/-- The pieces of a value, in the order in which they stand. -/
def Value.pieces : Value → List Piece
  | .scalar s => [.scalar s]
  | .list items => Piece.enclosed .openList .closeList (itemPieces items)
  | .object members => Piece.enclosed .openObject .closeObject (memberPieces members)

def Value.itemPieces : List Value → List (List Piece)
  | [] => []
  | v :: items => v.pieces :: itemPieces items

def Value.memberPieces : List (Quotation × Value) → List (List Piece)
  | [] => []
  | (q, v) :: members => (.scalar (.text q) :: .mark .colon :: v.pieces) :: memberPieces members

end

lemma Value.itemPieces_eq (items : List Value) : itemPieces items = items.map pieces := by
  induction items with
  | nil => rfl
  | cons v items ih => rw [itemPieces, ih, List.map_cons]

lemma Value.memberPieces_eq (members : List (Quotation × Value)) :
    memberPieces members =
      members.map fun m => .scalar (.text m.1) :: .mark .colon :: m.2.pieces := by
  induction members with
  | nil => rfl
  | cons m members ih => rw [memberPieces, ih, List.map_cons]

/-! ### Texts -/

/-- Pieces with blanks before, between and behind them. -/
inductive Spaced : List Piece → List Char → Prop
  | nil {blanks : List Char} (hblanks : ∀ c ∈ blanks, isBlank c = true) : Spaced [] blanks
  | cons {blanks cs : List Char} {ps : List Piece} (hblanks : ∀ c ∈ blanks, isBlank c = true)
      (p : Piece) (h : Spaced ps cs) : Spaced (p :: ps) (blanks ++ (p.text ++ cs))

/-- The text `cs` spells this value. -/
def Value.IsText (v : Value) (cs : List Char) : Prop := Spaced v.pieces cs

end Garage.Json
