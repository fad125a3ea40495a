/-
# Numerals

A number is written in base ten without a needless zero, and its digits give it back.  Where a
number stands in a text, the digits show where it ends, unless more digits follow.

* `number?_number`: digits give back the number that they were written for.
* `Legible`: how something is written if the text tells both what it was and where it ends.
-/
import Mathlib.Tactic.Common
import Garage.Json.Text
import Garage.Text.Digits

namespace Garage

variable {α : Type} {n : Nat} {c : Char} {cs ds ds' rest rest' : List Char}

/-! ### Digits -/

lemma ne_of_isDigit {d : Char} (hc : c.isDigit = true) (hd : d.isDigit = false) : c ≠ d := by
  rintro rfl
  rw [hc] at hd
  cases hd

namespace Text

lemma digitValue?_of_isDigit (hc : c.isDigit = true) :
    digitValue? c = some (c.toNat - '0'.toNat) := by
  rw [digitValue?, if_pos hc]

/-- A decimal digit has a value below ten. -/
lemma value_lt_ten (hc : c.isDigit = true) : c.toNat - '0'.toNat < 10 := by
  obtain ⟨-, hle⟩ := Char.isDigit_iff_toNat.mp hc
  have hnine : '9'.toNat = 57 := rfl
  have hzero : '0'.toNat = 48 := rfl
  omega

lemma foldlM_appendDigit? (hcs : ∀ c ∈ cs, c.isDigit = true) (n : Nat) :
    cs.foldlM (appendDigit? 10) n = some (Nat.ofDigitChars 10 cs n) := by
  induction cs generalizing n with
  | nil => rfl
  | cons c cs ih =>
    have hc := hcs c List.mem_cons_self
    have happend : appendDigit? 10 n c = some (10 * n + (c.toNat - '0'.toNat)) := by
      rw [appendDigit?, digitValue?_of_isDigit hc, Option.bind_some, if_pos (value_lt_ten hc),
        Nat.mul_comm]
    rw [List.foldlM_cons, happend, Nat.ofDigitChars_cons]
    exact ih (fun d hd => hcs d (List.mem_cons_of_mem _ hd)) _

end Text

/-! ### Numerals -/

namespace Json

lemma number_ne_nil (n : Nat) : number n ≠ [] := Nat.toDigits_ne_nil

lemma isDigit_of_mem_number (hc : c ∈ number n) : c.isDigit = true :=
  Nat.isDigit_of_mem_toDigits (by decide) (by decide) hc

lemma exists_number_eq_cons (n : Nat) : ∃ d ds, number n = d :: ds ∧ d.isDigit = true := by
  obtain ⟨d, ds, hds⟩ := List.exists_cons_of_ne_nil (number_ne_nil n)
  exact ⟨d, ds, hds, isDigit_of_mem_number (n := n) (by rw [hds]; exact List.mem_cons_self)⟩

lemma ofDigitChars_number (n : Nat) : Nat.ofDigitChars 10 (number n) 0 = n :=
  Nat.ofDigitChars_ten_toDigits

/-- Digits give back the number that they were written for. -/
lemma number?_number (n : Nat) : Text.number? 10 (number n) = some n := by
  have hne : (number n).isEmpty = false := by
    simpa using number_ne_nil n
  rw [Text.number?, hne, if_neg Bool.false_ne_true,
    Text.foldlM_appendDigit? fun c => isDigit_of_mem_number, ofDigitChars_number]

/-- Only zero begins with a zero. -/
lemma eq_zero_of_head?_number (h : (number n).head? = some '0') : n = 0 := by
  induction n using Nat.strongRecOn with
  | ind n ih =>
    rw [number, Nat.toDigits_eq_if (by decide)] at h
    split at h
    case isTrue hlt => exact Nat.digitChar_eq_zero.mp (Option.some.inj h)
    case isFalse hle =>
      rw [List.head?_append, Option.or_of_isSome (by simp [Nat.toDigits_ne_nil])] at h
      have := ih (n / 10) (by omega) h
      omega

/-- A zero stands alone. -/
lemma number_eq_zero_cons (h : number n = '0' :: cs) : cs = [] := by
  have hn : n = 0 := eq_zero_of_head?_number (by rw [h]; rfl)
  subst hn
  exact (List.cons.inj h).2.symm

end Json

/-! ### Behind a numeral -/

/-- The text is over, or goes on with something else than a digit. -/
def NoDigit (cs : List Char) : Prop := ∀ c ∈ cs.head?, c.isDigit = false

lemma noDigit_nil : NoDigit [] := by rintro c ⟨⟩

lemma noDigit_cons (hc : c.isDigit = false) (cs : List Char) : NoDigit (c :: cs) :=
  fun _ hd => Option.some.inj hd ▸ hc

lemma takeWhile_isDigit_append (hds : ∀ c ∈ ds, c.isDigit = true) (hrest : NoDigit rest) :
    (ds ++ rest).takeWhile Char.isDigit = ds := by
  rw [List.takeWhile_append_of_pos hds]
  cases rest with
  | nil => simp
  | cons c rest => rw [List.takeWhile_cons_of_neg (by simp [hrest c rfl]), List.append_nil]

/-- Digits can be told from what comes behind them. -/
lemma digits_append_inj (hds : ∀ c ∈ ds, c.isDigit = true) (hds' : ∀ c ∈ ds', c.isDigit = true)
    (hrest : NoDigit rest) (hrest' : NoDigit rest') (h : ds ++ rest = ds' ++ rest') :
    ds = ds' ∧ rest = rest' := by
  have heq : ds = ds' := by
    rw [← takeWhile_isDigit_append hds hrest, h, takeWhile_isDigit_append hds' hrest']
  subst heq
  exact ⟨rfl, List.append_cancel_left h⟩

/-- The text that is written tells what it was written for and where it ends, unless a digit
follows. -/
def Legible (write : α → List Char) : Prop :=
  ∀ ⦃a a' : α⦄ ⦃rest rest' : List Char⦄, NoDigit rest → NoDigit rest' →
    write a ++ rest = write a' ++ rest' → a = a' ∧ rest = rest'

namespace Legible

variable {write : α → List Char} {a a' : α}

lemma injective (hwrite : Legible write) : Function.Injective write := fun _ _ h =>
  (hwrite noDigit_nil noDigit_nil (congrArg (· ++ []) h)).1

/-- What comes before a sign that is no digit, and what comes behind the sign. -/
lemma next (hwrite : Legible write) (hc : c.isDigit = false)
    (h : write a ++ c :: rest = write a' ++ c :: rest') : a = a' ∧ rest = rest' := by
  obtain ⟨ha, hrest⟩ := hwrite (noDigit_cons hc rest) (noDigit_cons hc rest') h
  exact ⟨ha, (List.cons.inj hrest).2⟩

end Legible

lemma legible_number : Legible Json.number := by
  intro n n' rest rest' hrest hrest' h
  obtain ⟨hdigits, heq⟩ := digits_append_inj (fun c => Json.isDigit_of_mem_number)
    (fun c => Json.isDigit_of_mem_number) hrest hrest' h
  refine ⟨?_, heq⟩
  rw [← Json.ofDigitChars_number n, hdigits, Json.ofDigitChars_number]

end Garage
