/-
# What the text of a time tells

The calendar can be undone: `Date.days` counts the days up to a date (`days_ofDays`), so that two
days never have the same date.  The text of a time is a row of numerals, each of which is legible;
the fraction of a second is told by its digits and by how many there are (`fractionText_inj`).

A leap second is counted as the sixtieth of its minute.  For the text to tell what it was written
for, it has to come behind the last second of a minute, as leap seconds do (`IsProper`).

* `Instant.text_inj`: the text of a time identifies it.
-/
import Mathlib.Algebra.Ring.Nat
import Garage.Proofs.Numerals
import Garage.Time

namespace Garage

/-! ### The calendar -/

namespace Date

/-- The number of days from the first of January 1970 to a date. -/
def days (d : Date) : Int :=
  let year := if d.month ≤ 2 then d.year - 1 else d.year
  let yearOfEra := (year % 400).toNat
  let monthFromMarch := if d.month ≤ 2 then d.month + 9 else d.month - 3
  let dayOfYear := (153 * monthFromMarch + 2) / 5 + d.day - 1
  year / 400 * 146097 + (365 * yearOfEra + yearOfEra / 4 - yearOfEra / 100 + dayOfYear : Nat)
    - 719468

/-- In a century, every fourth year has a leap day, but for the last one. -/
lemma yearOfCentury {c r a y : Nat} (hc : c ≤ 3) (hr : r < 36524) (ha : a = (24 * c + r) / 1460)
    (hy : y = (r - a) / 365) : y < 100 ∧ 365 * y + y / 4 ≤ r ∧ r ≤ 365 * y + y / 4 + 365 := by
  obtain ⟨q, s, hs, rfl⟩ : ∃ q s, s ≤ 3 ∧ y = 4 * q + s := ⟨y / 4, y % 4, by omega, by omega⟩
  have hlow : 1460 * a ≤ 24 * c + r := by omega
  have hle : a ≤ r := by omega
  -- The days that `a` counts are the leap days, but that it may be one ahead.
  have hqa : q ≤ a := by omega
  have haq : a ≤ q + 1 := by omega
  omega

/-- In an era of 400 years, the last year of a century has no leap day, but for the last one. -/
lemma yearOfEra {n y : Nat} (hn : n < 146097)
    (hy : y = (n - n / 1460 + n / 36524 - n / 146096) / 365) :
    y < 400 ∧ 365 * y + y / 4 - y / 100 ≤ n ∧ n ≤ 365 * y + y / 4 - y / 100 + 365 := by
  by_cases hlast : n = 146096
  · subst hlast hy
    decide
  · obtain ⟨c, r, hc, hr, rfl⟩ : ∃ c r, c ≤ 3 ∧ r < 36524 ∧ n = 36524 * c + r :=
      ⟨n / 36524, n % 36524, by omega, by omega, by omega⟩
    have hera : (36524 * c + r) / 146096 = 0 := by omega
    have hcentury : (36524 * c + r) / 36524 = c := by omega
    have hleap : (36524 * c + r) / 1460 = 25 * c + (24 * c + r) / 1460 := by omega
    rw [hera, hcentury, hleap] at hy
    generalize ha : (24 * c + r) / 1460 = a at hy
    generalize hz : (r - a) / 365 = z
    obtain ⟨hlt, hle, hge⟩ := yearOfCentury hc hr ha.symm hz.symm
    have hyear : y = 100 * c + z := by omega
    have hfour : y / 4 = 25 * c + z / 4 := by omega
    have hhundred : y / 100 = c := by omega
    omega

/-- The calendar can be undone. -/
lemma days_ofDays (n : Int) : (ofDays n).days = n := by
  obtain ⟨era, d, hd, hn⟩ : ∃ (era : Int) (d : Nat), d < 146097 ∧ n + 719468 = era * 146097 + d :=
    ⟨(n + 719468) / 146097, ((n + 719468) % 146097).toNat, by omega, by omega⟩
  have hdiv : (n + 719468).fdiv 146097 = era := by
    rw [Int.fdiv_eq_ediv_of_nonneg _ (by decide)]
    omega
  have hmod : ((n + 719468).fmod 146097).toNat = d := by
    rw [Int.fmod_eq_emod_of_nonneg _ (by decide)]
    omega
  simp only [ofDays, hdiv, hmod, days]
  generalize hy : (d - d / 1460 + d / 36524 - d / 146096) / 365 = y
  obtain ⟨hlt, hle, hge⟩ := yearOfEra hd hy.symm
  generalize hdays : d - (365 * y + y / 4 - y / 100) = r
  have hr : r ≤ 365 := by omega
  generalize hm : (5 * r + 2) / 153 = m
  have hfirst : (153 * m + 2) / 5 ≤ r := by omega
  by_cases hlate : m < 10
  · have hyear : (era * 400 + (y : Int)) / 400 = era := by omega
    have hrest : ((era * 400 + (y : Int)) % 400).toNat = y := by omega
    have hmonth : ¬ m + 3 ≤ 2 := by omega
    simp only [hlate, if_true, hmonth, if_false, hyear, hrest, Nat.add_sub_cancel]
    omega
  · -- January and February belong to the year before, which began in March.
    have hyear : (era * 400 + (y : Int) + 1 - 1) / 400 = era := by omega
    have hrest : ((era * 400 + (y : Int) + 1 - 1) % 400).toNat = y := by omega
    have hmonth : m - 9 ≤ 2 := by omega
    have hback : m - 9 + 9 = m := by omega
    simp only [hlate, if_false, hmonth, if_true, hyear, hrest, hback]
    omega

lemma ofDays_injective : Function.Injective ofDays :=
  Function.LeftInverse.injective days_ofDays

end Date

namespace Instant

variable {c : Char} {width n n' : Nat} {t t' : Instant}

/-! ### Numerals of a given width -/

lemma isDigit_of_mem_padded (hc : c ∈ padded width n) : c.isDigit = true := by
  rcases List.mem_append.mp hc with hzero | hdigit
  · rw [List.eq_of_mem_replicate hzero]
    rfl
  · exact Json.isDigit_of_mem_number hdigit

lemma ofDigitChars_padded (width n : Nat) : Nat.ofDigitChars 10 (padded width n) 0 = n := by
  rw [padded, Nat.ofDigitChars_append, Nat.ofDigitChars_replicate_zero, Nat.mul_zero]
  exact Json.ofDigitChars_number n

lemma length_padded (hwidth : 0 < width) (hn : n < 10 ^ width) :
    (padded width n).length = width := by
  have hle := (Nat.length_toDigits_le_iff (b := 10) (by decide) hwidth).mpr hn
  rw [padded, List.length_append, List.length_replicate]
  omega

lemma exists_padded_eq_cons (width n : Nat) :
    ∃ d ds, padded width n = d :: ds ∧ d.isDigit = true := by
  have hne : padded width n ≠ [] := List.append_ne_nil_of_right_ne_nil _ (Json.number_ne_nil n)
  obtain ⟨d, ds, hds⟩ := List.exists_cons_of_ne_nil hne
  exact ⟨d, ds, hds, isDigit_of_mem_padded (n := n) (hds ▸ List.mem_cons_self)⟩

lemma legible_padded (width : Nat) : Legible (padded width) := by
  intro n n' rest rest' hrest hrest' h
  obtain ⟨hdigits, heq⟩ := digits_append_inj (fun c => isDigit_of_mem_padded)
    (fun c => isDigit_of_mem_padded) hrest hrest' h
  refine ⟨?_, heq⟩
  rw [← ofDigitChars_padded width n, hdigits, ofDigitChars_padded]

lemma padded_append_ne_cons (hc : c.isDigit = false) (rest rest' : List Char) :
    padded width n ++ rest ≠ c :: rest' := by
  obtain ⟨d, ds, hds, hd⟩ := exists_padded_eq_cons width n
  rw [hds, List.cons_append]
  exact fun h => ne_of_isDigit hd hc (List.cons.inj h).1

/-! ### Years -/

/-- A sign comes before all years but those from 0 to 9999. -/
lemma yearText_eq (year : Int) :
    0 ≤ year ∧ yearText year = padded 4 year.natAbs ∨
    0 ≤ year ∧ yearText year = '+' :: padded 4 year.natAbs ∨
    year < 0 ∧ yearText year = '-' :: padded 4 year.natAbs := by
  unfold yearText
  split
  case isTrue hfour =>
    rw [show year.toNat = year.natAbs by omega]
    exact .inl ⟨hfour.1, rfl⟩
  case isFalse =>
    split
    case isTrue hneg => exact .inr (.inr ⟨hneg, rfl⟩)
    case isFalse hneg => exact .inr (.inl ⟨by omega, rfl⟩)

lemma legible_yearText : Legible yearText := by
  intro year year' rest rest' hrest hrest' h
  -- The sign, or that there is none, is seen from the first character.
  rcases yearText_eq year with ⟨hsign, htext⟩ | ⟨hsign, htext⟩ | ⟨hsign, htext⟩ <;>
    rcases yearText_eq year' with ⟨hsign', htext'⟩ | ⟨hsign', htext'⟩ | ⟨hsign', htext'⟩ <;>
    rw [htext, htext'] at h
  case inl.inl =>
    obtain ⟨hyear, heq⟩ := legible_padded 4 hrest hrest' h
    exact ⟨by omega, heq⟩
  case inr.inl.inr.inl | inr.inr.inr.inr =>
    obtain ⟨hyear, heq⟩ := legible_padded 4 hrest hrest' (List.cons.inj h).2
    exact ⟨by omega, heq⟩
  case inl.inr.inl | inl.inr.inr => exact absurd h (padded_append_ne_cons rfl _ _)
  case inr.inl.inl | inr.inr.inl => exact absurd h.symm (padded_append_ne_cons rfl _ _)
  case inr.inl.inr.inr | inr.inr.inr.inl => exact absurd (List.cons.inj h).1 (by decide)

/-! ### Fractions of a second -/

/-- The digits of a fraction: how many there are tells what they stand for. -/
lemma exists_fractionText_eq (hpos : n ≠ 0) (hn : n < 1000000000) :
    ∃ width unit, 0 < width ∧ 10 ^ width * unit = 1000000000 ∧ n % unit = 0 ∧
      fractionText n = '.' :: padded width (n / unit) ∧ n / unit < 10 ^ width := by
  unfold fractionText
  rw [if_neg hpos]
  split
  case isTrue hmilli => exact ⟨3, 1000000, by decide, by decide, hmilli, rfl, by omega⟩
  case isFalse =>
    split
    case isTrue hmicro => exact ⟨6, 1000, by decide, by decide, hmicro, rfl, by omega⟩
    case isFalse => exact ⟨9, 1, by decide, by decide, Nat.mod_one n, by rw [Nat.div_one], by omega⟩

lemma fractionText_inj (hn : n < 1000000000) (hn' : n' < 1000000000)
    (h : fractionText n = fractionText n') : n = n' := by
  by_cases hzero : n = 0
  · by_cases hzero' : n' = 0
    · rw [hzero, hzero']
    · obtain ⟨_, _, _, _, _, htext, _⟩ := exists_fractionText_eq hzero' hn'
      rw [hzero, htext] at h
      cases h
  · by_cases hzero' : n' = 0
    · obtain ⟨_, _, _, _, _, htext, _⟩ := exists_fractionText_eq hzero hn
      rw [hzero', htext] at h
      cases h
    · obtain ⟨width, unit, hpos, hunit, hmod, htext, hlt⟩ := exists_fractionText_eq hzero hn
      obtain ⟨width', unit', hpos', hunit', hmod', htext', hlt'⟩ :=
        exists_fractionText_eq hzero' hn'
      rw [htext, htext'] at h
      have hdigits := (List.cons.inj h).2
      have hwidth : width = width' := by
        rw [← length_padded hpos hlt, hdigits, length_padded hpos' hlt']
      subst hwidth
      obtain rfl : unit = unit' :=
        Nat.eq_of_mul_eq_mul_left (Nat.pow_pos (by decide)) (hunit.trans hunit'.symm)
      have hdiv : n / unit = n' / unit := (legible_padded width).injective hdigits
      rw [← Nat.div_add_mod n unit, hdiv, hmod, ← hmod', Nat.div_add_mod]

lemma noDigit_fractionText (n : Nat) (rest : List Char) (hrest : NoDigit rest) :
    NoDigit (fractionText n ++ rest) := by
  unfold fractionText
  split
  case isTrue => exact hrest
  case isFalse => split <;> [skip; split] <;> exact noDigit_cons rfl _

/-! ### Times -/

/-- A leap second comes behind the last second of a minute, and is no longer than another. -/
structure IsProper (t : Instant) : Prop where
  nanos_lt : t.nanos < 2000000000
  leap : 1000000000 ≤ t.nanos → t.seconds.fmod 60 = 59

instance (t : Instant) : Decidable t.IsProper :=
  decidable_of_iff (t.nanos < 2000000000 ∧ (1000000000 ≤ t.nanos → t.seconds.fmod 60 = 59))
    ⟨fun ⟨hlt, hleap⟩ => ⟨hlt, hleap⟩, fun h => ⟨h.nanos_lt, h.leap⟩⟩

/-- **The text of a time identifies it.** -/
theorem text_inj (ht : t.IsProper) (ht' : t'.IsProper) (h : t.text = t'.text) : t = t' := by
  obtain ⟨seconds, nanos⟩ := t
  obtain ⟨seconds', nanos'⟩ := t'
  simp only [text, List.append_assoc, List.cons_append, List.nil_append] at h
  obtain ⟨hyear, h⟩ := legible_yearText.next rfl h
  obtain ⟨hmonth, h⟩ := (legible_padded 2).next rfl h
  obtain ⟨hday, h⟩ := (legible_padded 2).next rfl h
  obtain ⟨hhour, h⟩ := (legible_padded 2).next rfl h
  obtain ⟨hminute, h⟩ := (legible_padded 2).next rfl h
  obtain ⟨hsecond, h⟩ := legible_padded 2 (noDigit_fractionText _ _ (noDigit_cons rfl _))
    (noDigit_fractionText _ _ (noDigit_cons rfl _)) h
  have hnanos := fractionText_inj (Nat.mod_lt _ (by decide)) (Nat.mod_lt _ (by decide))
    (List.append_cancel_right h)
  have hdays : seconds.fdiv 86400 = seconds'.fdiv 86400 := by
    refine Date.ofDays_injective ?_
    generalize Date.ofDays (seconds.fdiv 86400) = d at hyear hmonth hday
    generalize Date.ofDays (seconds'.fdiv 86400) = d' at hyear hmonth hday
    cases d
    cases d'
    simp_all
  obtain ⟨hlt, hleap⟩ := ht
  obtain ⟨hlt', hleap'⟩ := ht'
  simp only [Int.fdiv_eq_ediv_of_nonneg, Int.fmod_eq_emod_of_nonneg, Int.reduceLE] at *
  clear hyear hmonth hday
  -- Only in a leap second is the second of the minute written as 60.
  have hseconds : seconds = seconds' := by omega
  have hrest : nanos = nanos' := by omega
  rw [hseconds, hrest]

/-- Elsewhere, a leap second is taken for the second behind it. -/
example : (Instant.mk 58 1000000000).text = (Instant.mk 59 0).text := by decide

end Instant

end Garage
