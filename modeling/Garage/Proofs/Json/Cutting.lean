/-
# Cutting what was written

`Cuts cs ks rest` says that a text `cs` begins with lexemes of the kinds `ks` and goes on with
`rest`.  Offsets, which lexemes carry for the sake of messages, are of no concern here, so that the
pieces of a text can be cut one after another (`Cuts.append`).

* `cuts_quoted`: quoted text gives its characters back, whatever has to be escaped.
* `cuts_number`: a number of 64 bits gives itself back if no further digits follow.
-/
import Garage.Json.Lexeme
import Garage.Proofs.Numerals

namespace Garage.Json

variable {c : Char} {cs cs' rest : List Char} {ks ks' : List Kind} {offset n : Nat}

/-- The text `cs` is `rest` behind lexemes of these kinds. -/
def Cuts (cs : List Char) (ks : List Kind) (rest : List Char) : Prop :=
  ∀ offset fuel, cs.length ≤ fuel → ∃ offset' fuel', rest.length ≤ fuel' ∧
    (cut offset fuel cs).map (·.kind) = ks ++ (cut offset' fuel' rest).map (·.kind)

namespace Cuts

lemma refl (cs : List Char) : Cuts cs [] cs := fun offset fuel hfuel => ⟨offset, fuel, hfuel, rfl⟩

lemma append (h : Cuts cs ks cs') (h' : Cuts cs' ks' rest) : Cuts cs (ks ++ ks') rest := by
  intro offset fuel hfuel
  obtain ⟨offset₁, fuel₁, hfuel₁, hcut₁⟩ := h offset fuel hfuel
  obtain ⟨offset₂, fuel₂, hfuel₂, hcut₂⟩ := h' offset₁ fuel₁ hfuel₁
  exact ⟨offset₂, fuel₂, hfuel₂, by rw [hcut₁, hcut₂, List.append_assoc]⟩

lemma kinds_lexemes (h : Cuts cs ks []) : (lexemes cs).map (·.kind) = ks := by
  obtain ⟨offset', fuel', -, hcut⟩ := h 0 cs.length (Nat.le_refl _)
  rw [lexemes, hcut]
  cases fuel' <;> simp [cut]

end Cuts

/-- The first lexeme. -/
lemma cuts_of_cutLexeme {k : Kind} (hblank : isBlank c = false) (hle : rest.length ≤ cs.length)
    (h : ∀ offset, ∃ l, cutLexeme offset c cs = (l, some rest) ∧ l.kind = k) :
    Cuts (c :: cs) [k] rest := by
  intro offset fuel hfuel
  obtain ⟨l, hl, rfl⟩ := h offset
  cases fuel with
  | zero => simp at hfuel
  | succ fuel =>
    refine ⟨l.stop, fuel, Nat.le_trans hle (Nat.le_of_succ_le_succ hfuel), ?_⟩
    simp [cut, hblank, hl]

/-! ### Marks -/

lemma cuts_mark {m : Mark} (hblank : isBlank c = false) (hm : Mark.ofChar? c = some m)
    (rest : List Char) : Cuts (c :: rest) [.mark m] rest := by
  refine cuts_of_cutLexeme hblank (Nat.le_refl _)
    fun offset => ⟨⟨.mark m, offset, offset + 1⟩, ?_, rfl⟩
  rw [cutLexeme, hm]

/-- The text is over, or goes on with a mark. -/
def AtMark (cs : List Char) : Prop := ∀ c ∈ cs.head?, (Mark.ofChar? c).isSome

lemma isDigit_eq_false_of_isSome_ofChar? (h : (Mark.ofChar? c).isSome) : c.isDigit = false := by
  unfold Mark.ofChar? at h
  split at h <;> first | rfl | cases h

lemma ofChar?_eq_none_of_isDigit (hc : c.isDigit = true) : Mark.ofChar? c = none := by
  by_contra hsome
  have hdigit := isDigit_eq_false_of_isSome_ofChar? (Option.isSome_iff_ne_none.mpr hsome)
  rw [hc] at hdigit
  cases hdigit

/-! ### Quoted text -/

/-- A character is written as it is, behind a backslash with a letter of its own, or with four
digits in base sixteen. -/
inductive Escaped (c : Char) : List Char → Prop
  | simple {e : Char} (he : e ≠ 'u') (hchar : simpleEscape? e = some c) : Escaped c ['\\', e]
  | hex {x y : Char} (hquad : hexQuad? '0' '0' x y = some c.toNat) (hlt : c.toNat < 0x20) :
      Escaped c ['\\', 'u', '0', '0', x, y]
  | plain (hquote : c ≠ '"') (hbackslash : c ≠ '\\') (hle : 0x20 ≤ c.toNat) : Escaped c [c]

lemma hexQuad?_digitChar : ∀ n < 0x20,
    hexQuad? '0' '0' (Nat.digitChar (n / 16)) (Nat.digitChar (n % 16)) = some n := by
  decide

lemma escaped_escape (c : Char) : Escaped c (escape c) := by
  unfold escape
  split
  case h_8 hquote hbackslash _ _ _ _ _ =>
    split
    case isTrue hlt => exact .hex (hexQuad?_digitChar _ hlt) hlt
    case isFalse hle => exact .plain hquote hbackslash (Nat.le_of_not_lt hle)
  all_goals exact .simple (by decide) rfl

lemma readText_quote (offset : Nat) (rest : List Char) :
    readText offset ('"' :: rest) = .ok [] := by
  rw [readText.eq_def]
  rfl

lemma skipText_quote (offset : Nat) (rest : List Char) :
    skipText offset ('"' :: rest) = .ok (offset + 1, rest) := by
  rw [skipText.eq_def]
  rfl

/-- An escaped character is read as what it was. -/
lemma Escaped.readText (h : Escaped c cs) (offset : Nat) (rest : List Char) : ∃ offset',
    readText offset (cs ++ rest) = (readText offset' rest).map (c :: ·) := by
  cases h with
  | simple he hchar =>
    refine ⟨offset + 2, ?_⟩
    rw [List.cons_append, List.cons_append, List.nil_append, Json.readText.eq_def]
    simp [he, hchar]
  | hex hquad hlt =>
    refine ⟨offset + 6, ?_⟩
    have hfirst : isFirstHalf c.toNat = false := by simp [isFirstHalf]; omega
    have hsecond : isSecondHalf c.toNat = false := by simp [isSecondHalf]; omega
    simp only [List.cons_append, List.nil_append]
    rw [Json.readText.eq_def]
    simp [hquad, hfirst, hsecond, Char.ofNat_toNat]
  | plain hquote hbackslash hle =>
    refine ⟨offset + c.utf8Size, ?_⟩
    rw [List.cons_append, List.nil_append, Json.readText.eq_def]
    simp [hquote, hbackslash, Nat.not_lt.mpr hle]

/-- An escaped character is passed over. -/
lemma Escaped.skipText (h : Escaped c cs) (offset : Nat) (rest : List Char) : ∃ offset',
    skipText offset (cs ++ rest) = skipText offset' rest := by
  cases h with
  | simple he hchar =>
    refine ⟨offset + 2, ?_⟩
    rw [List.cons_append, List.cons_append, List.nil_append, Json.skipText.eq_def]
    simp [he, hchar]
  | hex hquad hlt =>
    refine ⟨offset + 6, ?_⟩
    simp only [List.cons_append, List.nil_append]
    rw [Json.skipText.eq_def]
    simp [hquad]
  | plain hquote hbackslash hle =>
    refine ⟨offset + c.utf8Size, ?_⟩
    rw [List.cons_append, List.nil_append, Json.skipText.eq_def]
    simp [hquote, hbackslash, Nat.not_lt.mpr hle]

lemma readText_flatMap_escape (text : List Char) (offset : Nat) (rest : List Char) :
    readText offset (text.flatMap escape ++ '"' :: rest) = .ok text := by
  induction text generalizing offset with
  | nil => exact readText_quote offset rest
  | cons c text ih =>
    obtain ⟨offset', hread⟩ :=
      (escaped_escape c).readText offset (text.flatMap escape ++ '"' :: rest)
    rw [List.flatMap_cons, List.append_assoc, hread, ih]
    rfl

lemma skipText_flatMap_escape (text : List Char) (offset : Nat) (rest : List Char) :
    ∃ stop, skipText offset (text.flatMap escape ++ '"' :: rest) = .ok (stop, rest) := by
  induction text generalizing offset with
  | nil => exact ⟨offset + 1, skipText_quote offset rest⟩
  | cons c text ih =>
    obtain ⟨offset', hskip⟩ :=
      (escaped_escape c).skipText offset (text.flatMap escape ++ '"' :: rest)
    rw [List.flatMap_cons, List.append_assoc, hskip]
    exact ih offset'

/-- Quoted text is a lexeme that gives its characters back. -/
lemma cuts_quoted (text rest : List Char) : Cuts (quoted text ++ rest) [.text (.ok text)] rest := by
  have hquoted : quoted text ++ rest = '"' :: (text.flatMap escape ++ '"' :: rest) := by
    simp [quoted]
  rw [hquoted]
  refine cuts_of_cutLexeme rfl (by simp; omega) fun offset => ?_
  obtain ⟨stop, hskip⟩ := skipText_flatMap_escape text (offset + 1) rest
  refine ⟨⟨.text (.ok text), offset, stop⟩, ?_, rfl⟩
  rw [cutLexeme, show Mark.ofChar? '"' = none from rfl]
  simp [cutText, hskip, readText_flatMap_escape]

/-! ### Numbers -/

lemma AtMark.noDigit (hrest : AtMark rest) : NoDigit rest := fun c hc =>
  isDigit_eq_false_of_isSome_ofChar? (hrest c hc)

/-- Behind a number there is no sign that would be part of it. -/
lemma AtMark.not_mem (hrest : AtMark rest) (hc : Mark.ofChar? c = none) : rest.head? ≠ some c := by
  intro h
  have := hrest c h
  rw [hc] at this
  cases this

lemma scanWhole_number (hrest : AtMark rest) (offset n : Nat) :
    scanWhole offset (number n ++ rest) = .ok (number n, offset + (number n).length, rest) := by
  have hscan : scanDigits offset (number n ++ rest) =
      .ok (number n, offset + (number n).length, rest) := by
    rw [scanDigits, takeWhile_isDigit_append (fun c => isDigit_of_mem_number) hrest.noDigit]
    obtain ⟨d, ds, hds⟩ := List.exists_cons_of_ne_nil (number_ne_nil n)
    simp [hds]
  rw [scanWhole, hscan]
  simp only [bind, Except.bind]
  split
  case h_1 hzero =>
    cases number_eq_zero_cons hzero
  case h_2 => rfl

lemma scanNumber_number (hrest : AtMark rest) (offset n : Nat) : ∃ start stop,
    scanNumber offset (number n ++ rest) =
      .ok ⟨⟨false, number n, [], none⟩, start, stop, rest⟩ := by
  have hsign : (number n ++ rest).head? ≠ some '-' := by
    obtain ⟨d, ds, hds, hd⟩ := exists_number_eq_cons n
    rw [hds, List.cons_append, List.head?_cons]
    exact fun h => ne_of_isDigit hd rfl (Option.some.inj h)
  have hfraction (stop : Nat) : scanFraction stop rest = .ok ([], stop, rest) := by
    unfold scanFraction
    split
    case h_1 => exact absurd rfl (hrest.not_mem (c := '.') rfl)
    case h_2 => rfl
  have hexponent (stop : Nat) : scanExponent stop rest = .ok (none, stop, stop, rest) := by
    cases rest with
    | nil => rfl
    | cons c rest =>
      have he : ¬ (c = 'e' ∨ c = 'E') := by
        rintro (rfl | rfl)
        · exact hrest.not_mem (c := 'e') rfl rfl
        · exact hrest.not_mem (c := 'E') rfl rfl
      simp [scanExponent, he]
  refine ⟨offset + (number n).length, offset + (number n).length, ?_⟩
  simp only [scanNumber, hsign, decide_false, if_false, List.drop_zero, Nat.add_zero,
    scanWhole_number hrest, hfraction, hexponent, bind, Except.bind, pure, Except.pure]

lemma le_ofDigitChars (cs : List Char) (n : Nat) : n ≤ Nat.ofDigitChars 10 cs n := by
  induction cs generalizing n with
  | nil => exact Nat.le_refl n
  | cons c cs ih =>
    rw [Nat.ofDigitChars_cons]
    exact Nat.le_trans (by omega) (ih _)

/-- All digits are taken if the number does not get too large. -/
lemma absorb_eq {bound : Nat} (h : Nat.ofDigitChars 10 cs n < bound) :
    absorb bound n cs = (Nat.ofDigitChars 10 cs n, cs.length) := by
  induction cs generalizing n with
  | nil => rfl
  | cons c cs ih =>
    rw [Nat.ofDigitChars_cons, Nat.mul_comm] at h ⊢
    have hlt : n * 10 + digitValue c < bound := Nat.lt_of_le_of_lt (le_ofDigitChars cs _) h
    rw [absorb]
    simp only [hlt, if_true]
    rw [digitValue, ih h]
    rfl

lemma value_number {start stop : Nat} (hn : n < UInt64.size) :
    (ScannedNumber.mk ⟨false, number n, [], none⟩ start stop rest).value = .ok (.integer n) := by
  have habsorb : absorb UInt64.size 0 (number n) = (n, (number n).length) := by
    rw [absorb_eq (by rwa [ofDigitChars_number]), ofDigitChars_number]
  simp [ScannedNumber.value, habsorb]

lemma isBlank_of_isDigit (hc : c.isDigit = true) : isBlank c = false := by
  simp [isBlank, ne_of_isDigit hc (d := ' ') rfl, ne_of_isDigit hc (d := '\n') rfl,
    ne_of_isDigit hc (d := '\t') rfl, ne_of_isDigit hc (d := '\r') rfl]

/-- A number is a lexeme that gives itself back, unless more digits follow. -/
lemma cuts_number (hn : n < UInt64.size) (hrest : AtMark rest) :
    Cuts (number n ++ rest) [.number (.ok (.integer n))] rest := by
  obtain ⟨d, ds, hds, hd⟩ := exists_number_eq_cons n
  have hcons : number n ++ rest = d :: (ds ++ rest) := by rw [hds, List.cons_append]
  rw [hcons]
  refine cuts_of_cutLexeme (isBlank_of_isDigit hd) (by simp) fun offset => ?_
  obtain ⟨start, stop, hscan⟩ := scanNumber_number hrest offset n
  refine ⟨⟨.number (.ok (.integer n)), offset, stop⟩, ?_, rfl⟩
  rw [cutLexeme, ofChar?_eq_none_of_isDigit hd]
  dsimp only
  rw [if_neg (ne_of_isDigit hd rfl), if_pos (Or.inr hd), cutNumber, ← hcons, hscan]
  dsimp only
  rw [value_number hn]

end Garage.Json
