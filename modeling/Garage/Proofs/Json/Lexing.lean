/-
# The lexemes of JSON text

A well-formed text is cut into lexemes that show its pieces one by one (`shows_lexemes`).  What is
wrong with the value of a lexeme, and where, does not matter here: a lexeme `Shows` a number or a
quoted text if it has the same value or none.
-/
import Mathlib.Data.List.Chain
import Mathlib.Data.List.Forall2
import Garage.Proofs.Json.Cutting
import Garage.Proofs.Json.Grammar

namespace Garage.Json

variable {c e : Char} {cs rest : List Char} {offset : Nat} {p : Piece} {ps : List Piece}

/-! ### What goes well -/

section Except

variable {ε α β : Type}

lemma ok_bind (a : α) (f : α → Except ε β) : (Except.ok a >>= f) = f a := rfl

lemma exists_of_bind_eq_ok {x : Except ε α} {f : α → Except ε β} {b : β}
    (h : (x >>= f) = .ok b) : ∃ a, x = .ok a ∧ f a = .ok b := by
  cases x with
  | error e => cases h
  | ok a => exact ⟨a, rfl, h⟩

lemma toOption_eq_some_iff {x : Except ε α} {a : α} : x.toOption = some a ↔ x = .ok a := by
  cases x <;> simp [Except.toOption]

lemma toOption_eq_none_iff {x : Except ε α} : x.toOption = none ↔ ∃ e, x = .error e := by
  cases x <;> simp [Except.toOption]

lemma toOption_bind (x : Except ε α) (f : α → Except ε β) :
    (x >>= f).toOption = x.toOption.bind fun a => (f a).toOption := by
  cases x <;> rfl

lemma toOption_map (f : α → β) (x : Except ε α) : (x.map f).toOption = x.toOption.map f := by
  cases x <;> rfl

end Except

/-! ### What a lexeme shows -/

/-- The value of a number, if it can be had. -/
def Numeral.value? (n : Numeral) : Option Number :=
  (ScannedNumber.mk n.parts 0 0 []).value.toOption

/-- A lexeme is what becomes of this piece. -/
inductive Lexeme.Shows : Lexeme → Piece → Prop
  | mark (m : Mark) (start stop : Nat) : Shows ⟨.mark m, start, stop⟩ (.mark m)
  | null (start stop : Nat) : Shows ⟨.null, start, stop⟩ (.scalar .null)
  | truth (b : Bool) (start stop : Nat) : Shows ⟨.truth b, start, stop⟩ (.scalar (.truth b))
  | number {n : Numeral} {value : Except Fault Number} (hvalue : value.toOption = n.value?)
      (start stop : Nat) : Shows ⟨.number value, start, stop⟩ (.scalar (.number n))
  | text {q : Quotation} {value : Except Fault (List Char)}
      (hvalue : value.toOption = q.characters?) (start stop : Nat) :
      Shows ⟨.text value, start, stop⟩ (.scalar (.text q))

namespace Lexeme.Shows

variable {l : Lexeme} {m : Mark}

lemma eq_mark (h : l.Shows p) (hl : l.kind = .mark m) : p = .mark m := by
  cases h with
  | mark m' => exact congrArg Piece.mark (Kind.mark.inj hl)
  | _ => cases hl

lemma kind_ne (h : l.Shows p) (hp : p ≠ .mark m) : l.kind ≠ .mark m := fun hl => hp (h.eq_mark hl)

end Lexeme.Shows

/-! ### Quoted text -/

lemma ne_u_of_simpleEscape? (h : simpleEscape? e = some c) : e ≠ 'u' := by
  rintro rfl
  cases h

lemma skipText_symbol (s : Symbol) (offset : Nat) (rest : List Char) : ∃ offset',
    skipText offset (s.text ++ rest) = skipText offset' rest := by
  cases s with
  | plain c hquote hbackslash hle =>
    refine ⟨offset + c.utf8Size, ?_⟩
    rw [Symbol.text, List.cons_append, List.nil_append, skipText.eq_def]
    simp [hquote, hbackslash, Nat.not_lt.mpr hle]
  | letter e c hchar =>
    refine ⟨offset + 2, ?_⟩
    rw [Symbol.text, List.cons_append, List.cons_append, List.nil_append, skipText.eq_def]
    simp [ne_u_of_simpleEscape? hchar, hchar]
  | code w x y z n hquad =>
    refine ⟨offset + 6, ?_⟩
    simp only [Symbol.text, List.cons_append, List.nil_append]
    rw [skipText.eq_def]
    simp [hquad]

lemma skipText_quotation (q : Quotation) (offset : Nat) (rest : List Char) :
    ∃ stop, skipText offset (q.flatMap Symbol.text ++ '"' :: rest) = .ok (stop, rest) := by
  induction q generalizing offset with
  | nil => exact ⟨offset + 1, skipText_quote offset rest⟩
  | cons s q ih =>
    obtain ⟨offset', hskip⟩ := skipText_symbol s offset (q.flatMap Symbol.text ++ '"' :: rest)
    rw [List.flatMap_cons, List.append_assoc, hskip]
    exact ih offset'

lemma toOption_readText (q : Quotation) (offset : Nat) (rest : List Char) :
    (readText offset (q.flatMap Symbol.text ++ '"' :: rest)).toOption = q.characters? := by
  fun_induction Quotation.characters? q generalizing offset with
  | case1 =>
    rw [List.flatMap_nil, List.nil_append, readText_quote]
    rfl
  | case2 c hquote hbackslash hle q ih =>
    simp only [List.flatMap_cons, Symbol.text, List.cons_append, List.nil_append]
    rw [readText.eq_def]
    simp [hquote, hbackslash, Nat.not_lt.mpr hle, toOption_map, ih]
  | case3 e c hchar q ih =>
    simp only [List.flatMap_cons, Symbol.text, List.cons_append, List.nil_append]
    rw [readText.eq_def]
    simp [ne_u_of_simpleEscape? hchar, hchar, toOption_map, ih]
  | case4 w x y z n hquad q hsecond =>
    simp only [List.flatMap_cons, Symbol.text, List.cons_append, List.nil_append]
    rw [readText.eq_def]
    simp [hquad, hsecond]
    rfl
  | case5 w x y z n hquad hsecond hfirst w' x' y' z' m hquad' q hsecond' ih =>
    simp only [List.flatMap_cons, Symbol.text, List.cons_append, List.nil_append]
    rw [readText.eq_def]
    simp [hquad, hsecond, hfirst, hquad', hsecond', toOption_map, ih]
  | case6 w x y z n hquad hsecond hfirst w' x' y' z' m hquad' q hsecond' =>
    simp only [List.flatMap_cons, Symbol.text, List.cons_append, List.nil_append]
    rw [readText.eq_def]
    simp [hquad, hsecond, hfirst, hquad', hsecond']
    rfl
  | case7 w x y z n hquad q hsecond hfirst hnext =>
    simp only [List.flatMap_cons, Symbol.text, List.cons_append, List.nil_append]
    rw [readText.eq_def]
    -- There is no second half behind the first one.
    rcases q with - | ⟨c | ⟨e, c, hchar⟩ | ⟨w', x', y', z', m, hquad'⟩, q⟩
    · simp [hquad, hsecond, hfirst]
      rfl
    · simp [Symbol.text, *]
      rfl
    · simp [hquad, hsecond, hfirst, Symbol.text, ne_u_of_simpleEscape? hchar]
      rfl
    · exact absurd rfl (hnext w' x' y' z' m hquad' q)
  | case8 w x y z n hquad q hsecond hfirst ih =>
    simp only [List.flatMap_cons, Symbol.text, List.cons_append, List.nil_append]
    rw [readText.eq_def]
    simp [hquad, hsecond, hfirst, toOption_map, ih]

/-! ### Numbers -/

/-- The text is over, or goes on with something that cannot be part of a number. -/
def EndsNumber (cs : List Char) : Prop :=
  ∀ c ∈ cs.head?, c.isDigit = false ∧ c ≠ '.' ∧ c ≠ 'e' ∧ c ≠ 'E'

lemma EndsNumber.noDigit (h : EndsNumber cs) : NoDigit cs := fun c hc => (h c hc).1

namespace Digits

lemma exists_eq_cons (ds : Digits) : ∃ d tail, ds.text = d :: tail ∧ d.isDigit = true := by
  obtain ⟨d, tail, htext⟩ := List.exists_cons_of_ne_nil ds.ne_nil
  exact ⟨d, tail, htext, ds.isDigit d (htext ▸ List.mem_cons_self)⟩

lemma scanDigits_eq (ds : Digits) (hrest : NoDigit rest) (offset : Nat) :
    scanDigits offset (ds.text ++ rest) = .ok (ds.text, offset + ds.text.length, rest) := by
  rw [scanDigits, takeWhile_isDigit_append ds.isDigit hrest]
  obtain ⟨d, tail, htext, -⟩ := ds.exists_eq_cons
  simp [htext]

end Digits

namespace Numeral

variable (n : Numeral)

/-- A letter begins the exponent, or something that cannot be part of a number follows. -/
lemma head?_exponentText (exponent : Option Exponent) (hrest : EndsNumber rest) :
    ∀ c ∈ (exponentText exponent ++ rest).head?, c.isDigit = false ∧ c ≠ '.' := by
  cases exponent with
  | none => exact fun c hc => ⟨(hrest c hc).1, (hrest c hc).2.1⟩
  | some e =>
    rintro c ⟨⟩
    rcases e.letter_eq with h | h <;> rw [h] <;> decide

lemma noDigit_fractionText (fraction : Option Digits) (exponent : Option Exponent)
    (hrest : EndsNumber rest) :
    NoDigit (fractionText fraction ++ (exponentText exponent ++ rest)) := by
  cases fraction with
  | none => exact fun c hc => (head?_exponentText exponent hrest c hc).1
  | some ds => exact noDigit_cons rfl _

lemma scanWhole_eq (hrest : NoDigit rest) (offset : Nat) :
    scanWhole offset (n.whole.text ++ rest) =
      .ok (n.whole.text, offset + n.whole.text.length, rest) := by
  rw [scanWhole, n.whole.scanDigits_eq hrest]
  simp only [bind, Except.bind]
  split
  case h_1 hzero => cases n.eq_nil_of_zero _ hzero
  case h_2 => rfl

lemma scanFraction_eq (fraction : Option Digits) (exponent : Option Exponent)
    (hrest : EndsNumber rest) (offset : Nat) : ∃ stop,
    scanFraction offset (fractionText fraction ++ (exponentText exponent ++ rest)) =
      .ok ((fraction.map (·.text)).getD [], stop, exponentText exponent ++ rest) := by
  have hhead := head?_exponentText exponent hrest
  cases fraction with
  | none =>
    refine ⟨offset, ?_⟩
    rw [fractionText, List.nil_append, scanFraction.eq_def]
    split
    case h_1 heq => exact absurd rfl (hhead '.' (by rw [heq]; rfl)).2
    case h_2 => rfl
  | some ds =>
    exact ⟨_, ds.scanDigits_eq (fun c hc => (hhead c hc).1) (offset + 1)⟩

lemma scanExponent_eq (exponent : Option Exponent) (hrest : EndsNumber rest) (offset : Nat) :
    ∃ start stop, scanExponent offset (exponentText exponent ++ rest) =
      .ok (exponent.map fun e => (e.sign.isNegative, e.digits.text), start, stop, rest) := by
  cases exponent with
  | none =>
    refine ⟨offset, offset, ?_⟩
    cases rest with
    | nil => rfl
    | cons c rest =>
      obtain ⟨-, -, he, hcapital⟩ := hrest c rfl
      simp [exponentText, scanExponent, he, hcapital]
  | some e =>
    obtain ⟨letter, hletter, sign, digits⟩ := e
    obtain ⟨d, tail, htext, hd⟩ := digits.exists_eq_cons
    have hscan := digits.scanDigits_eq hrest.noDigit
    have hplus := ne_of_isDigit hd (d := '+') rfl
    have hminus := ne_of_isDigit hd (d := '-') rfl
    cases sign with
    | none =>
      refine ⟨offset + 1, offset + 1 + digits.text.length, ?_⟩
      specialize hscan (offset + 1)
      rw [htext, List.cons_append] at hscan
      simp [exponentText, scanExponent, hletter, ExponentSign.text, ExponentSign.isNegative, htext,
        hplus, hminus, hscan, bind, Except.bind, pure, Except.pure]
    | plus =>
      refine ⟨offset + 2, offset + 2 + digits.text.length, ?_⟩
      simp [exponentText, scanExponent, hletter, ExponentSign.text, ExponentSign.isNegative, hscan,
        bind, Except.bind, pure, Except.pure]
    | minus =>
      refine ⟨offset + 2, offset + 2 + digits.text.length, ?_⟩
      simp [exponentText, scanExponent, hletter, ExponentSign.text, ExponentSign.isNegative, hscan,
        bind, Except.bind, pure, Except.pure]

lemma scanNumber_eq (hrest : EndsNumber rest) (offset : Nat) : ∃ start stop,
    scanNumber offset (n.text ++ rest) = .ok ⟨n.parts, start, stop, rest⟩ := by
  have hhead : (n.text ++ rest).head? = some '-' ↔ n.negative = true := by
    obtain ⟨d, tail, htext, hd⟩ := n.whole.exists_eq_cons
    have hne := ne_of_isDigit hd (d := '-') rfl
    rw [text, signText, htext]
    cases n.negative <;> simp [hne]
  have hdrop : (n.text ++ rest).drop (if n.negative then 1 else 0) =
      n.whole.text ++ (fractionText n.fraction ++ (exponentText n.exponent ++ rest)) := by
    rw [text, signText]
    cases n.negative <;> simp
  have hwhole := n.scanWhole_eq (noDigit_fractionText n.fraction n.exponent hrest)
  obtain ⟨stop, hfraction⟩ := scanFraction_eq n.fraction n.exponent hrest
    (offset + (if n.negative then 1 else 0) + n.whole.text.length)
  obtain ⟨start, stop', hexponent⟩ := scanExponent_eq n.exponent hrest stop
  refine ⟨start, stop', ?_⟩
  simp only [scanNumber, hhead, Bool.decide_eq_true, hdrop, hwhole, hfraction, hexponent, bind,
    Except.bind, pure, Except.pure]
  rfl

/-- Where a number stands does not matter for its value. -/
lemma toOption_value (start stop : Nat) (rest : List Char) :
    (ScannedNumber.mk n.parts start stop rest).value.toOption = n.value? := by
  simp only [value?, ScannedNumber.value]
  split
  case isTrue => rfl
  case isFalse =>
    cases n.parts.exponent with
    | none =>
      dsimp only
      split <;> rfl
    | some e =>
      obtain ⟨negative, ds⟩ := e
      dsimp only
      split
      case isTrue => split <;> rfl
      case isFalse => split <;> rfl

lemma exists_text_eq_cons : ∃ c cs, n.text = c :: cs ∧ (c = '-' ∨ c.isDigit = true) := by
  obtain ⟨d, tail, htext, hd⟩ := n.whole.exists_eq_cons
  rw [text, signText, htext]
  cases n.negative with
  | false => exact ⟨d, _, rfl, .inr hd⟩
  | true => exact ⟨'-', _, rfl, .inl rfl⟩

end Numeral

/-! ### Pieces -/

lemma ofChar?_char (m : Mark) : Mark.ofChar? m.char = some m := by
  cases m <;> rfl

lemma isBlank_char (m : Mark) : isBlank m.char = false := by
  cases m <;> rfl

/-- A piece is a lexeme of its own, if no number goes on behind it. -/
lemma exists_cutLexeme_eq (p : Piece) (hrest : ∀ n, p = .scalar (.number n) → EndsNumber rest) :
    ∃ c cs, p.text = c :: cs ∧ isBlank c = false ∧
      ∀ offset, ∃ l, cutLexeme offset c (cs ++ rest) = (l, some rest) ∧ l.Shows p := by
  cases p with
  | mark m =>
    refine ⟨m.char, [], rfl, isBlank_char m, fun offset => ⟨_, ?_, .mark m offset (offset + 1)⟩⟩
    rw [cutLexeme, ofChar?_char]
    rfl
  | scalar s =>
    cases s with
    | null => exact ⟨_, _, rfl, rfl, fun offset => ⟨_, rfl, .null _ _⟩⟩
    | truth b =>
      cases b with
      | false => exact ⟨_, _, rfl, rfl, fun offset => ⟨_, rfl, .truth _ _ _⟩⟩
      | true => exact ⟨_, _, rfl, rfl, fun offset => ⟨_, rfl, .truth _ _ _⟩⟩
    | number n =>
      obtain ⟨c, cs, htext, hc⟩ := n.exists_text_eq_cons
      refine ⟨c, cs, htext, ?_, ?_⟩
      · rcases hc with rfl | hdigit
        · rfl
        · exact isBlank_of_isDigit hdigit
      · intro offset
        obtain ⟨start, stop, hscan⟩ := n.scanNumber_eq (hrest n rfl) offset
        refine ⟨_, ?_, .number (n.toOption_value start stop rest) offset stop⟩
        have hmark : Mark.ofChar? c = none := by
          rcases hc with rfl | hdigit
          · rfl
          · exact ofChar?_eq_none_of_isDigit hdigit
        have hquote : c ≠ '"' := by
          rcases hc with rfl | hdigit
          · decide
          · exact ne_of_isDigit hdigit rfl
        rw [htext, List.cons_append] at hscan
        simp [cutLexeme, hmark, hquote, hc, cutNumber, hscan]
    | text q =>
      refine ⟨'"', q.flatMap Symbol.text ++ ['"'], rfl, rfl, fun offset => ?_⟩
      obtain ⟨stop, hskip⟩ := skipText_quotation q (offset + 1) rest
      refine ⟨_, ?_, .text (toOption_readText q (offset + 1) rest) offset stop⟩
      rw [cutLexeme, show Mark.ofChar? '"' = none from rfl]
      simp [cutText, hskip]

/-! ### Texts -/

/-- Of two pieces side by side, one is a mark. -/
def Apart : List Piece → Prop :=
  List.IsChain fun p p' => (∃ m, p = .mark m) ∨ ∃ m, p' = .mark m

lemma cut_blanks {blanks : List Char} (hblanks : ∀ c ∈ blanks, isBlank c = true)
    (offset fuel : Nat) (cs : List Char) : ∃ offset',
    cut offset (blanks.length + fuel) (blanks ++ cs) = cut offset' fuel cs := by
  induction blanks generalizing offset with
  | nil => exact ⟨offset, by rw [List.length_nil, Nat.zero_add, List.nil_append]⟩
  | cons c blanks ih =>
    obtain ⟨offset', hcut⟩ := ih (fun d hd => hblanks d (List.mem_cons_of_mem _ hd)) (offset + 1)
    refine ⟨offset', ?_⟩
    rw [List.length_cons, Nat.add_right_comm, List.cons_append, cut]
    rw [if_pos (hblanks c List.mem_cons_self), hcut]

lemma cut_nil (offset fuel : Nat) : cut offset fuel [] = [] := by
  cases fuel <;> rfl

/-- Behind a number there is nothing but blanks, or a mark. -/
lemma Spaced.endsNumber (h : Spaced ps cs) (hhead : ∀ p ∈ ps.head?, ∃ m, p = .mark m) :
    EndsNumber cs := by
  have hblank : ∀ c, isBlank c = true → c.isDigit = false ∧ c ≠ '.' ∧ c ≠ 'e' ∧ c ≠ 'E' := by
    intro c hc
    simp only [isBlank, Bool.or_eq_true, decide_eq_true_eq] at hc
    rcases hc with ((rfl | rfl) | rfl) | rfl <;> decide
  cases h with
  | nil hblanks => exact fun c hc => hblank c (hblanks c (List.mem_of_mem_head? hc))
  | @cons blanks cs ps hblanks p h =>
    obtain ⟨m, rfl⟩ := hhead p rfl
    cases blanks with
    | nil =>
      rintro c ⟨⟩
      cases m <;> decide
    | cons b blanks =>
      rintro c ⟨⟩
      exact hblank b (hblanks b List.mem_cons_self)

lemma shows_cut (h : Spaced ps cs) (hps : Apart ps) (offset : Nat) {fuel : Nat}
    (hfuel : cs.length ≤ fuel) : List.Forall₂ Lexeme.Shows (cut offset fuel cs) ps := by
  induction h generalizing offset fuel with
  | @nil blanks hblanks =>
    obtain ⟨fuel, rfl⟩ := Nat.exists_eq_add_of_le hfuel
    obtain ⟨offset', hcut⟩ := cut_blanks hblanks offset fuel []
    rw [List.append_nil] at hcut
    rw [hcut, cut_nil]
    exact .nil
  | @cons blanks cs ps hblanks p h ih =>
    have hps := List.isChain_cons.mp hps
    have hrest : ∀ n, p = .scalar (.number n) → EndsNumber cs := by
      rintro n rfl
      refine h.endsNumber fun p' hp' => ?_
      rcases hps.1 p' hp' with ⟨m, hm⟩ | hm
      · cases hm
      · exact hm
    obtain ⟨c, tail, htext, hblank, hlexeme⟩ := exists_cutLexeme_eq p hrest
    rw [htext] at hfuel ⊢
    simp only [List.length_append, List.length_cons] at hfuel
    obtain ⟨fuel, rfl⟩ : ∃ fuel', fuel = blanks.length + (fuel' + 1) :=
      ⟨fuel - blanks.length - 1, by omega⟩
    obtain ⟨offset', hcut⟩ := cut_blanks hblanks offset (fuel + 1) (c :: tail ++ cs)
    obtain ⟨l, hl, hshows⟩ := hlexeme offset'
    rw [hcut, List.cons_append, cut]
    simp only [hblank, hl]
    exact .cons hshows (ih hps.2 _ (by omega))

lemma apart_cons_mark (m : Mark) (hps : Apart ps) : Apart (.mark m :: ps) :=
  List.isChain_cons.mpr ⟨fun _ _ => .inl ⟨m, rfl⟩, hps⟩

lemma apart_append_mark (hps : Apart ps) (m : Mark) {ps' : List Piece} (hps' : Apart ps') :
    Apart (ps ++ .mark m :: ps') := by
  refine List.isChain_append.mpr ⟨hps, apart_cons_mark m hps', ?_⟩
  rintro _ - _ ⟨⟩
  exact .inr ⟨m, rfl⟩

lemma apart_enclosed {pss : List (List Piece)} (h : ∀ ps ∈ pss, Apart ps) (first last : Mark) :
    Apart (Piece.enclosed first last pss) := by
  have hrest : ∀ pss : List (List Piece), (∀ ps ∈ pss, Apart ps) → ∀ ps, Apart ps →
      Apart (ps ++ (pss.flatMap (.mark .comma :: ·) ++ [.mark last])) := by
    intro pss hpss
    induction pss with
    | nil => exact fun ps hps => apart_append_mark hps last .nil
    | cons ps' pss ih =>
      intro ps hps
      obtain ⟨hps', hpss⟩ := List.forall_mem_cons.mp hpss
      rw [List.flatMap_cons, List.cons_append, List.cons_append, List.append_assoc]
      exact apart_append_mark hps _ (ih hpss ps' hps')
  refine apart_cons_mark first ?_
  cases pss with
  | nil => exact apart_cons_mark last .nil
  | cons ps pss =>
    obtain ⟨hps, hpss⟩ := List.forall_mem_cons.mp h
    rw [Piece.separated, List.append_assoc]
    exact hrest pss hpss ps hps

lemma Value.apart_pieces (v : Value) : Apart v.pieces := by
  induction v using Value.induction with
  | scalar s => exact List.isChain_singleton _
  | list items ih =>
    rw [pieces, itemPieces_eq]
    exact apart_enclosed (List.forall_mem_map.mpr ih) _ _
  | object members ih =>
    rw [pieces, memberPieces_eq]
    refine apart_enclosed (List.forall_mem_map.mpr fun m hm => ?_) _ _
    exact apart_append_mark (List.isChain_singleton _) .colon (ih m hm)

/-- The lexemes of a well-formed text show its pieces. -/
theorem Value.IsText.shows_lexemes {v : Value} (h : v.IsText cs) :
    List.Forall₂ Lexeme.Shows (lexemes cs) v.pieces :=
  shows_cut h v.apart_pieces 0 (Nat.le_refl _)

/-! ### Parts of values -/

section Parts

variable {l : Lexeme} {ls : List Lexeme}

lemma exists_of_shows_append {ps' : List Piece} (h : List.Forall₂ Lexeme.Shows ls (ps ++ ps')) :
    ∃ ls₁ ls₂, ls = ls₁ ++ ls₂ ∧ List.Forall₂ Lexeme.Shows ls₁ ps ∧
      List.Forall₂ Lexeme.Shows ls₂ ps' :=
  ⟨ls.take ps.length, ls.drop ps.length, (List.take_append_drop _ _).symm,
    List.forall₂_take_append _ _ _ h, List.forall₂_drop_append _ _ _ h⟩

/-- The first of several things with commas before them. -/
lemma exists_of_shows_commas {pss : List (List Piece)}
    (h : List.Forall₂ Lexeme.Shows ls ((ps :: pss).flatMap (.mark .comma :: ·))) :
    ∃ comma ls₁ ls₂, ls = comma :: (ls₁ ++ ls₂) ∧ comma.kind = .mark .comma ∧
      List.Forall₂ Lexeme.Shows ls₁ ps ∧
        List.Forall₂ Lexeme.Shows ls₂ (pss.flatMap (.mark .comma :: ·)) := by
  rw [List.flatMap_cons, List.cons_append] at h
  obtain ⟨_, ls, ⟨_, start, stop⟩, hbehind, rfl⟩ := List.forall₂_cons_right_iff.mp h
  obtain ⟨ls₁, ls₂, rfl, hls₁, hls₂⟩ := exists_of_shows_append hbehind
  exact ⟨_, ls₁, ls₂, rfl, rfl, hls₁, hls₂⟩

lemma exists_of_shows_enclosed {pss : List (List Piece)} {first last : Mark}
    (h : List.Forall₂ Lexeme.Shows ls (Piece.enclosed first last pss)) : ∃ start stop body c,
      ls = ⟨.mark first, start, stop⟩ :: (body ++ [c]) ∧ c.kind = .mark last ∧
        List.Forall₂ Lexeme.Shows body (Piece.separated pss) := by
  obtain ⟨_, ls, ⟨_, start, stop⟩, hrest, rfl⟩ := List.forall₂_cons_right_iff.mp h
  obtain ⟨body, _, rfl, hbody, hlast⟩ := exists_of_shows_append hrest
  obtain ⟨c, _, ⟨⟩, hnil, rfl⟩ := List.forall₂_cons_right_iff.mp hlast
  obtain rfl := List.forall₂_nil_right_iff.mp hnil
  exact ⟨start, stop, body, _, rfl, rfl, hbody⟩

/-- No value begins with the end of a list. -/
lemma Value.exists_pieces_eq_cons (v : Value) :
    ∃ p ps, v.pieces = p :: ps ∧ p ≠ .mark .closeList := by
  cases v with
  | scalar s => exact ⟨_, _, rfl, by rintro ⟨⟩⟩
  | list items => exact ⟨_, _, rfl, by rintro ⟨⟩⟩
  | object members => exact ⟨_, _, rfl, by rintro ⟨⟩⟩

lemma exists_of_shows_pieces {v : Value} (h : List.Forall₂ Lexeme.Shows ls v.pieces) :
    ∃ l ls', ls = l :: ls' ∧ l.kind ≠ .mark .closeList := by
  obtain ⟨p, ps, hpieces, hp⟩ := v.exists_pieces_eq_cons
  rw [hpieces] at h
  obtain ⟨l, ls', hshows, -, rfl⟩ := List.forall₂_cons_right_iff.mp h
  exact ⟨l, ls', rfl, hshows.kind_ne hp⟩

end Parts

end Garage.Json
