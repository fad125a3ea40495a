/-
# The pieces behind lexemes

Lexemes in which nothing is wrong come from a row of pieces, with blanks between them
(`exists_pieces_of_isSound`).  Values of numbers and quoted texts may still be missing: a number
may be too large, or half of a surrogate pair may stand alone.
-/
import Mathlib.Data.Set.List
import Garage.Proofs.Json.Lexing

namespace Garage.Json

variable {c : Char} {cs rest ds : List Char} {offset stop : Nat} {l : Lexeme}

/-- What is behind such a lexeme can be read. -/
def Kind.IsSound : Kind → Prop
  | broken .. | stray => False
  | _ => True

/-! ### Quoted text -/

lemma exists_symbols_of_skipText (h : skipText offset cs = .ok (stop, rest)) :
    ∃ q : Quotation, cs = q.flatMap Symbol.text ++ '"' :: rest := by
  fun_induction skipText offset cs with
  | case2 offset tail =>
    cases h
    exact ⟨[], rfl⟩
  | case4 offset w x y z tail hquad _ ih =>
    obtain ⟨n, hn⟩ := Option.isSome_iff_exists.mp hquad
    obtain ⟨q, rfl⟩ := ih h
    exact ⟨.code w x y z n hn :: q, rfl⟩
  | case7 offset e tail _ hchar _ ih =>
    obtain ⟨c, hc⟩ := Option.isSome_iff_exists.mp hchar
    obtain ⟨q, rfl⟩ := ih h
    exact ⟨.letter e c hc :: q, rfl⟩
  | case10 offset c tail hquote hbackslash hle ih =>
    obtain ⟨q, rfl⟩ := ih h
    exact ⟨.plain c hquote hbackslash (Nat.le_of_not_lt hle) :: q, rfl⟩
  | _ => cases h

/-! ### Numbers -/

lemma exists_digits_of_scanDigits (h : scanDigits offset cs = .ok (ds, stop, rest)) :
    ∃ d : Digits, d.text = ds ∧ cs = ds ++ rest := by
  unfold scanDigits at h
  split at h
  case h_1 => cases h
  case h_2 hne =>
    cases h
    exact ⟨⟨_, hne, List.all_eq_true.mp List.all_takeWhile⟩, rfl,
      (List.prefix_iff_eq_append.mp (List.takeWhile_prefix _)).symm⟩

lemma exists_digits_of_scanWhole (h : scanWhole offset cs = .ok (ds, stop, rest)) :
    ∃ d : Digits, d.text = ds ∧ (∀ tail, ds = '0' :: tail → tail = []) ∧ cs = ds ++ rest := by
  unfold scanWhole at h
  cases hscan : scanDigits offset cs with
  | error f =>
    rw [hscan] at h
    cases h
  | ok p =>
    obtain ⟨ds', stop', rest'⟩ := p
    obtain ⟨d, rfl, hcs⟩ := exists_digits_of_scanDigits hscan
    simp only [hscan, bind, Except.bind] at h
    split at h
    case h_1 => cases h
    case h_2 hzero =>
      cases h
      refine ⟨d, rfl, fun tail htail => ?_, hcs⟩
      cases tail with
      | nil => rfl
      | cons c tail => exact absurd htail (hzero c tail)

lemma exists_fraction_of_scanFraction (h : scanFraction offset cs = .ok (ds, stop, rest)) :
    ∃ fraction : Option Digits, ds = (fraction.map (·.text)).getD [] ∧
      cs = Numeral.fractionText fraction ++ rest := by
  unfold scanFraction at h
  split at h
  case h_1 tail =>
    obtain ⟨d, rfl, rfl⟩ := exists_digits_of_scanDigits h
    exact ⟨some d, rfl, rfl⟩
  case h_2 =>
    cases h
    exact ⟨none, rfl, rfl⟩

/-- The digits of an exponent. -/
lemma exists_digits_of_bind {exponent : Option (Bool × List Char)} {negative : Bool} {start : Nat}
    (h : (do
      let (ds, stop, rest) ← scanDigits offset cs
      return (some (negative, ds), offset, stop, rest)) = .ok (exponent, start, stop, rest)) :
    ∃ d : Digits, exponent = some (negative, d.text) ∧ cs = d.text ++ rest := by
  cases hscan : scanDigits offset cs with
  | error f =>
    rw [hscan] at h
    cases h
  | ok p =>
    obtain ⟨ds, stop', rest'⟩ := p
    rw [hscan] at h
    cases h
    obtain ⟨d, rfl, hcs⟩ := exists_digits_of_scanDigits hscan
    exact ⟨d, rfl, hcs⟩

lemma exists_exponent_of_scanExponent {exponent : Option (Bool × List Char)} {start : Nat}
    (h : scanExponent offset cs = .ok (exponent, start, stop, rest)) :
    ∃ e : Option Exponent, exponent = e.map (fun e => (e.sign.isNegative, e.digits.text)) ∧
      cs = Numeral.exponentText e ++ rest := by
  unfold scanExponent at h
  dsimp only at h
  split at h
  case h_1 c tail =>
    split at h
    case isTrue hletter =>
      split at h
      case h_1 =>
        obtain ⟨d, rfl, rfl⟩ := exists_digits_of_bind h
        exact ⟨some ⟨c, hletter, .plus, d⟩, rfl, rfl⟩
      case h_2 =>
        obtain ⟨d, rfl, rfl⟩ := exists_digits_of_bind h
        exact ⟨some ⟨c, hletter, .minus, d⟩, rfl, rfl⟩
      case h_3 =>
        obtain ⟨d, rfl, rfl⟩ := exists_digits_of_bind h
        exact ⟨some ⟨c, hletter, .none, d⟩, rfl, rfl⟩
    case isFalse =>
      cases h
      exact ⟨none, rfl, rfl⟩
  case h_2 =>
    cases h
    exact ⟨none, rfl, rfl⟩

/-- The sign of a number and what follows it. -/
lemma eq_sign_append_drop (cs : List Char) :
    cs = (if cs.head? = some '-' then ['-'] else []) ++
      cs.drop (if cs.head? = some '-' then 1 else 0) := by
  cases cs with
  | nil => rfl
  | cons c cs =>
    by_cases hc : c = '-'
    · subst hc
      rfl
    · simp [hc]

lemma exists_numeral_of_scanNumber {s : ScannedNumber} (h : scanNumber offset cs = .ok s) :
    ∃ n : Numeral, s.parts = n.parts ∧ cs = n.text ++ s.rest := by
  unfold scanNumber at h
  dsimp only at h
  obtain ⟨⟨whole, stop₁, rest₁⟩, hwhole, h⟩ := exists_of_bind_eq_ok h
  obtain ⟨⟨fraction, stop₂, rest₂⟩, hfraction, h⟩ := exists_of_bind_eq_ok h
  obtain ⟨⟨exponent, start, stop₃, rest₃⟩, hexponent, h⟩ := exists_of_bind_eq_ok h
  obtain ⟨d, rfl, hzero, hdrop⟩ := exists_digits_of_scanWhole hwhole
  obtain ⟨fr, rfl, rfl⟩ := exists_fraction_of_scanFraction hfraction
  obtain ⟨e, rfl, rfl⟩ := exists_exponent_of_scanExponent hexponent
  cases h
  refine ⟨⟨decide (cs.head? = some '-'), d, hzero, fr, e⟩, rfl, (eq_sign_append_drop cs).trans ?_⟩
  simp [Numeral.text, Numeral.signText, hdrop]

/-! ### Lexemes -/

lemma eq_char_of_ofChar? {m : Mark} (h : Mark.ofChar? c = some m) : c = m.char := by
  unfold Mark.ofChar? at h
  split at h <;> cases h <;> rfl

lemma exists_piece_of_cutText {start : Nat} (h : cutText start cs = (l, some rest)) :
    ∃ p, l.Shows p ∧ '"' :: cs = p.text ++ rest := by
  unfold cutText at h
  dsimp only at h
  split at h
  case h_1 stop rest' hskip =>
    cases h
    obtain ⟨q, rfl⟩ := exists_symbols_of_skipText hskip
    refine ⟨.scalar (.text q), .text (toOption_readText q _ _) _ _, ?_⟩
    simp [Piece.text, Scalar.spelling, Quotation.text]
  case h_2 => cases h

lemma exists_piece_of_cutNumber {start : Nat} (h : cutNumber start cs = (l, some rest)) :
    ∃ p, l.Shows p ∧ cs = p.text ++ rest := by
  unfold cutNumber at h
  split at h
  case h_1 s hscan =>
    cases h
    obtain ⟨n, hparts, rfl⟩ := exists_numeral_of_scanNumber hscan
    obtain ⟨parts, start, stop, rest⟩ := s
    subst hparts
    exact ⟨.scalar (.number n), .number (n.toOption_value _ _ _) _ _, rfl⟩
  case h_2 => cases h

lemma eq_of_cutWord {kind : Kind} {start : Nat} {expected : List Char}
    (h : cutWord kind start offset expected cs = (l, some rest)) :
    (∃ stop, l = ⟨kind, start, stop⟩) ∧ cs = expected ++ rest := by
  fun_induction cutWord kind start offset expected cs with
  | case1 =>
    cases h
    exact ⟨⟨_, rfl⟩, rfl⟩
  | case3 offset e expected cs ih =>
    obtain ⟨hl, rfl⟩ := ih h
    exact ⟨hl, rfl⟩
  | _ => cases h

lemma not_isSound_of_cutWord {kind : Kind} {start : Nat} {expected : List Char}
    (h : cutWord kind start offset expected cs = (l, none)) : ¬ l.kind.IsSound := by
  fun_induction cutWord kind start offset expected cs with
  | case1 => cases h
  | case3 offset e expected cs ih => exact ih h
  | _ =>
    cases h
    exact id

lemma Piece.text_ne_nil (p : Piece) : p.text ≠ [] := by
  cases p with
  | mark m => exact List.cons_ne_nil _ _
  | scalar s =>
    cases s with
    | null => exact List.cons_ne_nil _ _
    | truth b => cases b <;> exact List.cons_ne_nil _ _
    | number n =>
      obtain ⟨c, cs, htext, -⟩ := n.exists_text_eq_cons
      exact ne_of_eq_of_ne htext (List.cons_ne_nil _ _)
    | text q => exact List.cons_ne_nil _ _

/-- A lexeme that something follows is sound, or else a stray character. -/
lemma exists_piece_of_cutLexeme (h : cutLexeme offset c cs = (l, some rest)) (hl : l.kind.IsSound) :
    ∃ p, l.Shows p ∧ c :: cs = p.text ++ rest := by
  unfold cutLexeme at h
  split at h
  case h_1 m hm =>
    obtain rfl := eq_char_of_ofChar? hm
    cases h
    exact ⟨.mark m, .mark m _ _, rfl⟩
  case h_2 =>
    split_ifs at h with hquote hnumber hnull htrue hfalse
    · subst hquote
      exact exists_piece_of_cutText h
    · exact exists_piece_of_cutNumber h
    · subst hnull
      obtain ⟨⟨stop, rfl⟩, rfl⟩ := eq_of_cutWord h
      exact ⟨.scalar .null, .null _ _, rfl⟩
    · subst htrue
      obtain ⟨⟨stop, rfl⟩, rfl⟩ := eq_of_cutWord h
      exact ⟨.scalar (.truth true), .truth _ _ _, rfl⟩
    · subst hfalse
      obtain ⟨⟨stop, rfl⟩, rfl⟩ := eq_of_cutWord h
      exact ⟨.scalar (.truth false), .truth _ _ _, rfl⟩
    · cases h
      exact hl.elim

/-- Nothing can be read behind a lexeme that is not sound. -/
lemma not_isSound_of_cutLexeme (h : cutLexeme offset c cs = (l, none)) : ¬ l.kind.IsSound := by
  unfold cutLexeme at h
  split at h
  case h_1 => cases h
  case h_2 =>
    split_ifs at h
    · unfold cutText at h
      dsimp only at h
      split at h <;> cases h
      exact id
    · unfold cutNumber at h
      split at h <;> cases h
      exact id
    · exact not_isSound_of_cutWord h
    · exact not_isSound_of_cutWord h
    · exact not_isSound_of_cutWord h
    · cases h

/-! ### Texts -/

lemma Spaced.blank {ps : List Piece} (h : Spaced ps cs) (hc : isBlank c = true) :
    Spaced ps (c :: cs) := by
  cases h with
  | nil hblanks => exact .nil (List.forall_mem_cons.mpr ⟨hc, hblanks⟩)
  | cons hblanks p h => exact .cons (List.forall_mem_cons.mpr ⟨hc, hblanks⟩) p h

lemma exists_pieces_of_cut {fuel : Nat} (hfuel : cs.length ≤ fuel)
    (h : ∀ l ∈ cut offset fuel cs, l.kind.IsSound) :
    ∃ ps, List.Forall₂ Lexeme.Shows (cut offset fuel cs) ps ∧ Spaced ps cs := by
  induction fuel generalizing offset cs with
  | zero =>
    obtain rfl := List.eq_nil_of_length_eq_zero (Nat.le_zero.mp hfuel)
    exact ⟨[], .nil, .nil (List.forall_mem_nil _)⟩
  | succ fuel ih =>
    cases cs with
    | nil => exact ⟨[], .nil, .nil (List.forall_mem_nil _)⟩
    | cons c cs =>
      rw [cut] at h ⊢
      by_cases hc : isBlank c = true
      · rw [if_pos hc] at h ⊢
        obtain ⟨ps, hshows, hspaced⟩ := ih (Nat.le_of_succ_le_succ hfuel) h
        exact ⟨ps, hshows, hspaced.blank hc⟩
      · rw [if_neg hc] at h ⊢
        cases hcut : cutLexeme offset c cs with
        | mk l rest =>
          rw [hcut] at h
          cases rest with
          | none => exact absurd (h l List.mem_cons_self) (not_isSound_of_cutLexeme hcut)
          | some rest =>
            obtain ⟨hl, hls⟩ := List.forall_mem_cons.mp h
            obtain ⟨p, hp, hcs⟩ := exists_piece_of_cutLexeme hcut hl
            -- A piece has a character at least, so that the fuel lasts for the rest.
            have hle : rest.length ≤ fuel := by
              have hlength := congrArg List.length hcs
              have hpos := List.length_pos_iff.mpr p.text_ne_nil
              simp only [List.length_cons, List.length_append] at hlength hfuel
              omega
            obtain ⟨ps, hshows, hspaced⟩ := ih hle hls
            exact ⟨p :: ps, .cons hp hshows, hcs ▸ .cons (List.forall_mem_nil _) p hspaced⟩

/-- A text in which all lexemes are sound is made of pieces, which they show. -/
theorem exists_pieces_of_isSound (h : ∀ l ∈ lexemes cs, l.kind.IsSound) :
    ∃ ps, List.Forall₂ Lexeme.Shows (lexemes cs) ps ∧ Spaced ps cs :=
  exists_pieces_of_cut (Nat.le_refl _) h

/-! ### What lexemes make -/

section Makes

variable {ls ls' : List Lexeme} {ps : List Piece} {m : Mark} {P Q R : List Piece → Prop}
  {first : Bool}

/-- Nothing is wrong with these lexemes, and the pieces that they show are `P`. -/
structure Makes (ls : List Lexeme) (P : List Piece → Prop) : Prop where
  isSound : ∀ l ∈ ls, l.kind.IsSound
  of_shows : ∀ ⦃ps⦄, List.Forall₂ Lexeme.Shows ls ps → P ps

namespace Makes

lemma nil (h : P []) : Makes [] P :=
  ⟨List.forall_mem_nil _, fun _ hps => List.forall₂_nil_left_iff.mp hps ▸ h⟩

lemma cons (hl : l.kind.IsSound) (h : Makes ls P) (hR : ∀ p ps, l.Shows p → P ps → R (p :: ps)) :
    Makes (l :: ls) R := by
  refine ⟨List.forall_mem_cons.mpr ⟨hl, h.isSound⟩, fun _ hshows => ?_⟩
  obtain ⟨p, ps, hp, hps, rfl⟩ := List.forall₂_cons_left_iff.mp hshows
  exact hR p ps hp (h.of_shows hps)

lemma mark (hl : l.kind = .mark m) (h : Makes ls P) (hR : ∀ ps, P ps → R (.mark m :: ps)) :
    Makes (l :: ls) R :=
  h.cons (hl ▸ trivial) fun _ ps hp hps => hp.eq_mark hl ▸ hR ps hps

lemma append (h : Makes ls P) (h' : Makes ls' Q) (hR : ∀ ps ps', P ps → Q ps' → R (ps ++ ps')) :
    Makes (ls ++ ls') R := by
  refine ⟨List.forall_mem_append.mpr ⟨h.isSound, h'.isSound⟩, fun ps hps => ?_⟩
  rw [← List.take_append_drop ls.length ps]
  have htake := List.forall₂_take ls.length hps
  have hdrop := List.forall₂_drop ls.length hps
  rw [List.take_left] at htake
  rw [List.drop_left] at hdrop
  exact hR _ _ (h.of_shows htake) (h'.of_shows hdrop)

end Makes

/-! ### Rows -/

def IsValue (ps : List Piece) : Prop := ∃ v : Value, v.pieces = ps

def IsMember (ps : List Piece) : Prop :=
  ∃ (q : Quotation) (v : Value), .scalar (.text q) :: .mark .colon :: v.pieces = ps

/-- Pieces with commas between them.  Unless the first one comes first, there is a comma before it,
too. -/
def row : (first : Bool) → List (List Piece) → List Piece
  | true, pss => Piece.separated pss
  | false, pss => pss.flatMap (.mark .comma :: ·)

/-- A row of things that are `P`. -/
def IsRow (P : List Piece → Prop) (first : Bool) (ps : List Piece) : Prop :=
  ∃ pss, (∀ ps ∈ pss, P ps) ∧ ps = row first pss

lemma isRow_nil (P : List Piece → Prop) (first : Bool) : IsRow P first [] :=
  ⟨[], List.forall_mem_nil _, by cases first <;> rfl⟩

lemma IsRow.cons_first {ps' : List Piece} (h' : IsRow P false ps') (h : P ps) :
    IsRow P true (ps ++ ps') := by
  obtain ⟨pss, hpss, rfl⟩ := h'
  exact ⟨ps :: pss, List.forall_mem_cons.mpr ⟨h, hpss⟩, rfl⟩

lemma IsRow.cons_comma {ps' : List Piece} (h' : IsRow P false ps') (h : P ps) :
    IsRow P false (.mark .comma :: (ps ++ ps')) := by
  obtain ⟨pss, hpss, rfl⟩ := h'
  exact ⟨ps :: pss, List.forall_mem_cons.mpr ⟨h, hpss⟩, rfl⟩

/-- What stands before something in a row. -/
inductive Leads : (first : Bool) → List Lexeme → Prop
  | first : Leads true []
  | comma {l : Lexeme} (hl : l.kind = .mark .comma) : Leads false [l]

lemma Leads.makes_row {front used used' : List Lexeme} (hfront : Leads first front)
    (h : Makes used P) (h' : Makes used' (IsRow P false)) :
    Makes (front ++ (used ++ used')) (IsRow P first) := by
  cases hfront with
  | first => exact h.append h' fun _ _ hps hps' => hps'.cons_first hps
  | comma hl =>
    have hboth : Makes (used ++ used') fun ps => IsRow P false (.mark .comma :: ps) :=
      h.append h' fun _ _ hps hps' => hps'.cons_comma hps
    exact hboth.mark hl fun _ hps => hps

lemma isValue_list (h : IsRow IsValue true ps) :
    IsValue (.mark .openList :: (ps ++ [.mark .closeList])) := by
  obtain ⟨pss, hpss, rfl⟩ := h
  obtain ⟨items, rfl⟩ : pss ∈ Set.range (List.map Value.pieces) := by
    rw [Set.range_list_map]
    exact hpss
  exact ⟨.list items, by rw [Value.pieces, Value.itemPieces_eq]; rfl⟩

lemma isValue_object (h : IsRow IsMember true ps) :
    IsValue (.mark .openObject :: (ps ++ [.mark .closeObject])) := by
  obtain ⟨pss, hpss, rfl⟩ := h
  obtain ⟨members, rfl⟩ : pss ∈ Set.range (List.map fun m : Quotation × Value =>
      Piece.scalar (.text m.1) :: .mark .colon :: m.2.pieces) := by
    rw [Set.range_list_map]
    intro ps hps
    obtain ⟨q, v, rfl⟩ := hpss ps hps
    exact ⟨(q, v), rfl⟩
  exact ⟨.object members, by rw [Value.pieces, Value.memberPieces_eq]; rfl⟩

end Makes

end Garage.Json
