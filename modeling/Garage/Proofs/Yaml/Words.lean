/-
# Words

How scalars are scanned that are a word: letters and digits, and nothing in between.
-/
import Mathlib.Tactic.Common
import Garage.Proofs.Numerals
import Garage.Proofs.Spelling
import Garage.Proofs.Yaml.Scanning

namespace Garage.Yaml

variable {c : Char} {word rest : List Char} {mark : Mark}

/-- Letters and digits. -/
def IsWord (cs : List Char) : Prop := ∀ c ∈ cs, c.isAlphanum = true

lemma isWord_number (n : Nat) : IsWord (Json.number n) := by
  intro x hx
  rw [Char.isAlphanum, Json.isDigit_of_mem_number hx, Bool.or_true]

lemma isWord_name {name : String} (h : IsPlainName name) : IsWord name.toList := fun x hx => by
  rw [Char.isAlphanum, h.isAlpha x hx, Bool.true_or]

/-! ### Places behind a word -/

/-- The place behind a text without line breaks. -/
def Mark.passAll (mark : Mark) (cs : List Char) : Mark := cs.foldl Mark.pass mark

lemma Mark.passAll_cons (mark : Mark) (c : Char) (cs : List Char) :
    mark.passAll (c :: cs) = (mark.pass c).passAll cs := rfl

lemma Mark.passAll_line (mark : Mark) (cs : List Char) : (mark.passAll cs).line = mark.line := by
  induction cs generalizing mark with
  | nil => rfl
  | cons c cs ih => rw [passAll_cons, ih, pass]

lemma Mark.passAll_column (mark : Mark) (cs : List Char) :
    (mark.passAll cs).column = mark.column + cs.length := by
  induction cs generalizing mark with
  | nil => rfl
  | cons c cs ih =>
    have hpass : (mark.pass c).column = mark.column + 1 := rfl
    rw [passAll_cons, ih, hpass, List.length_cons]
    omega

/-- No character has more than four bytes. -/
lemma Mark.passAll_index_le (mark : Mark) (cs : List Char) :
    (mark.passAll cs).index ≤ mark.index + 4 * cs.length := by
  induction cs generalizing mark with
  | nil => exact Nat.le_refl _
  | cons c cs ih =>
    have hle := ih (mark.pass c)
    have hsize := c.utf8Size_le_four
    have hpass : (mark.pass c).index = mark.index + c.utf8Size := rfl
    rw [passAll_cons, List.length_cons]
    omega

/-! ### Characters of a word -/

lemma ne_of_isAlphanum {d : Char} (hc : c.isAlphanum = true) (hd : d.isAlphanum = false) :
    c ≠ d := by
  rintro rfl
  rw [hc] at hd
  cases hd

lemma isBlank_of_isAlphanum (hc : c.isAlphanum = true) : isBlank c = false := by
  simp [isBlank, ne_of_isAlphanum hc (d := ' ') rfl, ne_of_isAlphanum hc (d := '\t') rfl]

lemma isBreak_of_isAlphanum (hc : c.isAlphanum = true) : isBreak c = false := by
  simp [isBreak, ne_of_isAlphanum hc (d := '\n') rfl, ne_of_isAlphanum hc (d := '\r') rfl,
    ne_of_isAlphanum hc (d := '\x85') rfl, ne_of_isAlphanum hc (d := '\u2028') rfl,
    ne_of_isAlphanum hc (d := '\u2029') rfl]

lemma isFlowMark_of_isAlphanum (hc : c.isAlphanum = true) : isFlowMark c = false := by
  simp [isFlowMark, ne_of_isAlphanum hc (d := ',') rfl, ne_of_isAlphanum hc (d := '[') rfl,
    ne_of_isAlphanum hc (d := ']') rfl, ne_of_isAlphanum hc (d := '{') rfl,
    ne_of_isAlphanum hc (d := '}') rfl]

lemma atDocumentMark_eq_false (hhyphen : c ≠ '-') (hdot : c ≠ '.') (cs : List Char) :
    atDocumentMark (c :: cs) = false := by
  unfold atDocumentMark
  split
  case h_1 a b d rest heq =>
    obtain ⟨rfl, -⟩ := List.cons.inj heq
    simp [hhyphen, hdot]
  case h_2 => rfl

lemma atDocumentMark_of_isAlphanum (hc : c.isAlphanum = true) (cs : List Char) :
    atDocumentMark (c :: cs) = false :=
  atDocumentMark_eq_false (ne_of_isAlphanum hc rfl) (ne_of_isAlphanum hc rfl) cs

lemma toNat_of_isAlphanum (hc : c.isAlphanum = true) : 0x20 ≤ c.toNat ∧ c.toNat ≤ 0x7E := by
  delta Char.isAlphanum Char.isAlpha Char.isUpper Char.isLower Char.isDigit at hc
  simp only [Bool.or_eq_true, Bool.and_eq_true, decide_eq_true_eq, ge_iff_le,
    UInt32.le_iff_toNat_le, Char.reduceVal, UInt32.reduceToNat, Char.toNat_val] at hc
  omega

lemma eq_of_isFlowMark (hc : isFlowMark c = true) :
    c = ',' ∨ c = '[' ∨ c = ']' ∨ c = '{' ∨ c = '}' := by
  simpa [isFlowMark] using hc

lemma isAllowed_of_isAlphanum (hc : c.isAlphanum = true) : isAllowed c = true := by
  simp [isAllowed, toNat_of_isAlphanum hc]

lemma startsPlain_of_isAlphanum (hc : c.isAlphanum = true) (inFlow : Bool) (cs : List Char) :
    Lexer.startsPlain inFlow c cs = true := by
  have hmark : "#,[]\x7b\x7d&*!|>'\"%@`".toList.contains c = false := by
    rw [← Bool.not_eq_true, List.contains_iff_mem]
    intro hmem
    have hall : "#,[]\x7b\x7d&*!|>'\"%@`".toList.all (fun d => !d.isAlphanum) = true := by decide
    simpa [hc] using List.all_eq_true.mp hall c hmem
  have hquestion : c ≠ '?' := ne_of_isAlphanum hc rfl
  have hcolon : c ≠ ':' := ne_of_isAlphanum hc rfl
  rw [Lexer.startsPlain, if_neg (ne_of_isAlphanum hc rfl), isBlank_of_isAlphanum hc, hmark]
  simp [hquestion, hcolon]

lemma solid_of_isAlphanum (hc : c.isAlphanum = true) (cs : List Char) : Lexer.Solid (c :: cs) :=
  Lexer.solid_cons ⟨isBlank_of_isAlphanum hc, isBreak_of_isAlphanum hc, ne_of_isAlphanum hc rfl,
    ne_of_isAlphanum hc rfl⟩ cs

lemma IsWord.solid (hword : IsWord word) (hne : word ≠ []) (cs : List Char) :
    Lexer.Solid (word ++ cs) := by
  obtain ⟨c, word, rfl⟩ := List.exists_cons_of_ne_nil hne
  exact solid_of_isAlphanum (hword c List.mem_cons_self) _

/-! ### Texts without forbidden characters -/

/-- No character of the text is forbidden. -/
def AllAllowed (cs : List Char) : Prop := ∀ c ∈ cs, isAllowed c = true

instance (cs : List Char) : Decidable (AllAllowed cs) :=
  decidable_of_iff (cs.all isAllowed = true) List.all_eq_true

lemma AllAllowed.append {cs cs' : List Char} (h : AllAllowed cs) (h' : AllAllowed cs') :
    AllAllowed (cs ++ cs') := fun c hc => (List.mem_append.mp hc).elim (h c) (h' c)

lemma AllAllowed.cons {cs : List Char} (hc : isAllowed c = true) (h : AllAllowed cs) :
    AllAllowed (c :: cs) := List.forall_mem_cons.mpr ⟨hc, h⟩

lemma AllAllowed.flatMap {α : Type} {f : α → List Char} {as : List α}
    (h : ∀ a ∈ as, AllAllowed (f a)) : AllAllowed (as.flatMap f) := by
  intro c hc
  obtain ⟨a, ha, hc⟩ := List.mem_flatMap.mp hc
  exact h a ha c hc

lemma IsWord.allAllowed (hword : IsWord word) : AllAllowed word :=
  fun c hc => isAllowed_of_isAlphanum (hword c hc)

/-! ### Plain words -/

namespace PlainContext

variable {k : PlainContext}

lemma scan_cons (hc : c.isAlphanum = true) (mark stop : Mark) (rest : List Char) :
    k.scan .none mark stop (c :: rest) =
      (k.scan .none (mark.pass c) (mark.pass c) rest).map
        fun s => { s with text := c :: s.text } := by
  rw [scan.eq_def]
  simp [isBlank_of_isAlphanum hc, isBreak_of_isAlphanum hc, isStrayColon, endsAt,
    isFlowMark_of_isAlphanum hc, ne_of_isAlphanum hc (d := ':') rfl, Gap.text]

/-- A word and what ends it. -/
lemma scan_word {s : PlainScalar} (hword : IsWord word)
    (h : k.scan .none (mark.passAll word) (mark.passAll word) rest = .ok s) :
    k.scan .none mark mark (word ++ rest) = .ok { s with text := word ++ s.text } := by
  induction word generalizing mark with
  | nil => exact h
  | cons c word ih =>
    rw [List.cons_append, scan_cons (hword c List.mem_cons_self),
      ih (fun d hd => hword d (List.mem_cons_of_mem _ hd)) h]
    rfl

lemma scan_colon (hflow : k.inFlow = false) (hrest : atBlankOrEnd rest = true) (mark stop : Mark) :
    k.scan .none mark stop (':' :: rest) = .ok ⟨[], stop, ⟨mark, ':' :: rest⟩, false⟩ := by
  rw [scan.eq_def]
  simp [isBlank, isBreak, isStrayColon, endsAt, hflow, hrest, Gap.isBroken]

lemma scan_flowMark (hflow : k.inFlow = true) (hc : isFlowMark c = true) (mark stop : Mark)
    (rest : List Char) :
    k.scan .none mark stop (c :: rest) = .ok ⟨[], stop, ⟨mark, c :: rest⟩, false⟩ := by
  obtain ⟨hblank, hbreak, hcolon⟩ : isBlank c = false ∧ isBreak c = false ∧ c ≠ ':' := by
    rcases eq_of_isFlowMark hc with rfl | rfl | rfl | rfl | rfl <;> decide
  rw [scan.eq_def]
  simp [hblank, hbreak, hcolon, isStrayColon, endsAt, hflow, hc, Gap.isBroken]

/-- The beginning of a line that is not indented far enough. -/
lemma scan_indent (hflow : k.inFlow = false) (first more : List Char) {n : Nat}
    (hlt : mark.column + n < k.column) (hsolid : Lexer.Solid rest) (stop : Mark) :
    ∃ next : Cursor, next.rest = rest ∧ next.mark.column = mark.column + n ∧
      next.mark.line = mark.line ∧
      k.scan (.breaks first more) mark stop (List.replicate n ' ' ++ rest) =
        .ok ⟨[], stop, next, true⟩ := by
  induction n generalizing mark with
  | zero =>
    refine ⟨⟨mark, rest⟩, rfl, rfl, rfl, ?_⟩
    cases rest with
    | nil => rfl
    | cons c rest =>
      obtain ⟨hblank, hbreak, -, -⟩ := hsolid c rfl
      have hends : k.endsBefore mark (c :: rest) = true := by
        have hlt' : mark.column < k.column := hlt
        simp [endsBefore, hflow, hlt']
      rw [List.replicate_zero, List.nil_append, scan.eq_def]
      simp [hblank, hbreak, hends, Gap.isBroken]
  | succ n ih =>
    have hpass : (mark.advance 1).column = mark.column + 1 := rfl
    have hlt' : (mark.advance 1).column + n < k.column := by omega
    obtain ⟨next, hrest, hcolumn, hline, hscan⟩ := ih hlt'
    refine ⟨next, hrest, by omega, hline, ?_⟩
    rw [List.replicate_succ, List.cons_append, scan.eq_def]
    simpa [isBlank, Gap.addBlank] using hscan

lemma scan_break (hflow : k.inFlow = false) {n : Nat} (hlt : n < k.column)
    (hsolid : Lexer.Solid rest) (mark stop : Mark) :
    ∃ next : Cursor, next.rest = rest ∧ next.mark.column = n ∧ next.mark.line = mark.line + 1 ∧
      k.scan .none mark stop ('\n' :: List.replicate n ' ' ++ rest) =
        .ok ⟨[], stop, next, true⟩ := by
  have hlt' : (mark.nextLine 1).column + n < k.column := by rwa [Mark.nextLine, Nat.zero_add]
  obtain ⟨next, hrest, hcolumn, hline, hscan⟩ := scan_indent hflow ['\n'] [] hlt' hsolid stop
  rw [Mark.nextLine, Nat.zero_add] at hcolumn
  refine ⟨next, hrest, hcolumn, hline, ?_⟩
  have hsize : '\n'.utf8Size = 1 := rfl
  rw [List.cons_append, scan.eq_def]
  simpa [isBlank, isBreak, Gap.addBreak, breakChar, hsize] using hscan

end PlainContext

/-- The cursor is at a word, and the scalar ends behind it. -/
lemma scanPlain_word {inFlow isBroken : Bool} {column : Nat} {cursor next : Cursor} {stop : Mark}
    (hword : IsWord word) (hrest : cursor.rest = word ++ rest)
    (h : (PlainContext.mk inFlow column cursor.mark).scan .none (cursor.mark.passAll word)
      (cursor.mark.passAll word) rest = .ok ⟨[], stop, next, isBroken⟩) :
    scanPlain inFlow column cursor = .ok ⟨word, stop, next, isBroken⟩ := by
  rw [scanPlain, hrest, PlainContext.scan_word hword h, List.append_nil]

/-! ### Quoted words -/

namespace QuotedContext

lemma scan_cons (hc : c.isAlphanum = true) (start mark : Mark) (rest : List Char) :
    (QuotedContext.mk '"' start).scan .none mark (c :: rest) =
      ((QuotedContext.mk '"' start).scan .none (mark.pass c) rest).map
        fun r => (c :: r.1, r.2) := by
  rw [scan.eq_def]
  simp [isBlank_of_isAlphanum hc, isBreak_of_isAlphanum hc, atDocumentMark_of_isAlphanum hc,
    ne_of_isAlphanum hc (d := '"') rfl, ne_of_isAlphanum hc (d := '\\') rfl, Gap.text]

lemma scan_quote (start mark : Mark) (rest : List Char) :
    (QuotedContext.mk '"' start).scan .none mark ('"' :: rest) =
      .ok ([], ⟨mark.advance 1, rest⟩) := by
  rw [scan.eq_def]
  simp [isBlank, isBreak, atDocumentMark_eq_false, hasEscapes, Gap.text]

lemma scan_word (hword : IsWord word) (start mark : Mark) (rest : List Char) :
    (QuotedContext.mk '"' start).scan .none mark (word ++ '"' :: rest) =
      .ok (word, ⟨(mark.passAll word).advance 1, rest⟩) := by
  induction word generalizing mark with
  | nil => exact scan_quote start mark rest
  | cons c word ih =>
    rw [List.cons_append, scan_cons (hword c List.mem_cons_self),
      ih fun d hd => hword d (List.mem_cons_of_mem _ hd)]
    rfl

end QuotedContext

end Garage.Yaml
