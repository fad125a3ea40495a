/-
# Tokens that the YAML lexer takes

`Takes s s'` says that the lexer takes a token at one place and stands at the other place behind it;
what lies in front of the next token it has still to pass over.
-/
import Garage.Proofs.Yaml.Words

namespace Garage.Yaml

open Lexer

namespace Place

variable {s : Place}

/-- Where a key may begin, something else may stand as well. -/
def KeyOptional (s : Place) : Prop :=
  s.keyAllowed = true → s.depth = 0 → s.indents.head? ≠ some s.column

lemma keyOptional_of_not_allowed (h : s.keyAllowed = false) : s.KeyOptional := fun hallowed => by
  rw [h] at hallowed
  cases hallowed

/-- The place behind a token in the same line. -/
def pass (s : Place) (width : Nat) (rest : List Char) (kind : TokenKind) : Place :=
  { s with
    rest := rest
    column := s.column + width
    keyAllowed := false
    kinds := s.kinds ++ [kind] }

end Place

variable {s s' s'' : Place} {l p : Lexer} {c : Char} {rest : List Char} {kind : TokenKind}

/-- In front of the one place a token is taken, or a few, and the lexer stands at the other. -/
def Takes (s s' : Place) : Prop :=
  ∀ l : Lexer, l.Faces s → ∀ s'', (∀ m : Lexer, m.Stands s' → m.Reaches s'') → l.Reaches s''

namespace Takes

lemma of_takeToken (hlt : s'.rest.length < s.rest.length)
    (h : ∀ p : Lexer, p.StandsBefore s → ∃ m, p.takeToken = .ok m ∧ m.Stands s') : Takes s s' := by
  intro l hl s'' hreaches
  obtain ⟨m, htoken, hm⟩ := h _ hl.standsBefore
  have hrest : m.cursor.rest = s'.rest := congrArg Place.rest hm.place
  refine reaches_of_takeToken hl.isDone hl.noneLost hl.noneLost_skip htoken ?_ (hreaches m hm)
  rw [hrest]
  exact Nat.lt_of_lt_of_le hlt hl.length_le

lemma leads (h : Takes s s') (hfaces : ∀ l : Lexer, l.Stands s' → l.Faces s'') : Leads s s'' :=
  fun l hl => h l hl s'' fun m hm => (hfaces m hm).reaches

/-- The next token follows at once. -/
lemma leads_closed (h : Takes s s') (hsolid : Solid s'.rest) : Leads s s'.closed :=
  h.leads fun _ hl => hl.faces_of_solid hsolid

lemma leads_of_solid (h : Takes s s') (hsolid : Solid s'.rest) (hholds : s'.Holds) :
    Leads s s' := by
  rw [← hholds.closed_eq]
  exact h.leads_closed hsolid

lemma leads_of_space (h : Takes s s') (hrest : s'.rest = ' ' :: rest) (hsolid : Solid rest)
    (hholds : s'.Holds) : Leads s { s' with rest := rest, column := s'.column + 1 } := by
  have hclosed : Place.Holds { s' with rest := rest, column := s'.column + 1 } :=
    fun hdepth x hx => Nat.le_succ_of_le (hholds hdepth x hx)
  rw [← hclosed.closed_eq]
  exact h.leads fun _ hl => hl.faces_of_space hrest hsolid

lemma leads_of_break {n : Nat} (h : Takes s s')
    (hrest : s'.rest = '\n' :: List.replicate n ' ' ++ rest) (hdepth : s'.depth = 0)
    (hsolid : Solid rest) :
    Leads s { s' with rest := rest, column := n, keyAllowed := true }.closed :=
  h.leads fun _ hl => hl.faces_of_break hrest hdepth hsolid

end Takes

/-- From behind the one place, where blanks may follow, the lexer comes to the other. -/
def Goes (s s' : Place) : Prop := ∀ l : Lexer, l.Stands s → l.Reaches s'

namespace Goes

lemma of_space (hrest : s.rest = ' ' :: rest) (hsolid : Solid rest) (hholds : s.Holds)
    (h : Leads { s with rest := rest, column := s.column + 1 } s') : Goes s s' := by
  have hholds' : Place.Holds { s with rest := rest, column := s.column + 1 } :=
    fun hdepth x hx => Nat.le_succ_of_le (hholds hdepth x hx)
  rw [← hholds'.closed_eq] at h
  exact fun l hl => h l (hl.faces_of_space hrest hsolid)

lemma of_break {n : Nat} (hrest : s.rest = '\n' :: List.replicate n ' ' ++ rest)
    (hdepth : s.depth = 0) (hsolid : Solid rest)
    (h : Leads { s with rest := rest, column := n, keyAllowed := true }.closed s') : Goes s s' :=
  fun l hl => h l (hl.faces_of_break hrest hdepth hsolid)

end Goes

lemma Takes.goes (h : Takes s s') (h' : Goes s' s'') : Leads s s'' := fun l hl => h l hl s'' h'

/-! ### Tokens that are added -/

lemma stands_pushTo (h : p.AllOptional) (hkind : kind ≠ .streamEnd) (stop : Mark) (next : Cursor) :
    (p.pushTo kind stop next).Stands
      { p.place with
        rest := next.rest
        column := next.mark.column
        kinds := p.place.kinds ++ [kind] } := by
  refine ⟨?_, h, ?_⟩
  · simp [place, pushTo, push, mark]
  · simpa [isDone, pushTo, push] using hkind

lemma stands_take (h : p.AllOptional) (hkind : kind ≠ .streamEnd)
    (hrest : p.cursor.rest = c :: rest) : (p.take kind 1).Stands
      { p.place with
        rest := rest
        column := p.place.column + 1
        kinds := p.place.kinds ++ [kind] } := by
  have hadvance : p.cursor.advance 1 = ⟨p.mark.pass c, rest⟩ := by
    rw [Cursor.advance, hrest]
    rfl
  rw [Lexer.take, hadvance]
  exact stands_pushTo h hkind _ _

/-! ### Marks -/

/-- The brackets that open a list or a record. -/
inductive Opens : Char → TokenKind → Prop
  | list : Opens '[' .flowSequenceStart
  | record : Opens '{' .flowMappingStart

/-- The brackets that close a list or a record. -/
inductive Closes : Char → TokenKind → Prop
  | list : Closes ']' .flowSequenceEnd
  | record : Closes '}' .flowMappingEnd

/-! ### Keys -/

lemma noteKey_optional (h : p.Stands s) (hkey : s.KeyOptional) :
    ∃ key, p.noteKey = .ok { p with key := key } ∧ { p with key := key }.AllOptional := by
  obtain ⟨rfl, hoptional, -⟩ := h
  refine ⟨_, noteKey_eq hoptional, fun k hk => ?_⟩
  rcases List.mem_cons.mp hk with hk | hk
  · cases hallowed : p.keyAllowed with
    | false =>
      rw [hallowed] at hk
      exact hoptional k (List.mem_cons.mpr (.inl hk))
    | true =>
      rw [hallowed] at hk
      obtain rfl := Option.some.inj hk
      cases hflow : p.inFlow with
      | true => simp [keyHere, hflow]
      | false =>
        have hne : p.indents.head? ≠ some p.mark.column :=
          hkey hallowed (inFlow_eq_false_iff.mp hflow)
        simpa [keyHere, hflow] using hne
  · exact hoptional k (List.mem_cons_of_mem _ hk)

lemma Lexer.AllOptional.withoutKey (h : p.AllOptional) (keyAllowed : Bool) :
    { p with key := none, keyAllowed := keyAllowed }.AllOptional := by
  intro k hk
  exact h k (List.mem_cons_of_mem _ (by simpa using hk))

lemma takes_opening (hc : Opens c kind) (hrest : s.rest = c :: rest) (hkey : s.KeyOptional) :
    Takes s { s.pass 1 rest kind with depth := s.depth + 1, keyAllowed := true } := by
  refine .of_takeToken (by rw [hrest]; exact Nat.lt_succ_self _) fun p hp => ?_
  obtain ⟨key, hnote, hoptional⟩ := noteKey_optional hp.toStands hkey
  obtain ⟨⟨rfl, -, -⟩, hclosed⟩ := hp
  have hrest' : p.cursor.rest = c :: rest := hrest
  have htoken : p.takeToken = p.takeOpening kind := by
    unfold takeToken
    simp only [hclosed, hrest']
    cases hc <;> simp [atDocumentMark_eq_false]
  have hoptional' :
      { p with key := none, outer := key :: p.outer, keyAllowed := true }.AllOptional := by
    intro k hk
    exact hoptional k (by simpa using hk)
  rw [htoken, takeOpening, hnote]
  exact ⟨_, rfl, stands_take hoptional' (by cases hc <;> rintro ⟨⟩) hrest'⟩

lemma takes_closing (hc : Closes c kind) (hrest : s.rest = c :: rest) {depth : Nat}
    (hdepth : s.depth = depth + 1) : Takes s { s.pass 1 rest kind with depth := depth } := by
  refine .of_takeToken (by rw [hrest]; exact Nat.lt_succ_self _) fun p hp => ?_
  obtain ⟨⟨rfl, hoptional, -⟩, hclosed⟩ := hp
  have hrest' : p.cursor.rest = c :: rest := hrest
  have htoken : p.takeToken = p.takeClosing kind := by
    unfold takeToken
    simp only [hclosed, hrest']
    cases hc <;> simp [atDocumentMark_eq_false]
  obtain ⟨key, outer, houter⟩ := List.exists_cons_of_length_eq_add_one hdepth
  have hoptional' : { p with key := key, outer := outer, keyAllowed := false }.AllOptional := by
    intro k hk
    refine hoptional k (List.mem_cons_of_mem _ ?_)
    rwa [houter]
  obtain rfl : outer.length = depth := by
    have : p.outer.length = depth + 1 := hdepth
    rw [houter] at this
    exact Nat.succ.inj this
  rw [htoken, takeClosing, forgetKey_eq hoptional]
  simp only [bind, Except.bind, houter]
  exact ⟨_, rfl, stands_take hoptional' (by cases hc <;> rintro ⟨⟩) hrest'⟩

lemma takes_comma (hrest : s.rest = ',' :: rest) :
    Takes s { s.pass 1 rest .flowEntry with keyAllowed := true } := by
  refine .of_takeToken (by rw [hrest]; exact Nat.lt_succ_self _) fun p hp => ?_
  obtain ⟨⟨rfl, hoptional, -⟩, hclosed⟩ := hp
  have hrest' : p.cursor.rest = ',' :: rest := hrest
  have htoken : p.takeToken = p.takeComma := by
    unfold takeToken
    simp only [hclosed, hrest']
    simp [atDocumentMark_eq_false]
  rw [htoken, takeComma, forgetKey_eq hoptional]
  exact ⟨_, rfl, stands_take (hoptional.withoutKey true) (by rintro ⟨⟩) hrest'⟩

/-- The hyphen before an item of a list that stands as far to the left as its name. -/
lemma takes_hyphen (hrest : s.rest = '-' :: ' ' :: rest) (hdepth : s.depth = 0)
    (hallowed : s.keyAllowed = true) (hindent : s.indents.head? = some s.column) :
    Takes s { s.pass 1 (' ' :: rest) .blockEntry with keyAllowed := true } := by
  refine .of_takeToken (by rw [hrest]; exact Nat.lt_succ_self _) fun p hp => ?_
  obtain ⟨⟨rfl, hoptional, -⟩, hclosed⟩ := hp
  have hrest' : p.cursor.rest = '-' :: ' ' :: rest := hrest
  have hindent' : p.indents.head? = some p.mark.column := hindent
  have hallowed' : p.keyAllowed = true := hallowed
  have hmark : atDocumentMark ('-' :: ' ' :: rest) = false := by
    cases rest <;> simp [atDocumentMark]
  have htoken : p.takeToken = p.takeHyphen := by
    unfold takeToken
    simp only [hclosed, hrest']
    simp [hmark, atBlankOrEnd, endsOr, isBlank]
  have hopen : p.openBlock .blockSequenceStart p.count p.mark = p := by
    simp [openBlock, hindent']
  rw [htoken, takeHyphen, if_neg (by simp [hallowed'])]
  simp only [hopen, forgetKey_eq hoptional]
  exact ⟨_, rfl, stands_take (hoptional.withoutKey true) (by rintro ⟨⟩) hrest'⟩

/-! ### Words -/

section Word

variable {word : List Char}

lemma takeToken_word (hclosed : p.closeBlocks (· ≤ p.mark.column) = p) (hword : IsWord word)
    (hne : word ≠ []) (hrest : p.cursor.rest = word ++ rest) : p.takeToken = p.takePlain := by
  obtain ⟨c, word, rfl⟩ := List.exists_cons_of_ne_nil hne
  have hc : c.isAlphanum = true := hword c List.mem_cons_self
  rw [List.cons_append] at hrest
  have hmark : ∀ d : Char, d.isAlphanum = false → (c = d) = False :=
    fun d hd => eq_false (ne_of_isAlphanum hc hd)
  unfold takeToken
  simp only [hclosed, hrest, atDocumentMark_of_isAlphanum hc, startsPlain_of_isAlphanum hc,
    hmark '%' rfl, hmark '-' rfl, hmark '?' rfl, hmark ':' rfl, hmark '|' rfl, hmark '>' rfl]
  simp only [and_false, false_and, or_false, if_false, if_true, Bool.false_eq_true]
  split
  case h_11 => rfl
  all_goals exact absurd hc (by decide)

lemma takePlain_eq {key : Option KeyStart} {r : PlainScalar}
    (hnote : p.noteKey = .ok { p with key := key })
    (hscan : scanPlain p.inFlow p.column p.cursor = .ok r) :
    p.takePlain = .ok ({ p with key := key, keyAllowed := r.isBroken }.pushTo
      (.scalar .plain r.text) r.stop r.next) := by
  have hscan' : scanPlain { p with key := key }.inFlow { p with key := key }.column p.cursor =
      .ok r := hscan
  rw [takePlain, hnote]
  simp only [bind, Except.bind, hscan']
  rfl

/-- A word between brackets. -/
lemma takes_word_flow (hword : IsWord word) (hne : word ≠ []) (hrest : s.rest = word ++ c :: rest)
    (hc : isFlowMark c = true) (hdepth : 0 < s.depth) :
    Takes s (s.pass word.length (c :: rest) (.scalar .plain word)) := by
  have hpos : 0 < word.length := List.length_pos_iff.mpr hne
  refine .of_takeToken (by rw [hrest]; simp [Place.pass]; omega) fun p hp => ?_
  obtain ⟨key, hnote, hoptional⟩ := noteKey_optional hp.toStands fun _ hzero => by omega
  obtain ⟨⟨rfl, -, -⟩, hclosed⟩ := hp
  have hrest' : p.cursor.rest = word ++ c :: rest := hrest
  have hflow : p.inFlow = true := inFlow_eq_true hdepth
  have hscan : scanPlain p.inFlow p.column p.cursor =
      .ok ⟨word, p.mark.passAll word, ⟨p.mark.passAll word, c :: rest⟩, false⟩ := by
    rw [hflow]
    exact scanPlain_word hword hrest' (PlainContext.scan_flowMark rfl hc _ _ rest)
  rw [takeToken_word hclosed hword hne hrest', takePlain_eq hnote hscan]
  refine ⟨_, rfl, ?_⟩
  have hkind : TokenKind.scalar .plain word ≠ .streamEnd := by rintro ⟨⟩
  have hstands := stands_pushTo (p := { p with key := key, keyAllowed := false }) hoptional hkind
    (p.mark.passAll word) ⟨p.mark.passAll word, c :: rest⟩
  rw [Mark.passAll_column] at hstands
  exact hstands

/-- A word that ends a line; the next line is not indented far enough to go on with it. -/
lemma takes_word_break {n x : Nat} (hword : IsWord word) (hne : word ≠ [])
    (hrest : s.rest = word ++ '\n' :: List.replicate n ' ' ++ rest) (hsolid : Solid rest)
    (hdepth : s.depth = 0) (hindent : s.indents.head? = some x) (hle : n ≤ x)
    (hkey : s.KeyOptional) :
    Takes s
      { s with
        rest := rest
        column := n
        keyAllowed := true
        kinds := s.kinds ++ [.scalar .plain word] } := by
  refine .of_takeToken (by rw [hrest]; simp; omega) fun p hp => ?_
  obtain ⟨key, hnote, hoptional⟩ := noteKey_optional hp.toStands hkey
  obtain ⟨⟨rfl, -, -⟩, hclosed⟩ := hp
  have hrest' : p.cursor.rest = word ++ ('\n' :: List.replicate n ' ' ++ rest) := by
    rw [← List.append_assoc]
    exact hrest
  have hflow : p.inFlow = false := inFlow_eq_false_iff.mpr hdepth
  have hcolumn : n < p.column := by
    have hindent' : p.indents.head? = some x := hindent
    rw [column, hindent']
    exact Nat.lt_succ_of_le hle
  obtain ⟨next, rfl, rfl, -, hend⟩ := PlainContext.scan_break
    (k := ⟨false, p.column, p.mark⟩) rfl hcolumn hsolid (p.mark.passAll word) (p.mark.passAll word)
  have hscan : scanPlain p.inFlow p.column p.cursor =
      .ok ⟨word, p.mark.passAll word, next, true⟩ := by
    rw [hflow]
    exact scanPlain_word hword hrest' hend
  rw [takeToken_word hclosed hword hne hrest', takePlain_eq hnote hscan]
  refine ⟨_, rfl, ?_⟩
  exact stands_pushTo (p := { p with key := key, keyAllowed := true }) hoptional (by rintro ⟨⟩)
    _ next

/-! ### Names -/

/-- A key in a column begins a record, as it is further right than the innermost one. -/
def opensRecord (depth : Nat) (indents : List Nat) (column : Nat) : Bool :=
  decide (depth = 0) && !indents.head?.any (column ≤ ·)

/-- The place inside the record that a key there begins, if it begins one. -/
def Place.opened (s : Place) : Place :=
  let opens := opensRecord s.depth s.indents s.column
  { s with
    indents := if opens then s.column :: s.indents else s.indents
    kinds := if opens then s.kinds ++ [.blockMappingStart] else s.kinds }

/-- The place behind a name and its colon. -/
def Place.named (s : Place) (width : Nat) (rest : List Char) (kind : TokenKind) : Place :=
  { s.opened with
    rest := rest
    column := s.column + width
    keyAllowed := false
    kinds := s.opened.kinds ++ [.key, kind, .value] }

lemma openBlock_of_opens {mark : Mark} (h : opensRecord l.outer.length l.indents mark.column = true)
    (kind : TokenKind) (number : Nat) :
    l.openBlock kind number mark =
      { l.insert number ⟨kind, mark, mark⟩ with indents := mark.column :: l.indents } := by
  rw [openBlock, inFlow_eq, if_neg]
  simpa [opensRecord, place] using h

lemma openBlock_of_not_opens {mark : Mark}
    (h : opensRecord l.outer.length l.indents mark.column = false) (kind : TokenKind)
    (number : Nat) : l.openBlock kind number mark = l := by
  rw [openBlock, inFlow_eq, if_pos]
  simpa [opensRecord, place, or_iff_not_imp_left] using h

lemma takeToken_colon (hclosed : p.closeBlocks (· ≤ p.mark.column) = p)
    (hrest : p.cursor.rest = ':' :: rest) (hcolon : 0 < p.place.depth ∨ atBlankOrEnd rest = true) :
    p.takeToken = p.takeColon := by
  have hcolon' : p.inFlow = true ∨ atBlankOrEnd rest = true :=
    hcolon.imp_left inFlow_eq_true
  unfold takeToken
  simp only [hclosed, hrest]
  simp [atDocumentMark_eq_false, hcolon']

/-- The lexer has taken a token `t`, behind other tokens `ts`, that is a key if a colon follows. -/
structure EndsKey (m : Lexer) (k : KeyStart) (t : Token) (ts : List Token) : Prop where
  isDone : m.isDone = false
  key : m.key = some k
  isStale : k.isStale m.mark = false
  optional : ∀ k, some k ∈ m.outer → k.isRequired = false
  tokens : m.tokens = t :: ts
  count : m.count = k.number + 1

namespace EndsKey

variable {m : Lexer} {k : KeyStart} {t : Token} {ts : List Token}

lemma noneLost (h : EndsKey m k t ts) : m.NoneLost := by
  rintro k' hk hstale
  rcases List.mem_cons.mp hk with hk | hk
  · obtain rfl := Option.some.inj (hk.trans h.key)
    exact absurd hstale (ne_true_of_eq_false h.isStale)
  · exact h.optional k' hk

lemma fresh (h : EndsKey m k t ts) : EndsKey m.fresh k t ts where
  isDone := h.isDone
  key := by simp [Lexer.fresh, keepFresh, h.key, h.isStale]
  isStale := h.isStale
  optional := fun k' hk => h.optional k' (mem_outer_of_fresh hk)
  tokens := h.tokens
  count := h.count

/-- The colon makes a key of the token before it. -/
lemma takeColon_eq (h : EndsKey m k t ts) (hrest : m.cursor.rest = ':' :: rest) :
    ∃ m', m.takeColon = .ok m' ∧ m'.Stands
      { Place.named { m.place with column := k.mark.column, kinds := ts.reverse.map (·.kind) }
          0 rest t.kind with
        column := m.place.column + 1 } := by
  have hstands : ∀ (tokens : List Token) (count : Nat) (indents : List Nat),
      ({ m with
          tokens := tokens
          count := count
          indents := indents
          key := none
          keyAllowed := false }.take .value 1).Stands
        { m.place with
          rest := rest
          column := m.place.column + 1
          indents := indents
          keyAllowed := false
          kinds := tokens.reverse.map Token.kind ++ [TokenKind.value] } := by
    intro tokens count indents
    refine stands_take (fun k hk => h.optional k ?_) (by rintro ⟨⟩) hrest
    simpa using hk
  obtain ⟨n, hn⟩ : ∃ n : Lexer,
      n = { m with tokens := t :: ⟨.key, k.mark, k.mark⟩ :: ts, count := k.number + 2 } := ⟨_, rfl⟩
  have hinsert : m.insert k.number ⟨.key, k.mark, k.mark⟩ = n := by
    simp [hn, Lexer.insert, h.tokens, h.count]
  rw [takeColon, h.key]
  refine ⟨_, rfl, ?_⟩
  rw [hinsert, Place.named, Place.opened]
  cases hopens : opensRecord m.outer.length m.indents k.mark.column with
  | true =>
    have hopens' : opensRecord n.outer.length n.indents k.mark.column = true := by rwa [hn]
    rw [openBlock_of_opens hopens', hn]
    have := hstands (t :: ⟨.key, k.mark, k.mark⟩ :: ⟨.blockMappingStart, k.mark, k.mark⟩ :: ts)
      (k.number + 3) (k.mark.column :: m.indents)
    simpa [place, hopens, Lexer.insert] using this
  | false =>
    have hopens' : opensRecord n.outer.length n.indents k.mark.column = false := by rwa [hn]
    rw [openBlock_of_not_opens hopens', hn]
    have := hstands (t :: ⟨.key, k.mark, k.mark⟩ :: ts) (k.number + 2) m.indents
    simpa [place, hopens] using this

lemma reaches (h : EndsKey m k t ts) (hrest : m.cursor.rest = ':' :: rest)
    (hcolon : 0 < m.place.depth ∨ atBlankOrEnd rest = true) (hholds : m.place.Holds)
    (hreaches : ∀ m' : Lexer, m'.Stands
      { Place.named { m.place with column := k.mark.column, kinds := ts.reverse.map (·.kind) }
          0 rest t.kind with
        column := m.place.column + 1 } → m'.Reaches s) : m.Reaches s := by
  have hplace : m.fresh.fresh.place = m.place := by rw [fresh_place, fresh_place]
  have hskip : m.fresh.skip = m.fresh := by
    have hrest' : m.fresh.cursor.rest = ':' :: rest := hrest
    exact skip_eq_self (by rw [hrest']; exact solid_cons (by decide) rest)
  have hclosed : m.fresh.fresh.closeBlocks (· ≤ m.fresh.fresh.mark.column) = m.fresh.fresh :=
    closeBlocks_eq_self (by rwa [hplace])
  have hprepared : m.prepared = m.fresh.fresh := by
    rw [prepared, hskip]
    exact hclosed
  obtain ⟨m', htoken, hm'⟩ := h.fresh.fresh.takeColon_eq hrest
  rw [hplace] at hm'
  rw [← takeToken_colon hclosed hrest (by rwa [hplace]), ← hprepared] at htoken
  refine reaches_of_takeToken h.isDone h.noneLost ?_ htoken ?_ (hreaches m' hm')
  · rw [hskip]
    exact h.noneLost.fresh
  · have hrest' : m'.cursor.rest = rest := congrArg Place.rest hm'.place
    rw [hrest', hrest]
    exact Nat.lt_succ_self _

end EndsKey

/-- The token before a colon was a key if it is near enough. -/
lemma takes_named {width : Nat} (hlt : rest.length + 1 < s.rest.length) (hkind : kind ≠ .streamEnd)
    (hcolon : 0 < s.depth ∨ atBlankOrEnd rest = true) (hholds : s.Holds)
    (hname : ∀ p : Lexer, p.StandsBefore s → ∃ (stop : Mark) (next : Cursor),
      p.takeToken =
          .ok ({ p with key := some p.keyHere, keyAllowed := false }.pushTo kind stop next) ∧
        next.rest = ':' :: rest ∧ next.mark.column = p.mark.column + width ∧
        next.mark.line = p.mark.line ∧ next.mark.index ≤ p.mark.index + 1024) :
    Takes s (s.named (width + 1) rest kind) := by
  intro l hl s'' hreaches
  obtain ⟨stop, ⟨mark, _⟩, htoken, rfl, hcolumn, hline, hindex⟩ := hname _ hl.standsBefore
  obtain ⟨hplace, hoptional, hdone⟩ := hl.prepared
  refine reaches_of_takeToken hl.isDone hl.noneLost hl.noneLost_skip htoken
    (Nat.lt_of_lt_of_le hlt hl.length_le) ?_
  generalize l.prepared = p at *
  subst hplace
  have hfresh : p.keyHere.isStale mark = false := by
    have hline' : ¬ p.mark.line < mark.line := by simp only at hline; omega
    have hindex' : ¬ p.mark.index + 1024 < mark.index := Nat.not_lt.mpr hindex
    simp [KeyStart.isStale, keyHere, hline', hindex']
  have hends : EndsKey ({ p with key := some p.keyHere, keyAllowed := false }.pushTo kind stop
      ⟨mark, ':' :: rest⟩) p.keyHere ⟨kind, p.mark, stop⟩ p.tokens :=
    { isDone := by simpa [isDone, pushTo, push] using hkind
      key := rfl
      isStale := hfresh
      optional := fun k hk => hoptional k (List.mem_cons_of_mem _ hk)
      tokens := rfl
      count := rfl }
  have hcolumn' : mark.column = p.place.column + width := hcolumn
  refine hends.reaches rfl hcolon ?_ fun m' hm' => hreaches m' ?_
  · intro hdepth x hx
    have hle : p.place.column ≤ mark.column := by omega
    exact Nat.le_trans (hholds hdepth x hx) hle
  · have hm : m'.Stands { Place.named p.place 0 rest kind with column := mark.column + 1 } := hm'
    rw [hcolumn', Nat.add_assoc] at hm
    exact hm

lemma noteKey_of_allowed (hoptional : p.AllOptional) (hallowed : p.keyAllowed = true) :
    p.noteKey = .ok { p with key := some p.keyHere } := by
  rw [noteKey_eq hoptional, hallowed]
  rfl

/-- A name that is a word, with a colon and a blank or a line break behind it. -/
lemma takes_plain_name (hword : IsWord word) (hne : word ≠ []) (hlength : word.length ≤ 100)
    (hrest : s.rest = word ++ ':' :: rest) (hcolon : atBlankOrEnd rest = true)
    (hdepth : s.depth = 0) (hallowed : s.keyAllowed = true) (hholds : s.Holds) :
    Takes s (s.named (word.length + 1) rest (.scalar .plain word)) := by
  have hpos : 0 < word.length := List.length_pos_iff.mpr hne
  refine takes_named (by rw [hrest]; simp; omega) (by rintro ⟨⟩) (.inr hcolon) hholds fun p hp => ?_
  obtain ⟨⟨rfl, hoptional, -⟩, hclosed⟩ := hp
  have hrest' : p.cursor.rest = word ++ ':' :: rest := hrest
  have hflow : p.inFlow = false := inFlow_eq_false_iff.mpr hdepth
  have hscan : scanPlain p.inFlow p.column p.cursor =
      .ok ⟨word, p.mark.passAll word, ⟨p.mark.passAll word, ':' :: rest⟩, false⟩ := by
    rw [hflow]
    exact scanPlain_word hword hrest' (PlainContext.scan_colon rfl hcolon _ _)
  have hindex := p.mark.passAll_index_le word
  rw [takeToken_word hclosed hword hne hrest',
    takePlain_eq (noteKey_of_allowed hoptional hallowed) hscan]
  exact ⟨_, _, rfl, rfl, p.mark.passAll_column word, p.mark.passAll_line word, by simp only; omega⟩

/-- A name between quotes, with a colon behind it. -/
lemma takes_quoted_name (hword : IsWord word) (hlength : word.length ≤ 100)
    (hrest : s.rest = '"' :: word ++ '"' :: ':' :: rest) (hdepth : 0 < s.depth)
    (hallowed : s.keyAllowed = true) :
    Takes s (s.named (word.length + 3) rest (.scalar .quoted word)) := by
  have hholds := Place.holds_of_depth_pos hdepth
  refine takes_named (by rw [hrest]; simp; omega) (by rintro ⟨⟩) (.inl hdepth) hholds fun p hp => ?_
  obtain ⟨⟨rfl, hoptional, -⟩, hclosed⟩ := hp
  have hrest' : p.cursor.rest = '"' :: (word ++ '"' :: ':' :: rest) := hrest
  have htoken : p.takeToken = p.takeQuoted '"' := by
    unfold takeToken
    simp only [hclosed, hrest']
    simp [atDocumentMark_eq_false]
  have hscan : scanQuoted '"' p.cursor =
      .ok (word, ⟨((p.mark.advance 1).passAll word).advance 1, ':' :: rest⟩) := by
    rw [scanQuoted, hrest']
    exact QuotedContext.scan_word hword p.mark _ _
  have hcolumn := (p.mark.advance 1).passAll_column word
  have hindex := (p.mark.advance 1).passAll_index_le word
  have hline := (p.mark.advance 1).passAll_line word
  rw [htoken, takeQuoted, noteKey_of_allowed hoptional hallowed]
  simp only [bind, Except.bind, hscan]
  refine ⟨_, _, rfl, rfl, ?_, ?_, ?_⟩
  all_goals simp only [Mark.advance] at *
  all_goals omega

end Word

end Garage.Yaml
