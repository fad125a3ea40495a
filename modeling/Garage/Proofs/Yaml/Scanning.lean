/-
# Steps of the YAML lexer

What the lexer does next depends on little of what it knows: the text that follows, the column and
the block collections around it, how many brackets are open, and whether a key may begin.  This and
the kinds of the tokens so far is a `Place`; marks and settled tokens, which errors need, are left
out.  `Leads s s'` says that the lexer comes from the one place to the other.

* `reaches_of_takeToken`: it does if it takes a token and comes to that place from there.
* `Stands.faces_of_solid`, `Stands.faces_of_space`, `Stands.faces_of_break`: it passes over what
  lies between tokens, and the block collections that end there end.
* `kinds_tokenize`: the tokens of a text, if the lexer comes to its end.
-/
import Mathlib.Data.List.TakeWhile
import Mathlib.Tactic.Common
import Garage.Yaml.Lexer

namespace Garage.Yaml

/-! ### Places -/

/-- What is known to the lexer in front of a token, without marks. -/
structure Place where
  /-- The text that follows. -/
  rest : List Char
  column : Nat
  /-- How many brackets are open. -/
  depth : Nat
  /-- The columns of the block collections that have not ended, the innermost first. -/
  indents : List Nat
  /-- Whether a key may begin. -/
  keyAllowed : Bool
  /-- The kinds of the tokens so far, the first one first. -/
  kinds : List TokenKind

namespace Place

/-- How many block collections end in a column. -/
def closings (column : Nat) (indents : List Nat) : Nat :=
  (indents.takeWhile (fun x => !decide (x ≤ column))).length

/-- The place behind the ends of block collections, if it stands further left than these. -/
def closed (s : Place) : Place :=
  if s.depth = 0 then
    let n := closings s.column s.indents
    { s with kinds := s.kinds ++ List.replicate n .blockEnd, indents := s.indents.drop n }
  else s

/-- No block collection ends at the place. -/
def Holds (s : Place) : Prop := s.depth = 0 → ∀ x ∈ s.indents.head?, x ≤ s.column

lemma closings_eq_zero {column : Nat} {indents : List Nat}
    (h : ∀ x ∈ indents.head?, x ≤ column) : closings column indents = 0 := by
  cases indents with
  | nil => rfl
  | cons x xs =>
    rw [closings, List.takeWhile_cons_of_neg, List.length_nil]
    simpa using h x rfl

lemma closings_cons_of_lt {column x : Nat} (h : column < x) (xs : List Nat) :
    closings column (x :: xs) = closings column xs + 1 := by
  rw [closings, List.takeWhile_cons_of_pos (by simpa using h), List.length_cons, closings]

lemma Holds.closed_eq {s : Place} (h : s.Holds) : s.closed = s := by
  unfold closed
  split
  case isTrue hdepth => simp [closings_eq_zero (h hdepth)]
  case isFalse => rfl

lemma closed_rest (s : Place) : s.closed.rest = s.rest := by
  unfold closed
  split <;> rfl

lemma holds_of_depth_pos {s : Place} (h : 0 < s.depth) : s.Holds := fun hdepth => by omega

lemma holds_of_head? {s : Place} {column : Nat} (h : s.indents.head? = some column)
    (hle : column ≤ s.column) : s.Holds := by
  rintro - x hx
  rw [h] at hx
  obtain rfl := Option.some.inj hx
  exact hle

end Place

namespace Lexer

variable {l m p : Lexer} {s s' s'' : Place} {rest : List Char}

def place (l : Lexer) : Place :=
  ⟨l.cursor.rest, l.mark.column, l.outer.length, l.indents, l.keyAllowed,
    l.tokens.reverse.map (·.kind)⟩

lemma inFlow_eq (l : Lexer) : l.inFlow = decide (l.place.depth ≠ 0) := by
  unfold inFlow place
  cases l.outer <;> simp

lemma inFlow_eq_true (h : 0 < l.place.depth) : l.inFlow = true := by
  rw [inFlow_eq]
  exact decide_eq_true (Nat.ne_of_gt h)

lemma inFlow_eq_false_iff : l.inFlow = false ↔ l.place.depth = 0 := by
  rw [inFlow_eq, decide_eq_false_iff_not, not_not]

/-! ### Keys that are given up -/

/-- A place where a key may begin, unless it is too far away. -/
def keepFresh (now : Mark) (key : Option KeyStart) : Option KeyStart := key.filter (!·.isStale now)

/-- The lexer without the places that are too far away. -/
def fresh (l : Lexer) : Lexer :=
  { l with key := keepFresh l.mark l.key, outer := l.outer.map (keepFresh l.mark) }

/-- Where a key has to begin, it may still come. -/
def NoneLost (l : Lexer) : Prop :=
  ∀ k, some k ∈ l.key :: l.outer → k.isStale l.mark = true → k.isRequired = false

/-- Nowhere a key has to begin. -/
def AllOptional (l : Lexer) : Prop := ∀ k, some k ∈ l.key :: l.outer → k.isRequired = false

lemma AllOptional.noneLost (h : l.AllOptional) : l.NoneLost := fun k hk _ => h k hk

/-- A pass over a list that never fails. -/
lemma mapM_eq_ok_map {α β ε : Type} {f : α → Except ε β} {g : α → β} {as : List α}
    (h : ∀ a ∈ as, f a = .ok (g a)) : as.mapM f = .ok (as.map g) := by
  induction as with
  | nil => rfl
  | cons a as ih =>
    rw [List.mapM_cons, h a List.mem_cons_self, ih fun b hb => h b (List.mem_cons_of_mem _ hb)]
    rfl

lemma dropStaleKeys_eq (h : l.NoneLost) : l.dropStaleKeys = .ok l.fresh := by
  unfold dropStaleKeys
  extract_lets keep
  have hkeep : ∀ key ∈ l.key :: l.outer, keep key = .ok (keepFresh l.mark key) := by
    rintro (_ | k) hk
    · rfl
    · cases hstale : k.isStale l.mark <;>
        simp [keep, keepFresh, Option.filter, hstale, KeyStart.giveUp, h k hk]
  have houter := mapM_eq_ok_map fun key hkey => hkeep key (List.mem_cons_of_mem _ hkey)
  simp only [bind, Except.bind, hkeep l.key List.mem_cons_self, houter]
  rfl

lemma eq_some_of_keepFresh {now : Mark} {key : Option KeyStart} {k : KeyStart}
    (h : keepFresh now key = some k) : key = some k :=
  (Option.filter_eq_some_iff.mp h).1

lemma mem_outer_of_fresh {k : KeyStart} (h : some k ∈ l.fresh.outer) : some k ∈ l.outer := by
  obtain ⟨key, hkey, heq⟩ := List.mem_map.mp h
  rwa [eq_some_of_keepFresh heq] at hkey

lemma mem_keys_of_fresh {k : KeyStart} (h : some k ∈ l.fresh.key :: l.fresh.outer) :
    some k ∈ l.key :: l.outer := by
  rcases List.mem_cons.mp h with hkey | houter
  · exact List.mem_cons.mpr (.inl (eq_some_of_keepFresh hkey.symm).symm)
  · exact List.mem_cons_of_mem _ (mem_outer_of_fresh houter)

lemma NoneLost.fresh (h : l.NoneLost) : l.fresh.NoneLost := fun k hk => h k (mem_keys_of_fresh hk)

lemma AllOptional.fresh (h : l.AllOptional) : l.fresh.AllOptional :=
  fun k hk => h k (mem_keys_of_fresh hk)

lemma fresh_inFlow (l : Lexer) : l.fresh.inFlow = l.inFlow := by
  simp [fresh, inFlow]

lemma fresh_place (l : Lexer) : l.fresh.place = l.place := by
  simp [fresh, place, mark]

lemma forgetKey_eq (h : l.AllOptional) : l.forgetKey = .ok { l with key := none } := by
  unfold forgetKey
  split
  case h_1 hkey => rw [← hkey]
  case h_2 k hkey =>
    have hk : k.isRequired = false := h k (by rw [hkey]; exact List.mem_cons_self)
    simp [KeyStart.giveUp, hk, bind, Except.bind, pure, Except.pure]

/-- The key that may begin at the cursor. -/
def keyHere (l : Lexer) : KeyStart :=
  ⟨l.count, l.mark, !l.inFlow && l.indents.head? = some l.mark.column⟩

lemma noteKey_eq (h : l.AllOptional) :
    l.noteKey = .ok { l with key := if l.keyAllowed then some l.keyHere else l.key } := by
  unfold noteKey
  split
  case isTrue hallowed =>
    simp only [forgetKey_eq h, hallowed, bind, Except.bind, pure, Except.pure]
    rfl
  case isFalse hallowed => rfl

/-! ### Block collections that end -/

lemma closeBlocks_place (l : Lexer) :
    (l.closeBlocks (· ≤ l.mark.column)).place = l.place.closed := by
  unfold closeBlocks Place.closed
  cases houter : l.outer with
  | nil =>
    simp only [inFlow, place, houter, List.isEmpty_nil, Bool.not_true, Bool.false_eq_true, if_false,
      List.length_nil, if_true, List.reverse_append, List.reverse_replicate, List.map_append,
      List.map_replicate]
    rfl
  | cons key outer => simp [inFlow, place, mark, houter]

lemma takeWhile_drop_takeWhile {α : Type} (p : α → Bool) (as : List α) :
    (as.drop (as.takeWhile p).length).takeWhile p = [] := by
  induction as with
  | nil => rfl
  | cons a as ih => cases ha : p a <;> simp [ha, ih]

lemma closeBlocks_closeBlocks (stays : Nat → Bool) (l : Lexer) :
    (l.closeBlocks stays).closeBlocks stays = l.closeBlocks stays := by
  have hflow : (l.closeBlocks stays).inFlow = l.inFlow := by
    unfold closeBlocks inFlow
    split <;> rfl
  cases hopen : l.inFlow with
  | true => simp [closeBlocks, hopen]
  | false =>
    rw [closeBlocks, hflow, hopen]
    simp [closeBlocks, hopen, takeWhile_drop_takeWhile]

lemma closeBlocks_eq_self (h : l.place.Holds) : l.closeBlocks (· ≤ l.mark.column) = l := by
  unfold closeBlocks
  split
  case isTrue => rfl
  case isFalse hflow =>
    have hdepth : l.place.depth = 0 := inFlow_eq_false_iff.mp (Bool.eq_false_iff.mpr hflow)
    have hnone : (l.indents.takeWhile (fun x => !decide (x ≤ l.mark.column))).length = 0 :=
      Place.closings_eq_zero (h hdepth)
    simp only [hnone]
    rfl

lemma closeBlocks_mark (stays : Nat → Bool) (l : Lexer) : (l.closeBlocks stays).mark = l.mark := by
  unfold closeBlocks
  split <;> rfl

lemma takeToken_closeBlocks (l : Lexer) :
    (l.closeBlocks (· ≤ l.mark.column)).takeToken = l.takeToken := by
  unfold takeToken
  rw [closeBlocks_mark, closeBlocks_closeBlocks]

lemma AllOptional.closeBlocks (h : l.AllOptional) (stays : Nat → Bool) :
    (l.closeBlocks stays).AllOptional := by
  unfold Lexer.closeBlocks
  split <;> exact h

lemma closeBlocks_isDone {stays : Nat → Bool} (h : l.isDone = false) :
    (l.closeBlocks stays).isDone = false := by
  unfold closeBlocks
  split
  case isTrue => exact h
  case isFalse =>
    unfold isDone at h ⊢
    cases (l.indents.takeWhile (!stays ·)).length with
    | zero => simpa using h
    | succ n => rfl

/-! ### One step -/

/-- The lexer in front of the next token. -/
def prepared (l : Lexer) : Lexer := l.fresh.skip.fresh.closeBlocks (· ≤ l.fresh.skip.mark.column)

lemma run_succ (hdone : l.isDone = false) (hlost : l.NoneLost) (hlost' : l.fresh.skip.NoneLost)
    (htoken : l.prepared.takeToken = .ok m) (fuel settled : Nat) :
    ∃ settled', l.run (fuel + 1) settled = m.run fuel settled' := by
  have hclosed : l.prepared.takeToken = l.fresh.skip.fresh.takeToken :=
    takeToken_closeBlocks l.fresh.skip.fresh
  have hnext : l.fresh.next = .ok m := by
    rw [next, dropStaleKeys_eq hlost', ← htoken, hclosed]
    rfl
  have hdone' : l.fresh.isDone = false := hdone
  exact ⟨l.fresh.settled, by simp [run, dropStaleKeys_eq hlost, hdone', hnext]⟩

/-- The lexer is at a place. -/
structure Stands (l : Lexer) (s : Place) : Prop where
  place : l.place = s
  optional : l.AllOptional
  isDone : l.isDone = false

/-- The lexer comes to a place if it passes over what lies between tokens. -/
structure Faces (l : Lexer) (s : Place) : Prop where
  isDone : l.isDone = false
  noneLost : l.NoneLost
  noneLost_skip : l.fresh.skip.NoneLost
  prepared : l.prepared.Stands s
  length_le : s.rest.length ≤ l.cursor.rest.length

/-- At last the lexer comes to a place. -/
def Reaches (l : Lexer) (s : Place) : Prop :=
  ∀ fuel settled, l.cursor.rest.length + 1 < fuel → ∃ (l' : Lexer) (fuel' settled' : Nat),
    l'.Faces s ∧ l'.cursor.rest.length + 1 < fuel' ∧ l.run fuel settled = l'.run fuel' settled'

lemma Faces.reaches (h : l.Faces s) : l.Reaches s :=
  fun fuel settled hfuel => ⟨l, fuel, settled, h, hfuel, rfl⟩

lemma reaches_of_takeToken (hdone : l.isDone = false) (hlost : l.NoneLost)
    (hlost' : l.fresh.skip.NoneLost) (htoken : l.prepared.takeToken = .ok m)
    (hlt : m.cursor.rest.length < l.cursor.rest.length) (hreaches : m.Reaches s) :
    l.Reaches s := by
  intro fuel settled hfuel
  cases fuel with
  | zero => cases hfuel
  | succ fuel =>
    obtain ⟨settled', hrun⟩ := run_succ hdone hlost hlost' htoken fuel settled
    rw [hrun]
    exact hreaches fuel settled' (by omega)

/-! ### Between tokens -/

/-- The text is over, or goes on with something that does not lie between tokens. -/
def Solid (cs : List Char) : Prop :=
  ∀ c ∈ cs.head?, isBlank c = false ∧ isBreak c = false ∧ c ≠ '#' ∧ c ≠ '\ufeff'

lemma solid_cons {c : Char}
    (h : isBlank c = false ∧ isBreak c = false ∧ c ≠ '#' ∧ c ≠ '\ufeff') (cs : List Char) :
    Solid (c :: cs) := by
  rintro d hd
  obtain rfl := Option.some.inj hd
  exact h

lemma skipGaps_of_solid (h : Solid rest) (inFlow keyAllowed : Bool) (mark : Mark) :
    skipGaps inFlow keyAllowed false mark rest = (keyAllowed, ⟨mark, rest⟩) := by
  cases rest with
  | nil => rfl
  | cons c rest =>
    obtain ⟨hblank, hbreak, hhash, hbom⟩ := h c rfl
    obtain ⟨hspace, htab⟩ : c ≠ ' ' ∧ c ≠ '\t' := by simpa [isBlank] using hblank
    rw [skipGaps.eq_def]
    simp [hbreak, hspace, htab, hhash, hbom]

lemma skipGaps_space (inFlow keyAllowed : Bool) (mark : Mark) (rest : List Char) :
    skipGaps inFlow keyAllowed false mark (' ' :: rest) =
      skipGaps inFlow keyAllowed false (mark.pass ' ') rest := by
  rw [skipGaps.eq_def]
  simp [isBreak]

lemma skipGaps_break (keyAllowed : Bool) (mark : Mark) (rest : List Char) :
    skipGaps false keyAllowed false mark ('\n' :: rest) =
      skipGaps false true false (mark.nextLine 1) rest := by
  rw [skipGaps.eq_def]
  simp [isBreak]
  rfl

/-- The beginning of a line. -/
lemma skipGaps_indent (h : Solid rest) (inFlow keyAllowed : Bool) (mark : Mark) (n : Nat) :
    ∃ cursor : Cursor, cursor.rest = rest ∧ cursor.mark.column = mark.column + n ∧
      skipGaps inFlow keyAllowed false mark (List.replicate n ' ' ++ rest) =
        (keyAllowed, cursor) := by
  induction n generalizing mark with
  | zero => exact ⟨⟨mark, rest⟩, rfl, rfl, skipGaps_of_solid h _ _ _⟩
  | succ n ih =>
    obtain ⟨cursor, hrest, hcolumn, hskip⟩ := ih (mark.pass ' ')
    refine ⟨cursor, hrest, ?_, ?_⟩
    · simp only [hcolumn, Mark.pass]
      omega
    · rw [List.replicate_succ, List.cons_append, skipGaps_space, hskip]

lemma skip_eq_self (h : Solid l.cursor.rest) : l.skip = l := by
  rw [skip, skipGaps_of_solid h]
  rfl

lemma AllOptional.skip (h : l.AllOptional) : l.skip.AllOptional := h

lemma skip_place {keyAllowed : Bool} {cursor : Cursor}
    (h : skipGaps l.inFlow l.keyAllowed false l.mark l.cursor.rest = (keyAllowed, cursor)) :
    l.skip.place =
      { l.place with
        rest := cursor.rest
        column := cursor.mark.column
        keyAllowed := keyAllowed } := by
  rw [skip, h]
  rfl

lemma prepared_place {keyAllowed : Bool} {cursor : Cursor}
    (h : skipGaps l.inFlow l.keyAllowed false l.mark l.cursor.rest = (keyAllowed, cursor)) :
    l.prepared.place =
      { l.place with
        rest := cursor.rest
        column := cursor.mark.column
        keyAllowed := keyAllowed }.closed := by
  have hclose : l.prepared.place = l.fresh.skip.fresh.place.closed :=
    closeBlocks_place l.fresh.skip.fresh
  rw [← fresh_inFlow] at h
  rw [hclose, fresh_place, skip_place h, fresh_place]

/-- What lies between tokens is passed over, and block collections end. -/
lemma Stands.faces {keyAllowed : Bool} {cursor : Cursor} (h : l.Stands s)
    (hskip : skipGaps (decide (s.depth ≠ 0)) s.keyAllowed false l.mark s.rest =
      (keyAllowed, cursor)) (hle : cursor.rest.length ≤ s.rest.length) :
    l.Faces
      { s with
        rest := cursor.rest
        column := cursor.mark.column
        keyAllowed := keyAllowed }.closed := by
  obtain ⟨rfl, hoptional, hdone⟩ := h
  have hoptional' : l.fresh.skip.AllOptional := hoptional.fresh.skip
  rw [← inFlow_eq] at hskip
  refine ⟨hdone, hoptional.noneLost, hoptional'.noneLost, ?_, ?_⟩
  · exact ⟨prepared_place hskip, hoptional'.fresh.closeBlocks _, closeBlocks_isDone hdone⟩
  · rw [Place.closed_rest]
    exact hle

lemma Stands.faces_of_solid (h : l.Stands s) (hsolid : Solid s.rest) : l.Faces s.closed := by
  have hmark : l.mark.column = s.column := congrArg Place.column h.place
  have hfaces := h.faces (skipGaps_of_solid hsolid _ _ _) (Nat.le_refl _)
  rwa [hmark] at hfaces

/-- A space stands in front of the next token. -/
lemma Stands.faces_of_space (h : l.Stands s) (hrest : s.rest = ' ' :: rest) (hsolid : Solid rest) :
    l.Faces { s with rest := rest, column := s.column + 1 }.closed := by
  have hmark : l.mark.column = s.column := congrArg Place.column h.place
  have hskip := skipGaps_space (decide (s.depth ≠ 0)) s.keyAllowed l.mark rest
  rw [← hrest, skipGaps_of_solid hsolid] at hskip
  have hfaces := h.faces hskip (by rw [hrest]; exact Nat.le_succ _)
  rwa [Mark.pass, hmark] at hfaces

/-- The next token stands in a line of its own. -/
lemma Stands.faces_of_break {n : Nat} (h : l.Stands s)
    (hrest : s.rest = '\n' :: List.replicate n ' ' ++ rest) (hdepth : s.depth = 0)
    (hsolid : Solid rest) :
    l.Faces { s with rest := rest, column := n, keyAllowed := true }.closed := by
  obtain ⟨cursor, rfl, hcolumn, hskip⟩ := skipGaps_indent hsolid false true (l.mark.nextLine 1) n
  rw [Mark.nextLine, Nat.zero_add] at hcolumn
  rw [← skipGaps_break s.keyAllowed, ← List.cons_append, ← hrest] at hskip
  have hfaces := h.faces (by simpa [hdepth] using hskip) (by rw [hrest]; simp; omega)
  rwa [hcolumn] at hfaces

/-! ### From place to place -/

/-- From the one place the lexer comes to the other. -/
def Leads (s s' : Place) : Prop := ∀ l : Lexer, l.Faces s → l.Reaches s'

lemma Leads.refl (s : Place) : Leads s s := fun _ h => h.reaches

lemma Reaches.trans (h : l.Reaches s) (h' : Leads s s') : l.Reaches s' := by
  intro fuel settled hfuel
  obtain ⟨m, fuel₁, settled₁, hfaces, hfuel₁, hrun⟩ := h fuel settled hfuel
  rw [hrun]
  exact h' m hfaces fuel₁ settled₁ hfuel₁

lemma Leads.trans (h : Leads s s') (h' : Leads s' s'') : Leads s s'' :=
  fun l hl => (h l hl).trans h'

/-- The lexer is in front of a token, and block collections that end there have ended. -/
structure StandsBefore (p : Lexer) (s : Place) : Prop extends p.Stands s where
  closed : p.closeBlocks (· ≤ p.mark.column) = p

lemma Faces.standsBefore (h : l.Faces s) : l.prepared.StandsBefore s := by
  refine ⟨h.prepared, ?_⟩
  rw [Lexer.prepared, closeBlocks_mark]
  exact closeBlocks_closeBlocks _ _

/-! ### Whole texts -/

/-- The beginning of a text. -/
def start (cs : List Char) : Place := ⟨cs, 0, 0, [], true, []⟩

lemma faces_start {cs : List Char} (hsolid : Solid cs) : (ofText cs).Faces (start cs) := by
  have hstands : (ofText cs).Stands (start cs) := by
    refine ⟨rfl, ?_, rfl⟩
    rintro k hk
    cases List.mem_singleton.mp hk
  exact hstands.faces_of_solid hsolid

lemma closeAllBlocks_eq (h : l.outer = []) :
    l.closeAllBlocks =
      { l with
        tokens := List.replicate l.indents.length ⟨.blockEnd, l.mark, l.mark⟩ ++ l.tokens
        count := l.count + l.indents.length
        indents := [] } := by
  have hall : l.indents.takeWhile (fun _ => true) = l.indents :=
    List.takeWhile_eq_self_iff.mpr fun _ _ => rfl
  simp [closeAllBlocks, closeBlocks, inFlow, h, hall]

/-- At the end of the text, all block collections end. -/
lemma StandsBefore.takeToken_end (h : p.StandsBefore s) (hrest : s.rest = [])
    (hdepth : s.depth = 0) : ∃ m, p.takeToken = .ok m ∧ m.AllOptional ∧ m.isDone = true ∧
      m.tokens.reverse.map (·.kind) =
        s.kinds ++ List.replicate s.indents.length .blockEnd ++ [.streamEnd] := by
  obtain ⟨⟨rfl, hoptional, -⟩, hclosed⟩ := h
  have hrest' : p.cursor.rest = [] := hrest
  have houter : p.outer = [] := List.length_eq_zero_iff.mp hdepth
  have htoken : p.takeToken = p.takeEnd := by
    unfold takeToken
    simp only [hclosed, hrest']
  have hforget : ∀ cursor, ({ p with cursor := cursor }.closeAllBlocks).forgetKey =
      .ok { { p with cursor := cursor }.closeAllBlocks with key := none } :=
    fun cursor =>
      forgetKey_eq (AllOptional.closeBlocks (l := { p with cursor := cursor }) hoptional _)
  rw [htoken, takeEnd]
  simp only [bind, Except.bind, pure, Except.pure, hforget]
  refine ⟨_, rfl, ?_, rfl, ?_⟩
  · intro k hk
    simp [take, pushTo, push, closeAllBlocks_eq, houter] at hk
  · simp [take, pushTo, push, closeAllBlocks_eq, houter, place]

/-- The tokens of a text. -/
theorem kinds_tokenize {cs : List Char} (hsolid : Solid cs) (h : Leads (start cs) s)
    (hrest : s.rest = []) (hdepth : s.depth = 0) :
    (tokenize cs).tokens.map (·.kind) =
      s.kinds ++ List.replicate s.indents.length .blockEnd ++ [.streamEnd] := by
  obtain ⟨l, fuel, settled, hl, hfuel, hrun⟩ :=
    h _ (faces_start hsolid) (cs.length + 3) 0 (Nat.lt_succ_of_lt (Nat.lt_succ_self _))
  obtain ⟨m, htoken, hoptional, hdone, hkinds⟩ := hl.standsBefore.takeToken_end hrest hdepth
  obtain ⟨fuel, rfl⟩ : ∃ fuel', fuel = fuel' + 2 := ⟨fuel - 2, by omega⟩
  obtain ⟨settled', hrun'⟩ :=
    run_succ hl.isDone hl.noneLost hl.noneLost_skip htoken (fuel + 1) settled
  have hdone' : m.fresh.isDone = true := hdone
  rw [tokenize, hrun, hrun', run, dropStaleKeys_eq hoptional.noneLost]
  simp only [hdone', if_true]
  exact hkinds

end Lexer

end Garage.Yaml
