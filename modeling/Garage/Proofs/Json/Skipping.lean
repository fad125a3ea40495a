/-
# Passing over values

The value of a member that nobody asks for is passed over, whatever it is (`skipValue_eq`), and
nothing but values is (`exists_of_skipValue`).

What is open on the way says what may still come: `Closes` for everything that is open, and
`Finishes` where one thing or another may come next.
-/
import Garage.Proofs.Json.Pieces
import Garage.Proofs.Json.RoundTrip

namespace Garage.Json

variable {c l : Lexeme} {ls rest : List Lexeme} {ps : List Piece} {size : Nat}

/-! ### Values are passed over -/

/-- These pieces are passed over where `next` is wanted, and a comma or the end may follow. -/
def Passes (next : Next) (ps : List Piece) : Prop :=
  ∀ size stack ls rest, List.Forall₂ Lexeme.Shows ls ps →
    skip size next stack (ls ++ rest) = skip size .comma stack rest

section Passes

variable {frame : Frame} {pss : List (List Piece)}

lemma skip_close (hc : c.kind = .mark frame.close) (size : Nat) (stack : List Frame)
    (ls : List Lexeme) :
    skip size .comma (frame :: stack) (c :: ls) = skip size .comma stack ls := by
  simp [skip, skipStep, isMark_iff.mpr hc]

lemma skip_comma (hc : c.kind = .mark .comma) (frame : Frame) (size : Nat) (stack : List Frame)
    (ls : List Lexeme) :
    skip size .comma (frame :: stack) (c :: ls) = skip size frame.item (frame :: stack) ls := by
  have hclose : c.isMark frame.close = false := by
    rw [isMark_eq_false_iff, hc]
    cases frame <;> rintro ⟨⟩
  simp [skip, skipStep, hclose, isMark_iff.mpr hc]

/-- The first item or name is passed over like the others. -/
lemma skip_first (hl : l.kind ≠ .mark frame.close) (size : Nat) (stack : List Frame)
    (ls : List Lexeme) :
    skip size .first (frame :: stack) (l :: ls) =
      skip size frame.item (frame :: stack) (l :: ls) := by
  cases frame <;> simp [skip, skipStep, isMark_eq_false_iff.mpr hl, Frame.item]

lemma skip_rest (h : ∀ ps ∈ pss, Passes frame.item ps) (hc : c.kind = .mark frame.close)
    (size : Nat) (stack : List Frame)
    (hls : List.Forall₂ Lexeme.Shows ls (pss.flatMap (.mark .comma :: ·))) (rest : List Lexeme) :
    skip size .comma (frame :: stack) (ls ++ c :: rest) = skip size .comma stack rest := by
  induction pss generalizing ls with
  | nil =>
    obtain rfl := List.forall₂_nil_right_iff.mp hls
    exact skip_close hc size stack rest
  | cons ps pss ih =>
    obtain ⟨hps, hpss⟩ := List.forall_mem_cons.mp h
    obtain ⟨comma, ls₁, ls₂, rfl, hcomma, hls₁, hls₂⟩ := exists_of_shows_commas hls
    rw [List.cons_append, List.append_assoc, skip_comma hcomma, hps _ _ _ _ hls₁, ih hpss hls₂]

/-- The first thing stands behind the opening mark, and the others behind commas. -/
lemma passes_enclosed (frame : Frame) {first : Mark} (h : ∀ ps ∈ pss, Passes frame.item ps)
    (hhead : ∀ ps ∈ pss, ∃ p ps', ps = p :: ps' ∧ p ≠ .mark frame.close)
    (hfirst : ∀ start stop stack,
      skipStep .value stack ⟨.mark first, start, stop⟩ = .ok (.first, frame :: stack)) :
    Passes .value (Piece.enclosed first frame.close pss) := by
  intro size stack ls rest hls
  obtain ⟨start, stop, body, c, rfl, hc, hbody⟩ := exists_of_shows_enclosed hls
  rw [List.cons_append, List.append_assoc, List.singleton_append, skip.eq_def]
  simp only [hfirst]
  cases pss with
  | nil =>
    obtain rfl := List.forall₂_nil_right_iff.mp hbody
    simp [skip, skipStep, isMark_iff.mpr hc]
  | cons ps pss =>
    obtain ⟨hps, hpss⟩ := List.forall_mem_cons.mp h
    obtain ⟨p, ps', rfl, hp⟩ := hhead ps List.mem_cons_self
    obtain ⟨ls₁, ls₂, rfl, hls₁, hls₂⟩ := exists_of_shows_append hbody
    obtain ⟨l, ls₁, hshows, -, rfl⟩ := List.forall₂_cons_right_iff.mp hls₁
    have hitem := hps size (frame :: stack) _ (ls₂ ++ c :: rest) hls₁
    rw [List.append_assoc, List.cons_append, skip_first (hshows.kind_ne hp), ← List.cons_append,
      hitem, skip_rest hpss hc size stack hls₂]

lemma passes_member (q : Quotation) (h : Passes .value ps) :
    Passes .name (.scalar (.text q) :: .mark .colon :: ps) := by
  intro size stack ls rest hls
  obtain ⟨name, ls, hname, hbehind, rfl⟩ := List.forall₂_cons_right_iff.mp hls
  obtain ⟨colon, ls, hcolon, hvalue, rfl⟩ := List.forall₂_cons_right_iff.mp hbehind
  cases hname
  cases hcolon
  exact h size stack ls rest hvalue

end Passes

/-- Any value is passed over. -/
lemma Value.passes (v : Value) : Passes .value v.pieces := by
  induction v using Value.induction with
  | scalar s =>
    intro size stack ls rest hls
    obtain ⟨l, ls', hshows, hnil, rfl⟩ := List.forall₂_cons_right_iff.mp hls
    obtain rfl := List.forall₂_nil_right_iff.mp hnil
    cases hshows <;> rfl
  | list items ih =>
    rw [pieces, itemPieces_eq]
    refine passes_enclosed .list (List.forall_mem_map.mpr ih)
      (List.forall_mem_map.mpr fun v _ => v.exists_pieces_eq_cons) fun _ _ _ => rfl
  | object members ih =>
    rw [pieces, memberPieces_eq]
    refine passes_enclosed .object
      (List.forall_mem_map.mpr fun m hm => passes_member m.1 (ih m hm))
      (List.forall_mem_map.mpr fun m _ => ⟨_, _, rfl, by rintro ⟨⟩⟩) fun _ _ _ => rfl

lemma skipValue_eq {v : Value} (hls : List.Forall₂ Lexeme.Shows ls v.pieces) (size : Nat)
    (rest : List Lexeme) : skipValue size (ls ++ rest) = .ok rest := by
  rw [skipValue, v.passes size [] ls rest hls, skip]

/-! ### Nothing else is passed over -/

/-- What may stand in a list or between the braces of an object. -/
def Frame.IsItem : Frame → List Piece → Prop
  | list => IsValue
  | object => IsMember

/-- The rest of everything that is open, where a comma or an end may come next. -/
def Closes : List Frame → List Piece → Prop
  | [], ps => ps = []
  | frame :: stack, ps => ∃ ps₁ ps₂, IsRow frame.IsItem false ps₁ ∧ Closes stack ps₂ ∧
      ps = ps₁ ++ .mark frame.close :: ps₂

/-- The rest of everything that is open, where `next` may come next. -/
def Finishes : Next → List Frame → List Piece → Prop
  | .value, stack, ps => ∃ ps₁ ps₂, IsValue ps₁ ∧ Closes stack ps₂ ∧ ps = ps₁ ++ ps₂
  | .name, stack, ps => ∃ ps₁ ps₂, IsMember ps₁ ∧ Closes stack ps₂ ∧ ps = ps₁ ++ ps₂
  | .colon, stack, ps => ∃ ps₁ ps₂, IsValue ps₁ ∧ Closes stack ps₂ ∧
      ps = .mark .colon :: (ps₁ ++ ps₂)
  | .comma, stack, ps => Closes stack ps
  | .first, [], _ => False
  | .first, frame :: stack, ps => ∃ ps₁ ps₂, IsRow frame.IsItem true ps₁ ∧ Closes stack ps₂ ∧
      ps = ps₁ ++ .mark frame.close :: ps₂

/-- From one state to the next: the lexeme is sound, and what finishes the next state finishes this
one behind the piece of the lexeme. -/
structure Advances (next : Next) (stack : List Frame) (l : Lexeme) (state : SkipState) : Prop where
  isSound : l.kind.IsSound
  /-- The first item of something may only come if something is open. -/
  isOpen : state.1 = .first → state.2 ≠ []
  finishes : ∀ p ps, l.Shows p → Finishes state.1 state.2 ps → Finishes next stack (p :: ps)

section Skip

variable {frame : Frame} {next : Next} {stack : List Frame} {state : SkipState}

lemma finishes_scalar {s : Scalar} (h : Closes stack ps) :
    Finishes .value stack (.scalar s :: ps) :=
  ⟨[.scalar s], ps, ⟨.scalar s, rfl⟩, h, rfl⟩

lemma finishes_list (h : Finishes .first (.list :: stack) ps) :
    Finishes .value stack (.mark .openList :: ps) := by
  obtain ⟨ps₁, ps₂, hrow, hclose, rfl⟩ := h
  exact ⟨_, ps₂, isValue_list hrow, hclose, by simp [Frame.close]⟩

lemma finishes_object (h : Finishes .first (.object :: stack) ps) :
    Finishes .value stack (.mark .openObject :: ps) := by
  obtain ⟨ps₁, ps₂, hrow, hclose, rfl⟩ := h
  exact ⟨_, ps₂, isValue_object hrow, hclose, by simp [Frame.close]⟩

lemma advances_valueStart (h : skipValueStart stack l = .ok state) :
    Advances .value stack l state := by
  obtain ⟨kind, start, stop⟩ := l
  cases kind with
  | mark m =>
    cases m with
    | openList =>
      cases h
      exact ⟨trivial, fun _ => List.cons_ne_nil _ _,
        fun p ps hp hps => hp.eq_mark rfl ▸ finishes_list hps⟩
    | openObject =>
      cases h
      exact ⟨trivial, fun _ => List.cons_ne_nil _ _,
        fun p ps hp hps => hp.eq_mark rfl ▸ finishes_object hps⟩
    | _ => cases h
  | broken isText wanted unwanted => cases h
  | stray => cases h
  | _ =>
    cases h
    refine ⟨trivial, by rintro ⟨⟩, fun p ps hp hps => ?_⟩
    cases hp
    exact finishes_scalar hps

lemma advances_name (h : skipName stack l = .ok state) : Advances .name stack l state := by
  obtain ⟨kind, start, stop⟩ := l
  unfold skipName at h
  split at h
  case h_1 value hkind =>
    obtain rfl : kind = _ := hkind
    cases h
    refine ⟨trivial, by rintro ⟨⟩, fun p ps hp hps => ?_⟩
    obtain ⟨_, ps₂, ⟨v, rfl⟩, hclose, rfl⟩ := hps
    cases hp with
    | @text q => exact ⟨_, ps₂, ⟨q, v, rfl⟩, hclose, rfl⟩
  all_goals cases h

lemma advances_colon (hl : l.kind = .mark .colon) : Advances .colon stack l (.value, stack) := by
  refine ⟨hl ▸ trivial, by rintro ⟨⟩, fun p ps hp hps => ?_⟩
  obtain rfl := hp.eq_mark hl
  obtain ⟨ps₁, ps₂, hvalue, hclose, rfl⟩ := hps
  exact ⟨ps₁, ps₂, hvalue, hclose, rfl⟩

lemma finishes_item : Finishes frame.item stack ps ↔
    ∃ ps₁ ps₂, frame.IsItem ps₁ ∧ Closes stack ps₂ ∧ ps = ps₁ ++ ps₂ := by
  cases frame <;> rfl

/-- The first thing in a list or an object is like the others. -/
lemma Advances.of_item (frame : Frame) (h : Advances frame.item (frame :: stack) l state) :
    Advances .first (frame :: stack) l state := by
  refine ⟨h.isSound, h.isOpen, fun p ps hp hps => ?_⟩
  obtain ⟨ps₁, _, hitem, ⟨ps₂, ps₃, hrow, hclose, rfl⟩, heq⟩ :=
    finishes_item.mp (h.finishes p ps hp hps)
  exact ⟨_, ps₃, hrow.cons_first hitem, hclose, by rw [heq, List.append_assoc]⟩

lemma advances_close (hl : l.kind = .mark frame.close) (hnext : next = .first ∨ next = .comma)
    (stack : List Frame) : Advances next (frame :: stack) l (.comma, stack) := by
  refine ⟨hl ▸ trivial, by rintro ⟨⟩, fun p ps hp hps => ?_⟩
  obtain rfl := hp.eq_mark hl
  rcases hnext with rfl | rfl
  · exact ⟨[], ps, isRow_nil _ _, hps, rfl⟩
  · exact ⟨[], ps, isRow_nil _ _, hps, rfl⟩

lemma advances_comma (hl : l.kind = .mark .comma) (frame : Frame) (stack : List Frame) :
    Advances .comma (frame :: stack) l (frame.item, frame :: stack) := by
  refine ⟨hl ▸ trivial, by cases frame <;> rintro ⟨⟩, fun p ps hp hps => ?_⟩
  obtain rfl := hp.eq_mark hl
  obtain ⟨ps₁, _, hitem, ⟨ps₂, ps₃, hrow, hclose, rfl⟩, rfl⟩ := finishes_item.mp hps
  exact ⟨_, ps₃, hrow.cons_comma hitem, hclose, by simp⟩

lemma advances_skipStep (h : skipStep next stack l = .ok state)
    (hfirst : next = .first → stack ≠ []) (hcomma : next = .comma → stack ≠ []) :
    Advances next stack l state := by
  cases next with
  | value => exact advances_valueStart h
  | name => exact advances_name h
  | colon =>
    unfold skipStep at h
    dsimp only at h
    split_ifs at h with hl
    cases h
    exact advances_colon (isMark_iff.mp hl)
  | first =>
    cases stack with
    | nil => exact absurd rfl (hfirst rfl)
    | cons frame stack =>
      unfold skipStep at h
      dsimp only at h
      split_ifs at h with hl
      · cases h
        exact advances_close (isMark_iff.mp hl) (.inl rfl) stack
      -- If it is not empty, it begins with what comes behind commas later on.
      · cases frame with
        | list => exact .of_item .list (advances_valueStart h)
        | object => exact .of_item .object (advances_name h)
  | comma =>
    cases stack with
    | nil => exact absurd rfl (hcomma rfl)
    | cons frame stack =>
      unfold skipStep at h
      dsimp only at h
      split_ifs at h with hl hl'
      · cases h
        exact advances_close (isMark_iff.mp hl) (.inr rfl) stack
      · cases h
        exact advances_comma (isMark_iff.mp hl') frame stack

/-- What is passed over finishes all that was open. -/
lemma exists_of_skip (h : skip size next stack ls = .ok rest)
    (hfirst : next = .first → stack ≠ []) :
    ∃ used, ls = used ++ rest ∧ Makes used (Finishes next stack) := by
  fun_induction skip size next stack ls with
  | case1 ls =>
    cases h
    exact ⟨[], rfl, .nil rfl⟩
  | case2 => cases h
  | case3 next stack l ls hcomma next' stack' hstep ih =>
    have hl := advances_skipStep hstep hfirst hcomma
    obtain ⟨used, rfl, hused⟩ := ih h hl.isOpen
    exact ⟨l :: used, rfl, hused.cons hl.isSound hl.finishes⟩
  | case4 => cases h

lemma exists_of_skipValue (h : skipValue size ls = .ok rest) :
    ∃ used, ls = used ++ rest ∧ Makes used IsValue := by
  obtain ⟨used, hls, hused⟩ := exists_of_skip h (by rintro ⟨⟩)
  refine ⟨used, hls, hused.isSound, fun ps hps => ?_⟩
  obtain ⟨ps₁, _, hvalue, rfl, rfl⟩ := hused.of_shows hps
  rwa [List.append_nil]

end Skip

end Garage.Json
