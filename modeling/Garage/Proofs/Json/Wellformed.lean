/-
# Only JSON is read

What a reader takes from the front of the lexemes makes up a value: nothing is wrong with the
lexemes, and their pieces are those of a value.  This is so for values that are passed over, too.
So a text that is read is well-formed JSON (`exists_isText_of_ofJson`).
-/
import Garage.Proofs.Json.Skipping

namespace Garage

namespace Json

variable {α δ : Type} {c l : Lexeme} {ls ls' rest : List Lexeme} {size : Nat} {first : Bool}

/-! ### Readers -/

/-- What the reader takes from the front makes up a value. -/
def ReadsValues (r : Reader α) : Prop :=
  ∀ ⦃size ls a rest⦄, r size ls = .ok (a, rest) → ∃ used, ls = used ++ rest ∧ Makes used IsValue

lemma readsValues_word : ReadsValues readWord := by
  intro size ls a rest h
  unfold readWord at h
  split at h
  case h_1 n start stop tail =>
    split_ifs at h
    split at h <;> cases h
    refine ⟨[_], rfl, .cons trivial (.nil rfl) ?_⟩
    rintro p _ hp rfl
    cases hp
    exact ⟨.scalar _, rfl⟩
  case h_2 => cases h

lemma exists_of_nextItem (h : nextItem size first ls = .ok (some ls')) :
    ∃ front, ls = front ++ ls' ∧ Leads first front := by
  cases ls with
  | nil => cases h
  | cons l ls =>
    unfold nextItem at h
    cases first with
    | true =>
      simp only [if_true] at h
      split_ifs at h <;> cases h
      exact ⟨[], rfl, .first⟩
    | false =>
      simp only [Bool.false_eq_true, if_false] at h
      split_ifs at h with _ hcomma
      · cases h
      · cases ls with
        | nil => cases h
        | cons next ls =>
          dsimp only at h
          split_ifs at h
          cases h
          exact ⟨[l], rfl, .comma (isMark_iff.mp hcomma)⟩

lemma exists_of_closeList (h : closeList size ls = .ok rest) :
    ∃ c, ls = c :: rest ∧ c.kind = .mark .closeList := by
  unfold closeList at h
  split at h
  case h_1 => cases h
  case h_2 l tail =>
    split_ifs at h with hclose hcomma
    · cases h
      exact ⟨l, rfl, isMark_iff.mp hclose⟩
    · split at h
      · cases h
      · split_ifs at h

lemma exists_of_closeObject (h : closeObject size ls = .ok rest) :
    ∃ c, ls = c :: rest ∧ c.kind = .mark .closeObject := by
  unfold closeObject at h
  split at h
  case h_1 => cases h
  case h_2 l tail =>
    split_ifs at h with hclose
    cases h
    exact ⟨l, rfl, isMark_iff.mp hclose⟩

lemma makes_list {used : List Lexeme} {start stop : Nat} (h : Makes used (IsRow IsValue true))
    (hc : c.kind = .mark .closeList) :
    Makes (⟨.mark .openList, start, stop⟩ :: (used ++ [c])) IsValue := by
  have hclose : Makes [c] (· = [.mark .closeList]) :=
    (Makes.nil (P := (· = [])) rfl).mark hc fun _ hps => hps ▸ rfl
  have hrow : Makes (used ++ [c]) fun ps => IsValue (.mark .openList :: ps) :=
    h.append hclose fun ps _ hps hps' => hps' ▸ isValue_list hps
  exact hrow.mark rfl fun _ hps => hps

lemma makes_object {used : List Lexeme} {start stop : Nat} (h : Makes used (IsRow IsMember true))
    (hc : c.kind = .mark .closeObject) :
    Makes (⟨.mark .openObject, start, stop⟩ :: (used ++ [c])) IsValue := by
  have hclose : Makes [c] (· = [.mark .closeObject]) :=
    (Makes.nil (P := (· = [])) rfl).mark hc fun _ hps => hps ▸ rfl
  have hrow : Makes (used ++ [c]) fun ps => IsValue (.mark .openObject :: ps) :=
    h.append hclose fun ps _ hps hps' => hps' ▸ isValue_object hps
  exact hrow.mark rfl fun _ hps => hps

lemma makes_member {used : List Lexeme} {value : Except Fault (List Char)}
    (hl : l.kind = .text value) (hc : c.kind = .mark .colon) (h : Makes used IsValue) :
    Makes (l :: c :: used) IsMember := by
  have hvalue : Makes (c :: used) fun ps => ∀ q, IsMember (.scalar (.text q) :: ps) :=
    h.mark hc fun _ ⟨v, hv⟩ q => ⟨q, v, hv ▸ rfl⟩
  obtain ⟨_, start, stop⟩ := l
  obtain rfl := hl
  refine hvalue.cons trivial fun p ps hp hps => ?_
  cases hp with
  | @text q => exact hps q

section List

variable {item : Reader α}

lemma exists_of_readItems (h : ReadsValues item) {fuel : Nat} {as : List α}
    (hread : readItems item size fuel first ls = .ok (as, rest)) :
    ∃ used, ls = used ++ rest ∧ Makes used (IsRow IsValue first) := by
  induction fuel generalizing first ls as with
  | zero => cases hread
  | succ fuel ih =>
    rw [readItems] at hread
    obtain ⟨next, hnext, hread⟩ := exists_of_bind_eq_ok hread
    cases next with
    | none =>
      cases hread
      exact ⟨[], rfl, .nil (isRow_nil _ _)⟩
    | some ls₁ =>
      obtain ⟨⟨a, ls₂⟩, hitem, hread⟩ := exists_of_bind_eq_ok hread
      obtain ⟨⟨as', ls₃⟩, hitems, hread⟩ := exists_of_bind_eq_ok hread
      cases hread
      obtain ⟨front, rfl, hfront⟩ := exists_of_nextItem hnext
      obtain ⟨used, rfl, hused⟩ := h hitem
      obtain ⟨used', rfl, hused'⟩ := ih hitems
      exact ⟨front ++ (used ++ used'), by simp, hfront.makes_row hused hused'⟩

lemma ReadsValues.list (h : ReadsValues item) : ReadsValues (readList item) := by
  intro size ls as rest hread
  unfold readList at hread
  split at hread
  case h_1 start stop tail =>
    obtain ⟨⟨as', ls₁⟩, hitems, hread⟩ := exists_of_bind_eq_ok hread
    obtain ⟨ls₂, hclose, hread⟩ := exists_of_bind_eq_ok hread
    cases hread
    obtain ⟨used, rfl, hused⟩ := exists_of_readItems h hitems
    obtain ⟨c, rfl, hc⟩ := exists_of_closeList hclose
    exact ⟨⟨.mark .openList, start, stop⟩ :: (used ++ [c]), by simp, makes_list hused hc⟩
  case h_2 => cases hread

end List

section Record

variable {shape : Shape Reader δ α} {d d' : δ}

lemma exists_of_readInOrder {fs : List (Field Reader δ)} (h : ∀ f ∈ fs, ReadsValues f.value)
    {count count' : Nat} (hread : readInOrder size fs first count d ls = .ok (d', count', rest)) :
    ∃ used, ls = used ++ rest ∧ Makes used (IsRow IsValue first) := by
  induction fs generalizing first count d ls with
  | nil =>
    cases hread
    exact ⟨[], rfl, .nil (isRow_nil _ _)⟩
  | cons f fs ih =>
    obtain ⟨hf, hfs⟩ := List.forall_mem_cons.mp h
    rw [readInOrder] at hread
    obtain ⟨next, hnext, hread⟩ := exists_of_bind_eq_ok hread
    cases next with
    | none =>
      cases hread
      exact ⟨[], rfl, .nil (isRow_nil _ _)⟩
    | some ls₁ =>
      obtain ⟨⟨b, ls₂⟩, hvalue, hrest⟩ := exists_of_bind_eq_ok hread
      obtain ⟨used', rfl, hused'⟩ := ih hfs hrest
      obtain ⟨front, rfl, hfront⟩ := exists_of_nextItem hnext
      obtain ⟨used, rfl, hused⟩ := hf hvalue
      exact ⟨front ++ (used ++ used'), by simp, hfront.makes_row hused hused'⟩

lemma exists_of_nextMember (h : nextMember size first ls = .ok (some ls')) :
    ∃ front, ls = front ++ ls' ∧ Leads first front := by
  cases ls with
  | nil => cases h
  | cons l ls =>
    unfold nextMember at h
    cases first with
    | true =>
      simp only [if_true] at h
      split_ifs at h
      · cases h
      · split at h <;> cases h
        all_goals exact ⟨[], rfl, .first⟩
    | false =>
      simp only [Bool.false_eq_true, if_false] at h
      split_ifs at h with _ hcomma
      · cases h
      · cases ls with
        | nil => cases h
        | cons next ls =>
          dsimp only at h
          split at h <;> cases h
          all_goals exact ⟨[l], rfl, .comma (isMark_iff.mp hcomma)⟩

lemma exists_of_readName {name : List Char} (h : readName size ls = .ok (name, rest)) :
    ∃ l value, ls = l :: rest ∧ l.kind = .text value := by
  unfold readName at h
  split at h
  case h_1 => cases h
  case h_2 l tail =>
    split at h
    case h_1 value hl =>
      cases value with
      | error f => cases h
      | ok name =>
        cases h
        exact ⟨l, _, rfl, hl⟩
    all_goals cases h

lemma exists_of_takeColon (h : takeColon size ls = .ok rest) :
    ∃ c, ls = c :: rest ∧ c.kind = .mark .colon := by
  unfold takeColon at h
  split at h
  case h_1 => cases h
  case h_2 c tail =>
    split_ifs at h with hc
    cases h
    exact ⟨c, rfl, isMark_iff.mp hc⟩

lemma exists_of_readMember (h : ∀ f ∈ shape.fields, ReadsValues f.value) {name : List Char}
    (hread : readMember shape name size d ls = .ok (d', rest)) :
    ∃ c used, ls = c :: (used ++ rest) ∧ c.kind = .mark .colon ∧ Makes used IsValue := by
  unfold readMember at hread
  split at hread
  case h_1 =>
    obtain ⟨ls₁, hcolon, hread⟩ := exists_of_bind_eq_ok hread
    obtain ⟨ls₂, hskip, hread⟩ := exists_of_bind_eq_ok hread
    cases hread
    obtain ⟨c, rfl, hc⟩ := exists_of_takeColon hcolon
    obtain ⟨used, rfl, hused⟩ := exists_of_skipValue hskip
    exact ⟨c, used, rfl, hc, hused⟩
  case h_2 f hf =>
    split_ifs at hread
    obtain ⟨ls₁, hcolon, hread⟩ := exists_of_bind_eq_ok hread
    obtain ⟨⟨b, ls₂⟩, hvalue, hread⟩ := exists_of_bind_eq_ok hread
    cases hread
    obtain ⟨c, rfl, hc⟩ := exists_of_takeColon hcolon
    obtain ⟨used, rfl, hused⟩ := h f (List.mem_of_find?_eq_some hf) hvalue
    exact ⟨c, used, rfl, hc, hused⟩

lemma exists_of_readMembers (h : ∀ f ∈ shape.fields, ReadsValues f.value) {fuel : Nat}
    (hread : readMembers shape size fuel first d ls = .ok (d', rest)) :
    ∃ used, ls = used ++ rest ∧ Makes used (IsRow IsMember first) := by
  induction fuel generalizing first d ls with
  | zero => cases hread
  | succ fuel ih =>
    rw [readMembers] at hread
    obtain ⟨next, hnext, hread⟩ := exists_of_bind_eq_ok hread
    cases next with
    | none =>
      cases hread
      exact ⟨[], rfl, .nil (isRow_nil _ _)⟩
    | some ls₁ =>
      obtain ⟨⟨name, ls₂⟩, hname, hread⟩ := exists_of_bind_eq_ok hread
      obtain ⟨⟨d₁, ls₃⟩, hmember, hrest⟩ := exists_of_bind_eq_ok hread
      obtain ⟨used', rfl, hused'⟩ := ih hrest
      obtain ⟨front, rfl, hfront⟩ := exists_of_nextMember hnext
      obtain ⟨l, value, rfl, hl⟩ := exists_of_readName hname
      obtain ⟨c, used, rfl, hc, hused⟩ := exists_of_readMember h hmember
      exact ⟨front ++ (l :: c :: used ++ used'), by simp,
        hfront.makes_row (makes_member hl hc hused) hused'⟩

lemma ReadsValues.record (h : ∀ f ∈ shape.fields, ReadsValues f.value) :
    ReadsValues (readRecord shape) := by
  intro size ls a rest hread
  unfold readRecord at hread
  split at hread
  case h_1 start stop tail =>
    obtain ⟨⟨d, count, ls₁⟩, hvalues, hread⟩ := exists_of_bind_eq_ok hread
    dsimp only at hread
    split at hread
    case h_1 => cases hread
    case h_2 =>
      obtain ⟨ls₂, hclose, hread⟩ := exists_of_bind_eq_ok hread
      cases hread
      obtain ⟨used, rfl, hused⟩ := exists_of_readInOrder h hvalues
      obtain ⟨c, rfl, hc⟩ := exists_of_closeList hclose
      exact ⟨⟨.mark .openList, start, stop⟩ :: (used ++ [c]), by simp, makes_list hused hc⟩
  case h_2 start stop tail =>
    obtain ⟨⟨d, ls₁⟩, hmembers, hread⟩ := exists_of_bind_eq_ok hread
    dsimp only at hread
    split at hread
    case h_1 => cases hread
    case h_2 =>
      obtain ⟨ls₂, hclose, hread⟩ := exists_of_bind_eq_ok hread
      cases hread
      obtain ⟨used, rfl, hused⟩ := exists_of_readMembers h hmembers
      obtain ⟨c, rfl, hc⟩ := exists_of_closeObject hclose
      exact ⟨⟨.mark .openObject, start, stop⟩ :: (used ++ [c]), by simp, makes_object hused hc⟩
  case h_3 => cases hread

end Record

/-! ### Layouts -/

lemma readsValues_area : ReadsValues format.area := by
  refine .record ?_
  simp only [List.forall_mem_cons]
  exact ⟨readsValues_word, readsValues_word, List.forall_mem_nil _⟩

lemma readsValues_zone : ReadsValues format.zone := by
  refine .record ?_
  simp only [List.forall_mem_cons]
  exact ⟨readsValues_word, readsValues_word.list, readsValues_area.list, List.forall_mem_nil _⟩

lemma readsValues_layout : ReadsValues format.layout :=
  .record (List.forall_mem_singleton.mpr readsValues_zone.list)

/-- A text that is read is the text of a value. -/
lemma ReadsValues.exists_isText {r : Reader α} (h : ReadsValues r) {cs : List Char} {a : α}
    (hread : parse r cs = .ok a) : ∃ v : Value, v.IsText cs := by
  have hwhole : r (byteLength cs) (lexemes cs) = .ok (a, []) := by
    unfold parse readWhole at hread
    cases hr : r (byteLength cs) (lexemes cs) with
    | error f =>
      rw [hr] at hread
      cases hread
    | ok p =>
      obtain ⟨a', ls⟩ := p
      rw [hr] at hread
      cases ls with
      | nil =>
        cases hread
        rfl
      | cons l ls => cases hread
  obtain ⟨used, hused, hmakes⟩ := h hwhole
  rw [List.append_nil] at hused
  subst hused
  obtain ⟨ps, hshows, hspaced⟩ := exists_pieces_of_isSound hmakes.isSound
  obtain ⟨v, rfl⟩ := hmakes.of_shows hshows
  exact ⟨v, hspaced⟩

end Json

/-- **Only JSON is read as a layout.** -/
theorem Layout.exists_isText_of_ofJson {cs : List Char} {l : Layout}
    (h : Layout.ofJson cs = .ok l) : ∃ v : Json.Value, v.IsText cs :=
  Json.readsValues_layout.exists_isText h

end Garage
