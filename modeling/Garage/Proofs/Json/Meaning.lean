/-
# What JSON values mean

A value means a number, a list or a record, or nothing of that kind.  To say what it means is to
give one more format (`meanings`), so that the shapes of layouts have meanings just as they have
readers.

A reader `Agrees` with a meaning if it takes each value as what it means, and fails if it means
nothing.  Members that nobody asks for are passed over, whatever their values are.  So a text is
read as what its value means (`ofJson_eq_ok_iff`).
-/
import Garage.Proofs.Json.Skipping

namespace Garage

namespace Json

/-- What values mean: none for a value that means nothing of this type. -/
abbrev Meaning (α : Type) := Value → Option α

variable {α β δ : Type} {c l : Lexeme} {ls : List Lexeme} {ps : List Piece}

/-! ### Meanings -/

def wordMeaning : Meaning UInt32
  | .scalar (.number n) =>
    match n.value? with
    | some (.integer k) => if k < 0 then none else (wordOfNat k.toNat).toOption
    | _ => none
  | _ => none

def listMeaning (item : Meaning α) : Meaning (List α)
  | .list items => items.mapM item
  | _ => none

/-- Puts a member of an object into the draft of a record. -/
def fillMember (shape : Shape Meaning δ α) (d : δ) (member : Quotation × Value) : Option δ :=
  member.1.name?.bind fun name =>
    match shape.field? name with
    | none => some d
    | some f => if f.isSet d then none else (f.value member.2).map (f.set · d)

/-- Puts the values of a list into the draft of a record. -/
def fillInOrder : List (Field Meaning δ) → δ → List Value → Option δ
  | _, d, [] => some d
  | [], _, _ :: _ => none
  | f :: fs, d, v :: items => (f.value v).bind fun b => fillInOrder fs (f.set b d) items

def recordMeaning (shape : Shape Meaning δ α) : Meaning α
  | .scalar _ => none
  | .list items => do
    let d ← fillInOrder shape.fields shape.start items
    (shape.finish d).toOption
  | .object members => do
    let d ← members.foldlM (fillMember shape) shape.start
    (shape.finish d).toOption

def meanings : Format Meaning := ⟨wordMeaning, listMeaning, recordMeaning⟩

/-! ### Agreement -/

/-- The reader takes a value as what it means, whatever comes behind it, and fails if the value
means nothing. -/
def Agrees (r : Reader α) (m : Meaning α) : Prop :=
  ∀ v size ls rest, List.Forall₂ Lexeme.Shows ls v.pieces →
    (r size (ls ++ rest)).toOption = (m v).map (·, rest)

lemma agrees_word : Agrees readWord wordMeaning := by
  intro v size ls rest h
  cases v with
  | scalar s =>
    obtain ⟨l, ls', hshows, hnil, rfl⟩ := List.forall₂_cons_right_iff.mp h
    obtain rfl := List.forall₂_nil_right_iff.mp hnil
    cases hshows with
    | @number n value hvalue start stop =>
      rw [wordMeaning, ← hvalue]
      cases value with
      | error f => rfl
      | ok x =>
        cases x with
        | real x => rfl
        | integer k =>
          simp only [List.cons_append, readWord, Except.toOption]
          by_cases hk : k < 0
          · simp [hk]
          · simp only [hk, if_false]
            cases wordOfNat k.toNat <;> rfl
    | _ => rfl
  | list items =>
    obtain ⟨start, stop, body, c, rfl, -, -⟩ := exists_of_shows_enclosed h
    rfl
  | object members =>
    obtain ⟨start, stop, body, c, rfl, -, -⟩ := exists_of_shows_enclosed h
    rfl

/-! ### Lists -/

section List

variable {item : Reader α} {meaning : Meaning α} {items : List Value}

lemma toOption_readItems_rest (h : Agrees item meaning) (items : List Value)
    (hc : c.kind = .mark .closeList) (size : Nat) {fuel : Nat} (hfuel : ls.length < fuel)
    (hls : List.Forall₂ Lexeme.Shows ls ((items.map Value.pieces).flatMap (.mark .comma :: ·)))
    (rest : List Lexeme) :
    (readItems item size fuel false (ls ++ c :: rest)).toOption =
      (items.mapM meaning).map (·, c :: rest) := by
  induction items generalizing fuel ls with
  | nil =>
    obtain rfl := List.forall₂_nil_right_iff.mp hls
    cases fuel with
    | zero => cases hfuel
    | succ fuel =>
      rw [List.nil_append, readItems, nextItem_close hc]
      rfl
  | cons v items ih =>
    cases fuel with
    | zero => cases hfuel
    | succ fuel =>
      rw [List.map_cons] at hls
      obtain ⟨comma, ls₁, ls₂, rfl, hcomma, hls₁, hls₂⟩ := exists_of_shows_commas hls
      obtain ⟨l, ls₁, rfl, hclose⟩ := exists_of_shows_pieces hls₁
      have hlt : ls₂.length < fuel := by
        simp only [List.length_cons, List.length_append] at hfuel
        omega
      rw [List.cons_append, List.append_assoc, List.cons_append, readItems,
        nextItem_comma hcomma hclose, ok_bind, List.mapM_cons]
      dsimp only
      rw [toOption_bind, ← List.cons_append, h v size _ _ hls₁]
      cases meaning v with
      | none => rfl
      | some a =>
        rw [Option.map_some, Option.bind_some, toOption_bind, ih hlt hls₂]
        cases items.mapM meaning <;> rfl

lemma toOption_readItems (h : Agrees item meaning) (hc : c.kind = .mark .closeList) (size : Nat)
    {fuel : Nat} (hfuel : ls.length + 1 < fuel)
    (hls : List.Forall₂ Lexeme.Shows ls (Piece.separated (items.map Value.pieces)))
    (rest : List Lexeme) :
    (readItems item size fuel true (ls ++ c :: rest)).toOption =
      (items.mapM meaning).map (·, c :: rest) := by
  cases items with
  | nil =>
    obtain rfl := List.forall₂_nil_right_iff.mp hls
    obtain ⟨fuel, rfl⟩ := Nat.exists_eq_add_of_lt hfuel
    rw [List.nil_append, readItems, nextItem_close hc]
    rfl
  | cons v items =>
    rw [List.map_cons, Piece.separated] at hls
    -- With a comma before it, the first item is one of those behind commas.
    have hbehind := List.Forall₂.cons (.mark .comma 0 0) hls
    obtain ⟨ls₁, ls₂, rfl, hls₁, -⟩ := exists_of_shows_append hls
    obtain ⟨l, ls₁, rfl, hclose⟩ := exists_of_shows_pieces hls₁
    rw [List.cons_append, List.cons_append, readItems_first (c := ⟨.mark .comma, 0, 0⟩) hclose rfl]
    exact toOption_readItems_rest h (v :: items) hc size hfuel hbehind rest

lemma Agrees.list (h : Agrees item meaning) : Agrees (readList item) (listMeaning meaning) := by
  intro v size ls rest hls
  cases v with
  | scalar s =>
    obtain ⟨l, ls', hshows, hnil, rfl⟩ := List.forall₂_cons_right_iff.mp hls
    cases hshows <;> rfl
  | list items =>
    rw [Value.pieces, Value.itemPieces_eq] at hls
    obtain ⟨start, stop, body, c, rfl, hc, hbody⟩ := exists_of_shows_enclosed hls
    rw [List.cons_append, List.append_assoc, List.singleton_append]
    simp only [readList, toOption_bind]
    rw [toOption_readItems h hc size (by simp) hbody rest]
    simp only [listMeaning]
    cases items.mapM meaning with
    | none => rfl
    | some as => simp [closeList_close hc]; rfl
  | object members =>
    obtain ⟨start, stop, body, c, rfl, -, -⟩ := exists_of_shows_enclosed hls
    rfl

end List

/-! ### Records -/

/-- A member of whose value the reader agrees with the meaning. -/
inductive FieldAgrees : Field Reader δ → Field Meaning δ → Prop
  | mk (name : String) {γ : Type} {r : Reader γ} {meaning : Meaning γ} (h : Agrees r meaning)
      (isSet : δ → Bool) (set : γ → δ → δ) :
      FieldAgrees ⟨name, r, isSet, set⟩ ⟨name, meaning, isSet, set⟩

/-- Two shapes of the same record. -/
structure ShapeAgrees (shape : Shape Reader δ α) (shape' : Shape Meaning δ α) : Prop where
  start : shape.start = shape'.start
  fields : List.Forall₂ FieldAgrees shape.fields shape'.fields
  finish : shape.finish = shape'.finish

section Record

variable {shape : Shape Reader δ α} {shape' : Shape Meaning δ α} {d : δ}

lemma rel_find? {fs : List (Field Reader δ)} {fs' : List (Field Meaning δ)}
    (h : List.Forall₂ FieldAgrees fs fs') (name : String) :
    Option.Rel FieldAgrees (fs.find? (·.name == name)) (fs'.find? (·.name == name)) := by
  induction h with
  | nil => exact .none
  | @cons f f' fs fs' hf _ ih =>
    have hname : f.name = f'.name := by
      cases hf
      rfl
    rw [List.find?_cons, List.find?_cons, hname]
    cases f'.name == name with
    | true => exact .some hf
    | false => exact ih

lemma toOption_readMember (h : ShapeAgrees shape shape') {q : Quotation} {v : Value}
    {name : List Char} (hname : q.characters? = some name) (hc : c.kind = .mark .colon) (size : Nat)
    (hls : List.Forall₂ Lexeme.Shows ls v.pieces) (rest : List Lexeme) :
    (readMember shape name size d (c :: (ls ++ rest))).toOption =
      (fillMember shape' d (q, v)).map (·, rest) := by
  have hcolon : ∀ ls, takeColon size (c :: ls) = .ok ls := fun ls => by
    simp [takeColon, isMark_iff.mpr hc]
  have hfield := rel_find? h.fields (String.ofList name)
  rw [← Shape.field?, ← Shape.field?] at hfield
  simp only [readMember, fillMember, Quotation.name?, hname, Option.map_some, Option.bind_some]
  generalize shape.field? (String.ofList name) = f at hfield ⊢
  generalize shape'.field? (String.ofList name) = f' at hfield ⊢
  cases hfield with
  | none =>
    simp only [hcolon, ok_bind, skipValue_eq hls]
    rfl
  | some hf =>
    cases hf with
    | @mk _ _ r meaning hagrees isSet set =>
      dsimp only
      by_cases hset : isSet d = true
      · rw [if_pos hset, if_pos hset]
        rfl
      · rw [if_neg hset, if_neg hset]
        simp only [hcolon, ok_bind, toOption_bind, hagrees v size ls rest hls]
        cases meaning v <;> rfl

lemma toOption_readName_bind (h : ShapeAgrees shape shape') {q : Quotation} {v : Value}
    (size : Nat)
    (hls : List.Forall₂ Lexeme.Shows ls (.scalar (.text q) :: .mark .colon :: v.pieces))
    (rest : List Lexeme) :
    (readName size (ls ++ rest) >>= fun p => readMember shape p.1 size d p.2).toOption =
      (fillMember shape' d (q, v)).map (·, rest) := by
  obtain ⟨l, ls, hl, hbehind, rfl⟩ := List.forall₂_cons_right_iff.mp hls
  obtain ⟨colon, ls, ⟨⟩, hvalue, rfl⟩ := List.forall₂_cons_right_iff.mp hbehind
  cases hl with
  | @text _ value hname start stop =>
    cases value with
    | error f =>
      rw [fillMember, Quotation.name?, ← hname]
      rfl
    | ok name => exact toOption_readMember h hname.symm rfl size hvalue rest

lemma toOption_readMembers_rest (h : ShapeAgrees shape shape') (members : List (Quotation × Value))
    (hc : c.kind = .mark .closeObject) (size : Nat) {fuel : Nat} (hfuel : ls.length < fuel)
    (hls : List.Forall₂ Lexeme.Shows ls
      ((members.map fun m => .scalar (.text m.1) :: .mark .colon :: m.2.pieces).flatMap
        (.mark .comma :: ·))) (rest : List Lexeme) :
    (readMembers shape size fuel false d (ls ++ c :: rest)).toOption =
      (members.foldlM (fillMember shape') d).map (·, c :: rest) := by
  induction members generalizing fuel ls d with
  | nil =>
    obtain rfl := List.forall₂_nil_right_iff.mp hls
    cases fuel with
    | zero => cases hfuel
    | succ fuel =>
      rw [List.nil_append, readMembers, nextMember_close hc]
      rfl
  | cons m members ih =>
    cases fuel with
    | zero => cases hfuel
    | succ fuel =>
      rw [List.map_cons] at hls
      obtain ⟨comma, ls₁, ls₂, rfl, hcomma, hls₁, hls₂⟩ := exists_of_shows_commas hls
      have hlt : ls₂.length < fuel := by
        simp only [List.length_cons, List.length_append] at hfuel
        omega
      have hmember := toOption_readName_bind (d := d) h size hls₁ (ls₂ ++ c :: rest)
      obtain ⟨l, ls₁, ⟨⟩, -, rfl⟩ := List.forall₂_cons_right_iff.mp hls₁
      rw [List.cons_append, List.append_assoc, List.cons_append, readMembers,
        nextMember_comma hcomma rfl, ok_bind, List.foldlM_cons]
      dsimp only
      rw [← bind_assoc, toOption_bind, ← List.cons_append, hmember]
      cases fillMember shape' d m with
      | none => rfl
      | some d' => exact ih hlt hls₂

lemma toOption_readMembers (h : ShapeAgrees shape shape') {members : List (Quotation × Value)}
    (hc : c.kind = .mark .closeObject) (size : Nat) {fuel : Nat} (hfuel : ls.length + 1 < fuel)
    (hls : List.Forall₂ Lexeme.Shows ls (Piece.separated
      (members.map fun m => .scalar (.text m.1) :: .mark .colon :: m.2.pieces)))
    (rest : List Lexeme) :
    (readMembers shape size fuel true d (ls ++ c :: rest)).toOption =
      (members.foldlM (fillMember shape') d).map (·, c :: rest) := by
  cases members with
  | nil =>
    obtain rfl := List.forall₂_nil_right_iff.mp hls
    obtain ⟨fuel, rfl⟩ := Nat.exists_eq_add_of_lt hfuel
    rw [List.nil_append, readMembers, nextMember_close hc]
    rfl
  | cons m members =>
    rw [List.map_cons, Piece.separated] at hls
    have hbehind := List.Forall₂.cons (.mark .comma 0 0) hls
    obtain ⟨l, ls, ⟨⟩, -, rfl⟩ := List.forall₂_cons_right_iff.mp hls
    rw [List.cons_append, readMembers_first rfl (c := ⟨.mark .comma, 0, 0⟩) rfl]
    exact toOption_readMembers_rest h (m :: members) hc size hfuel hbehind rest

/-! #### Without names -/

lemma toOption_closeList_eq_none (hl : l.kind ≠ .mark .closeList) (size : Nat) (ls : List Lexeme) :
    (closeList size (l :: ls)).toOption = none := by
  simp only [closeList, isMark_eq_false_iff.mpr hl, Bool.false_eq_true, if_false]
  split
  · split
    · rfl
    · split <;> rfl
  · rfl

/-- Reads values into a draft, and the end of the list behind them. -/
def readInOrderAndClose (fs : List (Field Reader δ)) (size : Nat) (first : Bool) (count : Nat)
    (d : δ) (ls : List Lexeme) : Option (δ × List Lexeme) :=
  (readInOrder size fs first count d ls).toOption.bind fun p =>
    (closeList size p.2.2).toOption.map (p.1, ·)

lemma readInOrderAndClose_nil (fs : List (Field Reader δ)) (hc : c.kind = .mark .closeList)
    (size : Nat) (first : Bool) (count : Nat) (d : δ) (rest : List Lexeme) :
    readInOrderAndClose fs size first count d (c :: rest) = some (d, rest) := by
  cases fs with
  | nil => simp [readInOrderAndClose, readInOrder, closeList_close hc, Except.toOption]
  | cons f fs =>
    rw [readInOrderAndClose, readInOrder, nextItem_close hc]
    simp only [ok_bind, pure, Except.pure, Except.toOption, Option.bind_some,
      closeList_close hc, Option.map_some]

lemma readInOrderAndClose_of_nil (hl : l.kind ≠ .mark .closeList) (size : Nat) (first : Bool)
    (count : Nat) (d : δ) (ls : List Lexeme) :
    readInOrderAndClose [] size first count d (l :: ls) = none := by
  have hclose := toOption_closeList_eq_none hl size ls
  rw [readInOrderAndClose, readInOrder]
  simp only [Except.toOption, Option.bind_some] at hclose ⊢
  rw [hclose, Option.map_none]

/-- The first value is read like one behind a comma. -/
lemma readInOrderAndClose_first (fs : List (Field Reader δ)) (hl : l.kind ≠ .mark .closeList)
    (hc : c.kind = .mark .comma) (size count : Nat) (d : δ) (ls : List Lexeme) :
    readInOrderAndClose fs size true count d (l :: ls) =
      readInOrderAndClose fs size false count d (c :: l :: ls) := by
  cases fs with
  | nil =>
    rw [readInOrderAndClose_of_nil hl, readInOrderAndClose_of_nil]
    rw [hc]
    rintro ⟨⟩
  | cons f fs =>
    rw [readInOrderAndClose, readInOrderAndClose, readInOrder, readInOrder, nextItem_first hl,
      nextItem_comma hc hl]
    rfl

lemma readInOrderAndClose_rest {fs : List (Field Reader δ)} {fs' : List (Field Meaning δ)}
    (h : List.Forall₂ FieldAgrees fs fs') (items : List Value) (hc : c.kind = .mark .closeList)
    (size count : Nat) (d : δ)
    (hls : List.Forall₂ Lexeme.Shows ls ((items.map Value.pieces).flatMap (.mark .comma :: ·)))
    (rest : List Lexeme) :
    readInOrderAndClose fs size false count d (ls ++ c :: rest) =
      (fillInOrder fs' d items).map (·, rest) := by
  induction items generalizing fs fs' count d ls with
  | nil =>
    obtain rfl := List.forall₂_nil_right_iff.mp hls
    rw [List.nil_append, readInOrderAndClose_nil fs hc, fillInOrder, Option.map_some]
  | cons v items ih =>
    rw [List.map_cons] at hls
    obtain ⟨comma, ls₁, ls₂, rfl, hcomma, hls₁, hls₂⟩ := exists_of_shows_commas hls
    cases h with
    | nil =>
      rw [List.cons_append, readInOrderAndClose_of_nil (by simp [hcomma]), fillInOrder,
        Option.map_none]
    | @cons f f' fs fs' hf hfs =>
      obtain ⟨l, ls₁, rfl, hl⟩ := exists_of_shows_pieces hls₁
      cases hf with
      | @mk name _ r meaning hagrees isSet set =>
        have hread := hagrees v size _ (ls₂ ++ c :: rest) hls₁
        rw [List.cons_append, List.append_assoc, List.cons_append, readInOrderAndClose, readInOrder,
          nextItem_comma hcomma hl, ok_bind]
        dsimp only
        rw [toOption_bind, ← List.cons_append, hread, fillInOrder]
        dsimp only
        cases meaning v with
        | none => rfl
        | some b => exact ih hfs (count + 1) (set b d) hls₂

lemma readInOrderAndClose_eq {fs : List (Field Reader δ)} {fs' : List (Field Meaning δ)}
    (h : List.Forall₂ FieldAgrees fs fs') {items : List Value} (hc : c.kind = .mark .closeList)
    (size count : Nat) (d : δ)
    (hls : List.Forall₂ Lexeme.Shows ls (Piece.separated (items.map Value.pieces)))
    (rest : List Lexeme) :
    readInOrderAndClose fs size true count d (ls ++ c :: rest) =
      (fillInOrder fs' d items).map (·, rest) := by
  cases items with
  | nil =>
    obtain rfl := List.forall₂_nil_right_iff.mp hls
    rw [List.nil_append, readInOrderAndClose_nil fs hc, fillInOrder, Option.map_some]
  | cons v items =>
    rw [List.map_cons, Piece.separated] at hls
    have hbehind := List.Forall₂.cons (.mark .comma 0 0) hls
    obtain ⟨ls₁, ls₂, rfl, hls₁, -⟩ := exists_of_shows_append hls
    obtain ⟨l, ls₁, rfl, hl⟩ := exists_of_shows_pieces hls₁
    rw [List.cons_append, List.cons_append,
      readInOrderAndClose_first fs hl (c := ⟨.mark .comma, 0, 0⟩) rfl]
    exact readInOrderAndClose_rest h (v :: items) hc size count d hbehind rest

lemma readRecord_openList (start stop size : Nat) (ls : List Lexeme) :
    (readRecord shape size (⟨.mark .openList, start, stop⟩ :: ls)).toOption =
      (readInOrderAndClose shape.fields size true 0 shape.start ls).bind fun p =>
        (shape.finish p.1).toOption.map (·, p.2) := by
  simp only [readRecord, toOption_bind, readInOrderAndClose, Option.bind_assoc]
  congr 1
  funext p
  cases hfinish : shape.finish p.1 with
  | error name =>
    cases closeList size p.2.2 <;>
      simp [hfinish, Except.toOption, throw, throwThe, MonadExceptOf.throw]
  | ok a => cases closeList size p.2.2 <;> simp [hfinish, Except.toOption]

lemma Agrees.record (h : ShapeAgrees shape shape') :
    Agrees (readRecord shape) (recordMeaning shape') := by
  intro v size ls rest hls
  cases v with
  | scalar s =>
    obtain ⟨l, ls', hshows, hnil, rfl⟩ := List.forall₂_cons_right_iff.mp hls
    cases hshows <;> rfl
  | list items =>
    rw [Value.pieces, Value.itemPieces_eq] at hls
    obtain ⟨start, stop, body, c, rfl, hc, hbody⟩ := exists_of_shows_enclosed hls
    rw [List.cons_append, List.append_assoc, List.singleton_append, readRecord_openList,
      readInOrderAndClose_eq h.fields hc size 0 _ hbody, recordMeaning, h.start, h.finish]
    cases fillInOrder shape'.fields shape'.start items <;> rfl
  | object members =>
    rw [Value.pieces, Value.memberPieces_eq] at hls
    obtain ⟨start, stop, body, c, rfl, hc, hbody⟩ := exists_of_shows_enclosed hls
    rw [List.cons_append, List.append_assoc, List.singleton_append, readRecord, toOption_bind,
      toOption_readMembers h hc size (by simp) hbody, recordMeaning, h.start, h.finish]
    cases members.foldlM (fillMember shape') shape'.start with
    | none => rfl
    | some d =>
      simp only [Option.map_some, Option.bind_some]
      cases hfinish : shape'.finish d with
      | error name => simp [hfinish]; rfl
      | ok a => simp [hfinish, closeObject_close hc]; rfl

end Record

/-! ### Layouts -/

lemma agrees_area : Agrees format.area meanings.area :=
  .record ⟨rfl, .cons (.mk _ agrees_word _ _) (.cons (.mk _ agrees_word _ _) .nil), rfl⟩

lemma agrees_zone : Agrees format.zone meanings.zone :=
  .record ⟨rfl, .cons (.mk _ agrees_word _ _) (.cons (.mk _ agrees_word.list _ _)
    (.cons (.mk _ agrees_area.list _ _) .nil)), rfl⟩

lemma agrees_layout : Agrees format.layout meanings.layout :=
  .record ⟨rfl, .cons (.mk _ agrees_zone.list _ _) .nil, rfl⟩

lemma Agrees.toOption_parse {r : Reader α} {meaning : Meaning α} (h : Agrees r meaning) {v : Value}
    {cs : List Char} (hv : v.IsText cs) : (parse r cs).toOption = meaning v := by
  have hread := h v (byteLength cs) (lexemes cs) [] hv.shows_lexemes
  rw [List.append_nil] at hread
  rw [parse, readWhole]
  cases hm : meaning v with
  | none =>
    rw [hm, Option.map_none] at hread
    obtain ⟨f, hf⟩ := toOption_eq_none_iff.mp hread
    rw [hf]
    rfl
  | some a =>
    rw [hm, Option.map_some] at hread
    rw [toOption_eq_some_iff.mp hread]
    rfl

end Json

/-- A well-formed text is read as what its value means. -/
theorem Layout.ofJson_eq_ok_iff {v : Json.Value} {cs : List Char} (hv : v.IsText cs) {l : Layout} :
    Layout.ofJson cs = .ok l ↔ Json.meanings.layout v = some l := by
  rw [← Json.agrees_layout.toOption_parse hv, Json.toOption_eq_some_iff, ofJson]

end Garage
