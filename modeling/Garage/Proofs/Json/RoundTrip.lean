/-
# Layouts in JSON

The JSON text of a layout is read as the layout.  A text `Spells` a value for a reader if it is cut
into lexemes of certain kinds, whatever offsets they have, and if the reader takes just these from
the front of all lexemes that there are.

* `Reads.list`, `Reads.record`: lists and records are read if their parts are.
* `spelling`: how `Layout.json` spells numbers, lists and records, and `correspondence`: that the
  readers of JSON read them.
* `Layout.ofJson_json`: the round trip.
-/
import Garage.Json.Reader
import Garage.Layout.Read
import Garage.Layout.Text
import Garage.Proofs.Json.Cutting
import Garage.Proofs.Spelling

namespace Garage

namespace Json

variable {α δ : Type} {c l : Lexeme} {ls rest : List Lexeme} {kss : List (List Kind)} {m : Mark}

lemma isMark_iff : l.isMark m = true ↔ l.kind = .mark m := by
  unfold Lexeme.isMark
  split
  case h_1 n hn => simp [hn, eq_comm]
  case h_2 hn => simpa using hn m

lemma isMark_eq_false_iff : l.isMark m = false ↔ l.kind ≠ .mark m := by
  rw [ne_eq, ← isMark_iff, Bool.not_eq_true]

/-! ### Taking lexemes -/

/-- The reader takes lexemes of these kinds as `a`, whatever comes behind them. -/
def Reads (r : Reader α) (a : α) (ks : List Kind) : Prop :=
  ∀ size ls rest, ls.map (·.kind) = ks → r size (ls ++ rest) = .ok (a, rest)

/-- Kinds that may stand where an item may come or the list may end. -/
def StartsValue (ks : List Kind) : Prop := ∃ k ks', ks = k :: ks' ∧ k ≠ .mark .closeList

/-- Kinds of lexemes with commas between them. -/
def separated : List (List Kind) → List Kind
  | [] => []
  | ks :: kss => ks ++ kss.flatMap (.mark .comma :: ·)

/-- Kinds of lexemes between marks. -/
def enclosed (first last : Mark) (kss : List (List Kind)) : List Kind :=
  .mark first :: separated kss ++ [.mark last]

lemma reads_word (n : UInt32) : Reads readWord n [.number (.ok (.integer n.toNat))] := by
  intro size ls rest hls
  obtain ⟨⟨_, start, stop⟩, ls, rfl, rfl, hls⟩ := List.map_eq_cons_iff.mp hls
  obtain rfl := List.map_eq_nil_iff.mp (List.cons.inj hls).2
  have hword : wordOfNat n.toNat = .ok n := by
    rw [wordOfNat, if_pos n.toNat_lt_size]
    simp
  simp [readWord, hword, Int.not_ofNat_neg]

/-! ### Lists -/

section List

variable {item : Reader α} {as : List α}

lemma nextItem_first (hl : l.kind ≠ .mark .closeList) (size : Nat) (ls : List Lexeme) :
    nextItem size true (l :: ls) = .ok (some (l :: ls)) := by
  simp [nextItem, isMark_eq_false_iff.mpr hl]

lemma nextItem_comma (hc : c.kind = .mark .comma) (hl : l.kind ≠ .mark .closeList) (size : Nat)
    (ls : List Lexeme) : nextItem size false (c :: l :: ls) = .ok (some (l :: ls)) := by
  have hclose : c.isMark .closeList = false := by
    rw [isMark_eq_false_iff, hc]
    rintro ⟨⟩
  simp [nextItem, hclose, isMark_iff.mpr hc, isMark_eq_false_iff.mpr hl]

lemma nextItem_close (hc : c.kind = .mark .closeList) (size : Nat) (first : Bool)
    (ls : List Lexeme) : nextItem size first (c :: ls) = .ok none := by
  simp [nextItem, isMark_iff.mpr hc]

lemma closeList_close (hc : c.kind = .mark .closeList) (size : Nat) (ls : List Lexeme) :
    closeList size (c :: ls) = .ok ls := by
  simp [closeList, isMark_iff.mpr hc]

/-- The first item is read like one behind a comma. -/
lemma readItems_first (hl : l.kind ≠ .mark .closeList) (hc : c.kind = .mark .comma)
    (size fuel : Nat) (ls : List Lexeme) :
    readItems item size fuel true (l :: ls) = readItems item size fuel false (c :: l :: ls) := by
  cases fuel with
  | zero => rfl
  | succ fuel =>
    rw [readItems, readItems, nextItem_first hl, nextItem_comma hc hl]
    rfl

lemma readItems_rest (h : List.Forall₂ (fun a ks => Reads item a ks ∧ StartsValue ks) as kss)
    (hc : c.kind = .mark .closeList) (size : Nat) {fuel : Nat} (hfuel : ls.length < fuel)
    (hls : ls.map (·.kind) = kss.flatMap (.mark .comma :: ·)) (rest : List Lexeme) :
    readItems item size fuel false (ls ++ c :: rest) = .ok (as, c :: rest) := by
  induction h generalizing fuel ls with
  | nil =>
    obtain rfl := List.map_eq_nil_iff.mp hls
    cases fuel with
    | zero => cases hfuel
    | succ fuel =>
      rw [List.nil_append, readItems, nextItem_close hc]
      rfl
  | @cons a ks as kss hitem hrest ih =>
    cases fuel with
    | zero => cases hfuel
    | succ fuel =>
      obtain ⟨hreads, k, ks', rfl, hk⟩ := hitem
      rw [List.flatMap_cons, List.cons_append] at hls
      obtain ⟨comma, ls, rfl, hcomma, hls⟩ := List.map_eq_cons_iff.mp hls
      obtain ⟨ls₁, ls₂, rfl, hls₁, hls₂⟩ := List.map_eq_append_iff.mp hls
      obtain ⟨l, ls₁, rfl, hl, -⟩ := List.map_eq_cons_iff.mp hls₁
      subst hl
      have hread := hreads size _ (ls₂ ++ c :: rest) hls₁
      have hlt : ls₂.length < fuel := by
        simp only [List.length_cons, List.length_append] at hfuel
        omega
      rw [List.cons_append] at hread
      rw [List.cons_append, List.append_assoc, List.cons_append, readItems,
        nextItem_comma hcomma hk]
      simp only [bind, Except.bind, hread, ih hlt hls₂]
      rfl

lemma readItems_separated (h : List.Forall₂ (fun a ks => Reads item a ks ∧ StartsValue ks) as kss)
    (hc : c.kind = .mark .closeList) (size : Nat) {fuel : Nat} (hfuel : ls.length + 1 < fuel)
    (hls : ls.map (·.kind) = separated kss) (rest : List Lexeme) :
    readItems item size fuel true (ls ++ c :: rest) = .ok (as, c :: rest) := by
  cases h with
  | nil =>
    obtain rfl := List.map_eq_nil_iff.mp hls
    obtain ⟨fuel, rfl⟩ := Nat.exists_eq_add_of_lt hfuel
    rw [List.nil_append, readItems, nextItem_close hc]
    rfl
  | @cons a ks as kss hitem hrest =>
    obtain ⟨k, ks', rfl, hk⟩ := hitem.2
    obtain ⟨l, ls, rfl, rfl, hls'⟩ := List.map_eq_cons_iff.mp hls
    have hlt : List.length (⟨.mark .comma, 0, 0⟩ :: l :: ls) < fuel := hfuel
    rw [List.cons_append, readItems_first (c := ⟨.mark .comma, 0, 0⟩) hk rfl]
    refine readItems_rest (.cons hitem hrest) hc size hlt ?_ rest
    rw [List.map_cons, hls]
    rfl

lemma Reads.list (h : List.Forall₂ (fun a ks => Reads item a ks ∧ StartsValue ks) as kss) :
    Reads (readList item) as (enclosed .openList .closeList kss) := by
  intro size ls rest hls
  obtain ⟨⟨_, start, stop⟩, body, c, rfl, rfl, hc, hbody⟩ := exists_of_map_eq_enclosed hls
  rw [List.cons_append, List.append_assoc, List.singleton_append]
  simp only [readList, bind, Except.bind]
  rw [readItems_separated h hc size (by simp) hbody rest]
  simp only [closeList_close hc]
  rfl

end List

/-! ### Records -/

section Record

variable {shape : Shape Reader δ α} {d d' : δ}

lemma nextMember_first {value : Except Fault (List Char)} (hl : l.kind = .text value) (size : Nat)
    (ls : List Lexeme) : nextMember size true (l :: ls) = .ok (some (l :: ls)) := by
  have hclose : l.isMark .closeObject = false := by
    rw [isMark_eq_false_iff, hl]
    rintro ⟨⟩
  simp [nextMember, hclose, hl]

lemma nextMember_comma {value : Except Fault (List Char)} (hc : c.kind = .mark .comma)
    (hl : l.kind = .text value) (size : Nat) (ls : List Lexeme) :
    nextMember size false (c :: l :: ls) = .ok (some (l :: ls)) := by
  have hclose : c.isMark .closeObject = false := by
    rw [isMark_eq_false_iff, hc]
    rintro ⟨⟩
  simp [nextMember, hclose, isMark_iff.mpr hc, hl]

lemma nextMember_close (hc : c.kind = .mark .closeObject) (size : Nat) (first : Bool)
    (ls : List Lexeme) : nextMember size first (c :: ls) = .ok none := by
  simp [nextMember, isMark_iff.mpr hc]

lemma closeObject_close (hc : c.kind = .mark .closeObject) (size : Nat) (ls : List Lexeme) :
    closeObject size (c :: ls) = .ok ls := by
  simp [closeObject, isMark_iff.mpr hc]

/-- The first member is read like one behind a comma. -/
lemma readMembers_first {value : Except Fault (List Char)} (hl : l.kind = .text value)
    (hc : c.kind = .mark .comma) (size fuel : Nat) (d : δ) (ls : List Lexeme) :
    readMembers shape size fuel true d (l :: ls) =
      readMembers shape size fuel false d (c :: l :: ls) := by
  cases fuel with
  | zero => rfl
  | succ fuel =>
    rw [readMembers, readMembers, nextMember_first hl, nextMember_comma hc hl]
    rfl

/-- A member of the shape that is not in the draft yet. -/
lemma readMember_of_reads {name : String} {f : Field Reader δ} {b : f.β} {ks : List Kind}
    (hfield : shape.field? name = some f) (hset : f.isSet d = false) (hread : Reads f.value b ks)
    (hc : c.kind = .mark .colon) (hls : ls.map (·.kind) = ks) (size : Nat) (rest : List Lexeme) :
    readMember shape name.toList size d (c :: (ls ++ rest)) = .ok (f.set b d, rest) := by
  simp [readMember, hfield, hset, takeColon, isMark_iff.mpr hc, hread size ls rest hls, bind,
    Except.bind, pure, Except.pure]

/-- The kinds of the lexemes of a member. -/
def memberKinds (m : String × List Kind) : List Kind :=
  .text (.ok m.1.toList) :: .mark .colon :: m.2

lemma readMembers_rest {members : List (String × List Kind)}
    (h : Fills (fun _ => Reads) shape d members d') (hc : c.kind = .mark .closeObject) (size : Nat)
    {fuel : Nat} (hfuel : ls.length < fuel)
    (hls : ls.map (·.kind) = (members.map memberKinds).flatMap (.mark .comma :: ·))
    (rest : List Lexeme) :
    readMembers shape size fuel false d (ls ++ c :: rest) = .ok (d', c :: rest) := by
  induction h generalizing fuel ls with
  | nil d =>
    obtain rfl := List.map_eq_nil_iff.mp hls
    cases fuel with
    | zero => cases hfuel
    | succ fuel =>
      rw [List.nil_append, readMembers, nextMember_close hc]
      rfl
  | @cons name f b ks d d' members _ hfield hset hread hrest ih =>
    cases fuel with
    | zero => cases hfuel
    | succ fuel =>
      rw [List.map_cons, List.flatMap_cons, memberKinds, List.cons_append] at hls
      obtain ⟨comma, ls', rfl, hcomma, hname⟩ := List.map_eq_cons_iff.mp hls
      obtain ⟨l, ls', rfl, hl, hbehind⟩ := List.map_eq_cons_iff.mp hname
      obtain ⟨colon, ls', rfl, hcolon, hvalue⟩ := List.map_eq_cons_iff.mp hbehind
      obtain ⟨ls₁, ls₂, rfl, hls₁, hls₂⟩ := List.map_eq_append_iff.mp hvalue
      have hmember := readMember_of_reads hfield hset hread hcolon hls₁ size (ls₂ ++ c :: rest)
      have hlt : ls₂.length < fuel := by
        simp only [List.length_cons, List.length_append] at hfuel
        omega
      simp only [List.cons_append, List.append_assoc]
      rw [readMembers, nextMember_comma hcomma hl]
      simp only [bind, Except.bind, readName, hl, Except.map, hmember, ih hlt hls₂]

lemma readMembers_separated {members : List (String × List Kind)}
    (h : Fills (fun _ => Reads) shape d members d') (hc : c.kind = .mark .closeObject) (size : Nat)
    {fuel : Nat} (hfuel : ls.length + 1 < fuel)
    (hls : ls.map (·.kind) = separated (members.map memberKinds)) (rest : List Lexeme) :
    readMembers shape size fuel true d (ls ++ c :: rest) = .ok (d', c :: rest) := by
  cases h with
  | nil =>
    obtain rfl := List.map_eq_nil_iff.mp hls
    obtain ⟨fuel, rfl⟩ := Nat.exists_eq_add_of_lt hfuel
    rw [List.nil_append, readMembers, nextMember_close hc]
    rfl
  | @cons name f b ks d d' members hname hfield hset hread hrest =>
    obtain ⟨l, ls, rfl, hl, hls'⟩ := List.map_eq_cons_iff.mp hls
    have hlt : List.length (⟨.mark .comma, 0, 0⟩ :: l :: ls) < fuel := hfuel
    rw [List.cons_append, readMembers_first (c := ⟨.mark .comma, 0, 0⟩) hl rfl]
    refine readMembers_rest (.cons hname hfield hset hread hrest) hc size hlt ?_ rest
    rw [List.map_cons, hls]
    rfl

lemma Reads.record {members : List (String × List Kind)} {a : α}
    (h : Fills (fun _ => Reads) shape shape.start members d) (hfinish : shape.finish d = .ok a) :
    Reads (readRecord shape) a (enclosed .openObject .closeObject (members.map memberKinds)) := by
  intro size ls rest hls
  obtain ⟨⟨_, start, stop⟩, body, c, rfl, rfl, hc, hbody⟩ := exists_of_map_eq_enclosed hls
  rw [List.cons_append, List.append_assoc, List.singleton_append]
  simp only [readRecord, bind, Except.bind]
  rw [readMembers_separated h hc size (by simp) hbody rest]
  simp only [hfinish, closeObject_close hc]
  rfl

end Record

/-! ### Texts -/

/-- The text is cut into lexemes of these kinds if it ends there or a mark follows. -/
def CutInto (cs : List Char) (ks : List Kind) : Prop :=
  ∀ rest, AtMark rest → Cuts (cs ++ rest) ks rest

/-- The text spells a value that the reader reads as `a`. -/
def Spells (r : Reader α) (a : α) (cs : List Char) : Prop :=
  ∃ ks, CutInto cs ks ∧ Reads r a ks ∧ StartsValue ks

lemma commaSeparated_cons (cs : List Char) (texts : List (List Char)) :
    commaSeparated (cs :: texts) = cs ++ texts.flatMap (',' :: ·) := by
  induction texts generalizing cs with
  | nil => simp [commaSeparated]
  | cons cs' texts ih =>
    rw [commaSeparated, ih, List.flatMap_cons, List.cons_append]
    exact List.cons_ne_nil _ _

/-- Behind an item there is a comma, or what comes behind all of them. -/
lemma AtMark.flatMap {rest : List Char} (hrest : AtMark rest) (texts : List (List Char)) :
    AtMark (texts.flatMap (',' :: ·) ++ rest) := by
  cases texts with
  | nil => exact hrest
  | cons cs texts => exact fun c hc => Option.some.inj hc ▸ rfl

lemma cutInto_flatMap {texts : List (List Char)} (h : List.Forall₂ CutInto texts kss) :
    CutInto (texts.flatMap (',' :: ·)) (kss.flatMap (.mark .comma :: ·)) := by
  induction h with
  | nil =>
    intro rest _
    exact Cuts.refl rest
  | @cons cs ks texts kss hhead _ ih =>
    intro rest hrest
    rw [List.flatMap_cons, List.flatMap_cons, List.append_assoc, List.cons_append]
    exact ((cuts_mark rfl rfl _).append (hhead _ (hrest.flatMap texts))).append (ih rest hrest)

lemma cutInto_enclosed {texts : List (List Char)} (h : List.Forall₂ CutInto texts kss)
    {o c : Char} {first last : Mark} (ho : isBlank o = false) (hfirst : Mark.ofChar? o = some first)
    (hc : isBlank c = false) (hlast : Mark.ofChar? c = some last) :
    CutInto (o :: commaSeparated texts ++ [c]) (enclosed first last kss) := by
  intro rest _
  have hopen := cuts_mark ho hfirst
  have hclose := cuts_mark hc hlast rest
  have hmark : AtMark (c :: rest) := fun d hd => by
    obtain rfl := Option.some.inj hd
    simp [hlast]
  cases h with
  | nil => exact (hopen _).append hclose
  | cons hhead htail =>
    rw [commaSeparated_cons, List.append_assoc, List.singleton_append, List.cons_append,
      List.append_assoc]
    exact ((hopen _).append ((hhead _ (hmark.flatMap _)).append
      (cutInto_flatMap htail _ hmark))).append hclose

lemma cutInto_member {name : String} {cs : List Char} {ks : List Kind} (h : CutInto cs ks) :
    CutInto (member name cs) (memberKinds (name, ks)) := by
  intro rest hrest
  rw [member, List.append_assoc, List.cons_append]
  exact ((cuts_quoted _ _).append (cuts_mark rfl rfl _)).append (h rest hrest)

/-! ### Layouts -/

/-- How numbers, lists and records are written. -/
def spelling : Spelling (List Char) (List Char) (List Char) where
  item n := number n.toNat
  value n := number n.toNat
  list := array
  record members := object (members.map fun m => member m.1 m.2)
  document members := object (members.map fun m => member m.1 m.2)

lemma spells_word (n : UInt32) : Spells readWord n (number n.toNat) := by
  have hn : n.toNat < UInt64.size := Nat.lt_trans n.toNat_lt_size (by decide)
  refine ⟨_, fun rest hrest => cuts_number hn hrest, reads_word n, _, _, rfl, ?_⟩
  rintro ⟨⟩

lemma Spells.list {r : Reader α} {as : List α} {texts : List (List Char)}
    (h : List.Forall₂ (Spells r) as texts) : Spells (readList r) as (array texts) := by
  obtain ⟨kss, hcut, hreads⟩ := exists_forall₂_of_forall (fun _ _ h => h) h
  refine ⟨_, cutInto_enclosed hcut rfl rfl rfl rfl, Reads.list hreads, _, _, rfl, ?_⟩
  rintro ⟨⟩

lemma Spells.record {shape : Shape Reader δ α} {members : List (String × List Char)} {d : δ} {a : α}
    (hfills : Fills (fun _ => Spells) shape shape.start members d)
    (hfinish : shape.finish d = .ok a) :
    Spells (readRecord shape) a (object (members.map fun m => member m.1 m.2)) := by
  have hkinds : ∀ ⦃β : Type⦄ (r : Reader β) b text, Spells r b text →
      ∃ ks, CutInto text ks ∧ Reads r b ks :=
    fun _ _ _ _ ⟨ks, hcut, hreads, _⟩ => ⟨ks, hcut, hreads⟩
  obtain ⟨members', hmembers, hfills'⟩ := hfills.exists_of_forall hkinds
  have hcut : List.Forall₂ CutInto (members.map fun m => member m.1 m.2)
      (members'.map memberKinds) := by
    rw [List.forall₂_map_left_iff, List.forall₂_map_right_iff]
    refine hmembers.imp fun m m' ⟨_, hname, hvalue⟩ => ?_
    rw [← hname]
    exact cutInto_member hvalue
  refine ⟨_, cutInto_enclosed hcut rfl rfl rfl rfl, Reads.record hfills' hfinish, _, _, rfl, ?_⟩
  rintro ⟨⟩

/-- A text that spells a value and nothing else is read. -/
lemma Spells.parse {r : Reader α} {a : α} {cs : List Char} (h : Spells r a cs) :
    parse r cs = .ok a := by
  obtain ⟨ks, hcut, hreads, -⟩ := h
  have hcuts := hcut [] (by rintro c ⟨⟩)
  rw [List.append_nil] at hcuts
  have hread := hreads (byteLength cs) (lexemes cs) [] hcuts.kinds_lexemes
  rw [List.append_nil] at hread
  rw [Json.parse, readWhole, hread]
  rfl

/-- What is written as JSON is read as JSON. -/
def correspondence : Correspondence format spelling where
  ReadsItem _ := Spells
  ReadsValue _ := Spells
  ReadsDocument _ r b cs := parse r cs = .ok b
  item := spells_word
  value := spells_word
  list := Spells.list
  record _ := Spells.record
  document _ hfills hfinish := (Spells.record hfills hfinish).parse

end Json

open Json

lemma ZoneLayout.json_eq (z : ZoneLayout) : z.json = z.spell spelling := by
  obtain ⟨id, adjacent, areas⟩ := z
  cases adjacent <;> rfl

lemma Layout.json_eq (l : Layout) : l.json = l.spell spelling := by
  rw [json, List.map_congr_left fun z _ => z.json_eq]
  rfl

/-- **What is written as JSON is read back.** -/
theorem Layout.ofJson_json (l : Layout) : Layout.ofJson l.json = .ok l := by
  rw [l.json_eq]
  exact Json.correspondence.layout l

end Garage
