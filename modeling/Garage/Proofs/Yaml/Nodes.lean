/-
# Nodes that are read

Tokens are put together to nodes, and nodes are read as values.  `Reads block flush r a ks` says
both in one: where a node may begin, tokens of the kinds `ks` are taken as a node, whatever comes
behind them, and the reader `r` reads the node as `a`.

* `Reads.flowList`, `Reads.flowRecord`: lists and records between brackets are read if their parts
  are.
* `Reads.flushList`, `Reads.record`: so are lists and records in lines of their own.
* `parse_eq_ok`: a text is read if its tokens are.
-/
import Mathlib.Tactic.Common
import Garage.Proofs.Numerals
import Garage.Proofs.Spelling
import Garage.Yaml.Reader

namespace Garage.Yaml

open Remainder

variable {α δ : Type} {r : Reader α} {a : α} {block flush : Bool} {s : Remainder} {t : Token}
  {ts rest : List Token} {ks : List TokenKind} {kss : List (List TokenKind)} {start stop : Mark}

/-! ### Readers of nodes -/

/-- The node is read as `a`, wherever it is. -/
def IsRead (r : Reader α) (a : α) (n : Node) : Prop :=
  ∀ k path jumps, r k path jumps n = .ok (a, jumps)

/-- The nodes are read as the items of a list. -/
def AreItems (item : Reader α) (as : List α) (items : List Node) : Prop :=
  ∀ k path index jumps, readItems item k path index jumps items = .ok (as, jumps)

lemma AreItems.nil : AreItems r [] [] := fun _ _ _ _ => rfl

lemma AreItems.cons {as : List α} {n : Node} {items : List Node} (h : IsRead r a n)
    (h' : AreItems r as items) : AreItems r (a :: as) (n :: items) := by
  intro k path index jumps
  simp only [readItems, bind, Except.bind, h k, h' k path]
  rfl

lemma AreItems.isRead {as : List α} {items : List Node} (h : AreItems r as items) (mark : Mark) :
    IsRead (readList r) as (.sequence mark none items) := by
  intro k path jumps
  simp only [readList, Context.resolve, bind, Except.bind, h k path]

/-- The nodes are read as the entries of a record and take its draft from one state to another. -/
def AreEntries (shape : Shape Reader δ α) (d d' : δ) (entries : List (Node × Node)) : Prop :=
  ∀ k path start jumps, readMembers shape k path start d jumps entries = .ok (d', jumps)

lemma AreEntries.nil {shape : Shape Reader δ α} {d : δ} : AreEntries shape d d [] :=
  fun _ _ _ _ => rfl

lemma AreEntries.cons {shape : Shape Reader δ α} {d d' : δ} {name : String} {f : Field Reader δ}
    {b : f.β} {value : Node} {entries : List (Node × Node)} {style : Style} {mark : Mark}
    (hfield : shape.field? name = some f) (hset : f.isSet d = false)
    (hread : IsRead f.value b value) (h : AreEntries shape (f.set b d) d' entries) :
    AreEntries shape d d' ((.scalar mark none none style name.toList, value) :: entries) := by
  intro k path start jumps
  have hname : readName k path jumps (.scalar mark none none style name.toList) =
      .ok (name.toList, jumps) := rfl
  have hmember : readMember shape k path start
      (entryStep (.scalar mark none none style name.toList)) name.toList d jumps value =
      .ok (f.set b d, jumps) := by
    simp [readMember, String.ofList_toList, hfield, hset, hread k, bind, Except.bind, pure,
      Except.pure]
  simp only [readMembers, hname, bind, Except.bind, hmember, h k path]

lemma AreEntries.isRead {shape : Shape Reader δ α} {d : δ} {entries : List (Node × Node)}
    (h : AreEntries shape shape.start d entries) (hfinish : shape.finish d = .ok a) (mark : Mark) :
    IsRead (readRecord shape) a (.mapping mark none entries) := by
  intro k path jumps
  simp only [readRecord, Context.resolve, bind, Except.bind, h k path, hfinish]
  rfl

/-! ### Numbers -/

lemma head?_number_ne {n : Nat} {c : Char} (hc : c.isDigit = false) :
    (Json.number n).head? ≠ some c := by
  obtain ⟨d, ds, hds, hd⟩ := Json.exists_number_eq_cons n
  rw [hds]
  rintro ⟨⟩
  rw [hc] at hd
  cases hd

lemma hasLeadingZero_number (n : Nat) : hasLeadingZero (Json.number n) = false := by
  have hminus : (Json.number n).head? ≠ some '-' := head?_number_ne rfl
  have hplus : (Json.number n).head? ≠ some '+' := head?_number_ne rfl
  simp only [hasLeadingZero, dropPlus, if_neg hminus, if_neg hplus]
  split
  case h_1 cs hcs => rw [Json.number_eq_zero_cons hcs]; rfl
  case h_2 => rfl

/-- Digits are no number in another base, as a zero stands alone. -/
lemma unsigned?_number (n : Nat) : unsigned? (Json.number n) = some n := by
  have hplus : (Json.number n).head? ≠ some '+' := head?_number_ne rfl
  rw [unsigned?, dropPlus, if_neg hplus, magnitude?.eq_def]
  split
  case h_4 => rw [hasLeadingZero_number, if_neg Bool.false_ne_true, Json.number?_number]
  all_goals
    rename_i hcs
    cases Json.number_eq_zero_cons hcs

lemma scalarWord_number (n : UInt32) :
    scalarWord none .plain (Json.number n.toNat) = .ok n := by
  have hlt : n.toNat < UInt64.size := Nat.lt_trans n.toNat_lt_size (by decide)
  have hunsigned : (unsigned? (Json.number n.toNat)).filter (· < UInt64.size) = some n.toNat := by
    rw [unsigned?_number, Option.filter_some, if_pos (decide_eq_true hlt)]
  have hword : wordOfNat n.toNat = .ok n := by
    rw [wordOfNat, if_pos n.toNat_lt_size]
    simp
  simp only [scalarWord, true_or, if_true, hunsigned, hword]

lemma isRead_word (n : UInt32) (mark : Mark) :
    IsRead readWord n (.scalar mark none none .plain (Json.number n.toNat)) := by
  intro k path jumps
  simp only [readWord, Context.resolve, bind, Except.bind, scalarWord_number]
  rfl

/-! ### Tokens of a node -/

@[simp] lemma goTo_tokens (s : Remainder) (ts : List Token) : (s.goTo ts).tokens = ts := rfl

@[simp] lemma goTo_goTo (s : Remainder) (ts ts' : List Token) : (s.goTo ts).goTo ts' = s.goTo ts' :=
  rfl

/-- Something else than a hyphen follows, so that a list that is not indented ends. -/
def EndsList (ts : List Token) : Prop := ∃ t ts', ts = t :: ts' ∧ t.kind ≠ .blockEntry

/-- Tokens of these kinds are taken as a node that is read as `a`. -/
def Reads (block flush : Bool) (r : Reader α) (a : α) (ks : List TokenKind) : Prop :=
  ∀ (s : Remainder) (ts rest : List Token) (fuel : Nat), ts.map (·.kind) = ks →
    s.tokens = ts ++ rest → (flush = true → EndsList rest) →
    2 * ts.length < fuel →
      ∃ n, s.takeNode fuel block flush = (n, s.goTo rest) ∧ IsRead r a n

/-- The token may be the first one of an item. -/
def beginsItem : TokenKind → Bool
  | .scalar .. | .flowSequenceStart | .flowMappingStart | .blockMappingStart => true
  | _ => false

/-- A node begins with the first of the tokens. -/
def Begins (flush : Bool) (ks : List TokenKind) : Prop :=
  ∃ k ks', ks = k :: ks' ∧ (beginsItem k = true ∨ flush = true ∧ k = .blockEntry)

lemma isAt_eq (h : s.tokens = t :: rest) (kinds : List TokenKind) :
    s.isAt kinds = kinds.contains t.kind := by
  rw [isAt, h]
  rfl

/-- No node begins with one of these tokens. -/
lemma Begins.isAt_eq_false (h : Begins flush ks) (hts : ts.map (·.kind) = ks)
    (hs : s.tokens = ts ++ rest) (kinds : List TokenKind)
    (hkinds : ∀ k ∈ kinds, beginsItem k = false ∧ (flush = true → k ≠ .blockEntry)) :
    s.isAt kinds = false := by
  obtain ⟨k, ks', rfl, hk⟩ := h
  obtain ⟨t, ts, rfl, rfl, -⟩ := List.map_eq_cons_iff.mp hts
  rw [isAt_eq hs, ← Bool.not_eq_true, List.contains_iff_mem]
  intro hmem
  obtain ⟨hitem, hentry⟩ := hkinds _ hmem
  rcases hk with hk | ⟨hflush, hk⟩
  · rw [hitem] at hk
    cases hk
  · exact hentry hflush hk

lemma Begins.exists_eq_cons (h : Begins flush (ts.map (·.kind))) : ∃ t ts', ts = t :: ts' ∧
    (beginsItem t.kind = true ∨ flush = true ∧ t.kind = .blockEntry) := by
  obtain ⟨k, ks', hks, hk⟩ := h
  obtain ⟨t, ts', rfl, rfl, -⟩ := List.map_eq_cons_iff.mp hks
  exact ⟨t, ts', rfl, hk⟩

lemma takeNode_scalar {style : Style} {text : List Char}
    (h : s.tokens = ⟨.scalar style text, start, stop⟩ :: rest) {fuel : Nat} (hfuel : 0 < fuel)
    (block flush : Bool) :
    s.takeNode fuel block flush = (.scalar start none none style text, s.goTo rest) := by
  obtain ⟨fuel, rfl⟩ := Nat.exists_eq_add_of_lt hfuel
  rw [Nat.zero_add, takeNode]
  simp [h, takeProperties, takeAnchor, takeTag]

lemma reads_word (block flush : Bool) (n : UInt32) :
    Reads block flush readWord n [.scalar .plain (Json.number n.toNat)] := by
  intro s ts rest fuel hts hs _ hfuel
  obtain ⟨⟨_, start, stop⟩, ts, rfl, rfl, hnil⟩ := List.map_eq_cons_iff.mp hts
  obtain rfl := List.map_eq_nil_iff.mp hnil
  exact ⟨_, takeNode_scalar hs (by omega) block flush, isRead_word n start⟩

/-! ### Lists between brackets -/

section FlowList

variable {as : List α} {close : Token}

lemma takeFlowItems_close (hclose : close.kind = .flowSequenceEnd) (hs : s.tokens = close :: rest)
    {fuel : Nat} (hfuel : 0 < fuel) (first : Bool) (start : Mark) :
    s.takeFlowItems fuel start first = ([], s.goTo rest) := by
  obtain ⟨fuel, rfl⟩ := Nat.exists_eq_add_of_lt hfuel
  rw [Nat.zero_add, takeFlowItems]
  cases first <;> simp [skipComma, hs, hclose]

/-- The first item is taken like one behind a comma. -/
lemma takeFlowItems_first {comma : Token} (hcomma : comma.kind = .flowEntry) (fuel : Nat)
    (start : Mark) (s : Remainder) :
    s.takeFlowItems fuel start true =
      (s.goTo (comma :: s.tokens)).takeFlowItems fuel start false := by
  cases fuel with
  | zero => rfl
  | succ fuel =>
    rw [takeFlowItems, takeFlowItems]
    simp [skipComma, goTo, hcomma]

lemma takeFlowItems_comma {comma : Token} {s₁ s₂ : Remainder} {n : Node} {items : List Node}
    {fuel : Nat} (hcomma : comma.kind = .flowEntry) (hs : s.tokens = comma :: (ts ++ rest))
    (hbegins : Begins false (ts.map (·.kind)))
    (hitem : (s.goTo (ts ++ rest)).takeNode fuel false false = (n, s₁))
    (hitems : s₁.takeFlowItems fuel start false = (items, s₂)) :
    s.takeFlowItems (fuel + 1) start false = (n :: items, s₂) := by
  obtain ⟨t, ts, rfl, hbegin⟩ := hbegins.exists_eq_cons
  have ht : beginsItem t.kind = true := hbegin.resolve_right (by simp)
  have hend : t.kind ≠ .flowSequenceEnd := by
    rintro heq
    simp [heq, beginsItem] at ht
  have hkey : t.kind ≠ .key := by
    rintro heq
    simp [heq, beginsItem] at ht
  rw [List.cons_append] at hs hitem
  rw [takeFlowItems]
  simp [skipComma, hs, hcomma, hend, hkey, hitem, hitems]

lemma takeFlowItems_rest
    (h : List.Forall₂ (fun a ks => Reads false false r a ks ∧ Begins false ks) as kss)
    (hclose : close.kind = .flowSequenceEnd) {fuel : Nat} (hfuel : 2 * ts.length < fuel)
    (hts : ts.map (·.kind) = kss.flatMap (.flowEntry :: ·)) (hs : s.tokens = ts ++ close :: rest)
    (start : Mark) : ∃ items, s.takeFlowItems fuel start false = (items, s.goTo rest) ∧
      AreItems r as items := by
  induction h generalizing s ts fuel with
  | nil =>
    obtain rfl := List.map_eq_nil_iff.mp hts
    exact ⟨[], takeFlowItems_close hclose hs (by omega) false start, .nil⟩
  | @cons a ks as kss hitem hrest ih =>
    cases fuel with
    | zero => cases hfuel
    | succ fuel =>
      rw [List.flatMap_cons, List.cons_append] at hts
      obtain ⟨comma, ts, rfl, hcomma, hts⟩ := List.map_eq_cons_iff.mp hts
      obtain ⟨ts₁, ts₂, rfl, rfl, hts₂⟩ := List.map_eq_append_iff.mp hts
      rw [List.cons_append, List.append_assoc] at hs
      simp only [List.length_cons, List.length_append] at hfuel
      obtain ⟨n, htake, hread⟩ :=
        hitem.1 (s.goTo (ts₁ ++ (ts₂ ++ close :: rest))) ts₁ _ fuel rfl rfl (by rintro ⟨⟩)
          (by omega)
      have hlt : 2 * ts₂.length < fuel := by omega
      obtain ⟨items, htakes, hreads⟩ := ih (s := s.goTo (ts₂ ++ close :: rest)) hlt hts₂ rfl
      exact ⟨n :: items, takeFlowItems_comma hcomma hs hitem.2 htake htakes, .cons hread hreads⟩

/-- Kinds of tokens with commas between them. -/
def separated : List (List TokenKind) → List TokenKind
  | [] => []
  | ks :: kss => ks ++ kss.flatMap (.flowEntry :: ·)

lemma takeFlowItems_separated
    (h : List.Forall₂ (fun a ks => Reads false false r a ks ∧ Begins false ks) as kss)
    (hclose : close.kind = .flowSequenceEnd) {fuel : Nat} (hfuel : 2 * ts.length + 2 < fuel)
    (hts : ts.map (·.kind) = separated kss) (hs : s.tokens = ts ++ close :: rest) (start : Mark) :
    ∃ items, s.takeFlowItems fuel start true = (items, s.goTo rest) ∧ AreItems r as items := by
  cases h with
  | nil =>
    obtain rfl := List.map_eq_nil_iff.mp hts
    exact ⟨[], takeFlowItems_close hclose hs (by omega) true start, .nil⟩
  | cons hitem hrest =>
    have hcomma : Token.kind ⟨.flowEntry, start, start⟩ = .flowEntry := rfl
    have hlt : 2 * List.length (⟨.flowEntry, start, start⟩ :: ts) < fuel := by
      rw [List.length_cons]
      omega
    rw [takeFlowItems_first hcomma]
    refine takeFlowItems_rest (s := s.goTo (⟨.flowEntry, start, start⟩ :: s.tokens))
      (.cons hitem hrest) hclose hlt ?_ ?_ start
    · rw [List.map_cons, hts]
      rfl
    · rw [hs]
      rfl

lemma Reads.flowList (block flush : Bool)
    (h : List.Forall₂ (fun a ks => Reads false false r a ks ∧ Begins false ks) as kss) :
    Reads block flush (readList r) as
      (.flowSequenceStart :: separated kss ++ [.flowSequenceEnd]) := by
  intro s ts rest fuel hts hs _ hfuel
  obtain ⟨⟨_, start, stop⟩, body, close, rfl, rfl, hclose, hbody⟩ := exists_of_map_eq_enclosed hts
  cases fuel with
  | zero => cases hfuel
  | succ fuel =>
    simp only [List.cons_append, List.append_assoc, List.nil_append] at hs
    simp only [List.length_cons, List.length_append, List.length_nil] at hfuel
    have hlt : 2 * body.length + 2 < fuel := by omega
    obtain ⟨items, htakes, hreads⟩ := takeFlowItems_separated
      (s := s.goTo (body ++ close :: rest)) h hclose hlt hbody rfl start
    refine ⟨.sequence start none items, ?_, hreads.isRead start⟩
    rw [takeNode]
    simp [hs, takeProperties, takeAnchor, takeTag, htakes]

end FlowList

/-! ### Records between brackets -/

section FlowRecord

variable {shape : Shape Reader δ α} {d d' : δ} {close : Token} {style : Style}
  {members : List (String × List TokenKind)}

/-- The kinds of the tokens of an entry. -/
def entryKinds (style : Style) (m : String × List TokenKind) : List TokenKind :=
  .key :: .scalar style m.1.toList :: .value :: m.2

lemma takeFlowEntries_close (hclose : close.kind = .flowMappingEnd) (hs : s.tokens = close :: rest)
    {fuel : Nat} (hfuel : 0 < fuel) (first : Bool) (start : Mark) :
    s.takeFlowEntries fuel start first = ([], s.goTo rest) := by
  obtain ⟨fuel, rfl⟩ := Nat.exists_eq_add_of_lt hfuel
  rw [Nat.zero_add, takeFlowEntries]
  cases first <;> simp [skipComma, hs, hclose]

/-- The first entry is taken like one behind a comma. -/
lemma takeFlowEntries_first {comma : Token} (hcomma : comma.kind = .flowEntry) (fuel : Nat)
    (start : Mark) (s : Remainder) : s.takeFlowEntries fuel start true =
      (s.goTo (comma :: s.tokens)).takeFlowEntries fuel start false := by
  cases fuel with
  | zero => rfl
  | succ fuel =>
    rw [takeFlowEntries, takeFlowEntries]
    simp [skipComma, goTo, hcomma]

lemma takeFlowValue_eq {value : Token} (hvalue : value.kind = .value)
    (hs : s.tokens = value :: (ts ++ rest)) (hbegins : Begins false (ts.map (·.kind)))
    (fuel : Nat) :
    s.takeFlowValue (fuel + 1) .flowMappingEnd =
      (s.goTo (ts ++ rest)).takeNode fuel false false := by
  obtain ⟨_, valueStart, valueStop⟩ := value
  subst hvalue
  have hat := hbegins.isAt_eq_false (s := s.goTo (ts ++ rest)) rfl rfl
    [.flowEntry, .flowMappingEnd] (by decide)
  rw [takeFlowValue]
  simp [hs, hat]

lemma takeFlowEntries_comma {comma key name value : Token} {text : List Char} {s₁ s₂ : Remainder}
    {n : Node} {entries : List (Node × Node)} {fuel : Nat} (hcomma : comma.kind = .flowEntry)
    (hkey : key.kind = .key) (hname : name.kind = .scalar style text) (hvalue : value.kind = .value)
    (hs : s.tokens = comma :: key :: name :: value :: (ts ++ rest))
    (hbegins : Begins false (ts.map (·.kind)))
    (hitem : (s.goTo (ts ++ rest)).takeNode fuel false false = (n, s₁))
    (hentries : s₁.takeFlowEntries (fuel + 1) start false = (entries, s₂)) :
    s.takeFlowEntries (fuel + 2) start false =
      ((.scalar name.start none none style text, n) :: entries, s₂) := by
  obtain ⟨_, nameStart, nameStop⟩ := name
  subst hname
  have hat : (s.goTo (⟨.scalar style text, nameStart, nameStop⟩ :: value :: (ts ++ rest))).isAt
      [.value, .flowEntry, .flowMappingEnd] = false :=
    isAt_eq (goTo_tokens _ _) _
  have htake := takeNode_scalar (s := s.goTo (⟨.scalar style text, nameStart, nameStop⟩ :: value ::
    (ts ++ rest))) rfl (Nat.succ_pos fuel) false false
  have htakeValue := takeFlowValue_eq (s := s.goTo (value :: (ts ++ rest))) hvalue rfl hbegins fuel
  rw [goTo_goTo] at htake htakeValue
  rw [takeFlowEntries]
  simp [skipComma, hs, hcomma, hkey, hat, htake, htakeValue, hitem, hentries]

lemma takeFlowEntries_rest
    (h : Fills (fun _ r b ks => Reads false false r b ks ∧ Begins false ks) shape d members d')
    (hclose : close.kind = .flowMappingEnd) {fuel : Nat} (hfuel : 2 * ts.length < fuel)
    (hts : ts.map (·.kind) = (members.map (entryKinds style)).flatMap (.flowEntry :: ·))
    (hs : s.tokens = ts ++ close :: rest) (start : Mark) :
    ∃ entries, s.takeFlowEntries fuel start false = (entries, s.goTo rest) ∧
      AreEntries shape d d' entries := by
  induction h generalizing s ts fuel with
  | nil d =>
    obtain rfl := List.map_eq_nil_iff.mp hts
    exact ⟨[], takeFlowEntries_close hclose hs (by omega) false start, .nil⟩
  | cons hname hfield hset hread hrest ih =>
    rw [List.map_cons, List.flatMap_cons, entryKinds, List.cons_append, List.cons_append,
      List.cons_append, List.cons_append] at hts
    obtain ⟨comma, ts, rfl, hcomma, hts⟩ := List.map_eq_cons_iff.mp hts
    obtain ⟨key, ts, rfl, hkey, hts⟩ := List.map_eq_cons_iff.mp hts
    obtain ⟨name, ts, rfl, hname, hts⟩ := List.map_eq_cons_iff.mp hts
    obtain ⟨value, ts, rfl, hvalue, hts⟩ := List.map_eq_cons_iff.mp hts
    obtain ⟨ts₁, ts₂, rfl, rfl, hts₂⟩ := List.map_eq_append_iff.mp hts
    simp only [List.cons_append, List.append_assoc] at hs
    simp only [List.length_cons, List.length_append] at hfuel
    obtain ⟨fuel, rfl⟩ : ∃ fuel', fuel = fuel' + 2 := ⟨fuel - 2, by omega⟩
    obtain ⟨n, htake, hreads⟩ :=
      hread.1 (s.goTo (ts₁ ++ (ts₂ ++ close :: rest))) ts₁ _ fuel rfl rfl (by rintro ⟨⟩) (by omega)
    have hlt : 2 * ts₂.length < fuel + 1 := by omega
    obtain ⟨entries, htakes, hentries⟩ := ih (s := s.goTo (ts₂ ++ close :: rest)) hlt hts₂ rfl
    exact ⟨_, takeFlowEntries_comma hcomma hkey hname hvalue hs hread.2 htake htakes,
      .cons hfield hset hreads hentries⟩

lemma takeFlowEntries_separated
    (h : Fills (fun _ r b ks => Reads false false r b ks ∧ Begins false ks) shape d members d')
    (hclose : close.kind = .flowMappingEnd) {fuel : Nat} (hfuel : 2 * ts.length + 2 < fuel)
    (hts : ts.map (·.kind) = separated (members.map (entryKinds style)))
    (hs : s.tokens = ts ++ close :: rest) (start : Mark) :
    ∃ entries, s.takeFlowEntries fuel start true = (entries, s.goTo rest) ∧
      AreEntries shape d d' entries := by
  cases h with
  | nil =>
    obtain rfl := List.map_eq_nil_iff.mp hts
    exact ⟨[], takeFlowEntries_close hclose hs (by omega) true start, .nil⟩
  | @cons name _ _ ks _ _ members hname hfield hset hread hrest =>
    have hcomma : Token.kind ⟨.flowEntry, start, start⟩ = .flowEntry := rfl
    have hlt : 2 * List.length (⟨.flowEntry, start, start⟩ :: ts) < fuel := by
      rw [List.length_cons]
      omega
    have hkinds : List.map Token.kind (⟨.flowEntry, start, start⟩ :: ts) =
        (((name, ks) :: members).map (entryKinds style)).flatMap (.flowEntry :: ·) := by
      rw [List.map_cons, hts]
      rfl
    rw [takeFlowEntries_first hcomma]
    refine takeFlowEntries_rest (s := s.goTo (⟨.flowEntry, start, start⟩ :: s.tokens))
      (.cons hname hfield hset hread hrest) hclose hlt hkinds ?_ start
    rw [hs]
    rfl

lemma Reads.flowRecord (block flush : Bool)
    (h : Fills (fun _ r b ks => Reads false false r b ks ∧ Begins false ks)
      shape shape.start members d)
    (hfinish : shape.finish d = .ok a) :
    Reads block flush (readRecord shape) a
      (.flowMappingStart :: separated (members.map (entryKinds style)) ++ [.flowMappingEnd]) := by
  intro s ts rest fuel hts hs _ hfuel
  obtain ⟨⟨_, start, stop⟩, body, close, rfl, rfl, hclose, hbody⟩ := exists_of_map_eq_enclosed hts
  cases fuel with
  | zero => cases hfuel
  | succ fuel =>
    simp only [List.cons_append, List.append_assoc, List.nil_append] at hs
    simp only [List.length_cons, List.length_append, List.length_nil] at hfuel
    have hlt : 2 * body.length + 2 < fuel := by omega
    obtain ⟨entries, htakes, hentries⟩ := takeFlowEntries_separated
      (s := s.goTo (body ++ close :: rest)) h hclose hlt hbody rfl start
    refine ⟨.mapping start none entries, ?_, hentries.isRead hfinish start⟩
    rw [takeNode]
    simp [hs, takeProperties, takeAnchor, takeTag, htakes]

end FlowRecord

/-! ### Lists in lines of their own -/

section FlushList

variable {as : List α}

lemma takeFlushItems_end (h : EndsList s.tokens) {fuel : Nat} (hfuel : 0 < fuel) :
    s.takeFlushItems fuel = ([], s) := by
  obtain ⟨fuel, rfl⟩ := Nat.exists_eq_add_of_lt hfuel
  obtain ⟨t, ts, hs, ht⟩ := h
  rw [Nat.zero_add, takeFlushItems]
  simp [hs, ht]

lemma takeFlushItems_hyphen {hyphen : Token} {s₁ s₂ : Remainder} {n : Node} {items : List Node}
    {fuel : Nat} (hhyphen : hyphen.kind = .blockEntry) (hs : s.tokens = hyphen :: (ts ++ rest))
    (hbegins : Begins false (ts.map (·.kind)))
    (hitem : (s.goTo (ts ++ rest)).takeNode fuel true false = (n, s₁))
    (hitems : s₁.takeFlushItems fuel = (items, s₂)) :
    s.takeFlushItems (fuel + 1) = (n :: items, s₂) := by
  have hat := hbegins.isAt_eq_false (s := s.goTo (ts ++ rest)) rfl rfl
    [.blockEntry, .key, .value, .blockEnd] (by decide)
  rw [takeFlushItems]
  simp [hs, hhyphen, hat, hitem, hitems]

lemma takeFlushItems_flatMap
    (h : List.Forall₂ (fun a ks => Reads true false r a ks ∧ Begins false ks) as kss)
    (hends : EndsList rest) {fuel : Nat} (hfuel : 2 * ts.length ≤ fuel) (hpos : 0 < fuel)
    (hts : ts.map (·.kind) = kss.flatMap (.blockEntry :: ·)) (hs : s.tokens = ts ++ rest) :
    ∃ items, s.takeFlushItems fuel = (items, s.goTo rest) ∧ AreItems r as items := by
  induction h generalizing s ts fuel with
  | nil =>
    obtain rfl := List.map_eq_nil_iff.mp hts
    rw [List.nil_append] at hs
    subst hs
    exact ⟨[], takeFlushItems_end hends hpos, .nil⟩
  | @cons a ks as kss hitem hrest ih =>
    rw [List.flatMap_cons, List.cons_append] at hts
    obtain ⟨hyphen, ts, rfl, hhyphen, hts⟩ := List.map_eq_cons_iff.mp hts
    obtain ⟨ts₁, ts₂, rfl, rfl, hts₂⟩ := List.map_eq_append_iff.mp hts
    rw [List.cons_append, List.append_assoc] at hs
    simp only [List.length_cons, List.length_append] at hfuel
    obtain ⟨fuel, rfl⟩ : ∃ fuel', fuel = fuel' + 1 := ⟨fuel - 1, by omega⟩
    obtain ⟨n, htake, hread⟩ :=
      hitem.1 (s.goTo (ts₁ ++ (ts₂ ++ rest))) ts₁ _ fuel rfl rfl (by rintro ⟨⟩) (by omega)
    have hle : 2 * ts₂.length ≤ fuel := by omega
    obtain ⟨items, htakes, hreads⟩ := ih (s := s.goTo (ts₂ ++ rest)) hle (by omega) hts₂ rfl
    exact ⟨n :: items, takeFlushItems_hyphen hhyphen hs hitem.2 htake htakes, .cons hread hreads⟩

lemma Reads.flushList (hne : as ≠ [])
    (h : List.Forall₂ (fun a ks => Reads true false r a ks ∧ Begins false ks) as kss) :
    Reads true true (readList r) as (kss.flatMap (.blockEntry :: ·)) := by
  intro s ts rest fuel hts hs hends hfuel
  cases fuel with
  | zero => cases hfuel
  | succ fuel =>
    obtain ⟨t, ts', rfl, ht⟩ : ∃ t ts', ts = t :: ts' ∧ t.kind = .blockEntry := by
      cases h with
      | nil => exact absurd rfl hne
      | cons =>
        obtain ⟨t, ts', rfl, ht, -⟩ := List.map_eq_cons_iff.mp hts
        exact ⟨t, ts', rfl, ht⟩
    have hpos : 0 < fuel := by
      rw [List.length_cons] at hfuel
      omega
    obtain ⟨items, htakes, hreads⟩ :=
      takeFlushItems_flatMap h (hends rfl) (by omega) hpos hts hs
    obtain ⟨_, start, stop⟩ := t
    subst ht
    refine ⟨.sequence start none items, ?_, hreads.isRead start⟩
    rw [takeNode]
    simp [hs, takeProperties, takeAnchor, takeTag, htakes]

end FlushList

/-! ### Records in lines of their own -/

section Record

variable {shape : Shape Reader δ α} {d d' : δ} {close : Token}
  {members : List (String × List TokenKind)}

lemma takePart_eq (hbegins : Begins true (ts.map (·.kind)))
    (hs : s.tokens = ts ++ rest) (fuel : Nat) (stop : Mark) :
    s.takePart (fuel + 1) stop = s.takeNode fuel true true := by
  have hat := hbegins.isAt_eq_false rfl hs [.key, .value, .blockEnd] (by decide)
  rw [takePart]
  simp [hat]

lemma takeEntries_close (hclose : close.kind = .blockEnd) (hs : s.tokens = close :: rest)
    {fuel : Nat} (hfuel : 0 < fuel) (start : Mark) :
    s.takeEntries fuel start = ([], s.goTo rest) := by
  obtain ⟨fuel, rfl⟩ := Nat.exists_eq_add_of_lt hfuel
  rw [Nat.zero_add, takeEntries]
  simp [hs, hclose]

lemma takeEntries_key {key name value : Token} {style : Style} {text : List Char}
    {s₁ s₂ : Remainder} {n : Node} {entries : List (Node × Node)} {fuel : Nat}
    (hkey : key.kind = .key) (hname : name.kind = .scalar style text) (hvalue : value.kind = .value)
    (hs : s.tokens = key :: name :: value :: (ts ++ rest)) (hbegins : Begins true (ts.map (·.kind)))
    (hitem : (s.goTo (ts ++ rest)).takeNode (fuel + 1) true true = (n, s₁))
    (hentries : s₁.takeEntries (fuel + 2) start = (entries, s₂)) :
    s.takeEntries (fuel + 3) start =
      ((.scalar name.start none none style text, n) :: entries, s₂) := by
  obtain ⟨_, nameStart, nameStop⟩ := name
  obtain ⟨_, valueStart, valueStop⟩ := value
  subst hname hvalue
  have hword : Begins true (List.map Token.kind [⟨.scalar style text, nameStart, nameStop⟩]) :=
    ⟨_, _, rfl, .inl rfl⟩
  have hpart := takePart_eq (s := s.goTo (⟨.scalar style text, nameStart, nameStop⟩ ::
    ⟨.value, valueStart, valueStop⟩ :: (ts ++ rest))) hword rfl (fuel + 1) key.stop
  rw [takeNode_scalar (goTo_tokens _ _) (Nat.succ_pos fuel), goTo_goTo] at hpart
  have hpart' := takePart_eq (s := s.goTo (ts ++ rest)) hbegins rfl (fuel + 1) valueStop
  rw [takeEntries]
  simp [hs, hkey, hpart, hpart', hitem, hentries]

lemma takeEntries_flatMap {style : Style}
    (h : Fills (fun _ r b ks => Reads true true r b ks ∧ Begins true ks) shape d members d')
    (hclose : close.kind = .blockEnd) {fuel : Nat} (hfuel : 2 * ts.length < fuel)
    (hts : ts.map (·.kind) = members.flatMap (entryKinds style))
    (hs : s.tokens = ts ++ close :: rest) (start : Mark) :
    ∃ entries, s.takeEntries fuel start = (entries, s.goTo rest) ∧
      AreEntries shape d d' entries := by
  induction h generalizing s ts fuel with
  | nil d =>
    obtain rfl := List.map_eq_nil_iff.mp hts
    exact ⟨[], takeEntries_close hclose hs (by omega) start, .nil⟩
  | @cons name f b ks d d' members hname hfield hset hread hrest ih =>
    rw [List.flatMap_cons, entryKinds, List.cons_append, List.cons_append, List.cons_append] at hts
    obtain ⟨key, ts, rfl, hkey, hts⟩ := List.map_eq_cons_iff.mp hts
    obtain ⟨name, ts, rfl, hname, hts⟩ := List.map_eq_cons_iff.mp hts
    obtain ⟨value, ts, rfl, hvalue, hts⟩ := List.map_eq_cons_iff.mp hts
    obtain ⟨ts₁, ts₂, rfl, rfl, hts₂⟩ := List.map_eq_append_iff.mp hts
    -- Behind the value there is another key, or the record ends.
    have hends : EndsList (ts₂ ++ close :: rest) := by
      cases members with
      | nil =>
        obtain rfl := List.map_eq_nil_iff.mp hts₂
        exact ⟨close, rest, rfl, by rw [hclose]; rintro ⟨⟩⟩
      | cons m members =>
        obtain ⟨t, ts₂, rfl, ht, -⟩ := List.map_eq_cons_iff.mp hts₂
        exact ⟨t, ts₂ ++ close :: rest, rfl, by rw [ht]; rintro ⟨⟩⟩
    simp only [List.cons_append, List.append_assoc] at hs
    simp only [List.length_cons, List.length_append] at hfuel
    obtain ⟨fuel, rfl⟩ : ∃ fuel', fuel = fuel' + 3 := ⟨fuel - 3, by omega⟩
    obtain ⟨n, htake, hreads⟩ := hread.1 (s.goTo (ts₁ ++ (ts₂ ++ close :: rest))) ts₁ _ (fuel + 1)
      rfl rfl (fun _ => hends) (by omega)
    have hlt : 2 * ts₂.length < fuel + 2 := by omega
    obtain ⟨entries, htakes, hentries⟩ := ih (s := s.goTo (ts₂ ++ close :: rest)) hlt hts₂ rfl
    exact ⟨_, takeEntries_key hkey hname hvalue hs hread.2 htake htakes,
      .cons hfield hset hreads hentries⟩

lemma Reads.record (flush : Bool) {style : Style}
    (h : Fills (fun _ r b ks => Reads true true r b ks ∧ Begins true ks)
      shape shape.start members d)
    (hfinish : shape.finish d = .ok a) :
    Reads true flush (readRecord shape) a
      (.blockMappingStart :: members.flatMap (entryKinds style) ++ [.blockEnd]) := by
  intro s ts rest fuel hts hs _ hfuel
  obtain ⟨⟨_, start, stop⟩, body, close, rfl, rfl, hclose, hbody⟩ := exists_of_map_eq_enclosed hts
  cases fuel with
  | zero => cases hfuel
  | succ fuel =>
    simp only [List.cons_append, List.append_assoc, List.nil_append] at hs
    simp only [List.length_cons, List.length_append, List.length_nil] at hfuel
    have hlt : 2 * body.length < fuel := by omega
    obtain ⟨entries, htakes, hentries⟩ := takeEntries_flatMap
      (s := s.goTo (body ++ close :: rest)) h hclose hlt hbody rfl start
    refine ⟨.mapping start none entries, ?_, hentries.isRead hfinish start⟩
    rw [takeNode]
    simp [hs, takeProperties, takeAnchor, takeTag, htakes]

end Record

/-! ### Whole texts -/

lemma Begins.isAtBoundary_eq_false (h : Begins false (ts.map (·.kind)))
    (hs : s.tokens = ts ++ rest) : s.isAtBoundary = false := by
  obtain ⟨⟨kind, start, stop⟩, ts, rfl, hbegin⟩ := h.exists_eq_cons
  have ht : beginsItem kind = true := hbegin.resolve_right (by simp)
  rw [isAtBoundary, hs]
  cases kind <;> first | rfl | cases ht

/-- A document that begins with a node. -/
lemma takeDocument_eq (hbegins : Begins false (ts.map (·.kind))) (hs : s.tokens = ts ++ rest) :
    s.takeDocument = s.takeNode (4 * s.tokens.length + 4) true false := by
  have hat := hbegins.isAt_eq_false rfl hs [.streamEnd] (by decide)
  rw [takeDocument]
  simp [hat, hbegins.isAtBoundary_eq_false hs]

/-- A document that is a node and nothing else. -/
lemma read_ofLexed {l : Lexed} (hkinds : l.tokens.map (·.kind) = ks ++ [.streamEnd])
    (hbegins : Begins false ks) (hreads : Reads true false r a ks) :
    (Document.ofLexed l).read r = .ok a := by
  obtain ⟨ts, ts', hts, rfl, hlast⟩ := List.map_eq_append_iff.mp hkinds
  obtain ⟨⟨_, start, stop⟩, ts', rfl, rfl, hnil⟩ := List.map_eq_cons_iff.mp hlast
  obtain rfl := List.map_eq_nil_iff.mp hnil
  have hs : (ofLexed l).tokens = ts ++ [⟨.streamEnd, start, stop⟩] := hts
  obtain ⟨n, htake, hread⟩ := hreads (ofLexed l) ts _ (4 * (ofLexed l).tokens.length + 4) rfl hs
    (by rintro ⟨⟩) (by rw [hs, List.length_append]; omega)
  have hdocument : Document.ofLexed l = ⟨n, none, false⟩ := by
    rw [Document.ofLexed, takeDocument_eq hbegins hs, htake]
    simp
  rw [hdocument, Document.read]
  simp only [bind, Except.bind, hread _ [] 0]
  rfl

lemma controlCharacter?_eq_none {cs : List Char} (h : ∀ c ∈ cs, isAllowed c = true) (offset : Nat) :
    controlCharacter? offset cs = none := by
  induction cs generalizing offset with
  | nil => rfl
  | cons c cs ih =>
    rw [controlCharacter?, if_pos (h c List.mem_cons_self)]
    exact ih (fun d hd => h d (List.mem_cons_of_mem _ hd)) _

/-- A text is read if its tokens are and none of its characters is forbidden. -/
theorem parse_eq_ok {cs : List Char} (hallowed : ∀ c ∈ cs, isAllowed c = true)
    (hkinds : (tokenize cs).tokens.map (·.kind) = ks ++ [.streamEnd]) (hbegins : Begins false ks)
    (hreads : Reads true false r a ks) : parse r cs = .ok a := by
  rw [parse, controlCharacter?_eq_none hallowed]
  exact read_ofLexed hkinds hbegins hreads

end Garage.Yaml
