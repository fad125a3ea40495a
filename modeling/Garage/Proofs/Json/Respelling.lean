/-
# Other spellings of a layout

The text of a layout may be spelt in many ways.  Blanks do not matter, nor does the order of the
members of an object, and members that nobody asks for may be there.  What may be left out may
also be written as an empty list.

* `Change`: one change that makes no difference, somewhere in a value.  Where a value stands, its
  `Role`, says what it is read as.
* `Respells`: one text is another one after some such changes.
* `Layout.ofJson_respelled`: then both are read as the same layout.
-/
import Mathlib.Logic.Relation
import Garage.Proofs.Json.Filling
import Garage.Proofs.Json.Wellformed

namespace Garage

namespace Json

variable {α δ : Type}

/-! ### Roles -/

/-- The kinds of records in a layout. -/
inductive Record
  | layout
  | zone
  | area
deriving DecidableEq

/-- What a value is read as. -/
inductive Role
  | record (r : Record)
  /-- A list of records. -/
  | records (r : Record)
  /-- A number, a list of numbers, or something that nobody asks for. -/
  | other
deriving DecidableEq

namespace Record

/-- The members of a record. -/
def members : Record → List (String × Role)
  | layout => [("zones", .records .zone)]
  | zone => [("id", .other), ("adjacentZones", .other), ("areas", .records .area)]
  | area => [("areaId", .other), ("slots", .other)]

/-- The members that are empty lists if they are left out. -/
def optional : Record → List String
  | zone => ["adjacentZones", "areas"]
  | _ => []

end Record

namespace Role

/-- The role of the items of a list.  A record may be written as a list of its values. -/
def item : Role → Nat → Role
  | records r, _ => record r
  | record r, i => (r.members[i]?.map (·.2)).getD other
  | other, _ => other

/-- The role of the value of a member. -/
def member : Role → Option String → Role
  | record r, some name => (r.members.lookup name).getD other
  | _, _ => other

end Role

/-! ### Changes -/

/-- One change in a value with this role. -/
inductive Change : Role → Value → Value → Prop
  | item {role : Role} {v v' : Value} (before after : List Value)
      (h : Change (role.item before.length) v v') :
      Change role (.list (before ++ v :: after)) (.list (before ++ v' :: after))
  | member {role : Role} {q : Quotation} {v v' : Value} (before after : List (Quotation × Value))
      (h : Change (role.member q.name?) v v') :
      Change role (.object (before ++ (q, v) :: after)) (.object (before ++ (q, v') :: after))
  | permute {role : Role} {ms ms' : List (Quotation × Value)} (h : ms.Perm ms') :
      Change role (.object ms) (.object ms')
  /-- A member that nobody asks for comes in. -/
  | insert {r : Record} {q : Quotation} {name : String} (hname : q.name? = some name)
      (hnew : name ∉ r.members.map (·.1)) (v : Value) (ms : List (Quotation × Value)) :
      Change (.record r) (.object ms) (.object ((q, v) :: ms))
  /-- A member that is left out is written as an empty list. -/
  | writeEmpty {r : Record} {q : Quotation} {name : String} {ms : List (Quotation × Value)}
      (hname : q.name? = some name) (hoptional : name ∈ r.optional)
      (hms : ∀ m ∈ ms, m.1.name? ≠ some name) :
      Change (.record r) (.object ms) (.object ((q, .list []) :: ms))
  /-- An empty list is left out. -/
  | leaveEmpty {r : Record} {q : Quotation} {name : String} (hname : q.name? = some name)
      (hoptional : name ∈ r.optional) (ms : List (Quotation × Value)) :
      Change (.record r) (.object ((q, .list []) :: ms)) (.object ms)

/-- The text `cs'` is the text `cs` after some changes, and with other blanks. -/
def Respells (cs cs' : List Char) : Prop :=
  ∃ v v', v.IsText cs ∧ Relation.ReflTransGen (Change (.record .layout)) v v' ∧ v'.IsText cs'

/-- No change of a value with this role makes a difference to what it means. -/
def Respects (role : Role) (meaning : Meaning α) : Prop :=
  ∀ ⦃v v' a⦄, Change role v v' → meaning v = some a → meaning v' = some a

/-- Numbers do not change. -/
lemma respects_word (role : Role) : Respects role wordMeaning := by
  intro v v' a h hv
  cases h <;> cases hv

/-- The list means the same as before if one item does. -/
lemma mapM_replace {m : Meaning α} {v v' : Value} (h : ∀ a, m v = some a → m v' = some a)
    {as : List α} (before after : List Value) (has : (before ++ v :: after).mapM m = some as) :
    (before ++ v' :: after).mapM m = some as := by
  induction before generalizing as with
  | nil =>
    rw [List.nil_append, List.mapM_cons] at has ⊢
    obtain ⟨a, ha, hafter⟩ := Option.bind_eq_some_iff.mp has
    exact Option.bind_eq_some_iff.mpr ⟨a, h a ha, hafter⟩
  | cons w before ih =>
    rw [List.cons_append, List.mapM_cons] at has ⊢
    obtain ⟨a, ha, hrest⟩ := Option.bind_eq_some_iff.mp has
    obtain ⟨as', has', heq⟩ := Option.bind_eq_some_iff.mp hrest
    exact Option.bind_eq_some_iff.mpr ⟨a, ha, Option.bind_eq_some_iff.mpr ⟨as', ih has', heq⟩⟩

lemma Respects.list {role : Role} {item : Meaning α} (h : ∀ i, Respects (role.item i) item) :
    Respects role (listMeaning item) := by
  intro v v' as hchange hv
  cases hchange with
  | item before after hitem =>
    exact mapM_replace (fun a => h before.length hitem) before after hv
  | _ => cases hv

/-! ### Records -/

/-- The shape of a record has the members of the record. -/
structure Record.Describes (r : Record) (shape : Shape Meaning δ α) : Prop where
  isOrderly : shape.IsOrderly
  members : List.Forall₂ (fun m f => m.1 = f.name ∧ Respects m.2 f.value) r.members shape.fields
  /-- To leave a member out is as good as an empty list. -/
  optional : ∀ name ∈ r.optional, ∃ f b, shape.field? name = some f ∧
    f.value (.list []) = some b ∧ ∀ d, f.isSet d = false → shape.finish (f.set b d) = shape.finish d

namespace Record.Describes

variable {r : Record} {shape : Shape Meaning δ α} {name : String} {f : Field Meaning δ} {d d' : δ}
  {q : Quotation} {v v' : Value} {ms : List (Quotation × Value)}

lemma field?_eq_none (h : r.Describes shape) (hname : name ∉ r.members.map (·.1)) :
    shape.field? name = none := by
  have hnames : r.members.map (·.1) = shape.fields.map (·.name) := by
    rw [← List.forall₂_eq_eq_eq, List.forall₂_map_left_iff, List.forall₂_map_right_iff]
    exact h.members.imp fun _ _ hm => hm.1
  rw [hnames, List.mem_map] at hname
  exact List.find?_eq_none.mpr fun f hf heq => hname ⟨f, hf, beq_iff_eq.mp heq⟩

/-- The field with a name has the role that goes with the name. -/
lemma exists_lookup_eq {members : List (String × Role)} {fs : List (Field Meaning δ)}
    (h : List.Forall₂ (fun m f => m.1 = f.name ∧ Respects m.2 f.value) members fs)
    (hf : fs.find? (·.name == name) = some f) :
    ∃ role, members.lookup name = some role ∧ Respects role f.value := by
  induction h with
  | nil => cases hf
  | @cons m g members fs hm _ ih =>
    obtain ⟨name', role⟩ := m
    obtain ⟨rfl, hrespects⟩ := hm
    by_cases hname : g.name = name
    · obtain rfl : g = f := by simpa [hname] using hf
      exact ⟨role, by simp [hname], hrespects⟩
    · rw [List.find?_cons_of_neg (by simpa using hname)] at hf
      obtain ⟨role', hlookup, hrespects'⟩ := ih hf
      exact ⟨role', by rw [List.lookup_cons, beq_false_of_ne (Ne.symm hname), hlookup], hrespects'⟩

lemma respects_member (h : r.Describes shape) (hfield : shape.field? name = some f) :
    Respects ((Role.record r).member (some name)) f.value := by
  obtain ⟨role, hlookup, hrespects⟩ := exists_lookup_eq h.members hfield
  rwa [Role.member, hlookup]

lemma respects_item (h : r.Describes shape) {i : Nat} (hf : shape.fields[i]? = some f) :
    Respects ((Role.record r).item i) f.value := by
  obtain ⟨hi, rfl⟩ := List.getElem?_eq_some_iff.mp hf
  have hi' : i < r.members.length := h.members.length_eq ▸ hi
  rw [Role.item, List.getElem?_eq_getElem hi']
  exact (List.Forall₂.get h.members hi' hi).2

/-- An empty list may be written if there is no member of this name. -/
lemma recordMeaning_empty (h : r.Describes shape) (hname : q.name? = some name)
    (hoptional : name ∈ r.optional) (hms : ∀ m ∈ ms, m.1.name? ≠ some name) :
    recordMeaning shape (.object ((q, .list []) :: ms)) = recordMeaning shape (.object ms) := by
  obtain ⟨f, b, hfield, hb, hfinish⟩ := h.optional name hoptional
  have hstart := h.isOrderly.isSet_start f (Shape.mem_of_field? hfield).1
  have hfill : fillMember shape shape.start (q, .list []) = some (f.set b shape.start) := by
    rw [fillMember_eq_ite hname hfield, hstart, hb]
    rfl
  -- What is set first may as well be set last, where it makes no difference.
  have hset := foldlM_set h.isOrderly hfield hms b shape.start
  simp only [recordMeaning, List.foldlM_cons, hfill, Option.bind_eq_bind, Option.bind_some, hset]
  cases hd : ms.foldlM (fillMember shape) shape.start with
  | none => rfl
  | some d =>
    have hunset := (isSet_of_foldlM h.isOrderly hfield hms hd).trans hstart
    exact congrArg Except.toOption (hfinish d hunset)

/-- There is no second member of the same name. -/
lemma name?_ne_of_recordMeaning (h : r.Describes shape) (hname : q.name? = some name)
    (hoptional : name ∈ r.optional) {a : α}
    (hv : recordMeaning shape (.object ((q, v) :: ms)) = some a) :
    ∀ m ∈ ms, m.1.name? ≠ some name := by
  obtain ⟨f, -, hfield, -⟩ := h.optional name hoptional
  obtain ⟨d, hd, -⟩ := Option.bind_eq_some_iff.mp hv
  obtain ⟨d₁, hfill, hrest⟩ := Option.bind_eq_some_iff.mp hd
  rw [fillMember_eq_ite hname hfield, Option.ite_none_left_eq_some, Option.map_eq_some_iff] at hfill
  obtain ⟨-, b, -, rfl⟩ := hfill
  have hset := h.isOrderly.isSet_set f (Shape.mem_of_field? hfield).1 b shape.start
  exact name?_ne_of_isSet h.isOrderly hfield hset hrest

end Record.Describes

lemma fillInOrder_replace {v v' : Value} {fs : List (Field Meaning δ)} {before after : List Value}
    (h : ∀ f, fs[before.length]? = some f → ∀ b, f.value v = some b → f.value v' = some b)
    {d d' : δ} (hd : fillInOrder fs d (before ++ v :: after) = some d') :
    fillInOrder fs d (before ++ v' :: after) = some d' := by
  induction before generalizing fs d with
  | nil =>
    cases fs with
    | nil => cases hd
    | cons f fs =>
      obtain ⟨b, hb, hafter⟩ := Option.bind_eq_some_iff.mp hd
      exact Option.bind_eq_some_iff.mpr ⟨b, h f rfl b hb, hafter⟩
  | cons w before ih =>
    cases fs with
    | nil => cases hd
    | cons f fs =>
      obtain ⟨b, hb, hrest⟩ := Option.bind_eq_some_iff.mp hd
      exact Option.bind_eq_some_iff.mpr ⟨b, hb, ih h hrest⟩

lemma foldlM_replace {shape : Shape Meaning δ α} {q : Quotation} {v v' : Value}
    (h : ∀ name f, q.name? = some name → shape.field? name = some f →
      ∀ b, f.value v = some b → f.value v' = some b)
    {before after : List (Quotation × Value)} {d d' : δ}
    (hd : (before ++ (q, v) :: after).foldlM (fillMember shape) d = some d') :
    (before ++ (q, v') :: after).foldlM (fillMember shape) d = some d' := by
  have hfill (d d' : δ) (hd : fillMember shape d (q, v) = some d') :
      fillMember shape d (q, v') = some d' := by
    cases hname : q.name? with
    | none => rwa [fillMember_eq_none hname] at hd ⊢
    | some name =>
      cases hf : shape.field? name with
      | none => rwa [fillMember_eq_some hname hf] at hd ⊢
      | some f =>
        rw [fillMember_eq_ite hname hf, Option.ite_none_left_eq_some,
          Option.map_eq_some_iff] at hd ⊢
        obtain ⟨hset, b, hb, rfl⟩ := hd
        exact ⟨hset, b, h name f hname hf b hb, rfl⟩
  simp only [List.foldlM_append, List.foldlM_cons] at hd ⊢
  obtain ⟨d₁, hbefore, hrest⟩ := Option.bind_eq_some_iff.mp hd
  obtain ⟨d₂, hd₂, hafter⟩ := Option.bind_eq_some_iff.mp hrest
  exact Option.bind_eq_some_iff.mpr
    ⟨d₁, hbefore, Option.bind_eq_some_iff.mpr ⟨d₂, hfill d₁ d₂ hd₂, hafter⟩⟩

lemma Respects.record {r : Record} {shape : Shape Meaning δ α} (h : r.Describes shape) :
    Respects (.record r) (recordMeaning shape) := by
  intro v v' a hchange hv
  cases hchange with
  | item before after hitem =>
    obtain ⟨d, hd, hfinish⟩ := Option.bind_eq_some_iff.mp hv
    refine Option.bind_eq_some_iff.mpr ⟨d, fillInOrder_replace (fun f hf b hb => ?_) hd, hfinish⟩
    exact h.respects_item hf hitem hb
  | member before after hmember =>
    obtain ⟨d, hd, hfinish⟩ := Option.bind_eq_some_iff.mp hv
    refine Option.bind_eq_some_iff.mpr ⟨d, ?_, hfinish⟩
    refine foldlM_replace (fun name f hname hf b hb => ?_) hd
    rw [hname] at hmember
    exact h.respects_member hf hmember hb
  | permute hperm =>
    rw [recordMeaning, ← foldlM_perm h.isOrderly hperm]
    exact hv
  | insert hname hnew v ms =>
    rw [recordMeaning, List.foldlM_cons, fillMember_eq_some hname (h.field?_eq_none hnew)]
    exact hv
  | writeEmpty hname hoptional hms =>
    rw [h.recordMeaning_empty hname hoptional hms]
    exact hv
  | leaveEmpty hname hoptional ms =>
    have hms := h.name?_ne_of_recordMeaning hname hoptional hv
    rwa [h.recordMeaning_empty hname hoptional hms] at hv

/-! ### Layouts -/

lemma respects_area : Respects (.record .area) meanings.area := by
  refine .record ⟨⟨?_, ?_, ?_⟩, ?_, List.forall_mem_nil _⟩
  · refine .cons (List.forall_mem_singleton.mpr ?_) (List.pairwise_singleton _ _)
    exact ⟨fun _ _ _ => rfl, fun _ _ => rfl, fun _ _ => rfl⟩
  · simp
  · simp
  · exact .cons ⟨rfl, respects_word _⟩ (.cons ⟨rfl, respects_word _⟩ .nil)

lemma respects_zone : Respects (.record .zone) meanings.zone := by
  refine .record ⟨⟨?_, ?_, ?_⟩, ?_, List.forall_mem_cons.mpr ⟨?_, List.forall_mem_singleton.mpr ?_⟩⟩
  · refine .cons (List.forall_mem_cons.mpr ⟨?_, List.forall_mem_singleton.mpr ?_⟩)
      (.cons (List.forall_mem_singleton.mpr ?_) (List.pairwise_singleton _ _))
    all_goals exact ⟨fun _ _ _ => rfl, fun _ _ => rfl, fun _ _ => rfl⟩
  · simp
  · simp
  · exact .cons ⟨rfl, respects_word _⟩ (.cons ⟨rfl, .list fun _ => respects_word _⟩
      (.cons ⟨rfl, .list fun _ => respects_area⟩ .nil))
  · refine ⟨_, [], rfl, rfl, fun d hd => ?_⟩
    obtain ⟨id, _ | adjacent, areas⟩ := d
    · rfl
    · cases hd
  · refine ⟨_, [], rfl, rfl, fun d hd => ?_⟩
    obtain ⟨id, adjacent, _ | areas⟩ := d
    · rfl
    · cases hd

lemma respects_layout : Respects (.record .layout) meanings.layout := by
  refine .record ⟨⟨List.pairwise_singleton _ _, ?_, ?_⟩, ?_, List.forall_mem_nil _⟩
  · simp
  · simp
  · exact .cons ⟨rfl, .list fun _ => respects_zone⟩ .nil

/-- What a value means stays the same after any number of changes. -/
lemma Respects.eq_some {role : Role} {meaning : Meaning α} (h : Respects role meaning)
    {v v' : Value} {a : α} (hchanges : Relation.ReflTransGen (Change role) v v')
    (hv : meaning v = some a) : meaning v' = some a := by
  induction hchanges with
  | refl => exact hv
  | tail _ hchange ih => exact h hchange ih

end Json

/-- **However the text of a layout is spelt, it is read as the same layout.** -/
theorem Layout.ofJson_respelled {cs : List Char} {l : Layout} (h : Layout.ofJson cs = .ok l) :
    (∃ v : Json.Value, v.IsText cs) ∧
      ∀ cs', Json.Respells cs cs' → Layout.ofJson cs' = .ok l := by
  refine ⟨exists_isText_of_ofJson h, ?_⟩
  rintro cs' ⟨v, v', hv, hchanges, hv'⟩
  rw [ofJson_eq_ok_iff hv] at h
  rw [ofJson_eq_ok_iff hv']
  exact Json.respects_layout.eq_some hchanges h

namespace Json

/-- The text of a value with these blanks before every piece. -/
def Value.spelt (blanks : List Char) (v : Value) : List Char :=
  v.pieces.flatMap fun p => blanks ++ p.text

lemma Value.isText_spelt {blanks : List Char} (hblanks : ∀ c ∈ blanks, isBlank c = true)
    (v : Value) : v.IsText (v.spelt blanks) := by
  unfold IsText spelt
  induction v.pieces with
  | nil => exact .nil (List.forall_mem_nil _)
  | cons p ps ih =>
    rw [List.flatMap_cons, List.append_assoc]
    exact .cons hblanks p ih

/-- A number of one digit. -/
def Value.digit (d : Char) (hd : d.isDigit = true) : Value :=
  .scalar (.number ⟨false, ⟨[d], List.cons_ne_nil _ _, List.forall_mem_singleton.mpr hd⟩,
    fun _ h => (List.cons.inj h).2.symm, none, none⟩)

/-- A garage with one zone and one area, in few words. -/
def brief : Value :=
  .object [(.plain "zones".toList rfl, .list [.object
    [(.plain "id".toList rfl, .digit '1' rfl),
      (.plain "areas".toList rfl, .list [.object
        [(.plain "areaId".toList rfl, .digit '2' rfl),
          (.plain "slots".toList rfl, .digit '7' rfl)]])]])]

/-- A name that is half of a surrogate pair, with a number that is too large. -/
def note : Value :=
  .object [([.code 'd' '8' '0' '0' 0xD800 rfl],
    .scalar (.number ⟨true, ⟨['1'], List.cons_ne_nil _ _, List.all_eq_true.mp rfl⟩,
      fun _ h => (List.cons.inj h).2.symm, none,
      some ⟨'e', .inl rfl, .none, ⟨"999".toList, List.cons_ne_nil _ _, List.all_eq_true.mp rfl⟩⟩⟩))]

/-- The same garage in other words, and with a note on it. -/
def elaborate : Value :=
  .object [(.plain "note".toList rfl, note),
    (.plain "zones".toList rfl, .list [.object
      [(.plain "areas".toList rfl, .list [.object
          [(.plain "slots".toList rfl, .digit '7' rfl),
            (.plain "areaId".toList rfl, .digit '2' rfl)]]),
        (.plain "id".toList rfl, .digit '1' rfl),
        (.plain "adjacentZones".toList rfl, .list [])]])]

lemma changes_brief : Relation.ReflTransGen (Change (.record .layout)) brief elaborate := by
  refine .head (.member [] [] (.item [] [] (.writeEmpty
    (q := .plain "adjacentZones".toList rfl) (r := .zone) rfl (by decide)
    (List.forall_mem_cons.mpr ⟨by decide, List.forall_mem_singleton.mpr (by decide)⟩)))) ?_
  refine .head (.member [] [] (.item [] [] (.permute (List.reverse_perm _).symm))) ?_
  refine .head (.member [] [] (.item [] [] (.member [] _ (.item [] []
    (.permute (List.reverse_perm _).symm))))) ?_
  exact .single (.insert rfl (by decide) note _)

end Json

/-- A garage in few words and the same one in others: with a note on it, with the members in
another order, with a list that is empty, and with blanks before everything. -/
theorem Layout.ofJson_respelled_elaborate :
    Layout.ofJson (Json.brief.spelt []) = .ok ⟨[⟨1, [], [⟨2, 7⟩]⟩]⟩ ∧
      Json.Respells (Json.brief.spelt []) (Json.elaborate.spelt ['\n', ' ']) ∧
      Layout.ofJson (Json.elaborate.spelt ['\n', ' ']) = .ok ⟨[⟨1, [], [⟨2, 7⟩]⟩]⟩ := by
  have hbrief := Json.brief.isText_spelt (List.forall_mem_nil (Json.isBlank · = true))
  have hread : Layout.ofJson (Json.brief.spelt []) = .ok ⟨[⟨1, [], [⟨2, 7⟩]⟩]⟩ :=
    (ofJson_eq_ok_iff hbrief).mpr rfl
  have hrespells : Json.Respells (Json.brief.spelt []) (Json.elaborate.spelt ['\n', ' ']) :=
    ⟨_, _, hbrief, Json.changes_brief, Json.elaborate.isText_spelt (List.all_eq_true.mp rfl)⟩
  exact ⟨hread, hrespells, (ofJson_respelled hread).2 _ hrespells⟩

end Garage
