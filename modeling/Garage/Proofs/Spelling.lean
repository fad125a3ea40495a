/-
# Spelling out layouts

Whatever the format, a layout is spelt out as records with named values, which are numbers or lists.
`Layout.spell` says so once for all formats; a format brings its own `Spelling` of numbers, lists
and records.

* `Correspondence`: how what a format writes is read by a format that reads.  To give one is to say
  what it means that an item and a value are read as they were meant, and to prove it for
  numbers, lists and records.
* `Correspondence.layout`: then every layout is read as it was meant.
-/
import Mathlib.Data.List.Forall2
import Garage.Layout.Shape

namespace Garage

/-! ### Writing -/

/-- How numbers, lists and records are written.  What stands in a list is an item, what stands
behind a name is a value, and what stands alone is a document. -/
structure Spelling (Item Value Document : Type) where
  /-- A number in a list. -/
  item : UInt32 → Item
  /-- A number behind a name. -/
  value : UInt32 → Value
  list : List Item → Value
  /-- A record in a list. -/
  record : List (String × Value) → Item
  /-- A record that stands alone. -/
  document : List (String × Value) → Document

section Spell

variable {Item Value Document : Type} (w : Spelling Item Value Document)

def AreaLayout.spell (a : AreaLayout) : Item :=
  w.record [("areaId", w.value a.id), ("slots", w.value a.slots)]

/-- The neighbours of a zone are left out if there are none. -/
def ZoneLayout.members (z : ZoneLayout) : List (String × Value) :=
  let adjacent :=
    if z.adjacent.isEmpty then [] else [("adjacentZones", w.list (z.adjacent.map w.item))]
  ("id", w.value z.id) :: adjacent ++ [("areas", w.list (z.areas.map (·.spell w)))]

def ZoneLayout.spell (z : ZoneLayout) : Item := w.record (z.members w)

def Layout.spell (l : Layout) : Document :=
  w.document [("zones", w.list (l.zones.map (·.spell w)))]

end Spell

/-! ### Reading -/

/-- A name that no format has to put between quotes: a few letters. -/
structure IsPlainName (name : String) : Prop where
  ne_nil : name.toList ≠ []
  isAlpha : ∀ c ∈ name.toList, c.isAlpha = true
  length_le : name.toList.length ≤ 100

instance (name : String) : Decidable (IsPlainName name) :=
  decidable_of_iff (name.toList ≠ [] ∧ name.toList.all Char.isAlpha = true ∧
      name.toList.length ≤ 100)
    ⟨fun ⟨hne, hall, hle⟩ => ⟨hne, List.all_eq_true.mp hall, hle⟩,
      fun h => ⟨h.ne_nil, List.all_eq_true.mpr h.isAlpha, h.length_le⟩⟩

section Reading

variable {R : Type → Type} {Item Value Document : Type} {δ α : Type}

/-- The members of a record take its draft from one state to another if they are read one by one;
`Reads r b v` says that the reader `r` reads `v` as `b`. -/
inductive Fills (Reads : ⦃β : Type⦄ → R β → β → Value → Prop) (shape : Shape R δ α) :
    δ → List (String × Value) → δ → Prop
  | nil (d : δ) : Fills Reads shape d [] d
  | cons {name : String} {f : Field R δ} {b : f.β} {v : Value} {d d' : δ}
      {members : List (String × Value)} (hname : IsPlainName name)
      (hfield : shape.field? name = some f) (hset : f.isSet d = false)
      (hread : Reads f.value b v) (hrest : Fills Reads shape (f.set b d) members d') :
      Fills Reads shape d ((name, v) :: members) d'

/-- If what stands for the values has something else that stands for it, so have the members. -/
lemma Fills.exists_of_forall {Value' : Type} {Reads : ⦃β : Type⦄ → R β → β → Value → Prop}
    {Reads' : ⦃β : Type⦄ → R β → β → Value' → Prop} {StandsFor : Value → Value' → Prop}
    {shape : Shape R δ α} {d d' : δ} {members : List (String × Value)}
    (h : ∀ ⦃β : Type⦄ (r : R β) b v, Reads r b v → ∃ v', StandsFor v v' ∧ Reads' r b v')
    (hfills : Fills Reads shape d members d') : ∃ members',
      List.Forall₂ (fun m m' => IsPlainName m.1 ∧ m'.1 = m.1 ∧ StandsFor m.2 m'.2)
        members members' ∧
      Fills Reads' shape d members' d' := by
  induction hfills with
  | nil d => exact ⟨[], .nil, .nil d⟩
  | cons hname hfield hset hread hrest ih =>
    obtain ⟨v', hv', hread'⟩ := h _ _ _ hread
    obtain ⟨members', hmembers, hfills⟩ := ih
    exact ⟨(_, v') :: members', .cons ⟨hname, rfl, hv'⟩ hmembers,
      .cons hname hfield hset hread' hfills⟩

/-- If what stands for the items has something else that stands for it, so has the list. -/
lemma exists_forall₂_of_forall {β γ γ' : Type} {P : β → γ → Prop} {Q : γ → γ' → Prop}
    {P' : β → γ' → Prop} {bs : List β} {cs : List γ} (h : ∀ b c, P b c → ∃ c', Q c c' ∧ P' b c')
    (hforall : List.Forall₂ P bs cs) :
    ∃ cs', List.Forall₂ Q cs cs' ∧ List.Forall₂ P' bs cs' := by
  induction hforall with
  | nil => exact ⟨[], .nil, .nil⟩
  | cons hhead htail ih =>
    obtain ⟨c', hq, hp'⟩ := h _ _ hhead
    obtain ⟨cs', hqs, hp's⟩ := ih
    exact ⟨c' :: cs', .cons hq hqs, .cons hp' hp's⟩

/-- What stands between two brackets. -/
lemma exists_of_map_eq_enclosed {β γ : Type} {f : β → γ} {bs : List β} {cs : List γ}
    {first last : γ} (h : bs.map f = first :: cs ++ [last]) : ∃ opening body closing,
      bs = opening :: (body ++ [closing]) ∧ f opening = first ∧ f closing = last ∧
        body.map f = cs := by
  obtain ⟨opening, bs, rfl, hopening, hrest⟩ := List.map_eq_cons_iff.mp h
  obtain ⟨body, bs', rfl, hbody, hlast⟩ := List.map_eq_append_iff.mp hrest
  obtain ⟨closing, bs', rfl, hclosing, hnil⟩ := List.map_eq_cons_iff.mp hlast
  obtain rfl := List.map_eq_nil_iff.mp hnil
  exact ⟨opening, body, closing, rfl, hopening, hclosing, hbody⟩

/-- What a spelling writes, the readers of a format read. -/
structure Correspondence (f : Format R) (w : Spelling Item Value Document) where
  ReadsItem : ⦃β : Type⦄ → R β → β → Item → Prop
  ReadsValue : ⦃β : Type⦄ → R β → β → Value → Prop
  ReadsDocument : ⦃β : Type⦄ → R β → β → Document → Prop
  item (n : UInt32) : ReadsItem f.word n (w.item n)
  value (n : UInt32) : ReadsValue f.word n (w.value n)
  list {β : Type} {r : R β} {bs : List β} {items : List Item}
    (hitems : List.Forall₂ (ReadsItem r) bs items) : ReadsValue (f.list r) bs (w.list items)
  record {δ β : Type} {shape : Shape R δ β} {members : List (String × Value)} {d : δ} {b : β}
    (hne : members ≠ []) (hfills : Fills ReadsValue shape shape.start members d)
    (hfinish : shape.finish d = .ok b) : ReadsItem (f.record shape) b (w.record members)
  document {δ β : Type} {shape : Shape R δ β} {members : List (String × Value)} {d : δ} {b : β}
    (hne : members ≠ []) (hfills : Fills ReadsValue shape shape.start members d)
    (hfinish : shape.finish d = .ok b) : ReadsDocument (f.record shape) b (w.document members)

namespace Correspondence

variable {f : Format R} {w : Spelling Item Value Document} (c : Correspondence f w)

/-- A list of which every item is read is read. -/
lemma list_map {β : Type} {r : R β} {spell : β → Item} (h : ∀ b, c.ReadsItem r b (spell b))
    (bs : List β) : c.ReadsValue (f.list r) bs (w.list (bs.map spell)) :=
  c.list (List.forall₂_map_right_iff.mpr (List.forall₂_same.mpr fun b _ => h b))

lemma area (a : AreaLayout) : c.ReadsItem f.area a (a.spell w) := by
  refine c.record (d := ⟨some a.id, some a.slots⟩) (List.cons_ne_nil _ _) ?_ rfl
  refine .cons (b := a.id) (by decide) rfl rfl (c.value a.id) ?_
  refine .cons (b := a.slots) (by decide) rfl rfl (c.value a.slots) ?_
  exact .nil _

lemma zone (z : ZoneLayout) : c.ReadsItem f.zone z (z.spell w) := by
  obtain ⟨id, adjacent, areas⟩ := z
  have hareas := c.list_map c.area areas
  cases adjacent with
  | nil =>
    -- The draft is never told of neighbours, and takes the list for empty.
    refine c.record (d := ⟨some id, none, some areas⟩) (List.cons_ne_nil _ _) ?_ rfl
    refine .cons (b := id) (by decide) rfl rfl (c.value id) ?_
    exact .cons (b := areas) (by decide) rfl rfl hareas (.nil _)
  | cons a adjacent =>
    have hadjacent := c.list_map c.item (a :: adjacent)
    refine c.record (d := ⟨some id, some (a :: adjacent), some areas⟩) (List.cons_ne_nil _ _) ?_ rfl
    refine .cons (b := id) (by decide) rfl rfl (c.value id) ?_
    refine .cons (b := a :: adjacent) (by decide) rfl rfl hadjacent ?_
    exact .cons (b := areas) (by decide) rfl rfl hareas (.nil _)

/-- **What is spelt out is read.** -/
theorem layout (l : Layout) : c.ReadsDocument f.layout l (l.spell w) := by
  refine c.document (d := some l.zones) (List.cons_ne_nil _ _) ?_ rfl
  refine .cons (b := l.zones) (by decide) rfl rfl (c.list_map c.zone l.zones) ?_
  exact .nil _

end Correspondence

end Reading

end Garage
