/-
# Filling drafts

The members of an object are put into a draft one after another.  Where the fields of a shape do
not get into each other's way, the order of the members does not matter (`foldlM_perm`), and a
field that no other member sets may as well be set first or not at all (`foldlM_set`).
-/
import Mathlib.Data.List.Pairwise
import Garage.Proofs.Json.Meaning

namespace Garage

/-- Two members of a record of which neither notices when the other is set. -/
structure Field.Independent {R : Type → Type} {δ : Type} (f g : Field R δ) : Prop where
  set_comm : ∀ b c d, f.set b (g.set c d) = g.set c (f.set b d)
  isSet_set : ∀ c d, f.isSet (g.set c d) = f.isSet d
  isSet_set' : ∀ b d, g.isSet (f.set b d) = g.isSet d

instance {R : Type → Type} {δ : Type} : Std.Symm (@Field.Independent R δ) :=
  ⟨fun _ _ h => ⟨fun b c d => (h.set_comm c b d).symm, h.isSet_set', h.isSet_set⟩⟩

/-- The draft of a record knows which members it has. -/
structure Shape.IsOrderly {R : Type → Type} {δ α : Type} (shape : Shape R δ α) : Prop where
  independent : shape.fields.Pairwise Field.Independent
  isSet_start : ∀ f ∈ shape.fields, f.isSet shape.start = false
  isSet_set : ∀ f ∈ shape.fields, ∀ b d, f.isSet (f.set b d) = true

section Shape

variable {R : Type → Type} {δ α : Type} {shape : Shape R δ α} {name name' : String}
  {f g : Field R δ}

lemma Shape.mem_of_field? (h : shape.field? name = some f) : f ∈ shape.fields ∧ f.name = name :=
  ⟨List.mem_of_find?_eq_some h, by simpa using List.find?_some h⟩

lemma Shape.IsOrderly.independent_of_ne (h : shape.IsOrderly) (hf : shape.field? name = some f)
    (hg : shape.field? name' = some g) (hne : name ≠ name') : f.Independent g := by
  obtain ⟨hfmem, rfl⟩ := Shape.mem_of_field? hf
  obtain ⟨hgmem, rfl⟩ := Shape.mem_of_field? hg
  exact h.independent.forall hfmem hgmem fun heq => hne (congrArg Field.name heq)

end Shape

namespace Json

variable {δ α : Type} {shape : Shape Meaning δ α} {name : String} {f : Field Meaning δ} {b : f.β}
  {q : Quotation} {v : Value} {d d' : δ} {m : Quotation × Value} {ms ms' : List (Quotation × Value)}

/-! ### One member -/

lemma fillMember_eq_none (hname : q.name? = none) (v : Value) (d : δ) :
    fillMember shape d (q, v) = none := by
  rw [fillMember, hname, Option.bind_none]

/-- A member that nobody asks for. -/
lemma fillMember_eq_some (hname : q.name? = some name) (hfield : shape.field? name = none)
    (v : Value) (d : δ) : fillMember shape d (q, v) = some d := by
  simp only [fillMember, hname, Option.bind_some, hfield]

lemma fillMember_eq_ite (hname : q.name? = some name) (hfield : shape.field? name = some f)
    (v : Value) (d : δ) :
    fillMember shape d (q, v) = if f.isSet d then none else (f.value v).map (f.set · d) := by
  simp only [fillMember, hname, Option.bind_some, hfield]

/-- Two members may be exchanged. -/
lemma fillMember_comm (h : shape.IsOrderly) (d : δ) (m m' : Quotation × Value) :
    ((fillMember shape d m).bind fun d => fillMember shape d m') =
      (fillMember shape d m').bind fun d => fillMember shape d m := by
  obtain ⟨q, v⟩ := m
  obtain ⟨q', v'⟩ := m'
  cases hq : q.name? with
  | none => simp only [fillMember_eq_none hq, Option.bind_none, Option.bind_fun_none]
  | some name =>
    cases hq' : q'.name? with
    | none => simp only [fillMember_eq_none hq', Option.bind_none, Option.bind_fun_none]
    | some name' =>
      cases hf : shape.field? name with
      | none => simp only [fillMember_eq_some hq hf, Option.bind_some, Option.bind_fun_some]
      | some f =>
        cases hg : shape.field? name' with
        | none => simp only [fillMember_eq_some hq' hg, Option.bind_some, Option.bind_fun_some]
        | some g =>
          simp only [fillMember_eq_ite hq hf, fillMember_eq_ite hq' hg]
          by_cases hname : name = name'
          · obtain rfl : f = g := Option.some.inj (by rw [← hf, ← hg, hname])
            have hset := h.isSet_set f (Shape.mem_of_field? hf).1
            cases f.isSet d <;> cases f.value v <;> cases f.value v' <;> simp [hset]
          · have hfg := h.independent_of_ne hf hg hname
            cases hf : f.isSet d <;> cases hg : g.isSet d <;> cases f.value v <;>
              cases g.value v' <;> simp [hf, hg, hfg.isSet_set, hfg.isSet_set', hfg.set_comm]

/-! ### All members -/

lemma foldlM_perm (h : shape.IsOrderly) (hms : ms.Perm ms') (d : δ) :
    ms.foldlM (fillMember shape) d = ms'.foldlM (fillMember shape) d := by
  induction hms generalizing d with
  | nil => rfl
  | cons m _ ih =>
    simp only [List.foldlM_cons, ih]
  | swap m m' ms =>
    simp only [List.foldlM_cons, ← bind_assoc]
    exact congrArg (· >>= fun d => ms.foldlM (fillMember shape) d) (fillMember_comm h d m' m)
  | trans _ _ ih₁ ih₂ => exact (ih₁ d).trans (ih₂ d)

/-- A field of another name may be set before or behind a member. -/
lemma fillMember_set (h : shape.IsOrderly) (hfield : shape.field? name = some f)
    (hm : m.1.name? ≠ some name) (b : f.β) (d : δ) :
    fillMember shape (f.set b d) m = (fillMember shape d m).map (f.set b) := by
  obtain ⟨q, v⟩ := m
  cases hq : q.name? with
  | none => rw [fillMember_eq_none hq, fillMember_eq_none hq, Option.map_none]
  | some name' =>
    cases hg : shape.field? name' with
    | none => rw [fillMember_eq_some hq hg, fillMember_eq_some hq hg, Option.map_some]
    | some g =>
      have hne : name ≠ name' := fun heq => hm (hq.trans (congrArg some heq.symm))
      have hfg := h.independent_of_ne hfield hg hne
      rw [fillMember_eq_ite hq hg, fillMember_eq_ite hq hg, hfg.isSet_set']
      cases g.isSet d <;> cases g.value v <;> simp [hfg.set_comm]

/-- A member of another name does not set the field. -/
lemma isSet_of_fillMember (h : shape.IsOrderly) (hfield : shape.field? name = some f)
    (hm : m.1.name? ≠ some name) (hd : fillMember shape d m = some d') :
    f.isSet d' = f.isSet d := by
  obtain ⟨q, v⟩ := m
  cases hq : q.name? with
  | none =>
    rw [fillMember_eq_none hq] at hd
    cases hd
  | some name' =>
    cases hg : shape.field? name' with
    | none =>
      rw [fillMember_eq_some hq hg] at hd
      cases hd
      rfl
    | some g =>
      have hne : name ≠ name' := fun heq => hm (hq.trans (congrArg some heq.symm))
      rw [fillMember_eq_ite hq hg, Option.ite_none_left_eq_some, Option.map_eq_some_iff] at hd
      obtain ⟨-, b, -, rfl⟩ := hd
      exact (h.independent_of_ne hfield hg hne).isSet_set b d

lemma foldlM_set (h : shape.IsOrderly) (hfield : shape.field? name = some f)
    (hms : ∀ m ∈ ms, m.1.name? ≠ some name) (b : f.β) (d : δ) :
    ms.foldlM (fillMember shape) (f.set b d) = (ms.foldlM (fillMember shape) d).map (f.set b) := by
  induction ms generalizing d with
  | nil => rfl
  | cons m ms ih =>
    obtain ⟨hm, hms⟩ := List.forall_mem_cons.mp hms
    rw [List.foldlM_cons, List.foldlM_cons, fillMember_set h hfield hm]
    cases fillMember shape d m with
    | none => rfl
    | some d' => exact ih hms d'

lemma isSet_of_foldlM (h : shape.IsOrderly) (hfield : shape.field? name = some f)
    (hms : ∀ m ∈ ms, m.1.name? ≠ some name) (hd : ms.foldlM (fillMember shape) d = some d') :
    f.isSet d' = f.isSet d := by
  induction ms generalizing d with
  | nil =>
    cases hd
    rfl
  | cons m ms ih =>
    obtain ⟨hm, hms⟩ := List.forall_mem_cons.mp hms
    obtain ⟨d₁, hfill, hrest⟩ := Option.bind_eq_some_iff.mp hd
    rw [ih hms hrest, isSet_of_fillMember h hfield hm hfill]

/-- Nothing is set twice. -/
lemma name?_ne_of_isSet (h : shape.IsOrderly) (hfield : shape.field? name = some f)
    (hset : f.isSet d = true) (hd : ms.foldlM (fillMember shape) d = some d') :
    ∀ m ∈ ms, m.1.name? ≠ some name := by
  induction ms generalizing d with
  | nil => exact List.forall_mem_nil _
  | cons m ms ih =>
    obtain ⟨d₁, hfill, hrest⟩ := Option.bind_eq_some_iff.mp hd
    have hm : m.1.name? ≠ some name := fun hq => by
      rw [fillMember_eq_ite hq hfield, hset] at hfill
      cases hfill
    exact List.forall_mem_cons.mpr
      ⟨hm, ih ((isSet_of_fillMember h hfield hm hfill).trans hset) hrest⟩

end Json

end Garage
