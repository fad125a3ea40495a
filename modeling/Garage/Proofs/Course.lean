/-
# The course of a request

A request shows a stage after every operation of a run.  Written down with repetitions left out,
these stages are its course (`Facility.course`).  A rollback does not ask the lifecycle, so the
courses are not the paths of the lifecycle; which ones there are follows from the books.

* `Request.Step` is all that one operation may make of a request (`Balanced.request?_after`): what
  is taken back had its slot, as there is no other record.
* `Request.Later` is what follows for a request and what it is at any time afterwards.
* `requests_take_four_courses`: a course is a beginning of one of four, and all four occur.
-/
import Garage.Proofs.Ledger
import Mathlib.Data.List.Destutter

namespace Garage

/-! ### Stages one after another -/

namespace Stage

/-- Whether an operation may bring a stored request from one stage to another: along the lifecycle,
but for a second allocation, or back when its slot is taken from it. -/
def leadsTo (t u : Stage) : Bool :=
  t.canBecome u && u != allocated || t.holdsSlot && u == requested

/-- The courses that requests take, from the moment they are stored to the end. -/
def courses : List (List Stage) :=
  [[allocated, cancelled], [allocated, occupied, released], [allocated, requested, cancelled],
    [allocated, occupied, requested, cancelled]]

/-- Stages that each lead to the next one. -/
abbrev Linked (l : List Stage) : Prop := l.IsChain (leadsTo · · = true)

lemma leadsTo_of_isFinal {t u : Stage} (ht : t.isFinal = true) : t.leadsTo u = false := by
  cases t <;> first | cases u <;> rfl | exact absurd ht (by decide)

lemma allocated_leadsTo {u : Stage} (hu : allocated.leadsTo u = true) :
    u = occupied ∨ u = requested ∨ u = cancelled := by
  cases u <;> first | decide | exact absurd hu (by decide)

lemma occupied_leadsTo {u : Stage} (hu : occupied.leadsTo u = true) :
    u = released ∨ u = requested := by
  cases u <;> first | decide | exact absurd hu (by decide)

lemma requested_leadsTo {u : Stage} (hu : requested.leadsTo u = true) : u = cancelled := by
  cases u <;> first | rfl | exact absurd hu (by decide)

lemma holdsSlot_of_leadsTo {t u : Stage} (hu : t.leadsTo u = true) (ht : t.holdsSlot = false) :
    u.holdsSlot = false := by
  cases t <;> cases u <;>
    first | rfl | exact absurd hu (by decide) | exact absurd ht (by decide)

lemma eq_nil_of_linked_final {t : Stage} (ht : t.isFinal = true) {l : List Stage}
    (hl : Linked (t :: l)) : l = [] := by
  cases l with
  | nil => rfl
  | cons u l =>
    have hstep := (List.isChain_cons_cons.mp hl).1
    rw [leadsTo_of_isFinal ht] at hstep
    cases hstep

lemma linked_requested {l : List Stage} (hl : Linked (requested :: l)) : l <+: [cancelled] := by
  cases l with
  | nil => exact List.nil_prefix
  | cons u l =>
    obtain ⟨hstep, hrest⟩ := List.isChain_cons_cons.mp hl
    obtain rfl := requested_leadsTo hstep
    obtain rfl := eq_nil_of_linked_final rfl hrest
    exact List.prefix_rfl

lemma linked_occupied {l : List Stage} (hl : Linked (occupied :: l)) :
    l <+: [released] ∨ l <+: [requested, cancelled] := by
  cases l with
  | nil => exact Or.inl List.nil_prefix
  | cons u l =>
    obtain ⟨hstep, hrest⟩ := List.isChain_cons_cons.mp hl
    rcases occupied_leadsTo hstep with rfl | rfl
    · obtain rfl := eq_nil_of_linked_final rfl hrest
      exact Or.inl List.prefix_rfl
    · exact Or.inr ((List.prefix_cons_inj _).mpr (linked_requested hrest))

/-- From the allocation on, stages that each lead to the next one run along a course. -/
lemma linked_allocated {l : List Stage} (hl : Linked (allocated :: l)) :
    ∃ c ∈ courses, allocated :: l <+: c := by
  have hcourse {c : List Stage} (hc : allocated :: c ∈ courses) (hlc : l <+: c) :
      ∃ c ∈ courses, allocated :: l <+: c :=
    ⟨_, hc, (List.prefix_cons_inj _).mpr hlc⟩
  cases l with
  | nil => exact hcourse (c := [cancelled]) (by decide) List.nil_prefix
  | cons u l =>
    obtain ⟨hstep, hrest⟩ := List.isChain_cons_cons.mp hl
    rcases allocated_leadsTo hstep with rfl | rfl | rfl
    · rcases linked_occupied hrest with h | h
      · exact hcourse (c := [occupied, released]) (by decide) ((List.prefix_cons_inj _).mpr h)
      · exact hcourse (c := [occupied, requested, cancelled]) (by decide)
          ((List.prefix_cons_inj _).mpr h)
    · exact hcourse (c := [requested, cancelled]) (by decide)
        ((List.prefix_cons_inj _).mpr (linked_requested hrest))
    · obtain rfl := eq_nil_of_linked_final rfl hrest
      exact hcourse (c := [cancelled]) (by decide) List.prefix_rfl

end Stage

/-- A list whose neighbours are equal or related has related neighbours when its repetitions are
left out; its first and its last member stay. -/
lemma destutter'_spec {α : Type} [DecidableEq α] {R : α → α → Prop} {a : α} {l : List α}
    (hl : (a :: l).IsChain fun x y => y = x ∨ R x y) :
    ∃ m, l.destutter' (· ≠ ·) a = a :: m ∧ (a :: m).IsChain R ∧
      (a :: m).getLast? = (a :: l).getLast? := by
  -- The member that was kept last stands in for those that were left out behind it.
  induction l generalizing a with
  | nil => exact ⟨[], rfl, List.IsChain.singleton a, rfl⟩
  | cons b l ih =>
    obtain ⟨hab, hrest⟩ := List.isChain_cons_cons.mp hl
    obtain ⟨m, hm, hchain, hlast⟩ := ih hrest
    rw [List.destutter'_cons]
    split
    next hne =>
      refine ⟨b :: m, by rw [hm], List.isChain_cons_cons.mpr ⟨?_, hchain⟩, ?_⟩
      · exact hab.resolve_left (Ne.symm hne)
      · rw [List.getLast?_cons_cons, List.getLast?_cons_cons, hlast]
    next heq =>
      obtain rfl : a = b := not_not.mp heq
      exact ⟨m, hm, hchain, by rw [List.getLast?_cons_cons, hlast]⟩

/-! ### What an operation makes of a request -/

namespace Request

/-- What an operation may make of a stored request, if it changes it. -/
inductive Step : Operation → Request → Request → Prop
  | park {id : RequestId} {r : Request} : r.stage = .allocated →
      Step (.occupy id) r { r with stage := .occupied }
  | cancel {id : RequestId} {r : Request} : r.stage = .requested ∨ r.stage = .allocated →
      Step (.cancel id) r (r.restore .cancelled)
  | release {id : RequestId} {r : Request} : r.stage = .occupied →
      Step (.release id) r (r.restore .released)
  | takeBack {k : Nat} {r : Request} : r.stage.holdsSlot = true →
      Step (.rollback k) r (r.restore .requested)

variable {r r' r'' : Request} {op : Operation}

lemma Step.leadsTo (h : Step op r r') : r.stage.leadsTo r'.stage = true := by
  cases h with
  | park hr => rw [hr]; rfl
  | cancel hr => rcases hr with hr | hr <;> rw [hr] <;> rfl
  | release hr => rw [hr]; rfl
  | takeBack hr => rcases Stage.holdsSlot_iff.mp hr with hr | hr <;> rw [hr] <;> rfl

/-- What may become of a request in the course of time. -/
structure Later (r r' : Request) : Prop where
  /-- A request that has come to its end does not change. -/
  final : r.stage.isFinal = true → r' = r
  /-- A request whose slot was taken back gets no other one. -/
  requested : r.stage = .requested → r'.stage = .requested ∨ r'.stage = .cancelled
  /-- While a request holds a slot, it is the same one. -/
  slot_kept : r.stage.holdsSlot = true →
    ∃ h, r.slot = some h ∧ (r'.stage.holdsSlot = true → r'.slot = some h)
  /-- A request that holds no slot never has one again. -/
  slot_gone : r.stage.holdsSlot = false → r'.stage.holdsSlot = false ∧ r'.slot = none

lemma later_refl (hr : r.slot.isSome = r.stage.holdsSlot) : r.Later r where
  final _ := rfl
  requested h := Or.inl h
  slot_kept h := by
    obtain ⟨k, hk⟩ := Option.isSome_iff_exists.mp (hr.trans h)
    exact ⟨k, hk, fun _ => hk⟩
  slot_gone h := ⟨h, Option.isNone_iff_eq_none.mp (by rw [← Option.not_isSome, hr, h]; rfl)⟩

lemma Later.trans (h : r.Later r') (h' : r'.Later r'') : r.Later r'' where
  final hr := by
    obtain rfl := h.final hr
    exact h'.final hr
  requested hr := by
    rcases h.requested hr with hr' | hr'
    · exact h'.requested hr'
    · rw [h'.final (by rw [hr']; rfl)]
      exact Or.inr hr'
  slot_kept hr := by
    obtain ⟨k, hk, hkept⟩ := h.slot_kept hr
    refine ⟨k, hk, fun hr'' => ?_⟩
    -- The slot was not given up in between, as it would have been lost for good.
    have hr' : r'.stage.holdsSlot = true := by
      by_contra hnot
      have := (h'.slot_gone (Bool.eq_false_iff.mpr hnot)).1
      rw [hr''] at this
      cases this
    obtain ⟨l, hl, hkept'⟩ := h'.slot_kept hr'
    rw [hkept hr'] at hl
    obtain rfl := Option.some.inj hl
    exact hkept' hr''
  slot_gone hr := h'.slot_gone (h.slot_gone hr).1

lemma Step.slot_eq (h : Step op r r') : r'.slot = if r'.stage.holdsSlot then r.slot else none := by
  cases h <;> rfl

/-- An operation makes nothing of a request but what may become of it in the course of time. -/
lemma Step.later (hr : r.slot.isSome = r.stage.holdsSlot) (h : Step op r r') : r.Later r' where
  final hfinal := by
    have hmove := h.leadsTo
    rw [Stage.leadsTo_of_isFinal hfinal] at hmove
    cases hmove
  requested hstage := by
    have hmove := h.leadsTo
    rw [hstage] at hmove
    exact Or.inr (Stage.requested_leadsTo hmove)
  slot_kept hholds := by
    obtain ⟨k, hk⟩ := Option.isSome_iff_exists.mp (hr.trans hholds)
    exact ⟨k, hk, fun hholds' => by rw [h.slot_eq, if_pos hholds', hk]⟩
  slot_gone hholds := by
    have hholds' := Stage.holdsSlot_of_leadsTo h.leadsTo hholds
    exact ⟨hholds', by rw [h.slot_eq, hholds']; rfl⟩

end Request

namespace Facility

variable {s : Facility} {id : RequestId} {r : Request} {op : Operation} {ops : List Operation}

/-- When one request is changed by a step, then every request makes a step or stays. -/
lemma step_of_request? {s' : Facility} {i : RequestId} {r₀ : Request} {f : Request → Request}
    (hr : s.request? id = some r) (hr₀ : s.request? i = some r₀)
    (hs' : s'.request? id = if i = id then (s.request? id).map f else s.request? id)
    (hstep : r₀.Step op (f r₀)) :
    ∃ r', s'.request? id = some r' ∧ (r' = r ∨ r.Step op r') := by
  rw [hs', hr]
  split
  next hid =>
    subst hid
    obtain rfl := Option.some.inj (hr.symm.trans hr₀)
    exact ⟨f r, rfl, Or.inr hstep⟩
  next => exact ⟨r, rfl, Or.inl rfl⟩

namespace Balanced

/-- Taking the newest allocation back touches one request only, and that one held its slot. -/
lemma request?_takeBack (hb : s.Balanced) (hr : s.request? id = some r) :
    s.takeBack.request? id = some r ∨
      r.stage.holdsSlot = true ∧ s.takeBack.request? id = some (r.restore .requested) := by
  unfold Facility.takeBack
  cases hnew : s.history.newest? with
  | none => exact Or.inl hr
  | some e =>
    obtain ⟨r₀, hr₀, hrecord⟩ := hb.mem_records (List.mem_of_head? hnew)
    obtain ⟨hslot, -, -, hstage⟩ := Request.record?_eq_some_iff.mp hrecord
    simp only [request?_vacate, hstage, hr]
    split
    next hid =>
      subst hid
      obtain rfl := Option.some.inj (hr.symm.trans hr₀)
      -- There is a record of the request, so it holds a slot.
      refine Or.inr ⟨?_, rfl⟩
      rw [← hb.holds r (List.mem_of_getElem? hr), hslot]
      rfl
    next => exact Or.inl rfl

lemma request?_iterate_takeBack (hb : s.Balanced) (hr : s.request? id = some r) (k : Nat) :
    (Facility.takeBack^[k] s).request? id = some r ∨
      r.stage.holdsSlot = true ∧
        (Facility.takeBack^[k] s).request? id = some (r.restore .requested) := by
  induction k generalizing s r with
  | zero => exact Or.inl hr
  | succ k ih =>
    rw [Function.iterate_succ_apply]
    rcases hb.request?_takeBack hr with hr' | ⟨hholds, hr'⟩
    · exact ih hb.takeBack hr'
    · -- What was taken back once has no slot that could be taken back again.
      rcases ih hb.takeBack hr' with hr'' | ⟨hholds', -⟩
      · exact Or.inr ⟨hholds, hr''⟩
      · cases hholds'

/-- An operation keeps a request or makes a step of it. -/
theorem request?_after (hb : s.Balanced) (hr : s.request? id = some r) (op : Operation) :
    ∃ r', (s.after op).request? id = some r' ∧ (r' = r ∨ r.Step op r') := by
  cases op with
  | addZone z => exact ⟨r, hr, Or.inl rfl⟩
  | submit vehicle zone now =>
    refine ⟨r, ?_, Or.inl rfl⟩
    have hlt : id < s.requests.length := (List.getElem?_eq_some_iff.mp hr).1
    rw [request?_submit vehicle zone now hlt, hr]
  | occupy i =>
    rcases after_occupy s i with hafter | ⟨r₀, hr₀, hstage, hafter⟩ <;> rw [hafter]
    · exact ⟨r, hr, Or.inl rfl⟩
    · exact step_of_request? hr hr₀ (s.request?_park i id) (.park hstage)
  | cancel i =>
    rcases after_cancel s i with hafter | ⟨r₀, hr₀, hstage, hafter⟩ <;> rw [hafter]
    · exact ⟨r, hr, Or.inl rfl⟩
    · exact step_of_request? hr hr₀ (s.request?_vacate i id _) (.cancel hstage)
  | release i =>
    rcases after_release s i with hafter | ⟨r₀, hr₀, hstage, hafter⟩ <;> rw [hafter]
    · exact ⟨r, hr, Or.inl rfl⟩
    · exact step_of_request? hr hr₀ (s.request?_vacate i id _) (.release hstage)
  | rollback k =>
    rw [after_rollback]
    rcases hb.request?_iterate_takeBack hr k with hr' | ⟨hholds, hr'⟩
    · exact ⟨r, hr', Or.inl rfl⟩
    · exact ⟨_, hr', Or.inr (.takeBack hholds)⟩

end Balanced

lemma request?_vacate_of_none (hr : s.request? id = none) (i : RequestId) (t : Stage) :
    (s.vacate i t).request? id = none := by
  rw [request?_vacate, hr, Option.map_none, ite_self]

lemma request?_takeBack_of_none (hr : s.request? id = none) : s.takeBack.request? id = none := by
  unfold takeBack
  split
  · exact hr
  · exact request?_vacate_of_none hr _ _

/-- A request that was not there before is allocated when it appears. -/
lemma request?_after_of_none (hr : s.request? id = none) (op : Operation) :
    (s.after op).request? id = none ∨
      ∃ r, (s.after op).request? id = some r ∧ r.stage = .allocated := by
  cases op with
  | addZone z => exact Or.inl hr
  | submit vehicle zone now =>
    rcases after_submit s vehicle zone now with ⟨-, hafter⟩ | ⟨h, -, hafter⟩ <;> rw [hafter]
    · rw [request?, meet_requests]
      exact Or.inl hr
    · rw [request?, allocate, meet_requests,
        List.getElem?_append_right (List.getElem?_eq_none_iff.mp hr), List.getElem?_singleton]
      split
      · exact Or.inr ⟨_, rfl, rfl⟩
      · exact Or.inl rfl
  | occupy i =>
    rcases after_occupy s i with hafter | ⟨r₀, -, -, hafter⟩ <;> rw [hafter]
    · exact Or.inl hr
    · left
      rw [request?_park, hr, Option.map_none, ite_self]
  | cancel i =>
    rcases after_cancel s i with hafter | ⟨r₀, -, -, hafter⟩ <;> rw [hafter]
    · exact Or.inl hr
    · exact Or.inl (request?_vacate_of_none hr i _)
  | release i =>
    rcases after_release s i with hafter | ⟨r₀, -, -, hafter⟩ <;> rw [hafter]
    · exact Or.inl hr
    · exact Or.inl (request?_vacate_of_none hr i _)
  | rollback k =>
    left
    rw [after_rollback]
    exact Function.Iterate.rec (fun s : Facility => s.request? id = none) hr
      (fun _ => request?_takeBack_of_none) k

/-! ### Runs -/

/-- The facilities that a run goes through, from the first to the last one. -/
def trace (s : Facility) (ops : List Operation) : List Facility := ops.scanl after s

/-- A request as it is shown during a run, from the moment it is stored. -/
def shown (s : Facility) (ops : List Operation) (id : RequestId) : List Request :=
  (s.trace ops).filterMap (·.request? id)

/-- The stages that a request shows during a run, repetitions left out. -/
def course (s : Facility) (ops : List Operation) (id : RequestId) : List Stage :=
  ((s.shown ops id).map (·.stage)).destutter (· ≠ ·)

@[simp] lemma shown_nil (s : Facility) (id : RequestId) :
    s.shown [] id = (s.request? id).toList := by
  cases hr : s.request? id <;> simp [shown, trace, hr]

@[simp] lemma shown_cons (s : Facility) (op : Operation) (ops : List Operation) (id : RequestId) :
    s.shown (op :: ops) id = (s.request? id).toList ++ (s.after op).shown ops id := by
  cases hr : s.request? id <;> simp [shown, trace, hr]

/-- How runs treat requests. -/
structure Orderly (s : Facility) (ops : List Operation) : Prop where
  /-- Up to its last stage, the course of a request is a beginning of one of the four courses. -/
  course_prefix : ∀ id r, (s.run ops).request? id = some r →
    (s.course ops id).getLast? = some r.stage ∧ ∃ c ∈ Stage.courses, s.course ops id <+: c
  /-- Nothing but a rollback brings a request back to where it is only asked for. -/
  requested_by_rollback : ∀ ops₁ op ops₂, ops = ops₁ ++ op :: ops₂ → ∀ id r r',
    (s.run ops₁).request? id = some r → ((s.run ops₁).after op).request? id = some r' →
    r.stage ≠ .requested → r'.stage = .requested → ∃ k, op = .rollback k
  /-- A request stays, and becomes only what a request may become in the course of time. -/
  later : ∀ ops₁ ops₂, ops = ops₁ ++ ops₂ → ∀ id r, (s.run ops₁).request? id = some r →
    ∃ r', (s.run ops).request? id = some r' ∧ r.Later r'

namespace Balanced

lemma request?_run (hb : s.Balanced) (hops : ∀ op ∈ ops, op.AddsFree)
    (hr : s.request? id = some r) : ∃ r', (s.run ops).request? id = some r' ∧ r.Later r' := by
  induction ops generalizing s r with
  | nil => exact ⟨r, hr, Request.later_refl (hb.holds r (List.mem_of_getElem? hr))⟩
  | cons op ops ih =>
    obtain ⟨hop, hops⟩ := List.forall_mem_cons.mp hops
    have hholds := hb.holds r (List.mem_of_getElem? hr)
    obtain ⟨r', hr', hstep⟩ := hb.request?_after hr op
    obtain ⟨r'', hr'', hlater⟩ := ih (hb.after hop) hops hr'
    refine ⟨r'', hr'', ?_⟩
    rcases hstep with rfl | hstep
    · exact hlater
    · exact (hstep.later hholds).trans hlater

/-- A request that is there is shown from now on, making steps. -/
lemma shown_of_some (hb : s.Balanced) (hops : ∀ op ∈ ops, op.AddsFree)
    (hr : s.request? id = some r) : ∃ l, s.shown ops id = r :: l ∧
      (r :: l).IsChain (fun r r' => r' = r ∨ ∃ op, r.Step op r') ∧
      (r :: l).getLast? = (s.run ops).request? id := by
  induction ops generalizing s r with
  | nil => exact ⟨[], by simp [hr], List.IsChain.singleton r, hr.symm⟩
  | cons op ops ih =>
    obtain ⟨hop, hops⟩ := List.forall_mem_cons.mp hops
    obtain ⟨r', hr', hstep⟩ := hb.request?_after hr op
    obtain ⟨l, hl, hchain, hlast⟩ := ih (hb.after hop) hops hr'
    refine ⟨r' :: l, by simp [hr, hl], List.isChain_cons_cons.mpr ⟨?_, hchain⟩, ?_⟩
    · exact hstep.imp_right fun h => ⟨op, h⟩
    · rw [List.getLast?_cons_cons, hlast, run_cons]

/-- A request that is not there yet is allocated when it is first shown. -/
lemma shown_of_none (hb : s.Balanced) (hops : ∀ op ∈ ops, op.AddsFree)
    (hnone : s.request? id = none) (hr : (s.run ops).request? id = some r) :
    ∃ r₀ l, r₀.stage = .allocated ∧ s.shown ops id = r₀ :: l ∧
      (r₀ :: l).IsChain (fun r r' => r' = r ∨ ∃ op, r.Step op r') ∧
      (r₀ :: l).getLast? = some r := by
  induction ops generalizing s with
  | nil =>
    rw [run_nil, hnone] at hr
    cases hr
  | cons op ops ih =>
    obtain ⟨hop, hops⟩ := List.forall_mem_cons.mp hops
    rw [shown_cons, hnone, Option.toList_none, List.nil_append]
    rcases request?_after_of_none hnone op with hnone' | ⟨r₀, hr₀, hstage⟩
    · exact ih (hb.after hop) hops hnone' hr
    · obtain ⟨l, hl, hchain, hlast⟩ := (hb.after hop).shown_of_some hops hr₀
      exact ⟨r₀, l, hstage, hl, hchain, hlast.trans hr⟩

lemma course_prefix (hb : s.Balanced) (hops : ∀ op ∈ ops, op.AddsFree)
    (hnone : s.request? id = none) (hr : (s.run ops).request? id = some r) :
    (s.course ops id).getLast? = some r.stage ∧ ∃ c ∈ Stage.courses, s.course ops id <+: c := by
  obtain ⟨r₀, l, hstage, hl, hchain, hlast⟩ := hb.shown_of_none hops hnone hr
  have hstages : (r₀.stage :: l.map (·.stage)).IsChain fun t u => u = t ∨ t.leadsTo u = true := by
    rw [← List.map_cons, List.isChain_map]
    refine hchain.imp fun r r' h => ?_
    rcases h with rfl | ⟨op, hstep⟩
    · exact Or.inl rfl
    · exact Or.inr hstep.leadsTo
  obtain ⟨m, hm, hlinked, hmlast⟩ := destutter'_spec hstages
  rw [course, hl, List.map_cons, List.destutter_cons', hm]
  constructor
  · rw [hmlast, ← List.map_cons, List.getLast?_map, hlast]
    rfl
  · rw [hstage] at hlinked ⊢
    exact Stage.linked_allocated hlinked

lemma orderly (hb : s.Balanced) (hops : ∀ op ∈ ops, op.AddsFree) (hnew : s.requests = []) :
    s.Orderly ops where
  course_prefix id r hr := hb.course_prefix hops (by simp [request?, hnew]) hr
  requested_by_rollback ops₁ op ops₂ hsplit id r r' hr hr' hstage hstage' := by
    subst hsplit
    have hb' : (s.run ops₁).Balanced := hb.run fun o ho => hops o (by simp [ho])
    obtain ⟨r'', hr'', hstep⟩ := hb'.request?_after hr op
    obtain rfl := Option.some.inj (hr''.symm.trans hr')
    rcases hstep with rfl | hstep
    · exact absurd hstage' hstage
    · cases hstep with
      | takeBack _ => exact ⟨_, rfl⟩
      | park _ | cancel _ | release _ => cases hstage'
  later ops₁ ops₂ hsplit id r hr := by
    subst hsplit
    have hb' : (s.run ops₁).Balanced := hb.run fun o ho => hops o (by simp [ho])
    rw [run_append]
    exact hb'.request?_run (fun o ho => hops o (by simp [ho])) hr

end Balanced

/-- **The life of a request.**  However zones with free slots only are registered and requests come
and go, a request takes one of four courses, all of which occur.  Only a rollback makes it wait
again; then it waits until it is cancelled, and what is over stays as it is. -/
theorem requests_take_four_courses :
    (∀ zones ops, (∀ z ∈ zones, z.AllFree) → (∀ op ∈ ops, op.AddsFree) →
      (ofZones zones).Orderly ops) ∧
    ∀ c ∈ Stage.courses, ∃ zones ops, (∀ z ∈ zones, z.AllFree) ∧ (∀ op ∈ ops, op.AddsFree) ∧
      (ofZones zones).course ops 0 = c := by
  constructor
  · intro zones ops hzones hops
    exact (reachable_ofZones hzones).balanced.orderly hops (requests_ofZones zones)
  · intro c hc
    simp only [Stage.courses, List.mem_cons, List.not_mem_nil, or_false] at hc
    rcases hc with rfl | rfl | rfl | rfl
    · exact ⟨[twoSlots], [.submit "A" 1 ⟨0, 0⟩, .cancel 0], by decide, by decide, by decide⟩
    · exact ⟨[twoSlots], [.submit "A" 1 ⟨0, 0⟩, .occupy 0, .release 0], by decide, by decide,
        by decide⟩
    · exact ⟨[twoSlots], [.submit "A" 1 ⟨0, 0⟩, .rollback 1, .cancel 0], by decide, by decide,
        by decide⟩
    · exact ⟨[twoSlots], [.submit "A" 1 ⟨0, 0⟩, .occupy 0, .rollback 1, .cancel 0], by decide,
        by decide, by decide⟩

/-- After three visits the last request waits again, as its slot was taken back. -/
theorem requests_take_four_courses_threeVisits :
    (ofZones [twoSlots]).Orderly threeVisits ∧
      (ofZones [twoSlots]).course threeVisits 2 = [.allocated, .requested] :=
  ⟨requests_take_four_courses.1 _ _ allFree_twoSlots addsFree_threeVisits, by decide⟩

end Facility

end Garage
