/-
# Taking allocations back

A rollback pops records off the history, and each of them is good for one request and one slot.
Which ones these are is not to be seen from the records alone, but from the books: the records
are those of the requests that hold a slot, the newest first (`Balanced.holders_eq`).

* `Facility.holders` lists the requests that hold a slot by falling ids.
* `Balanced.iterate_takeBack`: a rollback makes the first of them give their slots up.
* `rollback_takes_newest` says all there is to say about the facility afterwards.
-/
import Garage.Proofs.Occupancy
import Garage.Proofs.Reconstruction

namespace Garage

/-- Dropping the first members of a list strikes out all with their keys, if no key comes twice. -/
lemma drop_eq_filter_map {α β : Type} [DecidableEq β] {l : List α} {key : α → β}
    (hl : (l.map key).Nodup) (k : Nat) :
    l.drop k = l.filter fun a => key a ∉ (l.map key).take k := by
  have hdisjoint : ((l.map key).take k).Disjoint ((l.map key).drop k) :=
    List.disjoint_take_drop hl (Nat.le_refl k)
  have hbefore : (l.take k).filter (fun a => key a ∉ (l.map key).take k) = [] := by
    rw [List.filter_eq_nil_iff]
    intro a ha
    rw [← List.map_take]
    simpa using List.mem_map_of_mem ha
  have hbehind : (l.drop k).filter (fun a => key a ∉ (l.map key).take k) = l.drop k := by
    rw [List.filter_eq_self]
    intro a ha
    have hkey : key a ∈ (l.map key).drop k := by
      rw [← List.map_drop]
      exact List.mem_map_of_mem ha
    simpa using fun hmem => hdisjoint hmem hkey
  calc l.drop k
      = (l.take k).filter (fun a => key a ∉ (l.map key).take k) ++
          (l.drop k).filter (fun a => key a ∉ (l.map key).take k) := by
        rw [hbefore, hbehind, List.nil_append]
    _ = l.filter fun a => key a ∉ (l.map key).take k := by
        rw [← List.filter_append, List.take_append_drop]

namespace Facility

/-- The requests that hold a slot, the newest first. -/
def holders (s : Facility) : List RequestId :=
  ((List.range s.requests.length).filter fun i =>
    (s.request? i).any (·.stage.holdsSlot)).reverse

/-- The slot that a request has, if it has one. -/
def slotOf? (s : Facility) (id : RequestId) : Option Handle := (s.request? id).bind (·.slot)

/-- Several requests give their slots up, one after another. -/
def vacateAll (s : Facility) (ids : List RequestId) (t : Stage) : Facility :=
  ids.foldl (fun s id => s.vacate id t) s

variable {s : Facility} {id : RequestId} {ids : List RequestId} {r : Request} {t : Stage}
  {h : Handle}

/-! ### The requests that hold a slot -/

lemma mem_holders :
    id ∈ s.holders ↔ ∃ r, s.request? id = some r ∧ r.stage.holdsSlot = true := by
  rw [holders, List.mem_reverse, List.mem_filter, List.mem_range, Option.any_eq_true]
  constructor
  · exact And.right
  · rintro ⟨r, hr, hholds⟩
    exact ⟨(List.getElem?_eq_some_iff.mp hr).1, r, hr, hholds⟩

lemma holders_sorted (s : Facility) : s.holders.Pairwise (· > ·) := by
  rw [holders, List.pairwise_reverse]
  exact List.pairwise_lt_range.filter _

lemma holders_nodup (s : Facility) : s.holders.Nodup := s.holders_sorted.nodup

/-- What gives its slot up does not hold one any more. -/
lemma holders_vacate (s : Facility) (id : RequestId) (ht : t.holdsSlot = false) :
    (s.vacate id t).holders = s.holders.filter (· != id) := by
  apply (holders_sorted _).eq_of_mem_iff (s.holders_sorted.filter _)
  intro i
  rw [List.mem_filter, mem_holders, mem_holders, request?_vacate, bne_iff_ne]
  by_cases hi : id = i
  · subst hi
    cases s.request? id <;> simp [Request.restore, ht]
  · simp [hi, Ne.symm hi]

/-! ### Giving several slots up -/

@[simp] lemma vacateAll_nil (s : Facility) (t : Stage) : s.vacateAll [] t = s := rfl

@[simp] lemma vacateAll_cons (s : Facility) (id : RequestId) (ids : List RequestId) (t : Stage) :
    s.vacateAll (id :: ids) t = (s.vacate id t).vacateAll ids t := rfl

@[simp] lemma plan_vacateAll (s : Facility) (ids : List RequestId) (t : Stage) :
    (s.vacateAll ids t).registry.plan = s.registry.plan := by
  induction ids generalizing s with
  | nil => rfl
  | cons id ids ih => rw [vacateAll_cons, ih, plan_vacate]

/-- Who gives a slot up twice has given it up. -/
lemma request?_vacateAll (s : Facility) (ids : List RequestId) (t : Stage) (i : RequestId) :
    (s.vacateAll ids t).request? i =
      if i ∈ ids then (s.request? i).map (·.restore t) else s.request? i := by
  induction ids generalizing s with
  | nil => simp
  | cons id ids ih =>
    rw [vacateAll_cons, ih, request?_vacate]
    by_cases hid : id = i
    · subst hid
      cases s.request? id <;> simp [Request.restore]
    · simp [hid, Ne.symm hid]

namespace Balanced

lemma vacateAll (hb : s.Balanced) (ids : List RequestId) (ht : t.holdsSlot = false) :
    (s.vacateAll ids t).Balanced := by
  induction ids generalizing s with
  | nil => exact hb
  | cons id ids ih => exact ih (hb.vacate id ht)

/-! ### Records and holders -/

lemma holdsSlot_iff (hb : s.Balanced) (hr : s.request? id = some r) :
    r.stage.holdsSlot = true ↔ ∃ h, r.slot = some h := by
  rw [← hb.holds r (List.mem_of_getElem? hr), Option.isSome_iff_exists]

/-- The history lists the requests that hold a slot. -/
lemma holders_eq (hb : s.Balanced) : s.holders = s.history.records.map (·.request) := by
  have hsorted : (s.history.records.map (·.request)).Pairwise (· > ·) := by
    rw [List.pairwise_map]
    exact List.pairwise_reverse.mp hb.records_sorted
  apply s.holders_sorted.eq_of_mem_iff hsorted
  intro i
  rw [mem_holders, List.mem_map]
  constructor
  · rintro ⟨r, hr, hholds⟩
    obtain ⟨h, hslot⟩ := (hb.holdsSlot_iff hr).mp hholds
    have hfind := hb.find?_history hr
    rw [Request.record?, hslot] at hfind
    exact ⟨_, List.mem_of_find?_eq_some hfind, hb.id_eq i r hr⟩
  · rintro ⟨e, he, rfl⟩
    obtain ⟨r, hr, hrecord⟩ := hb.mem_records he
    exact ⟨r, hr, (hb.holdsSlot_iff hr).mpr ⟨_, (Request.record?_eq_some_iff.mp hrecord).1⟩⟩

lemma length_holders (hb : s.Balanced) : s.holders.length = s.history.size := by
  rw [hb.holders_eq, List.length_map, History.size]

/-- The newest allocation is that of the newest request which holds a slot. -/
lemma takeBack_eq (hb : s.Balanced) :
    s.takeBack = s.holders.head?.elim s (s.vacate · .requested) := by
  rw [hb.holders_eq, List.head?_map, Facility.takeBack, History.newest?]
  cases hnew : s.history.records.head? with
  | none => rfl
  | some e =>
    obtain ⟨r, -, hrecord⟩ := hb.mem_records (List.mem_of_head? hnew)
    obtain ⟨-, -, -, hstage⟩ := Request.record?_eq_some_iff.mp hrecord
    show s.vacate e.request e.stage = s.vacate e.request .requested
    rw [hstage]

/-- Allocations are taken back from the newest requests that hold a slot. -/
theorem iterate_takeBack (hb : s.Balanced) (k : Nat) :
    Facility.takeBack^[k] s = s.vacateAll (s.holders.take k) .requested := by
  induction k generalizing s with
  | zero => rw [List.take_zero, vacateAll_nil, Function.iterate_zero_apply]
  | succ k ih =>
    rw [Function.iterate_succ_apply, ih hb.takeBack, hb.takeBack_eq]
    cases hholders : s.holders with
    | nil => simp [hholders]
    | cons i rest =>
      -- All that is left behind the newest one are others.
      have hrest : (s.vacate i .requested).holders = rest := by
        rw [holders_vacate s i rfl, ← s.holders_nodup.erase_eq_filter, hholders,
          List.erase_cons_head]
      simp [hrest]

lemma after_rollback_eq (hb : s.Balanced) (k : Nat) :
    s.after (.rollback k) = s.vacateAll (s.holders.take k) .requested := by
  rw [after_rollback, hb.iterate_takeBack]

lemma request?_after_rollback (hb : s.Balanced) (k : Nat) (i : RequestId) :
    (s.after (.rollback k)).request? i = if i ∈ s.holders.take k
      then (s.request? i).map (·.restore .requested) else s.request? i := by
  rw [hb.after_rollback_eq, request?_vacateAll]

/-! ### Slots that are given up -/

lemma mem_taken_iff (hb : s.Balanced) : h ∈ s.registry.taken ↔ ∃ i, s.slotOf? i = some h := by
  simp only [hb.mem_taken, mem_held_iff, slotOf?, Option.bind_eq_some_iff]
  constructor
  · rintro ⟨r, hr, hslot⟩
    obtain ⟨i, hi⟩ := List.mem_iff_getElem?.mp hr
    exact ⟨i, r, hi, hslot⟩
  · rintro ⟨i, r, hr, hslot⟩
    exact ⟨r, List.mem_of_getElem? hr, hslot⟩

lemma slotOf?_inj (hb : s.Balanced) {i j : RequestId} (hi : s.slotOf? i = some h)
    (hj : s.slotOf? j = some h) : i = j := by
  obtain ⟨r, hr, hslot⟩ := Option.bind_eq_some_iff.mp hi
  obtain ⟨r', hr', hslot'⟩ := Option.bind_eq_some_iff.mp hj
  exact hb.slot_inj hr hr' hslot hslot'

lemma mem_taken_vacateAll (hb : s.Balanced) (ht : t.holdsSlot = false) :
    h ∈ (s.vacateAll ids t).registry.taken ↔ ∃ i, i ∉ ids ∧ s.slotOf? i = some h := by
  rw [(hb.vacateAll ids ht).mem_taken_iff]
  apply exists_congr
  intro i
  rw [slotOf?, request?_vacateAll, slotOf?]
  by_cases hi : i ∈ ids
  · cases s.request? i <;> simp [hi, Request.restore]
  · simp [hi]

/-- The slots that are given up become free. -/
lemma slot?_vacateAll_of_mem (hb : s.Balanced) (ht : t.holdsSlot = false) (hid : id ∈ ids)
    (hslot : s.slotOf? id = some h) : (s.vacateAll ids t).registry.slot? h =
      (s.registry.slot? h).map (·.withAvailable true) := by
  have hfree : h ∉ (s.vacateAll ids t).registry.taken := by
    rw [hb.mem_taken_vacateAll ht]
    rintro ⟨i, hi, hslot'⟩
    rw [hb.slotOf?_inj hslot' hslot] at hi
    exact hi hid
  rw [Registry.slot?_of_not_mem_taken hfree, plan_vacateAll, Registry.slot?_plan]

/-- All other slots stay as they are. -/
lemma slot?_vacateAll_of_forall_ne (hb : s.Balanced) (ht : t.holdsSlot = false)
    (hslot : ∀ i ∈ ids, s.slotOf? i ≠ some h) :
    (s.vacateAll ids t).registry.slot? h = s.registry.slot? h := by
  apply Registry.slot?_eq_of_plan_eq (plan_vacateAll s ids t)
  rw [hb.mem_taken_vacateAll ht, hb.mem_taken_iff]
  apply exists_congr
  intro i
  constructor
  · exact And.right
  · intro hi
    exact ⟨fun hmem => hslot i hmem hi, hi⟩

end Balanced

/-! ### The facility after a rollback -/

/-- What a rollback of `k` allocations answers and leaves behind: the `k` newest requests that
hold a slot, or all if there are fewer, lose it, and nothing else happens. -/
structure TakesNewest (s : Facility) (k : Nat) : Prop where
  /-- The requests that hold a slot are listed by falling ids. -/
  holders_sorted : s.holders.Pairwise (· > ·)
  /-- They are those that are allocated or occupied. -/
  mem_holders : ∀ i, i ∈ s.holders ↔
    ∃ r, s.request? i = some r ∧ (r.stage = .allocated ∨ r.stage = .occupied)
  /-- The answer is `k`, or the number of all requests that hold a slot if that is less. -/
  answer_eq : (s.rollback k).answer =
    min k (s.requests.countP fun r => r.stage = .allocated ∨ r.stage = .occupied)
  /-- It says how many requests lose their slots. -/
  length_take : (s.holders.take k).length = (s.rollback k).answer
  /-- A request that loses its slot is only asked for, and the slot becomes free. -/
  taken_back : ∀ i ∈ s.holders.take k, ∃ r h p,
    s.request? i = some r ∧ r.slot = some h ∧
    s.registry.slot? h = some p ∧ p.available = false ∧
    (s.after (.rollback k)).request? i = some { r with stage := .requested, slot := none } ∧
    (s.after (.rollback k)).registry.slot? h = some { p with available := true }
  /-- All other requests stay as they are. -/
  request_kept : ∀ i, i ∉ s.holders.take k →
    (s.after (.rollback k)).request? i = s.request? i
  /-- All other slots stay as they are. -/
  slot_kept : ∀ h, (∀ i ∈ s.holders.take k, s.slotOf? i ≠ some h) →
    (s.after (.rollback k)).registry.slot? h = s.registry.slot? h
  /-- The zones, areas and slots stay what and where they are. -/
  plan_kept : (s.after (.rollback k)).registry.plan = s.registry.plan
  /-- The vehicles stay as they are. -/
  vehicles_kept : (s.after (.rollback k)).vehicles = s.vehicles
  /-- The records of the other requests stay, in their order. -/
  records_eq : (s.after (.rollback k)).history.records =
    s.history.records.filter fun e => e.request ∉ s.holders.take k
  /-- There is one for each request that still holds a slot. -/
  size_add_answer : (s.after (.rollback k)).history.size + (s.rollback k).answer =
    s.requests.countP fun r => r.stage = .allocated ∨ r.stage = .occupied

namespace Balanced

/-- What happens to a request whose slot is taken back. -/
lemma taken_back (hb : s.Balanced) (hid : id ∈ s.holders.take k) : ∃ r h p,
    s.request? id = some r ∧ r.slot = some h ∧
    s.registry.slot? h = some p ∧ p.available = false ∧
    (s.after (.rollback k)).request? id = some { r with stage := .requested, slot := none } ∧
    (s.after (.rollback k)).registry.slot? h = some { p with available := true } := by
  obtain ⟨r, hr, hholds⟩ := mem_holders.mp (List.mem_of_mem_take hid)
  obtain ⟨h, hslot⟩ := (hb.holdsSlot_iff hr).mp hholds
  obtain ⟨p, hp, htaken⟩ := hb.matched.slot_taken r (List.mem_of_getElem? hr) h hslot
  have hslotOf : s.slotOf? id = some h := by rw [slotOf?, hr, Option.bind_some, hslot]
  refine ⟨r, h, p, hr, hslot, hp, htaken, ?_, ?_⟩
  · rw [hb.request?_after_rollback, if_pos hid, hr]
    rfl
  · rw [hb.after_rollback_eq, hb.slot?_vacateAll_of_mem rfl hid hslotOf, hp]
    rfl

lemma answer_rollback (hb : s.Balanced) (k : Nat) : (s.rollback k).answer =
    min k (s.requests.countP fun r => r.stage = .allocated ∨ r.stage = .occupied) := by
  rw [countP_holding, ← hb.size_history]
  exact History.rollback_answer s.history k s.registry s.requests

lemma records_rollback (hb : s.Balanced) (k : Nat) : (s.after (.rollback k)).history.records =
    s.history.records.filter fun e => e.request ∉ s.holders.take k := by
  have hnodup := s.holders_nodup
  rw [hb.holders_eq] at hnodup ⊢
  rw [history_after_rollback]
  exact drop_eq_filter_map hnodup k

lemma takesNewest (hb : s.Balanced) (k : Nat) : s.TakesNewest k where
  holders_sorted := s.holders_sorted
  mem_holders i := by
    simp only [Facility.mem_holders, Stage.holdsSlot_iff]
  answer_eq := hb.answer_rollback k
  length_take := by
    rw [hb.answer_rollback, List.length_take, hb.length_holders, countP_holding, hb.size_history]
  taken_back i hi := hb.taken_back hi
  request_kept i hi := by
    rw [hb.request?_after_rollback, if_neg hi]
  slot_kept h hslot := by
    rw [hb.after_rollback_eq, hb.slot?_vacateAll_of_forall_ne rfl hslot]
  plan_kept := plan_rollback s k
  vehicles_kept := vehicles_rollback s k
  records_eq := hb.records_rollback k
  size_add_answer := by
    have hsize : (s.after (.rollback k)).history.size = s.history.size - k := by
      rw [history_after_rollback]
      exact List.length_drop
    rw [hsize, hb.answer_rollback, countP_holding, ← hb.size_history]
    omega

end Balanced

/-- **A rollback is for the newest.**  In every reachable facility, taking `k` allocations back
takes their slots from the `k` newest requests that hold one, or from all if there are fewer; it
frees just these slots, strikes out just these records and leaves everything else as it is. -/
theorem rollback_takes_newest (hs : s.Reachable) (k : Nat) : s.TakesNewest k :=
  hs.balanced.takesNewest k

/-- After the hand-over the third vehicle is the first one to lose its slot, though that slot comes
first in the garage; taking five allocations back takes the two that there are. -/
theorem rollback_takes_newest_handOver :
    let s := (ofZones [twoSlots]).run handOver
    s.TakesNewest 1 ∧ s.TakesNewest 5 ∧ s.holders = [2, 1] ∧
      (s.after (.rollback 1)).registry.free = [⟨0, 0, 0⟩] ∧ (s.rollback 5).answer = 2 :=
  ⟨rollback_takes_newest reachable_handOver 1, rollback_takes_newest reachable_handOver 5,
    by decide, by decide, by decide⟩

end Facility

end Garage
