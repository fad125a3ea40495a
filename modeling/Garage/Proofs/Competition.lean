/-
# Submissions that compete

Vehicles that ask for slots compete: who comes first gets the slot, and who finds no slot at home
takes one away from the vehicles of some other zone.  So it depends on the order who parks where,
and who does not park at all.  Which slots are taken in the end does not, as long as no id of a
zone is registered twice.

One submission is `Registry.grant`, which takes the slot that is chosen.  Two of them commute
(`DistinctIds.grant_comm`).  When they choose different slots, neither disturbs the other.  When
they choose the same slot, then it is the first free slot of all, as it is no home to one of them;
and the one that comes second gets the second free slot of all (`DistinctIds.choose_next`).
-/
import Garage.Proofs.Steps

namespace Garage

lemma modify_comm {α : Type} {i j : Nat} {f g : α → α} (hfg : ∀ a, i = j → f (g a) = g (f a))
    (l : List α) : (l.modify i f).modify j g = (l.modify j g).modify i f := by
  by_cases hij : i = j
  · subst hij
    rw [List.modify_modify_eq, List.modify_modify_eq]
    congr 1
    funext a
    exact (hfg a rfl).symm
  · exact List.modify_modify_ne f g l hij

namespace Registry

variable {r : Registry} {h k : Handle} {id id' : ZoneId}

lemma setAvailable_comm (r : Registry) (h k : Handle) (b : Bool) :
    (r.setAvailable h b).setAvailable k b = (r.setAvailable k b).setAvailable h b := by
  unfold setAvailable
  congr 1
  refine modify_comm (fun z _ => ?_) r.zones
  dsimp only
  congr 1
  refine modify_comm (fun a _ => ?_) z.areas
  dsimp only
  congr 1
  exact modify_comm (fun p _ => rfl) a.slots

lemma zone_eq_of_isHome (hh : r.isHome id h = true) (hk : r.isHome id k = true) :
    h.zone = k.zone := by
  rw [isHome, beq_iff_eq] at hh hk
  exact Option.some.inj (hh.symm.trans hk)

/-- Gives away the slot that is chosen for a vehicle which asks for the zone `id`. -/
def grant (r : Registry) (id : ZoneId) : Registry :=
  match r.choose id with
  | none => r
  | some h => r.setAvailable h false

lemma grant_of_choose (hc : r.choose id = some h) : r.grant id = r.setAvailable h false := by
  rw [grant, hc]

lemma grant_of_choose_eq_none (hc : r.choose id = none) : r.grant id = r := by
  rw [grant, hc]

namespace DistinctIds

lemma grant (hd : r.DistinctIds) (id : ZoneId) : (r.grant id).DistinctIds := by
  unfold Registry.grant
  split
  · exact hd
  · exact hd.setAvailable _ _

/-- There is a slot for every vehicle as long as there is one for any. -/
lemma choose_eq_none_iff (hd : r.DistinctIds) : r.choose id = none ↔ r.free = [] := by
  rw [hd.choose_eq, Option.or_eq_none_iff, List.head?_eq_none_iff]
  constructor
  · exact And.right
  · intro hfree
    rw [hfree]
    exact ⟨rfl, rfl⟩

/-- A slot that is chosen for vehicles of two zones is the first free slot of all. -/
lemma free_of_choose_of_choose (hd : r.DistinctIds) (hne : id ≠ id')
    (hc : r.choose id = some h) (hc' : r.choose id' = some h) :
    ∃ rest, r.free = h :: rest := by
  have hhead {i : ZoneId} (hi : r.choose i = some h) (hout : r.isHome i h = false) :
      r.free.head? = some h := by
    rw [hd.choose_eq, Option.or_eq_some_iff] at hi
    rcases hi with hhome | ⟨-, hfirst⟩
    · rw [List.find?_some hhome] at hout
      cases hout
    · exact hfirst
  have hfirst : r.free.head? = some h := by
    cases hhome : r.isHome id h with
    | false => exact hhead hc hhome
    | true =>
      refine hhead hc' (Bool.eq_false_iff.mpr fun hhome' => hne ?_)
      exact hd.isHome_inj hhome hhome'
  exact ⟨_, (List.cons_head?_tail hfirst).symm⟩

/-- When the first free slot of all was chosen and is taken, then the second one is chosen. -/
lemma choose_next (hd : r.DistinctIds) {rest : List Handle} (hfree : r.free = h :: rest)
    (hc : r.choose id = some h) : (r.setAvailable h false).choose id = rest.head? := by
  have hsorted := r.free_sorted
  rw [hfree, List.pairwise_cons] at hsorted
  obtain ⟨hfirst, hrest⟩ := hsorted
  have hnot : h ∉ rest := fun hmem => Std.Irrefl.irrefl h (hfirst h hmem)
  have hfree' : (r.setAvailable h false).free = rest := by
    rw [free_setAvailable_false, ← r.free_nodup.erase_eq_filter, hfree, List.erase_cons_head]
  rw [(hd.setAvailable h false).choose_eq, hfree', isHome_setAvailable]
  cases hnext : rest.find? (r.isHome id) with
  | none => exact Option.none_or
  | some k =>
    have hhome : r.isHome id h = true := by
      by_contra hout
      rw [hd.choose_eq, hfree, List.find?_cons_of_neg hout, hnext] at hc
      obtain rfl := Option.some.inj hc
      exact hnot (List.mem_of_find?_eq_some hnext)
    cases rest with
    | nil => cases hnext
    | cons l rest =>
      -- What is free between two slots of one zone lies in that zone as well.
      have hl : r.isHome id l = true := by
        have hhl := Handle.zone_le_of_lt (hfirst l (by simp))
        have hlk : l.zone ≤ k.zone := by
          rcases List.mem_cons.mp (List.mem_of_find?_eq_some hnext) with rfl | hk
          · exact Nat.le_refl _
          · exact Handle.zone_le_of_lt ((List.pairwise_cons.mp hrest).1 k hk)
        have hhk : h.zone = k.zone := zone_eq_of_isHome hhome (List.find?_some hnext)
        have hzone : h.zone = l.zone := by omega
        rw [isHome, ← hzone]
        exact hhome
      rw [List.find?_cons_of_pos hl] at hnext
      rw [Option.some_or, ← hnext, List.head?_cons]

/-- Two submissions leave the same slots free, whichever comes first. -/
theorem grant_comm (hd : r.DistinctIds) (id id' : ZoneId) :
    (r.grant id).grant id' = (r.grant id').grant id := by
  by_cases hne : id = id'
  · rw [hne]
  cases hc : r.choose id with
  | none =>
    -- Without a free slot neither of the two gets one.
    have hc' : r.choose id' = none := hd.choose_eq_none_iff.mpr (hd.choose_eq_none_iff.mp hc)
    rw [grant_of_choose_eq_none hc, grant_of_choose_eq_none hc', grant_of_choose_eq_none hc]
  | some h =>
    cases hc' : r.choose id' with
    | none =>
      rw [hd.choose_eq_none_iff.mpr (hd.choose_eq_none_iff.mp hc')] at hc
      cases hc
    | some h' =>
      rw [grant_of_choose hc, grant_of_choose hc']
      by_cases heq : h = h'
      · -- They want the same slot, so that the second free slot goes to whoever comes second.
        subst heq
        obtain ⟨rest, hfree⟩ := hd.free_of_choose_of_choose hne hc hc'
        rw [Registry.grant, Registry.grant, hd.choose_next hfree hc, hd.choose_next hfree hc']
      · rw [grant_of_choose (choose_setAvailable_of_ne hc' (Ne.symm heq)),
          grant_of_choose (choose_setAvailable_of_ne hc heq), setAvailable_comm]

/-- Submissions leave the same slots free in any order. -/
lemma foldl_grant_perm (hd : r.DistinctIds) {ids ids' : List ZoneId} (hperm : ids.Perm ids') :
    ids.foldl Registry.grant r = ids'.foldl Registry.grant r := by
  induction hperm generalizing r with
  | nil => rfl
  | cons id _ ih => exact ih (hd.grant id)
  | swap id id' ids => rw [List.foldl_cons, List.foldl_cons, List.foldl_cons, List.foldl_cons,
      hd.grant_comm]
  | trans _ _ ih ih' => exact (ih hd).trans (ih' hd)

end DistinctIds

end Registry

/-! ### Runs of submissions -/

/-- A vehicle asks for a zone at some time. -/
structure Submission where
  vehicle : String
  zone : ZoneId
  now : Instant
deriving DecidableEq, Repr

namespace Submission

/-- What the vehicle asks for, whenever it does so. -/
def wish (m : Submission) : String × ZoneId := (m.vehicle, m.zone)

def operation (m : Submission) : Operation := .submit m.vehicle m.zone m.now

end Submission

namespace Facility

/-- What the operations of a run answer, one after another. -/
def answers (s : Facility) : List Operation → List (Except RequestError Answer)
  | [] => []
  | op :: ops => (s.perform op).answer :: (s.after op).answers ops

/-- How many operations of a run succeed. -/
def successes (s : Facility) (ops : List Operation) : Nat := (s.answers ops).countP (·.isOk)

variable {s : Facility}

lemma successes_cons (s : Facility) (op : Operation) (ops : List Operation) :
    s.successes (op :: ops)
      = (if (s.perform op).answer.isOk then 1 else 0) + (s.after op).successes ops := by
  rw [successes, answers, List.countP_cons, Nat.add_comm, successes]

/-- A submission succeeds just if there is a slot to choose. -/
lemma isOk_submit (s : Facility) (m : Submission) :
    (s.perform m.operation).answer.isOk = (s.registry.choose m.zone).isSome := by
  cases hc : s.registry.choose m.zone <;>
    simp [Submission.operation, answer_perform_submit, hc, Except.isOk, Except.toBool]

lemma registry_submit (s : Facility) (m : Submission) :
    (s.after m.operation).registry = s.registry.grant m.zone := by
  rcases after_submit s m.vehicle m.zone m.now with ⟨hc, hafter⟩ | ⟨h, hc, hafter⟩
  · rw [Submission.operation, hafter, meet_registry, Registry.grant_of_choose_eq_none hc]
  · rw [Submission.operation, hafter, Registry.grant_of_choose hc, allocate, meet_registry]

lemma size_history_submit (s : Facility) (m : Submission) : (s.after m.operation).history.size
    = s.history.size + if (s.perform m.operation).answer.isOk then 1 else 0 := by
  rw [isOk_submit]
  rcases after_submit s m.vehicle m.zone m.now with ⟨hc, hafter⟩ | ⟨h, hc, hafter⟩
  · rw [Submission.operation, hafter, hc, meet_history]
    rfl
  · rw [Submission.operation, hafter, hc, allocate, meet_history]
    rfl

lemma length_free_submit (s : Facility) (m : Submission) :
    (s.after m.operation).registry.free.length
      + (if (s.perform m.operation).answer.isOk then 1 else 0) = s.registry.free.length := by
  rw [isOk_submit, registry_submit]
  cases hc : s.registry.choose m.zone with
  | none =>
    rw [Registry.grant_of_choose_eq_none hc]
    rfl
  | some h =>
    rw [Registry.grant_of_choose hc]
    exact Registry.length_free_setAvailable_false (Registry.mem_free_of_choose hc)

lemma registry_run_submit (s : Facility) (subs : List Submission) :
    (s.run (subs.map (·.operation))).registry
      = (subs.map (·.zone)).foldl Registry.grant s.registry := by
  induction subs generalizing s with
  | nil => rfl
  | cons m subs ih =>
    rw [List.map_cons, run_cons, ih, registry_submit, List.map_cons, List.foldl_cons]

lemma size_history_run_submit (s : Facility) (subs : List Submission) :
    (s.run (subs.map (·.operation))).history.size
      = s.history.size + s.successes (subs.map (·.operation)) := by
  induction subs generalizing s with
  | nil => rfl
  | cons m subs ih =>
    rw [List.map_cons, run_cons, ih, size_history_submit, successes_cons, Nat.add_assoc]

/-- Every submission that succeeds takes one free slot. -/
lemma length_free_run_submit (s : Facility) (subs : List Submission) :
    (s.run (subs.map (·.operation))).registry.free.length
      + s.successes (subs.map (·.operation)) = s.registry.free.length := by
  induction subs generalizing s with
  | nil => rfl
  | cons m subs ih =>
    rw [List.map_cons, run_cons, successes_cons, ← length_free_submit s m,
      ← ih (s.after m.operation)]
    omega

/-- **Order is no matter to the garage.**  When no id of a zone is registered twice, vehicles that
ask for zones in any order, at any times, leave the same slots free; as many of them find a slot,
and as many allocations are on record. -/
theorem submissions_in_any_order (hd : s.registry.DistinctIds) {subs subs' : List Submission}
    (hperm : (subs.map (·.wish)).Perm (subs'.map (·.wish))) :
    (s.run (subs.map (·.operation))).registry = (s.run (subs'.map (·.operation))).registry ∧
    s.successes (subs.map (·.operation)) = s.successes (subs'.map (·.operation)) ∧
    (s.run (subs.map (·.operation))).history.size
      = (s.run (subs'.map (·.operation))).history.size := by
  have hzones : (subs.map (·.zone)).Perm (subs'.map (·.zone)) := by
    have := hperm.map Prod.snd
    rwa [List.map_map, List.map_map] at this
  have hregistry : (s.run (subs.map (·.operation))).registry
      = (s.run (subs'.map (·.operation))).registry := by
    rw [registry_run_submit, registry_run_submit, hd.foldl_grant_perm hzones]
  have hsuccesses : s.successes (subs.map (·.operation))
      = s.successes (subs'.map (·.operation)) := by
    have hfree := s.length_free_run_submit subs
    have hfree' := s.length_free_run_submit subs'
    rw [hregistry] at hfree
    omega
  refine ⟨hregistry, hsuccesses, ?_⟩
  rw [size_history_run_submit, size_history_run_submit, hsuccesses]

/-- Three vehicles compete for two slots.  Who comes last goes without, and the vehicle that asks
for the second zone may find it taken by one that found no slot in the first. -/
theorem submissions_in_any_order_rivals :
    let s := ofZones [(Zone.empty 1).addArea (Area.numbered 1 1 1),
      (Zone.empty 2).addArea (Area.numbered 1 2 1)]
    let subs : List Submission := [⟨"A", 1, ⟨0, 0⟩⟩, ⟨"B", 1, ⟨1, 0⟩⟩, ⟨"C", 2, ⟨2, 0⟩⟩]
    let subs' : List Submission := [⟨"C", 2, ⟨0, 0⟩⟩, ⟨"B", 1, ⟨1, 0⟩⟩, ⟨"A", 1, ⟨2, 0⟩⟩]
    (s.run (subs.map (·.operation))).registry = (s.run (subs'.map (·.operation))).registry ∧
    s.successes (subs.map (·.operation)) = s.successes (subs'.map (·.operation)) ∧
    (s.run (subs.map (·.operation))).history.size
      = (s.run (subs'.map (·.operation))).history.size ∧
    (s.run (subs.map (·.operation))).requests.map (·.vehicle) = ["A", "B"] ∧
    (s.run (subs'.map (·.operation))).requests.map (·.vehicle) = ["C", "B"] := by
  intro s subs subs'
  have hperm : (subs.map (·.wish)).Perm (subs'.map (·.wish)) := by decide
  obtain ⟨hregistry, hsuccesses, hsize⟩ :=
    submissions_in_any_order (by decide : s.registry.DistinctIds) hperm
  exact ⟨hregistry, hsuccesses, hsize, by decide, by decide⟩

/-- With an id that is registered twice, order does matter: here the second vehicle that asks for
the zone may only go elsewhere, and nobody leaves a slot to it when the other one comes first. -/
example :
    let zone (id : ZoneId) := (Zone.empty id).addArea (Area.numbered 1 id 1)
    let s := ofZones [zone 1, zone 1, zone 2]
    let ask (id : ZoneId) : Operation := .submit "A" id ⟨0, 0⟩
    s.successes [ask 1, ask 1, ask 2] = 3 ∧ s.successes [ask 2, ask 1, ask 1] = 2 := by
  decide

end Facility

end Garage
