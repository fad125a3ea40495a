/-
# What the summary counts

The summary looks at the flags of the slots only, zone by zone, and never at the slots of the
requests.  Added up, it counts all slots and those that are taken.

* `occupied_eq_countP`: the taken slots of a zone are the taken positions of the registry that lie
  in the zone, and so, as the books are balanced, the slots that requests hold there.
* `summary_agrees_with_requests`: in every reachable facility the summary says what the requests
  and the history say, for each zone and for the whole garage.
-/
import Garage.Proofs.Growth
import Garage.Proofs.Occupancy
import Garage.Summary

namespace Garage

/-- No part is more than the whole. -/
lemma percent_le_hundred {part whole : Nat} (hle : part ≤ whole) : percent part whole ≤ 100 := by
  unfold percent
  split
  case isTrue => exact Nat.zero_le 100
  case isFalse hpos =>
    -- Half of the whole, added for rounding, does not make up one percent more.
    have hlt : part * 100 + whole / 2 < whole * 101 := by omega
    exact Nat.le_of_lt_succ (Nat.div_lt_of_lt_mul hlt)

namespace Summary

lemma totalSlots_eq_sum (s : Summary) : s.totalSlots = (s.zones.map (·.capacity)).sum := by
  rw [totalSlots, List.sum, List.foldr_map]

lemma occupiedSlots_eq_sum (s : Summary) : s.occupiedSlots = (s.zones.map (·.occupied)).sum := by
  rw [occupiedSlots, List.sum, List.foldr_map]

end Summary

/-- A request that is not active is in one of the three other stages. -/
lemma countP_stages (requests : List Request) :
    requests.countP (·.isActive) + requests.countP (·.stage = .occupied) +
      requests.countP (·.stage = .released) + requests.countP (·.stage = .cancelled) =
        requests.length := by
  induction requests with
  | nil => rfl
  | cons r requests ih =>
    rw [List.countP_cons, List.countP_cons, List.countP_cons, List.countP_cons, List.length_cons,
      ← ih]
    cases hstage : r.stage <;> simp [Request.isActive, hstage] <;> omega

namespace Zone

lemma capacity_eq_sum (z : Zone) : z.capacity = (z.areas.map (·.slots.length)).sum := by
  rw [capacity, slots, List.length_flatMap]

lemma utilization_summary_le (z : Zone) : z.summary.utilization ≤ 100 :=
  percent_le_hundred List.countP_le_length

end Zone

namespace Registry

variable {r : Registry} {i : Nat} {z : Zone}

/-- The positions in a zone that are taken, in order. -/
lemma filter_taken (hz : r.zones[i]? = some z) : r.taken.filter (·.zone == i) =
    (z.entries.filter (!·.2.available)).map fun x => ⟨i, x.1.1, x.1.2⟩ := by
  have hsorted : ((z.entries.filter (!·.2.available)).map
      fun x => (⟨i, x.1.1, x.1.2⟩ : Handle)).Pairwise (· < ·) := by
    rw [List.pairwise_map]
    exact (z.entries_sorted.filter _).imp fun hlt => Or.inr ⟨rfl, hlt⟩
  apply (r.taken_sorted.filter _).eq_of_mem_iff hsorted
  rintro ⟨j, a, k⟩
  simp only [List.mem_filter, mem_taken, slot?_eq_some_iff, List.mem_map, beq_iff_eq]
  constructor
  · rintro ⟨⟨p, ⟨z', hz', hp⟩, htaken⟩, rfl⟩
    rw [hz, Option.some.injEq] at hz'
    subst hz'
    exact ⟨((a, k), p), ⟨hp, by simpa using htaken⟩, rfl⟩
  · rintro ⟨⟨⟨a', k'⟩, p⟩, ⟨hp, htaken⟩, heq⟩
    simp only [Handle.mk.injEq] at heq
    obtain ⟨rfl, rfl, rfl⟩ := heq
    exact ⟨⟨p, ⟨z, hz, hp⟩, by simpa using htaken⟩, rfl⟩

lemma occupied_eq_countP (hz : r.zones[i]? = some z) :
    z.occupied = r.taken.countP (·.zone == i) := by
  rw [List.countP_eq_length_filter, filter_taken hz, List.length_map,
    ← List.countP_eq_length_filter, Zone.occupied, ← Zone.entries_map_snd, List.countP_map]
  rfl

end Registry

namespace Facility

variable {s : Facility}

lemma totalSlots_summary (s : Facility) : s.summary.totalSlots = s.registry.totalSlots := by
  rw [Summary.totalSlots_eq_sum, summary, List.map_map, Registry.totalSlots_eq_sum]
  rfl

lemma occupiedSlots_summary (s : Facility) :
    s.summary.occupiedSlots = s.registry.taken.length := by
  rw [Summary.occupiedSlots_eq_sum, summary, List.map_map, Registry.length_taken, Registry.slots,
    List.countP_flatMap]
  rfl

/-- Ids and capacities of zones are a matter of the plan. -/
lemma zones_summary (s : Facility) :
    s.summary.zones.map (fun e => (e.zone, e.capacity)) =
      s.registry.plan.zones.map fun z => (z.id, z.capacity) := by
  rw [summary, List.map_map, Registry.plan, List.map_map]
  exact List.map_congr_left fun z _ => Prod.ext rfl z.capacity_plan.symm

lemma occupiedSlots_add_availableSlots (s : Facility) :
    s.summary.occupiedSlots + s.registry.availableSlots = s.summary.totalSlots := by
  rw [occupiedSlots_summary, totalSlots_summary, ← Registry.length_free,
    ← Registry.length_free_add_length_taken, Nat.add_comm]

lemma utilization_summary_le (s : Facility) : s.summary.utilization ≤ 100 := by
  apply percent_le_hundred
  rw [← occupiedSlots_add_availableSlots]
  exact Nat.le_add_right _ _

/-- The taken slots of a zone are as many as the requests that hold a slot there. -/
lemma Balanced.occupied_eq (hb : s.Balanced) {i : Nat} {z : Zone}
    (hz : s.registry.zones[i]? = some z) : z.occupied = s.requests.countP fun r =>
      (r.stage = .allocated ∨ r.stage = .occupied) ∧ r.slot.map (·.zone) = some i := by
  rw [Registry.occupied_eq_countP hz, hb.taken_perm_held.countP_eq, held, List.countP_filterMap]
  refine List.countP_congr fun r hr => ?_
  have hholds := hb.holds r hr
  rw [decide_eq_true_iff, ← Stage.holdsSlot_iff, ← hholds]
  cases r.slot <;> simp

/-- The summary says what the requests and the history say. -/
structure SummedUp (s : Facility) : Prop where
  /-- There is one entry for each zone. -/
  length_zones : s.summary.zones.length = s.registry.zones.length
  /-- In the order of the zones, the entry of a zone tells its id, how many slots its areas have and
  how many requests are allocated or occupied with a slot in this very zone. -/
  zone_entry : ∀ i z, s.registry.zones[i]? = some z → s.summary.zones[i]? = some
    (ZoneSummary.mk z.id (z.areas.map (·.slots.length)).sum (s.requests.countP fun r =>
      (r.stage = .allocated ∨ r.stage = .occupied) ∧ r.slot.map (·.zone) = some i))
  /-- No more than the whole zone is taken. -/
  zone_utilization_le : ∀ e ∈ s.summary.zones, e.utilization ≤ 100
  /-- There are as many taken slots as outstanding records. -/
  occupiedSlots_eq : s.summary.occupiedSlots = s.history.size
  /-- The taken slots and the free ones make up all slots. -/
  occupiedSlots_add : s.summary.occupiedSlots + s.registry.availableSlots = s.summary.totalSlots
  /-- The requests that are not active are occupied, released or cancelled. -/
  activeRequests_add : s.summary.activeRequests + s.requests.countP (·.stage = .occupied) +
    s.requests.countP (·.stage = .released) + s.requests.countP (·.stage = .cancelled) =
      s.requests.length
  /-- No more than the whole garage is taken. -/
  utilization_le : s.summary.utilization ≤ 100

/-- **The summary agrees with the requests.**  In every reachable facility, whether ids of zones are
repeated or allocations have been taken back, each zone's count of taken slots is the number of
requests that hold a slot there, and the totals are those of the history and the registry. -/
theorem summary_agrees_with_requests (hs : s.Reachable) : s.SummedUp where
  length_zones := List.length_map _
  zone_entry i z hz := by
    rw [summary, List.getElem?_map, hz, Option.map_some, Zone.summary, z.capacity_eq_sum,
      hs.balanced.occupied_eq hz]
  zone_utilization_le e he := by
    obtain ⟨z, -, rfl⟩ := List.mem_map.mp he
    exact z.utilization_summary_le
  occupiedSlots_eq := by
    rw [occupiedSlots_summary, Registry.length_taken, hs.balanced.size_taken]
  occupiedSlots_add := s.occupiedSlots_add_availableSlots
  activeRequests_add := countP_stages s.requests
  utilization_le := s.utilization_summary_le

/-- Of two zones with one id only the first one fills up; the vehicle that then finds no slot there
goes to the third zone, and the request whose slot is taken back is still active. -/
theorem summary_agrees_with_requests_handOver :
    let zones := [twoSlots, twoSlots, (Zone.empty 2).addArea (Area.numbered 1 2 2)]
    let s := (ofZones zones).run (handOver ++
      [.submit "D" 1 ⟨0, 0⟩, .occupy 3, .submit "E" 1 ⟨0, 0⟩, .rollback 1])
    s.SummedUp ∧ s.summary = ⟨[⟨1, 2, 2⟩, ⟨1, 2, 0⟩, ⟨2, 2, 1⟩], 3⟩ ∧ s.summary.utilization = 50 :=
  ⟨summary_agrees_with_requests ⟨_, _, by decide, by decide, rfl⟩, by decide, by decide⟩

end Facility

end Garage
