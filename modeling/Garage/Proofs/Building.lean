/-
# Which layouts can be built

Everything that is wrong with a layout is listed in `Layout.faults`, in the order in which one reads
it: zone by zone, in a zone first its id, then its areas, then its neighbours.  To each member of a
list belong the faults that it has next to those *before* it (`faultsIn`).

* `Layout.build_eq`: building a layout comes to its first fault, or else to the zones that it
  describes.  Building goes on with the list of the members built so far, so the inductions here
  take the lists apart at their ends, `xs ++ [x]`.
* `Layout.faults_eq_nil_iff`: there is no fault just if the layout is `Sound`, which says nothing
  of any order.
* `build_outcome` puts the two together; `reachable_and_distinctIds_of_facility` is what the results
  about garages take from it.
-/
import Mathlib.Data.Finset.Card
import Mathlib.Data.Finset.Dedup
import Garage.Layout.Basic
import Garage.Proofs.Steps

namespace Garage

/-! ### Faults of the members of a list -/

section Faults

variable {α β ε ε' : Type} {f : List α → α → List β}

/-- The faults of the members of a list in order, where those of a member depend on the members
before it. -/
def faultsIn (f : List α → α → List β) (xs : List α) : List β :=
  xs.zipIdx.flatMap fun (x, i) => f (xs.take i) x

@[simp] lemma faultsIn_nil : faultsIn f [] = [] := rfl

@[simp] lemma faultsIn_concat (xs : List α) (x : α) :
    faultsIn f (xs ++ [x]) = faultsIn f xs ++ f xs x := by
  have hold : ∀ p ∈ xs.zipIdx, f ((xs ++ [x]).take p.2) p.1 = f (xs.take p.2) p.1 := by
    intro p hp
    have hlt : p.2 < xs.length := by
      simpa using List.snd_lt_add_of_mem_zipIdx hp
    rw [List.take_append_of_le_length hlt.le]
  rw [faultsIn, List.zipIdx_append, List.flatMap_append, faultsIn, List.flatMap_congr hold]
  simp

/-- What comes of a work that ends at its first fault and gives `a` if there is none. -/
def verdict (faults : List ε) (a : α) : Except ε α :=
  match faults.head? with
  | some e => .error e
  | none => .ok a

variable {faults faults' : List ε} {a b : α} {e : ε}

lemma verdict_eq_ok_iff : verdict faults a = .ok b ↔ faults = [] ∧ a = b := by
  cases faults <;> simp [verdict]

lemma verdict_eq_error_iff : verdict faults a = .error e ↔ faults.head? = some e := by
  cases faults <;> simp [verdict]

lemma mapError_verdict (g : ε → ε') :
    (verdict faults a).mapError g = verdict (faults.map g) a := by
  cases faults <;> rfl

/-- A work that is done after another one has its faults behind those of the other. -/
lemma verdict_bind {k : α → Except ε β} {c : β}
    (hk : faults = [] → k a = verdict faults' c) :
    (verdict faults a >>= k) = verdict (faults ++ faults') c := by
  cases faults with
  | nil => exact hk rfl
  | cons e faults => rfl

end Faults

/-! ### Areas -/

/-- The areas whose id an earlier area of the zone has already. -/
def areaFaults (zone : ZoneId) : List AreaLayout → List BuildError :=
  faultsIn fun earlier a =>
    if a.id ∈ earlier.map (·.id) then [.duplicateArea a.id zone] else []

lemma areaFaults_eq_nil_iff (zone : ZoneId) (areas : List AreaLayout) :
    areaFaults zone areas = [] ↔ (areas.map (·.id)).Nodup := by
  induction areas using List.reverseRecOn with
  | nil => simp [areaFaults]
  | append_singleton areas a ih =>
    rw [areaFaults] at ih ⊢
    rw [faultsIn_concat, List.append_eq_nil_iff, ih, nodup_map_concat]
    simp [and_comm]

lemma firstRepeated_concat {α : Type} [DecidableEq α] (seen xs : List α) (x : α) :
    firstRepeated seen (xs ++ [x]) =
      (firstRepeated seen xs).or (if x ∈ seen ∨ x ∈ xs then some x else none) := by
  induction xs generalizing seen with
  | nil => simp [firstRepeated]
  | cons y xs ih =>
    rw [List.cons_append, firstRepeated, firstRepeated, ih]
    split
    · rfl
    · simp only [List.mem_cons, or_left_comm, or_assoc]

/-- The first repeated id is the first fault of the areas. -/
lemma head?_areaFaults (zone : ZoneId) (areas : List AreaLayout) :
    (areaFaults zone areas).head? =
      (firstRepeated [] (areas.map (·.id))).map (.duplicateArea · zone) := by
  induction areas using List.reverseRecOn with
  | nil => rfl
  | append_singleton areas a ih =>
    rw [areaFaults] at ih ⊢
    rw [faultsIn_concat, List.head?_append, ih, List.map_append, List.map_singleton,
      firstRepeated_concat, Option.map_or]
    simp only [List.not_mem_nil, false_or]
    split <;> rfl

/-- What an area is like that is built in this zone. -/
structure AreaLayout.Describes (a : AreaLayout) (zone : ZoneId) (area : Area) : Prop where
  id_eq : area.id = a.id
  length_slots : area.slots.length = a.slots.toNat
  /-- The slots are numbered from one, belong to the zone and are free. -/
  slot : ∀ k p, area.slots[k]? = some p →
    p.id.toNat = k + 1 ∧ p.zone = zone ∧ p.available = true

lemma AreaLayout.describes_build (a : AreaLayout) (zone : ZoneId) :
    a.Describes zone (a.build zone) := by
  constructor
  case id_eq => rfl
  case length_slots => exact Area.numbered_length a.id zone a.slots
  case slot =>
    intro k p hp
    rw [build, Area.numbered, List.getElem?_map, Option.map_eq_some_iff] at hp
    obtain ⟨i, hi, rfl⟩ := hp
    obtain ⟨hlt, rfl⟩ := List.getElem?_eq_some_iff.mp hi
    rw [List.length_range] at hlt
    rw [List.getElem_range]
    refine ⟨?_, rfl, rfl⟩
    -- The number of slots is one that numbers have room for.
    exact UInt32.toNat_ofNat_of_lt' (lt_of_le_of_lt hlt a.slots.toNat_lt)

/-! ### Neighbours -/

/-- The neighbours that are refused: the zone itself, and an eleventh one after ten others. -/
def adjacencyFaults (zone : ZoneId) : List ZoneId → List AdjacencyError :=
  faultsIn fun earlier n =>
    if n = zone then [.itself zone]
    else if n ∉ earlier ∧ earlier.toFinset.card = 10 then [.full zone] else []

lemma card_toFinset_concat {α : Type} [DecidableEq α] (xs : List α) (x : α) :
    (xs ++ [x]).toFinset.card = if x ∈ xs then xs.toFinset.card else xs.toFinset.card + 1 := by
  have hinsert : (xs ++ [x]).toFinset = insert x xs.toFinset := by
    ext y
    simp
  rw [hinsert, Finset.card_insert_eq_ite]
  simp only [List.mem_toFinset]

lemma adjacencyFaults_eq_nil_iff (zone : ZoneId) (ids : List ZoneId) :
    adjacencyFaults zone ids = [] ↔ zone ∉ ids ∧ ids.toFinset.card ≤ 10 := by
  induction ids using List.reverseRecOn with
  | nil => simp [adjacencyFaults]
  | append_singleton ids n ih =>
    rw [adjacencyFaults] at ih ⊢
    rw [faultsIn_concat, List.append_eq_nil_iff, ih, card_toFinset_concat]
    by_cases hn : n = zone
    · simp [hn]
    · by_cases hmem : n ∈ ids
      · simp [hn, Ne.symm hn, hmem]
      · rw [if_neg hn, if_neg hmem, and_assoc]
        simp only [hmem, not_false_eq_true, true_and, List.mem_append, List.mem_singleton,
          Ne.symm hn, or_false, ite_eq_right_iff, List.cons_ne_nil, imp_false]
        exact and_congr_right fun _ => by omega

lemma length_eraseDups {α : Type} [DecidableEq α] (xs : List α) :
    xs.eraseDups.length = xs.toFinset.card := by
  induction xs using List.reverseRecOn with
  | nil => rfl
  | append_singleton xs x ih =>
    rw [eraseDups_concat, card_toFinset_concat]
    split
    · exact ih
    · rw [List.length_append, ih, List.length_singleton]

/-- Neighbours that are declared one after another are there once each, up to the first one that is
refused. -/
lemma addAllAdjacent_eq {z : Zone} (hz : z.adjacent = []) (ids : List ZoneId) :
    z.addAllAdjacent ids =
      verdict (adjacencyFaults z.id ids) { z with adjacent := ids.eraseDups } := by
  induction ids using List.reverseRecOn with
  | nil =>
    obtain ⟨id, areas, adjacent⟩ := z
    obtain rfl := hz
    rfl
  | append_singleton ids n ih =>
    rw [Zone.addAllAdjacent] at ih ⊢
    rw [List.foldlM_append, ih, adjacencyFaults, faultsIn_concat]
    refine verdict_bind fun hnone => ?_
    -- So far all went well, so there are no more than ten neighbours.
    have hle : ids.toFinset.card ≤ 10 := ((adjacencyFaults_eq_nil_iff z.id ids).mp hnone).2
    rw [List.foldlM_cons, Zone.addAdjacent, eraseDups_concat]
    simp only [List.mem_eraseDups, length_eraseDups, Zone.maxAdjacent]
    by_cases hn : n = z.id
    · rw [if_pos hn, if_pos hn]
      rfl
    · by_cases hmem : n ∈ ids
      · simp [hn, hmem, verdict]
      · by_cases hlt : ids.toFinset.card < 10
        · simp [hn, hmem, hlt, hlt.ne, verdict]
        · simp [hn, hmem, hle.antisymm (not_lt.mp hlt), verdict]

/-! ### Zones -/

namespace ZoneLayout

/-- The zone that is meant: with all its areas, and with each neighbour in the place where it is
declared first. -/
def zone (z : ZoneLayout) : Zone := ⟨z.id, z.areas.map (·.build z.id), z.adjacent.eraseDups⟩

/-- The faults of a zone that comes after zones with these ids. -/
def faults (earlier : List ZoneId) (z : ZoneLayout) : List BuildError :=
  (if z.id ∈ earlier then [.duplicateZone z.id] else []) ++
    (areaFaults z.id z.areas ++ (adjacencyFaults z.id z.adjacent).map .adjacency)

lemma allFree_zone (z : ZoneLayout) : z.zone.AllFree := by
  intro p hp
  rw [Zone.slots, zone, List.flatMap_map, List.mem_flatMap] at hp
  obtain ⟨a, -, hp⟩ := hp
  obtain ⟨k, hk⟩ := List.mem_iff_getElem?.mp hp
  exact ((a.describes_build z.id).slot k p hk).2.2

lemma build_eq (z : ZoneLayout) : z.build =
    verdict (areaFaults z.id z.areas ++ (adjacencyFaults z.id z.adjacent).map .adjacency)
      z.zone := by
  have hareas := head?_areaFaults z.id z.areas
  rw [build]
  cases hrep : firstRepeated [] (z.areas.map (·.id)) with
  | some area =>
    rw [hrep, Option.map_some] at hareas
    rw [verdict, List.head?_append, hareas]
    rfl
  | none =>
    rw [hrep, Option.map_none, List.head?_eq_none_iff] at hareas
    simp only [hareas, List.nil_append]
    rw [addAllAdjacent_eq rfl, mapError_verdict]
    rfl

/-- A zone that can be built on its own. -/
structure Sound (z : ZoneLayout) : Prop where
  nodup_areas : (z.areas.map (·.id)).Nodup
  id_not_mem : z.id ∉ z.adjacent
  card_adjacent_le : z.adjacent.toFinset.card ≤ 10

lemma faults_eq_nil_iff (earlier : List ZoneId) (z : ZoneLayout) :
    z.faults earlier = [] ↔ z.id ∉ earlier ∧ z.Sound := by
  have hid : (if z.id ∈ earlier then [BuildError.duplicateZone z.id] else []) = [] ↔
      z.id ∉ earlier := by simp
  rw [faults, List.append_eq_nil_iff, List.append_eq_nil_iff, List.map_eq_nil_iff, hid,
    areaFaults_eq_nil_iff, adjacencyFaults_eq_nil_iff]
  refine and_congr_right fun _ => ⟨?_, fun hz => ?_⟩
  · rintro ⟨hareas, hself, hcard⟩
    exact ⟨hareas, hself, hcard⟩
  · exact ⟨hz.nodup_areas, hz.id_not_mem, hz.card_adjacent_le⟩

/-- What a zone is like that is built after this layout. -/
structure Describes (z : ZoneLayout) (zone : Zone) : Prop where
  id_eq : zone.id = z.id
  areas : List.Forall₂ (·.Describes z.id ·) z.areas zone.areas
  /-- Of neighbours that are declared again only the first one is kept. -/
  adjacent_eq : zone.adjacent = z.adjacent.eraseDups

lemma describes_zone (z : ZoneLayout) : z.Describes z.zone := by
  constructor
  case id_eq => rfl
  case areas =>
    rw [zone, List.forall₂_map_right_iff]
    exact List.forall₂_same.mpr fun a _ => a.describes_build z.id
  case adjacent_eq => rfl

end ZoneLayout

/-! ### Layouts -/

namespace Layout

/-- Everything that is wrong with a layout, in the order in which it is read. -/
def faults (l : Layout) : List BuildError :=
  faultsIn (fun earlier z => z.faults (earlier.map (·.id))) l.zones

lemma buildZones_concat (seen : List ZoneId) (zs : List ZoneLayout) (z : ZoneLayout) :
    buildZones seen (zs ++ [z]) = buildZones seen zs >>= fun built =>
      (if z.id ∈ seen ∨ z.id ∈ zs.map (·.id) then .error (.duplicateZone z.id) else z.build) >>=
        fun zone => pure (built ++ [zone]) := by
  induction zs generalizing seen with
  | nil =>
    simp only [List.nil_append, buildZones, List.map_nil, List.not_mem_nil, or_false]
    split <;> rfl
  | cons y zs ih =>
    rw [List.cons_append, buildZones, buildZones]
    split
    case isTrue => rfl
    case isFalse =>
      simp only [ih, bind_assoc, pure_bind, List.cons_append, List.mem_cons, List.map_cons,
        or_left_comm, or_assoc]

lemma build_eq (l : Layout) : l.build = verdict l.faults (l.zones.map (·.zone)) := by
  obtain ⟨zs⟩ := l
  rw [build, faults]
  dsimp only
  induction zs using List.reverseRecOn with
  | nil => rfl
  | append_singleton zs z ih =>
    rw [buildZones_concat, ih, faultsIn_concat]
    refine verdict_bind fun _ => ?_
    -- The zones before are built, so the last one decides.
    rw [ZoneLayout.faults]
    simp only [List.not_mem_nil, false_or]
    split
    case isTrue => rfl
    case isFalse =>
      rw [ZoneLayout.build_eq, List.nil_append, List.map_append]
      refine (verdict_bind fun _ => ?_).trans (by rw [List.append_nil])
      rfl

/-- A layout with different ids of zones, different ids of areas in each zone, and at most ten
neighbours of each zone, none of which is the zone itself. -/
structure Sound (l : Layout) : Prop where
  nodup_zones : (l.zones.map (·.id)).Nodup
  zones : ∀ z ∈ l.zones, z.Sound

lemma faults_eq_nil_iff (l : Layout) : l.faults = [] ↔ l.Sound := by
  suffices h : l.faults = [] ↔ (l.zones.map (·.id)).Nodup ∧ ∀ z ∈ l.zones, z.Sound from
    h.trans ⟨fun ⟨hid, hzones⟩ => ⟨hid, hzones⟩, fun hl => ⟨hl.nodup_zones, hl.zones⟩⟩
  obtain ⟨zs⟩ := l
  rw [faults]
  dsimp only
  induction zs using List.reverseRecOn with
  | nil => simp
  | append_singleton zs z ih =>
    rw [faultsIn_concat, List.append_eq_nil_iff, ih, z.faults_eq_nil_iff, nodup_map_concat,
      List.forall_mem_append]
    simp only [List.mem_singleton, forall_eq]
    tauto

lemma build_eq_ok_iff {l : Layout} {zones : List Zone} :
    l.build = .ok zones ↔ l.Sound ∧ l.zones.map (·.zone) = zones := by
  rw [build_eq, verdict_eq_ok_iff, faults_eq_nil_iff]

/-- What becomes of a layout: its zones, or the first of its faults. -/
structure Outcome (l : Layout) : Prop where
  /-- Just the sound layouts can be built. -/
  ok_iff : (∃ zones, l.build = .ok zones) ↔ l.Sound
  /-- The zones are those of the layout, in order. -/
  describes : ∀ zones, l.build = .ok zones → List.Forall₂ (·.Describes ·) l.zones zones
  /-- The error is the first fault, whatever else is wrong. -/
  error_iff : ∀ e, l.build = .error e ↔ l.faults.head? = some e

/-- **Sound layouts are built as they are written, others are rejected for their first fault.** -/
theorem build_outcome (l : Layout) : l.Outcome := by
  constructor
  case ok_iff =>
    constructor
    · rintro ⟨zones, hbuild⟩
      exact (build_eq_ok_iff.mp hbuild).1
    · intro hl
      exact ⟨_, build_eq_ok_iff.mpr ⟨hl, rfl⟩⟩
  case describes =>
    intro zones hbuild
    obtain ⟨-, rfl⟩ := build_eq_ok_iff.mp hbuild
    exact List.forall₂_map_right_iff.mpr (List.forall₂_same.mpr fun z _ => z.describes_zone)
  case error_iff =>
    intro e
    rw [l.build_eq, verdict_eq_error_iff]

/-- A zone with two areas of one id that lists itself comes before another zone of its id. -/
example :
    let l : Layout := ⟨[⟨1, [2, 1], [⟨4, 2⟩, ⟨4, 3⟩]⟩, ⟨1, [], []⟩]⟩
    l.faults = [.duplicateArea 4 1, .adjacency (.itself 1), .duplicateZone 1] ∧
      l.build = .error (.duplicateArea 4 1) := by
  decide

/-- A garage that is built after a layout is one of those that the results about garages speak of:
its slots are all free, and no id of a zone is registered twice. -/
theorem reachable_and_distinctIds_of_facility {l : Layout} {s : Facility}
    (h : l.facility = .ok s) : s.Reachable ∧ s.registry.DistinctIds := by
  cases hbuild : l.build with
  | error e =>
    rw [facility, hbuild] at h
    cases h
  | ok zones =>
    rw [facility, hbuild] at h
    obtain rfl : Facility.ofZones zones = s := Except.ok.inj h
    obtain ⟨hl, rfl⟩ := build_eq_ok_iff.mp hbuild
    constructor
    · apply Facility.reachable_ofZones
      rw [List.forall_mem_map]
      exact fun z _ => z.allFree_zone
    · rw [Registry.DistinctIds, Facility.zones_ofZones, List.map_map]
      exact hl.nodup_zones

end Layout

end Garage
