/-
# The neighbours of a zone

Neighbours are declared one at a time, and a declaration that is refused does not keep the next one
from being tried.  Whatever is declared, the neighbours of a zone are then the first ten different
ids other than its own, in the order in which they first came: `firstTen`.

* `firstTen_concat` says how this list grows: a declaration either goes to the end or is passed
  over.
* `declare_eq` finds the same in the checks of a declaration, and `declareAll_eq` follows a whole
  sequence of declarations.
* `neighbours_are_first_ten` adds what each of them answers.
-/
import Garage.Proofs.Steps
import Mathlib.Data.List.Induction

namespace Garage

/-- A member that is put behind a list gets into its first `m` members if there is room. -/
lemma take_concat {α : Type} (l : List α) (x : α) (m : Nat) :
    (l ++ [x]).take m = if (l.take m).length < m then l.take m ++ [x] else l.take m := by
  rw [List.take_append, List.length_take]
  split
  case isTrue hlt =>
    have hpos : 0 < m - l.length := by omega
    rw [List.take_of_length_le (l := [x]) hpos]
  case isFalse hle =>
    have hzero : m - l.length = 0 := by omega
    rw [hzero, List.take_zero, List.append_nil]

namespace Zone

/-- A neighbour is declared; if it is refused, the zone stays as it is. -/
def declare (z : Zone) (other : ZoneId) : Zone :=
  match z.addAdjacent other with
  | .ok z' => z'
  | .error _ => z

/-- Neighbours are declared one after another, whether they are refused or not. -/
def declareAll (z : Zone) (others : List ZoneId) : Zone := others.foldl declare z

/-- The first ten different ids other than `id`, in the order in which they first come. -/
def firstTen (id : ZoneId) (others : List ZoneId) : List ZoneId :=
  (others.filter (· != id)).eraseDups.take 10

variable {id n : ZoneId} {others : List ZoneId}

lemma not_mem_firstTen (id : ZoneId) (others : List ZoneId) : id ∉ firstTen id others := by
  intro hmem
  have hmem' := List.mem_eraseDups.mp (List.mem_of_mem_take hmem)
  simp at hmem'

/-- As long as there is room, nothing is missing. -/
lemma mem_firstTen (hlt : (firstTen id others).length < 10) (hn : n ≠ id) (hmem : n ∈ others) :
    n ∈ firstTen id others := by
  rw [firstTen, List.length_take] at hlt
  rw [firstTen, List.take_of_length_le (by omega), List.mem_eraseDups, List.mem_filter]
  exact ⟨hmem, bne_iff_ne.mpr hn⟩

/-- One more id is put behind the others if it is a new one and there is room. -/
lemma firstTen_concat (id : ZoneId) (others : List ZoneId) (n : ZoneId) :
    firstTen id (others ++ [n]) =
      if n ≠ id ∧ n ∉ firstTen id others ∧ (firstTen id others).length < 10
      then firstTen id others ++ [n] else firstTen id others := by
  by_cases hn : n = id
  · simp [firstTen, hn]
  have hfilter : (others ++ [n]).filter (· != id) = others.filter (· != id) ++ [n] := by
    simp [hn]
  by_cases hmem : n ∈ others
  · -- It came before, so it is among the first ten unless these were complete by then.
    have hsame : firstTen id (others ++ [n]) = firstTen id others := by
      rw [firstTen, hfilter, eraseDups_concat, if_pos (by simp [hmem, hn]), firstTen]
    rw [hsame, if_neg]
    rintro ⟨-, hnot, hlt⟩
    exact hnot (mem_firstTen hlt hn hmem)
  · have hnot : n ∉ firstTen id others := by
      intro hmem'
      have := List.mem_eraseDups.mp (List.mem_of_mem_take hmem')
      exact hmem (List.mem_of_mem_filter this)
    rw [firstTen, hfilter, eraseDups_concat, if_neg (by simp [hmem]), take_concat, ← firstTen]
    simp only [hn, hnot, ne_eq, not_false_eq_true, true_and]

/-! ### Declarations -/

variable {z : Zone}

/-- A declaration does to the neighbours what one more id does to the first ten. -/
lemma declare_eq (hz : z.adjacent = firstTen z.id others) (n : ZoneId) :
    z.declare n = { z with adjacent := firstTen z.id (others ++ [n]) } := by
  rw [declare, addAdjacent, firstTen_concat, ← hz, maxAdjacent]
  by_cases hn : n = z.id
  · simp [hn]
  · by_cases hmem : n ∈ z.adjacent
    · simp [hn, hmem]
    · by_cases hlt : z.adjacent.length < 10 <;> simp [hn, hmem, hlt]

/-- What is declared in a zone without neighbours. -/
theorem declareAll_eq (hz : z.adjacent = []) (others : List ZoneId) :
    z.declareAll others = { z with adjacent := firstTen z.id others } := by
  induction others using List.reverseRecOn with
  | nil =>
    obtain ⟨id, areas, adjacent⟩ := z
    obtain rfl := hz
    rfl
  | append_singleton others n ih =>
    rw [declareAll] at ih ⊢
    rw [List.foldl_concat, ih, declare_eq rfl]

/-- What a zone answers when a neighbour is declared. -/
structure Answers (z : Zone) (n : ZoneId) : Prop where
  /-- The zone itself is refused. -/
  itself : n = z.id → z.addAdjacent n = .error (.itself z.id)
  /-- What is a neighbour already is accepted and changes nothing, even if there is no room. -/
  repeated : n ∈ z.adjacent → z.addAdjacent n = .ok z
  /-- Everything else is put behind the other neighbours as long as there are fewer than ten. -/
  fresh : n ≠ z.id → n ∉ z.adjacent → z.adjacent.length < 10 →
    z.addAdjacent n = .ok { z with adjacent := z.adjacent ++ [n] }
  /-- After that it is refused. -/
  full : n ≠ z.id → n ∉ z.adjacent → 10 ≤ z.adjacent.length →
    z.addAdjacent n = .error (.full z.id)
  /-- What is refused changes nothing. -/
  unchanged : ∀ e, z.addAdjacent n = .error e → z.declare n = z

/-- A zone that is not a neighbour of its own is never taken for one. -/
lemma answers (hz : z.id ∉ z.adjacent) (n : ZoneId) : z.Answers n where
  itself hn := by
    rw [addAdjacent, if_pos hn]
  repeated hmem := by
    have hn : n ≠ z.id := by
      rintro rfl
      exact hz hmem
    rw [addAdjacent, if_neg hn, if_pos hmem]
  fresh hn hmem hlt := by
    rw [addAdjacent, if_neg hn, if_neg hmem, maxAdjacent, if_pos hlt]
  full hn hmem hle := by
    rw [addAdjacent, if_neg hn, if_neg hmem, maxAdjacent, if_neg (Nat.not_lt.mpr hle)]
  unchanged e he := by
    rw [declare, he]

/-- What comes of neighbours that are declared in a new zone one after another, though some of them
may be refused. -/
structure KeepsFirstTen (id : ZoneId) (calls : List ZoneId) : Prop where
  /-- At any time the neighbours are the first ten different ids that have been declared so far, the
  zone's own left out; nothing else has become of the zone. -/
  zone_eq : ∀ k, (empty id).declareAll (calls.take k) = ⟨id, [], firstTen id (calls.take k)⟩
  /-- What is declared next is answered as the zone is by then. -/
  answers : ∀ k n, ((empty id).declareAll (calls.take k)).Answers n

/-- **A zone's neighbours are the first ten that were declared.**  Ids that are repeated and the
zone's own id may come in between, before and after the tenth neighbour. -/
theorem neighbours_are_first_ten (id : ZoneId) (calls : List ZoneId) : KeepsFirstTen id calls where
  zone_eq k := declareAll_eq rfl (calls.take k)
  answers k n := by
    rw [declareAll_eq rfl]
    exact answers (not_mem_firstTen id (calls.take k)) n

/-- Zone 1 declares itself first and its neighbour 2 twice.  When it has ten neighbours, 12 is
refused, but 2 is not. -/
example :
    let z := (empty 1).declareAll [1, 2, 3, 2, 4, 5, 6, 7, 8, 9, 10, 11, 12]
    z.adjacent = [2, 3, 4, 5, 6, 7, 8, 9, 10, 11] ∧
      z.addAdjacent 12 = .error (.full 1) ∧ z.addAdjacent 2 = .ok z := by
  decide

end Zone

end Garage
