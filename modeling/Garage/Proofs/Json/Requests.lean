/-
# What the JSON text of a request tells

An object has its members in a fixed order, and the value of each member is legible: a number ends
where its digits end, and a quoted text ends at the first quote that is not escaped.  So the
text of a request is taken apart member by member.

* `legible_quoted`, `Legible.member`, `Legible.optional`: the parts of an object.
* `Request.json_inj`: the text of a request identifies it.
-/
import Garage.Export
import Garage.Proofs.Json.Cutting
import Garage.Proofs.Timestamp

namespace Garage

open Json

/-! ### The parts of an object -/

variable {α : Type} {write : α → List Char}

/-- A quoted text ends at the first quote that is not escaped. -/
lemma legible_quoted : Legible quoted := by
  intro cs cs' rest rest' _ _ h
  simp only [quoted, List.cons_append, List.append_assoc, List.nil_append] at h
  have hbody := (List.cons.inj h).2
  have htext := congrArg (readText 0) hbody
  rw [readText_flatMap_escape, readText_flatMap_escape] at htext
  obtain ⟨stop, hstop⟩ := skipText_flatMap_escape cs 0 rest
  obtain ⟨stop', hstop'⟩ := skipText_flatMap_escape cs' 0 rest'
  have hbehind := congrArg (skipText 0) hbody
  rw [hstop, hstop'] at hbehind
  exact ⟨Except.ok.inj htext, (Prod.mk.inj (Except.ok.inj hbehind)).2⟩

namespace Legible

lemma member (hwrite : Legible write) (name : String) :
    Legible fun a => Json.member name (write a) := by
  intro a a' rest rest' hrest hrest' h
  simp only [Json.member, List.append_assoc, List.cons_append] at h
  exact hwrite hrest hrest' (List.cons.inj (List.append_cancel_left h)).2

/-- If no value begins like `null`, it is seen whether there is a value. -/
lemma optional (hwrite : Legible write) (hhead : ∀ a, ∃ c cs, write a = c :: cs ∧ c ≠ 'n') :
    Legible (Json.optional write) := by
  have hne (a : α) (rest rest' : List Char) : write a ++ rest ≠ null ++ rest' := by
    obtain ⟨c, cs, hcs, hc⟩ := hhead a
    rw [hcs]
    exact fun h => hc (List.cons.inj h).1
  intro o o' rest rest' hrest hrest' h
  cases o with
  | none =>
    cases o' with
    | none => exact ⟨rfl, List.append_cancel_left h⟩
    | some a' => exact absurd h.symm (hne a' _ _)
  | some a =>
    cases o' with
    | none => exact absurd h (hne a _ _)
    | some a' =>
      obtain ⟨rfl, heq⟩ := hwrite hrest hrest' h
      exact ⟨rfl, heq⟩

end Legible

/-! ### Requests -/

lemma Stage.name_injective : Function.Injective name := by
  have hname : ∀ s : Stage, ofName? s.name = some s := by
    intro s
    cases s <;> decide
  intro s s' h
  exact Option.some.inj (by rw [← hname s, h, hname])

lemma Stage.legible_json : Legible Stage.json := by
  intro s s' rest rest' hrest hrest' h
  obtain ⟨hname, heq⟩ := legible_quoted hrest hrest' h
  exact ⟨name_injective (String.toList_inj.mp hname), heq⟩

lemma Handle.legible_json : Legible Handle.json := by
  intro h h' rest rest' _ _ heq
  simp only [Handle.json, object, commaSeparated, List.cons_append, List.append_assoc,
    List.nil_append] at heq
  obtain ⟨hzone, heq⟩ := (legible_number.member "zone").next rfl (List.cons.inj heq).2
  obtain ⟨harea, heq⟩ := (legible_number.member "area").next rfl heq
  obtain ⟨hslot, heq⟩ := (legible_number.member "slot").next rfl heq
  cases h
  cases h'
  simp_all

lemma Handle.exists_json_eq_cons (h : Handle) : ∃ c cs, h.json = c :: cs ∧ c ≠ 'n' :=
  ⟨'{', _, rfl, by decide⟩

namespace Request

/-- **The text of a request identifies it.** -/
theorem json_inj {r r' : Request} (hr : r.time.IsProper) (hr' : r'.time.IsProper) :
    r.json = r'.json ↔ r = r' := by
  refine ⟨fun h => ?_, fun h => h ▸ rfl⟩
  simp only [json, object, commaSeparated, List.cons_append, List.append_assoc] at h
  obtain ⟨hid, h⟩ := (legible_number.member "request_id").next rfl (List.cons.inj h).2
  obtain ⟨hvehicle, h⟩ := (legible_quoted.member "vehicle_id").next rfl h
  obtain ⟨hzone, h⟩ := (legible_number.member "requested_zone").next rfl h
  obtain ⟨htime, h⟩ := (legible_quoted.member "request_time").next rfl h
  obtain ⟨hstage, h⟩ := (Stage.legible_json.member "state").next rfl h
  have hlegible := (Handle.legible_json.optional Handle.exists_json_eq_cons).member "allocated_slot"
  obtain ⟨hslot, -⟩ := hlegible.next rfl h
  have hvehicle := String.toList_inj.mp hvehicle
  have hzone := UInt32.toNat_inj.mp hzone
  have htime := Instant.text_inj hr hr' htime
  cases r
  cases r'
  simp_all

/-- A request that was made in a leap second, for a vehicle with a name that looks like members. -/
def inLeapSecond : Request :=
  ⟨0, "A\",\"requested_zone\":2\\", 1, ⟨59, 1500000000⟩, .allocated, some ⟨0, 1, 2⟩⟩

/-- The same a second later. -/
def afterLeapSecond : Request := { inLeapSecond with time := ⟨60, 500000000⟩ }

/-- Two requests that are alike but for a second have different texts, though the first one was made
in a leap second. -/
theorem json_inj_inLeapSecond :
    inLeapSecond.time.IsProper ∧ afterLeapSecond.time.IsProper ∧
      inLeapSecond.json ≠ afterLeapSecond.json := by
  have hproper : inLeapSecond.time.IsProper := by decide
  have hproper' : afterLeapSecond.time.IsProper := by decide
  exact ⟨hproper, hproper', (json_inj hproper hproper').not.mpr (by decide)⟩

end Request

end Garage
