/-
# Layouts in files

The name of a file says which reader its text is given to.  `HasJsonExtension` says of which names
this is the reader of JSON, without taking a path apart as `LayoutFile.isJson` does.

* `lastPart?_eq_some_iff`: what a path ends in, looked up or said.
* `LayoutFile.isJson_iff`: both say the same.
* `Layout.ofJson_yaml`: the YAML text of a layout is never JSON.
* `Layout.layout_written`: what is read from a file with one of the two texts of a layout, whatever
  the file is called.  Its JSON text is YAML for the same layout, so it is read under every name.
-/
import Garage.Proofs.Json.RoundTrip
import Garage.Proofs.Yaml.Block
import Garage.Proofs.Yaml.Flow

namespace Garage

/-! ## Names -/

/-- The last part of a path is `name`.  Slashes behind it do not count, and parts that are a single
dot do not, either. -/
def EndsIn (path name : List Char) : Prop :=
  ∃ (directory : List Char) (idle : List (List Char)),
    path = directory ++ name ++ idle.flatMap ('/' :: ·) ∧
    (∀ c ∈ directory.getLast?, c = '/') ∧ '/' ∉ name ∧ name ≠ [] ∧ name ≠ ['.'] ∧
    ∀ part ∈ idle, part = [] ∨ part = ['.']

/-- The last part of a path has a dot that is not its first character, and behind it there is just
`json`, in letters of either case. -/
def HasJsonExtension (path : List Char) : Prop :=
  ∃ stem ending, EndsIn path (stem ++ '.' :: ending) ∧ stem ≠ [] ∧
    ending.map Char.toLower = "json".toList

section Names

variable {p : Char → Bool} {front back path directory name ending : List Char}

/-! ### The last part -/

/-- Behind one part, the others have slashes in front of them; before it, behind them. -/
lemma intercalate_slash (before after : List (List Char)) (name : List Char) :
    ['/'].intercalate (before ++ name :: after) =
      before.flatMap (· ++ ['/']) ++ name ++ after.flatMap ('/' :: ·) := by
  induction before with
  | nil =>
    induction after generalizing name with
    | nil => simp
    | cons part after ih => simpa [List.intercalate_cons_cons] using ih part
  | cons part before ih =>
    rw [List.cons_append, List.intercalate_cons_of_ne_nil (by simp), ih, List.flatMap_cons]
    simp

lemma not_mem_of_mem_splitOn {part : List Char} (h : part ∈ path.splitOn '/') : '/' ∉ part := by
  induction path generalizing part with
  | nil =>
    rw [List.splitOn_nil, List.mem_singleton] at h
    rw [h]
    exact List.not_mem_nil
  | cons c path ih =>
    rw [List.splitOn_cons_eq_if_modifyHead] at h
    split at h
    case isTrue =>
      rcases List.mem_cons.mp h with rfl | h
      · exact List.not_mem_nil
      · exact ih h
    case isFalse hc =>
      cases hparts : path.splitOn '/' with
      | nil => exact absurd hparts (List.splitOn_ne_nil _ _)
      | cons first parts =>
        rw [hparts] at h ih
        rcases List.mem_cons.mp h with rfl | h
        · rw [List.mem_cons, not_or]
          exact ⟨fun heq => hc (beq_iff_eq.mpr heq.symm), ih List.mem_cons_self⟩
        · exact ih (List.mem_cons_of_mem _ h)

lemma splitOn_append_flatMap {parts : List (List Char)} (h : ∀ part ∈ name :: parts, '/' ∉ part) :
    (name ++ parts.flatMap ('/' :: ·)).splitOn '/' = name :: parts := by
  have hsplit := List.splitOn_intercalate '/' h (List.cons_ne_nil _ _)
  rwa [← List.nil_append (name :: parts), intercalate_slash [] parts name] at hsplit

/-- Where a part begins, the parts before it are split off. -/
lemma exists_splitOn_append (h : ∀ c ∈ directory.getLast?, c = '/')
    (rest : List Char) :
    ∃ before, (directory ++ rest).splitOn '/' = before ++ rest.splitOn '/' := by
  obtain rfl | ⟨front, c, rfl⟩ := List.eq_nil_or_concat' directory
  · exact ⟨[], rfl⟩
  · obtain rfl : c = '/' := h c (by simp)
    refine ⟨front.splitOn '/', ?_⟩
    rw [List.append_assoc, List.singleton_append, List.splitOn_append_cons_self]

/-- The search of the parts from behind finds what a path ends in. -/
lemma lastPart?_eq_some_iff : lastPart? path = some name ↔ EndsIn path name := by
  rw [lastPart?, List.find?_eq_some_iff_append, decide_eq_true_eq]
  constructor
  · rintro ⟨⟨hne, hdot⟩, after, before, hparts, hafter⟩
    rw [List.reverse_eq_append_iff, List.reverse_cons, List.append_assoc,
      List.singleton_append] at hparts
    refine ⟨before.reverse.flatMap (· ++ ['/']), after.reverse, ?_, ?_, ?_, hne, hdot, ?_⟩
    · rw [← intercalate_slash, ← hparts, List.intercalate_splitOn]
    · intro c hc
      obtain hnil | ⟨front, part, hconcat⟩ := List.eq_nil_or_concat' before.reverse
      · simp [hnil] at hc
      · simpa [hconcat, eq_comm] using hc
    · have hmem : name ∈ path.splitOn '/' := by simp [hparts]
      exact not_mem_of_mem_splitOn hmem
    · intro part hpart
      simpa [Decidable.or_iff_not_imp_left] using hafter part (List.mem_reverse.mp hpart)
  · rintro ⟨directory, idle, rfl, hdirectory, hname, hne, hdot, hidle⟩
    have hslash : ∀ part ∈ name :: idle, '/' ∉ part := by
      refine List.forall_mem_cons.mpr ⟨hname, fun part hpart => ?_⟩
      rcases hidle part hpart with rfl | rfl <;> decide
    obtain ⟨before, hbefore⟩ := exists_splitOn_append hdirectory (name ++ idle.flatMap ('/' :: ·))
    rw [List.append_assoc, hbefore, splitOn_append_flatMap hslash]
    refine ⟨⟨hne, hdot⟩, idle.reverse, before.reverse, by simp, fun part hpart => ?_⟩
    rcases hidle part (List.mem_reverse.mp hpart) with rfl | rfl <;> rfl

/-! ### The extension -/

/-- In `front ++ back`, the characters of `back` are those behind the last one that `p` does not
hold for. -/
structure IsEnd (p : Char → Bool) (front back : List Char) : Prop where
  stops : ∀ c ∈ front.getLast?, p c = false
  all : ∀ c ∈ back, p c = true

lemma exists_isEnd (p : Char → Bool) (cs : List Char) :
    ∃ front back, cs = front ++ back ∧ IsEnd p front back := by
  refine ⟨(cs.reverse.dropWhile p).reverse, (cs.reverse.takeWhile p).reverse, ?_, ?_, ?_⟩
  · rw [← List.reverse_append, List.takeWhile_append_dropWhile, List.reverse_reverse]
  · intro c hc
    have hstops := List.head?_dropWhile_not p cs.reverse
    rw [List.getLast?_reverse] at hc
    rwa [hc] at hstops
  · intro c hc
    rw [List.mem_reverse] at hc
    exact List.all_eq_true.mp List.all_takeWhile c hc

namespace IsEnd

lemma takeWhile_reverse (h : IsEnd p front back) :
    (front ++ back).reverse.takeWhile p = back.reverse := by
  have hall : ∀ c ∈ back.reverse, p c = true := fun c hc => h.all c (List.mem_reverse.mp hc)
  rw [List.reverse_append, List.takeWhile_append_of_pos hall]
  cases hfront : front.reverse with
  | nil => simp
  | cons c cs =>
    have hstops : ¬ p c = true := by
      rw [h.stops c (by rw [← List.head?_reverse, hfront]; rfl)]
      exact Bool.false_ne_true
    rw [List.takeWhile_cons_of_neg hstops, List.append_nil]

lemma extension?_eq (h : IsEnd (· ≠ '.') front ending) :
    extension? (front ++ ending) = if 1 < front.length then some ending else none := by
  rw [extension?, h.takeWhile_reverse, List.reverse_reverse, List.length_append,
    Nat.add_comm front.length]
  simp only [Nat.add_lt_add_iff_left]

end IsEnd

/-- The extension is what follows the last dot, if there is something before the dot. -/
lemma extension?_eq_some_iff : extension? name = some ending ↔
    ∃ stem, name = stem ++ '.' :: ending ∧ stem ≠ [] ∧ '.' ∉ ending := by
  constructor
  · intro h
    obtain ⟨front, back, rfl, hend⟩ := exists_isEnd (· ≠ '.') name
    rw [hend.extension?_eq] at h
    obtain ⟨hlt, heq⟩ := Option.ite_none_right_eq_some.mp h
    obtain rfl := Option.some.inj heq
    obtain rfl | ⟨stem, c, rfl⟩ := List.eq_nil_or_concat' front
    · cases hlt
    · have hc : c = '.' := by simpa using hend.stops c (by simp)
      refine ⟨stem, by rw [hc, List.append_assoc, List.singleton_append], ?_, ?_⟩
      · rintro rfl
        cases Nat.lt_irrefl 1 hlt
      · intro hmem
        simpa using hend.all _ hmem
  · rintro ⟨stem, rfl, hne, hdot⟩
    have hend : IsEnd (· ≠ '.') (stem ++ ['.']) ending := by
      refine ⟨by simp, fun c hc => ?_⟩
      simpa using ne_of_mem_of_not_mem hc hdot
    have hlt : 1 < (stem ++ ['.']).length := by
      rw [List.length_append]
      exact Nat.lt_add_of_pos_left (List.length_pos_of_ne_nil hne)
    rw [← List.singleton_append, ← List.append_assoc, hend.extension?_eq, if_pos hlt]

lemma hasJsonExtension_iff : HasJsonExtension path ↔
    ((fileName? path).bind extension?).any
      (fun e => e.map Char.toLower = "json".toList) = true := by
  simp only [Option.any_eq_true, decide_eq_true_eq, Option.bind_eq_some_iff]
  constructor
  · rintro ⟨stem, ending, hends, hne, hjson⟩
    have hdot : '.' ∉ ending := by
      intro hmem
      have hmem' := List.mem_map_of_mem (f := Char.toLower) hmem
      rw [hjson] at hmem'
      revert hmem'
      decide
    have hname : stem ++ '.' :: ending ≠ ['.', '.'] := by
      intro heq
      have hfour : ending.length = 4 := by simpa using congrArg List.length hjson
      have htwo := congrArg List.length heq
      simp [hfour] at htwo
    refine ⟨ending, ⟨stem ++ '.' :: ending, ?_, ?_⟩, hjson⟩
    · rw [fileName?, lastPart?_eq_some_iff.mpr hends]
      simpa using hname
    · exact extension?_eq_some_iff.mpr ⟨stem, rfl, hne, hdot⟩
  · rintro ⟨ending, ⟨name, hname, hextension⟩, hjson⟩
    obtain ⟨stem, rfl, hne, -⟩ := extension?_eq_some_iff.mp hextension
    have hends := lastPart?_eq_some_iff.mp (Option.filter_eq_some_iff.mp hname).1
    exact ⟨stem, ending, hends, hne, hjson⟩

instance (path : List Char) : Decidable (HasJsonExtension path) :=
  decidable_of_iff _ hasJsonExtension_iff.symm

/-- What comes behind the name does not count, but two dots lead up again. -/
example : HasJsonExtension "plans.json/.//".toList ∧ ¬ HasJsonExtension "plans.json/..".toList := by
  decide

lemma LayoutFile.isJson_iff (f : LayoutFile) : f.isJson = true ↔ HasJsonExtension f.name.toList :=
  hasJsonExtension_iff.symm

end Names

/-! ## Texts -/

/-- The file with a text. -/
def LayoutFile.holding (name : String) (cs : List Char) : LayoutFile :=
  ⟨name, .ok (String.ofList cs).toUTF8⟩

namespace LayoutFile

variable {name : String} {cs : List Char}

lemma text_holding (name : String) (cs : List Char) :
    (holding name cs).text = .ok (String.ofList cs) := by
  have hvalid : String.fromUTF8? (String.ofList cs).toUTF8 = some (String.ofList cs) :=
    dif_pos (String.ofList cs).isValidUTF8
  simp only [text, holding, bind, Except.bind, hvalid]
  rfl

lemma layout_holding_json (h : HasJsonExtension name.toList) (cs : List Char) :
    (holding name cs).layout = (Layout.ofJson cs).mapError .json := by
  have hjson : (holding name cs).isJson = true := (isJson_iff _).mpr h
  simp [layout, text_holding, hjson, bind, Except.bind, Except.mapError]

lemma layout_holding_yaml (h : ¬ HasJsonExtension name.toList) (cs : List Char) :
    (holding name cs).layout = (Layout.ofYaml cs).mapError .yaml := by
  have hjson : ¬ (holding name cs).isJson = true := fun hjson => h ((isJson_iff _).mp hjson)
  simp [layout, text_holding, hjson, bind, Except.bind, Except.mapError]

end LayoutFile

namespace Json

/-- The line and the column of the next byte of a text. -/
lemma positionFrom_zero (line column : Nat) (cs : List Char) :
    positionFrom line column 0 cs = (line, column) := by
  cases cs with
  | nil => rfl
  | cons c cs => rw [positionFrom, if_pos c.utf8Size_pos, Nat.add_zero]

/-- No record begins with the first letter of the YAML text of a layout. -/
lemma parse_letter {δ α : Type} (shape : Shape Reader δ α) (cs : List Char) :
    parse (readRecord shape) ('z' :: cs) = .error ⟨.valueExpected, 1, 1⟩ := by
  have hlexemes : lexemes ('z' :: cs) = ⟨.stray, 0, 1⟩ :: cut 1 cs.length cs := rfl
  have hsize : 'z'.utf8Size = 1 := rfl
  have hlocate : Fault.locate ⟨.valueExpected, 1⟩ ('z' :: cs) = ⟨.valueExpected, 1, 1⟩ := by
    simp [Fault.locate, positionFrom, hsize, positionFrom_zero]
  simp [parse, readWhole, hlexemes, readRecord, wrongKind, bind, Except.bind, Except.mapError,
    hlocate]

end Json

namespace Layout

lemma exists_yaml_eq_cons (l : Layout) : ∃ cs, l.yaml = 'z' :: cs := by
  rw [Layout.yaml, listLines]
  split <;> exact ⟨_, rfl⟩

/-- The YAML text of a layout is not JSON. -/
lemma ofJson_yaml (l : Layout) : ofJson l.yaml = .error ⟨.valueExpected, 1, 1⟩ := by
  obtain ⟨cs, hcs⟩ := l.exists_yaml_eq_cons
  rw [hcs]
  exact Json.parse_letter _ cs

/-- **Under every name, the JSON text of a layout is read as the layout; its YAML text is read as
the layout unless the name has the extension of JSON.**  This extension alone decides which reader
a text is given to. -/
theorem layout_written (l : Layout) (name : String) :
    (∀ cs : List Char,
      (HasJsonExtension name.toList →
        (LayoutFile.holding name cs).layout = (ofJson cs).mapError .json) ∧
      (¬ HasJsonExtension name.toList →
        (LayoutFile.holding name cs).layout = (ofYaml cs).mapError .yaml)) ∧
    (LayoutFile.holding name l.json).layout = .ok l ∧
    (¬ HasJsonExtension name.toList → (LayoutFile.holding name l.yaml).layout = .ok l) ∧
    (HasJsonExtension name.toList → (LayoutFile.holding name l.yaml).layout =
      .error (.json ⟨.valueExpected, 1, 1⟩)) := by
  have hjson : ofJson l.json = .ok l := by
    rw [l.json_eq]
    exact Json.correspondence.layout l
  have hyaml : ofYaml l.yaml = .ok l := by
    rw [l.yaml_eq]
    exact Yaml.blockCorrespondence.layout l
  refine ⟨fun cs => ⟨fun h => LayoutFile.layout_holding_json h cs,
    fun h => LayoutFile.layout_holding_yaml h cs⟩, ?_, fun h => ?_, fun h => ?_⟩
  · by_cases h : HasJsonExtension name.toList
    · rw [LayoutFile.layout_holding_json h, hjson]
      rfl
    · rw [LayoutFile.layout_holding_yaml h, ofYaml_json]
      rfl
  · rw [LayoutFile.layout_holding_yaml h, hyaml]
    rfl
  · rw [LayoutFile.layout_holding_json h, ofJson_yaml]
    rfl

/-- A small layout under four names. -/
theorem layout_written_demo :
    (LayoutFile.holding "plans/garage.Json" demo.json).layout = .ok demo ∧
    (LayoutFile.holding "plans.json/garage" demo.json).layout = .ok demo ∧
    (LayoutFile.holding ".json" demo.yaml).layout = .ok demo ∧
    (LayoutFile.holding "garage.yaml.JSON" demo.yaml).layout =
      .error (.json ⟨.valueExpected, 1, 1⟩) :=
  ⟨(layout_written demo "plans/garage.Json").2.1, (layout_written demo "plans.json/garage").2.1,
    (layout_written demo ".json").2.2.1 (by decide),
    (layout_written demo "garage.yaml.JSON").2.2.2 (by decide)⟩

end Layout

end Garage
