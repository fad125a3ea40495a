/-
# JSON text as YAML

Brackets, commas, colons and quotes mean in YAML what they mean in JSON, so that the readers of YAML
read the JSON text of a layout as well.  All of it stands in one line between braces; in there
neither columns nor blanks matter.

* `flows_enclosed`: lists and records are taken as tokens if their parts are.
* `flowCorrespondence`: the readers of YAML read what is written as JSON.
* `Layout.ofYaml_json`: so they read every layout.
-/
import Garage.Proofs.Json.RoundTrip
import Garage.Proofs.Yaml.Nodes
import Garage.Proofs.Yaml.Taking

namespace Garage

namespace Yaml

open Lexer

variable {s : Place} {cs cs' rest rest' : List Char} {ks ks' : List TokenKind}
  {kss : List (List TokenKind)} {texts : List (List Char)}

/-! ### Texts in one line -/

/-- The place behind a text in one line. -/
def Place.through (s : Place) (cs rest : List Char) (ks : List TokenKind) : Place :=
  { s with
    rest := rest
    column := s.column + cs.length
    keyAllowed := false
    kinds := s.kinds ++ ks }

lemma Place.through_through (s : Place) (cs cs' rest rest' : List Char) (ks ks' : List TokenKind) :
    (s.through cs rest ks).through cs' rest' ks' = s.through (cs ++ cs') rest' (ks ++ ks') := by
  simp [through, Nat.add_assoc]

/-- The text goes on with a comma or a bracket. -/
def AtFlowMark (cs : List Char) : Prop := ∃ c cs', cs = c :: cs' ∧ isFlowMark c = true

lemma AtFlowMark.solid (h : AtFlowMark cs) : Solid cs := by
  obtain ⟨c, cs', rfl, hc⟩ := h
  rcases eq_of_isFlowMark hc with rfl | rfl | rfl | rfl | rfl <;> exact solid_cons (by decide) cs'

/-- The text is taken as tokens of these kinds if it stands between brackets; `allowed` says whether
a key has to be allowed for that. -/
structure Flows (allowed : Bool) (cs : List Char) (ks : List TokenKind) : Prop where
  allAllowed : AllAllowed cs
  solid : ∀ cs', Solid (cs ++ cs')
  leads : ∀ {s : Place} {rest : List Char}, 0 < s.depth → (allowed = true → s.keyAllowed = true) →
    AtFlowMark rest → s.rest = cs ++ rest → Leads s (s.through cs rest ks)

lemma Flows.weaken (h : Flows false cs ks) : Flows true cs ks :=
  ⟨h.allAllowed, h.solid, fun hdepth _ => h.leads hdepth (by rintro ⟨⟩)⟩

lemma flows_word (n : UInt32) :
    Flows false (Json.number n.toNat) [.scalar .plain (Json.number n.toNat)] where
  allAllowed := (isWord_number _).allAllowed
  solid := (isWord_number _).solid (Json.number_ne_nil _)
  leads {s rest} hdepth _ hrest htext := by
    obtain ⟨c, rest, rfl, hc⟩ := hrest
    have htakes := takes_word_flow (isWord_number _) (Json.number_ne_nil _) htext hc hdepth
    have hsolid : Solid (c :: rest) := AtFlowMark.solid ⟨c, rest, rfl, hc⟩
    exact htakes.leads_of_solid hsolid (Place.holds_of_depth_pos hdepth)

/-- Behind an item there is a comma, or what comes behind all of them. -/
lemma AtFlowMark.flatMap (hrest : AtFlowMark rest) (texts : List (List Char)) :
    AtFlowMark (texts.flatMap (',' :: ·) ++ rest) := by
  cases texts with
  | nil => exact hrest
  | cons cs texts => exact ⟨',', _, rfl, rfl⟩

lemma leads_commas (h : List.Forall₂ (Flows true) texts kss) (hdepth : 0 < s.depth)
    (hallowed : s.keyAllowed = false) (hrest : AtFlowMark rest)
    (htext : s.rest = texts.flatMap (',' :: ·) ++ rest) :
    Leads s (s.through (texts.flatMap (',' :: ·)) rest (kss.flatMap (.flowEntry :: ·))) := by
  induction h generalizing s with
  | nil =>
    have hs : s.through [] rest [] = s := by
      cases s
      simp_all [Place.through]
    rw [List.flatMap_nil, List.flatMap_nil, hs]
    exact Leads.refl s
  | @cons cs ks texts kss hitem hitems ih =>
    rw [List.flatMap_cons, List.cons_append, List.cons_append, List.append_assoc] at htext
    have hcomma := (takes_comma htext).leads_of_solid (hitem.solid _)
      (Place.holds_of_depth_pos hdepth)
    have hleads := hitem.leads (s := {
      s.pass 1 (cs ++ (texts.flatMap (',' :: ·) ++ rest)) .flowEntry with
      keyAllowed := true }) hdepth (fun _ => rfl) (hrest.flatMap texts) rfl
    have hthrough : { s.pass 1 (cs ++ (texts.flatMap (',' :: ·) ++ rest)) .flowEntry with
        keyAllowed := true }.through cs (texts.flatMap (',' :: ·) ++ rest) ks =
        s.through (',' :: cs) (texts.flatMap (',' :: ·) ++ rest) (.flowEntry :: ks) := by
      simp [Place.through, Place.pass]
      omega
    rw [hthrough] at hleads
    have hnext := ih
      (s := s.through (',' :: cs) (texts.flatMap (',' :: ·) ++ rest) (.flowEntry :: ks))
      hdepth rfl rfl
    rw [Place.through_through] at hnext
    exact (hcomma.trans hleads).trans hnext

/-- The first item stands like one behind a comma. -/
lemma leads_commaSeparated {cs : List Char} (hitem : Flows true cs ks)
    (h : List.Forall₂ (Flows true) texts kss) (hdepth : 0 < s.depth)
    (hallowed : s.keyAllowed = true) (hrest : AtFlowMark rest)
    (htext : s.rest = Json.commaSeparated (cs :: texts) ++ rest) :
    Leads s (s.through (Json.commaSeparated (cs :: texts)) rest (separated (ks :: kss))) := by
  rw [Json.commaSeparated_cons, List.append_assoc] at htext
  have hnext := leads_commas (s := s.through cs (texts.flatMap (',' :: ·) ++ rest) ks) h hdepth rfl
    hrest rfl
  rw [Place.through_through, ← Json.commaSeparated_cons] at hnext
  exact (hitem.leads hdepth (fun _ => hallowed) (hrest.flatMap texts) htext).trans hnext

/-! ### Brackets -/

lemma solid_closing {c : Char} {last : TokenKind} (hc : Closes c last) (cs : List Char) :
    Solid (c :: cs) ∧ AtFlowMark (c :: cs) := by
  cases hc <;> exact ⟨solid_cons (by decide) cs, _, _, rfl, rfl⟩

/-- The place between brackets that are opened. -/
def Place.inside (s : Place) (rest : List Char) (first : TokenKind) : Place :=
  { s.pass 1 rest first with depth := s.depth + 1, keyAllowed := true }

/-- What stands between the brackets leads up to the closing one. -/
lemma leads_inside {first : TokenKind} (h : List.Forall₂ (Flows true) texts kss)
    (hrest : AtFlowMark rest) :
    Solid (Json.commaSeparated texts ++ rest) ∧ ∃ keyAllowed,
      Leads (s.inside (Json.commaSeparated texts ++ rest) first)
        { s.inside rest first with
          column := s.column + 1 + (Json.commaSeparated texts).length
          keyAllowed := keyAllowed
          kinds := s.kinds ++ first :: separated kss } := by
  cases h with
  | nil =>
    refine ⟨hrest.solid, true, ?_⟩
    simpa [Place.inside, Place.pass, Json.commaSeparated, separated] using Leads.refl _
  | @cons cs ks texts kss hitem hitems =>
    have hleads := leads_commaSeparated
      (s := s.inside (Json.commaSeparated (cs :: texts) ++ rest) first)
      hitem hitems (Nat.succ_pos _) rfl hrest rfl
    refine ⟨?_, false, ?_⟩
    · rw [Json.commaSeparated_cons, List.append_assoc]
      exact hitem.solid _
    · simpa [Place.inside, Place.pass, Place.through] using hleads

lemma leads_enclosed {o c : Char} {first last : TokenKind} (ho : Opens o first) (hc : Closes c last)
    (h : List.Forall₂ (Flows true) texts kss) (hkey : s.KeyOptional) (hholds : s.Holds)
    (hsolid : Solid rest) (htext : s.rest = o :: Json.commaSeparated texts ++ [c] ++ rest) :
    Leads s (s.through (o :: Json.commaSeparated texts ++ [c]) rest
      (first :: separated kss ++ [last])) := by
  obtain ⟨hsolid', keyAllowed, hinside⟩ := leads_inside (s := s) h
    (solid_closing hc rest).2
  have htext' : s.rest = o :: (Json.commaSeparated texts ++ c :: rest) := by
    rw [htext]
    simp
  have hopening := (takes_opening ho htext' hkey).leads_of_solid hsolid'
    (Place.holds_of_depth_pos (Nat.succ_pos _))
  have hclosing := (takes_closing hc (s := { s.inside (c :: rest) first with
      column := s.column + 1 + (Json.commaSeparated texts).length
      keyAllowed := keyAllowed
      kinds := s.kinds ++ first :: separated kss }) rfl rfl).leads_of_solid hsolid (by
    intro hdepth x hx
    have hle := hholds hdepth x hx
    simp only [Place.pass]
    omega)
  have hplace : s.through (o :: Json.commaSeparated texts ++ [c]) rest
      (first :: separated kss ++ [last]) =
      { Place.pass { s.inside (c :: rest) first with
          column := s.column + 1 + (Json.commaSeparated texts).length
          keyAllowed := keyAllowed
          kinds := s.kinds ++ first :: separated kss } 1 rest last with
        depth := s.depth } := by
    simp [Place.through, Place.pass, Place.inside]
    omega
  rw [hplace]
  exact (hopening.trans hinside).trans hclosing

lemma allAllowed_commaSeparated (h : ∀ cs ∈ texts, AllAllowed cs) :
    AllAllowed (Json.commaSeparated texts) := by
  cases texts with
  | nil => exact (by decide : AllAllowed [])
  | cons cs texts =>
    rw [Json.commaSeparated_cons]
    exact (h cs List.mem_cons_self).append
      (.flatMap fun cs' hcs => .cons rfl (h cs' (List.mem_cons_of_mem _ hcs)))

lemma flows_enclosed {o c : Char} {first last : TokenKind} (ho : Opens o first) (hc : Closes c last)
    (h : List.Forall₂ (Flows true) texts kss) :
    Flows false (o :: Json.commaSeparated texts ++ [c]) (first :: separated kss ++ [last]) where
  allAllowed := by
    have htexts : ∀ cs ∈ texts, AllAllowed cs :=
      ((List.forall₂_and_left _ _).mp (h.imp fun _ _ hitem => ⟨hitem.allAllowed, hitem⟩)).1
    exact .cons (by cases ho <;> rfl)
      ((allAllowed_commaSeparated htexts).append (by cases hc <;> decide))
  solid cs := by cases ho <;> exact solid_cons (by decide) _
  leads hdepth _ hrest htext :=
    leads_enclosed ho hc h (fun _ hzero => by omega) (Place.holds_of_depth_pos hdepth) hrest.solid
      htext

/-! ### Members -/

lemma escape_of_isAlphanum {x : Char} (hx : x.isAlphanum = true) : Json.escape x = [x] := by
  have hspace : ¬ x.toNat < 0x20 := Nat.not_lt.mpr (toNat_of_isAlphanum hx).1
  unfold Json.escape
  split
  case h_8 => rw [if_neg hspace]
  all_goals exact absurd hx (by decide)

/-- Nothing has to be escaped in a word. -/
lemma quoted_word {word : List Char} (hword : IsWord word) :
    Json.quoted word = '"' :: word ++ ['"'] := by
  have hescape : word.flatMap Json.escape = word := by
    rw [List.flatMap_congr fun x hx => escape_of_isAlphanum (hword x hx)]
    simp
  rw [Json.quoted, hescape]

lemma flows_member {name : String} (hname : IsPlainName name) (h : Flows false cs ks) :
    Flows true (Json.member name cs) (entryKinds .quoted (name, ks)) where
  allAllowed := by
    rw [Json.member, quoted_word (isWord_name hname)]
    exact (AllAllowed.cons rfl ((isWord_name hname).allAllowed.append (by decide))).append
      (.cons rfl h.allAllowed)
  solid cs' := by
    rw [Json.member, quoted_word (isWord_name hname)]
    exact solid_cons (by decide) _
  leads {s rest} hdepth hallowed hrest htext := by
    have hword := isWord_name hname
    have htext' : s.rest = '"' :: name.toList ++ '"' :: ':' :: (cs ++ rest) := by
      rw [htext, Json.member, quoted_word hword]
      simp
    have hnamed := (takes_quoted_name hword hname.length_le htext' hdepth
      (hallowed rfl)).leads_of_solid (h.solid rest) (Place.holds_of_depth_pos hdepth)
    have hvalue := h.leads (s := s.named (name.toList.length + 3) (cs ++ rest)
      (.scalar .quoted name.toList)) hdepth (by rintro ⟨⟩) hrest rfl
    have hplace : (s.named (name.toList.length + 3) (cs ++ rest)
        (.scalar .quoted name.toList)).through cs rest ks =
          s.through (Json.member name cs) rest (entryKinds .quoted (name, ks)) := by
      have hopened : s.opened = s := by
        simp [Place.opened, opensRecord, Nat.ne_of_gt hdepth]
      simp [Place.named, Place.through, hopened, Json.member, quoted_word hword, entryKinds]
      omega
    rw [hplace] at hvalue
    exact hnamed.trans hvalue

/-! ### Layouts -/

section Reading

variable {α δ : Type} {r : Reader α} {a : α}

/-- The text is read as `a` if it stands between brackets. -/
def FlowText (r : Reader α) (a : α) (cs : List Char) : Prop :=
  ∃ ks, Flows false cs ks ∧ Reads false false r a ks ∧ Begins false ks

lemma flowText_word (n : UInt32) : FlowText readWord n (Json.spelling.item n) :=
  ⟨_, flows_word n, reads_word false false n, _, _, rfl, .inl rfl⟩

lemma flowText_list {as : List α} (h : List.Forall₂ (FlowText r) as texts) :
    FlowText (readList r) as (Json.spelling.list texts) := by
  obtain ⟨kss, hflows, hreads⟩ := exists_forall₂_of_forall (fun _ _ h => h) h
  exact ⟨_, flows_enclosed .list .list (hflows.imp fun _ _ => Flows.weaken),
    Reads.flowList false false hreads, _, _, rfl, .inl rfl⟩

lemma exists_flowMembers {shape : Shape Reader δ α} {members : List (String × List Char)} {d d' : δ}
    (h : Fills (fun _ => FlowText) shape d members d') : ∃ members',
      List.Forall₂ (Flows true) (members.map fun m => Json.member m.1 m.2)
        (members'.map (entryKinds .quoted)) ∧
      Fills (fun _ r b ks => Reads false false r b ks ∧ Begins false ks) shape d members' d' := by
  obtain ⟨members', hflows, hfills⟩ := h.exists_of_forall fun _ _ _ _ hvalue => hvalue
  refine ⟨members', ?_, hfills⟩
  rw [List.forall₂_map_left_iff, List.forall₂_map_right_iff]
  refine hflows.imp fun ⟨name, cs⟩ ⟨name', ks⟩ ⟨hplain, hname, hvalue⟩ => ?_
  obtain rfl : name' = name := hname
  exact flows_member hplain hvalue

lemma flowText_record {shape : Shape Reader δ α} {members : List (String × List Char)} {d : δ}
    (hfills : Fills (fun _ => FlowText) shape shape.start members d)
    (hfinish : shape.finish d = .ok a) :
    FlowText (readRecord shape) a (Json.spelling.record members) := by
  obtain ⟨members', hflows, hfills'⟩ := exists_flowMembers hfills
  exact ⟨_, flows_enclosed .record .record hflows, Reads.flowRecord false false hfills' hfinish,
    _, _, rfl, .inl rfl⟩

lemma parse_flow {shape : Shape Reader δ α} {members : List (String × List Char)} {d : δ}
    (hfills : Fills (fun _ => FlowText) shape shape.start members d)
    (hfinish : shape.finish d = .ok a) :
    parse (readRecord shape) (Json.spelling.document members) = .ok a := by
  obtain ⟨members', hflows, hfills'⟩ := exists_flowMembers hfills
  have hwhole := flows_enclosed .record .record hflows
  have hend : Solid [] := by rintro x ⟨⟩
  have hleads := leads_enclosed (s := start (Json.spelling.document members))
    .record .record hflows (by rintro - - ⟨⟩) (by rintro - x ⟨⟩) hend
    (by simp [start, Json.spelling, Json.object])
  have hsolid := hwhole.solid []
  rw [List.append_nil] at hsolid
  have hkinds := kinds_tokenize hsolid hleads rfl rfl
  rw [Place.through, start, List.nil_append, List.length_nil, List.replicate_zero,
    List.append_nil] at hkinds
  exact parse_eq_ok hwhole.allAllowed hkinds ⟨_, _, rfl, .inl rfl⟩
    (Reads.flowRecord true false hfills' hfinish)

end Reading

/-- What is written as JSON is read as YAML. -/
def flowCorrespondence : Correspondence format Json.spelling where
  ReadsItem _ := FlowText
  ReadsValue _ := FlowText
  ReadsDocument _ r b cs := parse r cs = .ok b
  item := flowText_word
  value := flowText_word
  list := flowText_list
  record _ := flowText_record
  document _ := parse_flow

end Yaml

/-- What is written as JSON is YAML for the same layout. -/
theorem Layout.ofYaml_json (l : Layout) : Layout.ofYaml l.json = .ok l := by
  rw [l.json_eq]
  exact Yaml.flowCorrespondence.layout l

end Garage
