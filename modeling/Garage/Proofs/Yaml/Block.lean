/-
# Layouts in YAML

In the YAML text of a layout, names, hyphens and line breaks show where records and lists begin, and
columns show where they end.  What is written down in a column is taken as tokens of certain kinds
if the next line begins no further right; block collections that are further right than that line
end behind it (`Place.newLine`).

* `laysValue_list`, `laysItem_record`: lists and records are taken so if their parts are.
* `blockSpelling`: how `Layout.yaml` spells numbers, lists and records, and `blockCorrespondence`:
  that the readers of YAML read them.
* `Layout.ofYaml_yaml`: the round trip.
-/
import Garage.Layout.Read
import Garage.Layout.Text
import Garage.Proofs.Yaml.Nodes
import Garage.Proofs.Yaml.Taking

namespace Garage

namespace Yaml

open Lexer

variable {s s' : Place} {c : Nat} {cs rest : List Char} {ks ks' : List TokenKind}

/-! ### Lines -/

/-- The beginning of a line. -/
def indent (column : Nat) (cs : List Char) : List Char := List.replicate column ' ' ++ cs

lemma allAllowed_indent (column : Nat) (h : AllAllowed cs) : AllAllowed (indent column cs) := by
  refine .append (fun c hc => ?_) h
  rw [List.eq_of_mem_replicate hc]
  rfl

/-- The place in front of the next line, behind tokens and the ends of block collections. -/
def Place.newLine (s : Place) (column : Nat) (rest : List Char) (ks : List TokenKind) : Place :=
  { s with rest := rest, column := column, keyAllowed := true, kinds := s.kinds ++ ks }.closed

/-- A line of the innermost block collection ends no block collection. -/
lemma Place.newLine_eq (h : s.indents.head? = some c) (rest : List Char) (ks : List TokenKind) :
    s.newLine c rest ks =
      { s with rest := rest, column := c, keyAllowed := true, kinds := s.kinds ++ ks } :=
  Place.Holds.closed_eq (Place.holds_of_head? h (Nat.le_refl c))

/-- Something is written behind a name that stands in a column. -/
structure IsValueAt (column : Nat) (s : Place) : Prop where
  depth : s.depth = 0
  keyAllowed : s.keyAllowed = false
  indents : s.indents.head? = some column
  le : column ≤ s.column

lemma IsValueAt.holds (h : IsValueAt c s) : s.Holds := Place.holds_of_head? h.indents h.le

/-- What a name in a column stands for is written as `value column`, up to the end of the line
before the next one. -/
structure LaysValue (value : Nat → List Char) (ks : List TokenKind) : Prop where
  allAllowed : ∀ c, AllAllowed (value c)
  blank : ∀ c cs, atBlankOrEnd (value c ++ cs) = true
  goes : ∀ {c n : Nat} {s : Place} {rest : List Char}, IsValueAt c s → n ≤ c → Solid rest →
    s.rest = value c ++ indent n rest → Goes s (s.newLine n rest ks)

/-- An item is written behind a hyphen that stands in a column. -/
structure IsItemAt (column : Nat) (s : Place) : Prop where
  depth : s.depth = 0
  keyAllowed : s.keyAllowed = true
  indents : s.indents.head? = some column
  column : s.column = column + 2

/-- An item is written as `item column`, where it begins in that column. -/
structure LaysItem (item : Nat → List Char) (ks : List TokenKind) : Prop where
  allAllowed : ∀ c, AllAllowed (item c)
  solid : ∀ c cs, Solid (item c ++ cs)
  leads : ∀ {c n : Nat} {s : Place} {rest : List Char}, IsItemAt c s → n ≤ c → Solid rest →
    s.rest = item (c + 2) ++ indent n rest → Leads s (s.newLine n rest ks)

/-! ### Numbers -/

lemma laysItem_word (n : UInt32) :
    LaysItem (fun _ => Json.number n.toNat ++ ['\n']) [.scalar .plain (Json.number n.toNat)] where
  allAllowed _ := (isWord_number _).allAllowed.append (by decide)
  solid _ cs := by
    rw [List.append_assoc]
    exact (isWord_number _).solid (Json.number_ne_nil _) _
  leads {c m s rest} hs hle hsolid hrest := by
    have hkey : s.KeyOptional := by
      intro _ _ heq
      rw [hs.indents, hs.column] at heq
      have := Option.some.inj heq
      omega
    have htakes := takes_word_break (isWord_number n.toNat) (Json.number_ne_nil n.toNat)
      (by simpa [indent] using hrest) hsolid hs.depth hs.indents hle hkey
    exact htakes.leads_closed hsolid

lemma laysValue_word (n : UInt32) :
    LaysValue (fun _ => ' ' :: Json.number n.toNat ++ ['\n'])
      [.scalar .plain (Json.number n.toNat)] where
  allAllowed _ := .cons rfl ((isWord_number _).allAllowed.append (by decide))
  blank _ _ := rfl
  goes {c m s rest} hs hle hsolid hrest := by
    have hword := isWord_number n.toNat
    have hne := Json.number_ne_nil n.toNat
    rw [List.cons_append, List.cons_append, List.append_assoc] at hrest
    refine .of_space hrest (hword.solid hne _) hs.holds ?_
    have htakes := takes_word_break (n := m) hword hne (by simp [indent]) hsolid
      hs.depth hs.indents hle (s := { s with
        rest := Json.number n.toNat ++ (['\n'] ++ indent m rest)
        column := s.column + 1 }) (Place.keyOptional_of_not_allowed hs.keyAllowed)
    exact htakes.leads_closed hsolid

/-! ### Lists -/

/-- A list without items is written as brackets. -/
lemma laysValue_nil :
    LaysValue (fun _ => " []\n".toList) [.flowSequenceStart, .flowSequenceEnd] where
  allAllowed _ := by decide
  blank _ _ := rfl
  goes {c n s rest} hs hle hsolid hrest := by
    refine .of_space hrest (solid_cons (by decide) _) hs.holds ?_
    have hopening := takes_opening .list
      (s := { s with rest := '[' :: ']' :: '\n' :: indent n rest, column := s.column + 1 }) rfl
      (Place.keyOptional_of_not_allowed hs.keyAllowed)
    refine (hopening.leads_of_solid (solid_cons (by decide) _)
      (Place.holds_of_depth_pos (Nat.succ_pos _))).trans ?_
    have hclosing := takes_closing .list (s := { { s with
        rest := '[' :: ']' :: '\n' :: indent n rest
        column := s.column + 1 }.pass 1 (']' :: '\n' :: indent n rest) .flowSequenceStart with
      depth := s.depth + 1
      keyAllowed := true }) rfl rfl
    have hbreak := hclosing.leads_of_break rfl hs.depth hsolid
    simpa [Place.newLine, Place.pass] using hbreak

/-- An item with its hyphen, in a line of its own. -/
def hyphened (c : Nat) (item : Nat → List Char) : List Char := indent c ('-' :: ' ' :: item (c + 2))

/-- The items of a list stand as far to the left as its name. -/
def blockList (items : List (Nat → List Char)) (c : Nat) : List Char :=
  '\n' :: items.flatMap (hyphened c)

/-- The place is at the beginning of a line of the innermost block collection. -/
structure IsLineAt (column : Nat) (s : Place) : Prop where
  depth : s.depth = 0
  keyAllowed : s.keyAllowed = true
  indents : s.indents.head? = some column
  column : s.column = column

lemma IsLineAt.newLine (hs : IsLineAt c s) (rest : List Char) (ks : List TokenKind) :
    IsLineAt c (s.newLine c rest ks) := by
  rw [Place.newLine_eq hs.indents]
  exact ⟨hs.depth, rfl, hs.indents, rfl⟩

lemma IsLineAt.newLine_newLine (hs : IsLineAt c s) (n : Nat) (rest' : List Char)
    (ks' : List TokenKind) :
    (s.newLine c rest ks).newLine n rest' ks' = s.newLine n rest' (ks ++ ks') := by
  rw [Place.newLine_eq hs.indents, Place.newLine, Place.newLine]
  simp only [List.append_assoc]

lemma leads_hyphen {item : Nat → List Char} (h : LaysItem item ks) (hs : IsLineAt c s) {n : Nat}
    (hle : n ≤ c) (hsolid : Solid rest)
    (htext : s.rest = '-' :: ' ' :: item (c + 2) ++ indent n rest) :
    Leads s (s.newLine n rest (.blockEntry :: ks)) := by
  have hhyphen := takes_hyphen htext hs.depth hs.keyAllowed (by rw [hs.indents, hs.column])
  have hholds : Place.Holds { s.pass 1 (' ' :: (item (c + 2) ++ indent n rest)) .blockEntry with
      keyAllowed := true } :=
    Place.holds_of_head? hs.indents (hs.column ▸ Nat.le_succ _)
  refine (hhyphen.leads_of_space rfl (h.solid _ _) hholds).trans ?_
  have hitem := h.leads (s := { { s.pass 1 (' ' :: (item (c + 2) ++ indent n rest)) .blockEntry with
        keyAllowed := true } with
      rest := item (c + 2) ++ indent n rest
      column := s.column + 1 + 1 })
    ⟨hs.depth, rfl, hs.indents, by rw [hs.column]⟩ hle hsolid rfl
  simpa [Place.newLine, Place.pass] using hitem

lemma leads_hyphens {items : List (Nat → List Char)} {item : Nat → List Char}
    {kss : List (List TokenKind)} (h : LaysItem item ks) (hrest : List.Forall₂ LaysItem items kss)
    (hs : IsLineAt c s) {n : Nat} (hle : n ≤ c) (hsolid : Solid rest)
    (htext : s.rest = '-' :: ' ' :: item (c + 2) ++ (items.flatMap (hyphened c) ++ indent n rest)) :
    Leads s (s.newLine n rest ((ks :: kss).flatMap (.blockEntry :: ·))) := by
  induction hrest generalizing s item ks with
  | nil => simpa using leads_hyphen h hs hle hsolid htext
  | @cons item' ks' items kss hitem' hrest ih =>
    have htext' : s.rest = '-' :: ' ' :: item (c + 2) ++
        indent c ('-' :: ' ' :: item' (c + 2) ++
          (items.flatMap (hyphened c) ++ indent n rest)) := by
      rw [htext, List.flatMap_cons, hyphened]
      simp only [indent, List.append_assoc]
    refine (leads_hyphen h hs (Nat.le_refl c) (solid_cons (by decide) _) htext').trans ?_
    have hnext := ih hitem' (hs.newLine _ (.blockEntry :: ks)) (Place.closed_rest _)
    rw [hs.newLine_newLine] at hnext
    simpa using hnext

lemma laysValue_list {items : List (Nat → List Char)} {kss : List (List TokenKind)}
    (h : List.Forall₂ LaysItem items kss) (hne : items ≠ []) :
    LaysValue (blockList items) (kss.flatMap (.blockEntry :: ·)) where
  allAllowed c := by
    have hall : ∀ item ∈ items, ∀ c, AllAllowed (item c) :=
      ((List.forall₂_and_left _ _).mp (h.imp fun _ _ hlays => ⟨hlays.allAllowed, hlays⟩)).1
    refine .cons rfl (.flatMap fun item hitem => ?_)
    exact (allAllowed_indent c (.cons rfl (.cons rfl (hall item hitem _))))
  blank _ _ := rfl
  goes {c n s rest} hs hle hsolid hrest := by
    cases h with
    | nil => exact absurd rfl hne
    | @cons item ks items kss hitem hitems =>
      have htext : s.rest = '\n' :: List.replicate c ' ' ++
          ('-' :: ' ' :: item (c + 2) ++ (items.flatMap (hyphened c) ++ indent n rest)) := by
        rw [hrest, blockList, List.flatMap_cons, hyphened]
        simp only [indent, List.cons_append, List.append_assoc]
      refine .of_break htext hs.depth (solid_cons (by decide) _) ?_
      have hholds : Place.Holds { s with
          rest := '-' :: ' ' :: item (c + 2) ++ (items.flatMap (hyphened c) ++ indent n rest)
          column := c
          keyAllowed := true } := Place.holds_of_head? hs.indents (Nat.le_refl c)
      rw [hholds.closed_eq]
      exact leads_hyphens (s := { s with
          rest := '-' :: ' ' :: item (c + 2) ++ (items.flatMap (hyphened c) ++ indent n rest)
          column := c
          keyAllowed := true }) hitem hitems ⟨hs.depth, rfl, hs.indents, rfl⟩ hle hsolid rfl

/-! ### Records -/

/-- A name, a colon and a value. -/
def blockMember (c : Nat) (m : String × (Nat → List Char)) : List Char := m.1.toList ++ ':' :: m.2 c

/-- The members of a record, each in a line of its own; the first line has begun already. -/
def blockRecord (members : List (String × (Nat → List Char))) (c : Nat) : List Char :=
  match members with
  | [] => []
  | m :: members => blockMember c m ++ members.flatMap fun m => indent c (blockMember c m)

/-- A key at the place belongs to a record in a column, which it may begin. -/
structure IsKeyAt (column : Nat) (s : Place) : Prop where
  depth : s.depth = 0
  keyAllowed : s.keyAllowed = true
  holds : s.Holds
  indents : s.opened.indents.head? = some column
  column : s.column = column

/-- The names that may be given to the members of a record, and what they stand for. -/
abbrev LaysMember (m : String × (Nat → List Char)) (m' : String × List TokenKind) : Prop :=
  IsPlainName m.1 ∧ m'.1 = m.1 ∧ LaysValue m.2 m'.2

lemma leads_member {m : String × (Nat → List Char)} {m' : String × List TokenKind}
    (h : LaysMember m m') (hs : IsKeyAt c s) {n : Nat} (hle : n ≤ c) (hsolid : Solid rest)
    (htext : s.rest = blockMember c m ++ indent n rest) :
    Leads s (s.opened.newLine n rest (entryKinds .plain m')) := by
  obtain ⟨hplain, hname, hvalue⟩ := h
  rw [blockMember, List.append_assoc, List.cons_append] at htext
  have htakes := takes_plain_name (isWord_name hplain) hplain.ne_nil hplain.length_le htext
    (hvalue.blank c _) hs.depth hs.keyAllowed hs.holds
  refine htakes.goes ?_
  have hgoes := hvalue.goes (s := s.named (m.1.toList.length + 1) (m.2 c ++ indent n rest)
    (.scalar .plain m.1.toList)) ⟨hs.depth, rfl, hs.indents, hs.column ▸ Nat.le_add_right _ _⟩ hle
    hsolid rfl
  simpa [Place.newLine, Place.named, entryKinds, hname] using hgoes

lemma Place.opened_eq_self (h : s.indents.head? = some s.column) : s.opened = s := by
  simp [opened, opensRecord, h]

/-- Behind a member there may be another one. -/
lemma IsKeyAt.newLine (hs : IsKeyAt c s) (rest : List Char) (ks : List TokenKind) :
    IsKeyAt c (s.opened.newLine c rest ks) ∧
      (s.opened.newLine c rest ks).opened = s.opened.newLine c rest ks := by
  rw [Place.newLine_eq hs.indents]
  have hopened := Place.opened_eq_self (s := { s.opened with
    rest := rest, column := c, keyAllowed := true, kinds := s.opened.kinds ++ ks }) hs.indents
  refine ⟨⟨hs.depth, rfl, Place.holds_of_head? hs.indents (Nat.le_refl c), ?_, rfl⟩, hopened⟩
  rw [hopened]
  exact hs.indents

lemma solid_blockRecord {m : String × (Nat → List Char)} (h : IsPlainName m.1)
    (members : List (String × (Nat → List Char))) (c : Nat) (cs : List Char) :
    Solid (blockRecord (m :: members) c ++ cs) := by
  rw [blockRecord, blockMember, List.append_assoc, List.append_assoc]
  exact (isWord_name h).solid h.ne_nil _

lemma leads_members {members : List (String × (Nat → List Char))} {m : String × (Nat → List Char)}
    {members' : List (String × List TokenKind)} {m' : String × List TokenKind}
    (h : LaysMember m m') (hrest : List.Forall₂ LaysMember members members') (hs : IsKeyAt c s)
    {n : Nat} (hle : n ≤ c) (hsolid : Solid rest)
    (htext : s.rest = blockRecord (m :: members) c ++ indent n rest) :
    Leads s (s.opened.newLine n rest ((m' :: members').flatMap (entryKinds .plain))) := by
  induction hrest generalizing s m m' with
  | nil => simpa using leads_member h hs hle hsolid (by simpa [blockRecord] using htext)
  | @cons m₂ m₂' members members' h₂ hrest ih =>
    have htext' : s.rest = blockMember c m ++
        indent c (blockRecord (m₂ :: members) c ++ indent n rest) := by
      rw [htext]
      simp [blockRecord, indent]
    obtain ⟨hs', hopened⟩ := hs.newLine (blockRecord (m₂ :: members) c ++ indent n rest)
      (entryKinds .plain m')
    refine (leads_member h hs (Nat.le_refl c) (solid_blockRecord h₂.1 _ _ _) htext').trans ?_
    have hnext := ih h₂ hs' (Place.closed_rest _)
    rw [hopened, Place.newLine_eq hs.indents] at hnext
    rw [Place.newLine_eq hs.indents]
    simpa [Place.newLine] using hnext

lemma allAllowed_blockRecord {members : List (String × (Nat → List Char))}
    (h : ∀ m ∈ members, IsPlainName m.1 ∧ ∀ c, AllAllowed (m.2 c)) (c : Nat) :
    AllAllowed (blockRecord members c) := by
  have hmember : ∀ m ∈ members, AllAllowed (blockMember c m) := fun m hm =>
    (isWord_name (h m hm).1).allAllowed.append (.cons rfl ((h m hm).2 c))
  cases members with
  | nil => exact (by decide : AllAllowed [])
  | cons m members =>
    refine (hmember m List.mem_cons_self).append (.flatMap fun m' hm' => ?_)
    exact allAllowed_indent c (hmember m' (List.mem_cons_of_mem _ hm'))

lemma laysItem_record {members : List (String × (Nat → List Char))}
    {members' : List (String × List TokenKind)} (h : List.Forall₂ LaysMember members members')
    (hne : members ≠ []) :
    LaysItem (blockRecord members)
      (.blockMappingStart :: members'.flatMap (entryKinds .plain) ++ [.blockEnd]) where
  allAllowed c := by
    refine allAllowed_blockRecord ?_ c
    exact ((List.forall₂_and_left _ _).mp (h.imp fun _ _ hm => ⟨⟨hm.1, hm.2.2.allAllowed⟩, hm⟩)).1
  solid c cs := by
    cases h with
    | nil => exact absurd rfl hne
    | cons hm => exact solid_blockRecord hm.1 _ _ _
  leads {c n s rest} hs hle hsolid htext := by
    have hopens : opensRecord s.depth s.indents s.column = true := by
      simp [opensRecord, hs.depth, hs.indents, hs.column]
    have hopened : s.opened =
        { s with
          indents := (c + 2) :: s.indents
          kinds := s.kinds ++ [.blockMappingStart] } := by
      simp [Place.opened, hopens, ← hs.column]
    have hkey : IsKeyAt (c + 2) s := by
      refine ⟨hs.depth, hs.keyAllowed, ?_, by rw [hopened]; rfl, hs.column⟩
      exact Place.holds_of_head? hs.indents (hs.column ▸ Nat.le_add_right _ _)
    cases h with
    | nil => exact absurd rfl hne
    | cons hm hmembers =>
      have hleads := leads_members hm hmembers hkey (Nat.le_trans hle (Nat.le_add_right _ _)) hsolid
        htext
      have hlt : n < c + 2 := by omega
      rw [hopened] at hleads
      simp only [Place.newLine, Place.closed, hs.depth, if_true, Place.closings_cons_of_lt hlt,
        List.drop_succ_cons] at hleads ⊢
      simpa [List.replicate_succ] using hleads

/-- The tokens of a record that is the whole text. -/
lemma kinds_tokenize_record {members : List (String × (Nat → List Char))}
    {members' : List (String × List TokenKind)} (h : List.Forall₂ LaysMember members members')
    (hne : members ≠ []) :
    (tokenize (blockRecord members 0)).tokens.map (·.kind) =
      .blockMappingStart :: members'.flatMap (entryKinds .plain) ++ [.blockEnd] ++
        [.streamEnd] := by
  cases h with
  | nil => exact absurd rfl hne
  | @cons m m' members members' hm hmembers =>
    have hsolid := solid_blockRecord hm.1 members 0 []
    have hkey : IsKeyAt 0 (start (blockRecord (m :: members) 0)) :=
      ⟨rfl, rfl, (by rintro - x ⟨⟩), rfl, rfl⟩
    have hend : Solid [] := by rintro x ⟨⟩
    have hleads := leads_members hm hmembers hkey (Nat.le_refl 0) hend (by simp [start, indent])
    rw [List.append_nil] at hsolid
    rw [Place.newLine_eq hkey.indents] at hleads
    exact kinds_tokenize hsolid hleads rfl rfl

/-! ### Layouts -/

/-- How numbers, lists and records are written. -/
def blockSpelling : Spelling (Nat → List Char) (Nat → List Char) (List Char) where
  item n _ := Json.number n.toNat ++ ['\n']
  value n _ := ' ' :: Json.number n.toNat ++ ['\n']
  list items := if items.isEmpty then fun _ => " []\n".toList else blockList items
  record := blockRecord
  document members := blockRecord members 0

section Reading

variable {α δ : Type} {r : Reader α} {a : α}

/-- The item is read as `a`. -/
def BlockItem (r : Reader α) (a : α) (item : Nat → List Char) : Prop :=
  ∃ ks, LaysItem item ks ∧ Reads true false r a ks ∧ Begins false ks

/-- The value is read as `a`. -/
def BlockValue (r : Reader α) (a : α) (value : Nat → List Char) : Prop :=
  ∃ ks, LaysValue value ks ∧ Reads true true r a ks ∧ Begins true ks

lemma blockItem_word (n : UInt32) : BlockItem readWord n (blockSpelling.item n) :=
  ⟨_, laysItem_word n, reads_word true false n, _, _, rfl, .inl rfl⟩

lemma blockValue_word (n : UInt32) : BlockValue readWord n (blockSpelling.value n) :=
  ⟨_, laysValue_word n, reads_word true true n, _, _, rfl, .inl rfl⟩

lemma blockValue_list {as : List α} {items : List (Nat → List Char)}
    (h : List.Forall₂ (BlockItem r) as items) :
    BlockValue (readList r) as (blockSpelling.list items) := by
  cases items with
  | nil =>
    obtain rfl := List.forall₂_nil_right_iff.mp h
    exact ⟨_, laysValue_nil, Reads.flowList true true .nil, _, _, rfl, .inl rfl⟩
  | cons item items =>
    obtain ⟨kss, hlays, hreads⟩ := exists_forall₂_of_forall (fun _ _ h => h) h
    have hne : as ≠ [] := by
      rintro rfl
      cases h
    refine ⟨_, laysValue_list hlays (List.cons_ne_nil _ _), Reads.flushList hne hreads, ?_⟩
    cases hlays with
    | cons => exact ⟨_, _, rfl, .inr ⟨rfl, rfl⟩⟩

lemma exists_laysMember {shape : Shape Reader δ α} {members : List (String × (Nat → List Char))}
    {d d' : δ} (h : Fills (fun _ => BlockValue) shape d members d') : ∃ members',
      List.Forall₂ LaysMember members members' ∧
        Fills (fun _ r b ks => Reads true true r b ks ∧ Begins true ks) shape d members' d' :=
  h.exists_of_forall fun _ _ _ _ hvalue => hvalue

lemma blockItem_record {shape : Shape Reader δ α} {members : List (String × (Nat → List Char))}
    {d : δ} (hne : members ≠ []) (hfills : Fills (fun _ => BlockValue) shape shape.start members d)
    (hfinish : shape.finish d = .ok a) :
    BlockItem (readRecord shape) a (blockSpelling.record members) := by
  obtain ⟨members', hlays, hfills'⟩ := exists_laysMember hfills
  exact ⟨_, laysItem_record hlays hne, Reads.record false hfills' hfinish, _, _, rfl, .inl rfl⟩

lemma parse_document {shape : Shape Reader δ α} {members : List (String × (Nat → List Char))}
    {d : δ} (hne : members ≠ []) (hfills : Fills (fun _ => BlockValue) shape shape.start members d)
    (hfinish : shape.finish d = .ok a) :
    parse (readRecord shape) (blockSpelling.document members) = .ok a := by
  obtain ⟨members', hlays, hfills'⟩ := exists_laysMember hfills
  exact parse_eq_ok ((laysItem_record hlays hne).allAllowed 0) (kinds_tokenize_record hlays hne)
    ⟨_, _, rfl, .inl rfl⟩ (Reads.record false hfills' hfinish)

end Reading

/-- What is written as YAML is read as YAML. -/
def blockCorrespondence : Correspondence format blockSpelling where
  ReadsItem _ := BlockItem
  ReadsValue _ := BlockValue
  ReadsDocument _ r b cs := parse r cs = .ok b
  item := blockItem_word
  value := blockValue_word
  list := blockValue_list
  record := blockItem_record
  document := parse_document

end Yaml

open Yaml

lemma AreaLayout.yaml_eq (a : AreaLayout) : a.yaml = hyphened 2 (a.spell blockSpelling) := by
  simp [yaml, numberLine, hyphened, indent, spell, blockSpelling, blockRecord, blockMember,
    List.replicate_succ]

/-- A list behind a name. -/
lemma listLines_eq {β : Type} {item : β → List Char} {c : Nat} {spell : β → Nat → List Char}
    (h : ∀ b, item b = hyphened c (spell b)) (name : String) (bs : List β) :
    listLines name item bs = name.toList ++ ':' :: blockSpelling.list (bs.map spell) c := by
  cases bs with
  | nil => rfl
  | cons b bs =>
    have hitems : (b :: bs).flatMap item = ((b :: bs).map spell).flatMap (hyphened c) := by
      rw [List.flatMap_map]
      exact congrArg (List.flatMap · _) (funext h)
    rw [listLines, if_neg (by simp), hitems]
    simp [blockSpelling, blockList]

lemma ZoneLayout.yaml_eq (z : ZoneLayout) : z.yaml = hyphened 0 (z.spell blockSpelling) := by
  have hadjacent : ∀ n : ZoneId, numberLine "  - " n = hyphened 2 (blockSpelling.item n) := by
    intro n
    simp [numberLine, hyphened, indent, blockSpelling, List.replicate_succ]
  have hrecord : blockSpelling.record = blockRecord := rfl
  have hid : ∀ c, blockSpelling.value z.id c = ' ' :: Json.number z.id.toNat ++ ['\n'] :=
    fun _ => rfl
  rw [yaml, listLines_eq hadjacent, listLines_eq AreaLayout.yaml_eq]
  cases hempty : z.adjacent.isEmpty <;>
    simp [numberLine, hyphened, indent, spell, members, hempty, hrecord, blockRecord, blockMember,
      hid, List.replicate_succ]

lemma Layout.yaml_eq (l : Layout) : l.yaml = l.spell blockSpelling := by
  rw [yaml, listLines_eq ZoneLayout.yaml_eq]
  simp [spell, blockSpelling, blockRecord, blockMember]

/-- **What is written as YAML is read back.** -/
theorem Layout.ofYaml_yaml (l : Layout) : Layout.ofYaml l.yaml = .ok l := by
  rw [l.yaml_eq]
  exact blockCorrespondence.layout l

end Garage
