import ResolverGrader.Dns.Message
import ResolverGrader.Proofs.Text.Legible

/-!
# Records are legible

The data of a record that is made of addresses, names and numbers has a legible
text, whatever octets stand in the labels of its names.  The root is shown as a
dot and every octet outside visible ASCII by its number, so not even the oddest
name becomes a blank or breaks a line.

`answerTexts?_legible` carries this over to the answer section of a message.
Whatever a library reads and shows besides, `answerTexts?_eq_none_iff` names
the one kind of record that keeps a section from having texts.
-/

namespace ResolverGrader

open ResolverGrader.Text

/-! ## Addresses -/

namespace Net

theorem isLegible_ipv4_characters (address : Ipv4) :
    IsLegible address.characters := by
  refine isLegible_intercalate (by decide) (List.cons_ne_nil _ _) ?_
  intro part member
  obtain ⟨octet, _, rfl⟩ := List.mem_map.mp member
  exact isLegible_decimalDigits octet.toNat

theorem isLegible_of_mem_groups
    {groups : List UInt16} {part : List Char}
    (member :
      part ∈ groups.map fun group => hexadecimalDigits group.toNat) :
    IsLegible part := by
  obtain ⟨group, _, rfl⟩ := List.mem_map.mp member
  exact isLegible_hexadecimalDigits group.toNat

theorem isPrintable_groupCharacters (groups : List UInt16) :
    IsPrintable (groupCharacters groups) :=
  isPrintable_intercalate (by decide)
    fun _ member => (isLegible_of_mem_groups member).1

theorem isLegible_groupCharacters
    {groups : List UInt16} (some_group : groups ≠ []) :
    IsLegible (groupCharacters groups) :=
  isLegible_intercalate (by decide)
    (fun none => some_group (List.map_eq_nil_iff.mp none))
    fun _ member => isLegible_of_mem_groups member

theorem isLegible_ipv6_characters (address : Ipv6) :
    IsLegible address.characters := by
  have some_group : address.groups ≠ [] := by
    rw [← List.length_pos_iff, address.length_groups]
    decide
  unfold Ipv6.characters
  split
  · exact (isLegible_ipv4_characters _).prepend (by decide)
  · -- The colons that stand for the zeros are visible, even if nothing else
    -- is left.
    dsimp only
    split
    · have colons : IsLegible [':', ':'] := by decide
      exact (colons.prepend (isPrintable_groupCharacters _)).append
        (isPrintable_groupCharacters _)
    · exact isLegible_groupCharacters some_group

end Net

namespace Dns

/-! ## Names -/

theorem isLegible_octetCharacters (isFirst : Bool) (octet : UInt8) :
    IsLegible (octetCharacters isFirst octet) :=
  forall_octet
    (fun octet => ∀ isFirst : Bool,
      IsLegible (octetCharacters isFirst octet))
    (by decide +kernel) octet isFirst

theorem isLegible_label_characters (label : Label) :
    IsLegible label.characters := by
  rw [Label.characters_plain, Label.escaped]
  cases octets : label.octets with
  | nil => exact absurd octets label.octets_ne_nil
  | cons first rest =>
      refine (isLegible_octetCharacters true first).append ?_
      apply isPrintable_flatMap
      intro octet _
      exact (isLegible_octetCharacters false octet).1

theorem isLegible_name_characters (name : Name) :
    IsLegible name.characters := by
  have dotted (label : Label) : IsLegible (label.characters ++ ['.']) :=
    (isLegible_label_characters label).append (by decide)
  unfold Name.characters
  cases name.labels with
  | nil => decide
  | cons label rest =>
      refine (dotted label).append ?_
      exact isPrintable_flatMap fun label _ => (dotted label).1

/-! ## Records -/

/-- Data made of addresses, names and numbers. -/
def RecordData.IsPresentable : RecordData → Prop
  | .a _ | .aaaa _ | .cname _ | .ns _ | .ptr _ | .mx .. | .soa _ | .srv .. =>
      True
  | .absent | .txt _ | .options _ | .structured _ | .raw _ => False

theorem isLegible_spaced
    {parts : List (List Char)} (some_part : parts ≠ [])
    (each : ∀ part ∈ parts, IsLegible part) :
    IsLegible (spaced parts) :=
  isLegible_intercalate (by decide) some_part each

theorem isLegible_zoneStart_characters (zone : ZoneStart) :
    IsLegible zone.characters := by
  apply isLegible_spaced (List.cons_ne_nil _ _)
  simp only [List.forall_mem_cons, List.not_mem_nil, false_implies,
    implies_true, isLegible_name_characters, isLegible_decimalDigits,
    isLegible_toString_int, and_self]

theorem RecordData.characters?_legible
    {data : RecordData} (presentable : data.IsPresentable) :
    ∃ characters, data.characters? = some characters ∧
      IsLegible characters := by
  cases data with
  | a address => exact ⟨_, rfl, Net.isLegible_ipv4_characters address⟩
  | aaaa address => exact ⟨_, rfl, Net.isLegible_ipv6_characters address⟩
  | ns name | cname name | ptr name =>
      exact ⟨_, rfl, isLegible_name_characters name⟩
  | soa zone => exact ⟨_, rfl, isLegible_zoneStart_characters zone⟩
  | mx preference exchange =>
      refine ⟨_, rfl, isLegible_spaced (List.cons_ne_nil _ _) ?_⟩
      simp [isLegible_decimalDigits, isLegible_name_characters]
  | srv priority weight port target =>
      refine ⟨_, rfl, isLegible_spaced (List.cons_ne_nil _ _) ?_⟩
      simp [isLegible_decimalDigits, isLegible_name_characters]
  | absent | txt _ | options _ | structured _ | raw _ =>
      exact presentable.elim

theorem Record.text?_legible
    {record : Record} (presentable : record.data.IsPresentable) :
    ∃ text, record.text? = some text ∧ IsLegible text.toList := by
  obtain ⟨characters, shown, legible⟩ :=
    RecordData.characters?_legible presentable
  refine ⟨String.ofList characters, ?_, ?_⟩
  · rw [Record.text?, shown, Option.map_some]
  · rwa [String.toList_ofList]

theorem mapM_text?_legible
    {records : List Record}
    (presentable : ∀ record ∈ records, record.data.IsPresentable) :
    ∃ texts, records.mapM Record.text? = some texts ∧
      ∀ text ∈ texts, IsLegible text.toList := by
  induction records with
  | nil => exact ⟨[], rfl, List.forall_mem_nil _⟩
  | cons record rest ih =>
      obtain ⟨here, later⟩ := List.forall_mem_cons.mp presentable
      obtain ⟨text, shown, legible⟩ := Record.text?_legible here
      obtain ⟨texts, restShown, restLegible⟩ := ih later
      refine ⟨text :: texts, ?_, List.forall_mem_cons.mpr
        ⟨legible, restLegible⟩⟩
      rw [List.mapM_cons, shown, restShown]
      rfl

/-- Presentable answers all have a text, and every one of these is legible. -/
theorem Message.answerTexts?_legible
    {message : Message}
    (presentable :
      ∀ record ∈ message.answers, record.data.IsPresentable) :
    ∃ answers, message.answerTexts? = some answers ∧
      ∀ answer ∈ answers, IsLegible answer.toList := by
  obtain ⟨texts, shown, legible⟩ := mapM_text?_legible presentable
  refine ⟨sorted texts, ?_, ?_⟩
  · rw [Message.answerTexts?, shown, Option.map_some]
  · intro answer member
    exact legible answer (mem_sorted.mp member)

/-! ## Records that have a text -/

variable {library : Library}

theorem Record.text?_eq_none_iff (record : Record) (library : Library) :
    record.text? library = none ↔
      ∃ octets, record.data = .options octets := by
  rw [← RecordData.characters?_eq_none_iff record.data library]
  exact Option.map_eq_none_iff

theorem mapM_text?_eq_none_iff (records : List Record) :
    records.mapM (Record.text? · library) = none ↔
      ∃ record ∈ records, record.text? library = none := by
  induction records with
  | nil => simp
  | cons record rest ih =>
      simp only [List.mapM_cons, List.mem_cons, exists_eq_or_imp, ← ih]
      cases record.text? library with
      | none => simp
      | some text =>
          cases rest.mapM (Record.text? · library) with
          | none => simp
          | some texts => simp

theorem mapM_text?_forall₂
    {records : List Record} {texts : List String}
    (shown : records.mapM (Record.text? · library) = some texts) :
    List.Forall₂ (fun record text => record.text? library = some text)
      records texts := by
  induction records generalizing texts with
  | nil =>
      obtain rfl : [] = texts := Option.some.inj shown
      exact .nil
  | cons record rest ih =>
      rw [List.mapM_cons] at shown
      obtain ⟨text, first, shown⟩ := Option.bind_eq_some_iff.mp shown
      obtain ⟨more, later, shown⟩ := Option.bind_eq_some_iff.mp shown
      obtain rfl : text :: more = texts := Option.some.inj shown
      exact .cons first (ih later)

/--
The answers have no texts exactly if the options of a transport record are
among them.
-/
theorem Message.answerTexts?_eq_none_iff (message : Message) :
    message.answerTexts? library = none ↔
      ∃ record ∈ message.answers, ∃ octets,
        record.data = .options octets := by
  simp only [← Record.text?_eq_none_iff _ library,
    ← mapM_text?_eq_none_iff]
  exact Option.map_eq_none_iff

end Dns

end ResolverGrader
