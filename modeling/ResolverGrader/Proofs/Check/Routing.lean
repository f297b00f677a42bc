import Mathlib.Data.List.Forall2
import ResolverGrader.Proofs.Answer.Numeric
import ResolverGrader.Proofs.Check.AnswerGrading
import ResolverGrader.Proofs.Dns.Presentation

/-!
# Routing by record kind

A response of addresses and aliases is meant to be graded for its aliases where
it has one, and for its addresses where it has none.  The grader only sees the
texts of the records, though, and takes every text of digits and dots for an
address.  An alias for a name like `1.` is such a text.

`routed_by_kind_iff` says for every response what is seen, and exactly when
that is what was meant: unless all the aliases of a response read like numbers.
`numeric_alias_misrouted` is a response of that kind.
-/

namespace ResolverGrader

open ResolverGrader.Answer ResolverGrader.Dns ResolverGrader.Text

/-! ## Names that read like numbers -/

namespace Dns

/--
A name that reads like a number: it has a label, and all its labels are made of
digits.
-/
def Name.IsNumeric (name : Name) : Prop :=
  name.labels ≠ [] ∧
    ∀ label ∈ name.labels, ∀ octet ∈ label.octets, 48 ≤ octet ∧ octet ≤ 57

instance (name : Name) : Decidable name.IsNumeric :=
  inferInstanceAs (Decidable (_ ∧ _))

theorem all_octetCharacters_dotted (isFirst : Bool) (octet : UInt8) :
    (octetCharacters isFirst octet).all isDottedDigit =
      (decide (48 ≤ octet) && decide (octet ≤ 57)) :=
  forall_octet
    (fun octet => ∀ isFirst : Bool,
      (octetCharacters isFirst octet).all isDottedDigit =
        (decide (48 ≤ octet) && decide (octet ≤ 57)))
    (by decide +kernel) octet isFirst

theorem octetCharacters_dotted_iff (isFirst : Bool) (octet : UInt8) :
    (∀ character ∈ octetCharacters isFirst octet,
        isDottedDigit character = true) ↔
      48 ≤ octet ∧ octet ≤ 57 := by
  rw [← List.all_eq_true, all_octetCharacters_dotted,
    Bool.and_eq_true, decide_eq_true_iff, decide_eq_true_iff]

theorem any_octetCharacters_ne_dot (isFirst : Bool) (octet : UInt8) :
    (octetCharacters isFirst octet).any (· != '.') = true :=
  forall_octet
    (fun octet => ∀ isFirst : Bool,
      (octetCharacters isFirst octet).any (· != '.') = true)
    (by decide +kernel) octet isFirst

/-- Not even a dot inside a label is shown by a dot alone. -/
theorem exists_octetCharacter_ne_dot (isFirst : Bool) (octet : UInt8) :
    ∃ character ∈ octetCharacters isFirst octet, character ≠ '.' := by
  obtain ⟨character, member, other⟩ :=
    List.any_eq_true.mp (any_octetCharacters_ne_dot isFirst octet)
  exact ⟨character, member, bne_iff_ne.mp other⟩

theorem label_characters_dotted_iff (label : Label) :
    (∀ character ∈ label.characters, isDottedDigit character = true) ↔
      ∀ octet ∈ label.octets, 48 ≤ octet ∧ octet ≤ 57 := by
  rw [Label.characters_plain, Label.escaped]
  cases label.octets with
  | nil => simp
  | cons first rest =>
      rw [List.forall_mem_append, List.forall_mem_cons,
        octetCharacters_dotted_iff]
      refine and_congr Iff.rfl ?_
      simp only [List.forall_mem_flatMap, octetCharacters_dotted_iff]

theorem exists_label_character_ne_dot (label : Label) :
    ∃ character ∈ label.characters, character ≠ '.' := by
  rw [Label.characters_plain, Label.escaped]
  cases octets : label.octets with
  | nil => exact absurd octets label.octets_ne_nil
  | cons first rest =>
      obtain ⟨character, member, other⟩ :=
        exists_octetCharacter_ne_dot true first
      exact ⟨character, List.mem_append_left _ member, other⟩

/-- A name is taken for an address exactly if it reads like a number. -/
theorem isNumeric_name_iff (name : Name) :
    Answer.isNumeric (String.ofList name.characters) = true ↔
      name.IsNumeric := by
  rw [isNumeric_iff, String.toList_ofList]
  unfold Name.characters Name.IsNumeric
  cases name.labels with
  | nil => simp
  | cons label rest =>
      obtain ⟨character, member, other⟩ :=
        exists_label_character_ne_dot label
      have someOther :
          ∃ character ∈ (label :: rest).flatMap
              fun label => label.characters ++ ['.'],
            character ≠ '.' :=
        ⟨character,
          List.mem_append_left _ (List.mem_append_left _ member), other⟩
      have dot : isDottedDigit '.' = true := by decide
      simp only [someOther, List.forall_mem_flatMap,
        List.forall_mem_append, List.forall_mem_singleton, dot,
        label_characters_dotted_iff, and_true, true_and, ne_eq,
        reduceCtorEq, not_false_eq_true]

/-! ## Records -/

/-- Data of the kinds that a response for addresses is made of. -/
def RecordData.IsAddressOrAlias : RecordData → Prop
  | .a _ | .cname _ => True
  | _ => False

/-- An alias. -/
def RecordData.IsAlias (data : RecordData) : Prop :=
  ∃ target, data = .cname target

/-- An alias for a name that does not read like a number. -/
def RecordData.IsNamedAlias (data : RecordData) : Prop :=
  ∃ target, data = .cname target ∧ ¬ target.IsNumeric

theorem RecordData.IsNamedAlias.isAlias
    {data : RecordData} (named : data.IsNamedAlias) : data.IsAlias := by
  obtain ⟨target, isAlias, _⟩ := named
  exact ⟨target, isAlias⟩

theorem RecordData.IsAddressOrAlias.isPresentable
    {data : RecordData} (plain : data.IsAddressOrAlias) :
    data.IsPresentable := by
  cases data with
  | a _ | cname _ => exact trivial
  | absent | ns _ | soa _ | ptr _ | mx _ _ | txt _ | aaaa _
    | srv _ _ _ _ | options _ | structured _ | raw _ => exact plain.elim

/-- Of addresses and aliases exactly the named aliases are taken for names. -/
theorem Record.isNumeric_text_eq_false_iff
    {record : Record} (plain : record.data.IsAddressOrAlias)
    {text : String} (shown : record.text? = some text) :
    Answer.isNumeric text = false ↔ record.data.IsNamedAlias := by
  unfold Record.text? at shown
  unfold RecordData.IsNamedAlias
  cases data : record.data with
  | a address =>
      rw [data] at shown
      obtain rfl : String.ofList address.characters = text :=
        Option.some.inj shown
      simp [isNumeric_ipv4]
  | cname target =>
      rw [data] at shown
      obtain rfl : String.ofList target.characters = text :=
        Option.some.inj shown
      rw [← Bool.not_eq_true, isNumeric_name_iff]
      simp
  | absent | ns _ | soa _ | ptr _ | mx _ _ | txt _ | aaaa _
    | srv _ _ _ _ | options _ | structured _ | raw _ =>
      rw [data] at plain
      exact plain.elim

theorem exists_name_text_iff
    {records : List Record} {texts : List String}
    (shown :
      List.Forall₂ (fun record text => record.text? = some text)
        records texts)
    (plain : ∀ record ∈ records, record.data.IsAddressOrAlias) :
    (∃ text ∈ texts, Answer.isNumeric text = false) ↔
      ∃ record ∈ records, record.data.IsNamedAlias := by
  induction shown with
  | nil => simp
  | cons first _ ih =>
      obtain ⟨here, there⟩ := List.forall_mem_cons.mp plain
      simp only [List.exists_mem_cons_iff, ih there,
        Record.isNumeric_text_eq_false_iff here first]

end Dns

/-! ## Routing -/

/--
The categories of answers share the trials out by which records count as
aliases.
-/
structure RoutedBy
    (isAlias : RecordData → Prop) (message : Message) (trial : Trial) :
    Prop where
  handlesCname_iff :
    Applies .handlesCname trial ↔
      ∃ record ∈ message.answers, isAlias record.data
  findsAnswer_iff :
    Applies .findsAnswer trial ↔
      message.answers ≠ [] ∧
        ∀ record ∈ message.answers, ¬ isAlias record.data
  handlesNxdomain_iff :
    Applies .handlesNxdomain trial ↔ message.answers = []

/-- All that matters for the route is whether there is an alias. -/
theorem RoutedBy.congr
    {first second : RecordData → Prop} {message : Message} {trial : Trial}
    (routed : RoutedBy first message trial)
    (same :
      (∃ record ∈ message.answers, first record.data) ↔
        ∃ record ∈ message.answers, second record.data) :
    RoutedBy second message trial where
  handlesCname_iff := routed.handlesCname_iff.trans same
  findsAnswer_iff := by
    rw [routed.findsAnswer_iff]
    refine and_congr Iff.rfl ?_
    simpa only [not_exists, not_and] using not_congr same
  handlesNxdomain_iff := routed.handlesNxdomain_iff

/-- Trials of addresses and aliases go where the named aliases send them. -/
theorem routedBy_isNamedAlias
    {message : Message} {answers : List String}
    (rendered : message.answerTexts? = some answers)
    (plain :
      ∀ record ∈ message.answers, record.data.IsAddressOrAlias)
    (queryName : String) (traced checked : Run) (expectedQuery : Octets) :
    RoutedBy RecordData.IsNamedAlias message
      (.ofRuns queryName traced checked expectedQuery answers) := by
  obtain ⟨texts, shown, rfl⟩ := Option.map_eq_some_iff.mp rendered
  have paired := mapM_text?_forall₂ shown
  let trial :=
    Trial.ofRuns queryName traced checked expectedQuery (sorted texts)
  have empty_iff : trial.expectedAnswers = [] ↔ message.answers = [] := by
    have counted := expectedAnswers_ofRuns_eq_nil_iff queryName traced
      checked expectedQuery (sorted texts)
    rwa [List.toFinset_eq_empty_iff, ← List.length_eq_zero_iff (l := sorted _),
      length_sorted, ← paired.length_eq, List.length_eq_zero_iff] at counted
  have named_iff :
      hasName trial.expectedAnswers = true ↔
        ∃ record ∈ message.answers, record.data.IsNamedAlias := by
    have seen := hasName_expectedAnswers_ofRuns_iff queryName traced
      checked expectedQuery (sorted texts)
    simpa only [List.mem_toFinset, mem_sorted, isNumeric_normalize,
      exists_name_text_iff paired plain] using seen
  constructor
  · rw [applies_iff]
    refine Iff.trans ?_ named_iff
    refine and_iff_right_of_imp ?_
    intro named
    obtain ⟨record, member, _⟩ := named_iff.mp named
    exact fun none =>
      List.ne_nil_of_mem member (empty_iff.mp none)
  · rw [applies_iff]
    refine and_congr (not_congr empty_iff) ?_
    rw [← Bool.not_eq_true]
    simpa only [not_exists, not_and] using not_congr named_iff
  · exact (applies_iff _ _).trans empty_iff

/--
A response of addresses and aliases has texts for all its answers, and its
trials are routed by the aliases for names that do not read like numbers.  That
is the route by record kind exactly where the response has no alias or one of
that sort.
-/
theorem routed_by_kind_iff
    {wire : Octets} {message : Message}
    (decoded : Message.decode? wire = some message)
    (plain :
      ∀ record ∈ message.answers, record.data.IsAddressOrAlias) :
    ∃ answers,
      (Message.decode? wire).bind Message.answerTexts? = some answers ∧
        ∀ (queryName : String) (traced checked : Run)
          (expectedQuery : Octets),
          let trial :=
            Trial.ofRuns queryName traced checked expectedQuery answers
          RoutedBy RecordData.IsNamedAlias message trial ∧
            (RoutedBy RecordData.IsAlias message trial ↔
              ((∃ record ∈ message.answers, record.data.IsAlias) →
                ∃ record ∈ message.answers,
                  record.data.IsNamedAlias)) := by
  obtain ⟨answers, rendered, _⟩ :=
    Message.answerTexts?_legible
      fun record member => (plain record member).isPresentable
  refine ⟨answers, ?_, ?_⟩
  · rw [decoded, Option.bind_some, rendered]
  · intro queryName traced checked expectedQuery trial
    have seen : RoutedBy RecordData.IsNamedAlias message trial :=
      routedBy_isNamedAlias rendered plain queryName traced checked
        expectedQuery
    refine ⟨seen, ?_, ?_⟩
    · intro meant present
      rw [← seen.handlesCname_iff, meant.handlesCname_iff]
      exact present
    · intro enough
      refine seen.congr ⟨?_, enough⟩
      rintro ⟨record, member, named⟩
      exact ⟨record, member, named.isAlias⟩

/-- The name of one label of one octet. -/
def Dns.Name.ofOctet (octet : UInt8) : Name :=
  ⟨[⟨[octet], List.cons_ne_nil _ _, by simp [maxLabelLength]⟩],
    by simp [wireLength, maxNameLength]⟩

/--
A response to a question about `a`: an alias for `1.`, which is an alias for
`b.`, and the address of that.
-/
def aliasChainWire : Octets :=
  [0, 7, 0x81, 0x80, 0, 0, 0, 3, 0, 0, 0, 0,
    1, 0x61, 0, 0, 5, 0, 1, 0, 0, 0, 60, 0, 3, 1, 0x31, 0,
    0xc0, 25, 0, 5, 0, 1, 0, 0, 0, 60, 0, 3, 1, 0x62, 0,
    0xc0, 40, 0, 1, 0, 1, 0, 0, 0, 60, 0, 4, 192, 0, 2, 1]

/-- The message of `aliasChainWire`. -/
def aliasChain : Message where
  id := 7
  flags := 0x8180
  questions := []
  answers :=
    [⟨.ofOctet 0x61, 5, .cname (.ofOctet 0x31)⟩,
      ⟨.ofOctet 0x31, 5, .cname (.ofOctet 0x62)⟩,
      ⟨.ofOctet 0x62, 1, .a ⟨192, 0, 2, 1⟩⟩]
  authorities := []
  additionals := []

theorem routed_by_kind_alias_chain :
    Message.decode? aliasChainWire = some aliasChain ∧
      (∀ record ∈ aliasChain.answers,
        record.data.IsAddressOrAlias) ∧
      ∃ answers,
        aliasChain.answerTexts? = some answers ∧
          RoutedBy RecordData.IsAlias aliasChain
            (.ofRuns "a" ⟨[], [], none, none, none, .exited 0⟩
              ⟨[], [], none, none, none, .exited 0⟩ [] answers) := by
  have decoded : Message.decode? aliasChainWire = some aliasChain := by
    cbv
  have plain :
      ∀ record ∈ aliasChain.answers,
        record.data.IsAddressOrAlias := by
    simp [aliasChain, RecordData.IsAddressOrAlias]
  obtain ⟨answers, rendered, routed⟩ := routed_by_kind_iff decoded plain
  rw [decoded, Option.bind_some] at rendered
  refine ⟨decoded, plain, answers, rendered, ?_⟩
  refine (routed "a" _ _ []).2.mpr fun _ => ?_
  -- The second alias is for a name with a letter.
  refine ⟨_, List.mem_cons_of_mem _ List.mem_cons_self, _, rfl, ?_⟩
  decide

/--
A response to a question about `a`: an alias for `1.` and the address of that.
-/
def numericAliasWire : Octets :=
  [0, 7, 0x81, 0x80, 0, 0, 0, 2, 0, 0, 0, 0,
    1, 0x61, 0, 0, 5, 0, 1, 0, 0, 0, 60, 0, 3, 1, 0x31, 0,
    0xc0, 25, 0, 1, 0, 1, 0, 0, 0, 60, 0, 4, 192, 0, 2, 1]

/-- The message of `numericAliasWire`. -/
def numericAlias : Message where
  id := 7
  flags := 0x8180
  questions := []
  answers :=
    [⟨.ofOctet 0x61, 5, .cname (.ofOctet 0x31)⟩,
      ⟨.ofOctet 0x31, 1, .a ⟨192, 0, 2, 1⟩⟩]
  authorities := []
  additionals := []

/-- An alias that reads like a number is graded as if it were an address. -/
theorem numeric_alias_misrouted :
    let trial :=
      Trial.ofRuns "a" ⟨[], [], none, none, none, .exited 0⟩
        ⟨[], [], none, none, none, .exited 0⟩ [] ["1.", "192.0.2.1"]
    Message.decode? numericAliasWire = some numericAlias ∧
      (∀ record ∈ numericAlias.answers,
        record.data.IsAddressOrAlias) ∧
      numericAlias.answerTexts? = some ["1.", "192.0.2.1"] ∧
      (∃ record ∈ numericAlias.answers, record.data.IsAlias) ∧
      ¬ Applies .handlesCname trial ∧ Applies .findsAnswer trial ∧
      ¬ RoutedBy RecordData.IsAlias numericAlias trial := by
  intro trial
  have plain :
      ∀ record ∈ numericAlias.answers,
        record.data.IsAddressOrAlias := by
    simp [numericAlias, RecordData.IsAddressOrAlias]
  have rendered :
      numericAlias.answerTexts? = some ["1.", "192.0.2.1"] := by
    have texts :
        numericAlias.answers.mapM Record.text? =
          some ["1.", "192.0.2.1"] := by
      decide +kernel
    rw [Message.answerTexts?, texts, Option.map_some, sorted,
      List.mergeSort_of_pairwise (by decide)]
  have present : ∃ record ∈ numericAlias.answers, record.data.IsAlias :=
    ⟨_, List.mem_cons_self, _, rfl⟩
  have unseen :
      ∀ record ∈ numericAlias.answers, ¬ record.data.IsNamedAlias := by
    simp [numericAlias, RecordData.IsNamedAlias, Name.IsNumeric,
      Name.ofOctet]
  have seen : RoutedBy RecordData.IsNamedAlias numericAlias trial :=
    routedBy_isNamedAlias rendered plain "a" _ _ []
  have not_alias : ¬ Applies .handlesCname trial := by
    rw [seen.handlesCname_iff]
    rintro ⟨record, member, named⟩
    exact unseen record member named
  refine ⟨by cbv, plain, rendered, present, not_alias,
    seen.findsAnswer_iff.mpr ⟨List.cons_ne_nil _ _, unseen⟩, ?_⟩
  intro meant
  exact not_alias (meant.handlesCname_iff.mpr present)

end ResolverGrader
