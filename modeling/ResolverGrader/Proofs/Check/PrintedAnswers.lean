import ResolverGrader.Proofs.Check.AnswerGrading
import ResolverGrader.Proofs.Dns.Presentation
import ResolverGrader.Proofs.Text.LetterCase
import ResolverGrader.Text.Split

/-!
# The right output passes

A submission that prints the answers of a response gets its points for them:
each answer on a line of its own, in any order, as often as it likes, in
capital or small letters.  What was rendered from the message comes back from
the output, through octets, lines, the removal of blank ones and the normal
form, as the same set.

`printed_answers_pass` says so for every message whose answers are addresses,
names and the like.
-/

namespace ResolverGrader

open ResolverGrader.Answer ResolverGrader.Dns ResolverGrader.Text

/--
An output of nothing but answers, each on a line that ends, up to the case of
ASCII letters.
-/
def Prints (stdout : Octets) (answers : List String) : Prop :=
  ∃ lines : List String,
    stdout = Utf8.encode (endLines lines).toList ∧
      (∀ line ∈ lines, ∃ answer ∈ answers,
        SameLetters line.toList answer.toList) ∧
      ∀ answer ∈ answers, ∃ line ∈ lines,
        SameLetters line.toList answer.toList

/-! ## Lines -/

theorem Text.isAscii_endLines
    {texts : List String} (ascii : ∀ text ∈ texts, IsAscii text.toList) :
    IsAscii (endLines texts).toList := by
  rw [toList_endLines]
  intro character member
  obtain ⟨text, among, inside⟩ := List.mem_flatMap.mp member
  rcases List.mem_append.mp inside with ofText | ending
  · exact ascii text among character ofText
  · rw [List.mem_singleton.mp ending]
    decide

/-! ## The way back -/

/-- The legible lines of an output are found in it again, and nothing else. -/
theorem Answer.printedLines_encode_endLines
    {lines : List String} (legible : ∀ line ∈ lines, IsLegible line.toList) :
    printedLines (Utf8.encode (endLines lines).toList) =
      {line | line ∈ lines} := by
  unfold printedLines
  rw [Utf8.decode_encode_of_ascii
      (isAscii_endLines fun line member => (legible line member).isAscii),
    pieces_endLines fun line member => (legible line member).newline_not_mem]
  ext line
  rw [Set.mem_ofPred_eq, Set.mem_ofPred_eq, List.mem_append,
    List.mem_singleton,
    List.mem_map_of_injective fun _ _ => String.toList_injective]
  constructor
  · rintro ⟨found | empty, visible⟩
    · exact found
    · rw [empty] at visible
      simp at visible
  · intro member
    exact ⟨Or.inl member, (legible line member).exists_visible⟩

theorem Answer.normalize_eq_of_sameLetters
    {line answer : String}
    (same : SameLetters line.toList answer.toList) :
    normalize line = normalize answer := by
  unfold normalize normalizeChars
  rw [same.lowercase_congr]

/-- An output of legible answers gives the normal forms of these answers. -/
theorem Prints.normalForms_eq
    {stdout : Octets} {answers : List String}
    (prints : Prints stdout answers)
    (legible : ∀ answer ∈ answers, IsLegible answer.toList) :
    normalForms (printedLines stdout) =
      normalForms {answer | answer ∈ answers} := by
  obtain ⟨lines, rfl, expected, complete⟩ := prints
  have linesLegible : ∀ line ∈ lines, IsLegible line.toList := by
    intro line member
    obtain ⟨answer, among, same⟩ := expected line member
    exact (legible answer among).of_sameLetters same
  rw [printedLines_encode_endLines linesLegible]
  apply Set.Subset.antisymm
  · rintro _ ⟨line, member, rfl⟩
    obtain ⟨answer, among, same⟩ := expected line member
    exact ⟨answer, among,
      (normalize_eq_of_sameLetters same).symm⟩
  · rintro _ ⟨answer, among, rfl⟩
    obtain ⟨line, member, same⟩ := complete answer among
    exact ⟨line, member,
      normalize_eq_of_sameLetters same⟩

/--
The answers of a response that are made of addresses, names and numbers have
texts, each of which can be printed on one line and read back from it.  A
traced run that succeeds and prints them passes the one category of answers
that applies, and the category for the root as well if it was asked for.
-/
theorem printed_answers_pass
    {wire : Octets} {message : Message}
    (decoded : Message.decode? wire = some message)
    (presentable :
      ∀ record ∈ message.answers, record.data.IsPresentable) :
    ∃ answers,
      (Message.decode? wire).bind Message.answerTexts? = some answers ∧
        (∀ answer ∈ answers,
          trim answer.toList ≠ [] ∧ '\n' ∉ answer.toList ∧
            Utf8.decode (Utf8.encode answer.toList) = answer.toList) ∧
        ∀ (queryName : String) (traced checked : Run)
          (expectedQuery : Octets),
          traced.exit = .exited 0 → Prints traced.stdout answers →
            let trial :=
              Trial.ofRuns queryName traced checked expectedQuery answers
            (∃ category ∈ answerCategories,
              (∀ other ∈ answerCategories,
                Applies other trial ↔ other = category) ∧
                Passes category trial) ∧
              (queryName = "." →
                Applies .handlesRoot trial ∧ Passes .handlesRoot trial) := by
  obtain ⟨answers, shown, legible⟩ :=
    Message.answerTexts?_legible presentable
  refine ⟨answers, ?_, ?_, ?_⟩
  · rw [decoded, Option.bind_some, shown]
  · intro answer member
    have readable := legible answer member
    exact ⟨(trim_ne_nil_iff _).mpr readable.exists_visible,
      readable.newline_not_mem, Utf8.decode_encode_of_ascii readable.isAscii⟩
  · intro queryName traced checked expectedQuery succeeded prints trial
    have right_answers :
        traced.exit = .exited 0 ∧
          normalForms (printedLines traced.stdout) =
            normalForms {answer | answer ∈ answers} :=
      ⟨succeeded, prints.normalForms_eq legible⟩
    constructor
    · refine ⟨_, answerCategory_mem answers.toFinset, ?_, ?_⟩
      · intro other member
        rw [eq_comm]
        exact applies_ofRuns_iff queryName traced checked expectedQuery
          answers member
      · exact (passes_answerCategory_iff queryName traced checked
          expectedQuery answers).mpr right_answers
    · intro root
      have applies : Applies .handlesRoot trial :=
        (applies_iff .handlesRoot trial).mpr root
      exact ⟨applies, (passes_ofRuns_iff rfl applies).mpr right_answers⟩

/--
A response to a question about the root: it is an alias, whose name ends in a
pointer.
-/
def rootAliasWire : Octets :=
  [0, 7, 0x81, 0x80, 0, 0, 0, 1, 0, 0, 0, 0,
    0, 0, 5, 0, 1, 0, 0, 0, 0, 0, 4, 1, 0x62, 0xc0, 0x0c]

/-- The message of `rootAliasWire`. -/
def rootAlias : Message where
  id := 7
  flags := 0x8180
  questions := []
  answers :=
    [⟨.root, 5, .cname ⟨[⟨[0x62], by decide, by decide⟩], by decide⟩⟩]
  authorities := []
  additionals := []

/-- A run that prints the target of the alias twice, once in capitals. -/
def rootAliasRun : Run where
  request := []
  stdout := Utf8.encode "B.\nb.\n".toList
  traceOutput := none
  memcheckOutput := none
  memcheckExit := none
  exit := .exited 0

theorem printed_answers_pass_root_alias :
    let trial :=
      Trial.ofRuns "." rootAliasRun rootAliasRun [] ["b."]
    Message.decode? rootAliasWire = some rootAlias ∧
      (∀ record ∈ rootAlias.answers, record.data.IsPresentable) ∧
      rootAlias.answerTexts? = some ["b."] ∧
      rootAliasRun.exit = .exited 0 ∧
      Prints rootAliasRun.stdout ["b."] ∧
      (∃ category ∈ answerCategories, Passes category trial) ∧
      Passes .handlesRoot trial := by
  have decoded : Message.decode? rootAliasWire = some rootAlias := by
    cbv
  have presentable :
      ∀ record ∈ rootAlias.answers, record.data.IsPresentable := by
    simp [rootAlias, RecordData.IsPresentable]
  have rendered : rootAlias.answerTexts? = some ["b."] := by
    have texts : rootAlias.answers.mapM Record.text? = some ["b."] := by
      decide +kernel
    rw [Message.answerTexts?, texts, Option.map_some, sorted,
      List.mergeSort_singleton]
  have prints : Prints rootAliasRun.stdout ["b."] := by
    refine ⟨["B.", "b."], rfl, ?_, ?_⟩
    · intro line member
      refine ⟨"b.", List.mem_singleton_self _, ?_⟩
      simp only [List.mem_cons, List.not_mem_nil, or_false] at member
      rcases member with rfl | rfl <;> rfl
    · intro answer member
      rw [List.mem_singleton.mp member]
      exact ⟨"b.", by simp, rfl⟩
  obtain ⟨answers, shown, _, rewarded⟩ :=
    printed_answers_pass decoded presentable
  rw [decoded, Option.bind_some, rendered, Option.some.injEq] at shown
  subst shown
  obtain ⟨⟨category, member, _, passes⟩, root_passes⟩ :=
    rewarded "." rootAliasRun rootAliasRun [] rfl prints
  exact ⟨decoded, presentable, rendered, rfl, prints,
    ⟨category, member, passes⟩, (root_passes rfl).2⟩

end ResolverGrader
