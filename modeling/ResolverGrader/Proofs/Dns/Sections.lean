import Mathlib
import ResolverGrader.Proofs.Dns.Presentation
import ResolverGrader.Proofs.Dns.Record.Wire

/-!
# The sections of a message

A message is decoded exactly if octets are laid out as its header announces: as
many questions and records as counted there, one behind the other, each ending
where the next begins.  What stands behind the last record plays no part.  This
holds whatever library reads the records of rare types.

`answer_section_exact` puts together what this means for the answers expected
of a submission.
-/

namespace ResolverGrader.Dns

open ResolverGrader.Text

/-! ## Rows -/

/-- Items one behind the other, between two places. -/
inductive Row {α : Type} (At : Nat → α → Nat → Prop) :
    Nat → List α → Nat → Prop where
  | nil (place : Nat) : Row At place [] place
  | cons
      {start next stop : Nat} {item : α} {items : List α}
      (first : At start item next) (rest : Row At next items stop) :
      Row At start (item :: items) stop

section

variable {α : Type} {At Later : Nat → α → Nat → Prop} {start stop : Nat}
  {item : α} {items : List α}

theorem Row.mono
    (weaker :
      ∀ start item stop, At start item stop → Later start item stop)
    (row : Row At start items stop) : Row Later start items stop := by
  induction row with
  | nil place => exact .nil place
  | cons first rest ih => exact .cons (weaker _ _ _ first) ih

/-- Whatever is in a row stands somewhere. -/
theorem Row.exists_of_mem
    (row : Row At start items stop) (member : item ∈ items) :
    ∃ place next, At place item next := by
  induction row with
  | nil => cases member
  | cons first rest ih =>
      rcases List.mem_cons.mp member with rfl | later
      · exact ⟨_, _, first⟩
      · exact ih later

/-- A row of items that take at least so many octets takes as many for each. -/
theorem Row.bounds
    {size limit : Nat}
    (each :
      ∀ start item stop, At start item stop →
        start + size ≤ stop ∧ stop ≤ limit)
    (row : Row At start items stop) (within : start ≤ limit) :
    start + size * items.length ≤ stop ∧ stop ≤ limit := by
  induction row with
  | nil place => exact ⟨Nat.le_refl _, within⟩
  | cons first rest ih =>
      obtain ⟨here, inside⟩ := each _ _ _ first
      obtain ⟨there, ends⟩ := ih inside
      rw [List.length_cons, Nat.mul_succ]
      exact ⟨by omega, ends⟩

/-- A reader that reads one item reads as many in a row as it is told to. -/
theorem readMany?_at_iff
    {octets : Octets} {read : Cursor → Option (α × Cursor)}
    (reads :
      ∀ start item after,
        read (.at octets start) = some (item, after) ↔
          ∃ stop, At start item stop ∧ after = .at octets stop)
    {count : Nat} {after : Cursor} :
    readMany? read count (.at octets start) = some (items, after) ↔
      items.length = count ∧
        ∃ stop, Row At start items stop ∧ after = .at octets stop := by
  induction count generalizing start items with
  | zero =>
      rw [readMany?, Option.some.injEq, Prod.mk.injEq]
      constructor
      · rintro ⟨rfl, rfl⟩
        exact ⟨rfl, start, .nil start, rfl⟩
      · rintro ⟨none, stop, row, rfl⟩
        rw [List.length_eq_zero_iff] at none
        subst none
        cases row
        exact ⟨rfl, rfl⟩
  | succ count ih =>
      simp only [readMany?, Option.bind_eq_bind, Option.bind_eq_some_iff,
        Prod.exists, Option.pure_def, Option.some.injEq, Prod.mk.injEq,
        reads]
      constructor
      · rintro ⟨item, _, ⟨next, first, rfl⟩, later, _, read, rfl, rfl⟩
        obtain ⟨counted, stop, rest, rfl⟩ := ih.mp read
        exact ⟨congrArg (· + 1) counted, stop, .cons first rest, rfl⟩
      · rintro ⟨counted, stop, row, rfl⟩
        cases row with
        | nil => cases counted
        | cons first rest =>
            exact ⟨_, _, ⟨_, first, rfl⟩, _, _,
              ih.mpr ⟨Nat.succ.inj counted, stop, rest, rfl⟩, rfl, rfl⟩

end

/-! ## Messages -/

/-- A question at a place, and the place behind it. -/
inductive QuestionAt (octets : Octets) (start : Nat) :
    Question → Nat → Prop where
  | intro
      {question : Question} {body : Nat}
      (name : NameAt octets start question.name body)
      (code : WordAt octets body question.code)
      (group : WordAt octets (body + 2) question.group) :
      QuestionAt octets start question (body + 4)

variable {library : Library} {octets : Octets} {message : Message}

theorem QuestionAt.append
    {start stop : Nat} {question : Question}
    (stands : QuestionAt octets start question stop)
    (following : Octets) :
    QuestionAt (octets ++ following) start question stop := by
  cases stands with
  | intro name code group =>
      exact .intro (name.append following) (code.append following)
        (group.append following)

/-- A question takes at least five octets, and none behind the end. -/
theorem QuestionAt.bounds
    {start stop : Nat} {question : Question}
    (stands : QuestionAt octets start question stop) :
    start + 5 ≤ stop ∧ stop ≤ octets.length := by
  cases stands with
  | intro name code group =>
      have named := name.bounds.1
      have ends := group.le_length
      omega

theorem Cursor.readQuestion?_at_iff
    {start : Nat} {question : Question} {after : Cursor} :
    (Cursor.at octets start).readQuestion? octets =
        some (question, after) ↔
      ∃ stop, QuestionAt octets start question stop ∧
        after = .at octets stop := by
  simp only [readQuestion?, Option.bind_eq_bind, Option.bind_eq_some_iff,
    Prod.exists, readName?_at_iff]
  constructor
  · rintro ⟨_, _, ⟨body, name, rfl⟩, _, _, codeRead, _, _, groupRead, same⟩
    obtain ⟨code, rfl⟩ := readWord?_at_iff.mp codeRead
    obtain ⟨group, rfl⟩ := readWord?_at_iff.mp groupRead
    cases same
    exact ⟨_, .intro name code group, rfl⟩
  · rintro ⟨_, stands, rfl⟩
    cases stands with
    | intro name code group =>
        exact ⟨_, _, ⟨_, name, rfl⟩,
          _, _, readWord?_at_iff.mpr ⟨code, rfl⟩,
          _, _, readWord?_at_iff.mpr ⟨group, rfl⟩, rfl⟩

/--
Octets that are laid out as a message; what comes behind the last section is
left open.
-/
structure IsLaidOut
    (library : Library) (octets : Octets) (message : Message) : Prop where
  id : WordAt octets 0 message.id
  flags : WordAt octets 2 message.flags
  questionCount : CountAt octets 4 message.questions.length
  answerCount : CountAt octets 6 message.answers.length
  authorityCount : CountAt octets 8 message.authorities.length
  additionalCount : CountAt octets 10 message.additionals.length
  sections :
    ∃ answersAt authoritiesAt additionalsAt stop,
      Row (QuestionAt octets) 12 message.questions answersAt ∧
        Row (RecordAt library octets) answersAt message.answers authoritiesAt ∧
        Row (RecordAt library octets) authoritiesAt message.authorities
          additionalsAt ∧
        Row (RecordAt library octets) additionalsAt message.additionals stop
  /-- At most one of the additional records describes the transport. -/
  oneTransport : message.additionals.countP Record.isTransport ≤ 1

theorem IsLaidOut.mono
    {other : Library} {longer : Octets}
    (carries : Carries library octets other longer)
    (laidOut : IsLaidOut library octets message) :
    IsLaidOut other longer message := by
  obtain ⟨following, rfl⟩ := carries.isPrefix
  obtain ⟨_, _, _, _, questions, answers, authorities, additionals⟩ :=
    laidOut.sections
  have kept (start : Nat) (record : Record) (stop : Nat)
      (stands : RecordAt library octets start record stop) :
      RecordAt other (octets ++ following) start record stop :=
    stands.mono carries
  exact {
    id := laidOut.id.append following
    flags := laidOut.flags.append following
    questionCount := laidOut.questionCount.append following
    answerCount := laidOut.answerCount.append following
    authorityCount := laidOut.authorityCount.append following
    additionalCount := laidOut.additionalCount.append following
    sections :=
      ⟨_, _, _, _,
        questions.mono fun _ _ _ stands => stands.append following,
        answers.mono kept, authorities.mono kept, additionals.mono kept⟩
    oneTransport := laidOut.oneTransport }

/-- A header cannot announce more than there is room for. -/
theorem IsLaidOut.length_le (laidOut : IsLaidOut library octets message) :
    12 + 5 * message.questions.length +
        11 * (message.answers.length + message.authorities.length +
          message.additionals.length) ≤
      octets.length := by
  obtain ⟨_, _, _, _, questions, answers, authorities, additionals⟩ :=
    laidOut.sections
  have record (start : Nat) (record : Record) (stop : Nat)
      (stands : RecordAt library octets start record stop) :
      start + 11 ≤ stop ∧ stop ≤ octets.length :=
    stands.bounds
  have header : 12 ≤ octets.length := laidOut.additionalCount.le_length
  have first := questions.bounds (fun _ _ _ => QuestionAt.bounds) header
  have second := answers.bounds record first.2
  have third := authorities.bounds record second.2
  have fourth := additionals.bounds record third.2
  omega

theorem readQuestions?_at_iff
    {start count : Nat} {questions : List Question} {after : Cursor} :
    readMany? (·.readQuestion? octets) count (.at octets start) =
        some (questions, after) ↔
      questions.length = count ∧
        ∃ stop, Row (QuestionAt octets) start questions stop ∧
          after = .at octets stop :=
  readMany?_at_iff fun _ _ _ => Cursor.readQuestion?_at_iff

theorem readRecords?_at_iff
    {start count : Nat} {records : List Record} {after : Cursor} :
    readMany? (·.readRecord? octets library) count (.at octets start) =
        some (records, after) ↔
      records.length = count ∧
        ∃ stop, Row (RecordAt library octets) start records stop ∧
          after = .at octets stop :=
  readMany?_at_iff fun _ _ _ => Cursor.readRecord?_at_iff

/-- The messages that are decoded are those that are laid out in the octets. -/
theorem Message.decode?_eq_some_iff :
    Message.decode? octets library = some message ↔
      IsLaidOut library octets message := by
  simp only [Message.decode?, Option.bind_eq_bind, Option.bind_eq_some_iff,
    Prod.exists, Cursor.readWord?_at_iff]
  constructor
  · rintro ⟨id, _, ⟨idAt, rfl⟩, flags, _, flagsRead, questionCount, _,
      questionCountRead, answerCount, _, answerCountRead, authorityCount, _,
      authorityCountRead, additionalCount, _, additionalCountRead,
      questions, _, questionsRead, answers, _, answersRead, authorities, _,
      authoritiesRead, additionals, _, additionalsRead, read⟩
    obtain ⟨flagsAt, rfl⟩ := Cursor.readWord?_at_iff.mp flagsRead
    obtain ⟨questionCountAt, rfl⟩ :=
      Cursor.readWord?_at_iff.mp questionCountRead
    obtain ⟨answerCountAt, rfl⟩ := Cursor.readWord?_at_iff.mp answerCountRead
    obtain ⟨authorityCountAt, rfl⟩ :=
      Cursor.readWord?_at_iff.mp authorityCountRead
    obtain ⟨additionalCountAt, rfl⟩ :=
      Cursor.readWord?_at_iff.mp additionalCountRead
    obtain ⟨questionsCounted, _, questionRow, rfl⟩ :=
      readQuestions?_at_iff.mp questionsRead
    obtain ⟨answersCounted, _, answerRow, rfl⟩ :=
      readRecords?_at_iff.mp answersRead
    obtain ⟨authoritiesCounted, _, authorityRow, rfl⟩ :=
      readRecords?_at_iff.mp authoritiesRead
    obtain ⟨additionalsCounted, _, additionalRow, rfl⟩ :=
      readRecords?_at_iff.mp additionalsRead
    split at read
    · cases read
    · next oneTransport =>
      cases read
      exact {
        id := idAt
        flags := flagsAt
        questionCount := ⟨_, questionCountAt, questionsCounted.symm⟩
        answerCount := ⟨_, answerCountAt, answersCounted.symm⟩
        authorityCount := ⟨_, authorityCountAt, authoritiesCounted.symm⟩
        additionalCount := ⟨_, additionalCountAt, additionalsCounted.symm⟩
        sections :=
          ⟨_, _, _, _, questionRow, answerRow, authorityRow, additionalRow⟩
        oneTransport := Nat.le_of_not_lt oneTransport }
  · intro laidOut
    obtain ⟨_, questionCountAt, questionsCounted⟩ := laidOut.questionCount
    obtain ⟨_, answerCountAt, answersCounted⟩ := laidOut.answerCount
    obtain ⟨_, authorityCountAt, authoritiesCounted⟩ :=
      laidOut.authorityCount
    obtain ⟨_, additionalCountAt, additionalsCounted⟩ :=
      laidOut.additionalCount
    obtain ⟨_, _, _, _, questionRow, answerRow, authorityRow,
      additionalRow⟩ := laidOut.sections
    refine ⟨message.id, _, ⟨laidOut.id, rfl⟩,
      message.flags, _, Cursor.readWord?_at_iff.mpr ⟨laidOut.flags, rfl⟩,
      _, _, Cursor.readWord?_at_iff.mpr ⟨questionCountAt, rfl⟩,
      _, _, Cursor.readWord?_at_iff.mpr ⟨answerCountAt, rfl⟩,
      _, _, Cursor.readWord?_at_iff.mpr ⟨authorityCountAt, rfl⟩,
      _, _, Cursor.readWord?_at_iff.mpr ⟨additionalCountAt, rfl⟩,
      _, _, readQuestions?_at_iff.mpr
        ⟨questionsCounted.symm, _, questionRow, rfl⟩,
      _, _, readRecords?_at_iff.mpr ⟨answersCounted.symm, _, answerRow, rfl⟩,
      _, _, readRecords?_at_iff.mpr
        ⟨authoritiesCounted.symm, _, authorityRow, rfl⟩,
      _, _, readRecords?_at_iff.mpr
        ⟨additionalsCounted.symm, _, additionalRow, rfl⟩, ?_⟩
    rw [if_neg (Nat.not_lt_of_le laidOut.oneTransport)]
    rfl

/-! ## Answers -/

/-- The texts of the answer records, all of them and no others, in order. -/
structure Renders
    (library : Library) (octets : Octets) (message : Message)
    (texts : List String) : Prop where
  /-- There are as many as the header announces answers. -/
  counted : CountAt octets 6 texts.length
  ascending : texts.Pairwise (· ≤ ·)
  rendered :
    ∃ shown,
      List.Forall₂ (fun record text => record.text? library = some text)
        message.answers shown ∧
      texts.Perm shown

theorem IsLaidOut.answerTexts?_eq_none_iff
    (laidOut : IsLaidOut library octets message) :
    message.answerTexts? library = none ↔
      ∃ record ∈ message.answers,
        record.code = 41 ∧ record.data ≠ .absent := by
  obtain ⟨_, _, _, _, _, answers, _, _⟩ := laidOut.sections
  rw [Message.answerTexts?_eq_none_iff]
  refine exists_congr fun record => and_congr_right fun member => ?_
  obtain ⟨_, _, stands⟩ := answers.exists_of_mem member
  exact stands.eq_options_iff

theorem IsLaidOut.renders
    (laidOut : IsLaidOut library octets message) {texts : List String}
    (shown : message.answerTexts? library = some texts) :
    Renders library octets message texts := by
  obtain ⟨unsorted, mapped, rfl⟩ := Option.map_eq_some_iff.mp shown
  have paired := mapM_text?_forall₂ mapped
  exact {
    counted := by
      rw [length_sorted, ← paired.length_eq]
      exact laidOut.answerCount
    ascending := pairwise_sorted unsorted
    rendered := ⟨unsorted, paired, sorted_perm unsorted⟩ }

/--
Decoding never follows a name for long, and it finds exactly the messages that
are laid out in the octets, whose counts cannot exceed what there is room for.
The answers of such a message are the texts of the records in its answer
section, one for each that the header announces, in order of their code points;
only a transport record with data among them has no text.  Octets behind the
message change nothing.

All this holds for every library, and a message that is read without one is
read alike with any.
-/
theorem answer_section_exact (library : Library) (octets : Octets) :
    (∀ place parts last,
      NameReading.Steps octets parts (.ofPlace place) last →
        parts ≤ place + 127) ∧
      (∀ message,
        Message.decode? octets library = some message ↔
          IsLaidOut library octets message) ∧
      (∀ message, Message.decode? octets library = some message →
        12 + 5 * message.questions.length +
            11 * (message.answers.length + message.authorities.length +
              message.additionals.length) ≤
          octets.length ∧
        (message.answerTexts? library = none ↔
          ∃ record ∈ message.answers,
            record.code = 41 ∧ record.data ≠ .absent) ∧
        (∀ texts, message.answerTexts? library = some texts →
          Renders library octets message texts) ∧
        ∀ following,
          Message.decode? (octets ++ following) library = some message) ∧
      ∀ message, Message.decode? octets = some message →
        Message.decode? octets library = some message := by
  refine ⟨fun _ _ _ => NameReading.parts_le_of_steps,
    fun _ => Message.decode?_eq_some_iff, ?_, ?_⟩
  · intro message decoded
    have laidOut := Message.decode?_eq_some_iff.mp decoded
    refine ⟨laidOut.length_le, laidOut.answerTexts?_eq_none_iff,
      fun _ => laidOut.renders, ?_⟩
    exact fun following =>
      Message.decode?_eq_some_iff.mpr
        (laidOut.mono (carries_append library octets following))
  · intro message decoded
    have laidOut := Message.decode?_eq_some_iff.mp decoded
    exact Message.decode?_eq_some_iff.mpr
      (laidOut.mono (carries_plain library octets))

/-- The label `xn--bcher-kva`. -/
def booksLabel : Label :=
  ⟨[0x78, 0x6e, 0x2d, 0x2d, 0x62, 0x63, 0x68, 0x65, 0x72, 0x2d, 0x6b, 0x76,
    0x61], List.cons_ne_nil _ _, by decide⟩

/-- The processor and the system of a host, with a space between them. -/
def hostCharacters? (run : Octets) : Option (List Char) :=
  match countedStrings? run with
  | some [processor, system] =>
    some (spaced [Utf8.decode processor, Utf8.decode system])
  | _ => none

/-- A library that reads what there is about hosts, and knows one label. -/
def hostLibrary : Library where
  structured? message code length place :=
    if code = 13 then
      ((Cursor.at message place).readOctets? length).bind fun (run, _) =>
        (hostCharacters? run).map (·, length)
    else none
  structured?_append := by
    intro message code length place text _ read following
    split at read
    · next host =>
      obtain ⟨⟨run, after⟩, ran, shown⟩ := Option.bind_eq_some_iff.mp read
      obtain ⟨holds, filled, _⟩ := Cursor.readOctets?_at_iff.mp ran
      have again :=
        Cursor.readOctets?_at_iff.mpr ⟨holds.append following, filled, rfl⟩
      rw [if_pos host, again]
      exact shown
    · cases read
  unicode? octets :=
    if octets = booksLabel.octets then some "bücher".toList else none

/--
A response to a question about `a`: its processor and system, and an alias in
Unicode.  The name is written out in the question only.
-/
def hostWire : Octets :=
  [0, 7, 0x81, 0x80, 0, 1, 0, 2, 0, 0, 0, 0,
    1, 0x61, 0, 0, 1, 0, 1,
    0xc0, 12, 0, 13, 0, 1, 0, 0, 0, 60, 0, 9,
    2, 0x50, 0x43, 5, 0x4c, 0x69, 0x6e, 0x75, 0x78,
    0xc0, 12, 0, 5, 0, 1, 0, 0, 0, 60, 0, 15,
    13, 0x78, 0x6e, 0x2d, 0x2d, 0x62, 0x63, 0x68, 0x65, 0x72, 0x2d, 0x6b,
    0x76, 0x61, 0]

/-- The label `a`. -/
def hostLabel : Label :=
  ⟨[0x61], List.cons_ne_nil _ _, by decide⟩

/-- The name `a.`. -/
def hostName : Name :=
  ⟨[hostLabel], by decide⟩

/-- The message of `hostWire`. -/
def hostMessage : Message where
  id := 7
  flags := 0x8180
  questions := [⟨hostName, 1, 1⟩]
  answers :=
    [⟨hostName, 13, .structured "PC Linux".toList⟩,
      ⟨hostName, 5, .cname ⟨[booksLabel], by decide⟩⟩]
  authorities := []
  additionals := []

theorem answer_section_exact_host :
    (∃ last, NameReading.Steps hostWire 2 (.ofPlace 19) last ∧
      2 ≤ 19 + 127) ∧
      Message.decode? hostWire hostLibrary = some hostMessage ∧
      IsLaidOut hostLibrary hostWire hostMessage ∧
      hostMessage.answerTexts? hostLibrary = some ["PC Linux", "bücher."] ∧
      Renders hostLibrary hostWire hostMessage ["PC Linux", "bücher."] ∧
      Message.decode? (hostWire ++ [0xff]) hostLibrary =
        some hostMessage := by
  obtain ⟨short, exact, all, _⟩ := answer_section_exact hostLibrary hostWire
  have decoded :
      Message.decode? hostWire hostLibrary = some hostMessage := by
    cbv
  have shown :
      hostMessage.answerTexts? hostLibrary =
        some ["PC Linux", "bücher."] := by
    have texts :
        hostMessage.answers.mapM (Record.text? · hostLibrary) =
          some ["PC Linux", "bücher."] := by
      decide +kernel
    rw [Message.answerTexts?, texts, Option.map_some, sorted,
      List.mergeSort_of_pairwise (by decide)]
  -- The owner of the answer is a pointer to the question, which has one label.
  have jump :
      NameReading.Step hostWire (.ofPlace 19)
        ⟨12, some 19, .root, 12, some 21⟩ :=
    @NameReading.Step.pointer hostWire (.ofPlace 19) 0xc0 12
      ⟨by decide, rfl⟩ rfl rfl (by decide)
  have label :
      NameReading.Step hostWire ⟨12, some 19, .root, 12, some 21⟩
        ⟨12, some 19, hostName, 14, some 21⟩ :=
    @NameReading.Step.label hostWire _ 1 hostLabel hostName
      ⟨by decide, rfl⟩ rfl ⟨_, rfl⟩ rfl
  have steps := NameReading.Steps.head jump (.head label (.refl _))
  obtain ⟨_, _, renders, extended⟩ := all hostMessage decoded
  exact ⟨⟨_, steps, short 19 2 _ steps⟩, decoded,
    (exact hostMessage).mp decoded, shown, renders _ shown, extended _⟩

end ResolverGrader.Dns
