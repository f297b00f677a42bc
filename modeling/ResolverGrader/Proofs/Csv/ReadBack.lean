import ResolverGrader.Csv

/-!
# Reading the table of verdicts back

A reader of comma-separated records goes through a text character by character.
Outside of quotation marks a comma ends a field and a line feed ends a record.
Inside of them everything belongs to the field, and a quotation mark that is
written twice stands for one.

Some characters are stray where they stand: a quotation mark or a carriage
return in a field that does not begin with a quotation mark, and text after the
mark that closes a field.  Readers disagree about them: some refuse the text,
some keep the character, some take a carriage return for a part of the line
ending.  So this is a parameter of the reader, and the table of verdicts is
read back exactly whatever it is.
-/

namespace ResolverGrader.Csv

/-! ## Readers -/

/-- Where a reader stands. -/
inductive Place where
  | fieldStart
  | bare
  | quoted
  /--
  After a quotation mark in a quoted field, which closes the field or is the
  first of two.
  -/
  | marked
  deriving DecidableEq, Repr

/--
What has been read: whole records, whole fields of the next one, and a part of
a field.
-/
structure Progress where
  records : List (List String)
  fields : List String
  field : List Char
  place : Place
  deriving DecidableEq, Repr

namespace Progress

/-- Before the first character. -/
def start : Progress := ⟨[], [], [], .fieldStart⟩

/-- The field is whole. -/
def endField (progress : Progress) : Progress where
  records := progress.records
  fields := progress.fields ++ [String.ofList progress.field]
  field := []
  place := .fieldStart

/-- The field is whole, and so is the record. -/
def endRecord (progress : Progress) : Progress where
  records := progress.records ++ [progress.endField.fields]
  fields := []
  field := []
  place := .fieldStart

/-- One more character of the field. -/
def keep (progress : Progress) (character : Char) (place : Place) :
    Progress :=
  { progress with field := progress.field ++ [character], place }

/-- How a reader goes on at a character, given what it makes of a stray one. -/
def read
    (stray : Progress → Char → Option Progress)
    (progress : Progress) (character : Char) : Option Progress :=
  match progress.place, character with
  | .quoted, '"' => some { progress with place := .marked }
  | .quoted, _ => some (progress.keep character .quoted)
  | _, ',' => some progress.endField
  | _, '\n' => some progress.endRecord
  | .fieldStart, '"' => some { progress with place := .quoted }
  | .marked, '"' => some (progress.keep '"' .quoted)
  | .marked, _ => stray progress character
  | _, '"' => stray progress character
  | _, '\r' => stray progress character
  | _, _ => some (progress.keep character .bare)

/--
The records when the text is over.  The last line ending may be missing, but no
mark.
-/
def finish? (progress : Progress) : Option (List (List String)) :=
  if progress.place = .quoted then none
  else if progress.place = .fieldStart ∧ progress.fields = [] then
    some progress.records
  else some progress.endRecord.records

end Progress

/-- The records in a text, given what becomes of stray characters. -/
def read?
    (stray : Progress → Char → Option Progress) (text : List Char) :
    Option (List (List String)) :=
  (text.foldlM (Progress.read stray) .start).bind Progress.finish?

/-! ## Reading what was written -/

section

variable (stray : Progress → Char → Option Progress)
variable (records : List (List String)) (fields : List String)

theorem read_quoted
    {character : Char} (no_mark : character ≠ '"') (before : List Char) :
    Progress.read stray ⟨records, fields, before, .quoted⟩ character =
      some ⟨records, fields, before ++ [character], .quoted⟩ := by
  unfold Progress.read
  split <;> simp_all [Progress.keep]

theorem read_bare
    {character : Char} (plain : forcesQuotes character = false)
    {place : Place} (outside : place = .fieldStart ∨ place = .bare)
    (before : List Char) :
    Progress.read stray ⟨records, fields, before, place⟩ character =
      some ⟨records, fields, before ++ [character], .bare⟩ := by
  unfold Progress.read
  unfold forcesQuotes at plain
  rcases outside with rfl | rfl
  · split <;> simp_all [Progress.keep]
  · split <;> simp_all [Progress.keep]

theorem foldlM_doubleQuotes (before field : List Char) :
    (doubleQuotes field).foldlM (Progress.read stray)
        ⟨records, fields, before, .quoted⟩ =
      some ⟨records, fields, before ++ field, .quoted⟩ := by
  induction field generalizing before with
  | nil => simp [doubleQuotes]
  | cons character rest ih =>
      have later := ih (before ++ [character])
      unfold doubleQuotes at later ⊢
      rw [List.flatMap_cons, List.foldlM_append]
      by_cases mark : character = '"'
      · subst mark
        simpa [Progress.read, Progress.keep] using later
      · simpa [mark, read_quoted] using later

/-- A field without special characters is kept as it is. -/
theorem foldlM_plain
    {field : List Char} (plain : field.any forcesQuotes = false)
    (before : List Char) {place : Place}
    (outside : place = .fieldStart ∨ place = .bare) :
    ∃ last, (last = .fieldStart ∨ last = .bare) ∧
      field.foldlM (Progress.read stray)
          ⟨records, fields, before, place⟩ =
        some ⟨records, fields, before ++ field, last⟩ := by
  induction field generalizing before place with
  | nil => exact ⟨place, outside, by simp⟩
  | cons character rest ih =>
      rw [List.any_cons, Bool.or_eq_false_iff] at plain
      obtain ⟨last, ends, kept⟩ :=
        ih plain.2 (before ++ [character]) (.inr rfl)
      refine ⟨last, ends, ?_⟩
      rw [List.foldlM_cons, read_bare stray records fields plain.1 outside]
      simpa using kept

/-- A written field is read to its end, with or without quotation marks. -/
theorem foldlM_fieldChars (field : List Char) :
    ∃ last, last ≠ .quoted ∧
      (fieldChars field).foldlM (Progress.read stray)
          ⟨records, fields, [], .fieldStart⟩ =
        some ⟨records, fields, field, last⟩ := by
  unfold fieldChars
  by_cases special : field.any forcesQuotes = true
  · refine ⟨.marked, by decide, ?_⟩
    have inside := foldlM_doubleQuotes stray records fields [] field
    rw [if_pos special, List.cons_append, List.foldlM_cons]
    simp [Progress.read, List.foldlM_append, inside]
  · have plain : field.any forcesQuotes = false := by simpa using special
    obtain ⟨last, ends, kept⟩ :=
      foldlM_plain stray records fields plain [] (.inl rfl)
    refine ⟨last, ?_, by rw [if_neg special]; exact kept⟩
    rcases ends with rfl | rfl <;> decide

theorem read_comma
    {place : Place} (outside : place ≠ .quoted) (field : List Char) :
    Progress.read stray ⟨records, fields, field, place⟩ ',' =
      some ⟨records, fields ++ [String.ofList field], [], .fieldStart⟩ := by
  cases place with
  | quoted => exact absurd rfl outside
  | _ => rfl

theorem read_newline
    {place : Place} (outside : place ≠ .quoted) (field : List Char) :
    Progress.read stray ⟨records, fields, field, place⟩ '\n' =
      some ⟨records ++ [fields ++ [String.ofList field]], [], [],
        .fieldStart⟩ := by
  cases place with
  | quoted => exact absurd rfl outside
  | _ => rfl

/--
A written record is read as its fields, after those that have been read before.
-/
theorem foldlM_recordChars
    {record : List String} (some_field : record ≠ []) :
    (recordChars record).foldlM (Progress.read stray)
        ⟨records, fields, [], .fieldStart⟩ =
      some ⟨records ++ [fields ++ record], [], [], .fieldStart⟩ := by
  induction record generalizing fields with
  | nil => exact absurd rfl some_field
  | cons field rest ih =>
      obtain ⟨last, outside, kept⟩ :=
        foldlM_fieldChars stray records fields field.toList
      by_cases alone : rest = []
      · subst alone
        unfold recordChars
        rw [List.map_singleton, List.intercalate_singleton,
          List.foldlM_append, kept]
        simp [read_newline stray records fields outside]
      · have later := ih (fields ++ [field]) alone
        unfold recordChars at later ⊢
        have others :
            rest.map (fun field => fieldChars field.toList) ≠ [] :=
          fun none => alone (List.map_eq_nil_iff.mp none)
        rw [List.map_cons, List.intercalate_cons_of_ne_nil others,
          List.append_assoc, List.append_assoc, List.foldlM_append, kept]
        simpa [read_comma stray records fields outside] using later

/-- Written records are read one after the other. -/
theorem foldlM_flatMap_recordChars
    {written : List (List String)}
    (some_field : ∀ record ∈ written, record ≠ []) :
    (written.flatMap recordChars).foldlM (Progress.read stray)
        ⟨records, [], [], .fieldStart⟩ =
      some ⟨records ++ written, [], [], .fieldStart⟩ := by
  induction written generalizing records with
  | nil => simp
  | cons record rest ih =>
      obtain ⟨here, later⟩ := List.forall_mem_cons.mp some_field
      have read_rest := ih (records ++ [record]) later
      rw [List.flatMap_cons, List.foldlM_append,
        foldlM_recordChars stray records [] here]
      simpa using read_rest

/-- Written records are read back, whatever becomes of stray characters. -/
theorem read?_flatMap_recordChars
    {written : List (List String)}
    (some_field : ∀ record ∈ written, record ≠ []) :
    read? stray (written.flatMap recordChars) = some written := by
  unfold read? Progress.start
  rw [foldlM_flatMap_recordChars stray [] some_field]
  rfl

example :
    read? (fun _ _ => none) (recordChars ["a,b", "", "c\"\r\n"]) =
      some [["a,b", "", "c\"\r\n"]] := by
  decide

end

theorem ne_nil_of_mem_records
    {ledger : Ledger Float} {record : List String}
    (among : record ∈ records ledger) : record ≠ [] := by
  rcases List.mem_cons.mp among with rfl | ofVerdict
  · exact List.cons_ne_nil _ _
  · obtain ⟨score, _, inside⟩ := List.mem_flatMap.mp ofVerdict
    obtain ⟨verdict, _, rfl⟩ := List.mem_map.mp inside
    exact List.cons_ne_nil _ _

/-- The records of a ledger are read back from its text. -/
theorem read?_text
    (stray : Progress → Char → Option Progress) (ledger : Ledger Float) :
    read? stray (text ledger).toList = some (records ledger) := by
  unfold text
  rw [String.toList_ofList]
  exact read?_flatMap_recordChars stray
    fun _ among => ne_nil_of_mem_records among

/--
The table of verdicts is read back exactly, whatever the reader makes of stray
characters: first the names of the fields, and then a record of six fields for
each verdict, in the order of the ledger.
-/
theorem text_reads_back
    (stray : Progress → Char → Option Progress) (ledger : Ledger Float) :
    read? stray (text ledger).toList =
      some
        (["category", "qname", "passed", "points", "points_possible",
            "reason"] ::
          ledger.categories.flatMap fun score =>
            score.verdicts.map fun verdict =>
              [score.category.label,
                verdict.queryName.getD "",
                if verdict.outcome.isPass then "true" else "false",
                Decimal.twoPlaces verdict.points,
                Decimal.twoPlaces verdict.pointsPossible,
                verdict.outcome.reason.getD ""]) := by
  rw [read?_text]
  rfl

end ResolverGrader.Csv
