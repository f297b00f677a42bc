import ResolverGrader.Proofs.Text.Blank
import ResolverGrader.Proofs.Text.Lines
import ResolverGrader.QueryNames

/-!
# Texts that list names

A text lists names one on a line.  A line may be indented and have white space
after the name; it lists nothing if there is nothing to see on it, or if what
is seen first is a `#`.

`Lists` says which names a text lists, line by line, and `lists_iff` that these
are the names that are read from it.  A carriage return before a line feed is
white space like any other, and it makes no difference whether the last line is
ended.
-/

namespace ResolverGrader.QueryNames

open ResolverGrader.Text

/-! ## What texts list -/

/-- A name that a line can list. -/
structure IsListable (name : String) : Prop where
  nonempty : name ≠ ""
  trimmed : IsTrimmed name.toList
  noComment : name.toList.head? ≠ some '#'
  oneLine : '\n' ∉ name.toList

/-- The kinds of lines, and what a line of each kind lists. -/
inductive LineLists : List Char → List String → Prop where
  | blank
      {line : List Char}
      (unseen : ∀ character ∈ line, isBlank character = true) :
      LineLists line []
  | comment
      {before after : List Char}
      (blankBefore : ∀ character ∈ before, isBlank character = true) :
      LineLists (before ++ '#' :: after) []
  | name
      {before after : List Char} {name : String}
      (blankBefore : ∀ character ∈ before, isBlank character = true)
      (blankAfter : ∀ character ∈ after, isBlank character = true)
      (listable : IsListable name) :
      LineLists (before ++ name.toList ++ after) [name]

/--
The names that a text lists: those of its first line, and then those of the
text after it.
-/
inductive Lists : List Char → List String → Prop where
  | last
      {line : List Char} {names : List String}
      (oneLine : '\n' ∉ line) (lists : LineLists line names) :
      Lists line names
  | ended
      {line rest : List Char} {here later : List String}
      (oneLine : '\n' ∉ line) (lists : LineLists line here)
      (more : Lists rest later) :
      Lists (line ++ '\n' :: rest) (here ++ later)

theorem LineLists.listable
    {line : List Char} {names : List String}
    (lists : LineLists line names) :
    ∀ name ∈ names, IsListable name := by
  cases lists with
  | blank unseen => exact List.forall_mem_nil _
  | comment blankBefore => exact List.forall_mem_nil _
  | name blankBefore blankAfter listable =>
      exact List.forall_mem_singleton.mpr listable

theorem Lists.listable
    {text : List Char} {names : List String} (lists : Lists text names) :
    ∀ name ∈ names, IsListable name := by
  induction lists with
  | last oneLine lists => exact lists.listable
  | ended oneLine lists more ih =>
      exact List.forall_mem_append.mpr ⟨lists.listable, ih⟩

/-- A line feed between two texts divides what they list. -/
theorem Lists.append
    {left right : List Char} {here later : List String}
    (first : Lists left here) (second : Lists right later) :
    Lists (left ++ '\n' :: right) (here ++ later) := by
  induction first with
  | last oneLine lists => exact .ended oneLine lists second
  | ended oneLine lists more ih =>
      rw [List.append_assoc, List.append_assoc, List.cons_append]
      exact .ended oneLine lists ih

/-! ## Every text lists something -/

theorem isName_iff (text : List Char) :
    isName text = true ↔ text ≠ [] ∧ text.head? ≠ some '#' := by
  simp [isName]

theorem isListable_of_isName_trim
    {line : List Char} (oneLine : '\n' ∉ line)
    (named : isName (trim line) = true) :
    IsListable (String.ofList (trim line)) := by
  obtain ⟨nonempty, noComment⟩ := (isName_iff _).mp named
  constructor
  · simpa using nonempty
  · simpa using isTrimmed_trim line
  · simpa using noComment
  · rw [String.toList_ofList]
    exact fun inside => oneLine (trim_subset line inside)

/-- A line that names nothing is blank or a comment. -/
theorem exists_lineLists
    {line : List Char} (oneLine : '\n' ∉ line) :
    ∃ names, LineLists line names := by
  obtain ⟨before, after, blankBefore, blankAfter, whole⟩ :=
    exists_around_trim line
  by_cases named : isName (trim line) = true
  · have listable := isListable_of_isName_trim oneLine named
    have lists := LineLists.name blankBefore blankAfter listable
    rw [String.toList_ofList, ← whole] at lists
    exact ⟨_, lists⟩
  · refine ⟨[], ?_⟩
    cases seen : trim line with
    | nil =>
        refine .blank ?_
        rw [whole, seen, List.append_nil]
        exact List.forall_mem_append.mpr ⟨blankBefore, blankAfter⟩
    | cons first rest =>
        have comment : first = '#' := by
          by_contra other
          exact named ((isName_iff _).mpr (by simp [seen, other]))
        rw [whole, seen, comment, List.append_assoc, List.cons_append]
        exact .comment blankBefore

theorem exists_lists (text : List Char) :
    ∃ names, Lists text names := by
  by_cases more : '\n' ∈ text
  · obtain ⟨line, rest, whole, oneLine⟩ := List.eq_append_cons_of_mem more
    obtain ⟨here, lists⟩ := exists_lineLists oneLine
    have shorter : rest.length < text.length := by
      rw [whole, List.length_append, List.length_cons]
      omega
    obtain ⟨later, others⟩ := exists_lists rest
    exact ⟨here ++ later, whole ▸ .ended oneLine lists others⟩
  · obtain ⟨names, lists⟩ := exists_lineLists more
    exact ⟨names, .last more lists⟩
termination_by text.length

/-! ## Reading what a text lists -/

/-- The names that are read from lines. -/
def ofLines (cut : List (List Char)) : List String :=
  ((cut.map trim).filter isName).map String.ofList

theorem ofLines_append (left right : List (List Char)) :
    ofLines (left ++ right) = ofLines left ++ ofLines right := by
  simp [ofLines]

theorem ofLines_singleton (line : List Char) :
    ofLines [line] =
      if isName (trim line) then [String.ofList (trim line)] else [] := by
  unfold ofLines
  rw [List.map_singleton, List.filter_singleton]
  cases isName (trim line) with
  | true => rfl
  | false => rfl

theorem ofLines_of_lineLists
    {line : List Char} {names : List String}
    (lists : LineLists line names) : ofLines [line] = names := by
  rw [ofLines_singleton]
  cases lists with
  | blank unseen =>
      apply if_neg
      rw [isName_iff]
      rintro ⟨something, _⟩
      obtain ⟨character, member, visible⟩ :=
        (trim_ne_nil_iff line).mp something
      simp [unseen character member] at visible
  | @comment before after blankBefore =>
      apply if_neg
      have seen : trim (before ++ '#' :: after) = trim ('#' :: after) := by
        have around :=
          trim_append_append_of_blank blankBefore
            (List.forall_mem_nil _) ('#' :: after)
        rwa [List.append_nil] at around
      rw [isName_iff, seen, head?_trim_of_visible (by decide)]
      exact fun named => named.2 rfl
  | @name before after name blankBefore blankAfter listable =>
      have seen : trim (before ++ name.toList ++ after) = name.toList := by
        rw [trim_append_append_of_blank blankBefore blankAfter]
        exact trim_of_isTrimmed listable.trimmed
      have named : isName name.toList = true := by
        rw [isName_iff, ne_eq, String.toList_eq_nil_iff]
        exact ⟨listable.nonempty, listable.noComment⟩
      rw [seen, if_pos named, String.ofList_toList]

theorem ofLines_pieces_of_lists
    {text : List Char} {names : List String} (lists : Lists text names) :
    ofLines (pieces text) = names := by
  induction lists with
  | last oneLine lists =>
      rw [pieces_of_not_mem oneLine]
      exact ofLines_of_lineLists lists
  | ended oneLine lists more ih =>
      rw [pieces_append_newline, pieces_of_not_mem oneLine,
        ofLines_append, ofLines_of_lineLists lists, ih]

theorem isBlank_of_mem_return :
    ∀ character ∈ "\r".toList, isBlank character = true :=
  List.forall_mem_singleton.mpr rfl

theorem trim_dropReturn (line : List Char) :
    trim (dropReturn line) = trim line := by
  unfold dropReturn
  split
  · next ended =>
    have whole : [] ++ line.dropLast ++ "\r".toList = line :=
      List.dropLast_append_getLast? '\r' ended
    rw [← trim_append_append_of_blank (List.forall_mem_nil _)
      isBlank_of_mem_return, whole]
  · rfl

/-- It makes no difference how a line is ended, or whether the last one is. -/
theorem ofLines_lines (text : List Char) :
    ofLines (lines text) = ofLines (pieces text) := by
  have someLine : pieces text ≠ [] := split_ne_nil '\n' text
  have last :
      (pieces text).getLast?.getD [] =
        (pieces text).getLast someLine := by
    rw [List.getLast?_eq_some_getLast someLine, Option.getD_some]
  have ended :
      ofLines ((pieces text).dropLast.map dropReturn) =
        ofLines (pieces text).dropLast := by
    simp [ofLines, Function.comp_def, trim_dropReturn]
  have unended (line : List Char) :
      ofLines (if line = [] then [] else [line]) = ofLines [line] := by
    split
    · next nothing => rw [nothing]; rfl
    · rfl
  calc
    ofLines (lines text) =
        ofLines ((pieces text).dropLast.map dropReturn) ++
          ofLines [(pieces text).getLast someLine] := by
      rw [lines, ofLines_append, last, unended]
    _ = ofLines
        ((pieces text).dropLast ++ [(pieces text).getLast someLine]) := by
      rw [ended, ofLines_append]
    _ = ofLines (pieces text) := by
      rw [List.dropLast_append_getLast]

/-- What is read from a text is what it lists. -/
theorem lists_iff (text : String) (names : List String) :
    Lists text.toList names ↔ ofText text = names := by
  have read {listed : List String} (lists : Lists text.toList listed) :
      ofText text = listed :=
    (ofLines_lines text.toList).trans (ofLines_pieces_of_lists lists)
  constructor
  · exact read
  · -- A text lists nothing else than what is read from it, and it lists
    -- something.
    rintro rfl
    obtain ⟨listed, lists⟩ := exists_lists text.toList
    rwa [read lists]

example :
    ofText "# graded names\r\nbyu.edu\n\n  www.byu.edu \t\n \t#.\n\r." =
      ["byu.edu", "www.byu.edu", "."] := by
  decide +kernel

/-- A line feed between two texts divides what is read from them. -/
theorem ofText_append_newline (first second : String) :
    ofText (first ++ "\n" ++ second) = ofText first ++ ofText second := by
  have here := (lists_iff first _).mpr rfl
  have later := (lists_iff second _).mpr rfl
  rw [← lists_iff]
  simp only [String.toList_append, List.append_assoc]
  exact here.append later

/-! ## Writing names down -/

theorem lists_nil : Lists [] [] :=
  .last List.not_mem_nil (.blank (List.forall_mem_nil _))

/-- A line may hold a name and white space behind it. -/
theorem IsListable.lineLists
    {name : String} (listable : IsListable name)
    {after : List Char}
    (blank : ∀ character ∈ after, isBlank character = true) :
    LineLists (name.toList ++ after) [name] :=
  .name (List.forall_mem_nil _) blank listable

/--
Names may be written one on a line, whatever white space the lines end in.
-/
theorem ofText_endLines
    {names : List String} (listable : ∀ name ∈ names, IsListable name)
    (ending : String) (oneLine : '\n' ∉ ending.toList)
    (blank : ∀ character ∈ ending.toList, isBlank character = true) :
    ofText (endLines (names.map (· ++ ending))) = names := by
  rw [← lists_iff, toList_endLines]
  induction names with
  | nil => exact lists_nil
  | cons name rest ih =>
      obtain ⟨here, later⟩ := List.forall_mem_cons.mp listable
      have whole : '\n' ∉ (name ++ ending).toList :=
        not_mem_toList_append.mpr ⟨here.oneLine, oneLine⟩
      have line := here.lineLists blank
      rw [← String.toList_append] at line
      rw [List.map_cons, List.flatMap_cons, List.append_assoc]
      exact .ended whole line (ih later)

/-- The last line does not have to be ended. -/
theorem ofText_joinLines
    {names : List String} (listable : ∀ name ∈ names, IsListable name) :
    ofText (joinLines names) = names := by
  rw [← lists_iff, joinLines, String.toList_intercalate]
  induction names with
  | nil => exact lists_nil
  | cons name rest ih =>
      obtain ⟨here, later⟩ := List.forall_mem_cons.mp listable
      have line := here.lineLists (List.forall_mem_nil _)
      rw [List.append_nil] at line
      by_cases alone : rest = []
      · rw [alone, List.map_singleton, List.intercalate_singleton]
        exact .last here.oneLine line
      · have others : rest.map String.toList ≠ [] :=
          fun none => alone (List.map_eq_nil_iff.mp none)
        rw [List.map_cons, List.intercalate_cons_of_ne_nil others,
          List.append_assoc]
        exact .ended here.oneLine line (ih later)

/-- The names that texts list are those that can be listed. -/
theorem exists_ofText_eq_iff (names : List String) :
    (∃ text, ofText text = names) ↔ ∀ name ∈ names, IsListable name := by
  constructor
  · rintro ⟨text, rfl⟩
    exact ((lists_iff text _).mpr rfl).listable
  · intro listable
    exact ⟨joinLines names, ofText_joinLines listable⟩

end ResolverGrader.QueryNames
