import ResolverGrader.Proofs.Text.OneLine
import ResolverGrader.SummaryTable

/-!
# Reading the summary table back

The lines of a table that begin with a border hold its cells, and all other
lines are ruled.  A reader takes the borders away, cuts a line where the
columns meet and trims every cell.

`read_text` says that this gives back the titles and all rows, whatever the
grade.
-/

namespace ResolverGrader.SummaryTable

open ResolverGrader.Text

/-! ## Readers -/

/-- The cells in a line between two borders. -/
def readCells (line : List Char) : Row :=
  (split '┆' line.tail.dropLast).map fun cell => String.ofList (trim cell)

/-- The rows of a table, its titles first. -/
def read (text : List Char) : List Row :=
  (linesFrom "│" (pieces text)).map readCells

/-! ## Contents -/

/--
A content that stays on its line and in its column and has no space at either
end.
-/
def IsTidy (content : String) : Prop :=
  '\n' ∉ content.toList ∧ '┆' ∉ content.toList ∧
    trim content.toList = content.toList

instance (content : String) : Decidable (IsTidy content) :=
  inferInstanceAs (Decidable (_ ∧ _))

theorem isTidy_of_isPointsText
    {content : String} (points : Decimal.IsPointsText content) :
    IsTidy content := by
  refine ⟨?_, ?_, trim_of_not_blank ?_⟩
  · exact fun member => absurd (points '\n' member) (by decide)
  · exact fun member => absurd (points '┆' member) (by decide)
  · intro character member
    obtain ⟨visible, ascii⟩ := (points character member).visible
    exact isBlank_of_visible visible ascii

theorem isTidy_twoPlaces (value : Float) :
    IsTidy (Decimal.twoPlaces value) :=
  isTidy_of_isPointsText (Decimal.isPointsText_twoPlaces value)

theorem isTidy_toString (number : Nat) : IsTidy (toString number) :=
  isTidy_of_isPointsText (Decimal.isPointsText_toString number)

theorem isTidy_label (category : Category) : IsTidy category.label := by
  cases category <;> decide

theorem isTidy_of_mem_categoryRow
    (score : CategoryScore Float) :
    ∀ content ∈ categoryRow score, IsTidy content := by
  have tests :
      IsTidy (if score.graded then toString score.verdicts.length
        else "ungraded") := by
    split
    · exact isTidy_toString _
    · decide
  simp only [categoryRow, List.forall_mem_cons]
  exact ⟨isTidy_label _, tests, isTidy_toString _, isTidy_twoPlaces _,
    isTidy_twoPlaces _, List.forall_mem_nil _⟩

theorem isTidy_of_mem_totalRow (ledger : Ledger Float) :
    ∀ content ∈ totalRow ledger, IsTidy content := by
  simp only [totalRow, List.forall_mem_cons]
  exact ⟨by decide, by decide, by decide, isTidy_twoPlaces _,
    isTidy_twoPlaces _, List.forall_mem_nil _⟩

/-- A row that the table has a column for each cell of. -/
structure IsFitting (row : Row) : Prop where
  length_eq : row.length = titles.length
  tidy : ∀ content ∈ row, IsTidy content

theorem isFitting_of_mem_rows
    {ledger : Ledger Float} {row : Row}
    (among : row ∈ titles :: rows ledger) : IsFitting row := by
  rcases List.mem_cons.mp among with rfl | below
  · exact ⟨rfl, by decide⟩
  · rcases List.mem_append.mp below with ofCategory | ofTotal
    · obtain ⟨score, _, rfl⟩ := List.mem_map.mp ofCategory
      exact ⟨rfl, isTidy_of_mem_categoryRow score⟩
    · rw [List.mem_singleton.mp ofTotal]
      exact ⟨rfl, isTidy_of_mem_totalRow ledger⟩

/-! ## Cells -/

theorem toList_cell (width : Nat) (content : String) :
    (cell width content).toList =
      [' '] ++ content.toList ++
        List.replicate (width - content.length + 1) ' ' := by
  simp [cell, List.replicate_succ']

/-- What stands in a cell is what trimming leaves of it. -/
theorem trim_cell
    (width : Nat) {content : String} (tidy : IsTidy content) :
    trim (cell width content).toList = content.toList := by
  have blankBefore : ∀ character ∈ [' '], isBlank character = true := by
    rw [List.forall_mem_singleton]
    decide
  have blankAfter (count : Nat) :
      ∀ character ∈ List.replicate count ' ',
        isBlank character = true := by
    intro character member
    rw [(List.mem_replicate.mp member).2]
    decide
  rw [toList_cell,
    trim_append_append_of_blank blankBefore (blankAfter _), tidy.2.2]

theorem not_mem_cell
    {character : Char} (notSpace : character ≠ ' ')
    (width : Nat) {content : String} (absent : character ∉ content.toList) :
    character ∉ (cell width content).toList := by
  rw [toList_cell]
  simp [notSpace, absent]

/-- The cells of a row, as wide as their columns. -/
def cellTexts (columns : List Nat) (row : Row) : List (List Char) :=
  (columns.zip row).map fun pair => (cell pair.1 pair.2).toList

theorem not_mem_of_mem_cellTexts
    {character : Char} (notSpace : character ≠ ' ')
    {columns : List Nat} {row : Row}
    (absent : ∀ content ∈ row, character ∉ content.toList) :
    ∀ text ∈ cellTexts columns row, character ∉ text := by
  intro text among
  obtain ⟨⟨width, content⟩, paired, rfl⟩ := List.mem_map.mp among
  exact not_mem_cell notSpace width
    (absent content (List.of_mem_zip paired).2)

theorem map_trim_cellTexts
    {columns : List Nat} {row : Row}
    (wide : row.length ≤ columns.length)
    (tidy : ∀ content ∈ row, IsTidy content) :
    (cellTexts columns row).map (fun text => String.ofList (trim text)) =
      row := by
  have trimmed :
      ∀ pair ∈ columns.zip row,
        String.ofList (trim (cell pair.1 pair.2).toList) = pair.2 := by
    rintro ⟨width, content⟩ paired
    rw [trim_cell width (tidy content (List.of_mem_zip paired).2),
      String.ofList_toList]
  unfold cellTexts
  rw [List.map_map]
  exact (List.map_congr_left trimmed).trans (List.map_snd_zip wide)

/-! ## Lines -/

/-- The cells stand between two borders. -/
theorem toList_contentLine (columns : List Nat) (row : Row) :
    (contentLine columns row).toList =
      '│' :: (List.intercalate ['┆'] (cellTexts columns row) ++ ['│']) := by
  have texts :
      (List.zipWith cell columns row).map String.toList =
        cellTexts columns row := by
    unfold cellTexts
    rw [List.map_zipWith, List.map_zip_eq_zipWith]
    rfl
  unfold contentLine
  rw [String.toList_append, String.toList_append,
    String.toList_intercalate, texts]
  rfl

theorem newline_not_mem_contentLine
    (columns : List Nat) {row : Row}
    (tidy : ∀ content ∈ row, IsTidy content) :
    '\n' ∉ (contentLine columns row).toList := by
  have inside :
      '\n' ∉ List.intercalate ['┆'] (cellTexts columns row) :=
    not_mem_intercalate (by decide)
      (not_mem_of_mem_cellTexts (by decide)
        fun content among => (tidy content among).1)
  rw [toList_contentLine]
  simp [inside]

/-- A line gives its row back. -/
theorem readCells_contentLine
    {columns : List Nat} {row : Row} (some_content : row ≠ [])
    (wide : row.length ≤ columns.length)
    (tidy : ∀ content ∈ row, IsTidy content) :
    readCells (contentLine columns row).toList = row := by
  have some_text : cellTexts columns row ≠ [] := by
    intro none
    have noRow := map_trim_cellTexts wide tidy
    rw [none] at noRow
    exact some_content noRow.symm
  have cut :
      split '┆' (List.intercalate ['┆'] (cellTexts columns row)) =
        cellTexts columns row :=
    split_intercalate_of_not_mem some_text
      (not_mem_of_mem_cellTexts (by decide)
        fun content among => (tidy content among).2.1)
  unfold readCells
  rw [toList_contentLine, List.tail_cons, List.dropLast_concat, cut,
    map_trim_cellTexts wide tidy]

section

variable {left crossing right : String} {stroke : Char}
variable (columns : List Nat)

theorem newline_not_mem_rule
    (whole :
      '\n' ∉ left.toList ∧ '\n' ∉ crossing.toList ∧ stroke ≠ '\n' ∧
        '\n' ∉ right.toList) :
    '\n' ∉ (rule left crossing right stroke columns).toList := by
  obtain ⟨noLeft, noCrossing, noStroke, noRight⟩ := whole
  have inside :
      '\n' ∉ List.intercalate crossing.toList
        ((columns.map fun width =>
          String.ofList (List.replicate (width + 2) stroke)).map
            String.toList) := by
    apply not_mem_intercalate noCrossing
    intro part among
    rw [List.map_map] at among
    obtain ⟨width, _, rfl⟩ := List.mem_map.mp among
    simp [noStroke.symm]
  unfold rule
  rw [not_mem_toList_append, not_mem_toList_append,
    String.toList_intercalate]
  exact ⟨⟨noLeft, inside⟩, noRight⟩

/-- A ruled line does not begin like a line of cells. -/
theorem not_border_prefix_rule (clash : Clash left "│") :
    ¬ "│".toList <+: (rule left crossing right stroke columns).toList :=
  clash.not_begins
    (prefix_toList_append (prefix_toList_append (List.prefix_refl _) _) _)

end

/-! ## The whole table -/

/-- With ruled lines between them, lines of cells are found again. -/
theorem linesFrom_intercalate
    {first ruled : String} (other : ¬ first.toList <+: ruled.toList)
    {α : Type} {line : α → String}
    (begins : ∀ item, first.toList <+: (line item).toList)
    (items : List α) :
    linesFrom first
        ((List.intercalate [ruled]
          (items.map fun item => [line item])).map String.toList) =
      items.map fun item => (line item).toList := by
  induction items with
  | nil => rfl
  | cons item rest ih =>
      by_cases alone : rest = []
      · subst alone
        exact linesFrom_cons_of_begins (begins item) []
      · have others : rest.map (fun item => [line item]) ≠ [] :=
          fun none => alone (List.map_eq_nil_iff.mp none)
        rw [List.map_cons, List.intercalate_cons_of_ne_nil others,
          List.map_append, linesFrom_append, ih, List.singleton_append,
          List.map_cons, linesFrom_cons_of_begins (begins item),
          List.map_singleton, linesFrom_cons_of_not_begins other]
        rfl

theorem newline_not_mem_tableLines (ledger : Ledger Float) :
    ∀ line ∈ tableLines ledger, '\n' ∉ line.toList := by
  have ofRow (columns : List Nat) :
      ∀ row ∈ titles :: rows ledger,
        '\n' ∉ (contentLine columns row).toList :=
    fun _ among =>
      newline_not_mem_contentLine columns (isFitting_of_mem_rows among).tidy
  unfold tableLines
  simp only [List.forall_mem_append, List.forall_mem_cons]
  refine ⟨⟨⟨?_, ofRow _ titles List.mem_cons_self, ?_,
    List.forall_mem_nil _⟩, forall_mem_intercalate ?_ ?_⟩, ?_,
    List.forall_mem_nil _⟩
  · exact newline_not_mem_rule _ (by decide)
  · exact newline_not_mem_rule _ (by decide)
  · rw [List.forall_mem_singleton]
    exact newline_not_mem_rule _ (by decide)
  · rw [List.forall_mem_map]
    intro row among
    rw [List.forall_mem_singleton]
    exact ofRow _ row (List.mem_cons_of_mem _ among)
  · exact newline_not_mem_rule _ (by decide)

/-- The lines that begin with a border are those of the titles and the rows. -/
theorem linesFrom_tableLines (ledger : Ledger Float) :
    linesFrom "│" ((tableLines ledger).map String.toList) =
      (titles :: rows ledger).map fun row =>
        (contentLine (widths (titles :: rows ledger)) row).toList := by
  have begins (columns : List Nat) (row : Row) :
      "│".toList <+: (contentLine columns row).toList :=
    prefix_toList_append (prefix_toList_append (List.prefix_refl _) _) _
  unfold tableLines
  simp only [List.map_append, List.map_cons, List.map_nil, linesFrom_append]
  rw [linesFrom_cons_of_not_begins (not_border_prefix_rule _ (by decide)),
    linesFrom_cons_of_begins (begins _ _),
    linesFrom_cons_of_not_begins (not_border_prefix_rule _ (by decide)),
    linesFrom_intercalate (not_border_prefix_rule _ (by decide))
      (begins _),
    linesFrom_cons_of_not_begins (not_border_prefix_rule _ (by decide))]
  simp

/-- A table gives back its titles and its rows. -/
theorem read_text (ledger : Ledger Float) :
    read (text ledger).toList = titles :: rows ledger := by
  have rest : linesFrom "│" [[]] = [] := rfl
  have readRow :
      ∀ row ∈ titles :: rows ledger,
        readCells
            (contentLine (widths (titles :: rows ledger)) row).toList =
          row := by
    intro row among
    obtain ⟨length_eq, tidy⟩ := isFitting_of_mem_rows among
    refine readCells_contentLine ?_ ?_ tidy
    · rintro rfl
      cases length_eq
    · rw [length_eq, widths, List.length_map, List.length_range]
  unfold read text
  rw [pieces_endLines (newline_not_mem_tableLines ledger),
    linesFrom_append, rest, List.append_nil, linesFrom_tableLines,
    List.map_map]
  exact (List.map_congr_left readRow).trans (List.map_id' _)

end ResolverGrader.SummaryTable
