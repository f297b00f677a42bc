import ResolverGrader.Decimal
import ResolverGrader.Ledger

/-!
# The summary table

One row for each category and one for the total, drawn with box characters.  A
column is as wide as its widest cell, and one space stands on either side of
each cell.  This is the layout where the output is no terminal: on a terminal
that is too narrow the cells would be wrapped to its width.
-/

namespace ResolverGrader.SummaryTable

open ResolverGrader.Decimal

/-- The cells of a table row. -/
abbrev Row := List String

/-- The titles of the columns. -/
def titles : Row := ["Category", "Tests", "Passed", "Awarded", "Max"]

/-- The number of verdicts that passed. -/
def passedCount (score : CategoryScore Float) : Nat :=
  score.verdicts.countP (·.outcome.isPass)

/-- The row of a category. -/
def categoryRow (score : CategoryScore Float) : Row :=
  [score.category.label,
    if score.graded then toString score.verdicts.length else "ungraded",
    toString (passedCount score), twoPlaces score.awarded,
    twoPlaces score.maxPoints]

/-- The row of the total. -/
def totalRow (ledger : Ledger Float) : Row :=
  ["Total", "", "", twoPlaces ledger.total, twoPlaces ledger.maxScore]

/-- The rows below the titles. -/
def rows (ledger : Ledger Float) : List Row :=
  ledger.categories.map categoryRow ++ [totalRow ledger]

/-- The widths of columns that hold all the given rows. -/
def widths (all : List Row) : List Nat :=
  (List.range titles.length).map fun column =>
    (all.map fun row => (row.getD column "").length).foldl max 0

/-- A cell with spaces after it up to a width, and one more on either side. -/
def cell (width : Nat) (content : String) : String :=
  " " ++ content ++
    String.ofList (List.replicate (width - content.length) ' ') ++ " "

/-- A line of text between the borders. -/
def contentLine (columns : List Nat) (row : Row) : String :=
  "│" ++ String.intercalate "┆" (List.zipWith cell columns row) ++ "│"

/-- A ruled line, given its two ends, its crossings and its stroke. -/
def rule (left crossing right : String) (stroke : Char) (columns : List Nat) :
    String :=
  left ++ String.intercalate crossing
    (columns.map fun width =>
      String.ofList (List.replicate (width + 2) stroke)) ++ right

/-- The lines of the table. -/
def tableLines (ledger : Ledger Float) : List String :=
  let body := rows ledger
  let columns := widths (titles :: body)
  [rule "┌" "┬" "┐" '─' columns, contentLine columns titles,
      rule "╞" "╪" "╡" '═' columns] ++
    List.intercalate [rule "├" "┼" "┤" '╌' columns]
      (body.map fun row => [contentLine columns row]) ++
    [rule "└" "┴" "┘" '─' columns]

/-- The text of the table. -/
def text (ledger : Ledger Float) : String :=
  Text.endLines (tableLines ledger)

end ResolverGrader.SummaryTable
