import ResolverGrader.Decimal
import ResolverGrader.Ledger

/-!
# The table of verdicts

Every verdict is a record of comma-separated fields, each record ended by a
line feed.  A field that holds a comma, a quotation mark or a line break is put
into quotation marks, and a quotation mark inside it is written twice.
-/

namespace ResolverGrader.Csv

open ResolverGrader.Decimal

/-- Whether a character forces its field into quotation marks. -/
def forcesQuotes (character : Char) : Bool :=
  character = ',' || character = '"' || character = '\n' || character = '\r'

/-- The inside of a quoted field: every quotation mark twice. -/
def doubleQuotes (field : List Char) : List Char :=
  field.flatMap fun character =>
    if character = '"' then ['"', '"'] else [character]

/-- A field as it is written. -/
def fieldChars (field : List Char) : List Char :=
  if field.any forcesQuotes then '"' :: doubleQuotes field ++ ['"'] else field

/-- A record of fields as it is written. -/
def recordChars (fields : List String) : List Char :=
  List.intercalate [','] (fields.map fun field => fieldChars field.toList) ++
    ['\n']

/-- The names of the fields. -/
def header : List String :=
  ["category", "qname", "passed", "points", "points_possible", "reason"]

/-- The fields of a verdict. -/
def verdictFields (category : Category) (verdict : Verdict Float) :
    List String :=
  [category.label, verdict.queryName.getD "",
    if verdict.outcome.isPass then "true" else "false",
    twoPlaces verdict.points, twoPlaces verdict.pointsPossible,
    verdict.outcome.reason.getD ""]

/--
The records of a ledger: the header, then every verdict in the order of the
ledger.
-/
def records (ledger : Ledger Float) : List (List String) :=
  header :: ledger.categories.flatMap fun score =>
    score.verdicts.map (verdictFields score.category)

/-- The text of a ledger. -/
def text (ledger : Ledger Float) : String :=
  String.ofList ((records ledger).flatMap recordChars)

end ResolverGrader.Csv
