import ResolverGrader.Text.Octets
import ResolverGrader.Text.Split

/-!
# Comparing queries

The identifier of a query, its first two octets, is free for each side to
choose; everything after it must agree.  A difference is drawn as three aligned
rows of hexadecimal digits: the expected query, the actual one, and their
exclusive or.
-/

namespace ResolverGrader.QueryDiff

/-- The number of octets that hold the identifier. -/
def idLength : Nat := 2

/--
Whether the digits of two messages agree after those of their identifiers.
-/
def agree (actual expected : Octets) : Bool :=
  actual.hexDigits.drop (2 * idLength) = expected.hexDigits.drop (2 * idLength)

/--
The exclusive or of two rows of octets; where only one row goes on, every bit
is set.
-/
def exclusiveOr : Octets → Octets → Octets
  | left :: lefts, right :: rights =>
    (left ^^^ right) :: exclusiveOr lefts rights
  | [], rights => rights.map fun _ => 0xff
  | lefts, [] => lefts.map fun _ => 0xff

/--
The third row: a placeholder for the identifier, then the exclusive or of the
rest.
-/
def exclusiveOrRow (actual expected : Octets) : String :=
  "-id-" ++ (exclusiveOr (expected.drop idLength) (actual.drop idLength)).hex

/-- The drawing of a difference.  Every row begins at the same column. -/
def drawing (actual expected : Octets) : String :=
  Text.joinLines ["The query sent differs from the expected query:",
    "Expected query: " ++ expected.hex,
    "Actual query:   " ++ actual.hex,
    "XOR:            " ++ exclusiveOrRow actual expected]

/-- The drawing of the difference between two messages, if they differ. -/
def drawing? (actual expected : Octets) : Option String :=
  if agree actual expected then none else some (drawing actual expected)

theorem length_exclusiveOr (left right : Octets) :
    (exclusiveOr left right).length = max left.length right.length := by
  fun_induction exclusiveOr left right with
  | case1 left lefts right rights ih => simp [ih]
  | case2 rights => simp
  | case3 lefts => simp

end ResolverGrader.QueryDiff
