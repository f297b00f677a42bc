/-!
# What can be earned

A plan says which categories a submission is graded in and how many points each
of them is worth.
-/

namespace ResolverGrader

/-!
## Grading categories

What a submission is graded for, in the order of the report.
-/

/-- A grading category. -/
inductive Category where
  | memoryLeaks
  | compilerWarnings
  | wellFormedQuery
  | sendAndReceive
  | findsAnswer
  | handlesCname
  | handlesNxdomain
  | handlesRoot
  deriving DecidableEq, Repr

/-- Every category, in the order of the report. -/
def Category.all : List Category :=
  [.memoryLeaks, .compilerWarnings, .wellFormedQuery, .sendAndReceive,
    .findsAnswer, .handlesCname, .handlesNxdomain, .handlesRoot]

/-- The label of a category. -/
def Category.label : Category → String
  | .memoryLeaks => "Memory Leaks"
  | .compilerWarnings => "Compiler Warnings"
  | .wellFormedQuery => "Well-formed DNS query message"
  | .sendAndReceive => "Sends the query and receives the response"
  | .findsAnswer => "Finds the answer in the answer section"
  | .handlesCname => "Handles CNAME records properly"
  | .handlesNxdomain => "Handles names that don't resolve"
  | .handlesRoot => "Handles the root name"

/-!
## Points

Points are floating-point numbers when a submission is graded, and rational
numbers when the rules of grading are reasoned about.  The rules use only the
operations below, so they are the same for both.
-/

/-- Numbers that points can be counted in. -/
class Points (α : Type) where
  /-- A whole number of points. -/
  ofNat : Nat → α
  /-- What the sum of no points is. -/
  emptySum : α
  add : α → α → α
  /-- One of a number of equal shares. -/
  share : α → Nat → α
  /--
  The smaller of two, the other one where one is no number, and the second of
  two equals.
  -/
  least : α → α → α

namespace Points

/-- The sum of points, from left to right. -/
def sum {α : Type} [Points α] (points : List α) : α :=
  points.foldl add emptySum

instance : Points Float where
  ofNat := Float.ofNat
  emptySum := -0.0
  add := (· + ·)
  share points count := points / Float.ofNat count
  least left right :=
    if left.isNaN then right
    else if right.isNaN then left
    else if left < right then left
    else right

instance : Points Rat where
  ofNat number := (number : Rat)
  emptySum := 0
  add := (· + ·)
  share points count := points / (count : Rat)
  least left right := if left < right then left else right

end Points

/-!
## Grading plans

A plan lists categories with the points each is worth.  The list gives the
order of the report, and a category may be listed more than once.
-/

/-- A category and the most points it can earn. -/
structure Weight (α : Type) where
  category : Category
  maxPoints : α

/-- Categories with their weights, in the order of the report. -/
structure Plan (α : Type) where
  weights : List (Weight α)

namespace Plan

variable {α : Type} [Points α]

/--
The most points that a plan can award, whether or not a category can be graded.
-/
def maxScore (plan : Plan α) : α :=
  Points.sum (plan.weights.map Weight.maxPoints)

/-- The standard plan: one hundred points over all categories. -/
def standard : Plan α where
  weights :=
    [(.memoryLeaks, 2), (.compilerWarnings, 3), (.wellFormedQuery, 25),
      (.sendAndReceive, 20), (.findsAnswer, 25), (.handlesCname, 10),
      (.handlesNxdomain, 10), (.handlesRoot, 5)].map
      fun (category, points) => ⟨category, Points.ofNat points⟩

theorem maxScore_standard : (standard : Plan Rat).maxScore = 100 := by
  decide +kernel

end Plan

end ResolverGrader
