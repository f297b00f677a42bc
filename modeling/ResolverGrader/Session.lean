import ResolverGrader.Ledger

/-!
# Grading sessions

A session holds everything that a grade is computed from, so that trials, the
plan and the build can be changed between one grade and the next.  Operations
on a trial that is not there change nothing and say so.
-/

namespace ResolverGrader

/-- The trials and the build of a submission, and the plan to grade them by. -/
structure Session (α : Type) where
  plan : Plan α
  trials : List Trial
  build : Option BuildReport

namespace Session

variable {α : Type} [Points α]

/-- A session under the standard plan, without trials and without a build. -/
def initial : Session α := ⟨.standard, [], none⟩

/-- The grade as things stand. -/
def ledger (session : Session α) : Ledger α :=
  score session.plan session.trials session.build

/-- The session with one more trial at the end. -/
def add (session : Session α) (trial : Trial) : Session α :=
  { session with trials := session.trials ++ [trial] }

/-- The session without the trial at a position. -/
def remove? (session : Session α) (index : Nat) : Option (Session α) :=
  if index < session.trials.length then
    some { session with trials := session.trials.eraseIdx index }
  else none

/-- The session with the trial at a position changed, and that trial. -/
def update? (session : Session α) (index : Nat) (change : Trial → Trial) :
    Option (Session α × Trial) :=
  session.trials[index]?.map fun trial =>
    ({ session with trials := session.trials.set index (change trial) },
      change trial)

/-- The outcomes of one category, trial by trial. -/
def outcomes (session : Session α) (category : Category) :
    List (Option Outcome) :=
  session.trials.map (check category)

end Session

/-- The trial with another end of its process. -/
def Trial.withExit (exit : Exit) (trial : Trial) : Trial :=
  { trial with exit }

/-- The trial with its answers in normal form. -/
def Trial.withNormalAnswers (trial : Trial) : Trial :=
  { trial with answers := Answer.normalizeAll trial.answers }

end ResolverGrader
