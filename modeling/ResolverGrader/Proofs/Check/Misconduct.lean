import ResolverGrader.Dns.Message
import ResolverGrader.Proofs.Answer.Sets
import ResolverGrader.Proofs.QueryDiff.Drawing
import ResolverGrader.Proofs.Submission.Runs

/-!
# Silence, crashes and hangs

A submission that sends nothing, that crashes or that never ends must not earn
points by looking like one that had nothing to say.  An empty query agrees with
another empty one, and no answers are right where none are expected, so a
comparison alone would let such a submission pass.

`misconduct_fails` names the categories that each kind of misconduct fails.
-/

namespace ResolverGrader

open ResolverGrader.Text

/-! ## What fails a check -/

theorem fails_memoryLeaks_iff (trial : Trial) :
    Fails .memoryLeaks trial ↔
      trial.memcheckExit ≠ some (.exited 0) := by
  rw [fails_iff_of_check rfl (Check.memoryLeaks_decided trial)]
  unfold Check.memoryLeaks
  cases trial.memcheckExit with
  | none => simp
  | some exit =>
      by_cases success : exit = .exited 0
      · simp [Exit.isSuccess, success]
      · simp [Exit.isSuccess, success]

theorem fails_wellFormedQuery_iff (trial : Trial) :
    Fails .wellFormedQuery trial ↔
      trial.query.drop QueryDiff.idLength ≠
        trial.expectedQuery.drop QueryDiff.idLength := by
  rw [fails_iff_of_check rfl (Check.wellFormedQuery_decided trial)]
  have agree_iff :=
    QueryDiff.agree_eq_true_iff trial.query trial.expectedQuery
  unfold Check.wellFormedQuery QueryDiff.drawing?
  by_cases same :
      trial.query.drop QueryDiff.idLength =
        trial.expectedQuery.drop QueryDiff.idLength
  · simp [same, agree_iff.mpr same]
  · have differ := agree_iff.not.mpr same
    simp [same, differ]

theorem fails_sendAndReceive_iff (trial : Trial) :
    Fails .sendAndReceive trial ↔
      trial.query = [] ∨
        Trace.showsSocketThenRead (Utf8.decode trial.traceOutput) =
          false := by
  rw [fails_iff_of_check rfl (Check.sendAndReceive_decided trial)]
  unfold Check.sendAndReceive
  by_cases silent : trial.query = []
  · simp [silent]
  · cases Trace.showsSocketThenRead (Utf8.decode trial.traceOutput) with
    | true => simp [silent]
    | false => simp [silent]

/--
A category that compares answers fails every trial of a process that did not
succeed.
-/
theorem fails_of_exit_ne
    {category : Category} {trial : Trial}
    (compares : category.comparesAnswers = true)
    (applies : Applies category trial)
    (unsuccessful : trial.exit ≠ .exited 0) :
    Fails category trial := by
  refine (fails_iff category trial).mpr ⟨applies, ?_⟩
  intro passes
  have about := (applies_iff category trial).mp applies
  exact unsuccessful ((passes_iff_of_isAbout compares about).mp passes).1

/-! ## What is expected of a query -/

/-- The canonical query goes on after its identifier. -/
theorem Dns.drop_canonicalQuery_ne_nil
    {queryName : String} {id : UInt16} {expectedQuery : Octets}
    (canonical : canonicalQuery queryName id = .ok expectedQuery) :
    expectedQuery.drop QueryDiff.idLength ≠ [] := by
  unfold canonicalQuery at canonical
  cases asked : queriedName queryName with
  | error error =>
      rw [asked] at canonical
      cases canonical
  | ok name =>
      rw [asked] at canonical
      obtain rfl : queryWire id name = expectedQuery :=
        Except.ok.inj canonical
      simp [queryWire, Octets.ofWord, queryHeader, QueryDiff.idLength]

/-! ## Misconduct -/

/--
A query that ends with its identifier is not the canonical one, although their
identifiers are never compared.
-/
theorem fails_wellFormedQuery_of_short
    {queryName : String} {id : UInt16} {trial : Trial}
    (canonical :
      Dns.canonicalQuery queryName id = .ok trial.expectedQuery)
    (short : trial.query.length ≤ 2) :
    Fails .wellFormedQuery trial := by
  rw [fails_wellFormedQuery_iff]
  have nothing : trial.query.drop QueryDiff.idLength = [] :=
    List.drop_eq_nil_of_le short
  rw [nothing]
  exact (Dns.drop_canonicalQuery_ne_nil canonical).symm

/-- A trace with nothing in it shows no socket. -/
theorem fails_sendAndReceive_of_noTrace
    {trial : Trial} (noTrace : trial.traceOutput = []) :
    Fails .sendAndReceive trial := by
  rw [fails_sendAndReceive_iff, noTrace]
  exact Or.inr (by decide)

/--
Whatever is expected, no kind of misconduct earns points.  Without a datagram
the categories for the query and for sending it fail, and the first of them
fails too where a datagram holds an identifier at most.  A traced process that
did not succeed fails each category that compares answers and applies, and one
that was cut off fails to send as well, whatever was captured before.  A
checked process that did not succeed, or of which no end is known, fails for
its memory.  A process is cut off or it ends with a wait status, and only a
clean one is a success.
-/
theorem misconduct_fails
    {queryName : String} {id : UInt16} {expectedQuery : Octets}
    (canonical : Dns.canonicalQuery queryName id = .ok expectedQuery)
    (traced checked : Run) (expectedAnswers : List String) :
    let trial :=
      Trial.ofRuns queryName traced checked expectedQuery expectedAnswers
    (traced.request = [] →
        Fails .wellFormedQuery trial ∧ Fails .sendAndReceive trial) ∧
      (traced.request.length ≤ 2 → Fails .wellFormedQuery trial) ∧
      (traced.exit ≠ .exited 0 →
        ∀ category : Category, category.comparesAnswers = true →
          Applies category trial → Fails category trial) ∧
      (Submission.CanLeave .syscallTrace traced →
        traced.exit = .timedOut → Fails .sendAndReceive trial) ∧
      (checked.memcheckExit ≠ some (.exited 0) →
        Fails .memoryLeaks trial) ∧
      (∀ (instrument : Instrument) (result : Run),
        Submission.CanLeave instrument result →
          result.exit = .timedOut ∨
            ∃ status, result.exit = .ofWaitStatus status) ∧
      ∀ status : UInt32,
        Exit.ofWaitStatus status = .exited 0 ↔
          Exit.IsCleanStatus status := by
  intro trial
  have short_fails :
      traced.request.length ≤ 2 → Fails .wellFormedQuery trial := by
    intro short
    exact fails_wellFormedQuery_of_short canonical short
  refine ⟨?_, short_fails, ?_, ?_, ?_, ?_,
    Exit.ofWaitStatus_eq_exited_zero_iff⟩
  · intro silent
    refine ⟨short_fails (by simp [silent]), ?_⟩
    exact (fails_sendAndReceive_iff trial).mpr (Or.inl silent)
  · intro unsuccessful category compares applies
    exact fails_of_exit_ne compares applies unsuccessful
  · intro left cutOff
    exact fails_sendAndReceive_of_noTrace
      (left.traceOutput_eq_nil cutOff)
  · exact (fails_memoryLeaks_iff trial).mpr
  · intro instrument result left
    exact left.exit_eq

section

open ResolverGrader.Host ResolverGrader.Net

/-- The canonical query for the name `a`. -/
def hangingQuery : Octets :=
  [0, 0, 1, 0, 0, 1, 0, 0, 0, 0, 0, 0, 1, 97, 0, 0, 1, 0, 1]

/-- A host on which the submission sends that query and then hangs. -/
def hangingHost : Host where
  network := .loopback []
  random _ := 0
  launch _ _ := .ok
    { datagrams := [⟨.v4 .loopback 40000, hangingQuery⟩]
      stdout := fun _ => []
      stderr := []
      outlasts := true
      status := .ok 0
      changes := id }
  serverReceipts _ _ := []

/-- Settings with a fixed port and time enough for a query. -/
def hangingSettings : Settings where
  proxyIp := .v4 .loopback
  proxyPort := some 5353
  timeout := ⟨1, 0⟩
  runTimeout := ⟨1, 0⟩
  server := .v4 .loopback 53
  tools := ⟨"strace", "valgrind"⟩
  build := ⟨"cc", "resolver.c", "resolver", true⟩
  verbose := false

/--
The right query was captured and no answers are expected, and still nothing but
the query passes; nor does a checked run that sent only an identifier and found
an error.
-/
theorem misconduct_fails_hanging :
    let traced : Run := ⟨hangingQuery, [], some [], none, none, .timedOut⟩
    let checked : Run :=
      ⟨[0, 1], [], none, some [], some (.ofWaitStatus 256),
        .ofWaitStatus 256⟩
    let trial := Trial.ofRuns "a" traced checked hangingQuery []
    let swapped := Trial.ofRuns "a" checked traced hangingQuery []
    Dns.canonicalQuery "a" 0 = .ok hangingQuery ∧
      Submission.CanLeave .syscallTrace traced ∧
      Passes .wellFormedQuery trial ∧
      Fails .sendAndReceive trial ∧
      Fails .handlesNxdomain trial ∧
      Fails .memoryLeaks trial ∧
      Fails .wellFormedQuery swapped := by
  intro traced checked trial swapped
  have canonical : Dns.canonicalQuery "a" 0 = .ok hangingQuery := rfl
  have left : Submission.CanLeave .syscallTrace traced :=
    ⟨hangingHost, hangingSettings, "a", [], .initial .bare, rfl⟩
  have sent : Passes .wellFormedQuery trial := ⟨.pass, rfl, rfl⟩
  have absent : Applies .handlesNxdomain trial :=
    (applies_iff _ _).mpr (by decide +kernel : trial.expectedAnswers = [])
  obtain ⟨_, _, crashed, cutOff, leaking, _, _⟩ :=
    misconduct_fails canonical traced checked []
  obtain ⟨_, short, _⟩ :=
    misconduct_fails canonical checked traced []
  refine ⟨canonical, left, sent, cutOff left rfl, ?_, ?_, ?_⟩
  · exact crashed (by decide) .handlesNxdomain rfl absent
  · exact leaking (by decide)
  · exact short (by decide)

end

end ResolverGrader
