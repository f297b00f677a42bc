import Mathlib.Algebra.Group.Nat.Defs
import ResolverGrader.Proofs.Host.Actions
import ResolverGrader.Submission

/-!
# What a run leaves behind

A run that comes about at all is made of what its listener captured and of one
execution of the submission.  The execution either outlasted its time, and then
nothing that it printed is kept, or it ended with a wait status.

Only the wait statuses whose low seven bits are clear, together with the eight
bits of the code, stand for a success.
-/

namespace ResolverGrader

/-! ## Wait statuses -/

theorem mod_two_pow_eq_zero_iff (number width : Nat) :
    number % 2 ^ width = 0 ↔
      ∀ bit < width, number.testBit bit = false := by
  constructor
  · intro clear bit inside
    have same := Nat.testBit_mod_two_pow number width bit
    rw [clear, Nat.zero_testBit] at same
    simpa [inside] using same.symm
  · intro clear
    apply Nat.eq_of_testBit_eq
    intro bit
    rw [Nat.testBit_mod_two_pow, Nat.zero_testBit]
    by_cases inside : bit < width
    · simp [clear bit inside]
    · simp [inside]

namespace Exit

/--
A wait status of a normal end with the code zero: the bits of the signal are
clear, and so are those of the code.
-/
structure IsCleanStatus (status : UInt32) : Prop where
  signal : ∀ bit < 7, status.toNat.testBit bit = false
  code : ∀ bit, 8 ≤ bit → bit < 16 → status.toNat.testBit bit = false

theorem isCleanStatus_iff (status : UInt32) :
    IsCleanStatus status ↔
      status.toNat % 128 = 0 ∧ status.toNat / 256 % 256 = 0 := by
  have signal_iff := mod_two_pow_eq_zero_iff status.toNat 7
  have code_iff := mod_two_pow_eq_zero_iff (status.toNat / 2 ^ 8) 8
  simp only [Nat.testBit_div_two_pow] at code_iff
  constructor
  · intro clean
    refine ⟨signal_iff.mpr clean.signal, code_iff.mpr ?_⟩
    intro bit inside
    exact clean.code (bit + 8) (by omega) (by omega)
  · rintro ⟨noSignal, noCode⟩
    refine ⟨signal_iff.mp noSignal, ?_⟩
    intro bit above below
    have clear := code_iff.mp noCode (bit - 8) (by omega)
    rwa [Nat.sub_add_cancel above] at clear

theorem exited_ofNat_eq_zero_iff {code : Nat} (small : code < 256) :
    Exit.exited (Int32.ofNat code) = .exited 0 ↔ code = 0 := by
  rw [Exit.exited.injEq]
  constructor
  · intro same
    have value := congrArg Int32.toInt same
    rw [Int32.toInt_ofNat_of_lt (by omega)] at value
    simpa using value
  · rintro rfl
    rfl

/-- Of all wait statuses the clean ones alone stand for a success. -/
theorem ofWaitStatus_eq_exited_zero_iff (status : UInt32) :
    Exit.ofWaitStatus status = .exited 0 ↔ IsCleanStatus status := by
  rw [isCleanStatus_iff]
  unfold Exit.ofWaitStatus
  dsimp only
  split
  case isTrue noSignal =>
    simp only [noSignal, true_and]
    exact exited_ofNat_eq_zero_iff (Nat.mod_lt _ (by decide))
  case isFalse signal =>
    simp only [signal, false_and, iff_false]
    split
    · decide
    · simp

/-- No wait status stands for a process that was cut off. -/
theorem ofWaitStatus_ne_timedOut (status : UInt32) :
    Exit.ofWaitStatus status ≠ .timedOut := by
  unfold Exit.ofWaitStatus
  dsimp only
  split
  · simp
  · split <;> simp

end Exit

/-! ## Executions -/

namespace Submission

open ResolverGrader.Host ResolverGrader.Net

/--
An execution is cut off and loses all that it printed, or it comes to an end of
its own.
-/
theorem Execution.ofChild_eq_ok
    {runTimeout : Duration} {child : Child} {replies : List Octets}
    {execution : Execution}
    (ended : Execution.ofChild runTimeout child replies = .ok execution) :
    execution = .killed ∨
      ∃ status, child.status = .ok status ∧
        execution =
          ⟨child.stdout replies, child.stderr, .ofWaitStatus status⟩ := by
  unfold Execution.ofChild at ended
  split at ended
  · exact Or.inl (Except.ok.inj ended).symm
  · cases status : child.status with
    | error source =>
        rw [status] at ended
        simp [Except.map] at ended
    | ok status' =>
        rw [status] at ended
        exact Or.inr ⟨status', rfl, (Except.ok.inj ended).symm⟩

/--
A run that succeeds was bound and launched, and it consists of what was
captured and of how the launched process was executed.
-/
theorem run_eq_ok
    {host : Host} {settings : Settings} {queryName : String}
    {response : Octets} {instrument : Instrument}
    {world : World} {result : Run}
    (succeeded :
      ((run host settings queryName response instrument).runOn
        world).1 = .ok result) :
    ∃ address bound child execution,
      (Listener.bind host settings.proxyIp settings.proxyPort).runOn
          world = (.ok address, bound) ∧
        host.launch bound.files
            (invocation instrument settings.tools
              settings.build.binary queryName address) =
          .ok child ∧
        let heard :=
          Listener.deliverAll response .waiting
            (heard host.network address settings.timeout
              child.datagrams)
        Execution.ofChild settings.runTimeout child
            (received host.network heard.2) = .ok execution ∧
          result = runOf instrument heard.1.captured execution := by
  unfold run at succeeded
  obtain ⟨address, bound, listening, launched⟩ :=
    Action.runOn_bind_eq_ok succeeded
  obtain ⟨launch, after, started, finished⟩ :=
    Action.runOn_bind_eq_ok launched
  have launch_eq := congrArg Prod.fst started
  rw [Action.runOn_start_outcome] at launch_eq
  cases launch with
  | error source => simp at finished
  | ok child =>
      dsimp only at finished
      split at finished
      · simp at finished
      · next execution executed =>
        exact ⟨address, bound, child, execution, listening,
          Except.ok.inj launch_eq, executed,
          (Except.ok.inj finished).symm⟩

/--
What the submission can leave behind under an instrument, on any host and in
any world.
-/
def CanLeave (instrument : Instrument) (result : Run) : Prop :=
  ∃ host settings queryName response world,
    ((run host settings queryName response instrument).runOn
      world).1 = .ok result

/--
Nothing that a run printed before it was cut off is kept; every other run has a
wait status.
-/
theorem CanLeave.cutOff_or_ended
    {instrument : Instrument} {result : Run}
    (left : CanLeave instrument result) :
    (result.exit = .timedOut ∧ result.stdout = [] ∧
        result.traceOutput.getD [] = [] ∧
        result.memcheckOutput.getD [] = []) ∨
      ∃ status, result.exit = .ofWaitStatus status := by
  obtain ⟨host, settings, queryName, response, world, succeeded⟩ := left
  obtain ⟨_, _, _, execution, _, _, executed, rfl⟩ :=
    run_eq_ok succeeded
  rcases Execution.ofChild_eq_ok executed with
    rfl | ⟨status, _, rfl⟩
  · cases instrument <;> exact Or.inl ⟨rfl, rfl, rfl, rfl⟩
  · cases instrument <;> exact Or.inr ⟨status, rfl⟩

theorem CanLeave.exit_eq
    {instrument : Instrument} {result : Run}
    (left : CanLeave instrument result) :
    result.exit = .timedOut ∨
      ∃ status, result.exit = .ofWaitStatus status :=
  left.cutOff_or_ended.imp_left And.left

/-- A traced run that was cut off has no trace. -/
theorem CanLeave.traceOutput_eq_nil
    {instrument : Instrument} {result : Run}
    (left : CanLeave instrument result)
    (cutOff : result.exit = .timedOut) :
    result.traceOutput.getD [] = [] := by
  rcases left.cutOff_or_ended with
    ⟨_, _, noTrace, _⟩ | ⟨status, ended⟩
  · exact noTrace
  · exact absurd (ended.symm.trans cutOff)
      (Exit.ofWaitStatus_ne_timedOut status)

end Submission

end ResolverGrader
