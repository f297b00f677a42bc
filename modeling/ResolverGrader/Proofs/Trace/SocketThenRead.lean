import ResolverGrader.Proofs.Check.Outcome
import ResolverGrader.Proofs.Text.Lines
import ResolverGrader.Proofs.Text.Search

/-!
# Sockets that are read from

The inspection of a trace goes through the lines once and remembers the
descriptors of all sockets it has come across.  What it finds are pairs of
lines: one that reports a socket, and a later one that reads from the very
descriptor the socket got.

`Opens` and `Reads` say what the two lines look like.  The one scan and the
search for a pair are tied together by the descriptors that are open before a
line, `OpenBefore`.
-/

namespace ResolverGrader.Trace

open ResolverGrader.Text

/-! ## Single lines -/

/--
A line that reports a socket with a descriptor: its result, which is what
follows the last equals sign with a space behind it, begins with a number.
-/
structure Opens (line descriptor : List Char) : Prop where
  begins : "socket(".toList <+: line
  result :
    ∃ result, FollowsLast "= ".toList line result ∧
      IsFirstWord result descriptor
  number : ∀ digit ∈ descriptor, '0' ≤ digit ∧ digit ≤ '9'

/--
A line that shows a read: what stands between the parenthesis after the call
and the next comma is the descriptor.
-/
def Reads (line descriptor : List Char) : Prop :=
  ∃ call ∈ ["read", "recvfrom", "recv", "recvmsg"],
    ∃ rest : List Char,
      line = call.toList ++ '(' :: descriptor ++ ',' :: rest ∧
        ',' ∉ descriptor

/-- A trace in which a socket is reported and, on a later line, read from. -/
def SocketThenRead (trace : List Char) : Prop :=
  ∃ first second : Nat, first < second ∧
    ∃ opening reading descriptor,
      (lines trace)[first]? = some opening ∧
        (lines trace)[second]? = some reading ∧
        Opens opening descriptor ∧ Reads reading descriptor

theorem all_isDecimal_iff (word : List Char) :
    word.all isDecimal = true ↔
      ∀ digit ∈ word, '0' ≤ digit ∧ digit ≤ '9' := by
  simp [isDecimal]

theorem socketDescriptor?_eq_some_iff {line descriptor : List Char} :
    socketDescriptor? line = some descriptor ↔ Opens line descriptor := by
  have resultOf (result : List Char) :
      afterLast? ['=', ' '] line = some result ↔
        FollowsLast "= ".toList line result :=
    afterLast?_eq_some_iff (by decide)
  constructor
  · intro found
    simp only [socketDescriptor?] at found
    split at found
    · next begins =>
      split at found
      · next result follows =>
        split at found
        · next isNumber =>
          obtain rfl := Option.some.inj found
          simp only [ne_eq, decide_not, Bool.and_eq_true, Bool.not_eq_true',
            decide_eq_false_iff_not] at isNumber
          exact ⟨List.isPrefixOf_iff_prefix.mp begins,
            ⟨result, (resultOf result).mp follows,
              firstWord_eq_iff.mp ⟨rfl, isNumber.1⟩⟩,
            (all_isDecimal_iff _).mp isNumber.2⟩
        · cases found
      · cases found
    · cases found
  · rintro ⟨begins, ⟨result, follows, isFirst⟩, number⟩
    obtain ⟨word, nonempty⟩ := firstWord_eq_iff.mpr isFirst
    unfold socketDescriptor?
    rw [if_pos (List.isPrefixOf_iff_prefix.mpr begins),
      (resultOf result).mpr follows]
    simp [word, nonempty, (all_isDecimal_iff descriptor).mpr number]

theorem Opens.comma_not_mem
    {line descriptor : List Char} (opens : Opens line descriptor) :
    ',' ∉ descriptor := by
  intro member
  exact absurd (opens.number ',' member) (by decide)

theorem readsFrom_eq_true_iff
    {descriptor : List Char} (noComma : ',' ∉ descriptor)
    (line : List Char) :
    readsFrom descriptor line = true ↔ Reads line descriptor := by
  unfold readsFrom readCalls Reads
  rw [List.any_eq_true]
  simp only [List.isPrefixOf_iff_prefix]
  constructor
  · rintro ⟨call, listed, rest, whole⟩
    exact ⟨call, listed, rest, by simp [← whole], noComma⟩
  · rintro ⟨call, listed, rest, rfl, _⟩
    exact ⟨call, listed, rest, by simp⟩

/-- A line that reports a socket reads from nothing. -/
theorem Opens.readsFrom_eq_false
    {line descriptor : List Char} (opens : Opens line descriptor)
    (other : List Char) : readsFrom other line = false := by
  rw [Bool.eq_false_iff]
  intro reads
  obtain ⟨call, listed, begins⟩ := List.any_eq_true.mp reads
  have clash : ∀ call ∈ readCalls, Clash "socket(" call := by decide
  have callBegins : call.toList <+: line := by
    rw [List.isPrefixOf_iff_prefix, List.append_assoc] at begins
    exact (List.prefix_append _ _).trans begins
  exact (clash call listed).not_begins opens.begins callBegins

/-! ## One scan -/

/--
A descriptor that can be read from at a line, if some are open before the first
one.
-/
def OpenBefore
    (descriptors scanned : List (List Char)) (position : Nat)
    (descriptor : List Char) : Prop :=
  descriptor ∈ descriptors ∨
    ∃ first < position, ∃ opening,
      scanned[first]? = some opening ∧ Opens opening descriptor

/-- A line that reads from a descriptor that is open before it. -/
def ReadAt
    (descriptors scanned : List (List Char)) (position : Nat) : Prop :=
  ∃ reading descriptor,
    scanned[position]? = some reading ∧
      OpenBefore descriptors scanned position descriptor ∧
      readsFrom descriptor reading = true

section

variable {descriptors : List (List Char)} {line : List Char}
variable {rest : List (List Char)} {position : Nat}
variable {descriptor : List Char}

theorem openBefore_succ_iff :
    OpenBefore descriptors (line :: rest) (position + 1) descriptor ↔
      Opens line descriptor ∨
        OpenBefore descriptors rest position descriptor := by
  unfold OpenBefore
  rw [Nat.exists_lt_succ_left]
  simp only [List.getElem?_cons_zero, List.getElem?_cons_succ,
    Option.some.injEq, exists_eq_left']
  exact or_left_comm

/-- A line that reports a socket adds its descriptor to those that are open. -/
theorem openBefore_succ_iff_of_opens
    {opened : List Char} (opens : Opens line opened) :
    OpenBefore descriptors (line :: rest) (position + 1) descriptor ↔
      OpenBefore (opened :: descriptors) rest position descriptor := by
  have only : Opens line descriptor ↔ descriptor = opened := by
    rw [← socketDescriptor?_eq_some_iff,
      socketDescriptor?_eq_some_iff.mpr opens, Option.some.injEq, eq_comm]
  rw [openBefore_succ_iff, only]
  unfold OpenBefore
  rw [List.mem_cons, or_assoc]

theorem readAt_zero_iff :
    ReadAt descriptors (line :: rest) 0 ↔
      descriptors.any (readsFrom · line) = true := by
  simp [ReadAt, OpenBefore]

theorem readAt_succ_iff_of_opens
    {opened : List Char} (opens : Opens line opened) :
    ReadAt descriptors (line :: rest) (position + 1) ↔
      ReadAt (opened :: descriptors) rest position := by
  unfold ReadAt
  simp only [List.getElem?_cons_succ, openBefore_succ_iff_of_opens opens]

/-- A line that reports no socket leaves the open descriptors as they are. -/
theorem readAt_succ_iff_of_not_opens
    (opensNothing : ∀ opened, ¬ Opens line opened) :
    ReadAt descriptors (line :: rest) (position + 1) ↔
      ReadAt descriptors rest position := by
  unfold ReadAt
  simp only [List.getElem?_cons_succ, openBefore_succ_iff, opensNothing,
    false_or]

end

/--
The scan succeeds exactly if some line reads from a descriptor that is open
before it.
-/
theorem readsAfter_eq_true_iff
    (descriptors scanned : List (List Char)) :
    readsAfter descriptors scanned = true ↔
      ∃ position, ReadAt descriptors scanned position := by
  induction scanned generalizing descriptors with
  | nil => simp [readsAfter, ReadAt]
  | cons line rest ih =>
      rw [← Nat.or_exists_add_one, readAt_zero_iff]
      unfold readsAfter
      cases found : socketDescriptor? line with
      | some opened =>
          have opens := socketDescriptor?_eq_some_iff.mp found
          have notHere : descriptors.any (readsFrom · line) = false :=
            List.any_eq_false.mpr fun other _ => by
              simp [opens.readsFrom_eq_false other]
          simp only [notHere, Bool.false_eq_true, false_or,
            readAt_succ_iff_of_opens opens]
          exact ih (opened :: descriptors)
      | none =>
          have opensNothing (opened : List Char) : ¬ Opens line opened := by
            rw [← socketDescriptor?_eq_some_iff, found]
            simp
          simp only [readAt_succ_iff_of_not_opens opensNothing]
          rw [Bool.or_eq_true, ih descriptors]

/--
Before the first line nothing is open, so every descriptor comes from an
earlier line.
-/
theorem readAt_nil_iff
    (scanned : List (List Char)) (second : Nat) :
    ReadAt [] scanned second ↔
      ∃ first < second, ∃ opening reading descriptor,
        scanned[first]? = some opening ∧
          scanned[second]? = some reading ∧
          Opens opening descriptor ∧ Reads reading descriptor := by
  unfold ReadAt OpenBefore
  constructor
  · rintro ⟨reading, descriptor, there, inherited | earlier, reads⟩
    · cases inherited
    · obtain ⟨first, before, opening, above, opens⟩ := earlier
      exact ⟨first, before, opening, reading, descriptor, above, there,
        opens, (readsFrom_eq_true_iff opens.comma_not_mem reading).mp reads⟩
  · rintro ⟨first, before, opening, reading, descriptor, above, there,
      opens, reads⟩
    exact ⟨reading, descriptor, there,
      Or.inr ⟨first, before, opening, above, opens⟩,
      (readsFrom_eq_true_iff opens.comma_not_mem reading).mpr reads⟩

/--
A trace is found to show a socket and a read from it exactly if there are two
lines for it: the one reports a socket with a descriptor, and the other comes
later and reads from that descriptor.  So a trial passes for sending its query
and receiving the response exactly if a query was captured and its trace, read
as text, has such lines.
-/
theorem finds_socket_then_read :
    (∀ trace : List Char,
      showsSocketThenRead trace = true ↔ SocketThenRead trace) ∧
      ∀ trial : Trial,
        Passes .sendAndReceive trial ↔
          trial.query ≠ [] ∧
            SocketThenRead (Utf8.decode trial.traceOutput) := by
  have finds (trace : List Char) :
      showsSocketThenRead trace = true ↔ SocketThenRead trace := by
    unfold showsSocketThenRead SocketThenRead
    rw [readsAfter_eq_true_iff, exists_comm]
    simp only [readAt_nil_iff, exists_and_left]
  refine ⟨finds, ?_⟩
  intro trial
  rw [← finds]
  unfold Passes check Check.sendAndReceive
  simp only [Option.some.injEq, exists_eq_left']
  split
  · next silent => simp [silent, Outcome.isPass, Outcome.fail]
  · next sent =>
    split
    · next shown => simp [sent, shown, Outcome.isPass, Outcome.pass]
    · next unseen => simp [unseen, Outcome.isPass, Outcome.fail]

example :
    showsSocketThenRead "socket(2, 2) = 1\nread(12, 0, 9) = 9\n".toList =
        false ∧
      showsSocketThenRead "socket(2, 2) = 12\nrecv(12, 0, 9) = 9\n".toList =
        true := by
  decide +kernel

end ResolverGrader.Trace
