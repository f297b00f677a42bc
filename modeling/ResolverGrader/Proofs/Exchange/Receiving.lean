import Mathlib.Data.List.Basic
import ResolverGrader.Exchange

/-!
# Waiting for the response

What arrives at a socket is looked at one receipt after the other.  A datagram
that does not hold the response is passed over; everything else ends the
waiting, and so does the last receipt that there is a budget for.  So the first
receipt within the budget that is not passed over decides.

`Waits` follows the waiting receipt by receipt, and says which ones are
received at all.
-/

namespace ResolverGrader.Exchange

open ResolverGrader.Dns ResolverGrader.Host

/-- A receipt that brings the response with an identifier. -/
structure Brings
    (id : UInt16) (receipt : Receipt) (message : Message)
    (octets : Octets) : Prop where
  /--
  The octets are a datagram, of which no more than 4096 octets are looked at.
  -/
  received : ∃ payload, receipt = .datagram payload ∧
    octets = payload.take 4096
  decoded : Message.decode? octets = some message
  sameId : message.id = id
  response : message.isResponse = true

/-- A datagram that does not bring the response. -/
def IsStray (id : UInt16) (receipt : Receipt) : Prop :=
  (∃ payload, receipt = .datagram payload) ∧
    ∀ message octets, ¬ Brings id receipt message octets

/-- What a receipt decides, unless it is passed over. -/
def verdict? (id : UInt16) :
    Receipt → Option (Except Silence (Message × Octets))
  | .datagram payload =>
    (matching? id (payload.take maxReceived)).map
      fun message => .ok (message, payload.take maxReceived)
  | .failed error => some (.error (.broken error))
  | .deadline => some (.error .unanswered)

section

variable {id : UInt16} {receipt : Receipt}

theorem verdict?_eq_ok_iff {message : Message} {octets : Octets} :
    verdict? id receipt = some (.ok (message, octets)) ↔
      Brings id receipt message octets := by
  constructor
  · intro decided
    cases receipt with
    | datagram payload =>
        obtain ⟨_, found, same⟩ := Option.map_eq_some_iff.mp decided
        cases same
        obtain ⟨decoded, suits⟩ := Option.filter_eq_some_iff.mp found
        rw [Bool.and_eq_true, decide_eq_true_eq] at suits
        exact ⟨⟨payload, rfl, rfl⟩, decoded, suits.1, suits.2⟩
    | failed error => cases decided
    | deadline => cases decided
  · rintro ⟨⟨payload, rfl, rfl⟩, decoded, sameId, response⟩
    refine Option.map_eq_some_iff.mpr ⟨message, ?_, rfl⟩
    refine Option.filter_eq_some_iff.mpr ⟨decoded, ?_⟩
    rw [Bool.and_eq_true, decide_eq_true_eq]
    exact ⟨sameId, response⟩

theorem verdict?_eq_broken_iff {error : IoError} :
    verdict? id receipt = some (.error (.broken error)) ↔
      receipt = .failed error := by
  cases receipt with
  | datagram payload => simp [verdict?]
  | failed other => simp [verdict?]
  | deadline => simp [verdict?]

theorem verdict?_eq_none_iff :
    verdict? id receipt = none ↔ IsStray id receipt := by
  constructor
  · intro undecided
    cases receipt with
    | datagram payload =>
        refine ⟨⟨payload, rfl⟩, ?_⟩
        intro message octets brings
        rw [verdict?_eq_ok_iff.mpr brings] at undecided
        cases undecided
    | failed error => cases undecided
    | deadline => cases undecided
  · rintro ⟨⟨payload, rfl⟩, bringsNone⟩
    refine Option.map_eq_none_iff.mpr ?_
    by_contra found
    obtain ⟨message, found⟩ := Option.ne_none_iff_exists'.mp found
    refine bringsNone message (payload.take maxReceived)
      (verdict?_eq_ok_iff.mp ?_)
    exact Option.map_eq_some_iff.mpr ⟨message, found, rfl⟩

end

theorem Brings.length_le
    {id : UInt16} {receipt : Receipt} {message : Message}
    {octets : Octets} (brings : Brings id receipt message octets) :
    octets.length ≤ 4096 := by
  obtain ⟨payload, _, rfl⟩ := brings.received
  exact List.length_take_le _ _

/-! ## Receipt by receipt -/

/-- A receipt decides, or one is left less for the others. -/
theorem awaitResponse_cons
    (id : UInt16) (left : Nat) (receipt : Receipt) (rest : List Receipt) :
    awaitResponse id (left + 1) (receipt :: rest) =
      (verdict? id receipt).getD (awaitResponse id left rest) := by
  cases receipt with
  | datagram payload =>
      rw [awaitResponse, verdict?]
      cases matching? id (payload.take maxReceived) <;> rfl
  | failed error => rfl
  | deadline => rfl

/--
Waiting with a budget of receipts: what arrives, what of it is received, and
what comes of it.  Where nothing arrives any more, the deadline is what is
waited for.
-/
inductive Waits (id : UInt16) :
    Nat → List Receipt → List Receipt →
      Except Silence (Message × Octets) → Prop where
  | spent (arriving : List Receipt) :
      Waits id 0 arriving [] (.error .unanswered)
  | silent (left : Nat) :
      Waits id (left + 1) [] [.deadline] (.error .unanswered)
  | decided
      (left : Nat) {receipt : Receipt} (rest : List Receipt)
      {result : Except Silence (Message × Octets)}
      (decides : verdict? id receipt = some result) :
      Waits id (left + 1) (receipt :: rest) [receipt] result
  | stray
      {left : Nat} {receipt : Receipt} {rest received : List Receipt}
      {result : Except Silence (Message × Octets)}
      (undecided : verdict? id receipt = none)
      (later : Waits id left rest received result) :
      Waits id (left + 1) (receipt :: rest) (receipt :: received) result

section

variable {id : UInt16} {left : Nat} {arriving received : List Receipt}
  {result : Except Silence (Message × Octets)}

theorem exists_waits
    (id : UInt16) (left : Nat) (arriving : List Receipt) :
    ∃ received,
      Waits id left arriving received (awaitResponse id left arriving) := by
  induction left generalizing arriving with
  | zero => exact ⟨[], .spent arriving⟩
  | succ left ih =>
      cases arriving with
      | nil => exact ⟨[.deadline], .silent left⟩
      | cons receipt rest =>
          rw [awaitResponse_cons]
          cases decides : verdict? id receipt with
          | some result => exact ⟨[receipt], .decided left rest decides⟩
          | none =>
              obtain ⟨received, later⟩ := ih rest
              exact ⟨receipt :: received, .stray decides later⟩

theorem Waits.result_eq (waits : Waits id left arriving received result) :
    result = awaitResponse id left arriving := by
  induction waits with
  | spent _ => rfl
  | silent _ => rfl
  | decided left rest decides => rw [awaitResponse_cons, decides]; rfl
  | stray undecided _ ih => rw [awaitResponse_cons, undecided, ih]; rfl

/-- No more is received than there is a budget for. -/
theorem Waits.length_le (waits : Waits id left arriving received result) :
    received.length ≤ left := by
  induction waits with
  | spent _ => exact Nat.le_refl 0
  | silent _ => exact Nat.succ_le_succ (Nat.zero_le _)
  | decided _ _ _ => exact Nat.succ_le_succ (Nat.zero_le _)
  | stray _ _ ih => exact Nat.succ_le_succ ih

/-- What is received is what arrives, in order, and then the deadline. -/
theorem Waits.isPrefix (waits : Waits id left arriving received result) :
    received <+: arriving ++ [.deadline] := by
  induction waits with
  | spent _ => exact List.nil_prefix
  | silent _ => exact List.prefix_rfl
  | decided _ rest _ => exact List.prefix_append _ (rest ++ [.deadline])
  | stray _ _ ih => exact (List.prefix_cons_inj _).mpr ih

end

/-! ## The receipt that decides -/

/--
The first receipt within the budget that decides anything decides what is
found.
-/
theorem awaitResponse_eq_getD
    (id : UInt16) (left : Nat) (receipts : List Receipt) :
    awaitResponse id left receipts =
      ((receipts.take left).findSome? (verdict? id)).getD
        (.error .unanswered) := by
  induction left generalizing receipts with
  | zero => simp [awaitResponse]
  | succ left ih =>
      cases receipts with
      | nil => rfl
      | cons receipt rest =>
          rw [awaitResponse_cons, List.take_succ_cons, List.findSome?_cons,
            ih]
          cases verdict? id receipt <;> rfl

section

variable {id : UInt16} {budget : Nat} {receipts : List Receipt}

/--
What is found, unless it is silence to the end, is what one receipt decides
after strays.
-/
theorem awaitResponse_eq_iff
    {result : Except Silence (Message × Octets)}
    (heard : result ≠ .error .unanswered) :
    awaitResponse id budget receipts = result ↔
      ∃ before receipt, before ++ [receipt] <+: receipts ∧
        before.length < budget ∧
        (∀ earlier ∈ before, IsStray id earlier) ∧
        verdict? id receipt = some result := by
  have within (before : List Receipt) (receipt : Receipt) :
      before ++ [receipt] <+: receipts.take budget ↔
        before ++ [receipt] <+: receipts ∧ before.length < budget := by
    rw [List.prefix_take_iff, List.length_append, List.length_singleton,
      Nat.succ_le_iff]
  rw [awaitResponse_eq_getD, Option.getD_eq_iff,
    or_iff_left fun silent => heard silent.2.symm,
    List.findSome?_eq_some_iff]
  constructor
  · rintro ⟨before, receipt, after, cut, decides, strays⟩
    obtain ⟨arrives, soon⟩ := (within before receipt).mp
      ⟨after, by rw [cut, List.append_assoc, List.singleton_append]⟩
    exact ⟨before, receipt, arrives, soon,
      fun earlier member => verdict?_eq_none_iff.mp (strays earlier member),
      decides⟩
  · rintro ⟨before, receipt, arrives, soon, strays, decides⟩
    obtain ⟨after, cut⟩ := (within before receipt).mpr ⟨arrives, soon⟩
    refine ⟨before, receipt, after, ?_, decides,
      fun earlier member => verdict?_eq_none_iff.mpr (strays earlier member)⟩
    rw [← cut, List.append_assoc, List.singleton_append]

/--
A response that stands behind nothing but datagrams is found, or one of these
is.
-/
theorem exists_awaitResponse_eq_ok
    {before : List Receipt} {receipt : Receipt} {message : Message}
    {octets : Octets}
    (arrives : before ++ [receipt] <+: receipts)
    (soon : before.length < budget)
    (datagrams : ∀ earlier ∈ before,
      ∃ payload, earlier = .datagram payload)
    (brings : Brings id receipt message octets) :
    ∃ found, awaitResponse id budget receipts = .ok found := by
  obtain ⟨left, rfl⟩ :=
    Nat.exists_eq_add_one_of_ne_zero (Nat.ne_zero_of_lt soon)
  obtain ⟨after, rfl⟩ := arrives
  -- Each datagram in front either holds the response itself or is passed over.
  induction before generalizing left with
  | nil =>
      refine ⟨(message, octets), ?_⟩
      rw [List.nil_append, List.singleton_append, awaitResponse_cons,
        verdict?_eq_ok_iff.mpr brings]
      rfl
  | cons first more ih =>
      obtain ⟨⟨payload, rfl⟩, others⟩ := List.forall_mem_cons.mp datagrams
      rw [List.cons_append, List.cons_append, awaitResponse_cons, verdict?]
      cases matching? id (payload.take maxReceived) with
      | some found => exact ⟨_, rfl⟩
      | none =>
          have sooner : more.length < left := Nat.lt_of_succ_lt_succ soon
          obtain ⟨left, rfl⟩ :=
            Nat.exists_eq_add_one_of_ne_zero (Nat.ne_zero_of_lt sooner)
          exact ih others left sooner

/-! ## Three receipts -/

/--
What becomes of waiting for the response, in terms of the receipts that there
are.
-/
structure Settles
    (id : UInt16) (receipts : List Receipt)
    (result : Except Silence (Message × Octets)) : Prop where
  /-- The response is found behind at most two datagrams without it. -/
  found : ∀ message octets, result = .ok (message, octets) ↔
    ∃ before receipt, before ++ [receipt] <+: receipts ∧
      before.length < 3 ∧ (∀ earlier ∈ before, IsStray id earlier) ∧
      Brings id receipt message octets
  /--
  It is found whenever it is there and only datagrams are in front of it.
  -/
  succeeds : (∃ accepted, result = .ok accepted) ↔
    ∃ before receipt message octets, before ++ [receipt] <+: receipts ∧
      before.length < 3 ∧
      (∀ earlier ∈ before, ∃ payload, earlier = .datagram payload) ∧
      Brings id receipt message octets
  /-- An error of the socket is met behind at most two such datagrams. -/
  broken : ∀ error, result = .error (.broken error) ↔
    ∃ before, before ++ [.failed error] <+: receipts ∧
      before.length < 3 ∧ ∀ earlier ∈ before, IsStray id earlier
  /-- There is no third way to end but silence. -/
  unanswered : (∀ accepted, result ≠ .ok accepted) →
    (∀ error, result ≠ .error (.broken error)) →
      result = .error .unanswered
  /-- There is a way to wait for that. -/
  waits : ∃ received, Waits id 3 receipts received result
  /--
  Every way to wait takes three receipts at most, and they are the first ones.
  -/
  budget : ∀ received other, Waits id 3 receipts received other →
    other = result ∧ received.length ≤ 3 ∧
      received <+: receipts ++ [.deadline]

theorem settles_awaitResponse (id : UInt16) (receipts : List Receipt) :
    Settles id receipts (awaitResponse id 3 receipts) := by
  have found (message : Message) (octets : Octets) :
      awaitResponse id 3 receipts = .ok (message, octets) ↔
        ∃ before receipt, before ++ [receipt] <+: receipts ∧
          before.length < 3 ∧ (∀ earlier ∈ before, IsStray id earlier) ∧
          Brings id receipt message octets := by
    refine (awaitResponse_eq_iff ?_).trans ?_
    · nofun
    · simp only [verdict?_eq_ok_iff]
  refine ⟨found, ?_, ?_, ?_, exists_waits id 3 receipts, ?_⟩
  · constructor
    · rintro ⟨⟨message, octets⟩, accepted⟩
      obtain ⟨before, receipt, arrives, soon, strays, brings⟩ :=
        (found message octets).mp accepted
      exact ⟨before, receipt, message, octets, arrives, soon,
        fun earlier member => (strays earlier member).1, brings⟩
    · rintro ⟨before, receipt, message, octets, arrives, soon, datagrams,
        brings⟩
      exact exists_awaitResponse_eq_ok arrives soon datagrams brings
  · intro error
    refine (awaitResponse_eq_iff ?_).trans ?_
    · nofun
    · simp only [verdict?_eq_broken_iff]
      constructor
      · rintro ⟨before, _, arrives, soon, strays, rfl⟩
        exact ⟨before, arrives, soon, strays⟩
      · rintro ⟨before, arrives, soon, strays⟩
        exact ⟨before, _, arrives, soon, strays, rfl⟩
  · intro notFound notBroken
    cases ended : awaitResponse id 3 receipts with
    | ok accepted => exact absurd ended (notFound accepted)
    | error silence =>
        cases silence with
        | broken error => exact absurd ended (notBroken error)
        | unanswered => rfl
  · intro received other waits
    exact ⟨waits.result_eq, waits.length_le, waits.isPrefix⟩

/--
A response is found behind two datagrams that are no messages, and no longer
behind three.
-/
example :
    let stray : Receipt := .datagram [0]
    let response : Receipt := .datagram [0, 7, 128, 0, 0, 0, 0, 0, 0, 0, 0, 0]
    (awaitResponse 7 3 [stray, stray, response]).isOk = true ∧
      awaitResponse 7 3 [stray, stray, stray, response] =
        .error .unanswered := by
  exact ⟨rfl, rfl⟩

end

end ResolverGrader.Exchange
