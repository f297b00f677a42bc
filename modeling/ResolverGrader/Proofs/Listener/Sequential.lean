import ResolverGrader.Proofs.Listener.SingleShot
import ResolverGrader.Proofs.Submission.Obstacles

/-!
# Runs on a host as interleavings

On a host a run is described without its steps: the datagrams that reach the
listener are given, and the request is what a listener captures of them.  There
is an interleaving for each such run, in which the same datagrams arrive in
time and the child ends in the same way.  Every other interleaving with these
arrivals in time comes to the same request and the same replies.
-/

namespace ResolverGrader.Interleaving

open ResolverGrader.Host ResolverGrader.Net

variable {staging : Staging} {events : List Event}

/-! ## Scenes of a run that nothing delays -/

/-- The listener waits and the child runs; no time has passed. -/
def listening (staging : Staging) (queue : List Datagram)
    (noted : Option Nat) : Scene where
  clock := 0
  task := .receiving
  ready := none
  executor := .watching (0 + staging.runTimeout)
  child := .running
  inFlight := []
  queue
  listenerDeadline := some (0 + staging.timeout)
  firstArrival := noted

/-- The listener has returned and the child still runs. -/
def answered (staging : Staging) (clock : Nat) (request : Octets)
    (queue : List Datagram) (noted : Option Nat) : Scene :=
  { listening staging queue noted with
    clock, task := .returned request }

theorem runs_listening (staging : Staging) (address : SocketAddress) :
    Runs staging
      [.bound address, .announced address, .readied address,
        .launched (staging.arguments address)]
      (listening staging [] none) := by
  have bound : Runs staging [.bound address] _ :=
    Runs.start.step (.bind address rfl)
  have announced : Runs staging [.bound address, .announced address] _ :=
    bound.step (.announce rfl)
  have readied :
      Runs staging
        [.bound address, .announced address, .readied address] _ :=
    announced.step (.takeAddress rfl rfl)
  exact readied.step (.launch rfl)

/-- Datagrams that are sent and delivered, one after the other. -/
def deliveries (datagrams : List Datagram) : List Event :=
  datagrams.flatMap fun datagram => [.sent datagram, .arrived datagram]

theorem arrivals_append (first second : List Event) :
    arrivals (first ++ second) = arrivals first ++ arrivals second :=
  List.filterMap_append

theorem arrivals_deliveries (datagrams : List Datagram) :
    arrivals (deliveries datagrams) = datagrams := by
  induction datagrams with
  | nil => rfl
  | cons datagram rest ih =>
      exact congrArg (datagram :: ·) ih

theorem arrivals_ticks (ticks : Nat) :
    arrivals (List.replicate ticks .ticked) = [] := by
  induction ticks with
  | zero => rfl
  | succ ticks ih => exact ih

/--
When the first datagram was delivered, if some are delivered at the very
beginning.
-/
def notedAfter (noted : Option Nat) (datagrams : List Datagram) :
    Option Nat :=
  if datagrams = [] then noted else noted.or (some 0)

theorem runs_deliveries
    {queue : List Datagram} {noted : Option Nat}
    (run : Runs staging events (listening staging queue noted))
    (datagrams : List Datagram) :
    Runs staging (events ++ deliveries datagrams)
      (listening staging (queue ++ datagrams)
        (notedAfter noted datagrams)) := by
  induction datagrams generalizing events queue noted with
  | nil => simpa [deliveries, notedAfter] using run
  | cons datagram rest ih =>
      have sent :
          Runs staging (events ++ [.sent datagram])
            { listening staging queue noted with
              inFlight := [datagram] } :=
        run.step (.send datagram nofun)
      have arrived :
          Runs staging (events ++ [.sent datagram] ++ [.arrived datagram])
            (listening staging (queue ++ [datagram])
              (noted.or (some 0))) :=
        sent.step (.arrive [] [] rfl rfl)
      have noted_eq :
          notedAfter (noted.or (some 0)) rest =
            notedAfter noted (datagram :: rest) := by
        unfold notedAfter
        rw [if_neg (List.cons_ne_nil _ _)]
        split
        · rfl
        · cases noted <;> rfl
      have later := ih arrived
      rw [noted_eq] at later
      simpa [deliveries] using later

/-- Time passes where no datagram keeps it waiting. -/
theorem runs_ticks
    {scene : Scene} (run : Runs staging events scene)
    (free : scene.firstArrival = none ∨ scene.task.isOpen = false)
    (ticks : Nat) :
    Runs staging (events ++ List.replicate ticks .ticked)
      { scene with clock := scene.clock + ticks } := by
  induction ticks with
  | zero => simpa using run
  | succ ticks ih =>
      rw [List.replicate_succ', ← List.append_assoc]
      refine ih.step (.tick ?_)
      intro arrival noted isOpen
      rcases free with none | closed
      · cases none.symm.trans noted
      · cases closed.symm.trans isOpen

/-- A listener that is reached answers at once. -/
theorem runs_answered
    {first : Datagram} {later : List Datagram} {noted : Option Nat}
    (run :
      Runs staging events (listening staging (first :: later) noted)) :
    Runs staging
      (events ++
        [.received first, .replied ⟨first.sender, staging.response⟩])
      (answered staging 0 (first.payload.take Listener.maxCaptured) later
        noted) := by
  have received := run.step (.receive rfl rfl rfl)
  have replied := received.step (.reply rfl)
  rwa [List.append_assoc] at replied

/-- A listener that nothing reaches returns when its time is over. -/
theorem runs_expired
    (run : Runs staging events (listening staging [] none)) :
    Runs staging
      (events ++ (List.replicate staging.timeout .ticked ++ [.expired]))
      (answered staging (0 + staging.timeout) [] [] none) := by
  have elapsed := runs_ticks run (Or.inl rfl) staging.timeout
  have expired := elapsed.step (.expire rfl rfl (Nat.le_refl _))
  rwa [List.append_assoc] at expired

/-- The child has ended and the listener has been joined. -/
def joined (staging : Staging) (clock : Nat) (request : Octets)
    (queue : List Datagram) (noted : Option Nat) (exit : Exit) : Scene :=
  { answered staging clock request queue noted with
    child := .ended exit
    executor := .finished (clock + staging.timeout) request }

section

variable {clock : Nat} {request : Octets} {queue : List Datagram}
    {noted : Option Nat}

theorem runs_ended
    (run :
      Runs staging events (answered staging clock request queue noted))
    (exit : Exit) :
    Runs staging
      (events ++ [.ended exit, .noticed exit, .joined request])
      (joined staging clock request queue noted exit) := by
  have ended := run.step (.childEnds exit rfl)
  have noticed := ended.step (.notice rfl rfl)
  have joined := noticed.step (.join rfl rfl)
  rwa [List.append_assoc, List.append_assoc] at joined

/-- A child that does not end is killed when its time is over. -/
theorem runs_killed
    (run :
      Runs staging events (answered staging clock request queue noted)) :
    Runs staging
      (events ++ (List.replicate staging.runTimeout .ticked ++
        [.killed, .joined request]))
      (joined staging (clock + staging.runTimeout) request queue noted
        .timedOut) := by
  have elapsed := runs_ticks run (Or.inr rfl) staging.runTimeout
  have killed := elapsed.step (.kill rfl (by
    show 0 + staging.runTimeout ≤ clock + staging.runTimeout
    omega))
  have joined := killed.step (.join rfl rfl)
  rwa [List.append_assoc, List.append_assoc] at joined

theorem inTime_joined
    (enough : noted ≠ none → staging.latency < staging.timeout)
    (beginning : noted = none ∨ noted = some 0) (exit : Exit) :
    InTime staging (joined staging clock request queue noted exit) := by
  constructor
  all_goals
    rintro ⟨arrival, limit, same, limited, elapsed⟩
    rw [show noted = some arrival from same] at enough beginning
    have first : arrival = 0 := by simpa using beginning
    have long := enough (by simp)
    obtain rfl := Option.some.inj limited
    omega

end

/-! ## A run for any datagrams -/

theorem exists_answered
    (staging : Staging) (address : SocketAddress)
    (datagrams : List Datagram) :
    ∃ events clock request queue noted,
      Runs staging events
          (answered staging clock request queue noted) ∧
        .launched (staging.arguments address) ∈ events ∧
        arrivals events = datagrams ∧
        (noted = none ∨ noted = some 0 ∧ datagrams ≠ []) := by
  have begun := runs_listening staging address
  cases datagrams with
  | nil =>
      refine ⟨_, _, _, _, _, runs_expired begun, by simp, ?_,
        Or.inl rfl⟩
      rw [arrivals_append, arrivals_append, arrivals_ticks]
      rfl
  | cons first later =>
      have delivered := runs_deliveries begun (first :: later)
      refine ⟨_, _, _, _, _, runs_answered delivered, by simp, ?_,
        Or.inr ⟨?_, List.cons_ne_nil _ _⟩⟩
      · rw [arrivals_append, arrivals_append, arrivals_deliveries]
        exact List.append_nil _
      · unfold notedAfter
        rw [if_neg (List.cons_ne_nil _ _)]
        rfl

/--
Any datagrams can arrive in time, and the child can end in any way after that.
-/
theorem exists_run
    (staging : Staging) (address : SocketAddress)
    (datagrams : List Datagram) (exit : Exit)
    (enough : datagrams ≠ [] → staging.latency < staging.timeout) :
    ∃ events scene,
      Runs staging events scene ∧
        .launched (staging.arguments address) ∈ events ∧
        arrivals events = datagrams ∧
        InTime staging scene ∧
        (∃ deadline request,
          scene.executor = .finished deadline request) ∧
        (exit = .timedOut → .killed ∈ events) ∧
        (exit ≠ .timedOut → .ended exit ∈ events) := by
  obtain ⟨events, clock, request, queue, noted, run, launched, arrived,
    beginning⟩ := exists_answered staging address datagrams
  have inTime {clock : Nat} {exit : Exit} :
      InTime staging
        (joined staging clock request queue noted exit) := by
    refine inTime_joined ?_ ?_ exit
    · intro reached
      rcases beginning with none | ⟨_, some⟩
      · exact absurd none reached
      · exact enough some
    · exact beginning.imp_right And.left
  by_cases cutOff : exit = .timedOut
  · refine ⟨_, _, runs_killed run, by simp [launched], ?_, inTime,
      ⟨_, _, rfl⟩, by simp, fun other => absurd cutOff other⟩
    rw [arrivals_append, arrivals_append, arrivals_ticks, arrived]
    exact List.append_nil _
  · refine ⟨_, _, runs_ended run exit, by simp [launched], ?_, inTime,
      ⟨_, _, rfl⟩, fun same => absurd same cutOff, by simp⟩
    rw [arrivals_append, arrived]
    exact List.append_nil _

/-! ## Runs on a host -/

theorem ticks_pos_of_heard_ne_nil
    {network : Network} {listener : SocketAddress} {timeout : Duration}
    {datagrams : List Datagram}
    (reached :
      Submission.heard network listener timeout datagrams ≠ []) :
    0 < timeout.ticks := by
  refine Nat.pos_of_ne_zero fun elapsed => ?_
  have zero : timeout.isZero = true := by
    unfold Duration.ticks at elapsed
    have seconds : timeout.seconds = 0 :=
      UInt64.toNat_inj.mp (by
        show timeout.seconds.toNat = 0
        omega)
    have nanoseconds : timeout.nanoseconds = 0 :=
      UInt32.toNat_inj.mp (by
        show timeout.nanoseconds.toNat = 0
        omega)
    simp [Duration.isZero, seconds, nanoseconds]
  obtain ⟨datagram, member⟩ := List.exists_mem_of_ne_nil _ reached
  exact Bool.false_ne_true
    ((Submission.mem_heard.mp member).1.symm.trans zero)

/--
A run that succeeds on a host is an interleaving: the datagrams that are heard
arrive in time, and the request and the replies are those of this interleaving.
-/
theorem run_interleaved
    {host : Host} {settings : Settings} {queryName : String}
    {response : Octets} {instrument : Instrument} {world : World}
    {result : Run}
    (succeeded :
      ((Submission.run host settings queryName response
        instrument).runOn world).1 = .ok result) :
    ∃ address child events scene deadline,
      Submission.Launched host settings queryName instrument world
          address child ∧
        let staging : Staging :=
          ⟨settings, queryName, response, instrument, 0⟩
        let heard :=
          Submission.heard host.network address settings.timeout
            child.datagrams
        Runs staging events scene ∧
          .launched (staging.arguments address) ∈ events ∧
          arrivals events = heard ∧
          InTime staging scene ∧
          scene.executor = .finished deadline result.request ∧
          replies events =
            (Listener.deliverAll response .waiting heard).2 ∧
          (result.exit = .timedOut → .killed ∈ events) ∧
          (result.exit ≠ .timedOut → .ended result.exit ∈ events) := by
  obtain ⟨address, bound, child, execution, listening, launched, _,
    recorded⟩ := Submission.run_eq_ok succeeded
  let staging : Staging := ⟨settings, queryName, response, instrument, 0⟩
  let heard :=
    Submission.heard host.network address settings.timeout
      child.datagrams
  obtain ⟨events, scene, run, started, arrived, inTime,
      ⟨deadline, request, finished⟩, killed, ended⟩ :=
    exists_run staging address heard result.exit
      ticks_pos_of_heard_ne_nil
  have answers := answers_of_finished run inTime finished
  rw [arrived] at answers
  have captured : result.request = request := by
    rw [answers.request, recorded]
    cases instrument <;> rfl
  rw [← captured] at finished
  exact ⟨address, child, events, scene, deadline,
    ⟨bound, listening, launched⟩, run, started, arrived, inTime,
    finished, answers.sent, killed, ended⟩

end ResolverGrader.Interleaving
