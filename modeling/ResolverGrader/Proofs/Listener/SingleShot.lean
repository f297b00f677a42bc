import ResolverGrader.Proofs.Listener.Interleaving

/-!
# The listener captures the first datagram, once

However the steps of the listener, the child and the executor are put together,
the request that is joined at the end and the replies that were sent are those
of a listener that is given the datagrams one after the other in the order of
their arrival.  There is one way out of this: a deadline that is over before
the listener is through with its first datagram, and then nothing is captured.
-/

namespace ResolverGrader.Interleaving

open ResolverGrader.Host ResolverGrader.Net

variable {staging : Staging} {events : List Event} {scene : Scene}

/-! ## What holds after every step -/

/--
The request and the replies are those of a listener that is given these
datagrams.
-/
structure Answers (response : Octets) (arrived : List Datagram)
    (request : Octets) (sent : List Reply) : Prop where
  request :
    request =
      (Listener.deliverAll response .waiting arrived).1.captured
  sent : sent = (Listener.deliverAll response .waiting arrived).2

/--
The deadline is over before the listener has to be through with its first
datagram.
-/
def Late (staging : Staging) (firstArrival deadline : Option Nat) :
    Prop :=
  ∃ arrival limit, firstArrival = some arrival ∧
    deadline = some limit ∧ limit ≤ arrival + staging.latency

/--
What has arrived has been answered, or it was late for a deadline and nothing
was captured.
-/
def Settled (staging : Staging) (scene : Scene)
    (deadline : Option Nat) (arrived : List Datagram)
    (request : Octets) (sent : List Reply) : Prop :=
  Answers staging.response arrived request sent ∨
    request = [] ∧ sent = [] ∧
      Late staging scene.firstArrival deadline

/-- Where the listener stands with what has arrived and what it has sent. -/
def TaskSound (staging : Staging) (scene : Scene)
    (arrived : List Datagram) (sent : List Reply) : Task → Prop
  | .unbound | .failed => scene.queue = [] ∧ arrived = [] ∧ sent = []
  | .bound _ | .receiving => scene.queue = arrived ∧ sent = []
  | .replying listener reply =>
      sent = [] ∧
        ∃ first later, arrived = first :: later ∧
          Listener.deliver staging.response .waiting first =
            (listener, some reply)
  | .returned request =>
      Settled staging scene scene.listenerDeadline arrived request sent
  | .abandoned => sent = []

/--
Whether the listener is through with everything, in one way or the other.
-/
def Task.isOver : Task → Bool
  | .returned _ | .abandoned => true
  | .unbound | .bound _ | .receiving | .replying .. | .failed => false

theorem Task.isOver_of_isOpen {task : Task} (isOpen : task.isOpen = true) :
    task.isOver = false := by
  cases task <;> first | rfl | cases isOpen

/--
A listener that has been joined is through, and the request is settled; it is
abandoned for nothing else.
-/
def ExecutorSound (staging : Staging) (scene : Scene)
    (arrived : List Datagram) (sent : List Reply) : Executor → Prop
  | .finished deadline request =>
      scene.task.isOver = true ∧
        (Settled staging scene scene.listenerDeadline arrived request
            sent ∨
          Settled staging scene (some deadline) arrived request sent)
  | _ => scene.task ≠ .abandoned

/--
The first arrival has been noted, and time has waited for the listener since.
-/
structure Prompt (staging : Staging) (scene : Scene)
    (arrived : List Datagram) : Prop where
  noted : scene.firstArrival = none ↔ arrived = []
  waited :
    ∀ arrival, scene.firstArrival = some arrival →
      scene.task.isOpen = true →
        scene.clock ≤ arrival + staging.latency

/-- What holds of a scene and of the events that have led to it. -/
structure Sound (staging : Staging) (events : List Event)
    (scene : Scene) : Prop where
  task :
    TaskSound staging scene (arrivals events) (replies events)
      scene.task
  executor :
    ExecutorSound staging scene (arrivals events) (replies events)
      scene.executor
  prompt : Prompt staging scene (arrivals events)

theorem sound_start : Sound staging [] .start where
  task := ⟨rfl, rfl, rfl⟩
  executor := nofun
  prompt := ⟨by simp [Scene.start, arrivals], nofun⟩

theorem noted_of_step
    {event : Event} {next : Scene}
    (noted : scene.firstArrival = none ↔ arrivals events = [])
    (taken : Step staging scene event next) :
    next.firstArrival = none ↔ arrivals (events ++ [event]) = [] := by
  rw [arrivals_concat]
  cases taken with
  | arrive => simp [Event.arrival?]
  | _ => simpa [Event.arrival?] using noted

theorem waited_of_step
    {event : Event} {next : Scene} (sound : Sound staging events scene)
    (taken : Step staging scene event next) {arrival : Nat}
    (first : next.firstArrival = some arrival)
    (isOpen : next.task.isOpen = true) :
    next.clock ≤ arrival + staging.latency := by
  obtain ⟨noted, waited⟩ := sound.prompt
  cases taken with
  | bind address unbound =>
      -- nothing can have arrived before the socket is open
      have task := sound.task
      rw [unbound] at task
      rw [show scene.firstArrival = none from noted.mpr task.2.1] at first
      cases first
  | arrive _ _ travelling isOpen =>
      cases earlier : scene.firstArrival with
      | none =>
          simp only [earlier, Option.none_or, Option.some.injEq] at first
          show scene.clock ≤ _
          omega
      | some earlierArrival =>
          simp only [earlier, Option.some_or, Option.some.injEq] at first
          subst first
          exact waited _ earlier isOpen
  | tick ready => exact ready arrival first isOpen
  | announce before | receive before =>
      exact waited arrival first (by rw [before]; rfl)
  | bindFails | receiveFails | expire | reply | joinExpires =>
      cases isOpen
  | _ => exact waited arrival first isOpen

/--
A deadline that is over while a datagram waits for the listener is one to be
late for.
-/
theorem late_of_over
    {arrived : List Datagram} {limit : Nat} {deadline : Option Nat}
    (prompt : Prompt staging scene arrived)
    (isOpen : scene.task.isOpen = true) (reached : arrived ≠ [])
    (limited : deadline = some limit) (elapsed : limit ≤ scene.clock) :
    Late staging scene.firstArrival deadline := by
  cases first : scene.firstArrival with
  | none => exact absurd (prompt.noted.mp first) reached
  | some arrival =>
      have waited := prompt.waited arrival first isOpen
      exact ⟨arrival, limit, rfl, limited, by omega⟩

theorem answers_nil (response : Octets) :
    Answers response [] [] [] :=
  ⟨rfl, rfl⟩

theorem answers_of_deliver
    {response : Octets} {first : Datagram} {later : List Datagram}
    {listener : Listener} {reply : Reply}
    (delivered :
      Listener.deliver response .waiting first =
        (listener, some reply)) :
    Answers response (first :: later) listener.captured [reply] := by
  obtain ⟨rfl, answered⟩ := Prod.mk.inj delivered
  obtain rfl := Option.some.inj answered
  constructor <;> rw [Listener.deliverAll_waiting_cons]

/-- A listener that has not returned has answered nothing. -/
theorem replies_eq_nil_of_not_returned
    (sound : Sound staging events scene)
    (late : ∀ request, scene.task ≠ .returned request) :
    replies events = [] := by
  have task := sound.task
  cases same : scene.task with
  | returned request => exact absurd same (late request)
  | unbound | failed =>
      rw [same] at task
      exact task.2.2
  | bound | receiving =>
      rw [same] at task
      exact task.2
  | replying =>
      rw [same] at task
      exact task.1
  | abandoned =>
      rw [same] at task
      exact task

theorem taskSound_of_quiet
    {event : Event} {next : Scene} (sound : Sound staging events scene)
    (taken : Step staging scene event next) (quiet : event.IsQuiet) :
    TaskSound staging next (arrivals events) (replies events)
      next.task := by
  have task := sound.task
  cases taken with
  | arrive => cases quiet.1
  | reply => cases quiet.2
  | bind address unbound =>
      rw [unbound] at task
      obtain ⟨empty, nothing, silent⟩ := task
      exact ⟨empty.trans nothing.symm, silent⟩
  | bindFails unbound =>
      rw [unbound] at task
      exact task
  | announce bound =>
      rw [bound] at task
      exact task
  | receive receiving waiting delivered =>
      rw [receiving] at task
      exact ⟨task.2, _, _, task.1.symm.trans waiting, delivered⟩
  | receiveFails receiving idle =>
      rw [receiving] at task
      obtain ⟨queued, silent⟩ := task
      rw [← queued, idle, silent]
      exact Or.inl (answers_nil _)
  | expire receiving limited elapsed =>
      rw [receiving] at task
      obtain ⟨queued, silent⟩ := task
      rw [silent]
      by_cases nothing : arrivals events = []
      · rw [nothing]
        exact Or.inl (answers_nil _)
      · have late := late_of_over sound.prompt (by rw [receiving]; rfl)
          nothing limited elapsed
        exact Or.inr ⟨rfl, rfl, late⟩
  | joinExpires joining elapsed late =>
      exact replies_eq_nil_of_not_returned sound late
  | _ => exact task

theorem taskSound_of_step
    {event : Event} {next : Scene} (sound : Sound staging events scene)
    (taken : Step staging scene event next) :
    TaskSound staging next (arrivals (events ++ [event]))
      (replies (events ++ [event])) next.task := by
  have task := sound.task
  by_cases quiet : event.IsQuiet
  · rw [arrivals_concat_of_quiet quiet, replies_concat_of_quiet quiet]
    exact taskSound_of_quiet sound taken quiet
  rw [arrivals_concat, replies_concat]
  cases taken with
  | @arrive datagram _ _ travelling isOpen =>
      show TaskSound staging _ (arrivals events ++ [datagram])
        (replies events ++ []) scene.task
      rw [List.append_nil]
      cases same : scene.task with
      | bound | receiving =>
          rw [same] at task
          exact ⟨congrArg (· ++ [datagram]) task.1, task.2⟩
      | replying listener reply =>
          rw [same] at task
          obtain ⟨silent, first, later, arrived, delivered⟩ := task
          exact ⟨silent, first, later ++ [datagram],
            congrArg (· ++ [datagram]) arrived, delivered⟩
      | unbound | returned | failed | abandoned =>
          rw [same] at isOpen
          cases isOpen
  | @reply listener reply replying =>
      rw [replying] at task
      obtain ⟨silent, first, later, arrived, delivered⟩ := task
      show Settled staging _ _ (arrivals events ++ []) _
        (replies events ++ [reply])
      rw [List.append_nil, arrived, silent]
      exact Or.inl (answers_of_deliver delivered)
  | _ => exact absurd ⟨rfl, rfl⟩ quiet

/-- While the listener is not through, nobody has joined it. -/
theorem executorSound_of_going
    {next : Scene} {executor : Executor}
    {arrived arrived' : List Datagram} {sent sent' : List Reply}
    (sound : ExecutorSound staging scene arrived sent executor)
    (going : scene.task.isOver = false)
    (kept : next.task ≠ .abandoned) :
    ExecutorSound staging next arrived' sent' executor := by
  cases executor with
  | finished deadline request => cases going.symm.trans sound.1
  | _ => exact kept

theorem settled_of_joinExpires
    {deadline : Nat} (sound : Sound staging events scene)
    (joining : scene.executor = .joining deadline)
    (elapsed : deadline ≤ scene.clock)
    (late : ∀ request, scene.task ≠ .returned request) :
    Settled staging scene (some deadline) (arrivals events) []
      (replies events) := by
  have executor := sound.executor
  rw [joining] at executor
  rw [replies_eq_nil_of_not_returned sound late]
  by_cases nothing : arrivals events = []
  · rw [nothing]
    exact Or.inl (answers_nil _)
  have isOpen : scene.task.isOpen = true := by
    have task := sound.task
    cases same : scene.task with
    | bound | receiving | replying => rfl
    | unbound | failed =>
        rw [same] at task
        exact absurd task.2.1 nothing
    | returned request => exact absurd same (late request)
    | abandoned => exact absurd same executor
  exact Or.inr ⟨rfl, rfl,
    late_of_over sound.prompt isOpen nothing rfl elapsed⟩

theorem executorSound_of_step
    {event : Event} {next : Scene} (sound : Sound staging events scene)
    (taken : Step staging scene event next) :
    ExecutorSound staging next (arrivals (events ++ [event]))
      (replies (events ++ [event])) next.executor := by
  have executor := sound.executor
  cases taken with
  | arrive _ _ travelling isOpen =>
      refine executorSound_of_going executor
        (Task.isOver_of_isOpen isOpen) fun abandoned => ?_
      rw [show scene.task = .abandoned from abandoned] at isOpen
      cases isOpen
  | bind _ before | bindFails before | announce before | receive before
  | receiveFails before | expire before | reply before =>
      exact executorSound_of_going executor (by rw [before]; rfl) nofun
  | takeAddress before | giveUp before | launch before
  | launchFails before | notice before | waitFails before
  | kill before =>
      rw [before] at executor
      exact executor
  | join joining returned =>
      have settled := sound.task
      rw [returned] at settled
      rw [arrivals_concat_of_quiet ⟨rfl, rfl⟩,
        replies_concat_of_quiet ⟨rfl, rfl⟩]
      exact ⟨by rw [returned]; rfl, Or.inl settled⟩
  | joinExpires joining elapsed late =>
      have settled := settled_of_joinExpires sound joining elapsed late
      rw [arrivals_concat_of_quiet ⟨rfl, rfl⟩,
        replies_concat_of_quiet ⟨rfl, rfl⟩]
      exact ⟨rfl, Or.inr settled⟩
  | send | lose | childEnds | tick =>
      rw [arrivals_concat_of_quiet ⟨rfl, rfl⟩,
        replies_concat_of_quiet ⟨rfl, rfl⟩]
      exact executor

/-- What holds of a scene holds after every step from it. -/
theorem sound_of_step
    {event : Event} {next : Scene} (sound : Sound staging events scene)
    (taken : Step staging scene event next) :
    Sound staging (events ++ [event]) next where
  task := taskSound_of_step sound taken
  executor := executorSound_of_step sound taken
  prompt :=
    ⟨noted_of_step sound.prompt.noted taken,
      fun _ => waited_of_step sound taken⟩

theorem sound_of_runs (run : Runs staging events scene) :
    Sound staging events scene := by
  induction run with
  | start => exact sound_start
  | step _ taken ih => exact sound_of_step ih taken

/-! ## How the child learns the address -/

/--
An address is known only after the socket was bound to it, and there is no
other.
-/
structure Informed (events : List Event) (scene : Scene) : Prop where
  unbound :
    scene.task = .unbound → ∀ address, .bound address ∉ events
  bound :
    ∀ address, scene.task = .bound address → .bound address ∈ events
  ready :
    ∀ address, scene.ready = some address →
      .bound address ∈ events ∧ .announced address ∈ events
  launching :
    ∀ address, scene.executor = .launching address →
      .bound address ∈ events ∧ .announced address ∈ events
  single :
    ∀ first second, .bound first ∈ events → .bound second ∈ events →
      first = second

theorem informed_of_step
    {event : Event} {next : Scene} (informed : Informed events scene)
    (taken : Step staging scene event next) :
    Informed (events ++ [event]) next := by
  obtain ⟨unbound, bound, ready, launching, single⟩ := informed
  have keep {earlier : Event} (known : earlier ∈ events) :
      earlier ∈ events ++ [event] :=
    List.mem_append_left _ known
  have last : event ∈ events ++ [event] := List.mem_concat_self
  cases taken with
  | bind address before =>
      have only (other : SocketAddress)
          (known : .bound other ∈ events ++ [.bound address]) :
          other = address := by
        rcases List.mem_append.mp known with earlier | here
        · exact absurd earlier (unbound before other)
        · exact Event.bound.inj (List.mem_singleton.mp here)
      refine ⟨nofun, ?_, ?_, ?_, ?_⟩
      · rintro _ ⟨⟩
        exact last
      · exact fun other taken =>
          ⟨keep (ready other taken).1, keep (ready other taken).2⟩
      · exact fun other taken =>
          ⟨keep (launching other taken).1, keep (launching other taken).2⟩
      · exact fun first second here there =>
          (only first here).trans (only second there).symm
  | announce before =>
      constructor
      case ready =>
        rintro _ ⟨⟩
        exact ⟨keep (bound _ before), last⟩
      all_goals
        simp only [List.mem_append, List.mem_singleton]
        grind
  | takeAddress awaiting known =>
      constructor
      case launching =>
        rintro _ ⟨⟩
        exact ⟨keep (ready _ known).1, keep (ready _ known).2⟩
      all_goals
        simp only [List.mem_append, List.mem_singleton]
        grind
  | _ =>
      -- no other step tells anybody an address
      constructor
      all_goals
        simp only [List.mem_append, List.mem_singleton]
        grind

theorem informed_of_runs (run : Runs staging events scene) :
    Informed events scene := by
  induction run with
  | start => exact ⟨nofun, nofun, nofun, nofun, nofun⟩
  | step _ taken ih => exact informed_of_step ih taken

/--
A child is launched with the address of the socket, which was bound and
announced before.
-/
theorem bound_of_launched
    (run : Runs staging events scene)
    {before after : List Event} {arguments : List String}
    (launched : events = before ++ .launched arguments :: after) :
    ∃ address, .bound address ∈ before ∧ .announced address ∈ before ∧
      (∀ other, .bound other ∈ before → other = address) ∧
      arguments = staging.arguments address := by
  induction run generalizing after with
  | start => simp at launched
  | @step events event scene next run taken ih =>
      rcases List.eq_nil_or_concat after with rfl | ⟨more, last, rfl⟩
      · obtain ⟨rfl, same⟩ := List.append_inj' launched rfl
        obtain rfl := List.singleton_inj.mp same
        have informed := informed_of_runs run
        cases taken with
        | launch launching =>
            obtain ⟨bound, announced⟩ := informed.launching _ launching
            exact ⟨_, bound, announced,
              fun other known => informed.single _ _ known bound, rfl⟩
      · rw [List.concat_eq_append, ← List.cons_append,
          ← List.append_assoc] at launched
        exact ih (List.append_inj' launched rfl).1

/-! ## What is captured and answered -/

/-- The deadline for joining the listener, once there is one. -/
def Executor.joinDeadline? : Executor → Option Nat
  | .joining deadline | .finished deadline _ => some deadline
  | .awaiting | .launching _ | .watching _ | .failed => none

/--
If a datagram arrives at all, the first one leaves the listener enough time
before its own deadline and before that of those who join it.
-/
structure InTime (staging : Staging) (scene : Scene) : Prop where
  listener : ¬ Late staging scene.firstArrival scene.listenerDeadline
  join :
    ¬ Late staging scene.firstArrival scene.executor.joinDeadline?

/--
Nothing but the first datagram is ever answered, and it is not answered twice.
-/
theorem replies_eq
    (run : Runs staging events scene) :
    replies events = [] ∨
      ∃ first later, arrivals events = first :: later ∧
        replies events = [⟨first.sender, staging.response⟩] := by
  have sound := sound_of_runs run
  by_cases returned : ∃ request, scene.task = .returned request
  · obtain ⟨request, same⟩ := returned
    have settled := sound.task
    rw [same] at settled
    rcases settled with answers | ⟨_, silent, _⟩
    · rw [answers.sent]
      cases arrived : arrivals events with
      | nil => exact Or.inl rfl
      | cons first later =>
          rw [Listener.deliverAll_waiting_cons]
          exact Or.inr ⟨first, later, rfl, rfl⟩
    · exact Or.inl silent
  · exact Or.inl
      (replies_eq_nil_of_not_returned sound (not_exists.mp returned))

/--
What is joined in time is what a listener captures that is given the datagrams
one after the other.
-/
theorem answers_of_finished
    (run : Runs staging events scene) (inTime : InTime staging scene)
    {deadline : Nat} {request : Octets}
    (finished : scene.executor = .finished deadline request) :
    Answers staging.response (arrivals events) request
      (replies events) := by
  have executor := (sound_of_runs run).executor
  have join := inTime.join
  rw [finished] at executor join
  rcases executor.2 with settled | settled
  · exact settled.resolve_right fun missed =>
      inTime.listener missed.2.2
  · exact settled.resolve_right fun missed => join missed.2.2

/--
In whatever order the steps of a run are taken, a child is launched only after
the socket was bound, and with the address that it was bound to.  The first
datagram is the only one that is ever answered.  If it arrives in time, then
the request that is joined is as much of it as there is room for, and it has
been answered once, with the very response; the later datagrams, the way the
child ended and when have no part in this.  Where nothing arrives the request
is empty and nothing is answered.
-/
theorem first_datagram_captured_once
    (run : Runs staging events scene) :
    (∀ before arguments after,
      events = before ++ .launched arguments :: after →
        ∃ address,
          .bound address ∈ before ∧ .announced address ∈ before ∧
            (∀ other, .bound other ∈ before → other = address) ∧
            arguments =
              Submission.invocation staging.instrument
                staging.settings.tools staging.settings.build.binary
                staging.queryName address) ∧
      (replies events = [] ∨
        ∃ first later, arrivals events = first :: later ∧
          replies events = [⟨first.sender, staging.response⟩]) ∧
      (∀ first later, arrivals events = first :: later →
        InTime staging scene →
          ∀ deadline request,
            scene.executor = .finished deadline request →
              request = first.payload.take Listener.maxCaptured ∧
                replies events =
                  [⟨first.sender, staging.response⟩]) ∧
      (arrivals events = [] →
        replies events = [] ∧
          ∀ deadline request,
            scene.executor = .finished deadline request →
              request = []) := by
  refine ⟨?_, replies_eq run, ?_, ?_⟩
  · intro before arguments after launched
    exact bound_of_launched run launched
  · intro first later arrived inTime deadline request finished
    have answers := answers_of_finished run inTime finished
    rw [arrived] at answers
    obtain ⟨request_eq, sent_eq⟩ := answers
    rw [Listener.deliverAll_waiting_cons] at request_eq sent_eq
    exact ⟨request_eq, sent_eq⟩
  · intro nothing
    refine ⟨?_, ?_⟩
    · rcases replies_eq run with silent | ⟨first, later, arrived, _⟩
      · exact silent
      · rw [nothing] at arrived
        cases arrived
    · intro deadline request finished
      have unnoted := (sound_of_runs run).prompt.noted.mpr nothing
      have inTime : InTime staging scene := by
        constructor <;>
        · rintro ⟨arrival, _, noted, _⟩
          rw [unnoted] at noted
          cases noted
      have answers := answers_of_finished run inTime finished
      rw [nothing] at answers
      exact answers.request

/--
A datagram that overtakes another on the way is the one that is captured and
answered.
-/
theorem overtaking_datagram_captured :
    let listener : SocketAddress := .v4 ⟨127, 0, 0, 1⟩ 5000
    let settings : Settings :=
      ⟨.v4 ⟨127, 0, 0, 1⟩, some 5000, .ofSeconds 2, .ofSeconds 30,
        .v4 ⟨8, 8, 8, 8⟩ 53, ⟨"strace", "valgrind"⟩,
        ⟨"gcc", "resolver.c", "./resolver", false⟩, false⟩
    let staging : Staging := ⟨settings, ".", [9], .syscallTrace, 0⟩
    let slow : Datagram := ⟨.v4 ⟨127, 0, 0, 1⟩ 6000, [1]⟩
    let fast : Datagram := ⟨.v4 ⟨127, 0, 0, 1⟩ 6001, [2]⟩
    ∃ events scene deadline,
      Runs staging events scene ∧
        .bound listener ∈ events ∧
        arrivals events = [fast, slow] ∧
        InTime staging scene ∧
        scene.executor = .finished deadline [2] ∧
        replies events = [⟨fast.sender, [9]⟩] := by
  intro listener settings staging slow fast
  have launched :
      Runs staging
        [.bound listener, .announced listener, .readied listener,
          .launched (staging.arguments listener)]
        ⟨0, .receiving, none, .watching (0 + staging.runTimeout), .running, [],
          [], some (0 + staging.timeout), none⟩ :=
    (((Runs.start.step (.bind listener rfl)).step (.announce rfl)).step
      (.takeAddress rfl rfl)).step (.launch rfl)
  have overtaken :
      Runs staging
        [.bound listener, .announced listener, .readied listener,
          .launched (staging.arguments listener), .sent slow, .sent fast,
          .arrived fast]
        ⟨0, .receiving, none, .watching (0 + staging.runTimeout), .running,
          [slow], [fast], some (0 + staging.timeout), some 0⟩ :=
    ((launched.step (.send slow nofun)).step (.send fast nofun)).step
      (.arrive [slow] [] rfl rfl)
  have received :
      Runs staging
        [.bound listener, .announced listener, .readied listener,
          .launched (staging.arguments listener), .sent slow, .sent fast,
          .arrived fast, .arrived slow, .received fast]
        ⟨0, .replying (.done [2]) ⟨fast.sender, [9]⟩, none,
          .watching (0 + staging.runTimeout), .running, [], [slow],
          some (0 + staging.timeout), some 0⟩ :=
    (overtaken.step (.arrive [] [] rfl rfl)).step (.receive rfl rfl rfl)
  let last : Scene :=
    ⟨0, .returned [2], none, .finished (0 + staging.timeout) [2],
      .ended (.exited 0), [], [slow], some (0 + staging.timeout), some 0⟩
  have run :
      Runs staging
        [.bound listener, .announced listener, .readied listener,
          .launched (staging.arguments listener), .sent slow, .sent fast,
          .arrived fast, .arrived slow, .received fast,
          .replied ⟨fast.sender, [9]⟩, .ended (.exited 0),
          .noticed (.exited 0), .joined [2]]
        last :=
    (((received.step (.reply rfl)).step
      (.childEnds (.exited 0) rfl)).step (.notice rfl rfl)).step
        (.join rfl rfl)
  have inTime : InTime staging last := by
    constructor <;>
    · rintro ⟨_, _, ⟨⟩, ⟨⟩, elapsed⟩
      exact absurd elapsed (by decide)
  have captured :=
    (first_datagram_captured_once run).2.2.1 fast [slow] rfl inTime _ _
      rfl
  exact ⟨_, last, _, run, List.mem_cons_self, rfl, inTime, rfl,
    captured.2⟩

end ResolverGrader.Interleaving
