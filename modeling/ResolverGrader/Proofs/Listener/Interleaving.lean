import ResolverGrader.Submission

/-!
# The listener, the child and the executor

Three parties take part in a run of the submission: the task of the listener,
the child that is launched, and the executor, which starts both and waits for
them.  Datagrams travel from the child to the listener and may be delayed, lost
or overtaken on the way.  `Step` says what can happen next, by whomever, and
`Runs` puts steps together in any order.

Time is counted in nanoseconds and passes on its own.  Only a listener that a
datagram has reached keeps it waiting: it is through with its first datagram
within a latency, which may be zero.
-/

namespace ResolverGrader

/-- The nanoseconds of a duration. -/
def Duration.ticks (duration : Duration) : Nat :=
  1000000000 * duration.seconds.toNat + duration.nanoseconds.toNat

namespace Interleaving

open ResolverGrader.Host ResolverGrader.Net

/-- What a run of the submission is given. -/
structure Staging where
  settings : Settings
  queryName : String
  response : Octets
  instrument : Instrument
  /-- The longest that a listener takes over its first datagram. -/
  latency : Nat

/-- The task of the listener. -/
inductive Task where
  | unbound
  | bound (address : SocketAddress)
  | receiving
  | replying (listener : Listener) (reply : Reply)
  | returned (request : Octets)
  | failed
  /-- It was given up before it could return. -/
  | abandoned

/-- Whether the socket of the listener is open. -/
def Task.isOpen : Task → Bool
  | .bound _ | .receiving | .replying .. => true
  | .unbound | .returned _ | .failed | .abandoned => false

/-- What the executor is doing. -/
inductive Executor where
  | awaiting
  | launching (address : SocketAddress)
  | watching (deadline : Nat)
  | joining (deadline : Nat)
  /-- It has joined the listener, with this request and by this deadline. -/
  | finished (deadline : Nat) (request : Octets)
  | failed

/-- The child. -/
inductive Process where
  | unstarted
  | running
  | ended (exit : Exit)

/-- What happens in a run. -/
inductive Event where
  | bound (address : SocketAddress)
  | bindFailed
  | announced (address : SocketAddress)
  | readied (address : SocketAddress)
  | gaveUp
  | launched (arguments : List String)
  | launchFailed
  | sent (datagram : Datagram)
  | lost (datagram : Datagram)
  | arrived (datagram : Datagram)
  | received (datagram : Datagram)
  | receiveFailed
  | expired
  | replied (reply : Reply)
  | ended (exit : Exit)
  | noticed (exit : Exit)
  | waitFailed
  | killed
  | joined (request : Octets)
  | joinExpired
  | ticked

/-- The datagram that an event delivers. -/
def Event.arrival? : Event → Option Datagram
  | .arrived datagram => some datagram
  | _ => none

/-- The reply that an event sends. -/
def Event.reply? : Event → Option Reply
  | .replied reply => some reply
  | _ => none

/--
The datagrams that have been delivered to the listener, the first one first.
-/
def arrivals (events : List Event) : List Datagram :=
  events.filterMap Event.arrival?

/-- The replies that the listener has sent, or tried to send. -/
def replies (events : List Event) : List Reply :=
  events.filterMap Event.reply?

/-- Everything about a run at one moment. -/
structure Scene where
  clock : Nat
  task : Task
  /-- The address that the listener has announced and nobody has taken yet. -/
  ready : Option SocketAddress
  executor : Executor
  child : Process
  /--
  The datagrams that have been sent and are neither lost nor delivered yet.
  -/
  inFlight : List Datagram
  /-- The datagrams that have been delivered and not received yet. -/
  queue : List Datagram
  listenerDeadline : Option Nat
  firstArrival : Option Nat

/-- The beginning of a run. -/
def Scene.start : Scene :=
  ⟨0, .unbound, none, .awaiting, .unstarted, [], [], none, none⟩

section

variable (staging : Staging)

/-- How long the listener and those who join it wait. -/
def Staging.timeout : Nat := staging.settings.timeout.ticks

/-- How long the child may run. -/
def Staging.runTimeout : Nat := staging.settings.runTimeout.ticks

/-- The argument list of the child, for a listener at an address. -/
def Staging.arguments (address : SocketAddress) : List String :=
  Submission.invocation staging.instrument staging.settings.tools
    staging.settings.build.binary staging.queryName address

/-- What can happen next. -/
inductive Step (scene : Scene) : Event → Scene → Prop where
  | bind
      (address : SocketAddress) (unbound : scene.task = .unbound) :
      Step scene (.bound address) { scene with task := .bound address }
  | bindFails (unbound : scene.task = .unbound) :
      Step scene .bindFailed { scene with task := .failed }
  /-- The time of the listener begins when it has announced its address. -/
  | announce
      {address : SocketAddress} (bound : scene.task = .bound address) :
      Step scene (.announced address)
        { scene with
          task := .receiving
          ready := some address
          listenerDeadline := some (scene.clock + staging.timeout) }
  | takeAddress
      {address : SocketAddress} (awaiting : scene.executor = .awaiting)
      (ready : scene.ready = some address) :
      Step scene (.readied address)
        { scene with ready := none, executor := .launching address }
  | giveUp
      (awaiting : scene.executor = .awaiting)
      (failed : scene.task = .failed) :
      Step scene .gaveUp { scene with executor := .failed }
  | launch
      {address : SocketAddress}
      (launching : scene.executor = .launching address) :
      Step scene (.launched (staging.arguments address))
        { scene with
          child := .running
          executor := .watching (scene.clock + staging.runTimeout) }
  | launchFails
      {address : SocketAddress}
      (launching : scene.executor = .launching address) :
      Step scene .launchFailed
        { scene with
          executor := .joining (scene.clock + staging.timeout) }
  /-- Something is sent by the child, or by what it has left behind. -/
  | send
      (datagram : Datagram) (started : scene.child ≠ .unstarted) :
      Step scene (.sent datagram)
        { scene with inFlight := scene.inFlight ++ [datagram] }
  | lose
      {datagram : Datagram} (before after : List Datagram)
      (travelling : scene.inFlight = before ++ datagram :: after) :
      Step scene (.lost datagram)
        { scene with inFlight := before ++ after }
  | arrive
      {datagram : Datagram} (before after : List Datagram)
      (travelling : scene.inFlight = before ++ datagram :: after)
      (isOpen : scene.task.isOpen = true) :
      Step scene (.arrived datagram)
        { scene with
          inFlight := before ++ after
          queue := scene.queue ++ [datagram]
          firstArrival := scene.firstArrival.or (some scene.clock) }
  | receive
      {datagram : Datagram} {rest : List Datagram}
      {listener : Listener} {reply : Reply}
      (receiving : scene.task = .receiving)
      (waiting : scene.queue = datagram :: rest)
      (delivered :
        Listener.deliver staging.response .waiting datagram =
          (listener, some reply)) :
      Step scene (.received datagram)
        { scene with task := .replying listener reply, queue := rest }
  | receiveFails
      (receiving : scene.task = .receiving) (idle : scene.queue = []) :
      Step scene .receiveFailed
        { scene with task := .returned Listener.waiting.captured }
  /--
  The listener looks for a datagram before it looks at the clock, but it need
  not have been told yet of one that waits, so its time can be over all the
  same.
  -/
  | expire
      {deadline : Nat} (receiving : scene.task = .receiving)
      (limited : scene.listenerDeadline = some deadline)
      (elapsed : deadline ≤ scene.clock) :
      Step scene .expired
        { scene with task := .returned Listener.waiting.captured }
  /--
  A reply is sent once.  The event stands for a sending that the socket takes
  as well as for one that it refuses: a refusal is not tried again, and the
  listener returns the same.
  -/
  | reply
      {listener : Listener} {reply : Reply}
      (replying : scene.task = .replying listener reply) :
      Step scene (.replied reply)
        { scene with task := .returned listener.captured }
  | childEnds (exit : Exit) (running : scene.child = .running) :
      Step scene (.ended exit) { scene with child := .ended exit }
  | notice
      {deadline : Nat} {exit : Exit}
      (watching : scene.executor = .watching deadline)
      (ended : scene.child = .ended exit) :
      Step scene (.noticed exit)
        { scene with
          executor := .joining (scene.clock + staging.timeout) }
  | waitFails
      {deadline : Nat}
      (watching : scene.executor = .watching deadline) :
      Step scene .waitFailed
        { scene with
          executor := .joining (scene.clock + staging.timeout) }
  | kill
      {deadline : Nat}
      (watching : scene.executor = .watching deadline)
      (elapsed : deadline ≤ scene.clock) :
      Step scene .killed
        { scene with
          child := .ended .timedOut
          executor := .joining (scene.clock + staging.timeout) }
  | join
      {deadline : Nat} {request : Octets}
      (joining : scene.executor = .joining deadline)
      (returned : scene.task = .returned request) :
      Step scene (.joined request)
        { scene with executor := .finished deadline request }
  /--
  A listener that has not returned by the deadline counts as having captured
  nothing.
  -/
  | joinExpires
      {deadline : Nat}
      (joining : scene.executor = .joining deadline)
      (elapsed : deadline ≤ scene.clock)
      (late : ∀ request, scene.task ≠ .returned request) :
      Step scene .joinExpired
        { scene with
          task := .abandoned, executor := .finished deadline [] }
  | tick
      (prompt :
        ∀ arrival, scene.firstArrival = some arrival →
          scene.task.isOpen = true →
            scene.clock < arrival + staging.latency) :
      Step scene .ticked { scene with clock := scene.clock + 1 }

/-- The events of a run so far, and what they have led to. -/
inductive Runs : List Event → Scene → Prop where
  | start : Runs [] .start
  | step
      {events : List Event} {event : Event} {scene next : Scene}
      (run : Runs events scene) (taken : Step staging scene event next) :
      Runs (events ++ [event]) next

end

theorem arrivals_concat (events : List Event) (event : Event) :
    arrivals (events ++ [event]) =
      arrivals events ++ event.arrival?.toList := by
  unfold arrivals
  rw [List.filterMap_append]
  cases arrived : event.arrival? <;> simp [arrived]

theorem replies_concat (events : List Event) (event : Event) :
    replies (events ++ [event]) =
      replies events ++ event.reply?.toList := by
  unfold replies
  rw [List.filterMap_append]
  cases sent : event.reply? <;> simp [sent]

/-- Whether an event neither delivers a datagram nor sends a reply. -/
def Event.IsQuiet (event : Event) : Prop :=
  event.arrival? = none ∧ event.reply? = none

theorem arrivals_concat_of_quiet
    {event : Event} (quiet : event.IsQuiet) (events : List Event) :
    arrivals (events ++ [event]) = arrivals events := by
  rw [arrivals_concat, quiet.1]
  exact List.append_nil _

theorem replies_concat_of_quiet
    {event : Event} (quiet : event.IsQuiet) (events : List Event) :
    replies (events ++ [event]) = replies events := by
  rw [replies_concat, quiet.2]
  exact List.append_nil _

end Interleaving

end ResolverGrader
