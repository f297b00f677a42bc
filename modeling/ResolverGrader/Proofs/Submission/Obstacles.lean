import ResolverGrader.Proofs.Submission.Runs

/-!
# What can keep a run from being made

A run needs three things of its surroundings: that its listener can be bound,
that the instrument can be launched, and that the end of the launched process
can be learned.  `Obstacle` says how each of them fails.  Nothing else makes a
run fail, so whatever a launched process does is recorded.
-/

namespace ResolverGrader.Submission

open ResolverGrader.Host ResolverGrader.Net

/-- Whether a process is still running when its time is over. -/
def CutOff (runTimeout : Duration) (child : Child) : Prop :=
  runTimeout.isZero = true ∨ child.outlasts = true

/--
What a run records: the datagram that was captured, the two outputs, of which
the second is the instrument's, and how the process ended.
-/
structure Records
    (instrument : Instrument) (request stdout stderr : Octets)
    (ending : Exit) (result : Run) : Prop where
  request : result.request = request
  stdout : result.stdout = stdout
  exit : result.exit = ending
  traced :
    instrument = .syscallTrace →
      result.traceOutput = some stderr ∧
        result.memcheckOutput = none ∧ result.memcheckExit = none
  checked :
    instrument = .memoryCheck →
      result.traceOutput = none ∧
        result.memcheckOutput = some stderr ∧
        result.memcheckExit = some ending

theorem records_runOf
    (instrument : Instrument) (captured : Octets)
    (execution : Execution) :
    Records instrument captured execution.stdout execution.stderr
      execution.exit (runOf instrument captured execution) := by
  cases instrument with
  | syscallTrace => exact ⟨rfl, rfl, rfl, fun _ => ⟨rfl, rfl, rfl⟩, nofun⟩
  | memoryCheck => exact ⟨rfl, rfl, rfl, nofun, fun _ => ⟨rfl, rfl, rfl⟩⟩

/--
The datagram that a listener captures: as much as there is room for of the
first that it hears.
-/
def firstHeard (datagrams : List Datagram) : Octets :=
  (datagrams.head?.map fun datagram =>
    datagram.payload.take Listener.maxCaptured).getD []

theorem captured_deliverAll
    (response : Octets) (datagrams : List Datagram) :
    (Listener.deliverAll response .waiting datagrams).1.captured =
      firstHeard datagrams := by
  cases datagrams with
  | nil => rfl
  | cons first later => rw [Listener.deliverAll_waiting_cons]; rfl

section

variable
    (host : Host) (settings : Settings) (queryName : String)
    (response : Octets) (instrument : Instrument) (world : World)

/--
The listener of a run has been bound, and its instrument has been launched.
-/
def Launched (address : SocketAddress) (child : Child) : Prop :=
  ∃ bound,
    (Listener.bind host settings.proxyIp settings.proxyPort).runOn
        world = (.ok address, bound) ∧
      host.launch bound.files
          (invocation instrument settings.tools
            settings.build.binary queryName address) =
        .ok child

/--
What in the surroundings keeps a run from being made, and the failure that it
is reported as.
-/
inductive Obstacle : Failure → Prop where
  | unbound
      {failure : Failure} {after : World}
      (refused :
        (Listener.bind host settings.proxyIp settings.proxyPort).runOn
          world = (.error failure, after)) :
      Obstacle failure
  | unlaunched
      {address : SocketAddress} {bound : World} {source : IoError}
      (listening :
        (Listener.bind host settings.proxyIp settings.proxyPort).runOn
          world = (.ok address, bound))
      (refused :
        host.launch bound.files
            (invocation instrument settings.tools
              settings.build.binary queryName address) =
          .error source) :
      Obstacle (.spawn (program settings.tools instrument) source)
  | unawaited
      {address : SocketAddress} {child : Child} {source : IoError}
      (launched :
        Launched host settings queryName instrument world address child)
      (inTime : ¬ CutOff settings.runTimeout child)
      (unknown : child.status = .error source) :
      Obstacle (.spawn (program settings.tools instrument) source)

variable {host settings queryName instrument world}

theorem run_of_unlaunched
    {address : SocketAddress} {bound : World} {source : IoError}
    (listening :
      (Listener.bind host settings.proxyIp settings.proxyPort).runOn
        world = (.ok address, bound))
    (refused :
      host.launch bound.files
          (invocation instrument settings.tools
            settings.build.binary queryName address) =
        .error source) :
    ((run host settings queryName response instrument).runOn world).1 =
      .error (.spawn (program settings.tools instrument) source) := by
  unfold run
  rw [Action.runOn_bind_of_ok listening]
  dsimp only
  rw [Action.runOn_bind_start, refused]
  rfl

/-- What a run comes to once its instrument has been launched. -/
theorem run_of_launched
    {address : SocketAddress} {child : Child}
    (launched :
      Launched host settings queryName instrument world address child) :
    ((run host settings queryName response instrument).runOn world).1 =
      let heard :=
        Listener.deliverAll response .waiting
          (heard host.network address settings.timeout child.datagrams)
      match Execution.ofChild settings.runTimeout child
          (received host.network heard.2) with
      | .error source =>
          .error (.spawn (program settings.tools instrument) source)
      | .ok execution =>
          .ok (runOf instrument heard.1.captured execution) := by
  obtain ⟨bound, listening, started⟩ := launched
  unfold run
  rw [Action.runOn_bind_of_ok listening]
  dsimp only
  rw [Action.runOn_bind_start, started]
  dsimp only
  generalize Execution.ofChild settings.runTimeout child _ = executed
  cases executed with
  | error source => rfl
  | ok execution => rfl

/--
An execution comes of a child unless its end is waited for and cannot be
learned.
-/
theorem ofChild_eq_error_iff
    (runTimeout : Duration) (child : Child) (replies : List Octets)
    (source : IoError) :
    Execution.ofChild runTimeout child replies = .error source ↔
      ¬ CutOff runTimeout child ∧ child.status = .error source := by
  unfold Execution.ofChild CutOff
  by_cases cutOff : runTimeout.isZero = true ∨ child.outlasts = true
  · simp [cutOff]
  · cases child.status <;> simp [cutOff, Except.map]

theorem ofChild_of_cutOff
    {runTimeout : Duration} {child : Child}
    (cutOff : CutOff runTimeout child) (replies : List Octets) :
    Execution.ofChild runTimeout child replies = .ok .killed := by
  unfold Execution.ofChild
  exact if_pos (by simpa [CutOff] using cutOff)

theorem ofChild_of_inTime
    {runTimeout : Duration} {child : Child}
    (inTime : ¬ CutOff runTimeout child) {status : UInt32}
    (ended : child.status = .ok status) (replies : List Octets) :
    Execution.ofChild runTimeout child replies =
      .ok ⟨child.stdout replies, child.stderr, .ofWaitStatus status⟩ := by
  unfold Execution.ofChild
  rw [if_neg (by simpa [CutOff] using inTime), ended]
  rfl

/-- A run fails for an obstacle and for nothing else. -/
theorem run_eq_error_iff (failure : Failure) :
    ((run host settings queryName response instrument).runOn
        world).1 = .error failure ↔
      Obstacle host settings queryName instrument world failure := by
  constructor
  · intro failed
    rcases listening :
        (Listener.bind host settings.proxyIp settings.proxyPort).runOn
          world with ⟨refusal | address, bound⟩
    · unfold run at failed
      rw [Action.runOn_bind_of_error listening] at failed
      obtain rfl := Except.error.inj failed
      exact .unbound listening
    · cases started :
          host.launch bound.files
            (invocation instrument settings.tools
              settings.build.binary queryName address) with
      | error source =>
          rw [run_of_unlaunched response listening started] at failed
          obtain rfl := Except.error.inj failed
          exact .unlaunched listening started
      | ok child =>
          have launched :
              Launched host settings queryName instrument world
                address child :=
            ⟨bound, listening, started⟩
          rw [run_of_launched response launched] at failed
          dsimp only at failed
          split at failed
          · next source executed =>
            obtain ⟨inTime, unknown⟩ :=
              (ofChild_eq_error_iff _ _ _ _).mp executed
            obtain rfl := Except.error.inj failed
            exact .unawaited launched inTime unknown
          · cases failed
  · intro obstacle
    cases obstacle with
    | unbound refused =>
        unfold run
        rw [Action.runOn_bind_of_error refused]
    | unlaunched listening refused =>
        exact run_of_unlaunched response listening refused
    | unawaited launched inTime unknown =>
        rw [run_of_launched response launched]
        dsimp only
        rw [(ofChild_eq_error_iff _ _ _ _).mpr ⟨inTime, unknown⟩]

/--
The execution of a launched process is recorded together with what its listener
captured.
-/
theorem run_of_executed
    {address : SocketAddress} {child : Child} {execution : Execution}
    (launched :
      Launched host settings queryName instrument world address child)
    (executed :
      let heard :=
        heard host.network address settings.timeout child.datagrams
      Execution.ofChild settings.runTimeout child
          (received host.network
            (Listener.deliverAll response .waiting heard).2) =
        .ok execution) :
    ∃ result,
      ((run host settings queryName response instrument).runOn
          world).1 = .ok result ∧
        Records instrument
          (firstHeard
            (heard host.network address settings.timeout
              child.datagrams))
          execution.stdout execution.stderr execution.exit result := by
  dsimp only at executed
  refine ⟨_, ?_, records_runOf instrument _ execution⟩
  rw [run_of_launched response launched]
  dsimp only
  rw [executed, captured_deliverAll]

end

end ResolverGrader.Submission
