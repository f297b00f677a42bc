import ResolverGrader.Proofs.Exchange.Receiving
import ResolverGrader.Proofs.Host.Actions
import ResolverGrader.Proofs.Trials.Obstacles

/-!
# The response that is handed on

A canonical exchange holds the response that was found while waiting, next to
the octets it was found in.  The octets are relayed to the submission and the
response gives the answers that are expected, so it matters that the one is
what the other holds.

`response_accepted_within_budget` puts together which response is found on any
host, and that a trial is graded against the very octets that it relays.
-/

namespace ResolverGrader

open ResolverGrader.Dns ResolverGrader.Host ResolverGrader.Net

namespace Exchange

/--
What arrives after a query is sent to a server, or why it cannot be sent.
-/
def arrivals
    (host : Host) (server : SocketAddress) (query : Octets)
    (world : World) : Except IoError (List Receipt) :=
  match host.network.bind (localAddress server) with
  | .error error => .error error
  | .ok _ =>
    match host.network.passage server query with
    | .refused error => .error error
    | .lost => .ok []
    | .delivered => .ok (host.serverReceipts world.queries.length query)

/-- What asking a server comes to. -/
def asked
    (host : Host) (server : SocketAddress) (timeout : Duration)
    (id : UInt16) (query : Octets) (world : World) :
    Except Silence (Message × Octets) :=
  match arrivals host server query world with
  | .error error => .error (.broken error)
  | .ok receipts => receive id timeout receipts

/-- How many numbers have been drawn has no part in what the server answers. -/
theorem asked_drawn
    (host : Host) (server : SocketAddress) (timeout : Duration)
    (id : UInt16) (query : Octets) (world : World) (draws : Nat) :
    asked host server timeout id query { world with draws } =
      asked host server timeout id query world := rfl

theorem outcome_askServer
    {ε : Type} (host : Host) (server : SocketAddress) (timeout : Duration)
    (id : UInt16) (query : Octets) (world : World) :
    ((askServer host server timeout id query : Action ε _).runOn world).1 =
      .ok (asked host server timeout id query world) := by
  unfold asked arrivals askServer
  rw [Action.runOn_bind, Action.runOn_bindSocket]
  cases host.network.bind (localAddress server) with
  | error error => rfl
  | ok address =>
      have queries :
          (world.after (.bound address)).queries = world.queries := by
        simp [World.queries, World.after, World.sentQuery?]
      dsimp only
      rw [Action.runOn_bind, Action.runOn_ask, queries]
      cases host.network.passage server query <;> rfl

/-- Without time nothing is received. -/
theorem receive_of_isZero
    {timeout : Duration} (expired : timeout.isZero = true) (id : UInt16)
    (receipts : List Receipt) :
    receive id timeout receipts = .error .unanswered := by
  unfold receive
  rw [if_pos expired]
  simp [awaitResponse]

theorem settles_receive
    {timeout : Duration} (lasts : timeout.isZero = false) (id : UInt16)
    (receipts : List Receipt) :
    Settles id receipts (receive id timeout receipts) := by
  unfold receive
  rw [if_neg (Bool.eq_false_iff.mp lasts)]
  exact settles_awaitResponse id receipts

/--
With time or without, what is received is the response in the octets it came
in.
-/
theorem exists_brings_of_receive
    {timeout : Duration} {id : UInt16} {receipts : List Receipt}
    {message : Message} {octets : Octets}
    (found : receive id timeout receipts = .ok (message, octets)) :
    ∃ receipt, Brings id receipt message octets := by
  cases ending : timeout.isZero with
  | true =>
      rw [receive_of_isZero ending] at found
      cases found
  | false =>
      obtain ⟨_, receipt, _, _, _, brings⟩ :=
        ((settles_receive ending id receipts).found message octets).mp found
      exact ⟨receipt, brings⟩

/--
What asking a server yields, if it does not fail, is brought by a receipt.
-/
theorem exists_brings_of_asked
    {host : Host} {server : SocketAddress} {timeout : Duration}
    {id : UInt16} {query : Octets} {world : World} {message : Message}
    {octets : Octets}
    (found :
      asked host server timeout id query world = .ok (message, octets)) :
    ∃ receipt, Brings id receipt message octets := by
  unfold asked at found
  cases arrived : arrivals host server query world with
  | error error =>
      rw [arrived] at found
      cases found
  | ok receipts =>
      rw [arrived] at found
      exact exists_brings_of_receive found

/-! ## Fetching -/

/-- The identifier of the query that is sent next. -/
def nextId (host : Host) (world : World) : UInt16 :=
  UInt16.ofNat (host.random world.draws)

section

variable {host : Host} {settings : Settings} {queryName : String}
  {world : World}

/-- A name that cannot be asked for is refused before anything is done. -/
theorem fetch_of_invalid
    {error : NameError} (invalid : queriedName queryName = .error error) :
    (fetch host settings queryName).runOn world =
      (.error (.invalidName queryName error.message),
        { world with draws := world.draws + 1 }) := by
  unfold fetch canonicalQuery
  rw [Action.runOn_bind, Action.runOn_draw, invalid]
  rfl

/--
For any other name the server is asked, and the query is kept beside what it
answers.
-/
theorem outcome_fetch
    {name : Name} (valid : queriedName queryName = .ok name)
    {query : Octets} (written : queryWire (nextId host world) name = query) :
    ((fetch host settings queryName).runOn world).1 =
      ((asked host settings.server settings.timeout (nextId host world)
          query world).map
        fun found => ⟨query, found.1, found.2⟩).mapError
          fun silence =>
            .server queryName settings.server
              (silence.detail settings.timeout) := by
  -- The world is one drawn number further when the server is asked.
  have ended :
      (askServer host settings.server settings.timeout (nextId host world)
          query : Action Failure _).runOn
            { world with draws := world.draws + 1 } =
        (.ok (asked host settings.server settings.timeout
            (nextId host world) query world), _) :=
    Prod.ext
      ((outcome_askServer _ _ _ _ _ _).trans
        (congrArg Except.ok (asked_drawn _ _ _ _ _ _ _))) rfl
  unfold fetch canonicalQuery
  rw [Action.runOn_bind, Action.runOn_draw, valid]
  dsimp only [Except.map]
  rw [← nextId, written, Action.runOn_bind_of_ok ended]
  cases asked host settings.server settings.timeout (nextId host world)
    query world <;> rfl

/-- What is handed on is what asking the server for a valid name comes to. -/
theorem fetch_eq_ok
    {exchange : Exchange}
    (fetched :
      ((fetch host settings queryName).runOn world).1 = .ok exchange) :
    ∃ name,
      queriedName queryName = .ok name ∧
        exchange.query = queryWire (nextId host world) name ∧
        asked host settings.server settings.timeout (nextId host world)
            exchange.query world =
          .ok (exchange.response, exchange.responseWire) := by
  cases named : queriedName queryName with
  | error error =>
      rw [fetch_of_invalid named] at fetched
      cases fetched
  | ok name =>
      refine ⟨name, rfl, ?_⟩
      generalize written : queryWire (nextId host world) name = query
      rw [outcome_fetch named written] at fetched
      cases answer : asked host settings.server settings.timeout
          (nextId host world) query world with
      | error silence =>
          rw [answer] at fetched
          cases fetched
      | ok found =>
          rw [answer] at fetched
          cases fetched
          exact ⟨rfl, answer⟩

end

/--
An exchange whose response is the one that its octets hold, and answers its
query.
-/
structure IsGenuine (exchange : Exchange) : Prop where
  decoded : Message.decode? exchange.responseWire = some exchange.response
  response : exchange.response.isResponse = true
  sameId :
    exchange.query.take 2 = Octets.ofWord exchange.response.id
  length_le : exchange.responseWire.length ≤ 4096

theorem isGenuine_of_fetch
    {host : Host} {settings : Settings} {queryName : String}
    {world : World} {exchange : Exchange}
    (fetched :
      ((fetch host settings queryName).runOn world).1 = .ok exchange) :
    IsGenuine exchange := by
  obtain ⟨name, _, query, found⟩ := fetch_eq_ok fetched
  obtain ⟨receipt, brings⟩ := exists_brings_of_asked found
  refine ⟨brings.decoded, brings.response, ?_, brings.length_le⟩
  rw [query, brings.sameId]
  rfl

/--
The answers that are expected are the ones in the octets that are relayed.
-/
theorem IsGenuine.answerTexts?_eq
    {exchange : Exchange} (genuine : IsGenuine exchange) :
    exchange.response.answerTexts? =
      (Message.decode? exchange.responseWire).bind
        Message.answerTexts? := by
  rw [genuine.decoded]
  rfl

end Exchange

open Exchange

/--
Only the response to the query is accepted, and only among the first three
receipts.  Asking a server for anything, under any identifier, ends with the
error of a socket that cannot be bound or does not send; with silence, if there
is no time; and otherwise as `Settles` says.

A canonical exchange is fetched by asking for its query name; a name that is no
name is refused with no socket bound and no query sent.  An exchange that is
handed on has the response that its octets hold, under the identifier of its
query.  So both runs of a trial are made against the octets that the expected
answers are read from.
-/
theorem response_accepted_within_budget :
    (∀ {ε : Type} (host : Host) (server : SocketAddress)
        (timeout : Duration) (id : UInt16) (query : Octets) (world : World),
      ∃ result,
        ((askServer host server timeout id query :
            Action ε _).runOn world).1 = .ok result ∧
          (∀ error, arrivals host server query world = .error error →
            result = .error (.broken error)) ∧
          ∀ receipts, arrivals host server query world = .ok receipts →
            (timeout.isZero = true → result = .error .unanswered) ∧
              (timeout.isZero = false → Settles id receipts result)) ∧
      ∀ (host : Host) (settings : Settings) (queryName : String)
        (world : World),
        let outcome := (fetch host settings queryName).runOn world
        (∀ error, queriedName queryName = .error error →
          outcome =
            (.error (.invalidName queryName error.message),
              { world with draws := world.draws + 1 })) ∧
          (∀ name result, queriedName queryName = .ok name →
            let id := UInt16.ofNat (host.random world.draws)
            let query := queryWire id name
            ((askServer host settings.server settings.timeout id query :
                Action Failure _).runOn
                  { world with draws := world.draws + 1 }).1 =
                .ok result →
              outcome.1 =
                (result.map
                  fun found => ⟨query, found.1, found.2⟩).mapError
                    fun silence =>
                      .server queryName settings.server
                        (silence.detail settings.timeout)) ∧
          (∀ exchange, outcome.1 = .ok exchange → IsGenuine exchange) ∧
          ∀ trial,
            (Action.runOn
                ((Stages.onHost host settings
                  (fetch host settings)).trial queryName) world).1 =
                .ok trial →
              ∃ exchange fetched traced ran checked done texts,
                (fetch host settings queryName).runOn
                    (world.after
                      (.printed (announcement queryName))) =
                  (.ok exchange, fetched) ∧
                (Submission.run host settings queryName
                    exchange.responseWire .syscallTrace).runOn fetched =
                  (.ok traced, ran) ∧
                (Submission.run host settings queryName
                    exchange.responseWire .memoryCheck).runOn ran =
                  (.ok checked, done) ∧
                (Message.decode? exchange.responseWire).bind
                    Message.answerTexts? = some texts ∧
                trial =
                  .ofRuns queryName traced checked exchange.query
                    texts := by
  constructor
  · intro ε host server timeout id query world
    refine ⟨asked host server timeout id query world,
      outcome_askServer host server timeout id query world, ?_, ?_⟩
    · intro error refused
      unfold asked
      rw [refused]
    · intro receipts arrived
      unfold asked
      rw [arrived]
      exact ⟨fun expired => receive_of_isZero expired id receipts,
        fun lasts => settles_receive lasts id receipts⟩
  · intro host settings queryName world outcome
    refine ⟨fun error invalid => fetch_of_invalid invalid, ?_,
      fun exchange fetched => isGenuine_of_fetch fetched, ?_⟩
    · intro name result valid id query answered
      rw [outcome_askServer, asked_drawn, Except.ok.injEq] at answered
      rw [← answered]
      exact outcome_fetch valid rfl
    · intro trial made
      obtain ⟨exchange, fetched, traced, ran, checked, done, texts, found,
        traces, checks, shown, rfl⟩ := Stages.trial_eq_ok made
      refine ⟨exchange, fetched, traced, ran, checked, done, texts, found,
        traces, checks, ?_, rfl⟩
      have genuine : IsGenuine exchange :=
        isGenuine_of_fetch (congrArg Prod.fst found)
      rw [← genuine.answerTexts?_eq, shown]

/--
A host that reaches itself, and whose server answers every query with the same
receipts.
-/
def answeringHost (receipts : List Receipt) : Host where
  network := .loopback []
  random _ := 7
  launch _ _ := .error .notFound
  serverReceipts _ _ := receipts

/--
The third receipt is still in time, behind one that is no message and one for
another query.
-/
theorem response_accepted_within_budget_third :
    let response : Octets := [0, 7, 128, 0, 0, 0, 0, 0, 0, 0, 0, 0]
    let other : Octets := [0, 8, 128, 0, 0, 0, 0, 0, 0, 0, 0, 0]
    let receipts : List Receipt :=
      [.datagram [7], .datagram other, .datagram response]
    let host := answeringHost receipts
    let world := World.initial .bare
    arrivals host (.v4 .loopback 53) [0, 7] world = .ok receipts ∧
      ((askServer host (.v4 .loopback 53) ⟨1, 0⟩ 7 [0, 7] :
          Action Failure _).runOn world).1 =
        .ok (.ok (⟨7, 32768, [], [], [], []⟩, response)) := by
  intro response other receipts host world
  have arrived :
      arrivals host (.v4 .loopback 53) [0, 7] world = .ok receipts := rfl
  obtain ⟨result, outcome, _, settled⟩ :=
    response_accepted_within_budget.1 (ε := Failure) host
      (.v4 .loopback 53) ⟨1, 0⟩ 7 [0, 7] world
  have settles := (settled receipts arrived).2 rfl
  have strays :
      ∀ earlier ∈ [Receipt.datagram [7], .datagram other],
        IsStray 7 earlier := by
    rw [List.forall_mem_cons, List.forall_mem_singleton]
    exact ⟨verdict?_eq_none_iff.mp rfl, verdict?_eq_none_iff.mp rfl⟩
  have found :
      result = .ok (⟨7, 32768, [], [], [], []⟩, response) :=
    (settles.found _ _).mpr
      ⟨_, .datagram response, List.prefix_rfl, by decide, strays,
        verdict?_eq_ok_iff.mp rfl⟩
  exact ⟨arrived, by rw [outcome, found]⟩

end ResolverGrader
