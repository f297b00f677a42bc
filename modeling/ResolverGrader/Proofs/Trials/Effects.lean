import ResolverGrader.Proofs.Host.Effects
import ResolverGrader.Trials

/-!
# The effects of trials

Trials announce themselves, use sockets, ask the DNS server and launch the
submission.  They remove and write no file, and they print nothing else.
-/

namespace ResolverGrader

open ResolverGrader.Host ResolverGrader.Net

/-- What is done for the trials of query names. -/
inductive TrialEffect (settings : Settings) (queryNames : List String) :
    Effect → Prop where
  | announced
      {queryName : String} (named : queryName ∈ queryNames) :
      TrialEffect settings queryNames
        (.printed (announcement queryName))
  | socket (address : SocketAddress) :
      TrialEffect settings queryNames (.bound address)
  | question (query : Octets) :
      TrialEffect settings queryNames (.asked settings.server query)
  | launch
      {queryName : String} (named : queryName ∈ queryNames)
      (instrument : Instrument) (listener : SocketAddress) :
      TrialEffect settings queryNames
        (.started
          (Submission.invocation instrument settings.tools
            settings.build.binary queryName listener))

section

variable {host : Host} {settings : Settings} {queryNames : List String}

theorem Listener.doesOnly_bindRandom (attempt left : Nat) :
    DoesOnly host (TrialEffect settings queryNames)
      (bindRandom host settings.proxyIp attempt left) := by
  have tried :
      DoesOnly host (TrialEffect settings queryNames)
        (tryRandom host settings.proxyIp : Action Failure _) :=
    DoesOnly.draw.bind fun _ => .bindSocket .socket
  induction left generalizing attempt with
  | zero =>
      refine tried.bind fun bound => ?_
      cases bound with
      | ok address => exact .pure _
      | error source => exact .throw _
  | succ left ih =>
      refine tried.bind fun bound => ?_
      cases bound with
      | ok address => exact .pure _
      | error source =>
          dsimp only
          split
          · exact ih (attempt + 1)
          · exact .throw _

theorem Listener.doesOnly_bind (port : Option UInt16) :
    DoesOnly host (TrialEffect settings queryNames)
      (Listener.bind host settings.proxyIp port) := by
  cases port with
  | none => exact Listener.doesOnly_bindRandom 1 (maxAttempts - 1)
  | some port =>
      refine (DoesOnly.bindSocket .socket).bind fun bound => ?_
      cases bound with
      | ok address => exact .pure _
      | error source => exact .throw _

theorem Exchange.doesOnly_fetch (queryName : String) :
    DoesOnly host (TrialEffect settings queryNames)
      (Exchange.fetch host settings queryName) := by
  refine DoesOnly.draw.bind fun id => ?_
  dsimp only
  cases Dns.canonicalQuery queryName (UInt16.ofNat id) with
  | error error => exact .throw _
  | ok query =>
      have asked :
          DoesOnly host (TrialEffect settings queryNames)
            (askServer host settings.server settings.timeout
              (UInt16.ofNat id) query : Action Failure _) := by
        refine (DoesOnly.bindSocket .socket).bind fun bound => ?_
        cases bound with
        | error error => exact .pure _
        | ok address =>
            refine (DoesOnly.ask (.question query)).bind fun sent => ?_
            cases sent <;> exact .pure _
      refine asked.bind fun response => ?_
      cases response with
      | error silence => exact .throw _
      | ok found => exact .pure _

theorem Submission.doesOnly_run
    {queryName : String} (named : queryName ∈ queryNames)
    (response : Octets) (instrument : Instrument) :
    DoesOnly host (TrialEffect settings queryNames)
      (Submission.run host settings queryName response instrument) := by
  refine (Listener.doesOnly_bind settings.proxyPort).bind
    fun listener => ?_
  refine (DoesOnly.start (.launch named instrument listener)).bind
    fun launched => ?_
  cases launched with
  | error source => exact .throw _
  | ok child =>
      dsimp only
      split
      · exact .throw _
      · exact .pure _

theorem Stages.doesOnly_trial
    {queryName : String} (named : queryName ∈ queryNames) :
    DoesOnly host (TrialEffect settings queryNames)
      ((Stages.onHost host settings
        (Exchange.fetch host settings)).trial queryName) := by
  have announced :
      DoesOnly host (TrialEffect settings queryNames)
        (Action.print (announcement queryName) : Action Halt Unit) :=
    .print (.announced named)
  have ran (response : Octets) (instrument : Instrument) :
      DoesOnly host (TrialEffect settings queryNames)
        ((Submission.run host settings queryName response
          instrument).mapError Halt.failure) :=
    (Submission.doesOnly_run named response instrument).mapError
  refine announced.bind fun _ => ?_
  refine (Exchange.doesOnly_fetch queryName).mapError.bind
    fun exchange => ?_
  refine (ran _ _).bind fun _ => (ran _ _).bind fun _ => ?_
  refine DoesOnly.bind ?_ fun _ => .pure _
  dsimp only [Stages.onHost]
  cases exchange.response.answerTexts? with
  | some texts => exact .pure _
  | none => exact .throw _

/--
Trials do nothing but announce themselves, use sockets and launch the
submission.
-/
theorem Stages.doesOnly_trials
    {tried : List String} (named : tried ⊆ queryNames) :
    DoesOnly host (TrialEffect settings queryNames)
      ((Stages.onHost host settings
        (Exchange.fetch host settings)).trials tried) := by
  induction tried with
  | nil => exact .pure _
  | cons queryName rest ih =>
      have here := named List.mem_cons_self
      have later := ih fun _ inRest =>
        named (List.mem_cons_of_mem _ inRest)
      refine (Stages.doesOnly_trial here).bind fun _ => ?_
      exact later.bind fun _ => .pure _

end

end ResolverGrader
