import Mathlib.Data.List.Forall2
import ResolverGrader.Proofs.Dns.Presentation
import ResolverGrader.Proofs.Trials.Record

/-!
# The order of trials

The stages of trials are run on a record here, with an oracle and a way to run
the submission that depend on nothing but their arguments.  A schedule says
what is done for each query name if all goes well.  What happens follows the
schedule as far as the first event that fails, and that event decides how
everything ends.

`trials_sequenced` says this for all query names, and how the trials of two
lists of names make up those of both.  `Describes.agrees_trials` takes the
outcome over to every host that behaves like a record.
-/

namespace ResolverGrader

/-! ## Trials of two lists of names -/

/--
The trials of two lists of names, one after the other, are those of both.
-/
theorem Stages.trials_append
    {m : Type → Type} [Monad m] [LawfulMonad m] (stages : Stages m)
    (first second : List String) :
    stages.trials (first ++ second) = do
      let earlier ← stages.trials first
      let later ← stages.trials second
      return earlier ++ later := by
  induction first with
  | nil => simp [trials]
  | cons queryName rest ih => simp [trials, ih]

/-! ## The stages on a record -/

/--
Where exchanges come from and how the submission is run, if both depend on
nothing but what is asked for.
-/
structure Surroundings where
  fetch : String → Except Failure Exchange
  run : String → Octets → Instrument → Except Failure Run

namespace Surroundings

/-- The texts of the answers in a response, or a crash. -/
def render (exchange : Exchange) : Except Halt (List String) :=
  match exchange.response.answerTexts? with
  | some texts => .ok texts
  | none => .error .crash

variable (around : Surroundings)

/-- The stages of trials, with every event written down. -/
def stages : Stages Recorded where
  announce queryName := .attempt (.announced queryName) (.ok ())
  fetch queryName :=
    .attempt (.fetched queryName)
      ((around.fetch queryName).mapError .failure)
  run queryName response instrument :=
    .attempt (.ran queryName response instrument)
      ((around.run queryName response instrument).mapError .failure)
  answers exchange := .attempt (.rendered exchange) (render exchange)

/-- How an event ends everything, if it does. -/
def halt? : TrialEvent → Option Halt
  | .announced _ => none
  | .fetched queryName =>
      haltOf ((around.fetch queryName).mapError .failure)
  | .ran queryName response instrument =>
      haltOf ((around.run queryName response instrument).mapError .failure)
  | .rendered exchange => haltOf (render exchange)

theorem answerTexts?_of_render
    {exchange : Exchange} {texts : List String}
    (rendered : render exchange = .ok texts) :
    exchange.response.answerTexts? = some texts := by
  unfold render at rendered
  split at rendered
  · next same shown =>
    rw [shown, Except.ok.inj rendered]
  · cases rendered

/--
What can be seen for a query name if all goes well: it is announced, its
exchange is fetched once, and the submission is run traced and then checked,
both times against the octets of the very response that was fetched.
-/
def visibleSteps (queryName : String) : List TrialEvent :=
  [.announced queryName, .fetched queryName] ++
    match around.fetch queryName with
    | .error _ => []
    | .ok exchange =>
        [.ran queryName exchange.responseWire .syscallTrace,
          .ran queryName exchange.responseWire .memoryCheck]

/--
All that is done for a query name if all goes well: the answers that are
expected are rendered last.
-/
def steps (queryName : String) : List TrialEvent :=
  around.visibleSteps queryName ++
    match around.fetch queryName with
    | .error _ => []
    | .ok exchange => [.rendered exchange]

/-- What is done for all query names, one after the other. -/
def schedule (queryNames : List String) : List TrialEvent :=
  queryNames.flatMap around.steps

/-- The trials of query names, with everything that is done for them. -/
def trials (queryNames : List String) : Recorded (List Trial) :=
  around.stages.trials queryNames

theorem follows_trial (queryName : String) :
    Follows around.halt? (around.steps queryName)
      (around.stages.trial queryName) := by
  have announced :
      Follows around.halt? [.announced queryName]
        (around.stages.announce queryName) :=
    .attempt rfl
  have fetched :
      Follows around.halt? [.fetched queryName]
        (around.stages.fetch queryName) :=
    .attempt rfl
  have ran (response : Octets) (instrument : Instrument) :
      Follows around.halt? [.ran queryName response instrument]
        (around.stages.run queryName response instrument) :=
    .attempt rfl
  have rendered (exchange : Exchange) :
      Follows around.halt? [.rendered exchange]
        (around.stages.answers exchange) :=
    .attempt rfl
  unfold steps visibleSteps
  refine announced.bind fun _ _ => fetched.bind fun exchange found => ?_
  have obtained : around.fetch queryName = .ok exchange :=
    ok_of_mapError_failure found
  rw [obtained]
  refine (ran _ _).bind fun _ _ => (ran _ _).bind fun _ _ => ?_
  exact (rendered exchange).bind fun _ _ => .pure _

/-- The trials of query names follow the schedule for them. -/
theorem follows_trials (queryNames : List String) :
    Follows around.halt? (around.schedule queryNames)
      (around.trials queryNames) := by
  induction queryNames with
  | nil => exact .pure _
  | cons queryName rest ih =>
      refine (around.follows_trial queryName).bind fun first _ => ?_
      have later := ih.bind fun later _ => .pure (first :: later)
      rwa [List.append_nil] at later

/-! ## What trials are made of -/

/--
Of the checked run a trial has only what the memory checker says; all else that
it has of the submission is from the traced run.
-/
structure Merges (traced checked : Run) (trial : Trial) : Prop where
  query : trial.query = traced.request
  answers :
    trial.answers =
      Text.sorted (Answer.normalizeAll (Answer.ofOutput traced.stdout))
  traceOutput : trial.traceOutput = traced.traceOutput.getD []
  exit : trial.exit = traced.exit
  memcheckOutput : trial.memcheckOutput = checked.memcheckOutput.getD []
  memcheckExit : trial.memcheckExit = checked.memcheckExit

/--
The trial of a query name: two runs against the response to it, next to what
the exchange lets expect.
-/
def IsTrialOf (queryName : String) (trial : Trial) : Prop :=
  ∃ exchange traced checked texts,
    around.fetch queryName = .ok exchange ∧
      around.run queryName exchange.responseWire .syscallTrace =
        .ok traced ∧
      around.run queryName exchange.responseWire .memoryCheck =
        .ok checked ∧
      exchange.response.answerTexts? = some texts ∧
      trial.queryName = queryName ∧
      trial.expectedQuery = exchange.query ∧
      trial.expectedAnswers = Text.sorted (Answer.normalizeAll texts) ∧
      Merges traced checked trial

theorem isTrialOf_of_outcome
    {queryName : String} {trial : Trial}
    (succeeded :
      (around.stages.trial queryName).outcome = .ok trial) :
    around.IsTrialOf queryName trial := by
  unfold Stages.trial at succeeded
  obtain ⟨_, _, announced⟩ := Recorded.bind_outcome_eq_ok succeeded
  obtain ⟨exchange, fetched, running⟩ :=
    Recorded.bind_outcome_eq_ok announced
  obtain ⟨traced, ranTraced, checking⟩ :=
    Recorded.bind_outcome_eq_ok running
  obtain ⟨checked, ranChecked, rendering⟩ :=
    Recorded.bind_outcome_eq_ok checking
  obtain ⟨texts, rendered, merged⟩ :=
    Recorded.bind_outcome_eq_ok rendering
  refine ⟨exchange, traced, checked, texts,
    ok_of_mapError_failure fetched, ok_of_mapError_failure ranTraced,
    ok_of_mapError_failure ranChecked, answerTexts?_of_render rendered,
    ?_⟩
  obtain rfl := Except.ok.inj merged
  exact ⟨rfl, rfl, rfl, rfl, rfl, rfl, rfl, rfl, rfl⟩

theorem forall₂_isTrialOf
    {queryNames : List String} {trials : List Trial}
    (succeeded : (around.trials queryNames).outcome = .ok trials) :
    List.Forall₂ around.IsTrialOf queryNames trials := by
  induction queryNames generalizing trials with
  | nil =>
      obtain rfl := Except.ok.inj succeeded
      exact .nil
  | cons queryName rest ih =>
      obtain ⟨first, tried, going⟩ :=
        Recorded.bind_outcome_eq_ok succeeded
      obtain ⟨later, followed, joined⟩ :=
        Recorded.bind_outcome_eq_ok going
      obtain rfl := Except.ok.inj joined
      exact .cons (around.isTrialOf_of_outcome tried) (ih followed)

theorem map_queryName
    {queryNames : List String} {trials : List Trial}
    (each : List.Forall₂ around.IsTrialOf queryNames trials) :
    trials.map Trial.queryName = queryNames := by
  induction each with
  | nil => rfl
  | cons here _ ih =>
      obtain ⟨_, _, _, _, _, _, _, _, named, _⟩ := here
      rw [List.map_cons, named, ih]

/-! ## What can be seen -/

theorem filter_schedule (queryNames : List String) :
    (around.schedule queryNames).filter TrialEvent.isVisible =
      queryNames.flatMap around.visibleSteps := by
  have seen (queryName : String) :
      (around.steps queryName).filter TrialEvent.isVisible =
        around.visibleSteps queryName := by
    unfold steps visibleSteps
    cases around.fetch queryName <;> rfl
  unfold schedule
  rw [List.filter_flatMap]
  simp only [seen]

/--
Rendering fails for nothing but the options of a transport record among the
answers.
-/
theorem halt?_rendered_eq_some_iff (exchange : Exchange) (halt : Halt) :
    around.halt? (.rendered exchange) = some halt ↔
      halt = .crash ∧ ∃ record ∈ exchange.response.answers,
        ∃ octets, record.data = .options octets := by
  rw [← Dns.Message.answerTexts?_eq_none_iff]
  show haltOf (render exchange) = some halt ↔ _
  unfold render
  cases exchange.response.answerTexts? with
  | none => simp [haltOf, eq_comm]
  | some texts => simp [haltOf]

/-! ## Two lists of names -/

theorem trials_append_of_error
    {first : List String} {halt : Halt}
    (ended : (around.trials first).outcome = .error halt)
    (second : List String) :
    around.trials (first ++ second) = around.trials first := by
  unfold trials at ended ⊢
  rw [Stages.trials_append, Recorded.bind_of_error ended, ← ended]

theorem trials_append_of_ok
    {first : List String} {earlier : List Trial}
    (ended : (around.trials first).outcome = .ok earlier)
    (second : List String) :
    around.trials (first ++ second) =
      ⟨(around.trials second).outcome.map (earlier ++ ·),
        (around.trials first).events ++ (around.trials second).events⟩ := by
  unfold trials at ended ⊢
  rw [Stages.trials_append, Recorded.bind_of_ok ended]
  cases later : (around.stages.trials second).outcome with
  | ok more =>
      rw [Recorded.bind_of_ok later]
      simp [Except.map, pure]
  | error halt =>
      rw [Recorded.bind_of_error later]
      rfl

/-! ## Trials on a host -/

/-- What comes of the stages on a host, in whatever world they are run. -/
structure Describes
    (host : Host) (settings : Settings)
    (fetch : String → Action Failure Exchange) : Prop where
  fetch_eq :
    ∀ queryName world,
      ((fetch queryName).runOn world).1 = around.fetch queryName
  run_eq :
    ∀ queryName response instrument world,
      ((Submission.run host settings queryName response
        instrument).runOn world).1 =
          around.run queryName response instrument

/-- An action ends as the record says, in whatever world it is run. -/
def Agrees {α : Type} (action : Action Halt α) (recorded : Recorded α) :
    Prop :=
  ∀ world, (action.runOn world).1 = recorded.outcome

theorem Agrees.bind
    {α β : Type} {action : Action Halt α} {recorded : Recorded α}
    {next : α → Action Halt β} {more : α → Recorded β}
    (first : Agrees action recorded)
    (second : ∀ value, Agrees (next value) (more value)) :
    Agrees (action >>= next) (recorded >>= more) := by
  intro world
  have ended := first world
  rw [Action.runOn_bind]
  rcases made : action.runOn world with ⟨halt | value, after⟩
  · rw [made] at ended
    rw [Recorded.bind_of_error ended.symm]
  · rw [made] at ended
    rw [Recorded.bind_of_ok ended.symm]
    exact second value after

theorem agrees_mapError
    {α : Type} {action : Action Failure α} {result : Except Failure α}
    (ends : ∀ world, (action.runOn world).1 = result)
    (event : TrialEvent) :
    Agrees (action.mapError .failure)
      (.attempt event (result.mapError .failure)) := by
  intro world
  rw [Action.runOn_mapError, ends world]
  rfl

variable {around}

/-- Trials on a host end as they do on a record that describes it. -/
theorem Describes.agrees_trials
    {host : Host} {settings : Settings}
    {fetch : String → Action Failure Exchange}
    (describes : around.Describes host settings fetch)
    (queryNames : List String) :
    Agrees ((Stages.onHost host settings fetch).trials queryNames)
      (around.trials queryNames) := by
  have announced (queryName : String) :
      Agrees ((Stages.onHost host settings fetch).announce queryName)
        (around.stages.announce queryName) :=
    fun _ => rfl
  have fetched (queryName : String) :=
    agrees_mapError (describes.fetch_eq queryName) (.fetched queryName)
  have ran (queryName : String) (response : Octets)
      (instrument : Instrument) :=
    agrees_mapError (describes.run_eq queryName response instrument)
      (.ran queryName response instrument)
  have rendered (exchange : Exchange) :
      Agrees ((Stages.onHost host settings fetch).answers exchange)
        (around.stages.answers exchange) := by
    intro world
    show (Action.runOn (match exchange.response.answerTexts? with
      | some texts => pure texts
      | none => throw .crash) world).1 = render exchange
    unfold render
    cases exchange.response.answerTexts? <;> rfl
  induction queryNames with
  | nil => exact fun _ => rfl
  | cons queryName rest ih =>
      refine Agrees.bind ?_ fun _ => ih.bind fun _ _ => rfl
      refine (announced queryName).bind fun _ => ?_
      refine Agrees.bind (fetched queryName) fun exchange => ?_
      refine Agrees.bind (ran queryName _ _) fun _ => ?_
      refine Agrees.bind (ran queryName _ _) fun _ => ?_
      exact (rendered exchange).bind fun _ _ => rfl

end Surroundings

/--
Trials follow their schedule.  What can be seen is a beginning of the steps for
one name after the other, each with one fetch and two runs against the response
that was fetched.  Nothing is done after the first event that fails, and its
error is all that is left.  If none fails, there is one trial for each name, in
order and under the very name, merged from the two runs of that name.  The one
event that cannot be seen fails only for answers that have no texts.  For two
lists of names the trials of the first come first, and nothing is done for the
second if they fail.
-/
theorem trials_sequenced (around : Surroundings) :
    (∀ queryNames : List String,
      let recorded := around.trials queryNames
      let schedule := around.schedule queryNames
      recorded.events <+: schedule ∧
        recorded.events.filter TrialEvent.isVisible <+:
          queryNames.flatMap around.visibleSteps ∧
        (∀ before event after halt,
          schedule = before ++ event :: after →
            (∀ earlier ∈ before, around.halt? earlier = none) →
            around.halt? event = some halt →
            recorded = ⟨.error halt, before ++ [event]⟩) ∧
        ((∀ event ∈ schedule, around.halt? event = none) →
          ∃ trials, recorded = ⟨.ok trials, schedule⟩ ∧
            trials.map Trial.queryName = queryNames ∧
            List.Forall₂ around.IsTrialOf queryNames trials)) ∧
      (∀ exchange halt, around.halt? (.rendered exchange) = some halt ↔
        halt = .crash ∧ ∃ record ∈ exchange.response.answers,
          ∃ octets, record.data = .options octets) ∧
      ∀ first second : List String,
        (∀ halt, (around.trials first).outcome = .error halt →
          around.trials (first ++ second) = around.trials first) ∧
        (∀ earlier, (around.trials first).outcome = .ok earlier →
          around.trials (first ++ second) =
            ⟨(around.trials second).outcome.map (earlier ++ ·),
              (around.trials first).events ++
                (around.trials second).events⟩) := by
  refine ⟨?_, ?_, ?_⟩
  · intro queryNames recorded schedule
    have follows := around.follows_trials queryNames
    have begun : recorded.events <+: schedule := follows.events_isPrefix
    refine ⟨begun, ?_, ?_, ?_⟩
    · rw [← around.filter_schedule]
      exact begun.filter TrialEvent.isVisible
    · intro before event after halt planned clear fails
      exact follows.of_fails planned clear fails
    · intro clear
      obtain ⟨trials, done⟩ := follows.of_clear clear
      have each := around.forall₂_isTrialOf (congrArg _ done)
      exact ⟨trials, done, around.map_queryName each, each⟩
  · exact around.halt?_rendered_eq_some_iff
  · intro first second
    exact ⟨fun _ ended => around.trials_append_of_error ended second,
      fun _ ended => around.trials_append_of_ok ended second⟩

/--
A response of which the only answer holds the options of a transport record.
-/
def optionsWire : Octets :=
  [0, 7, 0x81, 0x80, 0, 0, 0, 1, 0, 0, 0, 0,
    0, 0, 41, 0, 1, 0, 0, 1, 0x2c, 0, 4, 0, 1, 0, 0]

/-- The message of `optionsWire`. -/
def optionsMessage : Dns.Message where
  id := 7
  flags := 0x8180
  questions := []
  answers := [⟨.root, 41, .options [0, 1, 0, 0]⟩]
  authorities := []
  additionals := []

/--
Nothing that can be seen fails, all of it is done, and still there is no trial.
-/
theorem options_crash_unseen :
    let around : Surroundings :=
      ⟨fun _ => .ok ⟨[], optionsMessage, optionsWire⟩,
        fun _ _ _ => .ok ⟨[], [], none, none, none, .exited 0⟩⟩
    Dns.Message.decode? optionsWire = some optionsMessage ∧
      (∀ event ∈ around.visibleSteps "a", around.halt? event = none) ∧
      (around.trials ["a"]).events.filter TrialEvent.isVisible =
        around.visibleSteps "a" ∧
      (around.trials ["a"]).outcome = .error .crash := by
  intro around
  have clear :
      ∀ event ∈ [.announced "a", .fetched "a",
          .ran "a" optionsWire .syscallTrace,
          .ran "a" optionsWire .memoryCheck],
        around.halt? event = none := by
    simp only [List.forall_mem_cons]
    exact ⟨rfl, rfl, rfl, rfl, List.forall_mem_nil _⟩
  exact ⟨by cbv, clear, rfl, rfl⟩

end ResolverGrader
