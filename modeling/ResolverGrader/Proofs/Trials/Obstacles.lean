import ResolverGrader.Proofs.Submission.Obstacles
import ResolverGrader.Trials

/-!
# What can keep trials from being made

The trial of a query name needs a canonical exchange, two runs of the
submission and texts for the answers that are expected, in this order, each in
the world that the one before it leaves.  The trials of many names fail with
the first name that meets an obstacle.
-/

namespace ResolverGrader

open ResolverGrader.Host

section

variable
    (host : Host) (settings : Settings)
    (fetch : String → Action Failure Exchange)

/--
What keeps the trial of a query name from being made, and how everything ends
there.
-/
inductive TrialObstacle (queryName : String) (world : World) :
    Halt → Prop where
  | unfetched
      {failure : Failure}
      (refused :
        ((fetch queryName).runOn
            (world.after (.printed (announcement queryName)))).1 =
          .error failure) :
      TrialObstacle queryName world (.failure failure)
  | untraced
      {exchange : Exchange} {fetched : World} {failure : Failure}
      (found :
        (fetch queryName).runOn
            (world.after (.printed (announcement queryName))) =
          (.ok exchange, fetched))
      (obstacle :
        Submission.Obstacle host settings queryName .syscallTrace
          fetched failure) :
      TrialObstacle queryName world (.failure failure)
  | unchecked
      {exchange : Exchange} {fetched ran : World} {traced : Run}
      {failure : Failure}
      (found :
        (fetch queryName).runOn
            (world.after (.printed (announcement queryName))) =
          (.ok exchange, fetched))
      (traces :
        (Submission.run host settings queryName exchange.responseWire
          .syscallTrace).runOn fetched = (.ok traced, ran))
      (obstacle :
        Submission.Obstacle host settings queryName .memoryCheck
          ran failure) :
      TrialObstacle queryName world (.failure failure)
  | unrendered
      {exchange : Exchange} {fetched ran done : World}
      {traced checked : Run}
      (found :
        (fetch queryName).runOn
            (world.after (.printed (announcement queryName))) =
          (.ok exchange, fetched))
      (traces :
        (Submission.run host settings queryName exchange.responseWire
          .syscallTrace).runOn fetched = (.ok traced, ran))
      (checks :
        (Submission.run host settings queryName exchange.responseWire
          .memoryCheck).runOn ran = (.ok checked, done))
      (textless : exchange.response.answerTexts? = none) :
      TrialObstacle queryName world .crash

/-- What keeps the trials of query names from being made. -/
inductive TrialsObstacle :
    List String → World → Halt → Prop where
  | here
      {queryName : String} {rest : List String} {world : World}
      {halt : Halt}
      (obstacle :
        TrialObstacle host settings fetch queryName world halt) :
      TrialsObstacle (queryName :: rest) world halt
  | later
      {queryName : String} {rest : List String} {world after : World}
      {trial : Trial} {halt : Halt}
      (made :
        Action.runOn ((Stages.onHost host settings fetch).trial queryName)
          world = (.ok trial, after))
      (obstacle : TrialsObstacle rest after halt) :
      TrialsObstacle (queryName :: rest) world halt

variable {host settings fetch}

theorem Stages.fetch_eq_error_iff
    (queryName : String) (world : World) (halt : Halt) :
    (Action.runOn ((Stages.onHost host settings fetch).fetch queryName)
        world).1 = .error halt ↔
      ∃ failure, ((fetch queryName).runOn world).1 = .error failure ∧
        .failure failure = halt :=
  Action.runOn_mapError_eq_error_iff _ _ _ _

theorem Stages.fetch_eq_ok_iff
    (queryName : String) (world after : World) (exchange : Exchange) :
    Action.runOn ((Stages.onHost host settings fetch).fetch queryName)
        world = (.ok exchange, after) ↔
      (fetch queryName).runOn world = (.ok exchange, after) :=
  Action.runOn_mapError_eq_ok_iff _ _ _ _ _

theorem Stages.run_eq_error_iff
    (queryName : String) (response : Octets) (instrument : Instrument)
    (world : World) (halt : Halt) :
    (Action.runOn ((Stages.onHost host settings fetch).run queryName
        response instrument) world).1 = .error halt ↔
      ∃ failure,
        Submission.Obstacle host settings queryName instrument world
          failure ∧ .failure failure = halt := by
  refine (Action.runOn_mapError_eq_error_iff _ _ _ _).trans ?_
  simp only [Submission.run_eq_error_iff]

theorem Stages.run_eq_ok_iff
    (queryName : String) (response : Octets) (instrument : Instrument)
    (world after : World) (result : Run) :
    Action.runOn ((Stages.onHost host settings fetch).run queryName
        response instrument) world = (.ok result, after) ↔
      (Submission.run host settings queryName response
        instrument).runOn world = (.ok result, after) :=
  Action.runOn_mapError_eq_ok_iff _ _ _ _ _

theorem Stages.answers_eq_error_iff
    (exchange : Exchange) (world : World) (halt : Halt) :
    (Action.runOn ((Stages.onHost host settings fetch).answers exchange)
        world).1 = .error halt ↔
      exchange.response.answerTexts? = none ∧ halt = .crash := by
  dsimp only [Stages.onHost]
  cases exchange.response.answerTexts? with
  | some texts => simp
  | none => simp [eq_comm]

/-- The trial of a query name fails for an obstacle and for nothing else. -/
theorem Stages.trial_eq_error_iff
    (queryName : String) (world : World) (halt : Halt) :
    (Action.runOn ((Stages.onHost host settings fetch).trial queryName)
        world).1 = .error halt ↔
      TrialObstacle host settings fetch queryName world halt := by
  have announced :
      Action.runOn
          ((Stages.onHost host settings fetch).announce queryName) world =
        (.ok (), world.after (.printed (announcement queryName))) :=
    rfl
  unfold Stages.trial
  rw [Action.runOn_bind_of_ok announced]
  simp only [Action.runOn_bind_eq_error_iff, Stages.fetch_eq_error_iff,
    Stages.fetch_eq_ok_iff, Stages.run_eq_error_iff, Stages.run_eq_ok_iff,
    Stages.answers_eq_error_iff]
  constructor
  · rintro (⟨failure, refused, rfl⟩ | ⟨exchange, fetched, found,
      ⟨failure, obstacle, rfl⟩ | ⟨traced, ran, traces,
      ⟨failure, obstacle, rfl⟩ | ⟨checked, done, checks,
      ⟨textless, rfl⟩ | ⟨_, _, _, impossible⟩⟩⟩⟩)
    · exact .unfetched refused
    · exact .untraced found obstacle
    · exact .unchecked found traces obstacle
    · exact .unrendered found traces checks textless
    · cases impossible
  · intro obstacle
    cases obstacle with
    | unfetched refused => exact .inl ⟨_, refused, rfl⟩
    | untraced found obstacle =>
        exact .inr ⟨_, _, found, .inl ⟨_, obstacle, rfl⟩⟩
    | unchecked found traces obstacle =>
        exact .inr ⟨_, _, found, .inr ⟨_, _, traces,
          .inl ⟨_, obstacle, rfl⟩⟩⟩
    | unrendered found traces checks textless =>
        exact .inr ⟨_, _, found, .inr ⟨_, _, traces,
          .inr ⟨_, _, checks, .inl ⟨textless, rfl⟩⟩⟩⟩

/-- The trials of query names fail for an obstacle and for nothing else. -/
theorem Stages.trials_eq_error_iff
    (queryNames : List String) (world : World) (halt : Halt) :
    (Action.runOn ((Stages.onHost host settings fetch).trials queryNames)
        world).1 = .error halt ↔
      TrialsObstacle host settings fetch queryNames world halt := by
  induction queryNames generalizing world with
  | nil =>
      constructor
      · intro impossible
        cases impossible
      · intro impossible
        cases impossible
  | cons queryName rest ih =>
      unfold Stages.trials
      refine (Action.runOn_bind_eq_error_iff _ _ _ _).trans ?_
      rw [Stages.trial_eq_error_iff]
      constructor
      · rintro (obstacle | ⟨trial, after, made, failed⟩)
        · exact .here obstacle
        · rcases (Action.runOn_bind_eq_error_iff _ _ _ _).mp failed with
            failed | ⟨_, _, _, impossible⟩
          · exact .later made ((ih after).mp failed)
          · cases impossible
      · intro obstacle
        cases obstacle with
        | here obstacle => exact Or.inl obstacle
        | later made obstacle =>
            refine Or.inr ⟨_, _, made, ?_⟩
            refine (Action.runOn_bind_eq_error_iff _ _ _ _).mpr ?_
            exact Or.inl ((ih _).mpr obstacle)

/-! ## Trials that are made -/

theorem Stages.answers_eq_ok
    {exchange : Exchange} {world after : World} {texts : List String}
    (rendered :
      Action.runOn ((Stages.onHost host settings fetch).answers exchange)
        world = (.ok texts, after)) :
    exchange.response.answerTexts? = some texts := by
  dsimp only [Stages.onHost] at rendered
  cases shown : exchange.response.answerTexts? with
  | none =>
      rw [shown] at rendered
      cases rendered
  | some others =>
      rw [shown] at rendered
      cases rendered
      rfl

/--
A trial that is made relays the octets of one exchange to both runs, and merges
these with the answers of that exchange.
-/
theorem Stages.trial_eq_ok
    {queryName : String} {world : World} {trial : Trial}
    (made :
      (Action.runOn ((Stages.onHost host settings fetch).trial queryName)
        world).1 = .ok trial) :
    ∃ exchange fetched traced ran checked done texts,
      (fetch queryName).runOn
          (world.after (.printed (announcement queryName))) =
        (.ok exchange, fetched) ∧
      (Submission.run host settings queryName exchange.responseWire
        .syscallTrace).runOn fetched = (.ok traced, ran) ∧
      (Submission.run host settings queryName exchange.responseWire
        .memoryCheck).runOn ran = (.ok checked, done) ∧
      exchange.response.answerTexts? = some texts ∧
      trial =
        .ofRuns queryName traced checked exchange.query texts := by
  unfold Stages.trial at made
  obtain ⟨_, _, announced, fetching⟩ := Action.runOn_bind_eq_ok made
  obtain ⟨exchange, fetched, found, tracing⟩ :=
    Action.runOn_bind_eq_ok fetching
  obtain ⟨traced, ran, traces, checking⟩ := Action.runOn_bind_eq_ok tracing
  obtain ⟨checked, done, checks, rendering⟩ :=
    Action.runOn_bind_eq_ok checking
  obtain ⟨texts, _, rendered, merged⟩ := Action.runOn_bind_eq_ok rendering
  cases announced
  exact ⟨exchange, fetched, traced, ran, checked, done, texts,
    (Stages.fetch_eq_ok_iff _ _ _ _).mp found,
    (Stages.run_eq_ok_iff _ _ _ _ _ _).mp traces,
    (Stages.run_eq_ok_iff _ _ _ _ _ _).mp checks,
    Stages.answers_eq_ok rendered, (Except.ok.inj merged).symm⟩

theorem Stages.queryName_of_trial
    {queryName : String} {world : World} {trial : Trial}
    (made :
      (Action.runOn ((Stages.onHost host settings fetch).trial queryName)
        world).1 = .ok trial) :
    trial.queryName = queryName := by
  obtain ⟨_, _, _, _, _, _, _, _, _, _, _, rfl⟩ := Stages.trial_eq_ok made
  rfl

/-- There is one trial for each name, in order and under the very name. -/
theorem Stages.map_queryName_of_trials
    {queryNames : List String} {world : World} {trials : List Trial}
    (made :
      (Action.runOn ((Stages.onHost host settings fetch).trials queryNames)
        world).1 = .ok trials) :
    trials.map Trial.queryName = queryNames := by
  induction queryNames generalizing world trials with
  | nil =>
      obtain rfl := Except.ok.inj made
      rfl
  | cons queryName rest ih =>
      unfold Stages.trials at made
      obtain ⟨first, _, tried, going⟩ := Action.runOn_bind_eq_ok made
      obtain ⟨later, _, followed, joined⟩ :=
        Action.runOn_bind_eq_ok going
      obtain rfl := Except.ok.inj joined
      have named := Stages.queryName_of_trial (congrArg Prod.fst tried)
      have others := ih (congrArg Prod.fst followed)
      rw [List.map_cons, named, others]

end

end ResolverGrader
