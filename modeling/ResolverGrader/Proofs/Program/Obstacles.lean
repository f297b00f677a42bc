import Mathlib.Data.List.Basic
import ResolverGrader.Proofs.Program.Phases
import ResolverGrader.Proofs.Trials.Obstacles

/-!
# What can stop the program

The program stops for something that was not settled, for a build that fails,
for a trial that cannot be made, or for a file of verdicts that cannot be
written.  A submission has no part in any of these, whatever it does when it is
run.  Without an obstacle the grade is published and the program exits with the
code zero, however low the score.
-/

namespace ResolverGrader.Program

open ResolverGrader.CommandLine ResolverGrader.Host ResolverGrader.Net

section

variable (host : Host) (files : FileSystem) (arguments : Arguments)

/--
The phases before the grade is published: what they were given, what they came
to, and the worlds that the build and the trials left.
-/
structure Graded
    (settings : Settings) (names : List String)
    (report : Option BuildReport) (built : World)
    (results : List Trial) (tried : World) : Prop where
  prepared : prepare files arguments = .ok (settings, names)
  made :
    (build host settings).runOn (begun files settings names) =
      (.ok report, built)
  completed :
    (trials host settings names).runOn built = (.ok results, tried)

/--
What keeps a grade from being reached, given the world in which grading begins:
the build fails, or after it the trials do.
-/
inductive GradingObstacle
    (settings : Settings) (names : List String) (world : World) :
    Stop → Prop where
  | unbuilt
      {failure : Failure}
      (needed : settings.build.skip = false)
      (refused :
        ((Build.run host settings.build).runOn world).1 =
          .error failure) :
      GradingObstacle settings names world (.failure failure)
  | untried
      {report : Option BuildReport} {built : World} {halt : Halt}
      (made :
        (build host settings).runOn world = (.ok report, built))
      (obstacle :
        TrialsObstacle host settings (Exchange.fetch host settings)
          names built halt) :
      GradingObstacle settings names world halt.toStop

/-- What stops the program, and the stop that it is reported as. -/
inductive Obstacle : Stop → Prop where
  | unsettled
      {stop : Stop}
      (unprepared : Unprepared files arguments stop) :
      Obstacle stop
  | ungraded
      {settings : Settings} {names : List String} {stop : Stop}
      (prepared : prepare files arguments = .ok (settings, names))
      (obstacle :
        GradingObstacle host settings names
          (begun files settings names) stop) :
      Obstacle stop
  | unwritten
      {settings : Settings} {names : List String}
      {report : Option BuildReport} {built tried : World}
      {results : List Trial} {path : String} {source : IoError}
      (graded :
        Graded host files arguments settings names report built
          results tried)
      (named : arguments.output = some path)
      (refused :
        tried.files.write path
            (verdictContents (score .standard results report)) =
          .error source) :
      Obstacle (.verdictFile source)

variable {host files arguments}

theorem build_eq_error_iff
    (settings : Settings) (world : World) (stop : Stop) :
    ((build host settings).runOn world).1 = .error stop ↔
      settings.build.skip = false ∧
        ∃ failure,
          ((Build.run host settings.build).runOn world).1 =
              .error failure ∧
            .failure failure = stop := by
  unfold build
  cases settings.build.skip with
  | true => simp
  | false =>
      refine (Action.runOn_map_eq_error_iff _ _ _ _).trans ?_
      rw [Action.runOn_mapError_eq_error_iff]
      simp only [true_and]

theorem trials_eq_error_iff
    (settings : Settings) (names : List String) (world : World)
    (stop : Stop) :
    ((trials host settings names).runOn world).1 = .error stop ↔
      ∃ halt,
        TrialsObstacle host settings (Exchange.fetch host settings)
            names world halt ∧
          halt.toStop = stop := by
  refine (Action.runOn_mapError_eq_error_iff _ _ _ _).trans ?_
  simp only [Stages.trials_eq_error_iff]

theorem publish_eq_error_iff
    (ledger : Ledger Float) (verbose : Bool) (output : Option String)
    (world : World) (stop : Stop) :
    ((publish ledger verbose output).runOn world).1 = .error stop ↔
      ∃ path source, output = some path ∧
        world.files.write path (verdictContents ledger) =
          .error source ∧
        .verdictFile source = stop := by
  rw [runOn_publish]
  cases output with
  | none => simp
  | some path =>
      cases written : world.files.write path (verdictContents ledger) <;>
        simp [written]

/--
Grading stops where the build or the trials do, and nothing is published.
-/
theorem grade_of_obstacle
    {settings : Settings} {names : List String} {world : World}
    {stop : Stop}
    (obstacle : GradingObstacle host settings names world stop)
    {output : Option String} :
    ((grade host output settings names).runOn world).1 = .error stop := by
  simp only [grade, Action.runOn_bind_eq_error_iff, build_eq_error_iff,
    trials_eq_error_iff]
  cases obstacle with
  | unbuilt needed refused => exact Or.inl ⟨needed, _, refused, rfl⟩
  | untried made obstacle =>
      exact Or.inr ⟨_, _, made, Or.inl ⟨_, obstacle, rfl⟩⟩

/-- The program stops for an obstacle and for nothing else. -/
theorem run_eq_error_iff (stop : Stop) :
    ((run host arguments).runOn (.initial files)).1 = .error stop ↔
      Obstacle host files arguments stop := by
  constructor
  · intro stopped
    cases prepared : prepare files arguments with
    | error reason =>
        have unprepared := (prepare_eq_error_iff reason).mp prepared
        rw [run_of_unprepared unprepared] at stopped
        obtain rfl := Except.error.inj stopped
        exact .unsettled unprepared
    | ok settled =>
        obtain ⟨settings, names⟩ := settled
        rw [run_of_prepared prepared] at stopped
        simp only [grade, Action.runOn_bind_eq_error_iff,
          build_eq_error_iff, trials_eq_error_iff,
          publish_eq_error_iff] at stopped
        rcases stopped with ⟨needed, failure, refused, rfl⟩ |
          ⟨report, built, made, ⟨halt, obstacle, rfl⟩ |
            ⟨results, tried, completed, path, source, named, refused,
              rfl⟩⟩
        · exact .ungraded prepared (.unbuilt needed refused)
        · exact .ungraded prepared (.untried made obstacle)
        · exact .unwritten ⟨prepared, made, completed⟩ named refused
  · intro obstacle
    cases obstacle with
    | unsettled unprepared => rw [run_of_unprepared unprepared]
    | ungraded prepared obstacle =>
        rw [run_of_prepared prepared]
        exact grade_of_obstacle obstacle
    | unwritten graded named refused =>
        rw [run_of_prepared graded.prepared]
        simp only [grade, Action.runOn_bind_eq_error_iff,
          publish_eq_error_iff]
        exact Or.inr ⟨_, _, graded.made, Or.inr ⟨_, _,
          graded.completed, _, _, named, refused, rfl⟩⟩

/--
What is left to do once the trials have been made is to publish the grade.
-/
theorem run_of_graded
    {settings : Settings} {names : List String}
    {report : Option BuildReport} {built tried : World}
    {results : List Trial}
    (graded :
      Graded host files arguments settings names report built results
        tried) :
    (run host arguments).runOn (.initial files) =
      (publish (score .standard results report) settings.verbose
        arguments.output).runOn tried := by
  rw [run_of_prepared graded.prepared]
  unfold grade
  rw [Action.runOn_bind_of_ok graded.made]
  exact Action.runOn_bind_of_ok graded.completed _

theorem graded_of_run_eq_ok
    (succeeded :
      ((run host arguments).runOn (.initial files)).1 = .ok ()) :
    ∃ settings names report built results tried,
      Graded host files arguments settings names report built results
        tried := by
  cases prepared : prepare files arguments with
  | error stop =>
      have unprepared := (prepare_eq_error_iff stop).mp prepared
      rw [run_of_unprepared unprepared] at succeeded
      cases succeeded
  | ok settled =>
      obtain ⟨settings, names⟩ := settled
      rw [run_of_prepared prepared] at succeeded
      obtain ⟨report, built, made, going⟩ :=
        Action.runOn_bind_eq_ok succeeded
      obtain ⟨results, tried, completed, _⟩ :=
        Action.runOn_bind_eq_ok going
      exact ⟨settings, names, report, built, results, tried, prepared,
        made, completed⟩

/-- There is one trial for each name, in order and under the very name. -/
theorem Graded.map_queryName
    {settings : Settings} {names : List String}
    {report : Option BuildReport} {built tried : World}
    {results : List Trial}
    (graded :
      Graded host files arguments settings names report built results
        tried) :
    results.map Trial.queryName = names := by
  have completed :=
    (Action.runOn_mapError_eq_ok_iff _ _ _ _ _).mp graded.completed
  exact Stages.map_queryName_of_trials (congrArg Prod.fst completed)

/--
Without an obstacle the grade is published after all trials, and the program
succeeds.
-/
theorem run_of_unobstructed
    (clear : ∀ stop, ¬ Obstacle host files arguments stop) :
    let ended := (run host arguments).runOn (.initial files)
    ended.1 = .ok () ∧
      ∃ settings names report built results tried,
        Graded host files arguments settings names report built results
          tried ∧
        results.map Trial.queryName = names ∧
        ended.2.effects =
          tried.effects ++
            published (score .standard results report) settings.verbose
              arguments.output := by
  intro ended
  have succeeded : ended.1 = .ok () := by
    cases outcome : ended.1 with
    | ok _ => rfl
    | error stop =>
        exact absurd ((run_eq_error_iff stop).mp outcome) (clear stop)
  obtain ⟨settings, names, report, built, results, tried, graded⟩ :=
    graded_of_run_eq_ok succeeded
  have closing :
      (publish (score .standard results report) settings.verbose
        arguments.output).runOn tried = (.ok (), ended.2) := by
    rw [← run_of_graded graded]
    exact Prod.ext succeeded rfl
  exact ⟨succeeded, settings, names, report, built, results, tried,
    graded, graded.map_queryName, effects_of_published closing⟩

end

/--
Nothing that a submission does is an error.  A run of it fails exactly where
its listener cannot be bound, its instrument cannot be launched or the end of
what was launched cannot be learned; all else is recorded, and a process that
is cut off leaves no output, but what was captured of its datagrams is kept.
So the program stops for none but its own obstacles, and without them it
publishes the grade, whatever it is, and exits with the code zero.
-/
theorem misbehaviour_not_fatal (host : Host) :
    (∀ settings queryName response instrument world,
      let outcome :=
        ((Submission.run host settings queryName response
          instrument).runOn world).1
      (∀ failure,
        outcome = .error failure ↔
          Submission.Obstacle host settings queryName instrument world
            failure) ∧
      ∀ address child,
        Submission.Launched host settings queryName instrument world
            address child →
          let heard :=
            Submission.heard host.network address settings.timeout
              child.datagrams
          let replies :=
            Submission.received host.network
              (Listener.deliverAll response .waiting heard).2
          (Submission.CutOff settings.runTimeout child →
            ∃ result, outcome = .ok result ∧
              Submission.Records instrument
                (Submission.firstHeard heard) [] [] .timedOut result) ∧
          (¬ Submission.CutOff settings.runTimeout child →
            ∀ status, child.status = .ok status →
              ∃ result, outcome = .ok result ∧
                Submission.Records instrument
                  (Submission.firstHeard heard) (child.stdout replies)
                  child.stderr (.ofWaitStatus status) result)) ∧
    ∀ files arguments,
      let ended := (run host arguments).runOn (.initial files)
      (∀ stop,
        ended.1 = .error stop ↔ Obstacle host files arguments stop) ∧
      ((∀ stop, ¬ Obstacle host files arguments stop) →
        (endingOf ended).exitCode = 0 ∧ (endingOf ended).stderr = "" ∧
          ∃ settings names report built results tried,
            Graded host files arguments settings names report built
              results tried ∧
            results.map Trial.queryName = names ∧
            (endingOf ended).world.effects =
              tried.effects ++
                published (score .standard results report)
                  settings.verbose arguments.output) := by
  refine ⟨?_, ?_⟩
  · intro settings queryName response instrument world outcome
    refine ⟨fun failure => Submission.run_eq_error_iff response failure,
      ?_⟩
    intro address child launched heard replies
    refine ⟨fun cutOff => ?_, fun inTime status ended => ?_⟩
    · exact Submission.run_of_executed response launched
        (Submission.ofChild_of_cutOff cutOff _)
    · exact Submission.run_of_executed response launched
        (Submission.ofChild_of_inTime inTime ended _)
  · intro files arguments ended
    refine ⟨run_eq_error_iff, fun clear => ?_⟩
    obtain ⟨succeeded, published⟩ := run_of_unobstructed clear
    have ending : endingOf ended = ⟨0, ended.2.stdout, "", ended.2⟩ := by
      rw [show ended = (.ok (), ended.2) from Prod.ext succeeded rfl]
      rfl
    rw [ending]
    exact ⟨rfl, rfl, published⟩

/-- A process that sends an octet and prints one, and is killed by a signal. -/
def crashingChild : Child where
  datagrams := [⟨.v4 .loopback 6000, [0xfe]⟩]
  stdout _ := [0xff]
  stderr := []
  outlasts := false
  status := .ok 11
  changes := id

/--
A host that reaches itself, with a DNS server on it that knows no name, and
where every process crashes.
-/
def crashingHost : Host where
  network := .loopback []
  random _ := 7
  launch _ _ := .ok crashingChild
  serverReceipts _ _ :=
    [.datagram [0, 7, 0x81, 0x83, 0, 0, 0, 0, 0, 0, 0, 0]]

/-- What is to be done on that host: to grade an existing binary. -/
def existingBinary : Arguments :=
  { Arguments.standard with
    domains := ["."], dnsServer := "127.0.0.1", noCompile := true }

/-- What comes of that command line. -/
def existingSettings : Settings :=
  settingsOf existingBinary (.v4 .loopback) (.v4 .loopback 53)

theorem prepare_existingBinary :
    prepare .bare existingBinary = .ok (existingSettings, ["."]) :=
  rfl

theorem run_existingBinary :
    ((run crashingHost existingBinary).runOn (.initial .bare)).1 =
      .ok () := by
  decide +kernel

/--
Nothing is in the way of a run that crashes, nor of a grade made of such runs.
-/
theorem misbehaviour_not_fatal_crash :
    let ended := (run crashingHost existingBinary).runOn (.initial .bare)
    Submission.Launched crashingHost existingSettings "." .syscallTrace
        (.initial .bare) (.v4 .loopback 1031) crashingChild ∧
      ¬ Submission.CutOff existingSettings.runTimeout crashingChild ∧
      (∃ result,
        ((Submission.run crashingHost existingSettings "." []
          .syscallTrace).runOn (.initial .bare)).1 = .ok result ∧
        Submission.Records .syscallTrace [0xfe] [0xff] [] (.signaled 11)
          result) ∧
      (∀ stop, ¬ Obstacle crashingHost .bare existingBinary stop) ∧
      (endingOf ended).exitCode = 0 ∧ (endingOf ended).stderr = "" ∧
      ∃ settings names report built results tried,
        Graded crashingHost .bare existingBinary settings names report
            built results tried ∧
          results.map Trial.queryName = names := by
  intro ended
  obtain ⟨submission, program⟩ := misbehaviour_not_fatal crashingHost
  have launched :
      Submission.Launched crashingHost existingSettings "."
        .syscallTrace (.initial .bare) (.v4 .loopback 1031)
        crashingChild :=
    ⟨_, rfl, rfl⟩
  have inTime :
      ¬ Submission.CutOff existingSettings.runTimeout crashingChild := by
    rintro (expired | outlasts)
    · exact absurd expired (by decide)
    · cases outlasts
  have recorded :=
    (submission existingSettings "." [] .syscallTrace
      (.initial .bare)).2 _ _ launched
  obtain ⟨result, made, records⟩ := recorded.2 inTime 11 rfl
  obtain ⟨stops, succeeds⟩ := program .bare existingBinary
  have clear (stop : Stop) :
      ¬ Obstacle crashingHost .bare existingBinary stop := by
    rw [← stops stop, run_existingBinary]
    nofun
  obtain ⟨code, silent, settings, names, report, built, results, tried,
    graded, named, _⟩ := succeeds clear
  exact ⟨launched, inTime, ⟨result, made, records⟩, clear, code, silent,
    settings, names, report, built, results, tried, graded, named⟩

end ResolverGrader.Program
