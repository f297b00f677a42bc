import ResolverGrader.Proofs.Build.Effects
import ResolverGrader.Proofs.Ledger.Verdicts
import ResolverGrader.Proofs.Program.Obstacles
import ResolverGrader.Proofs.Text.Lines
import ResolverGrader.Proofs.Trials.Effects

/-!
# Failures leave nothing half done

Each phase of the program has its own kinds of effects.  A build removes the
old binary and starts the compiler; trials use sockets and launch the
submission; only what is done last shows a grade or writes verdicts.  So a
failure in one phase keeps all the effects of the later ones away, and where
nothing could be settled there are no effects at all.
-/

namespace ResolverGrader

open ResolverGrader.Host ResolverGrader.Net ResolverGrader.Text

namespace Program

/-! ## What is done before and after a grade is there -/

/-- What is done to get a grade. -/
inductive GradingEffect (settings : Settings) (names : List String) :
    Effect → Prop where
  | summary :
      GradingEffect settings names (.printed (settings.summary names))
  | building
      {effect : Effect}
      (done : Build.BuildEffect settings.build effect) :
      GradingEffect settings names effect
  | trying
      {effect : Effect} (done : TrialEffect settings names effect) :
      GradingEffect settings names effect

/-- What is done only to publish a grade. -/
inductive PublishingEffect : Effect → Prop where
  | report (ledger : Ledger Float) (verbose : Bool) :
      PublishingEffect (.printed (Report.text ledger verbose))
  | table (ledger : Ledger Float) :
      PublishingEffect (.printed (SummaryTable.text ledger))
  | verdicts (path : String) (contents : Octets) :
      PublishingEffect (.wrote path contents)

theorem head?_endLines_cons
    {line : String} {character : Char}
    (begins : (line ++ "\n").toList.head? = some character)
    (rest : List String) :
    (endLines (line :: rest)).toList.head? = some character := by
  rw [String.toList_append] at begins
  rw [toList_endLines, List.flatMap_cons, List.head?_append]
  exact Option.or_eq_some_iff.mpr (Or.inl begins)

theorem head?_report (ledger : Ledger Float) (verbose : Bool) :
    (Report.text ledger verbose).toList.head? = some '\n' := by
  unfold Report.text Report.entries
  rw [List.cons_append, List.cons_append]
  exact head?_endLines_cons rfl _

theorem head?_table (ledger : Ledger Float) :
    (SummaryTable.text ledger).toList.head? = some '┌' := by
  unfold SummaryTable.text SummaryTable.tableLines SummaryTable.rule
  simp only [List.cons_append]
  refine head?_endLines_cons ?_ _
  simp [String.toList_append]

theorem head?_summary (settings : Settings) (names : List String) :
    (settings.summary names).toList.head? = some 'D' := by
  unfold Settings.summary Settings.summaryLines
  simp only [List.cons_append]
  exact head?_endLines_cons (by simp) _

theorem head?_announcement (queryName : String) :
    (announcement queryName).toList.head? = some 'R' := by
  unfold announcement
  simp [String.toList_append]

theorem head?_compilationNotice (settings : BuildSettings) :
    (Build.compilationNotice settings).toList.head? = some 'C' := by
  unfold Build.compilationNotice
  simp [String.toList_append]

/--
Whether an effect writes no file and prints nothing but what begins with a
capital letter.
-/
def IsPlain : Effect → Prop
  | .printed text =>
      ∃ character, text.toList.head? = some character ∧
        character.isUpper = true
  | .wrote _ _ => False
  | .removed _ | .bound _ | .started _ | .asked _ _ => True

theorem GradingEffect.isPlain
    {settings : Settings} {names : List String} {effect : Effect}
    (grading : GradingEffect settings names effect) :
    IsPlain effect := by
  cases grading with
  | summary => exact ⟨_, head?_summary settings names, by decide⟩
  | building done =>
      cases done with
      | notice => exact ⟨'R', rfl, by decide⟩
      | removal => trivial
      | compilation done =>
          cases done with
          | notice => exact ⟨_, head?_compilationNotice _, by decide⟩
          | compiler => trivial
  | trying done =>
      cases done with
      | announced => exact ⟨_, head?_announcement _, by decide⟩
      | socket | question | launch => trivial

theorem PublishingEffect.not_isPlain
    {effect : Effect} (publishing : PublishingEffect effect) :
    ¬ IsPlain effect := by
  cases publishing with
  | report ledger verbose =>
      rintro ⟨character, begins, upper⟩
      rw [head?_report] at begins
      obtain rfl := Option.some.inj begins
      exact absurd upper (by decide)
  | table ledger =>
      rintro ⟨character, begins, upper⟩
      rw [head?_table] at begins
      obtain rfl := Option.some.inj begins
      exact absurd upper (by decide)
  | verdicts path contents => exact id

/-- Nothing that is done to get a grade publishes one. -/
theorem GradingEffect.not_publishing
    {settings : Settings} {names : List String} {effect : Effect}
    (grading : GradingEffect settings names effect) :
    ¬ PublishingEffect effect :=
  fun publishing => publishing.not_isPlain grading.isPlain

theorem take_announcement (queryName : String) :
    (announcement queryName).toList.take 2 = ['R', 'u'] := by
  unfold announcement
  simp [String.toList_append]

theorem toString_ne_flag (number : Nat) : toString number ≠ "-g" := by
  intro same
  have member : '-' ∈ (toString number).toList := by
    rw [same]
    decide
  rw [Nat.toString_eq_repr, Nat.toList_repr] at member
  exact absurd
    (Nat.isDigit_of_mem_toDigits (by decide) (by decide) member)
    (by decide)

/-- No compiler is ever started as the submission is: a port is no flag. -/
theorem command_ne_invocation
    (settings : BuildSettings) (instrument : Instrument)
    (tools : ToolPaths) (queryName : String)
    (listener : SocketAddress) :
    settings.compiler :: Build.compilerArguments settings ≠
      Submission.invocation instrument tools settings.binary queryName
        listener := by
  unfold Build.compilerArguments Submission.invocation
  cases instrument with
  | memoryCheck => simp [Submission.instrumentArguments]
  | syscallTrace =>
      simp only [Submission.instrumentArguments, List.singleton_append]
      intro same
      injection same with _ same
      injection same with flag same
      injection same with _ same
      injection same with _ same
      injection same with port _
      exact toString_ne_flag _ (port.symm.trans flag.symm)

theorem printed_of_buildEffect
    {settings : BuildSettings} {text : String}
    (building : Build.BuildEffect settings (.printed text)) :
    text = Build.removalNotice ∨
      text = Build.compilationNotice settings := by
  cases building with
  | notice => exact Or.inl rfl
  | compilation done =>
      cases done with
      | notice => exact Or.inr rfl

theorem started_of_buildEffect
    {settings : BuildSettings} {arguments : List String}
    (building : Build.BuildEffect settings (.started arguments)) :
    arguments =
      settings.compiler :: Build.compilerArguments settings := by
  cases building with
  | compilation done =>
      cases done with
      | compiler => rfl

/-- Nothing that a build does is done for a trial. -/
theorem not_trialEffect_of_buildEffect
    {settings : Settings} {names : List String} {effect : Effect}
    (building : Build.BuildEffect settings.build effect) :
    ¬ TrialEffect settings names effect := by
  intro trying
  cases trying with
  | @announced queryName named =>
      have begins := take_announcement queryName
      rcases printed_of_buildEffect building with same | same
      · rw [same] at begins
        exact absurd begins (by decide)
      · have first := head?_announcement queryName
        rw [same, head?_compilationNotice] at first
        exact absurd first (by decide)
  | socket | question =>
      cases building with
      | compilation done => cases done
  | launch named instrument listener =>
      exact command_ne_invocation _ _ _ _ _
        (started_of_buildEffect building).symm

theorem not_trialEffect_summary
    (settings : Settings) (names : List String) :
    ¬ TrialEffect settings names
        (.printed (settings.summary names)) := by
  generalize shown : settings.summary names = text
  intro trying
  cases trying with
  | @announced queryName named =>
      have first := head?_announcement queryName
      rw [← shown, head?_summary] at first
      exact absurd first (by decide)

/-! ## What each phase does -/

section

variable {host : Host} {settings : Settings} {names : List String}

theorem doesOnly_build (host : Host) (settings : Settings) :
    DoesOnly host (Build.BuildEffect settings.build)
      (build host settings) := by
  unfold build
  split
  · exact .pure _
  · exact (Build.doesOnly_run host settings.build).mapError.map

theorem doesOnly_trials
    (host : Host) (settings : Settings) (names : List String) :
    DoesOnly host (TrialEffect settings names)
      (trials host settings names) :=
  (Stages.doesOnly_trials (List.Subset.refl names)).mapError

theorem keepsOrRemoves_build
    {trail : Trail} (spared : SparesTrail host trail)
    (settings : Settings) (world : World) :
    Build.KeepsOrRemoves settings.build trail world.files
      ((build host settings).runOn world).2.files := by
  unfold build
  split
  · exact Or.inl rfl
  · rw [Action.runOn_map, Action.runOn_mapError]
    exact Build.keepsOrRemoves_run spared settings.build world

/-! ## What is left where grading stops -/

/-- The world in which a build fails is the one in which everything ends. -/
theorem grade_of_unbuilt
    {world : World} {failure : Failure} {output : Option String}
    (needed : settings.build.skip = false)
    (refused :
      ((Build.run host settings.build).runOn world).1 =
        .error failure) :
    (grade host output settings names).runOn world =
      (.error (.failure failure),
        ((build host settings).runOn world).2) := by
  have failed :
      ((build host settings).runOn world).1 =
        .error (.failure failure) :=
    (build_eq_error_iff settings world _).mpr
      ⟨needed, failure, refused, rfl⟩
  exact Action.runOn_bind_of_error (Prod.ext failed rfl) _

/-- The world in which trials fail is the one in which everything ends. -/
theorem grade_of_untried
    {world built : World} {report : Option BuildReport} {halt : Halt}
    {output : Option String}
    (made : (build host settings).runOn world = (.ok report, built))
    (obstacle :
      TrialsObstacle host settings (Exchange.fetch host settings) names
        built halt) :
    (grade host output settings names).runOn world =
      (.error halt.toStop,
        ((trials host settings names).runOn built).2) := by
  have failed :
      ((trials host settings names).runOn built).1 =
        .error halt.toStop :=
    (trials_eq_error_iff settings names built _).mpr
      ⟨halt, obstacle, rfl⟩
  unfold grade
  rw [Action.runOn_bind_of_ok made]
  exact Action.runOn_bind_of_error (Prod.ext failed rfl) _

theorem adds_of_obstacle
    {world : World} {stop : Stop}
    (obstacle : GradingObstacle host settings names world stop)
    (output : Option String) :
    Adds host (GradingEffect settings names) world
      ((grade host output settings names).runOn world).2 := by
  have building :
      DoesOnly host (GradingEffect settings names)
        (build host settings) :=
    (doesOnly_build host settings).mono fun _ => .building
  have trying :
      DoesOnly host (GradingEffect settings names)
        (trials host settings names) :=
    (doesOnly_trials host settings names).mono fun _ => .trying
  cases obstacle with
  | unbuilt needed refused =>
      rw [grade_of_unbuilt needed refused]
      exact building world
  | untried made obstacle =>
      rw [grade_of_untried made obstacle]
      have built := building world
      rw [made] at built
      exact built.trans (trying _)

theorem keepsOrRemoves_of_obstacle
    {world : World} {stop : Stop}
    (obstacle : GradingObstacle host settings names world stop)
    (output : Option String) {trail : Trail}
    (spared : SparesTrail host trail) :
    Build.KeepsOrRemoves settings.build trail world.files
      ((grade host output settings names).runOn world).2.files := by
  have built := keepsOrRemoves_build spared settings world
  cases obstacle with
  | unbuilt needed refused =>
      rw [grade_of_unbuilt needed refused]
      exact built
  | untried made obstacle =>
      have same (world : World) :=
        (doesOnly_trials host settings names world).get?_eq spared
          nofun nofun
      rw [made] at built
      rw [grade_of_untried made obstacle]
      unfold Build.KeepsOrRemoves
      rw [same]
      exact built

/-- Where the build fails nothing has been done for a trial. -/
theorem mem_effects_of_unbuilt
    {files : FileSystem} {failure : Failure} {output : Option String}
    (needed : settings.build.skip = false)
    (refused :
      ((Build.run host settings.build).runOn
        (begun files settings names)).1 = .error failure)
    {effect : Effect}
    (done :
      effect ∈
        ((grade host output settings names).runOn
          (begun files settings names)).2.effects) :
    (effect = .printed (settings.summary names) ∨
        Build.BuildEffect settings.build effect) ∧
      ¬ TrialEffect settings names effect := by
  rw [grade_of_unbuilt needed refused] at done
  rcases (doesOnly_build host settings _).mem_effects done with
    earlier | building
  · obtain rfl := List.mem_singleton.mp earlier
    exact ⟨Or.inl rfl, not_trialEffect_summary settings names⟩
  · exact ⟨Or.inr building, not_trialEffect_of_buildEffect building⟩

/-! ## Grading an existing binary -/

theorem skip_of_prepare
    {files : FileSystem} {arguments : CommandLine.Arguments}
    (prepared : prepare files arguments = .ok (settings, names)) :
    settings.build.skip = arguments.noCompile := by
  obtain ⟨_, _, rfl⟩ := eq_settingsOf_of_prepare prepared
  rfl

theorem build_of_skip
    (skipped : settings.build.skip = true) (world : World) :
    (build host settings).runOn world = (.ok none, world) := by
  unfold build
  rw [if_pos skipped]
  rfl

/--
Without a build there is one section on compiler warnings, and it is ungraded.
-/
theorem compilerWarnings_of_no_build (results : List Trial) :
    (score .standard results none : Ledger Float).categories.filter
        (·.category = .compilerWarnings) =
      [⟨.compilerWarnings, Points.ofNat 3, Points.ofNat 0, false, []⟩] := by
  have found :
      (score .standard results none : Ledger Float).categories.filter
          (·.category = .compilerWarnings) =
        [.prorate ⟨.compilerWarnings, Points.ofNat 3⟩ []] := by
    simp [score, Plan.standard, outcomesFor, buildOutcomes]
  exact found.trans rfl

/-- Without a build no file is removed in the whole run. -/
theorem not_removed_of_skip
    (skipped : settings.build.skip = true) (files : FileSystem)
    (output : Option String) (path : String) :
    .removed path ∉
      ((grade host output settings names).runOn
        (begun files settings names)).2.effects := by
  have trying :
      DoesOnly host (fun effect => ∀ path, effect ≠ .removed path)
        (trials host settings names) := by
    refine (doesOnly_trials host settings names).mono ?_
    rintro _ done path rfl
    cases done
  have publishing (ledger : Ledger Float) :
      DoesOnly host (fun effect => ∀ path, effect ≠ .removed path)
        (publish ledger settings.verbose output) := by
    refine (DoesOnly.print nofun).bind fun _ => ?_
    refine (DoesOnly.print nofun).bind fun _ => ?_
    refine (DoesOnly.print nofun).bind fun _ => ?_
    cases output with
    | none => exact .pure _
    | some path =>
        refine ((DoesOnly.writeFile nofun).bind fun written => ?_).mapError
        cases written with
        | error source => exact .throw _
        | ok _ => exact .print nofun
  have grading :=
    trying.bind fun results => publishing (score .standard results none)
  intro removed
  unfold grade at removed
  rw [Action.runOn_bind_of_ok (build_of_skip skipped _)] at removed
  rcases (grading _).mem_effects removed with earlier | later
  · cases List.mem_singleton.mp earlier
  · exact later path rfl

end

/--
Failures of the environment leave nothing half done.  Where the names, the
address of the listener or the address of the server cannot be settled, the
first of these is reported and nothing else happens.  Where the build fails
nothing is done for any trial.  Where the build or a trial fails no grade is
published, and a file that no process touches is as it was, unless it was the
old binary.  An existing binary is graded without removing anything, and then
the section on compiler warnings is ungraded.
-/
theorem environment_failures_atomic
    (host : Host) (files : FileSystem)
    (arguments : CommandLine.Arguments) :
    let ended := (run host arguments).runOn (.initial files)
    (∀ stop, Unprepared files arguments stop →
      endingOf ended = ⟨1, "", stop.text, .initial files⟩) ∧
    ((∀ stop, ¬ Unprepared files arguments stop) →
      ∃ settings names,
        prepare files arguments = .ok (settings, names)) ∧
    ∀ settings names,
      prepare files arguments = .ok (settings, names) →
        let start := begun files settings names
        (∀ failure, settings.build.skip = false →
          ((Build.run host settings.build).runOn start).1 =
              .error failure →
            ended.1 = .error (.failure failure) ∧
              ∀ effect ∈ ended.2.effects,
                (effect = .printed (settings.summary names) ∨
                    Build.BuildEffect settings.build effect) ∧
                  ¬ TrialEffect settings names effect) ∧
        (∀ stop, GradingObstacle host settings names start stop →
          ended.1 = .error stop ∧
            (∀ effect ∈ ended.2.effects,
              GradingEffect settings names effect ∧
                ¬ PublishingEffect effect) ∧
            ∀ trail, SparesTrail host trail →
              Build.KeepsOrRemoves settings.build trail files
                ended.2.files) ∧
        (arguments.noCompile = true →
          (build host settings).runOn start = (.ok none, start) ∧
            start.files = files ∧
            (∀ path, .removed path ∉ ended.2.effects) ∧
            (∀ effect ∈
                ((trials host settings names).runOn start).2.effects,
              effect = .printed (settings.summary names) ∨
                TrialEffect settings names effect) ∧
            ∀ results tried,
              (trials host settings names).runOn start =
                  (.ok results, tried) →
                let ledger := score .standard results none
                ended =
                    (publish ledger settings.verbose
                      arguments.output).runOn tried ∧
                  ledger.categories.filter
                      (·.category = .compilerWarnings) =
                    [⟨.compilerWarnings, Points.ofNat 3,
                      Points.ofNat 0, false, []⟩]) := by
  intro ended
  refine ⟨?_, ?_, ?_⟩
  · intro stop unprepared
    have stopped : ended = (.error stop, .initial files) :=
      run_of_unprepared unprepared host
    rw [stopped]
    cases unprepared <;> rfl
  · intro clear
    cases prepared : prepare files arguments with
    | ok settled => exact ⟨settled.1, settled.2, rfl⟩
    | error stop =>
        exact absurd ((prepare_eq_error_iff stop).mp prepared)
          (clear stop)
  · intro settings names prepared start
    have graded :
        ended =
          (grade host arguments.output settings names).runOn start :=
      run_of_prepared prepared host
    rw [graded]
    refine ⟨?_, ?_, ?_⟩
    · intro failure needed refused
      refine ⟨?_, fun effect done =>
        mem_effects_of_unbuilt needed refused done⟩
      rw [grade_of_unbuilt needed refused]
    · intro stop obstacle
      refine ⟨grade_of_obstacle obstacle, ?_, ?_⟩
      · intro effect done
        have grading : GradingEffect settings names effect := by
          rcases (adds_of_obstacle obstacle _).mem_effects done with
            earlier | grading
          · obtain rfl := List.mem_singleton.mp earlier
            exact .summary
          · exact grading
        exact ⟨grading, grading.not_publishing⟩
      · intro trail spared
        exact keepsOrRemoves_of_obstacle obstacle _ spared
    · intro existing
      have skipped := (skip_of_prepare prepared).trans existing
      have unbuilt :
          (build host settings).runOn start = (.ok none, start) :=
        build_of_skip skipped start
      refine ⟨unbuilt, rfl, not_removed_of_skip skipped files _, ?_, ?_⟩
      · intro effect done
        exact ((doesOnly_trials host settings names _).mem_effects
          done).imp_left List.mem_singleton.mp
      · intro results tried completed ledger
        refine ⟨?_, compilerWarnings_of_no_build results⟩
        unfold grade
        rw [Action.runOn_bind_of_ok unbuilt,
          Action.runOn_bind_of_ok completed]

/-- The same with no server to ask. -/
def unservedBinary : CommandLine.Arguments :=
  { existingBinary with dnsServer := "" }

/--
A host without a failure publishes a grade for an existing binary, and nothing
at all is done where no server is named.
-/
theorem environment_failures_atomic_existing :
    prepare .bare existingBinary = .ok (existingSettings, ["."]) ∧
      (∃ results tried,
        (trials crashingHost existingSettings ["."]).runOn
            (begun .bare existingSettings ["."]) = (.ok results, tried) ∧
          (run crashingHost existingBinary).runOn (.initial .bare) =
            (publish (score .standard results none)
              existingSettings.verbose existingBinary.output).runOn
              tried) ∧
      (∀ path, .removed path ∉
        ((run crashingHost existingBinary).runOn
          (.initial .bare)).2.effects) ∧
      Unprepared .bare unservedBinary (.serverAddress .empty) ∧
      endingOf
          ((run crashingHost unservedBinary).runOn (.initial .bare)) =
        ⟨1, "", (Stop.serverAddress .empty).text, .initial .bare⟩ := by
  have unprepared :
      Unprepared .bare unservedBinary (.serverAddress .empty) :=
    .server nofun (by decide +kernel) (by decide +kernel)
  obtain ⟨_, _, grades⟩ :=
    environment_failures_atomic crashingHost .bare existingBinary
  obtain ⟨_, _, existing⟩ := grades _ _ prepare_existingBinary
  obtain ⟨unbuilt, _, kept, _, published⟩ := existing rfl
  obtain ⟨_, _, report, built, results, tried, graded⟩ :=
    graded_of_run_eq_ok run_existingBinary
  cases prepare_existingBinary.symm.trans graded.prepared
  cases unbuilt.symm.trans graded.made
  have completed := graded.completed
  obtain ⟨stopped, _⟩ :=
    environment_failures_atomic crashingHost .bare unservedBinary
  exact ⟨prepare_existingBinary,
    ⟨results, tried, completed, (published results tried completed).1⟩,
    kept, unprepared, stopped _ unprepared⟩

end Program

end ResolverGrader
