import ResolverGrader.Program
import ResolverGrader.Proofs.Host.Actions

/-!
# The phases of the program

Everything that the command line leaves open is settled first, and nothing is
done before.  Then the settings are shown, the submission is built and tried,
and its grade is published.  Each phase runs in the world that the one before
it leaves, and the first that fails ends the program.
-/

namespace ResolverGrader.Program

open ResolverGrader.CommandLine ResolverGrader.Host ResolverGrader.Net
open ResolverGrader.Text

/-! ## Settling what is to be done -/

/-- The file of names can be read, if one is named. -/
def NamesReadable (files : FileSystem) (arguments : Arguments) : Prop :=
  ∀ path, arguments.domainFile = some path →
    ∃ text, files.readText path = .ok text

/--
The first thing that cannot be settled, and the stop that it is reported as:
the names come before the address of the listener, and that comes before the
address of the server.
-/
inductive Unprepared (files : FileSystem) (arguments : Arguments) :
    Stop → Prop where
  | names
      {path : String} {source : IoError}
      (named : arguments.domainFile = some path)
      (unreadable : files.readText path = .error source) :
      Unprepared files arguments (.queryNames ⟨path, source⟩)
  | listener
      (readable : NamesReadable files arguments)
      (unparsed : IpAddress.parse? arguments.proxyIp.toList = none) :
      Unprepared files arguments (.listenerAddress arguments.proxyIp)
  | server
      {error : Server.AddressError}
      (readable : NamesReadable files arguments)
      (listening :
        (IpAddress.parse? arguments.proxyIp.toList).isSome = true)
      (unparsed :
        Server.parseAddress arguments.dnsServer = .error error) :
      Unprepared files arguments (.serverAddress error)

section

variable {files : FileSystem} {arguments : Arguments}

theorem requestedNames_of_unreadable
    {path : String} {source : IoError}
    (named : arguments.domainFile = some path)
    (unreadable : files.readText path = .error source) :
    requestedNames files arguments =
      .error (.queryNames ⟨path, source⟩) := by
  simp only [requestedNames, QueryNames.ofFile, named, unreadable]

theorem requestedNames_of_readable
    (readable : NamesReadable files arguments) :
    ∃ names, requestedNames files arguments = .ok names := by
  unfold requestedNames QueryNames.ofFile
  cases named : arguments.domainFile with
  | none => exact ⟨_, rfl⟩
  | some path =>
      obtain ⟨text, read⟩ := readable path named
      simp only [read]
      exact ⟨_, rfl⟩

theorem readable_or_unreadable
    (files : FileSystem) (arguments : Arguments) :
    NamesReadable files arguments ∨
      ∃ path source, arguments.domainFile = some path ∧
        files.readText path = .error source := by
  unfold NamesReadable
  cases arguments.domainFile with
  | none => exact Or.inl nofun
  | some path =>
      cases read : files.readText path with
      | ok text =>
          refine Or.inl ?_
          rintro _ ⟨⟩
          exact ⟨text, read⟩
      | error source => exact Or.inr ⟨path, source, rfl, read⟩

/-- What comes of settling everything, once the names are there. -/
theorem prepare_of_requestedNames
    {names : List String}
    (requested : requestedNames files arguments = .ok names) :
    prepare files arguments =
      match IpAddress.parse? arguments.proxyIp.toList with
      | none => .error (.listenerAddress arguments.proxyIp)
      | some proxyIp =>
          match Server.parseAddress arguments.dnsServer with
          | .error error => .error (.serverAddress error)
          | .ok server =>
              .ok (settingsOf arguments proxyIp server, names) := by
  unfold prepare listenerAddress serverAddress
  rw [requested]
  cases IpAddress.parse? arguments.proxyIp.toList with
  | none => rfl
  | some proxyIp => cases Server.parseAddress arguments.dnsServer <;> rfl

/--
Nothing is settled where something is unprepared, and the first such thing is
reported.
-/
theorem prepare_eq_error_iff (stop : Stop) :
    prepare files arguments = .error stop ↔
      Unprepared files arguments stop := by
  constructor
  · intro refused
    rcases readable_or_unreadable files arguments with
      readable | ⟨path, source, named, unreadable⟩
    · obtain ⟨names, requested⟩ := requestedNames_of_readable readable
      rw [prepare_of_requestedNames requested] at refused
      cases parsed : IpAddress.parse? arguments.proxyIp.toList with
      | none =>
          simp only [parsed] at refused
          obtain rfl := Except.error.inj refused
          exact .listener readable parsed
      | some proxyIp =>
          simp only [parsed] at refused
          cases found : Server.parseAddress arguments.dnsServer with
          | error error =>
              simp only [found] at refused
              obtain rfl := Except.error.inj refused
              exact .server readable (by rw [parsed]; rfl) found
          | ok server =>
              simp only [found] at refused
              cases refused
    · unfold prepare at refused
      rw [requestedNames_of_unreadable named unreadable] at refused
      obtain rfl := Except.error.inj refused
      exact .names named unreadable
  · intro unprepared
    cases unprepared with
    | names named unreadable =>
        unfold prepare
        rw [requestedNames_of_unreadable named unreadable]
        rfl
    | listener readable unparsed =>
        obtain ⟨names, requested⟩ := requestedNames_of_readable readable
        rw [prepare_of_requestedNames requested, unparsed]
    | server readable listening unparsed =>
        obtain ⟨names, requested⟩ := requestedNames_of_readable readable
        obtain ⟨proxyIp, parsed⟩ := Option.isSome_iff_exists.mp listening
        rw [prepare_of_requestedNames requested, parsed, unparsed]

/--
What is settled are the settings of the command line, with two addresses in
them.
-/
theorem eq_settingsOf_of_prepare
    {settings : Settings} {names : List String}
    (prepared : prepare files arguments = .ok (settings, names)) :
    ∃ proxyIp server, settings = settingsOf arguments proxyIp server := by
  unfold prepare at prepared
  cases requested : requestedNames files arguments with
  | error stop =>
      rw [requested] at prepared
      cases prepared
  | ok requestedNames =>
      rw [← prepare, prepare_of_requestedNames requested] at prepared
      split at prepared
      · cases prepared
      · next proxyIp _ =>
        split at prepared
        · cases prepared
        · next server _ =>
          exact ⟨proxyIp, server,
            (congrArg Prod.fst (Except.ok.inj prepared)).symm⟩

end

/-! ## Grading -/

/--
The world in which grading begins: the settings have been shown, and that is
all.
-/
def begun (files : FileSystem) (settings : Settings)
    (names : List String) : World :=
  (World.initial files).after (.printed (settings.summary names))

/--
What is done once everything is settled and the settings have been shown.
-/
def grade (host : Host) (output : Option String) (settings : Settings)
    (names : List String) : Action Stop Unit := do
  let report ← build host settings
  let results ← trials host settings names
  publish (score .standard results report) settings.verbose output

theorem run_of_unprepared
    {files : FileSystem} {arguments : Arguments} {stop : Stop}
    (unprepared : Unprepared files arguments stop) (host : Host) :
    (run host arguments).runOn (.initial files) =
      (.error stop, .initial files) := by
  have refused := (prepare_eq_error_iff stop).mpr unprepared
  unfold run
  rw [Action.runOn_bind_of_ok (Action.runOn_get _)]
  refine Action.runOn_bind_of_error ?_ _
  rw [Action.runOn_ofExcept]
  exact congrArg (·, _) refused

theorem run_of_prepared
    {files : FileSystem} {arguments : Arguments}
    {settings : Settings} {names : List String}
    (prepared : prepare files arguments = .ok (settings, names))
    (host : Host) :
    (run host arguments).runOn (.initial files) =
      (grade host arguments.output settings names).runOn
        (begun files settings names) := by
  have settled :
      (MonadExcept.ofExcept (prepare files arguments) :
          Action Stop _).runOn (.initial files) =
        (.ok (settings, names), .initial files) := by
    rw [Action.runOn_ofExcept, prepared]
  unfold run
  rw [Action.runOn_bind_of_ok (Action.runOn_get _)]
  exact Action.runOn_bind_of_ok settled _

/-! ## Publishing -/

/-- The world in which a grade has been shown as a report and as a table. -/
def shown (ledger : Ledger Float) (verbose : Bool) (world : World) :
    World :=
  ((world.after (.printed (Report.text ledger verbose))).after
    (.printed "\n")).after (.printed (SummaryTable.text ledger))

/-- What is written to the file of verdicts. -/
def verdictContents (ledger : Ledger Float) : Octets :=
  Utf8.encode (Csv.text ledger).toList

/--
A grade is always shown; writing the verdicts to a file can fail after that.
-/
theorem runOn_publish
    (ledger : Ledger Float) (verbose : Bool) (output : Option String)
    (world : World) :
    (publish ledger verbose output).runOn world =
      match output with
      | none => (.ok (), shown ledger verbose world)
      | some path =>
          match world.files.write path (verdictContents ledger) with
          | .error source =>
              (.error (.verdictFile source), shown ledger verbose world)
          | .ok files =>
              (.ok (),
                ({ shown ledger verbose world with files }.after
                  (.wrote path (verdictContents ledger))).after
                    (.printed (verdictNotice path))) := by
  have presented :
      (publish ledger verbose output).runOn world =
        Action.runOn
          (match output with
            | none => return ()
            | some path =>
                (writeVerdicts path ledger).mapError .verdictFile)
          (shown ledger verbose world) :=
    rfl
  rw [presented]
  cases output with
  | none => rfl
  | some path =>
      have same : (shown ledger verbose world).files = world.files := rfl
      unfold writeVerdicts
      dsimp only
      rw [Action.runOn_mapError, Action.runOn_bind,
        Action.runOn_writeFile, same, ← verdictContents]
      cases world.files.write path (verdictContents ledger) <;> rfl

/-- What is done to publish a grade. -/
def published (ledger : Ledger Float) (verbose : Bool)
    (output : Option String) : List Effect :=
  [.printed (Report.text ledger verbose), .printed "\n",
    .printed (SummaryTable.text ledger)] ++
    match output with
    | none => []
    | some path =>
        [.wrote path (verdictContents ledger),
          .printed (verdictNotice path)]

theorem effects_of_published
    {ledger : Ledger Float} {verbose : Bool} {output : Option String}
    {world after : World}
    (ended :
      (publish ledger verbose output).runOn world = (.ok (), after)) :
    after.effects =
      world.effects ++ published ledger verbose output := by
  rw [runOn_publish] at ended
  cases output with
  | none =>
      obtain rfl := congrArg Prod.snd ended
      simp [shown, World.after, published]
  | some path =>
      cases written :
          world.files.write path (verdictContents ledger) with
      | error source =>
          simp [written] at ended
      | ok files =>
          simp only [written, Prod.mk.injEq, true_and] at ended
          subst ended
          simp [shown, World.after, published]

end ResolverGrader.Program
