import ResolverGrader.Proofs.Build.Effects
import ResolverGrader.Proofs.Host.Removal
import ResolverGrader.Proofs.Ledger.Warnings

/-!
# No stale binary is graded

A build comes to one of three things.  The old binary stands and cannot be
removed, and nothing else is done; or nothing stands at its path any more, and
the compiler cannot be started; or the compiler runs on files that hold no
binary, and its end decides what the build comes to.

`stale_binary_never_graded` says this for every host, with what the compiler's
standard error output is worth in the grade.
-/

namespace ResolverGrader.Build

open ResolverGrader.Host ResolverGrader.Text

/-! ## The course of a build -/

/-- What starting the compiler comes to, given the files there are. -/
def compiler (host : Host) (settings : BuildSettings) (files : FileSystem) :
    Except IoError Child :=
  host.launch files (settings.compiler :: compilerArguments settings)

/--
The old binary is out of the way and the compiler is about to be started.
-/
structure Prepares
    (settings : BuildSettings) (world ready : World) : Prop where
  /--
  It was removed, which is done before the compilation is announced, or there
  was none.
  -/
  removal :
    (world.files.remove settings.binary = .ok ready.files ∧
      ready.effects =
        world.effects ++
          [.printed removalNotice, .removed settings.binary,
            .printed (compilationNotice settings)]) ∨
      (world.files.remove settings.binary = .error .notFound ∧
        ready.files = world.files ∧
        ready.effects =
          world.effects ++
            [.printed removalNotice,
              .printed (compilationNotice settings)])
  clears : world.files.Clears ready.files settings.binary

theorem Prepares.eq_notFound
    {settings : BuildSettings} {world ready : World}
    (prepares : Prepares settings world ready) {source : IoError}
    (kept : world.files.remove settings.binary = .error source) :
    source = .notFound := by
  rcases prepares.removal with ⟨removed, _⟩ | ⟨missing, _, _⟩
  · cases kept.symm.trans removed
  · exact Except.error.inj (kept.symm.trans missing)

/-- What a build comes to, and the world that it leaves. -/
inductive Builds (host : Host) (settings : BuildSettings) (world : World) :
    Except Failure BuildReport → World → Prop where
  | blocked
      {source : IoError}
      (kept : world.files.remove settings.binary = .error source)
      (present : source ≠ .notFound) :
      Builds host settings world
        (.error (.removeBinary settings.binary source))
        (world.after (.printed removalNotice))
  | unlaunched
      {ready : World} {source : IoError}
      (prepares : Prepares settings world ready)
      (refused : compiler host settings ready.files = .error source) :
      Builds host settings world
        (.error (.spawn settings.compiler source)) ready
  | compiled
      {ready : World} {child : Child}
      (prepares : Prepares settings world ready)
      (launched : compiler host settings ready.files = .ok child) :
      Builds host settings world (reportOf settings child)
        { ready.after
            (.started (settings.compiler :: compilerArguments settings)) with
          files := child.changes ready.files }

/--
Removing the old binary either leaves it and fails, or leads on to the
compiler.
-/
theorem runOn_removeOldBinary
    (settings : BuildSettings) (world : World) :
    (∃ source,
      world.files.remove settings.binary = .error source ∧
        source ≠ .notFound ∧
        (removeOldBinary settings).runOn world =
          (.error (.removeBinary settings.binary source),
            world.after (.printed removalNotice))) ∨
      ∃ cleared,
        (removeOldBinary settings).runOn world = (.ok (), cleared) ∧
          Prepares settings world
            (cleared.after (.printed (compilationNotice settings))) := by
  unfold removeOldBinary
  rw [Action.runOn_bind_print, Action.runOn_bind, Action.runOn_removeFile]
  cases removed :
      (world.after (.printed removalNotice)).files.remove
        settings.binary with
  | ok files =>
      refine .inr ⟨_, rfl, .inl ⟨removed, ?_⟩,
        FileSystem.clears_of_remove removed⟩
      simp [World.after]
  | error source =>
      dsimp only
      split
      · next missing =>
        subst missing
        refine .inr ⟨_, rfl, .inr ⟨removed, rfl, ?_⟩,
          (FileSystem.vacant_of_remove removed).clears⟩
        simp [World.after]
      · next present =>
        exact .inl ⟨source, removed, present, rfl⟩

theorem builds_run
    (host : Host) (settings : BuildSettings) (world : World) :
    Builds host settings world ((run host settings).runOn world).1
      ((run host settings).runOn world).2 := by
  rw [run_eq]
  rcases runOn_removeOldBinary settings world with
    ⟨source, kept, present, ended⟩ | ⟨cleared, ended, prepares⟩
  · rw [Action.runOn_bind_of_error ended]
    exact .blocked kept present
  · rw [Action.runOn_bind_of_ok ended, compile, Action.runOn_bind_print,
      Action.runOn_bind_start, Action.runOn_start]
    cases launched :
        compiler host settings
          (cleared.after (.printed (compilationNotice settings))).files with
    | error source =>
        unfold compiler at launched
        rw [launched]
        exact .unlaunched prepares launched
    | ok child =>
        have course := Builds.compiled prepares launched
        unfold compiler at launched
        rw [launched]
        simpa only [Action.runOn_ofExcept] using course

/-! ## What it comes to -/

/--
How a compiler that is about to be started decides what the build comes to.
-/
structure CompilesFrom
    (host : Host) (settings : BuildSettings) (ready : World)
    (outcome : Except Failure BuildReport) (ended : World) : Prop where
  unlaunched :
    ∀ source, compiler host settings ready.files = .error source →
      ended = ready
  launched :
    ∀ child, compiler host settings ready.files = .ok child →
      ended.files = child.changes ready.files ∧
        ended.effects =
          ready.effects ++
            [.started (settings.compiler :: compilerArguments settings)]
  ok_iff :
    ∀ report, outcome = .ok report ↔
      ∃ child, compiler host settings ready.files = .ok child ∧
        child.status = .ok 0 ∧
          report.warnings = String.ofList (Utf8.decode child.stderr)
  /--
  A compiler whose end nobody can learn counts as one that was not started.
  -/
  spawn_iff :
    ∀ tool source, outcome = .error (.spawn tool source) ↔
      tool = settings.compiler ∧
        (compiler host settings ready.files = .error source ∨
          ∃ child, compiler host settings ready.files = .ok child ∧
            child.status = .error source)
  spawn_iff_of_learned :
    (∀ child, compiler host settings ready.files = .ok child →
      ∃ status, child.status = .ok status) →
        ∀ source,
          outcome = .error (.spawn settings.compiler source) ↔
            compiler host settings ready.files = .error source
  compile_iff :
    ∀ path stderr, outcome = .error (.compile path stderr) ↔
      path = settings.source ∧
        ∃ child status, compiler host settings ready.files = .ok child ∧
          child.status = .ok status ∧ status ≠ 0 ∧
            stderr = String.ofList (Utf8.decode child.stderr)
  isClean_iff :
    ∀ report child, outcome = .ok report →
      compiler host settings ready.files = .ok child →
        (report.isClean = true ↔ child.stderr = [])

/-- Only a compiler that writes nothing at all says nothing. -/
theorem isEmpty_decode_iff (octets : Octets) :
    (String.ofList (Utf8.decode octets)).isEmpty = true ↔ octets = [] := by
  rw [← Utf8.decode_eq_nil_iff]
  simp [String.isEmpty_iff]

section

variable (settings : BuildSettings) (child : Child)

theorem reportOf_eq_ok_iff (report : BuildReport) :
    reportOf settings child = .ok report ↔
      child.status = .ok 0 ∧
        report.warnings = String.ofList (Utf8.decode child.stderr) := by
  unfold reportOf
  cases child.status with
  | error source => simp
  | ok status =>
      cases report
      by_cases zero : status = 0 <;> simp [zero, eq_comm]

theorem reportOf_eq_spawn_iff (tool : String) (source : IoError) :
    reportOf settings child = .error (.spawn tool source) ↔
      tool = settings.compiler ∧ child.status = .error source := by
  unfold reportOf
  cases child.status with
  | error cause => simp [eq_comm]
  | ok status => by_cases zero : status = 0 <;> simp [zero]

theorem reportOf_eq_compile_iff (path stderr : String) :
    reportOf settings child = .error (.compile path stderr) ↔
      path = settings.source ∧
        ∃ status, child.status = .ok status ∧ status ≠ 0 ∧
          stderr = String.ofList (Utf8.decode child.stderr) := by
  unfold reportOf
  cases child.status with
  | error source => simp
  | ok status => by_cases zero : status = 0 <;> simp [zero, eq_comm]

end

theorem compilesFrom_of_refused
    {host : Host} {settings : BuildSettings} {ready : World}
    {source : IoError}
    (refused : compiler host settings ready.files = .error source) :
    CompilesFrom host settings ready
      (.error (.spawn settings.compiler source)) ready where
  unlaunched _ _ := rfl
  launched := by simp [refused]
  ok_iff := by simp [refused]
  spawn_iff := by simp [refused, eq_comm]
  spawn_iff_of_learned := by simp [refused]
  compile_iff := by simp [refused]
  isClean_iff := by simp

theorem compilesFrom_of_launched
    {host : Host} {settings : BuildSettings} {ready : World}
    {child : Child}
    (launched : compiler host settings ready.files = .ok child) :
    CompilesFrom host settings ready (reportOf settings child)
      { ready.after
          (.started (settings.compiler :: compilerArguments settings)) with
        files := child.changes ready.files } where
  unlaunched := by simp [launched]
  launched := by
    intro other same
    cases launched.symm.trans same
    exact ⟨rfl, rfl⟩
  ok_iff report := by
    simp only [launched, Except.ok.injEq, exists_eq_left',
      reportOf_eq_ok_iff]
  spawn_iff tool source := by
    simp only [launched, Except.ok.injEq, exists_eq_left',
      reportOf_eq_spawn_iff, reduceCtorEq, false_or]
  spawn_iff_of_learned learned source := by
    obtain ⟨status, ended⟩ := learned child launched
    simp [reportOf_eq_spawn_iff, launched, ended]
  compile_iff path stderr := by
    rw [reportOf_eq_compile_iff]
    simp only [launched, Except.ok.injEq, exists_and_left, exists_eq_left']
  isClean_iff := by
    intro report other made same
    cases launched.symm.trans same
    obtain ⟨_, said⟩ := (reportOf_eq_ok_iff settings child report).mp made
    rw [BuildReport.isClean, said]
    exact isEmpty_decode_iff child.stderr

/-! ## Every build -/

/--
A binary that cannot be removed, other than for its absence, ends the build
before the compiler is started and leaves the files as they are.  Otherwise
nothing stands at its path when the compiler is started, no other file has been
touched, and whatever stands there afterwards is the work of this compiler,
whose end alone decides between a report and a failure.  A report is clean only
if the compiler wrote nothing, and then its warnings score in full; any others
are worth nothing.
-/
theorem stale_binary_never_graded
    (host : Host) (settings : BuildSettings) (world : World) :
    let outcome := ((run host settings).runOn world).1
    let ended := ((run host settings).runOn world).2
    (∀ source,
      world.files.remove settings.binary = .error source →
        source ≠ .notFound →
          outcome = .error (.removeBinary settings.binary source) ∧
            ended.files = world.files ∧
            ended.effects = world.effects ++ [.printed removalNotice]) ∧
      ((∀ source,
        world.files.remove settings.binary = .error source →
          source = .notFound) →
        ∃ ready,
          Prepares settings world ready ∧
            CompilesFrom host settings ready outcome ended ∧
            (¬ ended.files.Vacant settings.binary →
              ∃ child, compiler host settings ready.files = .ok child ∧
                ended.files = child.changes ready.files)) ∧
      ∀ report, outcome = .ok report → ScoresWarnings report := by
  intro outcome ended
  have course : Builds host settings world outcome ended :=
    builds_run host settings world
  generalize outcome = result at course
  generalize ended = after at course
  refine ⟨?_, ?_, fun report _ => scoresWarnings report⟩
  · intro source kept present
    cases course with
    | blocked other _ =>
        cases kept.symm.trans other
        exact ⟨rfl, rfl, rfl⟩
    | unlaunched prepares _ | compiled prepares _ =>
        exact absurd (prepares.eq_notFound kept) present
  · intro removable
    cases course with
    | blocked kept present => exact absurd (removable _ kept) present
    | unlaunched prepares refused =>
        refine ⟨_, prepares, compilesFrom_of_refused refused, ?_⟩
        exact fun occupied => absurd prepares.clears.vacant occupied
    | compiled prepares launched =>
        exact ⟨_, prepares, compilesFrom_of_launched launched,
          fun _ => ⟨_, launched, rfl⟩⟩

/--
A host whose compiler complains about something, makes nothing and calls that a
success.
-/
def idleHost : Host where
  network := .loopback []
  random := fun _ => 0
  launch := fun _ _ => .ok ⟨[], fun _ => [], [0x77], false, .ok 0, id⟩
  serverReceipts := fun _ _ => []

/--
Where there is a binary it is gone after such a build; where it must not be
removed, or there is a directory instead, everything stays.
-/
theorem stale_binary_never_graded_idle :
    let settings : BuildSettings := ⟨"cc", "resolver.c", "resolver", false⟩
    let stale := World.initial ⟨[(["resolver"], .file [1] true)], []⟩
    let kept :=
      World.initial
        ⟨[(["resolver"], .file [1] true)],
          [((.remove, ["resolver"]), ⟨.permissionDenied, by decide⟩)]⟩
    let directory := World.initial ⟨[(["resolver"], .directory)], []⟩
    ((run idleHost settings).runOn stale).1 = .ok ⟨"w"⟩ ∧
      ((run idleHost settings).runOn stale).2.files.Vacant "resolver" ∧
      ScoresWarnings ⟨"w"⟩ ∧
      ((run idleHost settings).runOn kept).1 =
        .error (.removeBinary "resolver" .permissionDenied) ∧
      ((run idleHost settings).runOn kept).2.files = kept.files ∧
      ((run idleHost settings).runOn directory).1 =
        .error (.removeBinary "resolver" .isADirectory) ∧
      ((run idleHost settings).runOn directory).2.files =
        directory.files := by
  intro settings stale kept directory
  have removed : stale.files.remove "resolver" = .ok ⟨[], []⟩ := by
    rfl
  have forbidden :
      kept.files.remove "resolver" = .error .permissionDenied := by
    rfl
  have blocked :
      directory.files.remove "resolver" = .error .isADirectory := by
    rfl
  obtain ⟨_, removable, scores⟩ :=
    stale_binary_never_graded idleHost settings stale
  obtain ⟨ready, prepares, compiles, _⟩ :=
    removable fun source kept => by cases removed.symm.trans kept
  have report :
      ((run idleHost settings).runOn stale).1 = .ok ⟨"w"⟩ :=
    (compiles.ok_iff _).mpr ⟨_, rfl, rfl, by decide +kernel⟩
  have vacant :
      ((run idleHost settings).runOn stale).2.files.Vacant "resolver" := by
    rw [(compiles.launched _ rfl).1]
    exact prepares.clears.vacant
  obtain ⟨stays, _⟩ := stale_binary_never_graded idleHost settings kept
  obtain ⟨denied, untouched, _⟩ := stays _ forbidden (by decide)
  obtain ⟨unchanged, _⟩ :=
    stale_binary_never_graded idleHost settings directory
  obtain ⟨ends, same, _⟩ := unchanged _ blocked (by decide)
  exact ⟨report, vacant, scores _ report, denied, untouched, ends, same⟩

end ResolverGrader.Build
