import ResolverGrader.Build
import ResolverGrader.Proofs.Host.Effects

/-!
# The effects of a build

A build removes the old binary before it starts the compiler, and it does
nothing else.  A file that the compiler spares is afterwards as it was, unless
it was the old binary.
-/

namespace ResolverGrader.Build

open ResolverGrader.Host

/-- The part of a build that follows the removal of the old binary. -/
def compile (host : Host) (settings : BuildSettings) :
    Action Failure BuildReport := do
  Action.print (compilationNotice settings)
  match ← Action.start host
      (settings.compiler :: compilerArguments settings) with
  | .error source => throw (.spawn settings.compiler source)
  | .ok compiler => MonadExcept.ofExcept (reportOf settings compiler)

theorem run_eq (host : Host) (settings : BuildSettings) :
    run host settings =
      removeOldBinary settings >>= fun _ => compile host settings :=
  rfl

/-- What is done to compile. -/
inductive CompileEffect (settings : BuildSettings) : Effect → Prop where
  | notice :
      CompileEffect settings (.printed (compilationNotice settings))
  | compiler :
      CompileEffect settings
        (.started (settings.compiler :: compilerArguments settings))

/--
What is done to build: the old binary is removed before anything is compiled.
-/
inductive BuildEffect (settings : BuildSettings) : Effect → Prop where
  | notice : BuildEffect settings (.printed removalNotice)
  | removal : BuildEffect settings (.removed settings.binary)
  | compilation
      {effect : Effect} (done : CompileEffect settings effect) :
      BuildEffect settings effect

theorem doesOnly_compile (host : Host) (settings : BuildSettings) :
    DoesOnly host (CompileEffect settings) (compile host settings) := by
  refine (DoesOnly.print .notice).bind fun _ => ?_
  refine (DoesOnly.start .compiler).bind fun launched => ?_
  cases launched with
  | error source => exact .throw _
  | ok compiler => exact .ofExcept _

theorem doesOnly_removeOldBinary
    (host : Host) (settings : BuildSettings) :
    DoesOnly host (BuildEffect settings) (removeOldBinary settings) := by
  refine (DoesOnly.print .notice).bind fun _ => ?_
  refine (DoesOnly.removeFile .removal).bind fun removed => ?_
  rcases removed with source | ⟨⟩
  · dsimp only
    split
    · exact .pure _
    · exact .throw _
  · exact .pure _

theorem doesOnly_run (host : Host) (settings : BuildSettings) :
    DoesOnly host (BuildEffect settings) (run host settings) :=
  (doesOnly_removeOldBinary host settings).bind fun _ =>
    (doesOnly_compile host settings).mono fun _ => .compilation

/--
What stands at a trail after a build was there before, or it was the old binary
and is gone.
-/
def KeepsOrRemoves (settings : BuildSettings) (trail : Trail)
    (files after : FileSystem) : Prop :=
  after.get? trail = files.get? trail ∨
    after.get? trail = none ∧
      ∃ place, files.locate settings.binary = .ok place ∧
        place.trail = trail

theorem keepsOrRemoves_removeOldBinary
    (settings : BuildSettings) (trail : Trail) (world : World) :
    KeepsOrRemoves settings trail world.files
      ((removeOldBinary settings).runOn world).2.files := by
  unfold removeOldBinary
  rw [Action.runOn_bind_print, Action.runOn_bind, Action.runOn_removeFile]
  cases removed :
      (world.after (.printed removalNotice)).files.remove
        settings.binary with
  | ok files => exact FileSystem.get?_of_remove removed trail
  | error source =>
      dsimp only
      split <;> exact Or.inl rfl

theorem keepsOrRemoves_run
    {host : Host} {trail : Trail} (spared : SparesTrail host trail)
    (settings : BuildSettings) (world : World) :
    KeepsOrRemoves settings trail world.files
      ((run host settings).runOn world).2.files := by
  have cleaned := keepsOrRemoves_removeOldBinary settings trail world
  rw [run_eq]
  rcases ended : (removeOldBinary settings).runOn world with
    ⟨failure | ⟨⟩, after⟩
  · rw [ended] at cleaned
    rwa [Action.runOn_bind_of_error ended]
  · rw [ended] at cleaned
    have same :=
      (doesOnly_compile host settings after).get?_eq spared nofun nofun
    rw [Action.runOn_bind_of_ok ended]
    unfold KeepsOrRemoves
    rwa [same]

end ResolverGrader.Build
