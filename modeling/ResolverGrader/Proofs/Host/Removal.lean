import ResolverGrader.Proofs.Host.Effects

/-!
# Removing what a path leads to

Only what is no directory can be removed, and paths only lead through
directories.  So a path still leads to the same place after a removal, nothing
stands there any more, and everything else is as it was.  Where a removal finds
nothing there was nothing at the end of the path.
-/

namespace ResolverGrader.Host.FileSystem

variable {files after : FileSystem} {path : String}

/-- Nothing stands where a path leads, if it leads anywhere. -/
def Vacant (files : FileSystem) (path : String) : Prop :=
  ∀ place, files.locate path = .ok place → files.get? place.trail = none

/-- The same files, apart from nothing at the end of a path. -/
structure Clears (files after : FileSystem) (path : String) : Prop where
  /-- The path leads where it led. -/
  locate_iff :
    ∀ place, after.locate path = .ok place ↔ files.locate path = .ok place
  vacant : after.Vacant path
  others :
    ∀ trail,
      (∀ place, files.locate path = .ok place → trail ≠ place.trail) →
        after.get? trail = files.get? trail

/-! ## Following paths -/

/-- Whether a name can be looked up is no matter of the files. -/
theorem lookUp_of_lookUp
    {trail : Trail} {entry : Option Entry}
    (found : files.lookUp trail = .ok entry) (after : FileSystem) :
    after.lookUp trail = .ok (after.get? trail) := by
  unfold lookUp at found ⊢
  split at found
  · cases found
  · next short => exact if_neg short

/-- Files where paths lead on at least as far. -/
structure LeadsOn (files after : FileSystem) : Prop where
  /-- The directories are still there. -/
  directory :
    ∀ trail, files.get? trail = some .directory →
      after.get? trail = some .directory
  /-- They can still be searched. -/
  permit :
    ∀ trail, after.permit .search trail = files.permit .search trail

theorem walk_of_leadsOn
    (leadsOn : files.LeadsOn after)
    {trail reached : Trail} {names : List String}
    (followed : files.walk trail names = .ok reached) :
    after.walk trail names = .ok reached := by
  induction names generalizing trail with
  | nil => exact followed
  | cons name rest ih =>
      obtain ⟨entry, found, followed⟩ := bind_eq_ok_iff.mp followed
      refine bind_eq_ok_iff.mpr ⟨_, lookUp_of_lookUp found after, ?_⟩
      rcases entry with _ | _ | _ | _
      case some.directory =>
        obtain ⟨_, permitted, followed⟩ := bind_eq_ok_iff.mp followed
        rw [leadsOn.directory trail (get?_of_lookUp found)]
        rw [← leadsOn.permit] at permitted
        exact bind_eq_ok_iff.mpr ⟨_, permitted, ih followed⟩
      all_goals cases followed

theorem locate_of_leadsOn
    (leadsOn : files.LeadsOn after)
    {place : Place} (located : files.locate path = .ok place) :
    after.locate path = .ok place := by
  unfold locate at located ⊢
  split at located
  · cases located
  · split at located
    · cases located
    · split at located
      · cases located
      · next nul empty long =>
        rw [if_neg nul, if_neg empty, if_neg long]
        obtain ⟨trail, followed, reached⟩ := bind_eq_ok_iff.mp located
        exact bind_eq_ok_iff.mpr
          ⟨trail, walk_of_leadsOn leadsOn followed, reached⟩

/-! ## Removals -/

theorem get?_erase_self_of_ne_directory
    {trail : Trail} (plain : files.get? trail ≠ some .directory) :
    (files.erase trail).get? trail = none :=
  (files.get?_erase_self trail).elim
    (fun same => by
      unfold get? at plain same ⊢
      split at plain
      · exact absurd rfl plain
      · next below =>
        rw [if_neg below]
        exact lookup_filter_self _ _)
    id

theorem clears_of_remove (removed : files.remove path = .ok after) :
    files.Clears after path := by
  obtain ⟨place, located, plain, rfl⟩ := eq_erase_of_remove removed
  have gone := get?_erase_self_of_ne_directory plain
  have directories (trail : Trail) :
      (files.erase place.trail).get? trail = some .directory ↔
        files.get? trail = some .directory := by
    by_cases same : trail = place.trail
    · rw [same, gone]
      exact iff_of_false nofun plain
    · rw [files.get?_erase_of_ne same]
  have locate_iff (found : Place) :
      (files.erase place.trail).locate path = .ok found ↔
        files.locate path = .ok found :=
    ⟨locate_of_leadsOn
        ⟨fun trail => (directories trail).mp,
          fun _ => (files.permit_erase _ _ _).symm⟩,
      locate_of_leadsOn
        ⟨fun trail => (directories trail).mpr, files.permit_erase _ _⟩⟩
  exact {
    locate_iff := locate_iff
    vacant := by
      intro found foundAt
      rw [locate_iff, located] at foundAt
      cases foundAt
      exact gone
    others := fun trail elsewhere =>
      files.get?_erase_of_ne (elsewhere place located) }

/-- What is not found to be removed is not there. -/
theorem vacant_of_remove (missing : files.remove path = .error .notFound) :
    files.Vacant path := by
  intro place located
  rcases bind_eq_error_iff.mp missing with lost | ⟨_, reached, missing⟩
  · cases located.symm.trans lost
  cases located.symm.trans reached
  rcases bind_eq_error_iff.mp missing with refused | ⟨_, _, missing⟩
  · exact absurd refused (files.permit_ne_notFound _ _)
  rcases bind_eq_error_iff.mp missing with unnamed | ⟨entry, found, missing⟩
  · unfold lookUp at unnamed
    split at unnamed
    · exact absurd (Except.error.inj unnamed) (by decide)
    · cases unnamed
  rw [get?_of_lookUp found]
  rcases entry with _ | _ | _ | _
  case none => rfl
  case some.directory => cases missing
  all_goals
    dsimp only at missing
    split at missing <;> cases missing

theorem Vacant.clears (vacant : files.Vacant path) :
    files.Clears files path where
  locate_iff _ := Iff.rfl
  vacant := vacant
  others _ _ := rfl

end ResolverGrader.Host.FileSystem
