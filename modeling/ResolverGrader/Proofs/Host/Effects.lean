import ResolverGrader.Proofs.Host.Actions

/-!
# What actions add to the world

Everything that is done adds to the effects, and the files change by effects
alone: by a file that is removed, by one that is written, and by what a process
does to them.  `Adds` says this of two worlds, with the kinds of effects that
lie between them, and `DoesOnly` of an action in any world.  `DoesOnly.bind`
carries it from parts of an action to the whole.

What is neither removed nor written, nor touched by a process, stays as it is
(`Adds.get?_eq`).
-/

namespace ResolverGrader

open ResolverGrader.Host ResolverGrader.Net

/-- What an effect makes of the files. -/
inductive Changes (host : Host) :
    Effect → FileSystem → FileSystem → Prop where
  | printed (text : String) (files : FileSystem) :
      Changes host (.printed text) files files
  | bound (address : SocketAddress) (files : FileSystem) :
      Changes host (.bound address) files files
  | asked
      (server : SocketAddress) (query : Octets) (files : FileSystem) :
      Changes host (.asked server query) files files
  | removed
      {path : String} {files after : FileSystem}
      (done : files.remove path = .ok after) :
      Changes host (.removed path) files after
  | wrote
      {path : String} {contents : Octets} {files after : FileSystem}
      (done : files.write path contents = .ok after) :
      Changes host (.wrote path contents) files after
  | started
      {arguments : List String} {files : FileSystem} {child : Child}
      (launched : host.launch files arguments = .ok child) :
      Changes host (.started arguments) files (child.changes files)

/-- What effects, one after the other, make of the files. -/
inductive Replays (host : Host) :
    List Effect → FileSystem → FileSystem → Prop where
  | nil (files : FileSystem) : Replays host [] files files
  | cons
      {effect : Effect} {more : List Effect}
      {files next after : FileSystem}
      (here : Changes host effect files next)
      (rest : Replays host more next after) :
      Replays host (effect :: more) files after

theorem Replays.append
    {host : Host} {first second : List Effect}
    {files next after : FileSystem}
    (here : Replays host first files next)
    (there : Replays host second next after) :
    Replays host (first ++ second) files after := by
  induction here with
  | nil => exact there
  | cons change _ ih => exact .cons change (ih there)

/--
One world comes of another by effects of a kind, and the files by what these
make of them.
-/
def Adds (host : Host) (allowed : Effect → Prop)
    (before after : World) : Prop :=
  ∃ more, after.effects = before.effects ++ more ∧
    (∀ effect ∈ more, allowed effect) ∧
      Replays host more before.files after.files

namespace Adds

variable {host : Host} {allowed wider : Effect → Prop}
    {before middle after : World}

theorem refl (world : World) : Adds host allowed world world :=
  ⟨[], (List.append_nil _).symm, List.forall_mem_nil _, .nil _⟩

theorem trans
    (first : Adds host allowed before middle)
    (second : Adds host allowed middle after) :
    Adds host allowed before after := by
  obtain ⟨some, extended, here, replayed⟩ := first
  obtain ⟨more, continued, there, completed⟩ := second
  refine ⟨some ++ more, ?_, ?_, replayed.append completed⟩
  · rw [continued, extended, List.append_assoc]
  · intro effect done
    exact (List.mem_append.mp done).elim (here effect) (there effect)

theorem mono
    (adds : Adds host allowed before after)
    (weaker : ∀ effect, allowed effect → wider effect) :
    Adds host wider before after := by
  obtain ⟨more, extended, here, replayed⟩ := adds
  exact ⟨more, extended, fun effect done =>
    weaker effect (here effect done), replayed⟩

/-- One effect, with the files that it leaves. -/
theorem single
    {effect : Effect} {files : FileSystem} (world : World)
    (permitted : allowed effect)
    (change : Changes host effect world.files files) :
    Adds host allowed world { world.after effect with files } :=
  ⟨[effect], rfl, List.forall_mem_singleton.mpr permitted,
    .cons change (.nil _)⟩

/-- Every effect was there before or is of the kind. -/
theorem mem_effects
    (adds : Adds host allowed before after) {effect : Effect}
    (done : effect ∈ after.effects) :
    effect ∈ before.effects ∨ allowed effect := by
  obtain ⟨more, extended, here, _⟩ := adds
  rw [extended, List.mem_append] at done
  exact done.imp_right (here effect)

end Adds

/--
An action does nothing but effects of a kind, in whatever world it is run.
-/
def DoesOnly {ε α : Type} (host : Host) (allowed : Effect → Prop)
    (action : Action ε α) : Prop :=
  ∀ world, Adds host allowed world (action.runOn world).2

namespace DoesOnly

variable {ε α β : Type} {host : Host} {allowed wider : Effect → Prop}

theorem pure (value : α) :
    DoesOnly host allowed (Pure.pure value : Action ε α) :=
  Adds.refl

theorem throw (error : ε) :
    DoesOnly host allowed (MonadExcept.throw error : Action ε α) :=
  Adds.refl

theorem ofExcept (result : Except ε α) :
    DoesOnly host allowed
      (MonadExcept.ofExcept result : Action ε α) := by
  intro world
  rw [Action.runOn_ofExcept]
  exact .refl world

theorem bind
    {first : Action ε α} {next : α → Action ε β}
    (here : DoesOnly host allowed first)
    (there : ∀ value, DoesOnly host allowed (next value)) :
    DoesOnly host allowed (first >>= next) := by
  intro world
  have adds := here world
  rcases ended : first.runOn world with ⟨error | value, after⟩
  · rw [ended] at adds
    rwa [Action.runOn_bind_of_error ended]
  · rw [ended] at adds
    rw [Action.runOn_bind_of_ok ended]
    exact adds.trans (there value after)

theorem map
    {change : α → β} {action : Action ε α}
    (only : DoesOnly host allowed action) :
    DoesOnly host allowed (change <$> action) := by
  intro world
  rw [Action.runOn_map]
  exact only world

theorem mapError
    {ε' : Type} {convert : ε → ε'} {action : Action ε α}
    (only : DoesOnly host allowed action) :
    DoesOnly host allowed (action.mapError convert) := by
  intro world
  rw [Action.runOn_mapError]
  exact only world

theorem mono
    {action : Action ε α} (only : DoesOnly host allowed action)
    (weaker : ∀ effect, allowed effect → wider effect) :
    DoesOnly host wider action :=
  fun world => (only world).mono weaker

theorem print
    {text : String} (permitted : allowed (.printed text)) :
    DoesOnly host allowed (Action.print text : Action ε Unit) :=
  fun world => .single world permitted (.printed text world.files)

theorem draw :
    DoesOnly host allowed (Action.draw host : Action ε Nat) := by
  intro world
  rw [Action.runOn_draw]
  exact ⟨[], (List.append_nil _).symm, List.forall_mem_nil _, .nil _⟩

theorem removeFile
    {path : String} (permitted : allowed (.removed path)) :
    DoesOnly host allowed (Action.removeFile path : Action ε _) := by
  intro world
  rw [Action.runOn_removeFile]
  cases done : world.files.remove path with
  | error error => exact .refl world
  | ok files => exact .single world permitted (.removed done)

theorem writeFile
    {path : String} {contents : Octets}
    (permitted : allowed (.wrote path contents)) :
    DoesOnly host allowed
      (Action.writeFile path contents : Action ε _) := by
  intro world
  rw [Action.runOn_writeFile]
  cases done : world.files.write path contents with
  | error error => exact .refl world
  | ok files => exact .single world permitted (.wrote done)

theorem bindSocket
    {wanted : SocketAddress}
    (permitted : ∀ address, allowed (.bound address)) :
    DoesOnly host allowed (Action.bindSocket host wanted : Action ε _) := by
  intro world
  rw [Action.runOn_bindSocket]
  cases host.network.bind wanted with
  | error error => exact .refl world
  | ok address =>
      exact .single world (permitted address) (.bound address world.files)

theorem start
    {arguments : List String} (permitted : allowed (.started arguments)) :
    DoesOnly host allowed (Action.start host arguments : Action ε _) := by
  intro world
  rw [Action.runOn_start]
  cases launched : host.launch world.files arguments with
  | error error => exact .refl world
  | ok child => exact .single world permitted (.started launched)

theorem ask
    {server : SocketAddress} {query : Octets}
    (permitted : allowed (.asked server query)) :
    DoesOnly host allowed (Action.ask host server query : Action ε _) := by
  intro world
  have adds :
      Adds host allowed world (world.after (.asked server query)) :=
    .single world permitted (.asked server query world.files)
  rw [Action.runOn_ask]
  cases host.network.passage server query with
  | refused error => exact .refl world
  | lost => exact adds
  | delivered => exact adds

end DoesOnly

/-! ## Files that stay -/

namespace Host.FileSystem

/-- What two steps come to when both can fail. -/
theorem bind_eq_ok_iff
    {α β : Type} {first : Except IoError α} {next : α → Except IoError β}
    {result : β} :
    first >>= next = .ok result ↔
      ∃ value, first = .ok value ∧ next value = .ok result := by
  cases first with
  | error error => simp [bind, Except.bind]
  | ok value => simp [bind, Except.bind]

theorem bind_eq_error_iff
    {α β : Type} {first : Except IoError α} {next : α → Except IoError β}
    {error : IoError} :
    first >>= next = .error error ↔
      first = .error error ∨
        ∃ value, first = .ok value ∧ next value = .error error := by
  cases first with
  | error other => simp [bind, Except.bind]
  | ok value => simp [bind, Except.bind]

theorem lookup_filter_self (entries : List (Trail × Entry)) (trail : Trail) :
    (entries.filter fun entry => entry.1 != trail).lookup trail = none := by
  rw [List.lookup_eq_none_iff]
  intro entry kept
  rw [bne_comm]
  exact (List.mem_filter.mp kept).2

/-- Where a file is erased nothing is left, unless it is a directory above. -/
theorem get?_erase_self (files : FileSystem) (trail : Trail) :
    (files.erase trail).get? trail = files.get? trail ∨
      (files.erase trail).get? trail = none := by
  simp only [get?, erase, lookup_filter_self]
  by_cases up : leadsUp trail = true <;> simp [up]

theorem get?_of_lookUp
    {files : FileSystem} {trail : Trail} {entry : Option Entry}
    (found : files.lookUp trail = .ok entry) : files.get? trail = entry := by
  unfold lookUp at found
  split at found
  · cases found
  · exact Except.ok.inj found

/--
Removing a file erases what stands where its path leads, which is no directory.
-/
theorem eq_erase_of_remove
    {files after : FileSystem} {path : String}
    (removed : files.remove path = .ok after) :
    ∃ place, files.locate path = .ok place ∧
      files.get? place.trail ≠ some .directory ∧
        after = files.erase place.trail := by
  obtain ⟨place, located, removed⟩ := bind_eq_ok_iff.mp removed
  obtain ⟨_, _, removed⟩ := bind_eq_ok_iff.mp removed
  obtain ⟨entry, found, removed⟩ := bind_eq_ok_iff.mp removed
  refine ⟨place, located, ?_⟩
  rw [get?_of_lookUp found]
  rcases entry with _ | _ | _ | _
  case none => cases removed
  case some.directory => cases removed
  all_goals
    dsimp only at removed
    split at removed
    · cases removed
    · exact ⟨nofun, (Except.ok.inj removed).symm⟩

/--
Removing a file takes away what stands where its path leads, and nothing else.
-/
theorem get?_of_remove
    {files after : FileSystem} {path : String}
    (removed : files.remove path = .ok after) (trail : Trail) :
    after.get? trail = files.get? trail ∨
      after.get? trail = none ∧
        ∃ place, files.locate path = .ok place ∧ place.trail = trail := by
  obtain ⟨place, located, _, rfl⟩ := eq_erase_of_remove removed
  by_cases same : trail = place.trail
  · subst same
    exact (files.get?_erase_self _).imp_right
      fun gone => ⟨gone, place, located, rfl⟩
  · exact Or.inl (files.get?_erase_of_ne same)

end Host.FileSystem

/-- No process that is launched touches what stands at a trail. -/
def SparesTrail (host : Host) (trail : Trail) : Prop :=
  ∀ files arguments child, host.launch files arguments = .ok child →
    (child.changes files).get? trail = files.get? trail

theorem Replays.get?_eq
    {host : Host} {more : List Effect} {files after : FileSystem}
    (replayed : Replays host more files after) {trail : Trail}
    (spared : SparesTrail host trail)
    (unremoved : ∀ path, .removed path ∉ more)
    (unwritten : ∀ path contents, .wrote path contents ∉ more) :
    after.get? trail = files.get? trail := by
  induction replayed with
  | nil => rfl
  | cons change _ ih =>
      have later := ih
        (fun path done => unremoved path (List.mem_cons_of_mem _ done))
        (fun path contents done =>
          unwritten path contents (List.mem_cons_of_mem _ done))
      rw [later]
      cases change with
      | printed | bound | asked => rfl
      | removed => exact absurd List.mem_cons_self (unremoved _)
      | wrote => exact absurd List.mem_cons_self (unwritten _ _)
      | started launched => exact spared _ _ _ launched

/--
What is neither removed nor written, nor touched by a process, stays as it is.
-/
theorem Adds.get?_eq
    {host : Host} {allowed : Effect → Prop} {before after : World}
    (adds : Adds host allowed before after) {trail : Trail}
    (spared : SparesTrail host trail)
    (unremoved : ∀ path, ¬ allowed (.removed path))
    (unwritten : ∀ path contents, ¬ allowed (.wrote path contents)) :
    after.files.get? trail = before.files.get? trail := by
  obtain ⟨more, _, here, replayed⟩ := adds
  exact replayed.get?_eq spared
    (fun path done => unremoved path (here _ done))
    (fun path contents done => unwritten path contents (here _ done))

end ResolverGrader
