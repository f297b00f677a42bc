import ResolverGrader.Host

/-!
# How actions succeed and fail

An action that leads on to another succeeds only if both do, the second in the
world that the first one leaves, and it fails where one of the two does.  So an
outcome can be taken apart into what each step of an action came to.
-/

namespace ResolverGrader.Action

open ResolverGrader.Host ResolverGrader.Net

variable {ε α β : Type}

/--
The value of an action that leads on to another comes from the value of the
first.
-/
theorem runOn_bind_eq_ok
    {first : Action ε α} {next : α → Action ε β}
    {world : World} {result : β}
    (succeeded : ((first >>= next).runOn world).1 = .ok result) :
    ∃ value after,
      first.runOn world = (.ok value, after) ∧
        ((next value).runOn after).1 = .ok result := by
  rw [runOn_bind] at succeeded
  rcases ended : first.runOn world with ⟨outcome, after⟩
  rw [ended] at succeeded
  cases outcome with
  | ok value => exact ⟨value, after, rfl, succeeded⟩
  | error error => simp at succeeded

theorem runOn_bind_of_ok
    {first : Action ε α} {world after : World} {value : α}
    (ended : first.runOn world = (.ok value, after))
    (next : α → Action ε β) :
    (first >>= next).runOn world = (next value).runOn after := by
  rw [runOn_bind, ended]

theorem runOn_bind_of_error
    {first : Action ε α} {world after : World} {error : ε}
    (ended : first.runOn world = (.error error, after))
    (next : α → Action ε β) :
    (first >>= next).runOn world = (.error error, after) := by
  rw [runOn_bind, ended]

/-- An action that leads on to another fails where one of the two does. -/
theorem runOn_bind_eq_error_iff
    (first : Action ε α) (next : α → Action ε β) (world : World)
    (error : ε) :
    ((first >>= next).runOn world).1 = .error error ↔
      (first.runOn world).1 = .error error ∨
        ∃ value after, first.runOn world = (.ok value, after) ∧
          ((next value).runOn after).1 = .error error := by
  rcases ended : first.runOn world with ⟨failure | value, after⟩
  · rw [runOn_bind_of_error ended]
    simp
  · rw [runOn_bind_of_ok ended]
    constructor
    · intro failed
      exact Or.inr ⟨value, after, rfl, failed⟩
    · rintro (impossible | ⟨_, _, same, failed⟩)
      · cases impossible
      · obtain ⟨sameValue, rfl⟩ := Prod.mk.inj same
        obtain rfl := Except.ok.inj sameValue
        exact failed

theorem runOn_mapError_eq_error_iff
    {ε' : Type} (convert : ε → ε') (action : Action ε α)
    (world : World) (error : ε') :
    ((action.mapError convert).runOn world).1 = .error error ↔
      ∃ cause, (action.runOn world).1 = .error cause ∧
        convert cause = error := by
  rw [runOn_mapError]
  cases (action.runOn world).1 with
  | error cause =>
      constructor
      · intro same
        exact ⟨cause, rfl, Except.error.inj same⟩
      · rintro ⟨_, same, rfl⟩
        obtain rfl := Except.error.inj same
        rfl
  | ok value =>
      constructor
      · nofun
      · rintro ⟨_, impossible, _⟩
        cases impossible

theorem runOn_mapError_eq_ok_iff
    {ε' : Type} (convert : ε → ε') (action : Action ε α)
    (world after : World) (value : α) :
    (action.mapError convert).runOn world = (.ok value, after) ↔
      action.runOn world = (.ok value, after) := by
  rw [runOn_mapError]
  rcases action.runOn world with ⟨cause | same, reached⟩
  · constructor <;> nofun
  · constructor <;>
    · intro ended
      obtain ⟨sameValue, rfl⟩ := Prod.mk.inj ended
      obtain rfl := Except.ok.inj sameValue
      rfl

theorem runOn_map (change : α → β) (action : Action ε α) (world : World) :
    (change <$> action).runOn world =
      ((action.runOn world).1.map change, (action.runOn world).2) := by
  rw [← bind_pure_comp, runOn_bind]
  rcases action.runOn world with ⟨_ | _, _⟩ <;> rfl

theorem runOn_map_eq_error_iff
    (change : α → β) (action : Action ε α) (world : World) (error : ε) :
    ((change <$> action).runOn world).1 = .error error ↔
      (action.runOn world).1 = .error error := by
  rw [runOn_map]
  cases (action.runOn world).1 with
  | error cause => simp [Except.map]
  | ok value => simp [Except.map]

theorem runOn_get (world : World) :
    (get : Action ε World).runOn world = (.ok world, world) := rfl

theorem runOn_bind_print
    (text : String) (next : Unit → Action ε β) (world : World) :
    (print text >>= next).runOn world =
      (next ()).runOn (world.after (.printed text)) :=
  runOn_bind_of_ok rfl next

theorem runOn_ofExcept (result : Except ε α) (world : World) :
    (MonadExcept.ofExcept result : Action ε α).runOn world =
      (result, world) := by
  cases result <;> rfl

theorem runOn_draw (host : Host) (world : World) :
    (draw host : Action ε Nat).runOn world =
      (.ok (host.random world.draws),
        { world with draws := world.draws + 1 }) := rfl

theorem runOn_removeFile (path : String) (world : World) :
    (removeFile path : Action ε _).runOn world =
      match world.files.remove path with
      | .error error => (.ok (.error error), world)
      | .ok files =>
          (.ok (.ok ()), { world with files }.after (.removed path)) := by
  unfold removeFile
  rw [runOn_bind_of_ok (runOn_get world)]
  cases world.files.remove path <;> rfl

theorem runOn_writeFile
    (path : String) (contents : Octets) (world : World) :
    (writeFile path contents : Action ε _).runOn world =
      match world.files.write path contents with
      | .error error => (.ok (.error error), world)
      | .ok files =>
          (.ok (.ok ()),
            { world with files }.after (.wrote path contents)) := by
  unfold writeFile
  rw [runOn_bind_of_ok (runOn_get world)]
  cases world.files.write path contents <;> rfl

theorem runOn_bindSocket
    (host : Host) (wanted : SocketAddress) (world : World) :
    (bindSocket host wanted : Action ε _).runOn world =
      match host.network.bind wanted with
      | .error error => (.ok (.error error), world)
      | .ok address =>
          (.ok (.ok address), world.after (.bound address)) := by
  unfold bindSocket
  cases host.network.bind wanted <;> rfl

/-- What is started may change the files, and nothing else. -/
theorem runOn_start
    (host : Host) (arguments : List String) (world : World) :
    (start host arguments : Action ε _).runOn world =
      match host.launch world.files arguments with
      | .error error => (.ok (.error error), world)
      | .ok child =>
          (.ok (.ok child),
            { world.after (.started arguments) with
              files := child.changes world.files }) := by
  unfold start
  rw [runOn_bind_of_ok (runOn_get world)]
  cases host.launch world.files arguments <;> rfl

theorem runOn_ask
    (host : Host) (server : SocketAddress) (query : Octets)
    (world : World) :
    (ask host server query : Action ε _).runOn world =
      match host.network.passage server query with
      | .refused error => (.ok (.error error), world)
      | .lost => (.ok (.ok []), world.after (.asked server query))
      | .delivered =>
          (.ok (.ok (host.serverReceipts world.queries.length query)),
            world.after (.asked server query)) := by
  unfold ask
  cases host.network.passage server query <;> rfl

/--
What is started depends on the files there are, and that nothing starts is no
failure yet.
-/
theorem runOn_start_outcome
    (host : Host) (arguments : List String) (world : World) :
    ((start host arguments : Action ε _).runOn world).1 =
      .ok (host.launch world.files arguments) := by
  rw [runOn_start]
  cases host.launch world.files arguments <;> rfl

theorem runOn_bind_start
    (host : Host) (arguments : List String) (world : World)
    (next : Except IoError Host.Child → Action ε β) :
    (start host arguments >>= next).runOn world =
      (next (host.launch world.files arguments)).runOn
        ((start host arguments : Action ε _).runOn world).2 :=
  runOn_bind_of_ok
    (Prod.ext (runOn_start_outcome host arguments world) rfl) next

end ResolverGrader.Action
