import ResolverGrader.CommandLine

/-!
# Switches with their values attached

A switch whose value is attached to it after an equals sign can be read by
itself: it takes effect before anything that follows it is looked at, whatever
its value looks like.  Query names that are given in this way are all kept, in
the order in which they are given.
-/

namespace ResolverGrader.CommandLine

namespace Switch

/-- A switch with its value attached to it. -/
def attached (switch : Switch) (value : String) : String :=
  "--" ++ switch.longName ++ "=" ++ value

theorem toList_attached (switch : Switch) (value : String) :
    (switch.attached value).toList =
      '-' :: '-' :: (switch.longName.toList ++ '=' :: value.toList) := by
  simp [attached]

theorem ofLongName?_longName (switch : Switch) :
    ofLongName? switch.longName = some switch := by
  cases switch <;> rfl

theorem equals_not_mem_longName (switch : Switch) :
    '=' ∉ switch.longName.toList := by
  cases switch <;> decide

end Switch

namespace Progress

/-- The name of a switch ends where the first equals sign stands. -/
theorem readLong_attached
    (progress : Progress) (switch : Switch) (value : String) :
    progress.readLong (switch.longName.toList ++ '=' :: value.toList) =
      progress.recognise switch (some value) := by
  have named :
      ∀ character ∈ switch.longName.toList,
        decide (character ≠ '=') = true := by
    intro character member
    apply decide_eq_true
    exact ne_of_mem_of_not_mem member switch.equals_not_mem_longName
  unfold readLong
  rw [List.takeWhile_append_of_pos named,
    List.dropWhile_append_of_pos named]
  simp [Switch.ofLongName?_longName]

/--
Where no switch waits for its value, one that has its value takes effect at
once.
-/
theorem readAll_attached
    {progress : Progress} (settled : progress.waiting = none)
    {switch : Switch} (valued : switch.isFlag = false)
    (value : String) (rest : List String) :
    progress.readAll (switch.attached value :: rest) =
      (progress.apply switch value).bind fun next => next.readAll rest := by
  have recognised :
      progress.recognise switch (some value) =
        progress.apply switch value := by
    simp only [recognise, valued, settle, settled]
    rfl
  rw [readAll, Switch.toList_attached, ← recognised, ← readLong_attached]
  cases body : switch.longName.toList ++ '=' :: value.toList with
  | nil => simp at body
  | cons first more => rfl

/-! ## Query names -/

/--
How far the command line has been read when query names have been given too.
-/
def withDomains (progress : Progress) (values : List String) : Progress :=
  { progress with
    arguments :=
      { progress.arguments with
        domains := progress.arguments.domains ++ values }
    given := List.replicate values.length .domain ++ progress.given }

/-- A query name is kept after those before it. -/
theorem apply_domain (progress : Progress) (value : String) :
    progress.apply .domain value = .ok (progress.withDomains [value]) := by
  unfold apply
  rw [if_neg fun repeated => absurd repeated.2 (by decide)]
  rfl

theorem withDomains_withDomains
    (progress : Progress) (value : String) (rest : List String) :
    (progress.withDomains [value]).withDomains rest =
      progress.withDomains (value :: rest) := by
  simp [withDomains, List.replicate_succ']

theorem readAll_domains
    {progress : Progress} (settled : progress.waiting = none)
    (values rest : List String) :
    progress.readAll (values.map Switch.domain.attached ++ rest) =
      (progress.withDomains values).readAll rest := by
  induction values generalizing progress with
  | nil => simp [withDomains]
  | cons value more ih =>
      have later : (progress.withDomains [value]).waiting = none := settled
      calc
        progress.readAll
              ((value :: more).map Switch.domain.attached ++ rest) =
            (progress.withDomains [value]).readAll
              (more.map Switch.domain.attached ++ rest) := by
          rw [List.map_cons, List.cons_append,
            readAll_attached settled rfl, apply_domain]
          rfl
        _ = ((progress.withDomains [value]).withDomains more).readAll
              rest := ih later
        _ = (progress.withDomains (value :: more)).readAll rest := by
          rw [withDomains_withDomains]

end Progress

/--
Query names are read in their order, and so is a file of them that follows.
-/
theorem parse_domains (values : List String) (file : Option String) :
    parse
        (values.map Switch.domain.attached ++
          file.toList.map Switch.domainFile.attached) =
      .ok
        { Arguments.standard with
          domains := values
          domainFile := file } := by
  unfold parse
  rw [Progress.readAll_domains rfl]
  cases file with
  | none => rfl
  | some path =>
      have unused :
          Switch.domainFile ∉ (Progress.start.withDomains values).given := by
        simp [Progress.withDomains, Progress.start]
      rw [Option.toList_some, List.map_singleton,
        Progress.readAll_attached rfl rfl, Progress.apply,
        if_neg fun repeated => unused repeated.1]
      rfl

end ResolverGrader.CommandLine
