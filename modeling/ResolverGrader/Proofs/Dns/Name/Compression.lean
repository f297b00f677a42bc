import ResolverGrader.Proofs.Dns.Cursor
import ResolverGrader.Proofs.Dns.Name.Wire

/-!
# Names that jump

A compressed name is read part by part: a label is put behind those read
before, and a pointer leads to an earlier place.  `NameReading` is how far this
has come, and `NameReading.Step` is one part.

Labels and pointers draw on one store: a pointer goes back by at least one
octet and leaves the name as it is, and a label makes the name longer and
leaves the start where it is.  So a name that begins at a place has at most 127
parts more than octets before that place, however its pointers are chained, and
`Cursor.readName?_at_iff` says that the names read are those whose parts lead
to a zero octet.
-/

namespace ResolverGrader.Dns

/-- How far the reading of a name has come. -/
structure NameReading where
  /-- Where the stretch being read began. -/
  start : Nat
  /-- The place that this stretch may not reach, if a pointer led to it. -/
  limit : Option Nat
  /-- The labels so far. -/
  name : Name
  /-- Where the next part begins. -/
  place : Nat
  /-- The place behind the first pointer, if there was one. -/
  resume : Option Nat

namespace NameReading

/-- The beginning of a name. -/
def ofPlace (place : Nat) : NameReading :=
  ⟨place, none, .root, place, none⟩

/-- A part begins with an octet, before the limit. -/
structure Meets (octets : Octets) (now : NameReading) (first : UInt8) :
    Prop where
  within : ∀ limit ∈ now.limit, now.place < limit
  stands : octets[now.place]? = some first

/-- The place that a pointer's two octets name. -/
def target (first second : UInt8) : Nat :=
  first.toNat % 64 * 256 + second.toNat

/-- One part of a name that is not its end. -/
inductive Step (octets : Octets) : NameReading → NameReading → Prop where
  | label
      {now : NameReading} {first : UInt8} {label : Label} {longer : Name}
      (meets : now.Meets octets first)
      (kind : PartKind.of first = .label label.octets.length)
      (holds : RunAt octets (now.place + 1) label.octets)
      (grows : now.name.snoc? label = some longer) :
      Step octets now
        { now with
          name := longer
          place := now.place + 1 + label.octets.length }
  | pointer
      {now : NameReading} {first second : UInt8}
      (meets : now.Meets octets first)
      (kind : PartKind.of first = .pointer)
      (follows : octets[now.place + 1]? = some second)
      (backwards : target first second < now.start) :
      Step octets now
        { start := target first second
          limit := some now.start
          name := now.name
          place := target first second
          resume := some (now.resume.getD (now.place + 2)) }

/-- A given number of parts, one after another. -/
inductive Steps (octets : Octets) :
    Nat → NameReading → NameReading → Prop where
  | refl (now : NameReading) : Steps octets 0 now now
  | head
      {now next last : NameReading} {parts : Nat}
      (step : Step octets now next)
      (later : Steps octets parts next last) :
      Steps octets (parts + 1) now last

variable {octets : Octets} {now next last : NameReading} {parts : Nat}

/-! ## Chains end -/

/-- What is left to be used up: places to go back to and octets of the name. -/
def store (now : NameReading) : Nat :=
  2 * now.start + (maxNameLength - wireLength now.name.labels)

theorem store_of_step (step : Step octets now next) :
    next.store + 2 ≤ now.store := by
  cases step with
  | label meets kind holds grows =>
      rename_i label longer
      have longest := longer.wireLength_le
      have counted := wireLength_append now.name.labels [label]
      have present := label.length_pos
      rw [← Name.labels_of_snoc? grows, wireLength, wireLength] at counted
      simp only [store]
      omega
  | pointer meets kind follows backwards =>
      simp only [store]
      omega

theorem store_of_steps (steps : Steps octets parts now last) :
    last.store + 2 * parts ≤ now.store := by
  induction steps with
  | refl => exact Nat.le_refl _
  | head step later ih =>
      have spent := store_of_step step
      omega

/-- Every reading comes to a part that leads no further. -/
theorem exists_steps (octets : Octets) (now : NameReading) :
    ∃ parts last, Steps octets parts now last ∧
      ∀ next, ¬ Step octets last next := by
  -- On the store, since the places that pointers lead to go up and down.
  induction held : now.store using Nat.strongRecOn
    generalizing now with
  | ind store ih =>
      by_cases goesOn : ∃ next, Step octets now next
      · obtain ⟨next, step⟩ := goesOn
        have spent := store_of_step step
        obtain ⟨parts, last, later, stuck⟩ :=
          ih next.store (by omega) next rfl
        exact ⟨parts + 1, last, .head step later, stuck⟩
      · exact ⟨0, now, .refl now, not_exists.mp goesOn⟩

/-- However pointers are chained, a name has few parts. -/
theorem parts_le_of_steps
    {place : Nat} (steps : Steps octets parts (.ofPlace place) last) :
    parts ≤ place + 127 := by
  have spent := store_of_steps steps
  have whole : (ofPlace place).store = 2 * place + 254 := rfl
  omega

/-! ## Where a name ends -/

/-- A reading that began at a place goes on behind it, or will resume there. -/
def IsBehind (octets : Octets) (place : Nat) (now : NameReading) : Prop :=
  now.resume.elim (place ≤ now.place)
    fun behind => place < behind ∧ behind ≤ octets.length

theorem isBehind_of_step
    {place : Nat} (step : Step octets now next)
    (behind : now.IsBehind octets place) : next.IsBehind octets place := by
  obtain ⟨start, limit, name, current, resume⟩ := now
  cases step with
  | label meets kind holds grows =>
      cases resume with
      | none => exact Nat.le_trans behind (by dsimp only; omega)
      | some later => exact behind
  | pointer meets kind follows backwards =>
      cases resume with
      | none =>
          exact ⟨Nat.lt_add_right 1 (Nat.lt_succ_of_le behind),
            lt_length_of_getElem? follows⟩
      | some later => exact behind

theorem isBehind_of_steps
    {place : Nat} (steps : Steps octets parts now last)
    (behind : now.IsBehind octets place) : last.IsBehind octets place := by
  induction steps with
  | refl => exact behind
  | head step later ih => exact ih (isBehind_of_step step behind)

theorem bounds_of_meets_zero
    {place : Nat} (meets : now.Meets octets 0)
    (behind : now.IsBehind octets place) :
    place < now.resume.getD (now.place + 1) ∧
      now.resume.getD (now.place + 1) ≤ octets.length := by
  unfold IsBehind at behind
  cases resumes : now.resume with
  | none =>
      rw [resumes] at behind
      exact ⟨Nat.lt_succ_of_le behind, lt_length_of_getElem? meets.stands⟩
  | some later =>
      rw [resumes] at behind
      exact behind

/-! ## Octets that follow -/

theorem Meets.append
    {first : UInt8} (meets : now.Meets octets first)
    (following : Octets) : now.Meets (octets ++ following) first :=
  ⟨meets.within, getElem?_append meets.stands following⟩

theorem Step.append
    (step : Step octets now next) (following : Octets) :
    Step (octets ++ following) now next := by
  cases step with
  | label meets kind holds grows =>
      exact .label (meets.append following) kind (holds.append following)
        grows
  | pointer meets kind follows backwards =>
      exact .pointer (meets.append following) kind
        (getElem?_append follows following) backwards

theorem Steps.append
    (steps : Steps octets parts now last) (following : Octets) :
    Steps (octets ++ following) parts now last := by
  induction steps with
  | refl now => exact .refl now
  | head step later ih => exact .head (step.append following) ih

/-! ## What is read -/

/-- What is found by reading on, and the cursor behind the name. -/
def read? (octets : Octets) (now : NameReading) : Option (Name × Cursor) :=
  (readNameFrom? octets now.start now.limit now.name
      (.at octets now.place)).map
    fun found => (found.1, now.resume.elim found.2 (.at octets))

theorem read?_ofPlace (octets : Octets) (place : Nat) :
    read? octets (.ofPlace place) =
      (Cursor.at octets place).readName? octets := by
  unfold read? Cursor.readName?
  exact Option.map_id'

theorem any_limit_eq_false_iff :
    now.limit.any (· ≤ now.place) = false ↔
      ∀ limit ∈ now.limit, now.place < limit := by
  cases now.limit <;> simp

/-- A part leaves what is found as it is. -/
theorem read?_of_step (step : Step octets now next) :
    next.read? octets = now.read? octets := by
  cases step with
  | label meets kind holds grows =>
      have inTime := any_limit_eq_false_iff.mpr meets.within
      have taken := List.prefix_iff_eq_take.mp holds
      have enough := holds.length_le
      simp only [read?]
      rw [Cursor.at_of_getElem? meets.stands,
        readNameFrom?.eq_def octets now.start now.limit now.name]
      simp only [inTime, kind, if_pos enough, ← taken,
        Label.ofOctets?_octets, Option.bind_some, grows, List.drop_drop,
        Bool.false_eq_true, if_false]
      rfl
  | pointer meets kind follows backwards =>
      have inTime := any_limit_eq_false_iff.mpr meets.within
      simp only [read?]
      rw [Cursor.at_of_getElem? meets.stands,
        readNameFrom?.eq_def octets now.start now.limit now.name]
      simp only [inTime, kind, drop_of_getElem? follows, Bool.false_eq_true,
        if_false]
      rw [if_pos (by exact backwards)]
      unfold target
      cases readNameFrom? octets _ _ _ _ with
      | none => rfl
      | some found => cases now.resume <;> rfl

theorem read?_of_steps (steps : Steps octets parts now last) :
    last.read? octets = now.read? octets := by
  induction steps with
  | refl => rfl
  | head step later ih => rw [ih, read?_of_step step]

/-- A zero octet ends the name. -/
theorem read?_of_meets_zero (meets : now.Meets octets 0) :
    now.read? octets =
      some (now.name, .at octets (now.resume.getD (now.place + 1))) := by
  have inTime := any_limit_eq_false_iff.mpr meets.within
  have root : PartKind.of 0 = .root := rfl
  simp only [read?]
  rw [Cursor.at_of_getElem? meets.stands, readNameFrom?.eq_def]
  simp only [inTime, root, Bool.false_eq_true, if_false]
  cases now.resume <;> rfl

theorem eq_zero_of_root
    {octet : UInt8} (kind : PartKind.of octet = .root) : octet = 0 := by
  unfold PartKind.of at kind
  split at kind
  · assumption
  · split at kind
    · cases kind
    · split at kind <;> cases kind

theorem octets_of_ofOctets?
    {run : Octets} {label : Label}
    (made : Label.ofOctets? run = some label) : label.octets = run := by
  unfold Label.ofOctets? at made
  split at made
  · cases made
    rfl
  · cases made

/-- A label that is taken stands in the message. -/
theorem exists_label_of_taken
    {place length : Nat} {name longer : Name}
    (enough : length ≤ (octets.drop place).length)
    (taken :
      (Label.ofOctets? ((octets.drop place).take length)).bind name.snoc? =
        some longer) :
    ∃ label, label.octets.length = length ∧
      RunAt octets place label.octets ∧ name.snoc? label = some longer := by
  obtain ⟨label, made, grows⟩ := Option.bind_eq_some_iff.mp taken
  have run := octets_of_ofOctets? made
  refine ⟨label, ?_, ?_, grows⟩
  · rw [run, List.length_take_of_le enough]
  · rw [RunAt, run]
    exact List.take_prefix _ _

/-- Where a name is found, no reading is stuck before the zero octet. -/
theorem exists_step_of_read?
    {found : Name × Cursor} (read : now.read? octets = some found) :
    now.Meets octets 0 ∨ ∃ next, Step octets now next := by
  obtain ⟨_, read, _⟩ := Option.map_eq_some_iff.mp read
  cases stands : octets[now.place]? with
  | none =>
      rw [Cursor.at_of_getElem?_eq_none stands, readNameFrom?.eq_def] at read
      simp at read
  | some first =>
      rw [Cursor.at_of_getElem? stands, readNameFrom?.eq_def] at read
      split at read
      · cases read
      · next inTime =>
        have meets : now.Meets octets first :=
          ⟨any_limit_eq_false_iff.mp (Bool.eq_false_iff.mpr inTime),
            stands⟩
        dsimp only at read
        cases kind : PartKind.of first with
        | root =>
            rw [eq_zero_of_root kind] at meets
            exact .inl meets
        | reserved =>
            rw [kind] at read
            cases read
        | label length =>
            simp only [kind] at read
            split at read
            · next enough =>
              split at read
              · cases read
              · next longer taken =>
                obtain ⟨label, rfl, holds, grows⟩ :=
                  exists_label_of_taken enough taken
                exact .inr ⟨_, .label meets kind holds grows⟩
            · cases read
        | pointer =>
            simp only [kind] at read
            cases follows : octets[now.place + 1]? with
            | none =>
                rw [drop_of_getElem?_eq_none follows] at read
                cases read
            | some second =>
                simp only [drop_of_getElem? follows] at read
                split at read
                · next backwards =>
                  exact .inr ⟨_, .pointer meets kind follows backwards⟩
                · cases read

end NameReading

/--
A name at a place, and the place behind it: its parts lead to a zero octet.
-/
def NameAt
    (octets : Octets) (place : Nat) (name : Name) (stop : Nat) : Prop :=
  ∃ parts last, NameReading.Steps octets parts (.ofPlace place) last ∧
    last.Meets octets 0 ∧ last.name = name ∧
      last.resume.getD (last.place + 1) = stop

theorem NameAt.append
    {octets : Octets} {place stop : Nat} {name : Name}
    (stands : NameAt octets place name stop) (following : Octets) :
    NameAt (octets ++ following) place name stop := by
  obtain ⟨parts, last, steps, ends, rfl, rfl⟩ := stands
  exact ⟨parts, last, steps.append following, ends.append following, rfl,
    rfl⟩

/-- A name takes at least one octet, and none behind the end. -/
theorem NameAt.bounds
    {octets : Octets} {place stop : Nat} {name : Name}
    (stands : NameAt octets place name stop) :
    place < stop ∧ stop ≤ octets.length := by
  obtain ⟨parts, last, steps, ends, -, rfl⟩ := stands
  exact NameReading.bounds_of_meets_zero ends
    (NameReading.isBehind_of_steps steps (Nat.le_refl place))

theorem Cursor.readName?_at_iff
    {octets : Octets} {place : Nat} {name : Name} {after : Cursor} :
    (Cursor.at octets place).readName? octets = some (name, after) ↔
      ∃ stop, NameAt octets place name stop ∧ after = .at octets stop := by
  rw [← NameReading.read?_ofPlace]
  constructor
  · intro read
    obtain ⟨parts, last, steps, stuck⟩ :=
      NameReading.exists_steps octets (.ofPlace place)
    rw [← NameReading.read?_of_steps steps] at read
    have ends : last.Meets octets 0 :=
      (NameReading.exists_step_of_read? read).resolve_right
        (not_exists.mpr stuck)
    rw [NameReading.read?_of_meets_zero ends, Option.some.injEq,
      Prod.mk.injEq] at read
    exact ⟨_, ⟨parts, last, steps, ends, read.1, rfl⟩, read.2.symm⟩
  · rintro ⟨_, ⟨parts, last, steps, ends, rfl, rfl⟩, rfl⟩
    rw [← NameReading.read?_of_steps steps,
      NameReading.read?_of_meets_zero ends]

end ResolverGrader.Dns
