import ResolverGrader.Trials

/-!
# Records of trials

A record says what was done, in order, and how it ended.  Records are put
together like actions: nothing follows an error.

`Follows` compares a record with a schedule.  It holds of single events, and
`Follows.bind` carries it from parts to the whole.
-/

namespace ResolverGrader

/-! ## What was done -/

/--
Something that is done for a trial.  All of it can be seen but the rendering of
answers.
-/
inductive TrialEvent where
  | announced (queryName : String)
  | fetched (queryName : String)
  | ran (queryName : String) (response : Octets) (instrument : Instrument)
  | rendered (exchange : Exchange)

/-- Whether an event can be seen from outside. -/
def TrialEvent.isVisible : TrialEvent → Bool
  | .rendered _ => false
  | _ => true

/-- How something ended, and what was done until then. -/
structure Recorded (α : Type) where
  outcome : Except Halt α
  events : List TrialEvent

/-- The error that something ended with. -/
def haltOf {α : Type} : Except Halt α → Option Halt
  | .ok _ => none
  | .error halt => some halt

theorem ok_of_mapError_failure
    {α : Type} {result : Except Failure α} {value : α}
    (succeeded : result.mapError Halt.failure = .ok value) :
    result = .ok value := by
  cases result with
  | ok same => exact congrArg _ (Except.ok.inj succeeded)
  | error failure => cases succeeded

namespace Recorded

variable {α β : Type}

/-- One event, and what comes of it. -/
def attempt (event : TrialEvent) (outcome : Except Halt α) : Recorded α :=
  ⟨outcome, [event]⟩

/--
Nothing follows an error; otherwise the events of both parts stand one after
the other.
-/
def andThen (first : Recorded α) (next : α → Recorded β) : Recorded β :=
  match first.outcome with
  | .ok value =>
      ⟨(next value).outcome, first.events ++ (next value).events⟩
  | .error halt => ⟨.error halt, first.events⟩

instance : Monad Recorded where
  pure value := ⟨.ok value, []⟩
  bind := andThen

theorem bind_of_ok
    {first : Recorded α} {value : α}
    (ended : first.outcome = .ok value) (next : α → Recorded β) :
    first >>= next =
      ⟨(next value).outcome, first.events ++ (next value).events⟩ := by
  show first.andThen next = _
  rw [andThen, ended]

theorem bind_of_error
    {first : Recorded α} {halt : Halt}
    (ended : first.outcome = .error halt) (next : α → Recorded β) :
    first >>= next = ⟨.error halt, first.events⟩ := by
  show first.andThen next = _
  rw [andThen, ended]

instance : LawfulMonad Recorded := by
  refine LawfulMonad.mk' Recorded ?id_map ?pure_bind ?bind_assoc
  case id_map =>
    intro α recorded
    show recorded.andThen (fun value => ⟨.ok value, []⟩) = recorded
    rcases recorded with ⟨_ | _, events⟩ <;> simp [andThen]
  case pure_bind =>
    intro α β value next
    exact bind_of_ok rfl next
  case bind_assoc =>
    intro α β γ recorded next last
    show (recorded.andThen next).andThen last =
      recorded.andThen fun value => (next value).andThen last
    rcases recorded with ⟨halt | value, events⟩
    · rfl
    · rcases made : next value with ⟨_ | _, more⟩ <;>
        simp [andThen, made]

/-- A result that comes of two parts comes of a result of the first. -/
theorem bind_outcome_eq_ok
    {first : Recorded α} {next : α → Recorded β} {result : β}
    (succeeded : (first >>= next).outcome = .ok result) :
    ∃ value, first.outcome = .ok value ∧
      (next value).outcome = .ok result := by
  cases ended : first.outcome with
  | ok value =>
      rw [bind_of_ok ended] at succeeded
      exact ⟨value, rfl, succeeded⟩
  | error halt =>
      rw [bind_of_error ended] at succeeded
      cases succeeded

end Recorded

/-! ## Following a schedule -/

/--
What is done follows a schedule: all of it is done if nothing fails, and
otherwise nothing is done after the first event that fails, which decides the
outcome.
-/
inductive Follows {α : Type} (halt? : TrialEvent → Option Halt) :
    List TrialEvent → Recorded α → Prop where
  | completed
      {schedule : List TrialEvent}
      (clear : ∀ event ∈ schedule, halt? event = none) (value : α) :
      Follows halt? schedule ⟨.ok value, schedule⟩
  | stopped
      {before : List TrialEvent} {event : TrialEvent} {halt : Halt}
      (clear : ∀ earlier ∈ before, halt? earlier = none)
      (fails : halt? event = some halt) (after : List TrialEvent) :
      Follows halt? (before ++ event :: after)
        ⟨.error halt, before ++ [event]⟩

namespace Follows

variable
    {α β : Type} {halt? : TrialEvent → Option Halt}
    {schedule : List TrialEvent} {recorded : Recorded α}

theorem pure (value : α) :
    Follows halt? [] (Pure.pure value : Recorded α) :=
  completed (List.forall_mem_nil _) value

theorem attempt
    {event : TrialEvent} {outcome : Except Halt α}
    (decides : halt? event = haltOf outcome) :
    Follows halt? [event] (Recorded.attempt event outcome) := by
  cases outcome with
  | ok value =>
      exact completed (List.forall_mem_singleton.mpr decides) value
  | error halt =>
      have none_before : ∀ earlier ∈ [], halt? earlier = none :=
        List.forall_mem_nil _
      exact stopped none_before decides []

/-- Two parts follow their schedules one after the other. -/
theorem bind
    {next : α → Recorded β} {later : List TrialEvent}
    (first : Follows halt? schedule recorded)
    (second :
      ∀ value, recorded.outcome = .ok value →
        Follows halt? later (next value)) :
    Follows halt? (schedule ++ later) (recorded >>= next) := by
  cases first with
  | completed clear value =>
      rw [Recorded.bind_of_ok rfl]
      rcases made : next value with ⟨outcome, events⟩
      have follows := second value rfl
      rw [made] at follows
      cases follows with
      | completed clearLater result =>
          exact completed
            (List.forall_mem_append.mpr ⟨clear, clearLater⟩) result
      | stopped clearBefore fails after =>
          dsimp only
          rw [← List.append_assoc, ← List.append_assoc]
          exact stopped
            (List.forall_mem_append.mpr ⟨clear, clearBefore⟩) fails after
  | stopped clear fails after =>
      rw [Recorded.bind_of_error rfl, List.append_assoc]
      exact stopped clear fails (after ++ later)

theorem events_isPrefix (follows : Follows halt? schedule recorded) :
    recorded.events <+: schedule := by
  cases follows with
  | completed clear value => exact List.prefix_refl _
  | stopped clear fails after =>
      exact ⟨after, by rw [List.append_assoc, List.singleton_append]⟩

/-- Where nothing on the schedule fails, all of it is done. -/
theorem of_clear
    (follows : Follows halt? schedule recorded)
    (clear : ∀ event ∈ schedule, halt? event = none) :
    ∃ value, recorded = ⟨.ok value, schedule⟩ := by
  cases follows with
  | completed _ value => exact ⟨value, rfl⟩
  | @stopped before event halt _ fails after =>
      have none_fails := clear event
        (List.mem_append_right _ List.mem_cons_self)
      rw [fails] at none_fails
      cases none_fails

/-- There is at most one first event that fails. -/
theorem first_failure_unique
    {before before' after after' : List TrialEvent}
    {event event' : TrialEvent} {halt halt' : Halt}
    (same : before ++ event :: after = before' ++ event' :: after')
    (clear : ∀ earlier ∈ before, halt? earlier = none)
    (fails : halt? event = some halt)
    (clear' : ∀ earlier ∈ before', halt? earlier = none)
    (fails' : halt? event' = some halt') :
    before = before' ∧ event = event' := by
  induction before generalizing before' with
  | nil =>
      cases before' with
      | nil => exact ⟨rfl, (List.cons.inj same).1⟩
      | cons first rest =>
          have clear_first := clear' first List.mem_cons_self
          rw [← (List.cons.inj same).1, fails] at clear_first
          cases clear_first
  | cons first rest ih =>
      have clear_first := clear first List.mem_cons_self
      cases before' with
      | nil =>
          rw [(List.cons.inj same).1, fails'] at clear_first
          cases clear_first
      | cons first' rest' =>
          obtain ⟨rfl, sameRest⟩ := List.cons.inj same
          obtain ⟨rfl, sameEvent⟩ := ih sameRest
            (fun _ member => clear _ (List.mem_cons_of_mem _ member))
            (fun _ member => clear' _ (List.mem_cons_of_mem _ member))
          exact ⟨rfl, sameEvent⟩

/--
Where something on the schedule fails, nothing is done after the first event
that does.
-/
theorem of_fails
    (follows : Follows halt? schedule recorded)
    {before after : List TrialEvent} {event : TrialEvent} {halt : Halt}
    (planned : schedule = before ++ event :: after)
    (clear : ∀ earlier ∈ before, halt? earlier = none)
    (fails : halt? event = some halt) :
    recorded = ⟨.error halt, before ++ [event]⟩ := by
  cases follows with
  | completed clear_all value =>
      have none_fails := clear_all event
        (planned ▸ List.mem_append_right _ List.mem_cons_self)
      rw [fails] at none_fails
      cases none_fails
  | stopped clearBefore failsThere rest =>
      obtain ⟨rfl, rfl⟩ :=
        first_failure_unique planned clearBefore failsThere clear fails
      rw [failsThere, Option.some.injEq] at fails
      rw [fails]

end Follows

end ResolverGrader
