import ResolverGrader.Decimal

/-!
# Durations

Timeouts are whole seconds and nanoseconds.  They are shown in seconds, as the
shortest decimal text of the nearest floating-point number.
-/

namespace ResolverGrader

/-- A duration. -/
structure Duration where
  seconds : UInt64
  nanoseconds : UInt32
  deriving DecidableEq, Repr

namespace Duration

/--
The duration of seconds and nanoseconds, of which full seconds are carried
over; none if the seconds become too many.
-/
def ofParts? (seconds : UInt64) (nanoseconds : UInt32) : Option Duration :=
  let total := seconds.toNat + nanoseconds.toNat / 1000000000
  if total < Nat.pow 2 64 then
    some ⟨UInt64.ofNat total, UInt32.ofNat (nanoseconds.toNat % 1000000000)⟩
  else none

/-- A whole number of seconds. -/
def ofSeconds (seconds : UInt64) : Duration := ⟨seconds, 0⟩

/-- A whole number of milliseconds. -/
def ofMilliseconds (milliseconds : UInt64) : Duration :=
  ⟨UInt64.ofNat (milliseconds.toNat / 1000),
    UInt32.ofNat (milliseconds.toNat % 1000 * 1000000)⟩

/-- The whole milliseconds of a duration. -/
def milliseconds (duration : Duration) : Nat :=
  duration.seconds.toNat * 1000 + duration.nanoseconds.toNat / 1000000

/-- Whether a duration is over as soon as it begins. -/
def isZero (duration : Duration) : Bool :=
  duration.seconds = 0 && duration.nanoseconds = 0

/-- The duration in seconds. -/
def toFloat (duration : Duration) : Float :=
  duration.seconds.toFloat + duration.nanoseconds.toFloat / 1000000000.0

/-- The text of a duration in seconds. -/
def text (duration : Duration) : String :=
  Decimal.shortest duration.toFloat

end Duration

end ResolverGrader
