/-!
# Decimal texts of doubles

A floating-point number is shown with two decimal places where it counts
points, and otherwise with as few digits as read back.
-/

namespace ResolverGrader.Decimal

/-!
## The value of a double

A double is a sign together with a magnitude: not a number, infinite, or a
whole number of units that are a power of two.  Every decimal text below is
computed from this exact value, never from a rounded one.
-/

/-- What a double's bits say apart from the sign. -/
inductive Magnitude where
  | notANumber
  | infinite
  | finite (significand : Nat) (exponent : Int)
  deriving DecidableEq, Repr

/-- The sign and magnitude of a double. -/
structure Double where
  negative : Bool
  magnitude : Magnitude
  deriving DecidableEq, Repr

/-- The fraction bits of a bit pattern. -/
def fractionField (bits : UInt64) : Nat :=
  bits.toNat % Nat.pow 2 52

/-- The exponent bits of a bit pattern. -/
def exponentField (bits : UInt64) : Nat :=
  bits.toNat / Nat.pow 2 52 % Nat.pow 2 11

/--
Reads a bit pattern: exponent field 2047 holds the infinities and what is not a
number, field 0 the subnormal values, and every other field carries a leading
one bit.
-/
def Double.ofBits (bits : UInt64) : Double where
  negative := Nat.pow 2 63 ≤ bits.toNat
  magnitude :=
    if exponentField bits = 2047 then
      if fractionField bits = 0 then .infinite else .notANumber
    else if exponentField bits = 0 then .finite (fractionField bits) (-1074)
    else
      .finite (Nat.pow 2 52 + fractionField bits)
        ((exponentField bits : Int) - 1075)

/-- The exact value of a floating-point number. -/
def Double.ofFloat (value : Float) : Double :=
  .ofBits value.toBits

/-- A significand at an exponent as a quotient of natural numbers. -/
def quotient (significand : Nat) (exponent : Int) : Nat × Nat :=
  (significand * Nat.pow 2 exponent.toNat, Nat.pow 2 (-exponent).toNat)

/-!
## Two decimal places

Points are shown with exactly two places.  The exact value is rounded to the
nearest hundredth, a half going to the even neighbour; the sign is kept even
where nothing else is left of the value.
-/

/-- The whole number nearest to a quotient, a half going to the even one. -/
def roundHalfEven (numerator denominator : Nat) : Nat :=
  let whole := numerator / denominator
  let rest := 2 * (numerator % denominator)
  if rest < denominator then whole
  else if denominator < rest then whole + 1
  else whole + whole % 2

/-- A whole number of hundredths with a point before the last two digits. -/
def hundredthsText (hundredths : Nat) : String :=
  let places := hundredths % 100
  toString (hundredths / 100) ++ "." ++ toString (places / 10) ++
    toString (places % 10)

/-- A magnitude without sign. -/
def Magnitude.twoPlaces : Magnitude → String
  | .notANumber => "NaN"
  | .infinite => "inf"
  | .finite significand exponent =>
    let (numerator, denominator) := quotient significand exponent
    hundredthsText (roundHalfEven (100 * numerator) denominator)

/-- A double with two places; only what is not a number has no sign. -/
def Double.twoPlaces (double : Double) : String :=
  let sign :=
    if double.negative ∧ double.magnitude ≠ .notANumber then "-" else ""
  sign ++ double.magnitude.twoPlaces

/-- A floating-point number with two places. -/
def twoPlaces (value : Float) : String :=
  (Double.ofFloat value).twoPlaces

/-!
## The shortest decimal text

Among all decimal numbers that read back as the same double, the text shows one
with the fewest digits, and among those the nearest to the exact value, the
larger of two that are equally near.  It is always written out in full, without
an exponent, and a whole number has no point.

A decimal number reads back as the double when it lies between the midpoints to
the neighbouring doubles; the midpoints themselves count when the significand
is even.  For a given number of digits only the two decimal numbers next to the
value need to be tried.
-/

/--
A positive double and the bounds of what reads back as it, in units of `1 /
denominator`.
-/
structure Neighbourhood where
  value : Nat
  low : Nat
  high : Nat
  denominator : Nat
  closed : Bool

/--
The midpoints around a significand at an exponent.  Below a power of two the
next double is only half as far away.
-/
def neighbourhood (significand : Nat) (exponent : Int) : Neighbourhood :=
  let (unit, denominator) := quotient 1 (exponent - 2)
  let below := if significand = Nat.pow 2 52 ∧ -1074 < exponent then 1 else 2
  { value := 4 * significand * unit
    low := (4 * significand - below) * unit
    high := (4 * significand + 2) * unit
    denominator
    closed := significand % 2 = 0 }

/-- A decimal number: `digits * 10 ^ exponent`. -/
structure DecimalNumber where
  digits : Nat
  exponent : Int
  deriving DecidableEq, Repr

/--
Whether a decimal number, scaled to the neighbourhood's units, reads back as
its double.
-/
def Neighbourhood.admits (around : Neighbourhood) (scaled unit : Nat) : Bool :=
  if around.closed then
    around.low * unit ≤ scaled && scaled ≤ around.high * unit
  else around.low * unit < scaled && scaled < around.high * unit

/-- The exponent of ten of the leading digit of a positive quotient. -/
def leadingExponent (numerator denominator : Nat) : Int :=
  if denominator ≤ numerator then
    (toString (numerator / denominator)).length - 1
  else
    let quotient := (denominator - 1) / numerator
    if quotient = 0 then -1 else -((toString quotient).length : Int)

/--
The nearest decimal number with the given count of digits that reads back, if
there is one.
-/
def Neighbourhood.withDigits? (around : Neighbourhood) (count : Nat) :
    Option DecimalNumber :=
  let exponent := leadingExponent around.value around.denominator - count + 1
  let grid := Nat.pow 10 exponent.toNat * around.denominator
  let unit := Nat.pow 10 (-exponent).toNat
  let down := around.value * unit / grid
  let downFits := around.admits (down * grid) unit
  let upFits := around.admits ((down + 1) * grid) unit
  let downIsNearer := 2 * (around.value * unit % grid) < grid
  if downFits && (downIsNearer || !upFits) then some ⟨down, exponent⟩
  else if upFits then some ⟨down + 1, exponent⟩
  else none

/--
The shortest decimal number that reads back as a positive double.  Seventeen
digits always suffice.
-/
def shortestNumber (significand : Nat) (exponent : Int) : DecimalNumber :=
  let around := neighbourhood significand exponent
  ((List.range 17).findSome? fun index =>
    around.withDigits? (index + 1)).getD ⟨0, 0⟩

/-- Decimal digits with zeros in front up to a width. -/
def padded (width : Nat) (number : Nat) : List Char :=
  let digits := (toString number).toList
  List.replicate (width - digits.length) '0' ++ digits

/--
A decimal number written out in full, without zeros at the end of its fraction.
-/
def DecimalNumber.text (number : DecimalNumber) : String :=
  let places := (-number.exponent).toNat
  let scaled := number.digits * Nat.pow 10 number.exponent.toNat
  let fraction :=
    ((padded places (scaled % Nat.pow 10 places)).reverse.dropWhile
      (· = '0')).reverse
  let whole := toString (scaled / Nat.pow 10 places)
  if places = 0 ∨ fraction = [] then whole
  else whole ++ "." ++ String.ofList fraction

/-- The shortest decimal text of a double. -/
def Double.shortest (double : Double) : String :=
  match double.magnitude with
  | .notANumber => "NaN"
  | .infinite => if double.negative then "-inf" else "inf"
  | .finite significand exponent =>
    let text :=
      if significand = 0 then "0"
      else (shortestNumber significand exponent).text
    if double.negative then "-" ++ text else text

/-- The shortest decimal text of a floating-point number. -/
def shortest (value : Float) : String :=
  (Double.ofFloat value).shortest

end ResolverGrader.Decimal
