import ResolverGrader.Text.Octets

/-!
# Runs of digits

Numbers in addresses, ports and options are runs of digits in base ten or
sixteen.  This module reads the run at the beginning of a text and gives its
value.
-/

namespace ResolverGrader.Text

/-- The value of a digit in a base of at most sixteen. -/
def digitValue? (base : Nat) (character : Char) : Option Nat :=
  (Octets.hexValue? character).filter (· < base)

/-- Whether a character is a digit of the base. -/
def isDigitIn (base : Nat) (character : Char) : Bool :=
  (digitValue? base character).isSome

/-- The number a run of digits writes, the most significant digit first. -/
def digitsValue (base : Nat) (run : List Char) : Nat :=
  run.foldl
    (fun value digit => value * base + (digitValue? base digit).getD 0) 0

/-- Whether a character is one of the ten ASCII digits. -/
def isDecimal (character : Char) : Bool :=
  '0' ≤ character && character ≤ '9'

/-- A limit on the numbers that a reader accepts. -/
structure NumberForm where
  base : Nat
  /-- The greatest number of digits, where there is one. -/
  maxDigits : Option Nat
  /-- The least number that is too large. -/
  bound : Nat
  /-- Whether zeros may stand before other digits. -/
  leadingZeros : Bool

/-- Whether a run of digits has the form. -/
def NumberForm.accepts (form : NumberForm) (run : List Char) : Bool :=
  run ≠ [] && form.maxDigits.all (run.length ≤ ·) &&
    (form.leadingZeros || run.length ≤ 1 || run.head? ≠ some '0') &&
    digitsValue form.base run < form.bound

/--
Reads all digits at the beginning of a text; the number must have the form.
-/
def NumberForm.read? (form : NumberForm) (text : List Char) :
    Option (Nat × List Char) :=
  let run := text.takeWhile (isDigitIn form.base)
  if form.accepts run then
    some (digitsValue form.base run, text.dropWhile (isDigitIn form.base))
  else none

/-- The decimal digits of a number. -/
def decimalDigits (number : Nat) : List Char :=
  Nat.toDigits 10 number

/-- The lower-case hexadecimal digits of a number. -/
def hexadecimalDigits (number : Nat) : List Char :=
  Nat.toDigits 16 number

end ResolverGrader.Text
