import ResolverGrader.Dns.Name
import ResolverGrader.Text.Digits
import ResolverGrader.Text.Split
import ResolverGrader.Text.Unicode
import ResolverGrader.Text.Utf8

/-!
# Reading a domain name from text

Dots separate labels and a final dot may be left out.  A backslash takes the
next character as it is, unless that is a digit: then it begins the octal
number of a character.  An escape that the end of the text cuts off is dropped.

The text is read once from left to right and the first thing wrong with it is
reported, whether a character, a finished label or the length of the name so
far.
-/

namespace ResolverGrader.Dns

open ResolverGrader.Text

/-- Why a text is no domain name. -/
inductive NameError where
  | unrecognizedChar (character : Char)
  | illegalChar (character : Char)
  | labelTooLong (length : Nat)
  | malformedLabel (label : String)
  | nameTooLong (length : Nat)
  deriving DecidableEq, Repr

/-- The message of a name error. -/
def NameError.message : NameError → String
  | .unrecognizedChar character =>
    "unrecognized char: " ++ String.ofList [character]
  | .illegalChar character => "illegal char: " ++ String.ofList [character]
  | .labelTooLong length => "label bytes exceed 63: " ++ toString length
  | .malformedLabel label => "Malformed label: " ++ label
  | .nameTooLong length => "name label data exceed 255: " ++ toString length

/-- Whether a character is an ASCII letter or digit. -/
def isAlphanumeric (character : Char) : Bool :=
  isDecimal character || ('A' ≤ character && character ≤ 'Z') ||
    ('a' ≤ character && character ≤ 'z')

/-- Whether a character may stand in a label that is written as text. -/
def isLabelChar (isFirst : Bool) (character : Char) : Bool :=
  isAlphanumeric character || character = '_' || character = '.' ||
    (if isFirst then character = '*' else character = '-')

/-- Whether the characters of a label may stand where they do. -/
def isLabelText : List Char → Bool
  | [] => false
  | first :: rest => isLabelChar true first && rest.all (isLabelChar false)

/-- The label that a text writes once its escapes are resolved. -/
def Label.ofText (text : List Char) : Except NameError Label :=
  let octets := Utf8.encode text
  if maxLabelLength < octets.length then .error (.labelTooLong octets.length)
  else match Label.ofOctets? octets, isLabelText text with
    | some label, true => .ok label
    | _, _ => .error (.malformedLabel (String.ofList text))

/-- A name with one more label written as text. -/
def Name.addText (name : Name) (text : List Char) : Except NameError Name := do
  let label ← Label.ofText text
  match name.snoc? label with
  | some longer => .ok longer
  | none => .error (.nameTooLong (wireLength (name.labels ++ [label])))

/-- How much of an escape has been read. -/
inductive Escape where
  | outside
  | begun
  | oneDigit (first : Nat)
  | twoDigits (first second : Nat)
  deriving DecidableEq, Repr

/-- Whether a character is a digit or number of any script. -/
def isNumeric (character : Char) : Bool :=
  Unicode.numeric.contains character

/-- Whether a character is a control character. -/
def isControl (character : Char) : Bool :=
  character.toNat < 32 || (127 ≤ character.toNat && character.toNat ≤ 159)

/-- The value of an octal digit inside an escape. -/
def octalDigit (character : Char) : Except NameError Nat :=
  match digitValue? 8 character with
  | some value => .ok value
  | none => .error (.illegalChar character)

/--
Reads the rest of a name: `label` holds the characters of the label so far,
last first.
-/
def Name.readText (name : Name) (escape : Escape) (label : List Char) :
    List Char → Except NameError Name
  | [] => if label = [] then .ok name else name.addText label.reverse
  | character :: rest =>
    match escape with
    | .outside =>
      if character = '.' then do
        let longer ← name.addText label.reverse
        longer.readText .outside [] rest
      else if character = '\\' then name.readText .begun label rest
      else if isControl character || isBlank character then
        .error (.unrecognizedChar character)
      else name.readText .outside (character :: label) rest
    | .begun =>
      if isNumeric character then do
        let first ← octalDigit character
        name.readText (.oneDigit first) label rest
      else name.readText .outside (character :: label) rest
    | .oneDigit first =>
      if isNumeric character then do
        let second ← octalDigit character
        name.readText (.twoDigits first second) label rest
      else .error (.unrecognizedChar character)
    | .twoDigits first second =>
      if isNumeric character then do
        let third ← octalDigit character
        name.readText .outside
          (Char.ofNat (first * 64 + second * 8 + third) :: label) rest
      else .error (.unrecognizedChar character)

/--
The name that a text writes; a lone dot is the root, as is no text at all.
-/
def Name.parse (text : List Char) : Except NameError Name :=
  if text = ['.'] then .ok .root else Name.root.readText .outside [] text

end ResolverGrader.Dns
