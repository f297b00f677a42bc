import ResolverGrader.Text.Octets

/-!
# UTF-8 with replacement of malformed parts

Output of a foreign program is text only by intention.  `Utf8.decode` reads
octets one at a time: between characters, or inside a character of which some
continuation octets are still owed.  An octet that cannot continue the open
character closes it with one replacement character and is then read afresh, so
each maximal beginning of a character that leads nowhere becomes exactly one
U+FFFD.

`Utf8.decode_append_newline` says that a line feed is never part of a longer
character: decoding splits there.  `Utf8.decode_eq_nil_iff` says that only no
octets at all decode to no text.  `Utf8.decode?` accepts well-formed octets
only.
-/

namespace ResolverGrader.Text.Utf8

/-- The character that stands for octets that are not text. -/
def replacement : Char := '\ufffd'

/--
A character that has begun: the bits read so far, the number of octets still
owed, and the least and greatest octet that may come next.
-/
structure Pending where
  value : Nat
  owed : Nat
  low : Nat
  high : Nat

/--
An octet read between characters: the text it completes, or the character it
opens.  The bounds of the second octet exclude overlong forms, surrogates and
numbers past U+10FFFF.
-/
def opening (octet : UInt8) : List Char × Option Pending :=
  let code := octet.toNat
  if code < 0x80 then ([Char.ofNat code], none)
  else if code < 0xC2 then ([replacement], none)
  else if code < 0xE0 then ([], some ⟨code - 0xC0, 1, 0x80, 0xBF⟩)
  else if code = 0xE0 then ([], some ⟨0, 2, 0xA0, 0xBF⟩)
  else if code = 0xED then ([], some ⟨0xD, 2, 0x80, 0x9F⟩)
  else if code < 0xF0 then ([], some ⟨code - 0xE0, 2, 0x80, 0xBF⟩)
  else if code = 0xF0 then ([], some ⟨0, 3, 0x90, 0xBF⟩)
  else if code < 0xF4 then ([], some ⟨code - 0xF0, 3, 0x80, 0xBF⟩)
  else if code = 0xF4 then ([], some ⟨4, 3, 0x80, 0x8F⟩)
  else ([replacement], none)

/--
An octet read while a character is open.  It either continues the character, or
closes it with the replacement character and is read between characters.
-/
def continuing (pending : Pending) (octet : UInt8) :
    List Char × Option Pending :=
  let code := octet.toNat
  if pending.low ≤ code ∧ code ≤ pending.high then
    let value := pending.value * 64 + (code - 0x80)
    if pending.owed ≤ 1 then ([Char.ofNat value], none)
    else ([], some ⟨value, pending.owed - 1, 0x80, 0xBF⟩)
  else
    let (text, state) := opening octet
    (replacement :: text, state)

/-- One octet from either state. -/
def step : Option Pending → UInt8 → List Char × Option Pending
  | none, octet => opening octet
  | some pending, octet => continuing pending octet

/--
The text of octets read from a state; a character left open at the end is
replaced.
-/
def decodeFrom : Option Pending → Octets → List Char
  | none, [] => []
  | some _, [] => [replacement]
  | state, octet :: rest =>
    (step state octet).1 ++ decodeFrom (step state octet).2 rest

/--
The text of octets, with one replacement character for each malformed part.
-/
def decode (octets : Octets) : List Char :=
  decodeFrom none octets

/-- The octets of a text. -/
def encode (text : List Char) : Octets :=
  text.flatMap String.utf8EncodeChar

/--
The text of octets that are the encoding of a text, and nothing otherwise.
-/
def decode? (octets : Octets) : Option (List Char) :=
  if encode (decode octets) = octets then some (decode octets) else none

@[simp]
theorem decodeFrom_cons
    (state : Option Pending)
    (octet : UInt8)
    (rest : Octets) :
    decodeFrom state (octet :: rest) =
      (step state octet).1 ++ decodeFrom (step state octet).2 rest := by
  cases state <;> rfl

/-- A line feed ends whatever is open and is itself a character. -/
theorem step_newline
    (state : Option Pending)
    (bounded : ∀ pending ∈ state, 0x80 ≤ pending.low) :
    step state 0x0a = (decodeFrom state [] ++ ['\n'], none) := by
  cases state with
  | none => rfl
  | some pending =>
    have low := bounded pending rfl
    have outside : ¬ (pending.low ≤ 10 ∧ 10 ≤ pending.high) := by omega
    simp [step, continuing, outside, opening, decodeFrom]

/-- Every character that is open expects an octet of the upper half. -/
theorem low_of_step (state : Option Pending) (octet : UInt8) :
    ∀ pending ∈ (step state octet).2, 0x80 ≤ pending.low := by
  have ofOpening : ∀ pending ∈ (opening octet).2, 0x80 ≤ pending.low := by
    intro pending member
    unfold opening at member
    grind
  cases state with
  | none => exact ofOpening
  | some pending =>
    simp only [step, continuing]
    grind

theorem decodeFrom_append_newline
    (left right : Octets)
    (state : Option Pending)
    (bounded : ∀ pending ∈ state, 0x80 ≤ pending.low) :
    decodeFrom state (left ++ 0x0a :: right) =
      decodeFrom state left ++ '\n' :: decode right := by
  induction left generalizing state with
  | nil => simp [step_newline state bounded, decode]
  | cons octet rest ih => simp [ih _ (low_of_step state octet)]

/-- Decoding splits at every line feed. -/
theorem decode_append_newline (left right : Octets) :
    decode (left ++ 0x0a :: right) = decode left ++ '\n' :: decode right :=
  decodeFrom_append_newline left right none (by simp)

theorem decodeFrom_some_ne_nil (pending : Pending) (octets : Octets) :
    decodeFrom (some pending) octets ≠ [] := by
  induction octets generalizing pending with
  | nil => simp [decodeFrom]
  | cons octet rest ih =>
    simp only [decodeFrom_cons, step, continuing]
    grind

/-- Only no octets decode to no text. -/
theorem decode_eq_nil_iff (octets : Octets) :
    decode octets = [] ↔ octets = [] := by
  cases octets with
  | nil => simp [decode, decodeFrom]
  | cons octet rest =>
    have open_ne := decodeFrom_some_ne_nil
    simp only [decode, decodeFrom_cons, step, opening]
    grind

end ResolverGrader.Text.Utf8
