import ResolverGrader.Proofs.Text.Digits
import ResolverGrader.Text.Quoted

/-!
# Quotations read back

Inside a quotation every character is read back from its form, whatever
follows: a backslash always begins an escape, which tells by itself where it
ends, and a bare quote is no form of any character.  So a quotation ends at its
first bare quote, wherever it stands, and two texts whose quotations begin the
same characters are the same text.
-/

namespace ResolverGrader.Text.Quoted

/-- The characters that are escaped by a letter, under that letter. -/
def letters : List (Char × Char) :=
  [('0', '\x00'), ('t', '\t'), ('r', '\r'), ('n', '\n'), ('\\', '\\'),
    ('"', '"')]

/-- The number of a character, in hexadecimal digits. -/
def codeForm : NumberForm := ⟨16, none, 0x110000, false⟩

/-- Reads the number of a character, in braces. -/
def readNumber? (text : List Char) : Option (Char × List Char) :=
  match text with
  | '\x7b' :: digits =>
    match codeForm.read? digits with
    | some (code, '\x7d' :: rest) => some (Char.ofNat code, rest)
    | _ => none
  | _ => none

/-- Reads what follows the backslash of an escape. -/
def readEscape? : List Char → Option (Char × List Char)
  | [] => none
  | letter :: rest =>
    if letter = 'u' then readNumber? rest
    else (letters.lookup letter).map fun character => (character, rest)

/--
Reads one character in the form that it has inside quotes; a bare quote is
none.
-/
def readForm? : List Char → Option (Char × List Char)
  | [] => none
  | first :: rest =>
    if first = '"' then none
    else if first = '\\' then readEscape? rest
    else some (first, rest)

theorem toNat_lt_bound (character : Char) : character.toNat < 0x110000 := by
  have valid := character.valid
  unfold UInt32.isValidChar Nat.isValidChar at valid
  unfold Char.toNat
  omega

theorem readForm?_byNumber (character : Char) (rest : List Char) :
    readForm? (byNumber character ++ rest) = some (character, rest) := by
  have proper : 1 < codeForm.base := by decide
  have hexadecimal : codeForm.base ≤ 16 := by decide
  have admitted : codeForm.Admits character.toNat :=
    NumberForm.admits_of_lt rfl (toNat_lt_bound character)
  have digits :
      codeForm.read? (Nat.toDigits 16 character.toNat ++ '\x7d' :: rest) =
        some (character.toNat, '\x7d' :: rest) :=
    NumberForm.read?_toDigits_append proper hexadecimal admitted
      (endsRun_cons.mpr (by decide))
  have shape :
      byNumber character ++ rest =
        '\\' :: 'u' :: '\x7b' ::
          (Nat.toDigits 16 character.toNat ++ '\x7d' :: rest) := by
    simp [byNumber]
  rw [shape, readForm?, if_neg (by decide), if_pos rfl, readEscape?,
    if_pos rfl, readNumber?]
  simp only [digits, Char.ofNat_toNat]

/-- A character is read back from its form inside quotes, whatever follows. -/
theorem readForm?_escapeChar (character : Char) (rest : List Char) :
    readForm? (escapeChar character ++ rest) = some (character, rest) := by
  by_cases named : character ∈ ['\x00', '\t', '\r', '\n', '\\', '"']
  · simp only [List.mem_cons, List.not_mem_nil, or_false] at named
    rcases named with rfl | rfl | rfl | rfl | rfl | rfl <;> rfl
  · simp only [List.mem_cons, List.not_mem_nil, or_false, not_or] at named
    obtain ⟨notNul, notTab, notReturn, notNewline, notBackslash,
      notQuote⟩ := named
    simp only [escapeChar, notNul, notTab, notReturn, notNewline,
      notBackslash, notQuote, if_false]
    split
    · exact readForm?_byNumber character rest
    · simp only [List.singleton_append, readForm?, notQuote, notBackslash,
        if_false]

/--
The first bare quote ends a quotation, so what stands before it is the inside.
-/
theorem escape_append_inj
    {left right leftRest rightRest : List Char}
    (same :
      escape left ++ '"' :: leftRest = escape right ++ '"' :: rightRest) :
    left = right ∧ leftRest = rightRest := by
  have closing (rest : List Char) : readForm? ('"' :: rest) = none := rfl
  have opening (first : Char) (more rest : List Char) :
      readForm? (escape (first :: more) ++ '"' :: rest) =
        some (first, escape more ++ '"' :: rest) := by
    rw [escape, List.flatMap_cons, List.append_assoc]
    exact readForm?_escapeChar first _
  induction left generalizing right with
  | nil =>
      cases right with
      | nil => exact ⟨rfl, (List.cons.inj same).2⟩
      | cons first more =>
          have read := congrArg readForm? same
          rw [opening] at read
          cases read
  | cons first more ih =>
      cases right with
      | nil =>
          have read := congrArg readForm? same
          rw [opening] at read
          cases read
      | cons second others =>
          have read := congrArg readForm? same
          rw [opening, opening] at read
          obtain ⟨rfl, later⟩ := Prod.mk.inj (Option.some.inj read)
          obtain ⟨rfl, rests⟩ := ih later
          exact ⟨rfl, rests⟩

/-- No quotation begins another one. -/
theorem quote_append_inj
    {left right leftRest rightRest : List Char}
    (same : quote left ++ leftRest = quote right ++ rightRest) :
    left = right ∧ leftRest = rightRest := by
  unfold quote at same
  simp only [List.cons_append, List.append_assoc,
    List.nil_append, List.cons.injEq, true_and] at same
  exact escape_append_inj same

end ResolverGrader.Text.Quoted
