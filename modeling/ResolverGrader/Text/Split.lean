import ResolverGrader.Text.Unicode

/-!
# Cutting and searching texts

Texts are cut at a character, into lines and at white space, and searched for
other texts.  Cutting at a character distributes over that character
(`split_append_separator`).
-/

namespace ResolverGrader.Text

/-!
## Cutting a text at a character

`split` cuts a text at every occurrence of a separator and keeps what stands
between them, empty pieces included, so a text with `n` separators has `n + 1`
pieces.
-/

/-- What stands between the separators of a text. -/
def split (separator : Char) : List Char → List (List Char)
  | [] => [[]]
  | character :: rest =>
    if character = separator then [] :: split separator rest
    else match split separator rest with
      | [] => [[character]]
      | piece :: more => (character :: piece) :: more

theorem split_ne_nil (separator : Char) (text : List Char) :
    split separator text ≠ [] := by
  cases text with
  | nil => simp [split]
  | cons character rest =>
    simp only [split]
    split
    · simp
    · split <;> simp

/-- Cutting distributes over a separator. -/
theorem split_append_separator (separator : Char) (left right : List Char) :
    split separator (left ++ separator :: right) =
      split separator left ++ split separator right := by
  induction left with
  | nil => simp [split]
  | cons character rest ih =>
    by_cases same : character = separator
    · simp [split, same, ih]
    · have nonempty := split_ne_nil separator rest
      simp only [List.cons_append, split, same, if_false, ih]
      cases cut : split separator rest with
      | nil => exact absurd cut nonempty
      | cons piece more => simp

/-- No piece holds a separator. -/
theorem separator_not_mem_of_mem_split
    {separator : Char}
    {text piece : List Char}
    (member : piece ∈ split separator text) :
    separator ∉ piece := by
  induction text generalizing piece with
  | nil => simp_all [split]
  | cons character rest ih =>
    simp only [split] at member
    split at member
    · rcases List.mem_cons.1 member with rfl | later
      · simp
      · exact ih later
    · rename_i other
      cases cut : split separator rest with
      | nil => exact absurd cut (split_ne_nil separator rest)
      | cons first more =>
        rw [cut] at member ih
        rcases List.mem_cons.1 member with rfl | later
        · simp [Ne.symm other, ih (List.mem_cons_self)]
        · exact ih (List.mem_cons_of_mem _ later)

/-- A text without a separator is one piece. -/
theorem split_of_not_mem
    {separator : Char}
    {text : List Char}
    (absent : separator ∉ text) :
    split separator text = [text] := by
  induction text with
  | nil => rfl
  | cons character rest ih =>
    simp only [List.mem_cons, not_or] at absent
    simp [split, Ne.symm absent.1, ih absent.2]

/-!
## Lines

Two ways to cut a text into lines.  `pieces` cuts at every line feed.  `lines`
reads a line feed as the end of a line: nothing follows the last one, and one
carriage return before it belongs to the ending.
-/

/-- What stands between the line feeds of a text. -/
abbrev pieces (text : List Char) : List (List Char) :=
  split '\n' text

/-- A line without one carriage return at its end. -/
def dropReturn (line : List Char) : List Char :=
  if line.getLast? = some '\r' then line.dropLast else line

/-- The lines of a text, each without its ending. -/
def lines (text : List Char) : List (List Char) :=
  let cut := pieces text
  let unended := cut.getLast?.getD []
  cut.dropLast.map dropReturn ++ if unended = [] then [] else [unended]

/-- Texts with a line feed between each two of them. -/
def joinLines (texts : List String) : String :=
  String.intercalate "\n" texts

/-- Texts with a line feed after each of them. -/
def endLines (texts : List String) : String :=
  String.join (texts.map (· ++ "\n"))

/-!
## White space

The twenty-five characters with the property `White_Space`, and the operations
that look at them: trimming a text at both ends or at its end, and taking its
first word.
-/

/-- The characters with the property `White_Space`. -/
def whiteSpace : CodeRanges := [
  (0x9, 0xd), (0x20, 0x20), (0x85, 0x85), (0xa0, 0xa0), (0x1680, 0x1680),
  (0x2000, 0x200a), (0x2028, 0x2029), (0x202f, 0x202f), (0x205f, 0x205f),
  (0x3000, 0x3000)]

/-- Whether a character is white space. -/
def isBlank (character : Char) : Bool :=
  whiteSpace.contains character

/-- A text without the white space at its end. -/
def trimEnd (text : List Char) : List Char :=
  (text.reverse.dropWhile isBlank).reverse

/-- A text without the white space at either end. -/
def trim (text : List Char) : List Char :=
  trimEnd (text.dropWhile isBlank)

/-- The first maximal run of characters that are not white space. -/
def firstWord (text : List Char) : List Char :=
  (text.dropWhile isBlank).takeWhile fun character => !isBlank character

/-- Every character that the core library calls white space is blank. -/
theorem isBlank_of_isWhitespace
    {character : Char}
    (blank : character.isWhitespace = true) :
    isBlank character = true := by
  simp only [Char.isWhitespace, Bool.or_eq_true, decide_eq_true_eq] at blank
  rcases blank with ((rfl | rfl) | rfl) | rfl <;> decide

/-!
## Searching in text

Prefixes, parts, and what stands after the last occurrence of a marker.
-/

/-- Whether a text contains another one. -/
def hasPart (part : List Char) : List Char → Bool
  | [] => part.isEmpty
  | character :: rest =>
    part.isPrefixOf (character :: rest) || hasPart part rest

/-- What follows the last occurrence of a marker. -/
def afterLast? (marker : List Char) : List Char → Option (List Char)
  | [] => none
  | character :: rest =>
    match afterLast? marker rest with
    | some tail => some tail
    | none =>
      if marker.isPrefixOf (character :: rest) then
        some ((character :: rest).drop marker.length)
      else none

end ResolverGrader.Text
