import ResolverGrader.Text.Unicode

/-!
# Full lower-casing

The lower-case form of a text.  Almost every character maps on its own, through
the runs of `Unicode.lowercaseRuns`.  Two rules go beyond that table: `İ`
becomes an `i` with a combining dot, and a capital sigma becomes `ς` where it
ends a word and `σ` elsewhere.  It ends a word when, passing over
case-ignorable characters, a cased character stands before it and none stands
after it.
-/

namespace ResolverGrader.Text

/-- The lower-case form of a character outside any context. -/
def lowercaseChar (character : Char) : List Char :=
  if character = '\u0130' then ['i', '\u0307']
  else match Unicode.lowercaseRuns.find? (·.contains character.toNat) with
    | some run => [Char.ofNat (character.toNat + run.offset).toNat]
    | none => [character]

/-- Whether the nearest character that is not case-ignorable is cased. -/
def meetsCased (text : List Char) : Bool :=
  match text.dropWhile Unicode.caseIgnorable.contains with
  | [] => false
  | character :: _ => Unicode.cased.contains character

/--
The small sigma for a place with `before` (nearest character first) and `after`
around it.
-/
def smallSigma (before after : List Char) : Char :=
  if meetsCased before && !meetsCased after then 'ς' else 'σ'

/--
The lower-case form of a text that follows `before` (nearest character first).
-/
def lowercaseAfter (before : List Char) : List Char → List Char
  | [] => []
  | character :: rest =>
    (if character = 'Σ' then [smallSigma before rest]
      else lowercaseChar character) ++
      lowercaseAfter (character :: before) rest

/-- The lower-case form of a text. -/
def lowercase (text : List Char) : List Char :=
  lowercaseAfter [] text

@[simp]
theorem lowercase_nil : lowercase [] = [] := rfl

theorem lowercaseAfter_cons_of_ne
    (before : List Char)
    {character : Char}
    (rest : List Char)
    (other : character ≠ 'Σ') :
    lowercaseAfter before (character :: rest) =
      lowercaseChar character ++
        lowercaseAfter (character :: before) rest := by
  simp [lowercaseAfter, other]

example : lowercase "ΑΣ ΣΑ Σ".toList = "ας σα σ".toList := by decide +kernel

end ResolverGrader.Text
