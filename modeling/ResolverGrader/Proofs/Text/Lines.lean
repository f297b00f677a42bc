import ResolverGrader.Text.Split

/-!
# Texts made of lines

Texts are put together with a line feed between each two of them, or with one
after each.  Cutting at the line feeds gives the texts back, each in as many
pieces as it has lines itself.

`forall_mem_intercalate` lifts what holds of the characters of all parts, and
of what stands between them, to the whole.  `linesFrom` picks the lines that
begin with a text; a line that is known to begin with another one is not among
them if the two clash.
-/

namespace ResolverGrader.Text

/--
What holds of all that is in the parts and in the separator holds of the whole.
-/
theorem forall_mem_intercalate
    {α : Type} {holds : α → Prop} {separator : List α}
    (between : ∀ item ∈ separator, holds item)
    {parts : List (List α)}
    (each : ∀ part ∈ parts, ∀ item ∈ part, holds item) :
    ∀ item ∈ List.intercalate separator parts, holds item := by
  induction parts with
  | nil => exact List.forall_mem_nil _
  | cons part rest ih =>
      obtain ⟨here, later⟩ := List.forall_mem_cons.mp each
      by_cases alone : rest = []
      · rwa [alone, List.intercalate_singleton]
      · rw [List.intercalate_cons_of_ne_nil alone]
        exact List.forall_mem_append.mpr
          ⟨List.forall_mem_append.mpr ⟨here, between⟩, ih later⟩

theorem not_mem_intercalate
    {character : Char} {separator : List Char}
    (between : character ∉ separator) {parts : List (List Char)}
    (each : ∀ part ∈ parts, character ∉ part) :
    character ∉ List.intercalate separator parts := by
  have apart :
      ∀ other ∈ List.intercalate separator parts, other ≠ character :=
    forall_mem_intercalate
      (fun _ inside => ne_of_mem_of_not_mem inside between)
      (fun part among _ inside =>
        ne_of_mem_of_not_mem inside (each part among))
  exact fun member => apart character member rfl

/--
What distributes over a separator distributes over all separators between
parts.
-/
theorem apply_intercalate
    {α β : Type} {apply : List α → List β}
    {separator : List α} {between : List β}
    (empty : apply [] = [])
    (distributes : ∀ left right,
      apply (left ++ separator ++ right) =
        apply left ++ between ++ apply right)
    (parts : List (List α)) :
    apply (List.intercalate separator parts) =
      List.intercalate between (parts.map apply) := by
  induction parts with
  | nil => exact empty
  | cons part rest ih =>
      by_cases alone : rest = []
      · simp [alone]
      · have others : rest.map apply ≠ [] :=
          fun none => alone (List.map_eq_nil_iff.mp none)
        rw [List.intercalate_cons_of_ne_nil alone, distributes, ih,
          List.map_cons, List.intercalate_cons_of_ne_nil others]

theorem not_mem_toList_append
    {character : Char} {left right : String} :
    character ∉ (left ++ right).toList ↔
      character ∉ left.toList ∧ character ∉ right.toList := by
  rw [String.toList_append, List.mem_append, not_or]

theorem pieces_append_newline (left right : List Char) :
    pieces (left ++ '\n' :: right) = pieces left ++ pieces right :=
  split_append_separator '\n' left right

theorem pieces_of_not_mem {text : List Char} (whole : '\n' ∉ text) :
    pieces text = [text] :=
  split_of_not_mem whole

theorem newline_not_mem_of_mem_pieces
    {text piece : List Char} (member : piece ∈ pieces text) :
    '\n' ∉ piece :=
  separator_not_mem_of_mem_split member

theorem newline_not_mem_of_mem_lines
    {text line : List Char} (member : line ∈ lines text) :
    '\n' ∉ line := by
  rcases List.mem_append.mp member with ended | unended
  · obtain ⟨piece, among, rfl⟩ := List.mem_map.mp ended
    have whole :=
      newline_not_mem_of_mem_pieces (List.dropLast_subset _ among)
    unfold dropReturn
    split
    · exact fun inside => whole (List.dropLast_subset _ inside)
    · exact whole
  · have last : (pieces text).getLast? = some line := by
      cases cut : (pieces text).getLast? with
      | none => simp [cut] at unended
      | some piece =>
          by_cases empty : piece = []
          · simp [cut, empty] at unended
          · simp only [cut, Option.getD_some, empty, if_false,
              List.mem_singleton] at unended
            rw [unended]
    exact newline_not_mem_of_mem_pieces (List.mem_of_getLast? last)

/-! ## Separators between texts -/

/--
Parts with separators between them are cut where these stand and where their
own stand.
-/
theorem split_intercalate
    {separator : Char} {parts : List (List Char)}
    (some_part : parts ≠ []) :
    split separator (List.intercalate [separator] parts) =
      parts.flatMap (split separator) := by
  induction parts with
  | nil => exact absurd rfl some_part
  | cons part rest ih =>
      by_cases alone : rest = []
      · rw [alone, List.intercalate_singleton, List.flatMap_singleton]
      · rw [List.intercalate_cons_of_ne_nil alone, List.append_assoc,
          List.flatMap_cons, ← ih alone]
        exact split_append_separator separator _ _

/-- Parts without separators are not cut. -/
theorem flatMap_split_of_not_mem
    {separator : Char} {parts : List (List Char)}
    (whole : ∀ part ∈ parts, separator ∉ part) :
    parts.flatMap (split separator) = parts := by
  induction parts with
  | nil => rfl
  | cons part rest ih =>
      obtain ⟨here, later⟩ := List.forall_mem_cons.mp whole
      rw [List.flatMap_cons, split_of_not_mem here, ih later]
      rfl

theorem split_intercalate_of_not_mem
    {separator : Char} {parts : List (List Char)}
    (some_part : parts ≠ []) (whole : ∀ part ∈ parts, separator ∉ part) :
    split separator (List.intercalate [separator] parts) = parts :=
  (split_intercalate some_part).trans (flatMap_split_of_not_mem whole)

theorem pieces_joinLines
    {texts : List String} (some_text : texts ≠ []) :
    pieces (joinLines texts).toList =
      texts.flatMap fun text => pieces text.toList := by
  have some_part : texts.map String.toList ≠ [] :=
    fun none => some_text (List.map_eq_nil_iff.mp none)
  unfold joinLines
  rw [String.toList_intercalate, ← List.flatMap_map]
  exact split_intercalate some_part

/-- Line feeds before all texts but the first stand between them. -/
theorem append_join_newline (first : String) (others : List String) :
    first ++ String.join (others.map ("\n" ++ ·)) =
      joinLines (first :: others) := by
  unfold joinLines
  apply String.toList_injective
  rw [String.toList_append, String.toList_join, String.toList_intercalate,
    List.flatMap_map]
  simp only [String.toList_append]
  induction others generalizing first with
  | nil => simp
  | cons second rest ih =>
      rw [List.map_cons, List.intercalate_cons_of_ne_nil (by simp),
        List.flatMap_cons, ← ih second, List.append_assoc,
        List.append_assoc]

/-! ## A line feed after each text -/

theorem toList_endLines (texts : List String) :
    (endLines texts).toList =
      texts.flatMap fun text => text.toList ++ ['\n'] := by
  unfold endLines
  rw [String.toList_join, List.flatMap_map]
  simp only [String.toList_append]
  rfl

/--
Texts that are ended come back in their pieces, with an empty piece after the
last.
-/
theorem pieces_endLines_flatMap (texts : List String) :
    pieces (endLines texts).toList =
      (texts.flatMap fun text => pieces text.toList) ++ [[]] := by
  rw [toList_endLines]
  induction texts with
  | nil => rfl
  | cons text rest ih =>
      rw [List.flatMap_cons, List.append_assoc, List.singleton_append,
        pieces_append_newline, ih, List.flatMap_cons, List.append_assoc]

/--
Lines that are ended come back one by one, with an empty piece after the last.
-/
theorem pieces_endLines
    {texts : List String} (whole : ∀ text ∈ texts, '\n' ∉ text.toList) :
    pieces (endLines texts).toList =
      texts.map String.toList ++ [[]] := by
  rw [pieces_endLines_flatMap, ← List.flatMap_map,
    flatMap_split_of_not_mem (List.forall_mem_map.mpr whole)]

/-! ## How lines begin -/

/-- The lines that begin with a text, in their order. -/
def linesFrom (opening : String) (cut : List (List Char)) :
    List (List Char) :=
  cut.filter fun line => opening.toList.isPrefixOf line

section

variable {opening : String} {line : List Char}

@[simp]
theorem linesFrom_nil : linesFrom opening [] = [] := rfl

@[simp]
theorem linesFrom_append (left right : List (List Char)) :
    linesFrom opening (left ++ right) =
      linesFrom opening left ++ linesFrom opening right :=
  List.filter_append left right

theorem linesFrom_cons_of_begins
    (begins : opening.toList <+: line) (cut : List (List Char)) :
    linesFrom opening (line :: cut) = line :: linesFrom opening cut :=
  List.filter_cons_of_pos (List.isPrefixOf_iff_prefix.mpr begins)

theorem linesFrom_cons_of_not_begins
    (differs : ¬ opening.toList <+: line) (cut : List (List Char)) :
    linesFrom opening (line :: cut) = linesFrom opening cut :=
  List.filter_cons_of_neg
    fun begins => differs (List.isPrefixOf_iff_prefix.mp begins)

theorem linesFrom_cons_congr
    (line : List Char) {cut other : List (List Char)}
    (same : linesFrom opening cut = linesFrom opening other) :
    linesFrom opening (line :: cut) = linesFrom opening (line :: other) := by
  rw [← List.singleton_append, linesFrom_append, same, ← linesFrom_append,
    List.singleton_append]

theorem linesFrom_eq_nil
    {cut : List (List Char)}
    (differ : ∀ line ∈ cut, ¬ opening.toList <+: line) :
    linesFrom opening cut = [] := by
  refine List.filter_eq_nil_iff.mpr ?_
  intro line member begins
  exact differ line member (List.isPrefixOf_iff_prefix.mp begins)

end

theorem prefix_toList_append
    {opening text : String} (begins : opening.toList <+: text.toList)
    (rest : String) : opening.toList <+: (text ++ rest).toList := by
  rw [String.toList_append]
  exact begins.trans (List.prefix_append _ _)

/-- Neither of two texts begins the other. -/
def Clash (left right : String) : Prop :=
  ¬ left.toList <+: right.toList ∧ ¬ right.toList <+: left.toList

instance (left right : String) : Decidable (Clash left right) :=
  inferInstanceAs (Decidable (_ ∧ _))

/-- No line begins with two texts that clash. -/
theorem Clash.not_begins
    {left right : String} (clash : Clash left right)
    {line : List Char} (begins : left.toList <+: line) :
    ¬ right.toList <+: line := by
  intro alsoBegins
  rcases List.prefix_or_prefix_of_prefix begins alsoBegins with
    shorter | longer
  · exact clash.1 shorter
  · exact clash.2 longer

end ResolverGrader.Text
