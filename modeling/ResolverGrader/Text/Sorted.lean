/-!
# Texts in order

Answers are compared and shown in the order of their code points, the order of
`String`.  `sorted` keeps every entry, `distinct` keeps one of each.  Both
depend on nothing but the entries: `sorted` on how often each occurs,
`distinct` on which occur.
-/

namespace ResolverGrader.Text

/-- The entries in ascending order of code points, duplicates kept. -/
def sorted (texts : List String) : List String :=
  texts.mergeSort fun left right => left ≤ right

/-- A list without the entries that equal their right neighbour. -/
def squeeze : List String → List String
  | [] => []
  | text :: rest =>
    if rest.head? = some text then squeeze rest else text :: squeeze rest

/-- The entries in ascending order of code points, one of each. -/
def distinct (texts : List String) : List String :=
  squeeze (sorted texts)

theorem sorted_perm (texts : List String) : (sorted texts).Perm texts :=
  List.mergeSort_perm texts _

theorem pairwise_sorted (texts : List String) :
    (sorted texts).Pairwise fun left right => left ≤ right := by
  have ordered :=
    @List.pairwise_mergeSort String (fun left right => decide (left ≤ right))
    (fun _ _ _ first second => by
      simp only [decide_eq_true_eq] at first second ⊢
      exact String.le_trans first second)
    (fun left right => by simpa using String.le_total left right) texts
  exact ordered.imp fun bound => by simpa using bound

@[simp]
theorem mem_sorted {text : String} {texts : List String} :
    text ∈ sorted texts ↔ text ∈ texts :=
  (sorted_perm texts).mem_iff

@[simp]
theorem length_sorted (texts : List String) :
    (sorted texts).length = texts.length :=
  (sorted_perm texts).length_eq

@[simp]
theorem mem_squeeze {text : String} {texts : List String} :
    text ∈ squeeze texts ↔ text ∈ texts := by
  induction texts with
  | nil => simp [squeeze]
  | cons first rest ih =>
    simp only [squeeze]
    split
    · rename_i repeated
      have member : first ∈ rest := List.mem_of_mem_head? repeated
      simp only [ih, List.mem_cons]
      exact ⟨Or.inr, fun h => h.elim (fun equal => equal ▸ member) id⟩
    · simp [ih]

@[simp]
theorem mem_distinct {text : String} {texts : List String} :
    text ∈ distinct texts ↔ text ∈ texts := by
  simp [distinct]

/-- In a sorted list that is squeezed each entry is less than the next. -/
theorem pairwise_squeeze
    {texts : List String}
    (ordered : texts.Pairwise (· ≤ ·)) :
    (squeeze texts).Pairwise (· < ·) := by
  induction texts with
  | nil => simp [squeeze]
  | cons first rest ih =>
    have tail := ih (List.pairwise_cons.1 ordered).2
    simp only [squeeze]
    split
    · exact tail
    · rename_i fresh
      refine List.pairwise_cons.2 ⟨fun text member => ?_, tail⟩
      rw [mem_squeeze] at member
      have bound := (List.pairwise_cons.1 ordered).1
      rcases Decidable.em (text ≤ first) with below | above
      · exfalso
        cases rest with
        | nil => simp at member
        | cons second more =>
          have equal : second = first := by
            refine String.le_antisymm ?_ (bound second List.mem_cons_self)
            rcases List.mem_cons.1 member with rfl | later
            · exact below
            · obtain ⟨_, upward⟩ := List.pairwise_cons.1 ordered
              have next := (List.pairwise_cons.1 upward).1 text later
              exact String.le_trans next below
          exact fresh (by simp [equal])
      · exact String.not_le.1 above

/-- The distinct entries ascend strictly. -/
theorem pairwise_distinct (texts : List String) :
    (distinct texts).Pairwise (· < ·) :=
  pairwise_squeeze (pairwise_sorted texts)

end ResolverGrader.Text
