import ResolverGrader.Dns.Name.Wire

/-!
# Names read back

The wire form of a name tells where it ends: each label is preceded by its
length and the zero octet is no length of a label.  So a name is read back from
its wire form whatever follows it, wherever it stands in a message, and two
names that begin the same octets are the same name.
-/

namespace ResolverGrader.Dns

theorem Label.ext_octets
    {left right : Label} (same : left.octets = right.octets) :
    left = right := by
  cases left
  cases right
  cases same
  rfl

theorem Name.ext_labels
    {left right : Name} (same : left.labels = right.labels) :
    left = right := by
  cases left
  cases right
  cases same
  rfl

theorem Label.length_pos (label : Label) : 0 < label.octets.length :=
  List.length_pos_iff.mpr label.octets_ne_nil

theorem Label.ofOctets?_octets (label : Label) :
    Label.ofOctets? label.octets = some label := by
  unfold Label.ofOctets?
  rw [dif_pos ⟨label.octets_ne_nil, label.length_le⟩]

/-- The first octet of a label says how long it is. -/
theorem PartKind.of_label (label : Label) :
    PartKind.of (UInt8.ofNat label.octets.length) =
      .label label.octets.length := by
  have positive := label.length_pos
  have bounded : label.octets.length ≤ 63 := label.length_le
  have value :
      (UInt8.ofNat label.octets.length).toNat = label.octets.length :=
    UInt8.toNat_ofNat_of_lt' (by simp only [UInt8.size]; omega)
  have notZero : UInt8.ofNat label.octets.length ≠ 0 := by
    rw [Ne, ← UInt8.toNat_inj, value]
    exact Nat.pos_iff_ne_zero.mp positive
  have small : UInt8.ofNat label.octets.length < 64 := by
    rw [UInt8.lt_iff_toNat_lt, value]
    exact Nat.lt_succ_of_le bounded
  rw [PartKind.of, if_neg notZero, if_pos small, value]

theorem Name.snoc?_of_fits
    (name : Name) (label : Label)
    (fits : wireLength (name.labels ++ [label]) ≤ maxNameLength) :
    name.snoc? label = some ⟨name.labels ++ [label], fits⟩ :=
  dif_pos fits

theorem wireLength_append (before after : List Label) :
    wireLength (before ++ after) + 1 =
      wireLength before + wireLength after := by
  induction before with
  | nil => exact Nat.add_comm _ _
  | cons label rest ih =>
      rw [List.cons_append, wireLength, wireLength]
      omega

theorem wireLength_append_le
    {before after : List Label} {limit : Nat}
    (fits : wireLength (before ++ after) ≤ limit) :
    wireLength before ≤ limit := by
  have parts := wireLength_append before after
  have present : 0 < wireLength after := by
    cases after with
    | nil => exact Nat.one_pos
    | cons label rest =>
        rw [wireLength]
        omega
  omega

/--
One step of reading: a label is taken off and put behind those read before.
-/
theorem readNameFrom?_label
    (message : Octets) (start : Nat) (name : Name) (label : Label)
    (fits : wireLength (name.labels ++ [label]) ≤ maxNameLength)
    (position : Nat) (rest : Octets) :
    readNameFrom? message start none name
        ⟨position, label.wire ++ rest⟩ =
      readNameFrom? message start none ⟨name.labels ++ [label], fits⟩
        ⟨position + 1 + label.octets.length, rest⟩ := by
  have enough : label.octets.length ≤ (label.octets ++ rest).length := by
    simp
  rw [Label.wire, List.cons_append, readNameFrom?.eq_def]
  simp only [Option.any_none, Bool.false_eq_true, if_false,
    PartKind.of_label, if_pos enough, List.take_left, List.drop_left,
    Label.ofOctets?_octets, Option.bind_some, name.snoc?_of_fits label fits]

/-- Reading goes on behind any labels read before, up to the zero octet. -/
theorem readNameFrom?_wire
    (message : Octets) (start : Nat) (labels : List Label) (name : Name)
    (fits : wireLength (name.labels ++ labels) ≤ maxNameLength)
    (position : Nat) (rest : Octets) :
    readNameFrom? message start none name
        ⟨position, labels.flatMap Label.wire ++ 0 :: rest⟩ =
      some (⟨name.labels ++ labels, fits⟩,
        ⟨position + wireLength labels, rest⟩) := by
  induction labels generalizing name position with
  | nil =>
      rw [List.flatMap_nil, List.nil_append, readNameFrom?.eq_def]
      have root : PartKind.of 0 = .root := rfl
      have same : name = ⟨name.labels ++ [], fits⟩ :=
        Name.ext_labels (List.append_nil _).symm
      rw [← same]
      simp only [Option.any_none, Bool.false_eq_true, if_false, root,
        wireLength]
  | cons label labels ih =>
      have regrouped :
          name.labels ++ label :: labels =
            (name.labels ++ [label]) ++ labels := by
        rw [List.append_assoc, List.singleton_append]
      have fitsLater :
          wireLength ((name.labels ++ [label]) ++ labels) ≤
            maxNameLength := regrouped ▸ fits
      rw [List.flatMap_cons, List.append_assoc,
        readNameFrom?_label message start name label
          (wireLength_append_le fitsLater),
        ih ⟨name.labels ++ [label], wireLength_append_le fitsLater⟩
          fitsLater]
      have length :
          position + 1 + label.octets.length + wireLength labels =
            position + wireLength (label :: labels) := by
        rw [wireLength]
        omega
      rw [length]
      congr 2
      exact Name.ext_labels regrouped.symm

/-- A name is read back from its wire form, whatever stands around it. -/
theorem Cursor.readName?_wire
    (message : Octets) (name : Name) (position : Nat) (rest : Octets) :
    Cursor.readName? message ⟨position, name.wire ++ rest⟩ =
      some (name, ⟨position + name.wire.length, rest⟩) := by
  have read :=
    readNameFrom?_wire message position name.labels .root
      name.wireLength_le position rest
  rw [Cursor.readName?, Name.wire, List.append_assoc,
    List.singleton_append, read, ← Name.wire, Name.length_wire]
  rfl

/-- No name begins the wire form of another. -/
theorem Name.wire_append_inj
    {left right : Name} {leftRest rightRest : Octets}
    (same : left.wire ++ leftRest = right.wire ++ rightRest) :
    left = right := by
  have readLeft := Cursor.readName?_wire [] left 0 leftRest
  have readRight := Cursor.readName?_wire [] right 0 rightRest
  rw [same, readRight] at readLeft
  exact (congrArg Prod.fst (Option.some.inj readLeft)).symm

end ResolverGrader.Dns
