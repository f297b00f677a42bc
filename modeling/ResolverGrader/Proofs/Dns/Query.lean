import ResolverGrader.Dns.Message
import ResolverGrader.Dns.Name.Parser
import ResolverGrader.Proofs.Dns.Name.Wire
import ResolverGrader.Proofs.QueryDiff.Drawing
import ResolverGrader.Proofs.Text.Lowercase

/-!
# The canonical query names what it asks for

The name in a query can be read back, whatever identifier stands before it, so
two canonical queries agree exactly when they ask for the same labels.  Which
labels these are depends on the query name through its lower-case form alone,
and a final dot adds nothing.

`canonicalQuery_faithful` says this for every text that can be given as a query
name.
-/

namespace ResolverGrader.Dns

/-!
## A final dot in a name

A dot behind the last label of a name may be left out.  This holds for every
text without escapes, names and texts that are no names alike: what is wrong
with the text is also the same.
-/

/--
The last label of a text is read alike whether a dot or the end of the text
follows it.
-/
theorem Name.readText_append_dot
    (name : Name) {label text : List Char}
    (openLabel : text = [] → label ≠ []) (noEscape : '\\' ∉ text)
    (noDot : text.getLast? ≠ some '.') :
    name.readText .outside label (text ++ ['.']) =
      name.readText .outside label text := by
  induction text generalizing name label with
  | nil =>
      simp only [List.nil_append, readText, if_true,
        if_neg (openLabel rfl)]
      cases name.addText label.reverse <;> rfl
  | cons character rest ih =>
      have noEscapeLater : '\\' ∉ rest :=
        fun member => noEscape (List.mem_cons_of_mem _ member)
      have noDotLater : rest.getLast? ≠ some '.' := by
        cases rest with
        | nil => simp
        | cons next more => simpa using noDot
      have plain : character ≠ '\\' := by
        rintro rfl
        exact noEscape List.mem_cons_self
      simp only [List.cons_append, readText, if_neg plain]
      split
      · -- A dot ends a label; since it is not the last character, the next
        -- label is not empty.
        next dot =>
        have later : rest ≠ [] := by
          rintro rfl
          exact noDot (by rw [dot]; rfl)
        refine bind_congr fun longer => ?_
        exact ih longer (fun none => absurd none later) noEscapeLater
          noDotLater
      · split
        · rfl
        · exact ih name (fun _ => List.cons_ne_nil _ _) noEscapeLater
            noDotLater

theorem Name.parse_append_dot
    {text : List Char} (nonempty : text ≠ []) (noEscape : '\\' ∉ text)
    (noDot : text.getLast? ≠ some '.') :
    Name.parse (text ++ ['.']) = Name.parse text := by
  have notDot : text ≠ ['.'] := by
    rintro rfl
    exact noDot rfl
  have notDotLonger : text ++ ['.'] ≠ ['.'] := by
    simpa using nonempty
  rw [Name.parse, Name.parse, if_neg notDot, if_neg notDotLonger]
  exact Name.readText_append_dot .root (fun none => absurd none nonempty)
    noEscape noDot

open ResolverGrader.Text

/-! ## Layout -/

/-- What a query consists of; `part` are the octets that hold the name. -/
structure Encodes
    (id : UInt16) (name : Name) (part query : Octets) : Prop where
  query_eq :
    query =
      [UInt8.ofNat (id.toNat / 256), UInt8.ofNat (id.toNat % 256)] ++
        [1, 0, 0, 1, 0, 0, 0, 0, 0, 0] ++ part ++ [0, 1, 0, 1]
  part_eq :
    part =
      (name.labels.flatMap fun label =>
        UInt8.ofNat label.octets.length :: label.octets) ++ [0]
  label_length :
    ∀ label ∈ name.labels,
      1 ≤ label.octets.length ∧ label.octets.length ≤ 63
  part_length : part.length ≤ 255
  readBack :
    Cursor.readName? query (.at query 12) =
      some (name, ⟨12 + part.length, [0, 1, 0, 1]⟩)

theorem encodes_queryWire (id : UInt16) (name : Name) :
    Encodes id name name.wire (queryWire id name) where
  query_eq := rfl
  part_eq := rfl
  label_length label _ := ⟨label.length_pos, label.length_le⟩
  part_length := by
    rw [Name.length_wire]
    exact name.wireLength_le
  readBack := by
    have place :
        Cursor.at (queryWire id name) 12 =
          ⟨12, name.wire ++ queryTrailer⟩ := by
      rw [Cursor.at, queryWire, List.append_assoc]
      rfl
    rw [place, Cursor.readName?_wire]
    rfl

/--
Queries agree when they ask for the same name, whatever their identifiers.
-/
theorem agree_queryWire_iff
    (id otherId : UInt16) (name other : Name) :
    QueryDiff.agree (queryWire id name) (queryWire otherId other) = true ↔
      name.labels.map Label.octets = other.labels.map Label.octets := by
  rw [QueryDiff.agree_eq_true_iff]
  constructor
  · intro same
    have named :
        name.wire ++ queryTrailer = other.wire ++ queryTrailer := by
      simp only [queryWire, List.append_assoc] at same
      exact (List.append_right_inj queryHeader).mp same
    rw [Name.wire_append_inj named]
  · intro same
    have injective : Function.Injective Label.octets :=
      fun _ _ => Label.ext_octets
    rw [Name.ext_labels (injective.list_map same)]
    simp only [queryWire, List.append_assoc]
    rfl

/-! ## Query names -/

theorem canonicalQuery_eq_ok_iff
    {queryName : String} {id : UInt16} {query : Octets} :
    canonicalQuery queryName id = .ok query ↔
      ∃ name, queriedName queryName = .ok name ∧
        queryWire id name = query := by
  unfold canonicalQuery
  cases queriedName queryName with
  | error reason => simp [Except.map]
  | ok name => simp [Except.map]

theorem isOk_canonicalQuery (queryName : String) (id : UInt16) :
    (canonicalQuery queryName id).isOk = (queriedName queryName).isOk := by
  unfold canonicalQuery
  cases queriedName queryName <;> rfl

theorem queriedName_lowercase (queryName : String) :
    queriedName (String.ofList (lowercase queryName.toList)) =
      queriedName queryName := by
  rw [queriedName, String.toList_ofList, lowercase_lowercase]
  rfl

theorem queriedName_append_dot
    {queryName : String} (nonempty : queryName ≠ "")
    (noEscape : '\\' ∉ queryName.toList)
    (noDot : queryName.toList.getLast? ≠ some '.') :
    queriedName (queryName ++ ".") = queriedName queryName := by
  have dot : ".".toList = ['.'] := rfl
  rw [queriedName, queriedName, String.toList_append, dot,
    lowercase_append_dot]
  apply Name.parse_append_dot
  · exact lowercase_ne_nil fun none => nonempty (String.toList_inj.mp none)
  · exact fun member =>
      noEscape (mem_of_mem_lowercaseAfter (by decide) (by decide) member)
  · exact fun last =>
      noDot
        (getLast?_of_getLast?_lowercaseAfter (by decide) (by decide) last)

/--
Whether a query name can be sent does not depend on the identifier, a query
that is sent has the name's labels in it and no more, and two queries agree
exactly when their labels do.  Lower-casing the query name first changes
nothing, nor does a dot behind a name that has no escapes and does not end in
one.
-/
theorem canonicalQuery_faithful
    (queryName other : String) (id otherId : UInt16) :
    (canonicalQuery queryName id).isOk =
        (canonicalQuery queryName otherId).isOk ∧
      (∀ query, canonicalQuery queryName id = .ok query →
        ∃ name part,
          Name.parse (lowercase queryName.toList) = .ok name ∧
            Encodes id name part query) ∧
      (∀ query otherQuery name otherName,
        canonicalQuery queryName id = .ok query →
          canonicalQuery other otherId = .ok otherQuery →
            Name.parse (lowercase queryName.toList) = .ok name →
              Name.parse (lowercase other.toList) = .ok otherName →
                (QueryDiff.agree query otherQuery = true ↔
                  name.labels.map Label.octets =
                    otherName.labels.map Label.octets)) ∧
      canonicalQuery (String.ofList (lowercase queryName.toList)) id =
        canonicalQuery queryName id ∧
      (queryName ≠ "" → '\\' ∉ queryName.toList →
        queryName.toList.getLast? ≠ some '.' →
          canonicalQuery (queryName ++ ".") id =
            canonicalQuery queryName id) := by
  refine ⟨?_, ?_, ?_, ?_, ?_⟩
  · rw [isOk_canonicalQuery, isOk_canonicalQuery]
  · intro query sent
    obtain ⟨name, parsed, rfl⟩ := canonicalQuery_eq_ok_iff.mp sent
    exact ⟨name, name.wire, parsed, encodes_queryWire id name⟩
  · intro query otherQuery name otherName sent otherSent parsed otherParsed
    have sentName : canonicalQuery queryName id = .ok (queryWire id name) :=
      canonicalQuery_eq_ok_iff.mpr ⟨name, parsed, rfl⟩
    have otherSentName :
        canonicalQuery other otherId = .ok (queryWire otherId otherName) :=
      canonicalQuery_eq_ok_iff.mpr ⟨otherName, otherParsed, rfl⟩
    cases sent.symm.trans sentName
    cases otherSent.symm.trans otherSentName
    exact agree_queryWire_iff id otherId name otherName
  · unfold canonicalQuery
    rw [queriedName_lowercase]
  · intro nonempty noEscape noDot
    unfold canonicalQuery
    rw [queriedName_append_dot nonempty noEscape noDot]

/--
The kelvin sign is a small k when it is asked for, and the final dot is no
label.
-/
theorem canonicalQuery_faithful_kelvin :
    (∃ name part,
      Name.parse (lowercase "\u212a.COM".toList) = .ok name ∧
        Encodes 7 name part
          [0, 7, 1, 0, 0, 1, 0, 0, 0, 0, 0, 0, 1, 107, 3, 99, 111, 109, 0,
            0, 1, 0, 1]) ∧
      QueryDiff.agree
          [0, 7, 1, 0, 0, 1, 0, 0, 0, 0, 0, 0, 1, 107, 3, 99, 111, 109, 0,
            0, 1, 0, 1]
          [2, 1, 1, 0, 0, 1, 0, 0, 0, 0, 0, 0, 1, 107, 3, 99, 111, 109, 0,
            0, 1, 0, 1] =
        true ∧
      canonicalQuery ("\u212a.COM" ++ ".") 7 =
        canonicalQuery "\u212a.COM" 7 := by
  obtain ⟨_, sent, agreement, _, finalDot⟩ :=
    canonicalQuery_faithful "\u212a.COM" "k.com." 7 513
  refine ⟨sent _ (by rfl), ?_, finalDot (by decide) (by decide) (by decide)⟩
  exact (agreement _ _ _ _ (by rfl) (by rfl) (by rfl) (by rfl)).mpr (by rfl)

end ResolverGrader.Dns
