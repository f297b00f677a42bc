import ResolverGrader.Dns.Record.Wire
import ResolverGrader.Proofs.Dns.Name.Compression

/-!
# Records in a message

What it means that a record stands at a place of a message, without a word on
how it is read: its name, its numbers and its data follow one another, and the
data fill exactly the octets that were announced for them.
`Cursor.readRecord?_at_iff` says that these records are the ones that are read.
-/

namespace ResolverGrader.Dns

open ResolverGrader.Net

/-! ## Data -/

/-- A string behind its length. -/
def counted (string : Octets) : Octets :=
  UInt8.ofNat string.length :: string

theorem length_of_short
    {string : Octets} (short : string.length ≤ 255) :
    (UInt8.ofNat string.length).toNat = string.length :=
  UInt8.toNat_ofNat_of_lt' (Nat.lt_succ_of_le short)

/-- A counted string is read first, whatever follows it. -/
theorem countedStrings?_counted_append
    {string : Octets} (short : string.length ≤ 255) (rest : Octets) :
    countedStrings? (counted string ++ rest) =
      (countedStrings? rest).map (string :: ·) := by
  rw [counted, List.cons_append, countedStrings?, length_of_short short,
    if_pos (by simp), List.take_left, List.drop_left]

theorem countedStrings?_flatMap_counted
    {strings : List Octets}
    (short : ∀ string ∈ strings, string.length ≤ 255) :
    countedStrings? (strings.flatMap counted) = some strings := by
  induction strings with
  | nil => rw [List.flatMap_nil, countedStrings?]
  | cons string strings ih =>
      obtain ⟨here, later⟩ := List.forall_mem_cons.mp short
      rw [List.flatMap_cons, countedStrings?_counted_append here, ih later,
        Option.map_some]

theorem flatMap_counted_of_countedStrings?
    {run : Octets} {strings : List Octets}
    (read : countedStrings? run = some strings) :
    run = strings.flatMap counted ∧
      ∀ string ∈ strings, string.length ≤ 255 := by
  fun_induction countedStrings? run generalizing strings with
  | case1 =>
      cases read
      exact ⟨rfl, List.forall_mem_nil _⟩
  | case2 count rest enough ih =>
      obtain ⟨strings, later, rfl⟩ := Option.map_eq_some_iff.mp read
      obtain ⟨filled, short⟩ := ih later
      have length : (rest.take count.toNat).length = count.toNat :=
        List.length_take_of_le enough
      have bound := count.toNat_lt
      refine ⟨?_, List.forall_mem_cons.mpr ⟨by omega, short⟩⟩
      rw [List.flatMap_cons, ← filled, counted, length, UInt8.ofNat_toNat,
        List.cons_append, List.take_append_drop]
  | case3 => cases read

theorem countedStrings?_eq_some_iff {run : Octets} {strings : List Octets} :
    countedStrings? run = some strings ↔
      run = strings.flatMap counted ∧
        ∀ string ∈ strings, string.length ≤ 255 := by
  constructor
  · exact flatMap_counted_of_countedStrings?
  · rintro ⟨rfl, short⟩
    exact countedStrings?_flatMap_counted short

/-- The start of a zone at a place, and the place behind it. -/
inductive ZoneStartAt (octets : Octets) (place : Nat) :
    ZoneStart → Nat → Prop where
  | intro
      {zone : ZoneStart} {second numbers : Nat}
      (primary : NameAt octets place zone.primary second)
      (mailbox : NameAt octets second zone.mailbox numbers)
      (serial : LongAt octets numbers zone.serial)
      (refresh : LongAt octets (numbers + 4) zone.refresh)
      (retry : LongAt octets (numbers + 8) zone.retry)
      (expire : LongAt octets (numbers + 12) zone.expire)
      (minimum : LongAt octets (numbers + 16) zone.minimum) :
      ZoneStartAt octets place zone (numbers + 20)

/--
Data of a type in a run of octets that begins at a place; names in it may use
the message, and a library what it likes of it.
-/
inductive DataAt
    (library : Library) (octets : Octets) (place : Nat) (run : Octets) :
    RecordType → RecordData → Prop where
  | a
      {first second third fourth : UInt8}
      (holds : run = [first, second, third, fourth]) :
      DataAt library octets place run .a (.a ⟨first, second, third, fourth⟩)
  | ns
      {server : Name}
      (named : NameAt octets place server (place + run.length)) :
      DataAt library octets place run .ns (.ns server)
  | cname
      {target : Name}
      (named : NameAt octets place target (place + run.length)) :
      DataAt library octets place run .cname (.cname target)
  | soa
      {zone : ZoneStart}
      (starts : ZoneStartAt octets place zone (place + run.length)) :
      DataAt library octets place run .soa (.soa zone)
  | ptr
      {target : Name}
      (named : NameAt octets place target (place + run.length)) :
      DataAt library octets place run .ptr (.ptr target)
  | mx
      {preference : UInt16} {exchange : Name}
      (preferred : WordAt octets place preference)
      (named : NameAt octets (place + 2) exchange (place + run.length)) :
      DataAt library octets place run .mx (.mx preference exchange)
  | txt
      {strings : List Octets}
      (holds : run = strings.flatMap counted)
      (short : ∀ string ∈ strings, string.length ≤ 255) :
      DataAt library octets place run .txt (.txt strings)
  | aaaa
      {address : Ipv6}
      (sixteen : run.length = 16)
      (holds : wordsOfOctets run = address.groups) :
      DataAt library octets place run .aaaa (.aaaa address)
  | srv
      {priority weight port : UInt16} {target : Name}
      (first : WordAt octets place priority)
      (second : WordAt octets (place + 2) weight)
      (third : WordAt octets (place + 4) port)
      (named : NameAt octets (place + 6) target (place + run.length)) :
      DataAt library octets place run .srv (.srv priority weight port target)
  | options
      (holds : areOptions run.length run = true) :
      DataAt library octets place run .opt (.options run)
  | structured
      {code : UInt16} {text : List Char}
      (reads :
        library.structured? octets code run.length place =
          some (text, run.length)) :
      DataAt library octets place run (.structured code) (.structured text)
  | raw : DataAt library octets place run .raw (.raw run)

section

variable {library : Library} {octets run : Octets} {place stop : Nat}

theorem readNameUpTo?_at_iff {name : Name} :
    readNameUpTo? octets stop (.at octets place) = some name ↔
      NameAt octets place name stop := by
  unfold readNameUpTo?
  constructor
  · intro read
    split at read
    · next found after named =>
      obtain ⟨behind, stands, rfl⟩ := Cursor.readName?_at_iff.mp named
      split at read
      · next stops =>
        cases read
        exact (stops : behind = stop) ▸ stands
      · cases read
    · cases read
  · intro stands
    rw [Cursor.readName?_at_iff.mpr ⟨stop, stands, rfl⟩]
    exact if_pos rfl

theorem readZoneStart?_at_iff {zone : ZoneStart} :
    readZoneStart? octets stop (.at octets place) = some zone ↔
      ZoneStartAt octets place zone stop := by
  simp only [readZoneStart?, Option.bind_eq_bind, Option.bind_eq_some_iff,
    Prod.exists, Cursor.readName?_at_iff]
  constructor
  · rintro ⟨_, _, ⟨second, primary, rfl⟩, _, _, mailboxRead, _, _,
      serialRead, _, _, refreshRead, _, _, retryRead, _, _, expireRead,
      _, _, minimumRead, read⟩
    obtain ⟨numbers, mailbox, rfl⟩ := Cursor.readName?_at_iff.mp mailboxRead
    obtain ⟨serial, rfl⟩ := Cursor.readLong?_at_iff.mp serialRead
    obtain ⟨refresh, rfl⟩ := Cursor.readLong?_at_iff.mp refreshRead
    obtain ⟨retry, rfl⟩ := Cursor.readLong?_at_iff.mp retryRead
    obtain ⟨expire, rfl⟩ := Cursor.readLong?_at_iff.mp expireRead
    obtain ⟨minimum, rfl⟩ := Cursor.readLong?_at_iff.mp minimumRead
    split at read
    · next stops =>
      cases read
      rw [← stops]
      exact .intro primary mailbox serial refresh retry expire minimum
    · cases read
  · intro stands
    cases stands with
    | intro primary mailbox serial refresh retry expire minimum =>
      exact ⟨_, _, ⟨_, primary, rfl⟩,
        _, _, Cursor.readName?_at_iff.mpr ⟨_, mailbox, rfl⟩,
        _, _, Cursor.readLong?_at_iff.mpr ⟨serial, rfl⟩,
        _, _, Cursor.readLong?_at_iff.mpr ⟨refresh, rfl⟩,
        _, _, Cursor.readLong?_at_iff.mpr ⟨retry, rfl⟩,
        _, _, Cursor.readLong?_at_iff.mpr ⟨expire, rfl⟩,
        _, _, Cursor.readLong?_at_iff.mpr ⟨minimum, rfl⟩,
        if_pos rfl⟩

theorem readExchange?_at_iff {data : RecordData} :
    readExchange? octets (place + run.length) (.at octets place) =
        some data ↔
      DataAt library octets place run .mx data := by
  simp only [readExchange?, Option.bind_eq_bind, Option.bind_eq_some_iff,
    Prod.exists, Cursor.readWord?_at_iff]
  constructor
  · rintro ⟨_, _, ⟨preferred, rfl⟩, _, named, read⟩
    cases read
    exact .mx preferred (readNameUpTo?_at_iff.mp named)
  · intro stands
    cases stands with
    | mx preferred named =>
      exact ⟨_, _, ⟨preferred, rfl⟩, _, readNameUpTo?_at_iff.mpr named, rfl⟩

theorem readService?_at_iff {data : RecordData} :
    readService? octets (place + run.length) (.at octets place) =
        some data ↔
      DataAt library octets place run .srv data := by
  simp only [readService?, Option.bind_eq_bind, Option.bind_eq_some_iff,
    Prod.exists, Cursor.readWord?_at_iff]
  constructor
  · rintro ⟨_, _, ⟨first, rfl⟩, _, _, secondRead, _, _, thirdRead, _, named,
      read⟩
    obtain ⟨second, rfl⟩ := Cursor.readWord?_at_iff.mp secondRead
    obtain ⟨third, rfl⟩ := Cursor.readWord?_at_iff.mp thirdRead
    cases read
    exact .srv first second third (readNameUpTo?_at_iff.mp named)
  · intro stands
    cases stands with
    | srv first second third named =>
      exact ⟨_, _, ⟨first, rfl⟩,
        _, _, Cursor.readWord?_at_iff.mpr ⟨second, rfl⟩,
        _, _, Cursor.readWord?_at_iff.mpr ⟨third, rfl⟩,
        _, readNameUpTo?_at_iff.mpr named, rfl⟩

theorem ipv4OfOctets?_eq_some_iff {address : Ipv4} :
    ipv4OfOctets? run = some address ↔
      run = [address.first, address.second, address.third,
        address.fourth] := by
  unfold ipv4OfOctets?
  split
  · rw [Option.some.injEq]
    constructor
    · rintro rfl
      rfl
    · intro same
      cases address
      cases same
      rfl
  · next other =>
    constructor
    · nofun
    · intro four
      exact absurd four (other _ _ _ _)

theorem ipv6OfOctets?_eq_some_iff {address : Ipv6} :
    ipv6OfOctets? run = some address ↔
      run.length = 16 ∧ wordsOfOctets run = address.groups := by
  unfold ipv6OfOctets?
  split
  · next sixteen =>
    rw [Option.some.injEq]
    constructor
    · rintro rfl
      exact ⟨sixteen.1, rfl⟩
    · rintro ⟨_, same⟩
      cases address
      cases same
      rfl
  · next other =>
    constructor
    · nofun
    · rintro ⟨sixteen, same⟩
      exact absurd ⟨sixteen, same ▸ address.length_groups⟩ other

theorem readStructured?_at_iff {code : UInt16} {data : RecordData} :
    readStructured? library octets code run.length place = some data ↔
      DataAt library octets place run (.structured code) data := by
  unfold readStructured?
  constructor
  · intro read
    split at read
    · next text taken reads =>
      split at read
      · next exactly =>
        cases read
        exact .structured (exactly ▸ reads)
      · cases read
    · cases read
  · intro stands
    cases stands with
    | structured reads =>
      rw [reads]
      exact if_pos rfl

theorem readData?_at_iff {type : RecordType} {data : RecordData} :
    readData? octets type run (.at octets place) library = some data ↔
      DataAt library octets place run type data := by
  cases type with
  | a =>
      simp only [readData?, Option.map_eq_some_iff, ipv4OfOctets?_eq_some_iff]
      constructor
      · rintro ⟨_, holds, rfl⟩
        exact .a holds
      · rintro ⟨⟩
        exact ⟨_, ‹_›, rfl⟩
  | ns | cname | ptr =>
      simp only [readData?, Option.map_eq_some_iff, Cursor.position_at,
        readNameUpTo?_at_iff]
      constructor
      · rintro ⟨_, named, rfl⟩
        constructor
        exact named
      · rintro ⟨⟩
        exact ⟨_, ‹_›, rfl⟩
  | soa =>
      simp only [readData?, Option.map_eq_some_iff, Cursor.position_at,
        readZoneStart?_at_iff]
      constructor
      · rintro ⟨_, starts, rfl⟩
        exact .soa starts
      · rintro ⟨⟩
        exact ⟨_, ‹_›, rfl⟩
  | mx => exact readExchange?_at_iff
  | srv => exact readService?_at_iff
  | txt =>
      simp only [readData?, Option.map_eq_some_iff,
        countedStrings?_eq_some_iff]
      constructor
      · rintro ⟨_, ⟨holds, short⟩, rfl⟩
        exact .txt holds short
      · rintro ⟨⟩
        exact ⟨_, ⟨‹_›, ‹_›⟩, rfl⟩
  | aaaa =>
      simp only [readData?, Option.map_eq_some_iff, ipv6OfOctets?_eq_some_iff]
      constructor
      · rintro ⟨_, ⟨sixteen, holds⟩, rfl⟩
        exact .aaaa sixteen holds
      · rintro ⟨⟩
        exact ⟨_, ⟨‹_›, ‹_›⟩, rfl⟩
  | opt =>
      simp only [readData?]
      constructor
      · intro read
        split at read
        · next holds =>
          cases read
          exact .options holds
        · cases read
      · rintro ⟨⟩
        exact if_pos ‹_›
  | structured code => exact readStructured?_at_iff
  | unreadable =>
      constructor
      · nofun
      · nofun
  | raw =>
      constructor
      · intro read
        cases read
        exact .raw
      · rintro ⟨⟩
        rfl

theorem ZoneStartAt.append
    {zone : ZoneStart} (stands : ZoneStartAt octets place zone stop)
    (following : Octets) :
    ZoneStartAt (octets ++ following) place zone stop := by
  cases stands with
  | intro primary mailbox serial refresh retry expire minimum =>
    exact .intro (primary.append following) (mailbox.append following)
      (serial.append following) (refresh.append following)
      (retry.append following) (expire.append following)
      (minimum.append following)

/-- What one library reads in octets, another one reads in longer octets. -/
structure Carries
    (library : Library) (octets : Octets) (other : Library)
    (longer : Octets) : Prop where
  isPrefix : octets <+: longer
  structured :
    ∀ {code : UInt16} {length place : Nat} {text : List Char},
      place + length ≤ octets.length →
        library.structured? octets code length place =
            some (text, length) →
          other.structured? longer code length place =
            some (text, length)

theorem carries_append
    (library : Library) (octets following : Octets) :
    Carries library octets library (octets ++ following) where
  isPrefix := List.prefix_append octets following
  structured inside read :=
    library.structured?_append inside read following

/-- What is read without a library is read with any. -/
theorem carries_plain (library : Library) (octets : Octets) :
    Carries .plain octets library octets where
  isPrefix := List.prefix_rfl
  structured _ read := nomatch read

theorem DataAt.mono
    {other : Library} {longer : Octets}
    (carries : Carries library octets other longer)
    {type : RecordType} {data : RecordData}
    (stands : DataAt library octets place run type data)
    (inside : place + run.length ≤ octets.length) :
    DataAt other longer place run type data := by
  obtain ⟨following, rfl⟩ := carries.isPrefix
  cases stands with
  | a holds => exact .a holds
  | ns named => exact .ns (named.append following)
  | cname named => exact .cname (named.append following)
  | soa starts => exact .soa (starts.append following)
  | ptr named => exact .ptr (named.append following)
  | mx preferred named =>
      exact .mx (preferred.append following) (named.append following)
  | txt holds short => exact .txt holds short
  | aaaa sixteen holds => exact .aaaa sixteen holds
  | srv first second third named =>
      exact .srv (first.append following) (second.append following)
        (third.append following) (named.append following)
  | options holds => exact .options holds
  | structured reads => exact .structured (carries.structured inside reads)
  | raw => exact .raw

/-- Only a transport record has options. -/
theorem DataAt.eq_options_iff
    {type : RecordType} {data : RecordData}
    (stands : DataAt library octets place run type data) :
    (∃ options, data = .options options) ↔ type = .opt := by
  cases stands <;> simp

theorem DataAt.ne_absent
    {type : RecordType} {data : RecordData}
    (stands : DataAt library octets place run type data) : data ≠ .absent := by
  cases stands <;> nofun

end

/-! ## Records -/

/-- The code of transport records. -/
theorem RecordType.ofCode_eq_opt_iff (code : UInt16) :
    RecordType.ofCode code = .opt ↔ code = 41 := by
  rw [← UInt16.toNat_inj, RecordType.ofCode]
  split
  case h_11 other others =>
    split
    · simp_all
    · split <;> simp_all
  all_goals simp_all

/--
A record between two places; its name ends at `body` and its data are `run`.
-/
structure RecordSpan
    (library : Library) (octets : Octets) (start body : Nat) (run : Octets)
    (record : Record) (stop : Nat) : Prop where
  owner : NameAt octets start record.owner body
  code : WordAt octets body record.code
  group : ∃ group, WordAt octets (body + 2) group
  life : ∃ life, LongAt octets (body + 4) life
  length : CountAt octets (body + 8) run.length
  holds : RunAt octets (body + 10) run
  stops : body + 10 + run.length = stop
  /-- A transport record belongs to the root. -/
  rooted : record.code = 41 → record.owner = .root
  /-- A record without octets of data has no data, whatever its type. -/
  absent : record.data = .absent ↔ run = []
  present :
    run ≠ [] →
      DataAt library octets (body + 10) run (.ofCode record.code) record.data

/-- A record at a place, and the place behind it. -/
def RecordAt
    (library : Library) (octets : Octets) (start : Nat) (record : Record)
    (stop : Nat) : Prop :=
  ∃ body run, RecordSpan library octets start body run record stop

section

variable {library : Library} {octets : Octets} {start stop : Nat}
  {record : Record}

theorem RecordAt.mono
    {other : Library} {longer : Octets}
    (carries : Carries library octets other longer)
    (stands : RecordAt library octets start record stop) :
    RecordAt other longer start record stop := by
  obtain ⟨following, rfl⟩ := carries.isPrefix
  obtain ⟨body, run, span⟩ := stands
  obtain ⟨group, grouped⟩ := span.group
  obtain ⟨life, lives⟩ := span.life
  have inside := span.holds.le_length span.length.le_length
  exact ⟨body, run, {
    owner := span.owner.append following
    code := span.code.append following
    group := ⟨group, grouped.append following⟩
    life := ⟨life, lives.append following⟩
    length := span.length.append following
    holds := span.holds.append following
    stops := span.stops
    rooted := span.rooted
    absent := span.absent
    present := fun filled => (span.present filled).mono carries inside }⟩

/-- A record takes at least eleven octets, and none behind the end. -/
theorem RecordAt.bounds
    (stands : RecordAt library octets start record stop) :
    start + 11 ≤ stop ∧ stop ≤ octets.length := by
  obtain ⟨body, run, span⟩ := stands
  have named := span.owner.bounds.1
  have within := span.length.le_length
  have ends := span.holds.le_length within
  rw [← span.stops]
  omega

/-- The records with options are the transport records that have data. -/
theorem RecordAt.eq_options_iff
    (stands : RecordAt library octets start record stop) :
    (∃ options, record.data = .options options) ↔
      record.code = 41 ∧ record.data ≠ .absent := by
  obtain ⟨body, run, span⟩ := stands
  rw [← RecordType.ofCode_eq_opt_iff, Ne, span.absent]
  by_cases empty : run = []
  · rw [span.absent.mpr empty]
    simp [empty]
  · rw [(span.present empty).eq_options_iff]
    simp [empty]

theorem Cursor.readRecord?_at_iff {after : Cursor} :
    (Cursor.at octets start).readRecord? octets library =
        some (record, after) ↔
      ∃ stop, RecordAt library octets start record stop ∧
        after = .at octets stop := by
  simp only [readRecord?, Option.bind_eq_bind, Option.bind_eq_some_iff,
    Prod.exists, readName?_at_iff]
  constructor
  · rintro ⟨owner, _, ⟨body, owned, rfl⟩, code, _, codeRead, read⟩
    obtain ⟨coded, rfl⟩ := readWord?_at_iff.mp codeRead
    split at read
    · cases read
    · next rooted =>
      simp only [Option.bind_eq_some_iff, Prod.exists] at read
      obtain ⟨group, _, groupRead, life, _, lifeRead, length, _, lengthRead,
        run, behind, runRead, read⟩ := read
      obtain ⟨grouped, rfl⟩ := readWord?_at_iff.mp groupRead
      obtain ⟨lives, rfl⟩ := readLong?_at_iff.mp lifeRead
      obtain ⟨measured, rfl⟩ := readWord?_at_iff.mp lengthRead
      obtain ⟨holds, filled, rfl⟩ := readOctets?_at_iff.mp runRead
      have span (data : RecordData)
          (absent : data = .absent ↔ run = [])
          (present :
            run ≠ [] →
              DataAt library octets (body + 10) run (.ofCode code) data) :
          RecordAt library octets start ⟨owner, code, data⟩
            (body + 10 + length.toNat) :=
        ⟨body, run, {
          owner := owned
          code := coded
          group := ⟨group, grouped⟩
          life := ⟨life, lives⟩
          length := ⟨length, measured, filled.symm⟩
          holds := holds
          stops := by rw [filled]
          rooted := fun transport =>
            Decidable.byContradiction fun other =>
              rooted ⟨(RecordType.ofCode_eq_opt_iff code).mpr transport, other⟩
          absent := absent
          present := present }⟩
      split at read
      · next empty =>
        cases read
        exact ⟨_, span .absent (iff_of_true rfl empty) (absurd empty), rfl⟩
      · next nonempty =>
        obtain ⟨data, dataRead, same⟩ := Option.bind_eq_some_iff.mp read
        cases same
        have stands := readData?_at_iff.mp dataRead
        exact ⟨_, span data (iff_of_false stands.ne_absent nonempty)
          fun _ => stands, rfl⟩
  · rintro ⟨_, ⟨body, run, span⟩, rfl⟩
    obtain ⟨group, grouped⟩ := span.group
    obtain ⟨life, lives⟩ := span.life
    obtain ⟨length, measured, filled⟩ := span.length
    have rooted :
        ¬(RecordType.ofCode record.code = .opt ∧ record.owner ≠ .root) :=
      fun ⟨transport, other⟩ =>
        other (span.rooted
          ((RecordType.ofCode_eq_opt_iff record.code).mp transport))
    refine ⟨record.owner, _, ⟨body, span.owner, rfl⟩, record.code, _,
      readWord?_at_iff.mpr ⟨span.code, rfl⟩, ?_⟩
    rw [if_neg rooted]
    simp only [Option.bind_eq_some_iff, Prod.exists]
    refine ⟨group, _, readWord?_at_iff.mpr ⟨grouped, rfl⟩,
      life, _, readLong?_at_iff.mpr ⟨lives, rfl⟩,
      length, _, readWord?_at_iff.mpr ⟨measured, rfl⟩,
      run, _, readOctets?_at_iff.mpr ⟨span.holds, filled.symm, rfl⟩, ?_⟩
    rw [← span.stops, ← filled]
    split
    · next empty =>
      have same : record = ⟨record.owner, record.code, .absent⟩ := by
        rw [← span.absent.mpr empty]
      rw [same]
      rfl
    · next nonempty =>
      rw [readData?_at_iff.mpr (span.present nonempty)]
      rfl

end

end ResolverGrader.Dns
