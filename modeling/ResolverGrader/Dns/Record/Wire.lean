import ResolverGrader.Dns.Name.Wire
import ResolverGrader.Dns.Record

/-!
# Reading a record

A record on the wire is its name, the code of its type, a class, a time to
live, the number of octets of its data, and the data.  The data must take
exactly as many octets as were announced.  Names inside the data may be
compressed, so they are read from the message as a whole.
-/

namespace ResolverGrader.Dns

open ResolverGrader.Net

/-- Four octets as an address. -/
def ipv4OfOctets? : Octets → Option Ipv4
  | [first, second, third, fourth] => some ⟨first, second, third, fourth⟩
  | _ => none

/-- Octets in pairs as numbers of sixteen bits; an odd octet is left out. -/
def wordsOfOctets : Octets → List UInt16
  | high :: low :: rest =>
    UInt16.ofNat (high.toNat * 256 + low.toNat) :: wordsOfOctets rest
  | _ => []

/-- Sixteen octets as an address. -/
def ipv6OfOctets? (octets : Octets) : Option Ipv6 :=
  if sixteen : octets.length = 16 ∧ (wordsOfOctets octets).length = 8 then
    some ⟨wordsOfOctets octets, sixteen.2⟩
  else none

/-- Strings that each follow their length and fill the octets exactly. -/
def countedStrings? : Octets → Option (List Octets)
  | [] => some []
  | count :: rest =>
    if count.toNat ≤ rest.length then
      (countedStrings? (rest.drop count.toNat)).map
        (rest.take count.toNat :: ·)
    else none
termination_by octets => octets.length
decreasing_by simp only [List.length_drop, List.length_cons]; omega

/-- The number of octets in an address of a family. -/
def familySize? (high low : UInt8) : Option Nat :=
  if high = 0 ∧ low = 1 then some 4
  else if high = 0 ∧ low = 2 then some 16
  else none

/--
Whether octets tell the network of a client: a family of addresses, the length
of the network's part of an address, a scope, and every octet that this part
reaches into.  The octets after these are not looked at.
-/
def isClientNetwork : Octets → Bool
  | high :: low :: partLength :: _ :: address =>
    let reached := (partLength.toNat + 7) / 8
    match familySize? high low with
    | some size => reached ≤ size && reached ≤ address.length
    | none => false
  | _ => false

/--
Whether octets can be those of an option.  Only the network of a client, option
8, has a form of its own.
-/
def isOption (high low : UInt8) (octets : Octets) : Bool :=
  if high = 0 ∧ low = 8 then isClientNetwork octets else true

/--
Whether octets are a list of options, each a code, a length and as many octets.
The last one may be cut short after its code or inside its octets, but no
length exceeds the total.
-/
def areOptions (total : Nat) : Octets → Bool
  | [] => true
  | [_] => false
  | [_, _] => true
  | [_, _, _] => false
  | codeHigh :: codeLow :: high :: low :: rest =>
    let length := high.toNat * 256 + low.toNat
    length ≤ total &&
      (rest.length < length ||
        isOption codeHigh codeLow (rest.take length)) &&
      areOptions total (rest.drop length)
termination_by octets => octets.length
decreasing_by simp only [List.length_drop, List.length_cons]; omega

/-- Reads a name that ends exactly at a place. -/
def readNameUpTo? (message : Octets) (stop : Nat) (cursor : Cursor) :
    Option Name :=
  match cursor.readName? message with
  | some (name, after) => if after.position = stop then some name else none
  | none => none

/-- Reads the start of a zone that ends exactly at a place. -/
def readZoneStart? (message : Octets) (stop : Nat) (cursor : Cursor) :
    Option ZoneStart := do
  let (primary, cursor) ← cursor.readName? message
  let (mailbox, cursor) ← cursor.readName? message
  let (serial, cursor) ← cursor.readLong?
  let (refresh, cursor) ← cursor.readLong?
  let (retry, cursor) ← cursor.readLong?
  let (expire, cursor) ← cursor.readLong?
  let (minimum, cursor) ← cursor.readLong?
  if cursor.position = stop then
    return ⟨primary, mailbox, serial, refresh, retry, expire, minimum⟩
  else none

/--
Reads the preference and name of a mail exchange that ends exactly at a place.
-/
def readExchange? (message : Octets) (stop : Nat) (cursor : Cursor) :
    Option RecordData := do
  let (preference, cursor) ← cursor.readWord?
  return .mx preference (← readNameUpTo? message stop cursor)

/-- Reads the numbers and name of a service that ends exactly at a place. -/
def readService? (message : Octets) (stop : Nat) (cursor : Cursor) :
    Option RecordData := do
  let (priority, cursor) ← cursor.readWord?
  let (weight, cursor) ← cursor.readWord?
  let (port, cursor) ← cursor.readWord?
  return .srv priority weight port (← readNameUpTo? message stop cursor)

/-- Has a library read data that ends exactly at a place. -/
def readStructured?
    (library : Library)
    (message : Octets)
    (code : UInt16)
    (length place : Nat) :
    Option RecordData :=
  match library.structured? message code length place with
  | some (text, taken) =>
    if taken = length then some (.structured text) else none
  | none => none

/--
Reads data of a type, given the place and the octets it was announced to fill.
-/
def readData?
    (message : Octets)
    (type : RecordType)
    (octets : Octets)
    (cursor : Cursor)
    (library : Library := .plain) :
    Option RecordData :=
  let stop := cursor.position + octets.length
  match type with
  | .a => (ipv4OfOctets? octets).map .a
  | .ns => (readNameUpTo? message stop cursor).map .ns
  | .cname => (readNameUpTo? message stop cursor).map .cname
  | .soa => (readZoneStart? message stop cursor).map .soa
  | .ptr => (readNameUpTo? message stop cursor).map .ptr
  | .mx => readExchange? message stop cursor
  | .txt => (countedStrings? octets).map .txt
  | .aaaa => (ipv6OfOctets? octets).map .aaaa
  | .srv => readService? message stop cursor
  | .opt =>
    if areOptions octets.length octets then some (.options octets) else none
  | .structured code =>
    readStructured? library message code octets.length cursor.position
  | .unreadable => none
  | .raw => some (.raw octets)

/--
Reads a record.  A transport record belongs to the root, and a record without
octets of data has no data whatever its type.
-/
def Cursor.readRecord?
    (message : Octets)
    (cursor : Cursor)
    (library : Library := .plain) :
    Option (Record × Cursor) := do
  let (owner, cursor) ← cursor.readName? message
  let (code, cursor) ← cursor.readWord?
  let type := RecordType.ofCode code
  if type = .opt ∧ owner ≠ .root then none
  let (_, cursor) ← cursor.readWord?
  let (_, cursor) ← cursor.readLong?
  let (length, cursor) ← cursor.readWord?
  let (octets, after) ← cursor.readOctets? length.toNat
  let data ←
    if octets = [] then some .absent
    else readData? message type octets cursor library
  return (⟨owner, code, data⟩, after)

end ResolverGrader.Dns
