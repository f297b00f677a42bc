import ResolverGrader.Dns.Name
import ResolverGrader.Net.Address
import ResolverGrader.Text.Octets
import ResolverGrader.Text.Utf8

/-!
# Resource records

A record binds data of some type to a name.  The data of the types that matter
to a stub resolver is read here; structured data of other types is read by a
library, which leaves its text; data of a type that nobody knows is just
octets; and a record may have no data at all, as in an update.

`RecordData.characters?` is the text of the data.  The options of a transport
record are the one kind of data that has none.
-/

namespace ResolverGrader.Dns

open ResolverGrader.Net ResolverGrader.Text

/-- The types of data that are told apart. -/
inductive RecordType where
  | a
  | ns
  | cname
  | soa
  | ptr
  | mx
  | txt
  | aaaa
  | srv
  | opt
  /-- Types whose data is read and shown by a library. -/
  | structured (code : UInt16)
  /-- Types that exist in questions only: they have no data. -/
  | unreadable
  /-- Every other type: its data is any octets. -/
  | raw
  deriving DecidableEq, Repr

/--
Codes of types whose records cannot be read: the empty type and the types of
transfers and of any data.
-/
def unreadableCodes : List Nat := [0, 251, 252, 255]

/--
Codes of the structured types that are not among the constructors above: hosts,
naming authorities, certificates, keys and their fingerprints, service
bindings, authorized issuers and aliases of zones.
-/
def structuredCodes : List Nat :=
  [13, 35, 37, 44, 52, 61, 62, 64, 65, 257, 65305]

/-- The type with a given code. -/
def RecordType.ofCode (code : UInt16) : RecordType :=
  match code.toNat with
  | 1 => .a
  | 2 => .ns
  | 5 => .cname
  | 6 => .soa
  | 12 => .ptr
  | 15 => .mx
  | 16 => .txt
  | 28 => .aaaa
  | 33 => .srv
  | 41 => .opt
  | other =>
    if unreadableCodes.contains other then .unreadable
    else if structuredCodes.contains other then .structured code
    else .raw

/-- The start of a zone of authority. -/
structure ZoneStart where
  primary : Name
  mailbox : Name
  serial : UInt32
  refresh : UInt32
  retry : UInt32
  expire : UInt32
  minimum : UInt32
  deriving DecidableEq, Repr

/-- The data of a record. -/
inductive RecordData where
  | absent
  | a (address : Ipv4)
  | ns (server : Name)
  | cname (target : Name)
  | soa (zone : ZoneStart)
  | ptr (target : Name)
  | mx (preference : UInt16) (exchange : Name)
  | txt (strings : List Octets)
  | aaaa (address : Ipv6)
  | srv (priority weight port : UInt16) (target : Name)
  | options (octets : Octets)
  | structured (text : List Char)
  | raw (octets : Octets)
  deriving DecidableEq, Repr

/-- A record: the name it belongs to, the code of its type, and its data. -/
structure Record where
  owner : Name
  code : UInt16
  data : RecordData
  deriving DecidableEq, Repr

/-- Parts with a space between each two of them. -/
def spaced (parts : List (List Char)) : List Char :=
  List.intercalate [' '] parts

/--
The text of a zone's start; intervals are signed numbers of thirty-two bits.
-/
def ZoneStart.characters (zone : ZoneStart) (library : Library := .plain) :
    List Char :=
  let interval := fun (word : UInt32) => (toString word.toInt32.toInt).toList
  spaced [zone.primary.characters library, zone.mailbox.characters library,
    decimalDigits zone.serial.toNat, interval zone.refresh,
    interval zone.retry, interval zone.expire,
    decimalDigits zone.minimum.toNat]

/-- The text of a record's data, if it has one. -/
def RecordData.characters? (data : RecordData) (library : Library := .plain) :
    Option (List Char) :=
  match data with
  | .absent => some "UPDATE".toList
  | .a address => some address.characters
  | .ns name | .cname name | .ptr name => some (name.characters library)
  | .soa zone => some (zone.characters library)
  | .mx preference exchange =>
    some (spaced [decimalDigits preference.toNat,
      exchange.characters library])
  | .txt strings => some (strings.flatMap Utf8.decode)
  | .aaaa address => some address.characters
  | .srv priority weight port target =>
    some (spaced [decimalDigits priority.toNat, decimalDigits weight.toNat,
      decimalDigits port.toNat, target.characters library])
  | .options _ => none
  | .structured text => some text
  | .raw octets => some (Base64.encode octets)

/--
A record's data has a text unless it is the options of a transport record.
-/
theorem RecordData.characters?_eq_none_iff
    (data : RecordData) (library : Library) :
    data.characters? library = none ↔
      ∃ octets, data = .options octets := by
  cases data <;> simp [RecordData.characters?]

end ResolverGrader.Dns
