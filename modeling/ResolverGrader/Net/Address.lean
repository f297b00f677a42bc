import ResolverGrader.Text.Digits

/-!
# Internet addresses

Addresses of both versions and addresses with a port, with the texts that they
are shown by and read from.
-/

namespace ResolverGrader.Net

open ResolverGrader.Text

/-!
## Internet addresses and their text

Addresses of both versions, addresses with a port, and the text they are shown
by.  An IPv6 address shows its groups without leading zeros and its first
longest run of two or more zero groups as `::`; an address that embeds an IPv4
address after `::ffff:` shows that part in dotted form.
-/

/-- An IPv4 address: four octets. -/
structure Ipv4 where
  first : UInt8
  second : UInt8
  third : UInt8
  fourth : UInt8
  deriving DecidableEq, Repr

/-- An IPv6 address: eight groups of sixteen bits. -/
structure Ipv6 where
  groups : List UInt16
  length_groups : groups.length = 8
  deriving DecidableEq, Repr

/-- An address of either version. -/
inductive IpAddress where
  | v4 (address : Ipv4)
  | v6 (address : Ipv6)
  deriving DecidableEq, Repr

/--
An address with a port; an IPv6 address may be confined to a scope, zero
meaning none.
-/
inductive SocketAddress where
  | v4 (address : Ipv4) (port : UInt16)
  | v6 (address : Ipv6) (scope : UInt32) (port : UInt16)
  deriving DecidableEq, Repr

/-- The address without its port. -/
def SocketAddress.ip : SocketAddress → IpAddress
  | .v4 address _ => .v4 address
  | .v6 address _ _ => .v6 address

/-- The port in an address. -/
def SocketAddress.port : SocketAddress → UInt16
  | .v4 _ port => port
  | .v6 _ _ port => port

/-- An address and a port, outside any scope. -/
def SocketAddress.of : IpAddress → UInt16 → SocketAddress
  | .v4 address, port => .v4 address port
  | .v6 address, port => .v6 address 0 port

/-- The address of the local host. -/
def Ipv4.loopback : Ipv4 := ⟨127, 0, 0, 1⟩

/-- The octets of an IPv4 address. -/
def Ipv4.octets (address : Ipv4) : Octets :=
  [address.first, address.second, address.third, address.fourth]

/-- The dotted text of an IPv4 address. -/
def Ipv4.characters (address : Ipv4) : List Char :=
  List.intercalate ['.']
    (address.octets.map fun octet => decimalDigits octet.toNat)

/-- The two groups that an IPv4 address fills. -/
def Ipv4.groups (address : Ipv4) : List UInt16 :=
  [address.first.toUInt16 * 256 + address.second.toUInt16,
    address.third.toUInt16 * 256 + address.fourth.toUInt16]

/-- The IPv4 address that two groups hold. -/
def Ipv4.ofGroups (high low : UInt16) : Ipv4 :=
  ⟨(high / 256).toUInt8, (high % 256).toUInt8,
    (low / 256).toUInt8, (low % 256).toUInt8⟩

/-- The number of zero groups from a position on. -/
def zerosFrom (groups : List UInt16) (position : Nat) : Nat :=
  ((groups.drop position).takeWhile (· = 0)).length

/-- The position and length of the first longest run of zero groups. -/
def longestZeroRun (groups : List UInt16) : Nat × Nat :=
  (List.range groups.length).foldl
    (fun best position =>
      if best.2 < zerosFrom groups position then
        (position, zerosFrom groups position)
      else best)
    (0, 0)

/-- Groups in hexadecimal with colons between them. -/
def groupCharacters (groups : List UInt16) : List Char :=
  List.intercalate [':']
    (groups.map fun group => hexadecimalDigits group.toNat)

/-- The text of an IPv6 address. -/
def Ipv6.characters (address : Ipv6) : List Char :=
  match address.groups with
  | [0, 0, 0, 0, 0, 0xffff, high, low] =>
    "::ffff:".toList ++ (Ipv4.ofGroups high low).characters
  | groups =>
    let (start, length) := longestZeroRun groups
    if 1 < length then
      groupCharacters (groups.take start) ++ [':', ':'] ++
        groupCharacters (groups.drop (start + length))
    else groupCharacters groups

/-- The text of an address. -/
def IpAddress.characters : IpAddress → List Char
  | .v4 address => address.characters
  | .v6 address => address.characters

/--
The text of an address with its port: brackets around IPv6, a scope after a
percent sign.
-/
def SocketAddress.characters : SocketAddress → List Char
  | .v4 address port => address.characters ++ ':' :: decimalDigits port.toNat
  | .v6 address scope port =>
    '[' :: address.characters ++
      (if scope = 0 then [] else '%' :: decimalDigits scope.toNat) ++
      ']' :: ':' :: decimalDigits port.toNat

/-- The text of an address. -/
def IpAddress.text (address : IpAddress) : String :=
  String.ofList address.characters

/-- The text of an address with its port. -/
def SocketAddress.text (address : SocketAddress) : String :=
  String.ofList address.characters

/-- Whether an address names every interface of the host. -/
def IpAddress.isUnspecified : IpAddress → Bool
  | .v4 address => address = ⟨0, 0, 0, 0⟩
  | .v6 address => address.groups.all (· = 0)

/-!
## Reading addresses

A reader takes what it can from the beginning of a text and returns the rest;
the parsers at the end accept a text only when nothing is left.

Octets of an IPv4 address have at most three digits and no leading zeros,
groups of an IPv6 address at most four.  `::` stands for at least one zero
group.  The last two groups may be written as an IPv4 address, but not before a
`::`.
-/

/-- An octet in decimal. -/
def octetForm : NumberForm := ⟨10, some 3, 256, false⟩

/-- A group in hexadecimal. -/
def groupForm : NumberForm := ⟨16, some 4, 65536, true⟩

/-- A port in decimal. -/
def portForm : NumberForm := ⟨10, none, 65536, true⟩

/-- A scope in decimal. -/
def scopeForm : NumberForm := ⟨10, none, 4294967296, true⟩

/-- Reads one given character. -/
def readChar? (expected : Char) : List Char → Option (List Char)
  | [] => none
  | character :: rest => if character = expected then some rest else none

/-- Reads one octet. -/
def readOctet? (text : List Char) : Option (UInt8 × List Char) :=
  (octetForm.read? text).map fun (number, rest) => (UInt8.ofNat number, rest)

/-- Reads one group. -/
def readGroup? (text : List Char) : Option (UInt16 × List Char) :=
  (groupForm.read? text).map fun (number, rest) => (UInt16.ofNat number, rest)

/-- Reads an IPv4 address. -/
def readIpv4? (text : List Char) : Option (Ipv4 × List Char) := do
  let (first, rest) ← readOctet? text
  let (second, rest) ← readOctet? (← readChar? '.' rest)
  let (third, rest) ← readOctet? (← readChar? '.' rest)
  let (fourth, rest) ← readOctet? (← readChar? '.' rest)
  return (⟨first, second, third, fourth⟩, rest)

/-- Groups read from the beginning of a text. -/
structure GroupsRead where
  groups : List UInt16
  /-- Whether the last two groups were written as an IPv4 address. -/
  embedded : Bool
  rest : List Char

/--
Reads at most `limit` groups; all but the very first follow a colon.  An IPv4
address fills two groups, so it is looked for only while two are left.
-/
def readGroups (isFirst : Bool) : Nat → List Char → GroupsRead
  | 0, text => ⟨[], false, text⟩
  | limit + 1, text =>
    match if isFirst then some text else readChar? ':' text with
    | none => ⟨[], false, text⟩
    | some body =>
      match if 1 ≤ limit then readIpv4? body else none with
      | some (address, rest) => ⟨address.groups, true, rest⟩
      | none =>
        match readGroup? body with
        | none => ⟨[], false, text⟩
        | some (group, rest) =>
          let more := readGroups false limit rest
          ⟨group :: more.groups, more.embedded, more.rest⟩

/--
The address whose groups are given, with zero groups between the two parts.
-/
def Ipv6.ofParts? (head tail : List UInt16) : Option Ipv6 :=
  let groups :=
    head ++ List.replicate (8 - head.length - tail.length) 0 ++ tail
  if fits : groups.length = 8 then some ⟨groups, fits⟩ else none

/-- Reads an IPv6 address. -/
def readIpv6? (text : List Char) : Option (Ipv6 × List Char) := do
  let head := readGroups true 8 text
  if head.groups.length = 8 then
    return (← Ipv6.ofParts? head.groups [], head.rest)
  if head.embedded then none
  let rest ← readChar? ':' (← readChar? ':' head.rest)
  let tail := readGroups true (7 - head.groups.length) rest
  return (← Ipv6.ofParts? head.groups tail.groups, tail.rest)

/-- Reads an address of either version. -/
def readIp? (text : List Char) : Option (IpAddress × List Char) :=
  ((readIpv4? text).map fun (address, rest) => (IpAddress.v4 address, rest)).or
    ((readIpv6? text).map fun (address, rest) => (IpAddress.v6 address, rest))

/-- Reads a colon and a port. -/
def readPort? (text : List Char) : Option (UInt16 × List Char) := do
  let (number, rest) ← portForm.read? (← readChar? ':' text)
  return (UInt16.ofNat number, rest)

/-- Reads a percent sign and a scope; a text without one has scope zero. -/
def readScope (text : List Char) : UInt32 × List Char :=
  match (readChar? '%' text).bind scopeForm.read? with
  | some (number, rest) => (UInt32.ofNat number, rest)
  | none => (0, text)

/-- Reads an IPv4 address with a port. -/
def readSocketV4? (text : List Char) : Option (SocketAddress × List Char) := do
  let (address, rest) ← readIpv4? text
  let (port, rest) ← readPort? rest
  return (.v4 address port, rest)

/-- Reads a bracketed IPv6 address with a port. -/
def readSocketV6? (text : List Char) : Option (SocketAddress × List Char) := do
  let (address, rest) ← readIpv6? (← readChar? '[' text)
  let (scope, rest) := readScope rest
  let (port, rest) ← readPort? (← readChar? ']' rest)
  return (.v6 address scope port, rest)

/-- What was read, provided that nothing is left. -/
def complete? {α : Type} : Option (α × List Char) → Option α
  | some (value, []) => some value
  | _ => none

/-- The address a text writes. -/
def IpAddress.parse? (text : List Char) : Option IpAddress :=
  complete? (readIp? text)

/-- The address with a port that a text writes. -/
def SocketAddress.parse? (text : List Char) : Option SocketAddress :=
  complete? ((readSocketV4? text).or (readSocketV6? text))

end ResolverGrader.Net
