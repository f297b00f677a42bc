import ResolverGrader.Net.Address
import ResolverGrader.Text.Split

/-!
# The address of the DNS server

The DNS server that supplies the canonical answers is named by an address with
or without a port.  A bracket announces an IPv6 address with a port; two
colons, next to each other or not, a bare IPv6 address; anything else is an
IPv4 address.  Without a port the server listens on port 53.
-/

namespace ResolverGrader.Server

open ResolverGrader.Net ResolverGrader.Text

/-- Why a text names no server. -/
inductive AddressError where
  | empty
  | bracketed (text : String)
  | bareIpv6 (text : String)
  | plain (text : String)
  deriving DecidableEq, Repr

/-- The message of an address error. -/
def AddressError.message : AddressError → String
  | .empty => "empty resolver address"
  | .bracketed text =>
    "invalid bracketed IPv6 address '" ++ text ++
      "': invalid socket address syntax"
  | .bareIpv6 text =>
    "invalid IPv6 address '" ++ text ++ "': invalid IP address syntax"
  | .plain text =>
    "invalid IP address '" ++ text ++ "': invalid IP address syntax"

/-- The port on which DNS servers listen. -/
def defaultPort : UInt16 := 53

/--
Whether a text has two colons, so that none of them can stand before a port.
-/
def looksLikeIpv6 (text : List Char) : Bool :=
  1 < text.count ':'

/-- The server that a text names, white space around it aside. -/
def parseAddress (input : String) : Except AddressError SocketAddress :=
  let trimmed := trim input.toList
  let shown := String.ofList trimmed
  if trimmed = [] then .error .empty
  else if trimmed.head? = some '[' then
    match SocketAddress.parse? trimmed with
    | some address => .ok address
    | none => .error (.bracketed shown)
  else if looksLikeIpv6 trimmed then
    match IpAddress.parse? trimmed with
    | some address => .ok (.of address defaultPort)
    | none => .error (.bareIpv6 shown)
  else match SocketAddress.parse? trimmed with
    | some address => .ok address
    | none =>
      match IpAddress.parse? trimmed with
      | some address => .ok (.of address defaultPort)
      | none => .error (.plain shown)

end ResolverGrader.Server
