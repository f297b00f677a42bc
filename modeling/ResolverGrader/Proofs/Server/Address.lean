import ResolverGrader.Proofs.Net.SocketAddress
import ResolverGrader.Server

/-!
# Server addresses round trip

How a server address is read depends on how its text looks: on a bracket in
front, and on the number of colons.  Each spelling that is printed gets to a
reader that takes it, whatever the address is, and what comes out is the
address.  White space around it makes no difference.
-/

namespace ResolverGrader.Server

open ResolverGrader.Net ResolverGrader.Text

/-- White space around an address is left out. -/
theorem parseAddress_append_append_of_blank
    {before after : String}
    (blankBefore : ∀ character ∈ before.toList, isBlank character = true)
    (blankAfter : ∀ character ∈ after.toList, isBlank character = true)
    (text : String) :
    parseAddress (before ++ text ++ after) = parseAddress text := by
  unfold parseAddress
  rw [String.toList_append, String.toList_append,
    trim_append_append_of_blank blankBefore blankAfter]

/-- A bracket in front announces an IPv6 address with a port. -/
theorem parseAddress_of_bracket
    {text : List Char} {address : SocketAddress}
    (visible : ∀ character ∈ text, isBlank character = false)
    (bracket : text.head? = some '[')
    (parsed : SocketAddress.parse? text = some address) :
    parseAddress (String.ofList text) = .ok address := by
  have present : text ≠ [] := by
    rintro rfl
    cases bracket
  unfold parseAddress
  simp only [String.toList_ofList, trim_of_not_blank visible, present,
    bracket, parsed, if_true, if_false]

/-- Two colons and no bracket announce an IPv6 address without a port. -/
theorem parseAddress_of_colons
    {text : List Char} {address : IpAddress}
    (visible : ∀ character ∈ text, isBlank character = false)
    (noBracket : text.head? ≠ some '[') (colons : 1 < text.count ':')
    (parsed : IpAddress.parse? text = some address) :
    parseAddress (String.ofList text) = .ok (.of address 53) := by
  have present : text ≠ [] := by
    rintro rfl
    cases colons
  have looks : looksLikeIpv6 text = true := decide_eq_true colons
  unfold parseAddress
  simp only [String.toList_ofList, trim_of_not_blank visible, present,
    noBracket, looks, parsed, if_true, if_false, defaultPort]

section

variable {text : List Char}
  (visible : ∀ character ∈ text, isBlank character = false)
  (noBracket : text.head? ≠ some '[') (atMostOne : text.count ':' ≤ 1)
include visible noBracket atMostOne

/-- One colon stands before the port of an IPv4 address. -/
theorem parseAddress_of_port
    {address : SocketAddress}
    (parsed : SocketAddress.parse? text = some address) :
    parseAddress (String.ofList text) = .ok address := by
  have present : text ≠ [] := by
    rintro rfl
    cases parsed
  have looks : looksLikeIpv6 text = false :=
    decide_eq_false (Nat.not_lt.mpr atMostOne)
  unfold parseAddress
  simp only [String.toList_ofList, trim_of_not_blank visible, present,
    noBracket, looks, parsed, if_false, Bool.false_eq_true]

/-- Without a colon there is no port. -/
theorem parseAddress_of_no_port
    {address : IpAddress}
    (notParsed : SocketAddress.parse? text = none)
    (parsed : IpAddress.parse? text = some address) :
    parseAddress (String.ofList text) = .ok (.of address 53) := by
  have present : text ≠ [] := by
    rintro rfl
    cases parsed
  have looks : looksLikeIpv6 text = false :=
    decide_eq_false (Nat.not_lt.mpr atMostOne)
  unfold parseAddress
  simp only [String.toList_ofList, trim_of_not_blank visible, present,
    noBracket, looks, notParsed, parsed, if_false, Bool.false_eq_true,
    defaultPort]

end

/-- The text of an address with its port names the address. -/
theorem parseAddress_text (address : SocketAddress) :
    parseAddress address.text = .ok address := by
  have visible := address.isBlank_eq_false_of_mem
  have parsed := address.parse?_characters
  unfold SocketAddress.text
  cases address with
  | v4 ip port =>
      have noBracket :
          (SocketAddress.v4 ip port).characters.head? ≠ some '[' := by
        rw [SocketAddress.characters,
          List.head?_append_of_ne_nil _ ip.characters_ne_nil]
        exact (IpAddress.v4 ip).head?_characters_ne_bracket
      exact parseAddress_of_port visible noBracket
        (Nat.le_of_eq (SocketAddress.count_colon_v4 ip port)) parsed
  | v6 ip scope port =>
      exact parseAddress_of_bracket visible rfl parsed

/--
The text of an address without a port names it with the port of DNS servers.
-/
theorem parseAddress_ip_text (address : IpAddress) :
    parseAddress address.text = .ok (.of address 53) := by
  have visible := address.isBlank_eq_false_of_mem
  have noBracket := address.head?_characters_ne_bracket
  have parsed := address.parse?_characters
  unfold IpAddress.text
  cases address with
  | v4 ip =>
      have noColon : ip.characters.count ':' = 0 :=
        List.count_eq_zero.mpr ip.colon_not_mem
      exact parseAddress_of_no_port visible noBracket
        (Nat.le_trans (Nat.le_of_eq noColon) (Nat.zero_le 1))
        (SocketAddress.parse?_ipv4 ip) parsed
  | v6 ip =>
      exact parseAddress_of_colons visible noBracket
        ip.one_lt_count_colon parsed

/--
Server addresses round trip.  With white space around it or not, the text of an
address with a port names that address and port, and the text of an address
alone names the address with port 53.  And whatever text names an address, the
text of that address names it again.
-/
theorem server_address_round_trip :
    (∀ before after : String,
      (∀ character ∈ before.toList, isBlank character = true) →
        (∀ character ∈ after.toList, isBlank character = true) →
          ∀ (ip : IpAddress) (port : UInt16),
            parseAddress (before ++ (SocketAddress.of ip port).text ++ after) =
                .ok (.of ip port) ∧
              parseAddress (before ++ ip.text ++ after) =
                .ok (.of ip 53)) ∧
      ∀ (input : String) (address : SocketAddress),
        parseAddress input = .ok address →
          parseAddress address.text = .ok address := by
  refine ⟨?_, fun _ address _ => parseAddress_text address⟩
  intro before after blankBefore blankAfter ip port
  rw [parseAddress_append_append_of_blank blankBefore blankAfter,
    parseAddress_append_append_of_blank blankBefore blankAfter]
  exact ⟨parseAddress_text _, parseAddress_ip_text ip⟩

/-- Leading zeros, capitals and zero groups are read, and not printed again. -/
theorem server_address_round_trip_scoped :
    let server :=
      SocketAddress.v6 ⟨[0xfe80, 0, 0, 0, 0, 0, 0, 1], rfl⟩ 7 53
    parseAddress "\u3000[FE80:0:0::01%7]:0053 " = .ok server ∧
      server.text = "[fe80::1%7]:53" ∧
      parseAddress server.text = .ok server := by
  intro server
  have parsed :
      parseAddress "\u3000[FE80:0:0::01%7]:0053 " = .ok server := by
    rfl
  exact ⟨parsed, by decide +kernel,
    server_address_round_trip.2 _ server parsed⟩

end ResolverGrader.Server
