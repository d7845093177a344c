import EnclaveChain.Url.Ipv6

/-!
# Hosts

The host of a URL: an address in brackets, an address of numbers, or a name. In URLs of the common
schemes a name may have its bytes written after percent signs and is a domain name; in others it is
taken as it stands.
-/
namespace EnclaveChain.Url

/-- What is wrong with a URL. -/
inductive Fault where
  /-- It has no scheme. -/
  | noScheme
  /-- Its host is missing. -/
  | noHost
  /-- Its port is no number of two bytes. -/
  | badPort
  /-- Its host is a bad address of version 4. -/
  | badIpv4
  /-- Its host is a bad address of version 6. -/
  | badIpv6
  /-- Its host is no domain name. -/
  | badDomain
  /-- Its host has a character that no host may have. -/
  | badCharacter
deriving DecidableEq, Repr

/-- The text of a fault. -/
def Fault.message : Fault → String
  | noScheme => "relative URL without a base"
  | noHost => "empty host"
  | badPort => "invalid port number"
  | badIpv4 => "invalid IPv4 address"
  | badIpv6 => "invalid IPv6 address"
  | badDomain => "invalid international domain name"
  | badCharacter => "invalid domain character"

/-- The host of a URL. -/
inductive Host where
  /-- A name. -/
  | name (text : List Char)
  /-- An address of version 4. -/
  | ipv4 (address : Nat)
  /-- An address of version 6. -/
  | ipv6 (pieces : List Nat)
deriving DecidableEq, Repr

namespace Host

/-- Whether a host is this machine. -/
def isLocal : Host → Bool
  | .name text => text = "localhost".toList
  | .ipv4 address => Ipv4.isLoopback address
  | .ipv6 pieces => Ipv6.isLoopback pieces

/-- Bytes with those written after percent signs in their place. -/
def decodePercent : Bytes → Bytes
  | 37 :: high :: low :: rest =>
    match Hex.digitValue? high, Hex.digitValue? low with
    | some upper, some lower => (16 * upper + lower) :: decodePercent rest
    | _, _ => 37 :: decodePercent (high :: low :: rest)
  | byte :: bytes => byte :: decodePercent bytes
  | [] => []

/-- The address between brackets. -/
def ofBrackets (text : List Char) : Except Fault Host :=
  if text.getLast? = some ']' then
    match Ipv6.ofText? text.dropLast with
    | some pieces => .ok (.ipv6 pieces)
    | none => .error .badIpv6
  else .error .badIpv6

/-- The host of a URL of a common scheme. -/
def ofText (text : List Char) : Except Fault Host :=
  match text with
  | '[' :: inside => ofBrackets inside
  | _ =>
    let bytes := decodePercent (text.flatMap String.utf8EncodeChar)
    match String.fromUTF8? ⟨bytes.toArray⟩ with
    | none => .error .badDomain
    | some decoded =>
      match Domain.ofText? decoded.toList with
      | none => .error .badDomain
      | some [] => .error .noHost
      | some domain =>
        if Ipv4.isAddress domain then
          match Ipv4.ofText? domain with
          | some address => .ok (.ipv4 address)
          | none => .error .badIpv4
        else .ok (.name domain)

/-- Characters that no host may have. -/
def reserved : List Char := "\x00\t\n\r #/:<>?@[\\]^|".toList

/-- The host of a URL of another scheme. -/
def ofOpaqueText (text : List Char) : Except Fault Host :=
  match text with
  | '[' :: inside => ofBrackets inside
  | _ => if text.any reserved.contains then .error .badCharacter else .ok (.name text)

end Host

end EnclaveChain.Url
