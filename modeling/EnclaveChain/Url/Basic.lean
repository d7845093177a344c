import EnclaveChain.Url.Host

/-!
# URLs

A URL as far as it says where it leads: its scheme and its host. The common schemes always have a
host, however many slashes stand in front of it; files may have one behind two slashes, and so may
all other schemes. What comes behind the host and the port is never wrong.
-/
namespace EnclaveChain

/-- Where a URL leads. -/
structure Url where
  /-- Scheme, in lower case. -/
  scheme : String
  /-- Host, if there is one. -/
  host? : Option Url.Host
deriving DecidableEq, Repr

namespace Url

/-- The text of a URL without what surrounds it and without the line ends and tabs inside. -/
def clean (url : String) : List Char :=
  let inner := (url.toList.dropWhile (· ≤ ' ')).reverse.dropWhile (· ≤ ' ')
  inner.reverse.filter fun char => char ≠ '\t' && char ≠ '\n' && char ≠ '\r'

/-- Whether a character may follow the first letter of a scheme. -/
def isSchemeChar (char : Char) : Bool :=
  char.isAlphanum || char = '+' || char = '-' || char = '.'

/-- The scheme in front of the first colon and the text after the colon. -/
def splitScheme? (url : List Char) : Option (String × List Char) :=
  match url.span isSchemeChar with
  | (first :: scheme, ':' :: rest) =>
    if first.isAlpha then some (String.ofList ((first :: scheme).map Char.toLower), rest) else none
  | _ => none

/-- The common schemes, whose URLs always have a host. -/
def commonSchemes : List String := ["http", "https", "ws", "wss", "ftp"]

/-- Whether a character divides the path, and in URLs of common schemes ends the host. -/
def isSlash (char : Char) : Bool := char = '/' || char = '\\'

/-- Whether a character ends the part of a URL that names the host. -/
def endsAuthority (common : Bool) (char : Char) : Bool :=
  char = '/' || char = '?' || char = '#' || (common && char = '\\')

/-- The name of a user in front of the last `@`, and the rest. -/
def splitUser (authority : List Char) : Option (List Char) × List Char :=
  match authority.reverse.span (· ≠ '@') with
  | (_, []) => (none, authority)
  | (host, _ :: user) => (some user.reverse, host.reverse)

/-- The host and the text from the port on: the first colon outside brackets begins a port. -/
def splitPort : Bool → List Char → List Char × List Char
  | _, [] => ([], [])
  | inside, char :: chars =>
    if char = ':' ∧ inside = false then ([], char :: chars)
    else
      let inside := if char = '[' then true else if char = ']' then false else inside
      let (host, rest) := splitPort inside chars
      (char :: host, rest)

/-- Checks the digits of a port up to where the path may begin. -/
def checkPort (port : Nat) : List Char → Except Fault Unit
  | [] => .ok ()
  | char :: chars =>
    if char.isDigit then
      let port := 10 * port + (char.toNat - 48)
      if 65535 < port then .error .badPort else checkPort port chars
    else if isSlash char then .ok ()
    else .error .badPort

/-- The host of the part of a URL between slashes, which may name a user and a port. -/
def hostOfAuthority (common : Bool) (authority rest : List Char) : Except Fault (Option Host) :=
  let (user, place) := splitUser authority
  if user = some [] ∧ place = [] ∧ rest ≠ [] then .error .noHost
  else
    let (text, port) := splitPort false place
    let host := if common then Host.ofText text else Host.ofOpaqueText text
    if common ∧ text = [] then .error .noHost
    else
      match host with
      | .error fault => .error fault
      | .ok host =>
        if host = .name [] ∧ port ≠ [] then .error .noHost
        else
          match checkPort 0 (port.drop 1) with
          | .error fault => .error fault
          | .ok () =>
            if host = .name [] then
              if user.any (fun user => user ≠ [] && user ≠ [':']) then .error .noHost else .ok none
            else .ok (some host)

/-- Whether a text is the letter of a drive. -/
def isDrive : List Char → Bool
  | [letter, mark] => letter.isAlpha && (mark = ':' || mark = '|')
  | _ => false

/-- The host of the URL of a file; this machine needs no mention. -/
def hostOfFile (rest : List Char) : Except Fault (Option Host) :=
  match rest with
  | first :: second :: rest =>
    if isSlash first ∧ isSlash second then
      let text := rest.takeWhile fun char => !endsAuthority true char
      if text = [] ∨ isDrive text then .ok none
      else
        match Host.ofText text with
        | .error fault => .error fault
        | .ok host => .ok (if host = .name "localhost".toList then none else some host)
    else .ok none
  | _ => .ok none

/-- The host that follows the slashes of a URL. -/
def hostAfterSlashes (common : Bool) (rest : List Char) : Except Fault (Option Host) :=
  let authority := rest.takeWhile fun char => !endsAuthority common char
  hostOfAuthority common authority (rest.drop authority.length)

/-- Reads a URL. -/
def ofText (url : String) : Except Fault Url :=
  match splitScheme? (clean url) with
  | none => .error .noScheme
  | some (scheme, rest) =>
    let host :=
      if scheme = "file" then hostOfFile rest
      else if commonSchemes.contains scheme then hostAfterSlashes true (rest.dropWhile isSlash)
      else
        match rest with
        | '/' :: '/' :: rest => hostAfterSlashes false rest
        | _ => .ok none
    host.map fun host => ⟨scheme, host⟩

/-- Whether a connection is kept open to the place of a URL. -/
def isSocket (url : Url) : Bool := url.scheme = "ws" || url.scheme = "wss"

/-- Whether what is sent to a URL stays private: its scheme is encrypted or its host is this
machine. -/
def isPrivate (url : Url) : Bool :=
  url.scheme = "https" || url.scheme = "wss" || url.host?.any Host.isLocal

end Url

end EnclaveChain
