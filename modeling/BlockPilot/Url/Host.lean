import BlockPilot.Url.Domain
import BlockPilot.Url.Ipv4
import BlockPilot.Url.Ipv6

/-!
# Hosts

A host is an address of version 6 in brackets, an address of version 4, or a domain name. Schemes
that the library does not know have hosts that are kept as they are.
-/

namespace BlockPilot.Url

inductive Host where
  | domain (name : List Char)
  | ipv4 (address : Nat)
  | ipv6 (groups : List Nat)
  deriving DecidableEq

namespace Host

def text : Host → List Char
  | .domain name => name
  | .ipv4 address => Ipv4.text address
  | .ipv6 groups => Ipv6.text groups

/-- An address in brackets. -/
def bracketed (s : List Char) : Except UrlFault Host :=
  if s.getLast? = some ']' then .ipv6 <$> Ipv6.parse s.tail.dropLast else .error .invalidIpv6

/-- The host that a text names. -/
def parse (s : List Char) : Except UrlFault Host :=
  if s.head? = some '[' then bracketed s
  else
    match (textOf? (decode s)).bind Domain.toAscii? with
    | none => .error .invalidDomain
    | some [] => .error .emptyHost
    | some name =>
      if Ipv4.endsInNumber name then .ipv4 <$> Ipv4.parse name else .ok (.domain name)

/-- The characters that no host holds, whatever its scheme. -/
def forbidden : List Char :=
  ['\x00', '\t', '\n', '\r', ' ', '#', '/', ':', '<', '>', '?', '@', '[', '\\', ']', '^', '|']

/-- Whether a text can be the host of a scheme that is not known. -/
def checkOpaque (s : List Char) : Except UrlFault Unit := do
  if s.head? = some '[' then
    let _ ← bracketed s
  else if s.any forbidden.contains then throw .invalidCharacter

end Host

end BlockPilot.Url
