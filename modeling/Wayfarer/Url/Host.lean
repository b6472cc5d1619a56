import Wayfarer.Idna.Name
import Wayfarer.Url.Basic
import Wayfarer.Url.Escape

/-!
Hosts as URLs write them.

* `Host.read`: the host of a special scheme: an address between brackets, a numeric address or a
  domain name in ASCII;
* `Host.readOpaque`: the host of any other scheme: an address between brackets or a text that is
  kept as it is.
-/

namespace Wayfarer.Host

/-- The address between brackets. -/
def readBracketed (cs : List Char) : Except UrlError Host :=
  match cs.getLast? with
  | some ']' =>
      match Ipv6.read? cs.dropLast with
      | some pieces => .ok (.ipv6 pieces)
      | none => .error .invalidIpv6
  | _ => .error .invalidIpv6

/-- The host of a name in ASCII. -/
def ofAscii (cs : List Char) : Except UrlError Host :=
  if cs.isEmpty then .error .emptyHost
  else if Ipv4.isMeant cs then
    match Ipv4.read? cs with
    | some address => .ok (.ipv4 address)
    | none => .error .invalidIpv4
  else .ok (.name (String.ofList cs))

/-- The host of a special scheme. -/
def read : List Char → Except UrlError Host
  | '[' :: cs => readBracketed cs
  | cs =>
      match Idna.toAscii? (Percent.decode (Utf8.encode cs)) with
      | some ascii => ofAscii ascii
      | none => .error .invalidName

/-- The characters that no host has. -/
def isForbidden (c : Char) : Bool :=
  "\x00\t\n\r #/:<>?@[\\]^|".toList.contains c

/-- The host of a scheme that is not special; it may be empty. -/
def readOpaque : List Char → Except UrlError Host
  | '[' :: cs => readBracketed cs
  | cs =>
      if cs.any isForbidden then .error .invalidHostCharacter
      else .ok (.name (Escape.apply Escape.control cs))

end Wayfarer.Host
