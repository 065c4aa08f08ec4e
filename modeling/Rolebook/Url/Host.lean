import Rolebook.Text.Percent
import Rolebook.Url.Domain.Basic
import Rolebook.Url.Ipv4
import Rolebook.Url.Ipv6

/-!
# Hosts

The host of a web URL is an address or a name. A name is percent-decoded and brought into its ASCII
form, in small letters. The host of any other URL is kept as it is.
-/

namespace Rolebook.Url

/-- What is wrong with a text that is no URL. -/
inductive Malformed where
  /-- There is no scheme. -/
  | relative
  /-- There is no host where one has to be. -/
  | emptyHost
  /-- The port is no number up to 65535. -/
  | port
  /-- The last part of the host is a number, and the host is no address. -/
  | ipv4
  /-- What stands in brackets is no address. -/
  | ipv6
  /-- The host of a web URL is no name. -/
  | domain
  /-- The host of another URL has a character that no host has. -/
  | hostCharacter
  deriving DecidableEq

/-- The words for a malformed URL. -/
def Malformed.message : Malformed → String
  | relative => "relative URL without a base"
  | emptyHost => "empty host"
  | port => "invalid port number"
  | ipv4 => "invalid IPv4 address"
  | ipv6 => "invalid IPv6 address"
  | domain => "invalid international domain name"
  | hostCharacter => "invalid domain character"

/-- A host. -/
inductive Host where
  | name (text : String)
  | ipv4 (address : Nat)
  | ipv6 (pieces : List Nat)
  deriving DecidableEq

namespace Host

/-- A host as it is written. -/
def text : Host → String
  | name text => text
  | ipv4 address => Ipv4.text address
  | ipv6 pieces => s!"[{Ipv6.text pieces}]"

/-- The characters that no host has. -/
def forbidden : List Char :=
  ['\x00', '\t', '\n', '\r', ' ', '#', '/', ':', '<', '>', '?', '@', '[', '\\', ']', '^', '|']

/-- The address between brackets, the first of which has been read. -/
def ofBracketed (cs : List Char) : Except Malformed Host :=
  if cs.getLast? = some ']' then
    match Ipv6.read? cs.dropLast with
    | some pieces => .ok (.ipv6 pieces)
    | none => .error .ipv6
  else .error .ipv6

/-- The host that a name in its ASCII form is. -/
def ofName (cs : List Char) : Except Malformed Host :=
  if cs = [] then .error .emptyHost
  else if Ipv4.endsInNumber cs then
    match Ipv4.read? cs with
    | some address => .ok (.ipv4 address)
    | none => .error .ipv4
  else .ok (.name (String.ofList cs))

/-- The host of a web URL. -/
def read : List Char → Except Malformed Host
  | '[' :: cs => ofBracketed cs
  | cs =>
    match (Text.Utf8.decode? (Text.Percent.decode cs)).bind Domain.ascii? with
    | some decoded => ofName decoded
    | none => .error .domain

/-- The host of any other URL. -/
def readVerbatim : List Char → Except Malformed Host
  | '[' :: cs => ofBracketed cs
  | cs =>
    if cs.any forbidden.contains then .error .hostCharacter
    else .ok (.name (String.ofList (Text.Percent.encode [] cs)))

end Host

end Rolebook.Url
