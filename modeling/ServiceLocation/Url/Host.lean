import ServiceLocation.Address.Ipv6
import ServiceLocation.Idna.Domain
import ServiceLocation.Url.Fault
import ServiceLocation.Url.PercentEncoding

/-!
**Hosts.**

* `Host.ofSpecial`: the host of a special URL: an IPv6 address in brackets, an IPv4 address in any
  of its spellings, or a domain name in its ASCII form;
* `Host.ofPlain`: the host of any other URL, which is an IPv6 address in brackets or kept as it is;
* `Host.text`: a host in its normal form.
-/

namespace ServiceLocation.Url

open ServiceLocation.Text ServiceLocation.Address

/-- A host. -/
inductive Host where
  /-- A domain name in its ASCII form. -/
  | domain (name : List Char)
  | ipv4 (address : Ipv4)
  | ipv6 (address : Ipv6)
  /-- A host that is no domain name, of a URL that is not special. -/
  | plain (name : List Char)
  deriving Repr, DecidableEq

namespace Host

/-- A host in its normal form. -/
def text : Host → List Char
  | domain name => name
  | ipv4 address => address.text.toList
  | ipv6 address => ('[' :: address.compressed.toList) ++ [']']
  | plain name => name

/-- A number in one of the bases of IPv4 addresses: decimal, octal after `0`, and hexadecimal. -/
def ipv4Number? (digits : List Char) : Option Nat :=
  match digits with
  | [] => none
  | '0' :: 'x' :: rest => numberOfDigits? 16 rest
  | '0' :: 'X' :: rest => numberOfDigits? 16 rest
  | '0' :: rest => numberOfDigits? 8 rest
  | _ => numberOfDigits? 10 digits

/-- The parts of a name between its dots, without an empty one at the end. -/
def parts (name : List Char) : List (List Char) :=
  let all := name.splitOn '.'
  if all.getLast? = some [] ∧ 1 < all.length then all.dropLast else all

/-- Whether the last part of a name is a number, so that the name must be an IPv4 address. -/
def endsInNumber (name : List Char) : Bool :=
  match (parts name).getLast? with
  | none => false
  | some last => (!last.isEmpty && last.all Char.isDigit) || (ipv4Number? last).isSome

/-- The IPv4 address of numbers: all but the last are one byte, the last fills the rest. -/
def ipv4OfNumbers? (numbers : List Nat) : Option Ipv4 :=
  let leading := numbers.dropLast
  match numbers.getLast? with
  | none => none
  | some last =>
    let room := Nat.pow 256 (4 - leading.length)
    if 3 < leading.length || leading.any (255 < ·) || room ≤ last then none
    else
      let high := leading.foldl (fun value byte => value * 256 + byte) 0
      some (Ipv4.ofNat (high * room + last))

/-- The IPv4 address that a name writes. -/
def ipv4OfText? (name : List Char) : Option Ipv4 :=
  ((parts name).mapM ipv4Number?).bind ipv4OfNumbers?

/-- The IPv6 address of a text that starts with a bracket. -/
def ofBrackets (inner : List Char) : Except Fault Host :=
  if inner.getLast? = some ']' then
    match Ipv6.ofText? inner.dropLast with
    | some address => .ok (ipv6 address)
    | none => .error .invalidIpv6
  else .error .invalidIpv6

/-- The host of a domain name in its ASCII form. -/
def ofAscii (name : List Char) : Except Fault Host :=
  if name.isEmpty then .error .emptyHost
  else if endsInNumber name then
    match ipv4OfText? name with
    | some address => .ok (ipv4 address)
    | none => .error .invalidIpv4
  else .ok (domain name)

/-- The host of a special URL. -/
def ofSpecial (text : List Char) : Except Fault Host :=
  match text with
  | '[' :: inner => ofBrackets inner
  | _ =>
    match (Utf8.decode? (decode text)).bind Idna.toAscii? with
    | some name => ofAscii name
    | none => .error .invalidDomain

/-- The characters that no host may hold. -/
def forbidden : List Char :=
  ['\x00', '\t', '\n', '\r', ' ', '#', '/', ':', '<', '>', '?', '@', '[', '\\', ']', '^', '|']

/-- Whether no host may hold a character. -/
def isForbidden (c : Char) : Bool := c ∈ forbidden

/-- The host of a URL that is not special. -/
def ofPlain (text : List Char) : Except Fault Host :=
  match text with
  | '[' :: inner => ofBrackets inner
  | _ =>
    if text.any isForbidden then .error .forbiddenCharacter else .ok (plain (encode isControl text))

end Host

end ServiceLocation.Url
