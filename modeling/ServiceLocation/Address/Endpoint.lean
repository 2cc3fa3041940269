import ServiceLocation.Address.Ipv6
import ServiceLocation.Text.Blank

/-!
**Server addresses.**

An endpoint is an IP address with a port and, for IPv6, a scope.

* `Endpoint.text`: `192.0.2.1:53` or `[fe80::1%2]:53`, the scope left out when it is zero;
* `Endpoint.ofText?`: an endpoint from such a text, or from an address alone with the port of
  the domain name system, blanks around it ignored.
-/

namespace ServiceLocation.Address

open ServiceLocation.Text

/-- The port of the domain name system. -/
def dnsPort : UInt16 := 53

/-- An IP address with a port. -/
inductive Endpoint where
  | v4 (address : Ipv4) (port : UInt16)
  | v6 (address : Ipv6) (port : UInt16) (scope : UInt32)
  deriving Repr, DecidableEq

namespace Endpoint

/-- The port. -/
def port : Endpoint → UInt16
  | v4 _ port => port
  | v6 _ port _ => port

/-- Whether the address is an IPv6 address. -/
def isV6 : Endpoint → Bool
  | v4 .. => false
  | v6 .. => true

/-- The address alone, without scope and port. -/
def addressText : Endpoint → String
  | v4 address _ => address.text
  | v6 address _ _ => address.text

/-- An endpoint as text. -/
def text : Endpoint → String
  | v4 address port => address.text ++ ":" ++ toString port.toNat
  | v6 address port scope =>
    let scopeText := if scope = 0 then "" else "%" ++ toString scope.toNat
    "[" ++ address.text ++ scopeText ++ "]:" ++ toString port.toNat

/-- A decimal number below `2 ^ 16`; zeros in front do no harm. -/
def port? (digits : List Char) : Option UInt16 :=
  ((number? 10 digits).filter (· < UInt16.size)).map UInt16.ofNat

/-- A decimal number below `2 ^ 32`; zeros in front do no harm. -/
def scope? (digits : List Char) : Option UInt32 :=
  ((number? 10 digits).filter (· < UInt32.size)).map UInt32.ofNat

/-- The endpoint of a text between brackets and the text after them. -/
def ofBrackets? (inside behind : List Char) : Option Endpoint :=
  match behind with
  | ':' :: portText => do
    let port ← port? portText
    match inside.splitOn '%' with
    | [address] => pure (v6 (← Ipv6.ofText? address) port 0)
    | [address, scope] => pure (v6 (← Ipv6.ofText? address) port (← scope? scope))
    | _ => none
  | _ => none

/-- The endpoint of a text that gives a port. -/
def withPort? (text : List Char) : Option Endpoint :=
  match text with
  | '[' :: rest =>
    match rest.splitOn ']' with
    | [inside, behind] => ofBrackets? inside behind
    | _ => none
  | _ =>
    match text.splitOn ':' with
    | [address, portText] => do pure (v4 (← Ipv4.ofText? address) (← port? portText))
    | _ => none

/-- The endpoint of a text that is an address alone. -/
def withoutPort? (text : List Char) : Option Endpoint :=
  match Ipv4.ofText? text with
  | some address => some (v4 address dnsPort)
  | none => (Ipv6.ofText? text).map fun address => v6 address dnsPort 0

/-- The endpoint that a text writes, blanks around it ignored. -/
def ofText? (text : String) : Option Endpoint :=
  let inner := trim text.toList
  (withPort? inner).or (withoutPort? inner)

end Endpoint

end ServiceLocation.Address
