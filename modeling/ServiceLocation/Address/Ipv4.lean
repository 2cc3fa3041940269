import ServiceLocation.Text.Numeral
import ServiceLocation.Text.RunLength

/-!
**IPv4 addresses.**

* `text`: four decimal numbers joined by full stops;
* `ofText?`: the address that such a text writes, each number without needless zeros.
-/

namespace ServiceLocation.Address

open ServiceLocation.Text

/-- An IPv4 address. -/
structure Ipv4 where
  a : UInt8
  b : UInt8
  c : UInt8
  d : UInt8
  deriving Repr, DecidableEq, Inhabited

namespace Ipv4

/-- The address as a number below `2 ^ 32`. -/
def toNat (address : Ipv4) : Nat :=
  ((address.a.toNat * 256 + address.b.toNat) * 256 + address.c.toNat) * 256 + address.d.toNat

/-- The address whose number is that, taken modulo `2 ^ 32`. -/
def ofNat (number : Nat) : Ipv4 :=
  { a := UInt8.ofNat (number / 0x1000000), b := UInt8.ofNat (number / 0x10000)
    c := UInt8.ofNat (number / 0x100), d := UInt8.ofNat number }

/-- The address in four decimal numbers. -/
def text (address : Ipv4) : String :=
  ".".intercalate
    [toString address.a.toNat, toString address.b.toNat, toString address.c.toNat,
     toString address.d.toNat]

/-- A decimal number below 256 of at most three digits, without needless zeros. -/
def octet? (digits : List Char) : Option UInt8 :=
  if digits.length ≤ 3 ∧ (digits.head? = some '0' → digits.length = 1) then
    ((number? 10 digits).filter (· < 256)).map UInt8.ofNat
  else none

/-- The address that a text writes. -/
def ofText? (text : List Char) : Option Ipv4 :=
  match text.splitOn '.' with
  | [a, b, c, d] => do
    pure { a := ← octet? a, b := ← octet? b, c := ← octet? c, d := ← octet? d }
  | _ => none

end Ipv4

end ServiceLocation.Address
