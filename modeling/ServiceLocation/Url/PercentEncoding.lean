import ServiceLocation.Text.Utf8
import ServiceLocation.Text.Numeral

/-!
**Percent-encoding.**

A byte is written as a percent sign and two capital hexadecimal digits.

* `encode`: a text with the characters of a set, and all beyond ASCII, so written;
* `decode`: the bytes of a text, a percent sign without two digits standing for itself;
* `isControl` and the sets named after the parts of a URL.
-/

namespace ServiceLocation.Url

open ServiceLocation.Text

/-- A control character or a character beyond ASCII. -/
def isControl (c : Char) : Bool := c.toNat ≤ 0x1F || 0x7E < c.toNat

/-- What is encoded in a fragment. -/
def inFragmentSet (c : Char) : Bool := isControl c || c ∈ " \"<>`".toList

/-- What is encoded in a query. -/
def inQuerySet (c : Char) : Bool := isControl c || c ∈ " \"#<>".toList

/-- What is encoded in the query of a special URL. -/
def inSpecialQuerySet (c : Char) : Bool := inQuerySet c || c == '\''

/-- What is encoded in a path. -/
def inPathSet (c : Char) : Bool := inFragmentSet c || c ∈ "#?\x7b\x7d".toList

/-- What is encoded in a user name or a password. -/
def inUserSet (c : Char) : Bool := inPathSet c || c ∈ "/:;=@[\\]^|".toList

/-- A digit of a byte, in capital hexadecimal. -/
def capitalHex (value : Nat) : Char :=
  if value < 10 then Char.ofNat ('0'.toNat + value) else Char.ofNat ('A'.toNat + (value - 10))

/-- A byte in percent-encoding. -/
def encodeByte (byte : UInt8) : List Char :=
  ['%', capitalHex (byte.toNat / 16), capitalHex (byte.toNat % 16)]

/-- A text with the characters of a set in percent-encoding. -/
def encode (inSet : Char → Bool) (text : List Char) : List Char :=
  text.flatMap fun c => if inSet c then (Utf8.encode [c]).flatMap encodeByte else [c]

/-- The bytes of a text in percent-encoding. -/
def decode : List Char → List UInt8
  | '%' :: high :: low :: rest =>
    match digitValue? 16 high, digitValue? 16 low with
    | some first, some second => UInt8.ofNat (first * 16 + second) :: decode rest
    | _, _ => 0x25 :: decode (high :: low :: rest)
  | c :: rest => Utf8.encode [c] ++ decode rest
  | [] => []

end ServiceLocation.Url
