import ServiceLocation.Address.Ipv4

/-!
**IPv6 addresses.**

* `compressed`: eight hexadecimal numbers joined by colons, the first longest run of at least two
  zeros written `::`;
* `text`: the same, but an address that maps an IPv4 address ends with that address;
* `ofText?`: the address that a text writes, with at most one `::` and, if it ends so, an IPv4
  address in place of the last two numbers.
-/

namespace ServiceLocation.Address

open ServiceLocation.Text

/-- An IPv6 address: eight segments. -/
structure Ipv6 where
  segments : Vector UInt16 8
  deriving Repr, DecidableEq, Inhabited

namespace Ipv6

/-- The address of a list of segments; missing ones are zero, those beyond eight are dropped. -/
def ofList (segments : List UInt16) : Ipv6 := ⟨Vector.ofFn fun i => segments.getD i 0⟩

/-- The segments as a list. -/
def toList (address : Ipv6) : List UInt16 := address.segments.toList

/-- The number of zeros that a list starts with. -/
def leadingZeros (segments : List UInt16) : Nat := (segments.takeWhile (· == 0)).length

/--
The start and the length of the first longest run of zeros, the list itself starting at `start`.
-/
def longestZeros (start : Nat) : List UInt16 → Nat × Nat
  | [] => (start, 0)
  | segment :: rest =>
    let here := leadingZeros (segment :: rest)
    let later := longestZeros (start + 1) rest
    if later.2 ≤ here then (start, here) else later

/-- Segments in lower-case hexadecimal, joined by colons. -/
def colonText (segments : List UInt16) : String :=
  ":".intercalate (segments.map fun segment => String.ofList (Nat.toDigits 16 segment.toNat))

/-- The address with its first longest run of at least two zeros written `::`. -/
def compressed (address : Ipv6) : String :=
  let (start, count) := longestZeros 0 address.toList
  if 2 ≤ count then
    colonText (address.toList.take start) ++ "::" ++ colonText (address.toList.drop (start + count))
  else colonText address.toList

/-- The IPv4 address that an address maps, if its first 96 bits say that it maps one. -/
def mapped? (address : Ipv6) : Option Ipv4 :=
  match address.toList with
  | [0, 0, 0, 0, 0, 0xffff, high, low] => some (Ipv4.ofNat (high.toNat * 0x10000 + low.toNat))
  | _ => none

/-- The address as text. -/
def text (address : Ipv6) : String :=
  match address.mapped? with
  | some ipv4 => "::ffff:" ++ ipv4.text
  | none => address.compressed

/-- One segment: one to four hexadecimal digits. -/
def segment? (digits : List Char) : Option UInt16 :=
  if digits.length ≤ 4 then (number? 16 digits).map UInt16.ofNat else none

/-- The two segments that hold an IPv4 address. -/
def segmentsOfIpv4 (address : Ipv4) : List UInt16 :=
  [UInt16.ofNat (address.toNat / 0x10000), UInt16.ofNat (address.toNat % 0x10000)]

/-- The segments of pieces between colons; with `ipv4Last`, the last may be an IPv4 address. -/
def segmentsOfPieces? (ipv4Last : Bool) : List (List Char) → Option (List UInt16)
  | [] => some []
  | [piece] =>
    match segment? piece with
    | some segment => some [segment]
    | none => if ipv4Last then (Ipv4.ofText? piece).map segmentsOfIpv4 else none
  | piece :: rest => do
    let segment ← segment? piece
    let more ← segmentsOfPieces? ipv4Last rest
    pure (segment :: more)

/-- The segments of a text, which may be empty. -/
def segments? (ipv4Last : Bool) (text : List Char) : Option (List UInt16) :=
  if text.isEmpty then some [] else segmentsOfPieces? ipv4Last (text.splitOn ':')

/-- A text cut at its first `::`. -/
def cutAtGap : List Char → Option (List Char × List Char)
  | ':' :: ':' :: rest => some ([], rest)
  | c :: rest => (cutAtGap rest).map fun (before, behind) => (c :: before, behind)
  | [] => none

/-- The address that a text writes. -/
def ofText? (text : List Char) : Option Ipv6 :=
  match cutAtGap text with
  | some (before, behind) => do
    let first ← segments? false before
    let last ← segments? true behind
    if first.length + last.length ≤ 7 then
      pure (ofList (first ++ List.replicate (8 - first.length - last.length) 0 ++ last))
    else none
  | none => do
    let whole ← segments? true text
    if whole.length = 8 then pure (ofList whole) else none

end Ipv6

end ServiceLocation.Address
