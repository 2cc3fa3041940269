/-!
**UTF-16.**

* `charOfCode?`: the character with a code point;
* `decodeUnits?`: the text of code units, if every surrogate among them has its partner.
-/

namespace ServiceLocation.Text

/-- The character with a code point, if there is one. -/
def charOfCode? (code : Nat) : Option Char :=
  if code.isValidChar then some (Char.ofNat code) else none

namespace Utf16

/-- Whether a unit is the first of a pair. -/
def isHigh (unit : Nat) : Bool := 0xD800 ≤ unit && unit ≤ 0xDBFF

/-- Whether a unit is the second of a pair. -/
def isLow (unit : Nat) : Bool := 0xDC00 ≤ unit && unit ≤ 0xDFFF

/-- The code point of a pair. -/
def pairCode (high low : Nat) : Nat := 0x10000 + (high - 0xD800) * 0x400 + (low - 0xDC00)

/-- The text of code units; a character beyond the units may stand for itself. -/
def decodeUnits? : List Nat → Option (List Char)
  | [] => some []
  | [unit] => (charOfCode? unit).map ([·])
  | unit :: next :: rest =>
    if isHigh unit && isLow next then
      (decodeUnits? rest).map (Char.ofNat (pairCode unit next) :: ·)
    else do
      let c ← charOfCode? unit
      (decodeUnits? (next :: rest)).map (c :: ·)

end Utf16

end ServiceLocation.Text
