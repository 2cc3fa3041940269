/-!
**Base32 without padding.**

Five bytes are eight digits of the alphabet `A` to `Z`, `2` to `7`; a last group of one, two, three
or four bytes takes two, four, five or seven digits, the unused low bits being zero.

* `encode`: bytes as digits;
* `decode`: digits as bytes, dropping the bits that fill no byte;
* `length_encode`: the number of digits is the number of bits over five, rounded up.
-/

namespace ServiceLocation.Digest.Base32

/-- The digit of a value below 32. -/
def digit (value : Nat) : Char :=
  if value < 26 then Char.ofNat ('A'.toNat + value) else Char.ofNat ('2'.toNat + (value - 26))

/-- The value of a digit. -/
def value? (c : Char) : Option Nat :=
  if 'A' ≤ c ∧ c ≤ 'Z' then some (c.toNat - 'A'.toNat)
  else if '2' ≤ c ∧ c ≤ '7' then some (c.toNat - '2'.toNat + 26)
  else none

/-- The lowest `count` digits of a number in base 32, the highest first. -/
def digits : Nat → Nat → List Char
  | 0, _ => []
  | count + 1, number => digits count (number / 32) ++ [digit (number % 32)]

/-- The number that bytes write in base 256, the highest first. -/
def numberOfBytes (bytes : List UInt8) : Nat :=
  bytes.foldl (fun number byte => number * 256 + byte.toNat) 0

/-- Bytes as digits. -/
def encode : List UInt8 → List Char
  | [] => []
  | [b0] => digits 2 (numberOfBytes [b0] * 4)
  | [b0, b1] => digits 4 (numberOfBytes [b0, b1] * 16)
  | [b0, b1, b2] => digits 5 (numberOfBytes [b0, b1, b2] * 2)
  | [b0, b1, b2, b3] => digits 7 (numberOfBytes [b0, b1, b2, b3] * 8)
  | b0 :: b1 :: b2 :: b3 :: b4 :: rest =>
    digits 8 (numberOfBytes [b0, b1, b2, b3, b4]) ++ encode rest

/-- The lowest `count` bytes of a number, the highest first. -/
def bytesOfNumber : Nat → Nat → List UInt8
  | 0, _ => []
  | count + 1, number => bytesOfNumber count (number / 256) ++ [UInt8.ofNat (number % 256)]

/-- The number that digits write in base 32; `none` if one of them is no digit. -/
def numberOfDigits (text : List Char) : Option Nat :=
  text.foldlM (fun number c => (value? c).map (number * 32 + ·)) 0

/-- The bytes of one group of at most eight digits. -/
def decodeGroup (text : List Char) : Option (List UInt8) :=
  (numberOfDigits text).map fun number =>
    bytesOfNumber (5 * text.length / 8) (number / Nat.pow 2 (5 * text.length % 8))

/-- Digits as bytes; `none` if one of them is no digit. -/
def decode : List Char → Option (List UInt8)
  | c0 :: c1 :: c2 :: c3 :: c4 :: c5 :: c6 :: c7 :: rest => do
    let group ← decodeGroup [c0, c1, c2, c3, c4, c5, c6, c7]
    let more ← decode rest
    pure (group ++ more)
  | text => decodeGroup text

@[simp] theorem length_digits (count number : Nat) : (digits count number).length = count := by
  induction count generalizing number with
  | zero => rfl
  | succ count ih => simp [digits, ih]

/-- The number of digits is the number of bits over five, rounded up. -/
theorem length_encode (bytes : List UInt8) :
    (encode bytes).length = (8 * bytes.length + 4) / 5 := by
  fun_induction encode bytes with
  | case1 => rfl
  | case2 => simp
  | case3 => simp
  | case4 => simp
  | case5 => simp
  | case6 b0 b1 b2 b3 b4 rest ih =>
    simp only [List.length_append, length_digits, ih, List.length_cons]
    omega

end ServiceLocation.Digest.Base32
