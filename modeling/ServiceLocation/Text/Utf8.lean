/-!
**UTF-8.**

* `encode`: the bytes of a text;
* `decode?`: the text of bytes, if they are well formed;
* `decodeLossy`: the text of any bytes, every longest start of a sequence that does not go on as it
  should read as the replacement character.
-/

namespace ServiceLocation.Text.Utf8

/-- The character that stands for bytes which are no text. -/
def replacement : Char := '\uFFFD'

/-- The bytes of a text. -/
def encode (text : List Char) : List UInt8 := (String.ofList text).toUTF8.toList

/--
How a sequence that starts with `byte` goes on: the number of bytes after it, and the range of the
first of them. `none` if no sequence starts so.
-/
def lead? (byte : UInt8) : Option (Nat × UInt8 × UInt8) :=
  if byte < 0x80 then some (0, 0, 0)
  else if 0xC2 ≤ byte && byte ≤ 0xDF then some (1, 0x80, 0xBF)
  else if byte == 0xE0 then some (2, 0xA0, 0xBF)
  else if byte == 0xED then some (2, 0x80, 0x9F)
  else if 0xE1 ≤ byte && byte ≤ 0xEF then some (2, 0x80, 0xBF)
  else if byte == 0xF0 then some (3, 0x90, 0xBF)
  else if 0xF1 ≤ byte && byte ≤ 0xF3 then some (3, 0x80, 0xBF)
  else if byte == 0xF4 then some (3, 0x80, 0x8F)
  else none

/-- The value bits of the first byte of a sequence with `count` bytes after it. -/
def leadBits (byte : UInt8) (count : Nat) : Nat :=
  match count with
  | 0 => byte.toNat
  | 1 => byte.toNat - 0xC0
  | 2 => byte.toNat - 0xE0
  | _ => byte.toNat - 0xF0

/--
The rest of a sequence: `count` bytes, the first of them between `low` and `high`. Answers the
code point, if the sequence is whole, and the number of bytes that belong to it.
-/
def readTail (value taken count : Nat) (low high : UInt8) : List UInt8 → Option Nat × Nat
  | bytes =>
    match count, bytes with
    | 0, _ => (some value, taken)
    | _ + 1, [] => (none, taken)
    | more + 1, byte :: rest =>
      if low ≤ byte && byte ≤ high then
        readTail (value * 64 + (byte.toNat - 0x80)) (taken + 1) more 0x80 0xBF rest
      else (none, taken)

/-- The first character of bytes, if they start with a whole sequence, and its length. -/
def readChar (byte : UInt8) (rest : List UInt8) : Option Char × Nat :=
  match lead? byte with
  | none => (none, 1)
  | some (count, low, high) =>
    let (code?, taken) := readTail (leadBits byte count) 1 count low high rest
    (code?.map Char.ofNat, taken)

/-- The characters of bytes, `none` standing for what is no sequence. -/
def decodeParts (bytes : List UInt8) : List (Option Char) :=
  match bytes with
  | [] => []
  | byte :: rest =>
    let (char?, taken) := readChar byte rest
    char? :: decodeParts (rest.drop (taken - 1))
  termination_by bytes.length
  decreasing_by simp only [List.length_drop, List.length_cons]; omega

/-- The text of bytes that are well formed. -/
def decode? (bytes : List UInt8) : Option (List Char) := (decodeParts bytes).mapM id

/-- The text of any bytes. -/
def decodeLossy (bytes : List UInt8) : List Char :=
  (decodeParts bytes).map fun char? => char?.getD replacement

end ServiceLocation.Text.Utf8
