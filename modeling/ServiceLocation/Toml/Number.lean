import ServiceLocation.Text.Numeral
import ServiceLocation.Toml.Value

/-!
**Numbers and points in time in TOML.**

* `readInteger`: integers of 64 bits with a sign, in four bases, with single underscores between
  digits;
* `readFloat`: numbers with a fraction or an exponent, which must not be too large for 64 bits, and
  the words `inf` and `nan`;
* `readDateTime`: dates, times of day, and both together;
* `readNumber`: the first of these that a text starts with.
-/

namespace ServiceLocation.Toml

open ServiceLocation.Text

/-- Reads digits with single underscores between them. -/
def readRun (isDigit : Char → Bool) : List Char → List Char × List Char
  | [] => ([], [])
  | '_' :: c :: rest =>
    if isDigit c then
      let (digits, after) := readRun isDigit rest
      (c :: digits, after)
    else ([], '_' :: c :: rest)
  | c :: rest =>
    if isDigit c then
      let (digits, after) := readRun isDigit rest
      (c :: digits, after)
    else ([], c :: rest)

/-- Reads at least one digit, with single underscores between digits. -/
def readDigits (isDigit : Char → Bool) (text : List Char) : Option (List Char × List Char) :=
  match text with
  | c :: rest =>
    if isDigit c then
      let (digits, after) := readRun isDigit rest
      some (c :: digits, after)
    else none
  | [] => none

/-- Reads a sign, if there is one; tells whether it is a minus. -/
def readSign : List Char → Bool × List Char
  | '-' :: rest => (true, rest)
  | '+' :: rest => (false, rest)
  | text => (false, text)

/-- Reads decimal digits; a zero in front stands alone. -/
def readDecimal (text : List Char) : Option (List Char × List Char) :=
  match text with
  | '0' :: rest => some (['0'], rest)
  | _ => readDigits Char.isDigit text

/-- A number as an integer of 64 bits with a sign, if it is one. -/
def int64? (value : Int) : Option Int64 :=
  if Int64.minValue.toInt ≤ value ∧ value ≤ Int64.maxValue.toInt then some (.ofInt value) else none

/-- The integer with the given digits, if it is not too large. -/
def integerOf? (isNegative : Bool) (base : Nat) (digits : List Char) : Option Int64 := do
  let size ← number? base digits
  int64? (if isNegative then -size else size)

/-- Reads an integer in the base whose mark has been read. -/
def readInBase (base : Nat) (text : List Char) : Option (Int64 × List Char) := do
  let (digits, after) ← readDigits (fun c => (digitValue? base c).isSome) text
  some (← integerOf? false base digits, after)

/-- Reads an integer. -/
def readInteger (text : List Char) : Option (Int64 × List Char) :=
  match text with
  | '0' :: 'x' :: rest => readInBase 16 rest
  | '0' :: 'o' :: rest => readInBase 8 rest
  | '0' :: 'b' :: rest => readInBase 2 rest
  | _ => do
    let (isNegative, rest) := readSign text
    let (digits, after) ← readDecimal rest
    some (← integerOf? isNegative 10 digits, after)

/-- Reads a decimal point and the digits behind it, if there is one. -/
def readFraction (text : List Char) : Option (List Char × List Char) :=
  match text with
  | '.' :: rest => readDigits Char.isDigit rest
  | _ => some ([], text)

/-- Reads an exponent, if there is one. -/
def readExponent (text : List Char) : Option (Int × List Char) :=
  match text with
  | mark :: rest =>
    if mark = 'e' ∨ mark = 'E' then do
      let (isNegative, rest) := readSign rest
      let (digits, after) ← readDigits Char.isDigit rest
      let size ← number? 10 digits
      some (if isNegative then -size else size, after)
    else some (0, text)
  | [] => some (0, [])

/-- What no longer rounds to a number of 64 bits: half a unit beyond the largest. -/
def floatLimit : Nat := Nat.pow 2 1024 - Nat.pow 2 970

/-- Whether `digits * 10 ^ exponent` is too large for 64 bits. -/
def isTooLarge (digits : List Char) (exponent : Int) : Bool :=
  let digits := digits.dropWhile (· == '0')
  let size := (number? 10 digits).getD 0
  if size = 0 then false
  else if exponent + digits.length < 300 then false
  else if 400 < exponent + digits.length then true
  else if 0 ≤ exponent then floatLimit ≤ size * Nat.pow 10 exponent.toNat
  else floatLimit * Nat.pow 10 (-exponent).toNat ≤ size

/-- What a text has lost up to its rest. -/
def readPart (text rest : List Char) : List Char := text.take (text.length - rest.length)

/-- Reads a number with a fraction or an exponent; only a positive one may be too large. -/
def readFloat (text : List Char) : Option (List Char × List Char) := do
  let (isNegative, start) := readSign text
  match start with
  | 'i' :: 'n' :: 'f' :: rest => some (readPart text rest, rest)
  | 'n' :: 'a' :: 'n' :: rest => some (readPart text rest, rest)
  | _ =>
    let (whole, behindWhole) ← readDecimal start
    let (fraction, behindFraction) ← readFraction behindWhole
    let (exponent, rest) ← readExponent behindFraction
    if rest.length = behindWhole.length then none
    else if !isNegative && isTooLarge (whole ++ fraction) (exponent - fraction.length) then none
    else some (readPart text rest, rest)

/-! ### Points in time -/

/-- Reads a number of exactly `count` digits between two bounds. -/
def readFixed (count low high : Nat) (text : List Char) : Option (Nat × List Char) := do
  let digits := text.take count
  if digits.length = count ∧ digits.all Char.isDigit then
    let number ← number? 10 digits
    if low ≤ number ∧ number ≤ high then some (number, text.drop count) else none
  else none

/-- Reads one given character. -/
def readMark (mark : Char) : List Char → Option (List Char)
  | c :: rest => if c = mark then some rest else none
  | [] => none

/-- The number of days of a month. -/
def daysOfMonth (year month : Nat) : Nat :=
  if month = 2 then
    if year % 4 = 0 ∧ (year % 100 ≠ 0 ∨ year % 400 = 0) then 29 else 28
  else if month ∈ [4, 6, 9, 11] then 30
  else 31

/-- Reads a date; answers the text after it. -/
def readDate (text : List Char) : Option (List Char) := do
  let (year, rest) ← readFixed 4 0 9999 text
  let (month, rest) ← readFixed 2 1 12 (← readMark '-' rest)
  let (_, rest) ← readFixed 2 1 (daysOfMonth year month) (← readMark '-' rest)
  some rest

/-- Reads a time of day; answers the text after it. -/
def readTime (text : List Char) : Option (List Char) := do
  let (_, rest) ← readFixed 2 0 23 text
  let (_, rest) ← readFixed 2 0 59 (← readMark ':' rest)
  let (_, rest) ← readFixed 2 0 60 (← readMark ':' rest)
  match rest with
  | '.' :: digits =>
    let after := digits.dropWhile Char.isDigit
    some (if after.length = digits.length then rest else after)
  | _ => some rest

/-- Reads a distance from the common time, if there is one; answers the text after it. -/
def readOffset (text : List Char) : List Char :=
  match text with
  | 'Z' :: rest => rest
  | 'z' :: rest => rest
  | sign :: rest =>
    if sign = '+' ∨ sign = '-' then
      (do
        let (_, rest) ← readFixed 2 0 23 rest
        let (_, rest) ← readFixed 2 0 59 (← readMark ':' rest)
        some rest).getD text
    else text
  | [] => []

/-- Reads the time of day behind a date, if there is one; answers the text after it. -/
def readTimeOfDate (text : List Char) : List Char :=
  match text with
  | mark :: rest =>
    if mark = 'T' ∨ mark = 't' ∨ mark = ' ' then
      ((readTime rest).map readOffset).getD text
    else text
  | [] => []

/-- Reads a point in time. -/
def readDateTime (text : List Char) : Option (List Char × List Char) := do
  let rest ← ((readDate text).map readTimeOfDate).or (readTime text)
  some (readPart text rest, rest)

/-- Reads a point in time or a number. -/
def readNumber (text : List Char) : Option (Value × List Char) :=
  ((readDateTime text).map fun (inside, rest) => (.dateTime inside, rest)).or
    (((readFloat text).map fun (inside, rest) => (.float inside, rest)).or
      ((readInteger text).map fun (value, rest) => (.integer value, rest)))

end ServiceLocation.Toml
