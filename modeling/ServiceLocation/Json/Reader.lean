import ServiceLocation.Json.Value
import ServiceLocation.Text.Numeral
import ServiceLocation.Text.Reading
import ServiceLocation.Text.Utf16

/-!
**Reading JSON.**

* `readString`, `readNumber`, `readValue`: reading from the start of a text, answering what is
  read and the text after it;
* `readParts`: the same for the items of an array and the members of an object;
* `Value.ofText?`: the value that a whole text writes, blanks around it ignored.
-/

namespace ServiceLocation.Json

open ServiceLocation.Text

/-- The blanks between values. -/
def isJsonBlank (c : Char) : Bool := c == ' ' || c == '\t' || c == '\n' || c == '\r'

/-- A text without the blanks in front. -/
def skipBlanks (text : List Char) : List Char := text.dropWhile isJsonBlank

/-- The character that a letter stands for behind a backslash. -/
def escaped? (letter : Char) : Option Char :=
  match letter with
  | '"' => some '"'
  | '\\' => some '\\'
  | '/' => some '/'
  | 'b' => some '\x08'
  | 'f' => some '\x0C'
  | 'n' => some '\n'
  | 'r' => some '\r'
  | 't' => some '\t'
  | _ => none

/-- Reads a string behind its first quote: its characters and code units, up to the last quote. -/
def readUnits : List Char → Option (List Nat × List Char)
  | [] => none
  | '"' :: rest => some ([], rest)
  | '\\' :: 'u' :: a :: b :: c :: d :: rest => do
    let unit ← number? 16 [a, b, c, d]
    let (units, after) ← readUnits rest
    some (unit :: units, after)
  | '\\' :: letter :: rest => do
    let c ← escaped? letter
    let (units, after) ← readUnits rest
    some (c.toNat :: units, after)
  | c :: rest =>
    if c.toNat < 0x20 ∨ c = '\\' then none
    else (readUnits rest).map fun (units, after) => (c.toNat :: units, after)

/-- Reads a string behind its first quote; its text is nothing if it has a lone surrogate. -/
def readString (text : List Char) : Option (Option (List Char) × List Char) :=
  (readUnits text).map fun (units, after) => (Utf16.decodeUnits? units, after)

/-- Reads at least one digit. -/
def readDigits (text : List Char) : Option (List Char × List Char) :=
  let digits := text.takeWhile Char.isDigit
  if digits.isEmpty then none else some (digits, text.dropWhile Char.isDigit)

/-- Reads the digits before the decimal point; a zero in front stands alone. -/
def readWhole (text : List Char) : Option (List Char × List Char) :=
  match text with
  | '0' :: c :: rest => if c.isDigit then none else some (['0'], c :: rest)
  | _ => readDigits text

/-- Reads a decimal point and the digits after it, if there is one. -/
def readFraction (text : List Char) : Option (List Char × List Char) :=
  match text with
  | '.' :: rest => (readDigits rest).map fun (digits, after) => ('.' :: digits, after)
  | _ => some ([], text)

/-- Reads an exponent, if there is one. -/
def readExponent (text : List Char) : Option (List Char × List Char) :=
  match text with
  | mark :: rest =>
    if mark = 'e' ∨ mark = 'E' then
      let (sign, rest) := match rest with
        | '+' :: more => (['+'], more)
        | '-' :: more => (['-'], more)
        | _ => ([], rest)
      (readDigits rest).map fun (digits, after) => (mark :: (sign ++ digits), after)
    else some ([], text)
  | [] => some ([], [])

/-- Reads a number. -/
def readNumber (text : List Char) : Option (List Char × List Char) := do
  let (sign, rest) := match text with
    | '-' :: more => (['-'], more)
    | _ => ([], text)
  let (whole, rest) ← readWhole rest
  let (fraction, rest) ← readFraction rest
  let (exponent, rest) ← readExponent rest
  some (sign ++ whole ++ fraction ++ exponent, rest)

/-- Reads one more of several parts, and the comma or what closes them behind it. -/
def partStep {α : Type} (read : List Char → Option (α × List Char)) (close : Char)
    (all : List α → Value) (before : List α) (text : List Char) :
    Option (Progress (List α) Value × List Char) := do
  let (part, rest) ← read (skipBlanks text)
  match skipBlanks rest with
  | c :: after =>
    if c = ',' then some (.more (part :: before), after)
    else if c = close then some (.done (all (part :: before).reverse), after)
    else none
  | [] => none

/-- Reads several parts, or none, up to what closes them. -/
def readParts {α : Type} (read : List Char → Option (α × List Char)) (close : Char)
    (all : List α → Value) (text : List Char) : Option (Value × List Char) :=
  match skipBlanks text with
  | c :: rest =>
    if c = close then some (all [], rest) else readLoop (partStep read close all) [] (c :: rest)
  | [] => none

/-- Reads a member of an object: its key, a colon and its value. -/
def readMember (read : List Char → Option (Value × List Char)) (text : List Char) :
    Option ((Option (List Char) × Value) × List Char) :=
  match text with
  | '"' :: rest => do
    let (key, rest) ← readString rest
    match skipBlanks rest with
    | ':' :: rest => (read (skipBlanks rest)).map fun (value, after) => ((key, value), after)
    | _ => none
  | _ => none

/-- Reads a value that nests at most `room` deep. -/
def readValue : Nat → List Char → Option (Value × List Char)
  | _, 'n' :: 'u' :: 'l' :: 'l' :: rest => some (.null, rest)
  | _, 't' :: 'r' :: 'u' :: 'e' :: rest => some (.boolean true, rest)
  | _, 'f' :: 'a' :: 'l' :: 's' :: 'e' :: rest => some (.boolean false, rest)
  | _, '"' :: rest => (readString rest).map fun (text, after) => (.string text, after)
  | room + 1, '[' :: rest => readParts (readValue room) ']' .array rest
  | room + 1, '\x7b' :: rest => readParts (readMember (readValue room)) '\x7d' .object rest
  | _, text => (readNumber text).map fun (number, after) => (.number number, after)

/-- The value that a text writes. A value cannot nest more deeply than its text is long. -/
def Value.ofText? (text : List Char) : Option Value := do
  let (value, rest) ← readValue text.length (skipBlanks text)
  if (skipBlanks rest).isEmpty then some value else none

end ServiceLocation.Json
