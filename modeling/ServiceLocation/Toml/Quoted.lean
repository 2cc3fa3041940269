import ServiceLocation.Text.Numeral
import ServiceLocation.Text.Reading
import ServiceLocation.Text.Utf16

/-!
**Strings of TOML.**

A string stands in one or three quotes of one of two kinds. Between double quotes a backslash starts
an escape; between single quotes every character stands for itself. A string in three quotes may go
over several lines.

* `readQuoted`: reads a string in one quote on each side, as keys may be;
* `readString`: reads any string;
* `writeString`: writes a string in the first of these forms that needs no escapes.
-/

namespace ServiceLocation.Toml

open ServiceLocation.Text

/-- The blanks within a line. -/
def isSpace (c : Char) : Bool := c == ' ' || c == '\t'

/-- Whether a character may stand in a line: no control character but the tab. -/
def isLineChar (c : Char) : Bool := c == '\t' || (0x20 ≤ c.toNat && c.toNat != 0x7F)

/-- The text behind the end of a line, if it starts with one. -/
def readNewline : List Char → Option (List Char)
  | '\n' :: rest => some rest
  | '\r' :: '\n' :: rest => some rest
  | _ => none

/-- A text without the blanks and ends of lines in front. -/
def skipLines : List Char → List Char
  | '\n' :: rest => skipLines rest
  | '\r' :: '\n' :: rest => skipLines rest
  | c :: rest => if isSpace c then skipLines rest else c :: rest
  | [] => []

/-- Reads the character that `count` hexadecimal digits give. -/
def readCode (count : Nat) (text : List Char) : Option (Char × List Char) := do
  let digits := text.take count
  if digits.length = count then
    some (← charOfCode? (← number? 16 digits), text.drop count)
  else none

/-- Reads an escape behind its backslash. -/
def readEscape : List Char → Option (Char × List Char)
  | 'b' :: rest => some ('\x08', rest)
  | 't' :: rest => some ('\t', rest)
  | 'n' :: rest => some ('\n', rest)
  | 'f' :: rest => some ('\x0C', rest)
  | 'r' :: rest => some ('\r', rest)
  | '"' :: rest => some ('"', rest)
  | '\\' :: rest => some ('\\', rest)
  | 'u' :: rest => readCode 4 rest
  | 'U' :: rest => readCode 8 rest
  | _ => none

/-- Reads one more character between double quotes. -/
def basicStep (before : List Char) (text : List Char) :
    Option (Progress (List Char) (List Char) × List Char) :=
  match text with
  | [] => none
  | '"' :: rest => some (.done before.reverse, rest)
  | '\\' :: rest => do
    let (c, after) ← readEscape rest
    some (.more (c :: before), after)
  | c :: rest => if isLineChar c then some (.more (c :: before), rest) else none

/-- Reads one more character between single quotes. -/
def literalStep (before : List Char) (text : List Char) :
    Option (Progress (List Char) (List Char) × List Char) :=
  match text with
  | [] => none
  | '\'' :: rest => some (.done before.reverse, rest)
  | c :: rest => if isLineChar c then some (.more (c :: before), rest) else none

/--
Reads a run of quotes in a string that three of them end. Up to two stand for themselves, also in
front of the three.
-/
def readQuotes (quote : Char) (before : List Char) (text : List Char) :
    Option (Progress (List Char) (List Char) × List Char) :=
  let count := (text.takeWhile (· == quote)).length
  let rest := text.drop count
  if count ≤ 2 then some (.more (List.replicate count quote ++ before), rest)
  else if count ≤ 5 then
    some (.done (List.replicate (count - 3) quote ++ before).reverse, rest)
  else none

/-- Reads one more thing between three double quotes. A backslash at the end of a line takes the
blanks and the ends of lines behind it away. -/
def longBasicStep (before : List Char) (text : List Char) :
    Option (Progress (List Char) (List Char) × List Char) :=
  match text with
  | [] => none
  | '"' :: _ => readQuotes '"' before text
  | '\\' :: rest =>
    match readNewline (rest.dropWhile isSpace) with
    | some after => some (.more before, skipLines after)
    | none => do
      let (c, after) ← readEscape rest
      some (.more (c :: before), after)
  | c :: rest =>
    match readNewline text with
    | some after => some (.more ('\n' :: before), after)
    | none => if isLineChar c then some (.more (c :: before), rest) else none

/-- Reads one more thing between three single quotes. -/
def longLiteralStep (before : List Char) (text : List Char) :
    Option (Progress (List Char) (List Char) × List Char) :=
  match text with
  | [] => none
  | '\'' :: _ => readQuotes '\'' before text
  | c :: rest =>
    match readNewline text with
    | some after => some (.more ('\n' :: before), after)
    | none => if isLineChar c then some (.more (c :: before), rest) else none

/-- A text without the end of a line in front, if it starts with one. -/
def skipNewline (text : List Char) : List Char := (readNewline text).getD text

/-- Reads a string in one quote on each side. -/
def readQuoted : List Char → Option (List Char × List Char)
  | '"' :: rest => readLoop basicStep [] rest
  | '\'' :: rest => readLoop literalStep [] rest
  | _ => none

/-- Reads a string. -/
def readString : List Char → Option (List Char × List Char)
  | '"' :: '"' :: '"' :: rest => readLoop longBasicStep [] (skipNewline rest)
  | '\'' :: '\'' :: '\'' :: rest => readLoop longLiteralStep [] (skipNewline rest)
  | text => readQuoted text

/-! ### Writing -/

/-- Whether a character shows only by an escape: a control but the tab and the line feed. -/
def needsCode (c : Char) : Bool := !isLineChar c && c != '\n'

/-- The length of the longest run of a character, after a run of `current`. -/
def longestRun (c : Char) (current : Nat) : List Char → Nat
  | [] => current
  | d :: rest =>
    if d = c then longestRun c (current + 1) rest else max current (longestRun c 0 rest)

/-- A digit in capital hexadecimal. -/
def capitalDigit (value : Nat) : Char := (Nat.digitChar value).toUpper

/-- A control character by its code point. -/
def codeEscape (c : Char) : List Char :=
  ['\\', 'u', '0', '0', capitalDigit (c.toNat / 16), capitalDigit (c.toNat % 16)]

/-- The escape of a character between double quotes, if it has to be escaped there. -/
def escape? (isLong : Bool) (c : Char) : Option (List Char) :=
  match c with
  | '\x08' => some ['\\', 'b']
  | '\t' => some ['\\', 't']
  | '\n' => if isLong then none else some ['\\', 'n']
  | '\x0C' => some ['\\', 'f']
  | '\r' => some ['\\', 'r']
  | '\\' => some ['\\', '\\']
  | _ => if needsCode c then some (codeEscape c) else none

/-- A text between double quotes, of which up to `spare` in a row may stand for themselves; `quotes`
of them stand directly before it. -/
def basicText (isLong : Bool) (spare quotes : Nat) : List Char → List Char
  | [] => []
  | c :: rest =>
    if c = '"' then
      if quotes < spare then c :: basicText isLong spare (quotes + 1) rest
      else '\\' :: c :: basicText isLong spare 0 rest
    else match escape? isLong c with
      | some escape => escape ++ basicText isLong spare 0 rest
      | none => c :: basicText isLong spare 0 rest

/-- A text in single quotes, or three of them, or double quotes, or three of them. -/
def delimited (quotes inside : List Char) (breaks : Bool) : List Char :=
  quotes ++ (if breaks then ['\n'] else []) ++ inside ++ quotes

/-- A string, in the first form that needs no escapes but for tabs, or else with escapes. -/
def writeString (text : List Char) : List Char :=
  let hasCode := text.any needsCode
  let hasNewline := text.contains '\n'
  let hasBackslash := text.contains '\\'
  let double := longestRun '"' 0 text
  let single := longestRun '\'' 0 text
  let basic := delimited ['"'] (basicText false 0 0 text) false
  let longBasic := delimited ['"', '"', '"'] (basicText true 2 0 text) hasNewline
  if !hasCode && !hasBackslash && double == 0 && !hasNewline then basic
  else if !hasCode && single == 0 && !hasNewline then delimited ['\''] text false
  else if !hasCode && !hasBackslash && double ≤ 2 then longBasic
  else if !hasCode && single ≤ 2 then delimited ['\'', '\'', '\''] text hasNewline
  else if hasNewline then longBasic
  else basic

end ServiceLocation.Toml
