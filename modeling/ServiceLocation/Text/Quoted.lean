import ServiceLocation.Unicode.Category
import ServiceLocation.Unicode.Property

/-!
**Quoted text for diagnostics.**

A text stands in double quotes. Quotes, backslashes and the common controls are escaped by a
backslash and a letter; every other character that does not show by itself is escaped by its code
point in hexadecimal.
-/

namespace ServiceLocation.Text

open ServiceLocation.Unicode

/-- A code point in lower-case hexadecimal, in braces behind a backslash and a `u`. -/
def escapedCode (c : Char) : List Char :=
  "\\u\x7b".toList ++ Nat.toDigits 16 c.toNat ++ ['\x7d']

/-- A character in a quoted text. -/
def quotedChar (c : Char) : List Char :=
  match c with
  | '\x00' => ['\\', '0']
  | '\t' => ['\\', 't']
  | '\n' => ['\\', 'n']
  | '\r' => ['\\', 'r']
  | '"' => ['\\', '"']
  | '\\' => ['\\', '\\']
  | _ => if graphemeExtend.contains c || !isPrintable c then escapedCode c else [c]

/-- A text in quotes. -/
def quoted (text : String) : String :=
  String.ofList ('"' :: (text.toList.flatMap quotedChar ++ ['"']))

end ServiceLocation.Text
