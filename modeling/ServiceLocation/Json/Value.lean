/-!
**JSON values.**

* `Value`: a value, with the members of an object in their order, repeated ones included;
* `quoted`: a text as a string;
* `Value.text`: a value without blanks.
-/

namespace ServiceLocation.Json

/-- A JSON value. -/
inductive Value where
  | null
  | boolean (value : Bool)
  /-- A number as it is written. -/
  | number (text : List Char)
  /-- A string; nothing if its escapes make no text. -/
  | string (text : Option (List Char))
  | array (items : List Value)
  /-- An object: its members by their keys, which are strings too. -/
  | object (members : List (Option (List Char) × Value))

/-- The four digits of a code point below 256 in hexadecimal. -/
def fourDigits (code : Nat) : List Char :=
  ['0', '0', Nat.digitChar (code / 16), Nat.digitChar (code % 16)]

/-- A character in a string. -/
def quotedChar (c : Char) : List Char :=
  match c with
  | '"' => ['\\', '"']
  | '\\' => ['\\', '\\']
  | '\x08' => ['\\', 'b']
  | '\x0C' => ['\\', 'f']
  | '\n' => ['\\', 'n']
  | '\r' => ['\\', 'r']
  | '\t' => ['\\', 't']
  | _ => if c.toNat < 0x20 then '\\' :: 'u' :: fourDigits c.toNat else [c]

/-- A text as a string. -/
def quoted (text : List Char) : List Char := '"' :: (text.flatMap quotedChar ++ ['"'])

/-- Texts with `mark` between them. -/
def joinedBy (mark : Char) : List (List Char) → List Char
  | [] => []
  | [only] => only
  | first :: rest => first ++ mark :: joinedBy mark rest

namespace Value

/-- A string with a text. -/
def ofText (text : String) : Value := .string (some text.toList)

/-- An object with the given members. -/
def ofMembers (members : List (String × Value)) : Value :=
  .object (members.map fun (key, value) => (some key.toList, value))

mutual

/-- A value without blanks. -/
def text : Value → List Char
  | null => "null".toList
  | boolean value => if value then "true".toList else "false".toList
  | number text => text
  | string content => quoted (content.getD [])
  | array items => '[' :: (joinedBy ',' (texts items) ++ [']'])
  | object members => '\x7b' :: (joinedBy ',' (memberTexts members) ++ ['\x7d'])

/-- Several values without blanks. -/
def texts : List Value → List (List Char)
  | [] => []
  | item :: rest => item.text :: texts rest

/-- Several members without blanks. -/
def memberTexts : List (Option (List Char) × Value) → List (List Char)
  | [] => []
  | (key, value) :: rest => (quoted (key.getD []) ++ ':' :: value.text) :: memberTexts rest

end

end Value

end ServiceLocation.Json
