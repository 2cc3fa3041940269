import ServiceLocation.Toml.Number
import ServiceLocation.Toml.Quoted

/-!
**Reading TOML.**

* `readKey`, `readValue`: keys and values, neither with too many parts nor nested too deeply;
* `Document`, `lineStep`: what is read so far, and what a line adds;
* `read?`: the entries that a whole text gives.
-/

namespace ServiceLocation.Toml

open ServiceLocation.Text

/-- How many parts a key may have, and how deeply a value may nest. -/
def depthLimit : Nat := 79

/-- A text without the blanks in front. -/
def skipSpaces (text : List Char) : List Char := text.dropWhile isSpace

/-- Reads a comment behind its mark; answers the text after it. -/
def skipComment (text : List Char) : List Char := text.dropWhile isLineChar

/-! ### Keys -/

/-- Whether a character may stand in a key without quotes. -/
def inBareKey (c : Char) : Bool := c.isAlphanum || c == '-' || c == '_'

/-- Reads a part of a key. -/
def readKeyPart (text : List Char) : Option (String × List Char) :=
  match text with
  | [] => none
  | c :: _ =>
    if c = '"' ∨ c = '\'' then (readQuoted text).map fun (key, rest) => (.ofList key, rest)
    else
      let key := text.takeWhile inBareKey
      if key.isEmpty then none else some (.ofList key, text.dropWhile inBareKey)

/-- Reads one more part of a key, and the full stop behind it if there is one. -/
def keyStep (before : List String) (text : List Char) :
    Option (Progress (List String) (List String × String) × List Char) := do
  let (part, rest) ← readKeyPart (skipSpaces text)
  match skipSpaces rest with
  | '.' :: after => some (.more (part :: before), after)
  | after => some (.done (before.reverse, part), after)

/-- Reads a key: the parts before the last, and the last. -/
def readKey (text : List Char) : Option ((List String × String) × List Char) :=
  (readLoop keyStep [] text).filter fun (key, _) => key.1.length < depthLimit

/-! ### Values -/

/-- Reads a line's end in an array, or the blanks and the comment before it. -/
def arrayBlankStep (_ : Unit) (text : List Char) :
    Option (Progress Unit Unit × List Char) :=
  match skipLines text with
  | '#' :: rest => (readNewline (skipComment rest)).map fun after => (.more (), after)
  | after => some (.done (), after)

/-- A text without the blanks, ends of lines and comments in front. -/
def skipArrayBlanks (text : List Char) : Option (List Char) :=
  (readLoop arrayBlankStep () text).map (·.2)

/-- Reads one more item of an array, unless the array ends, and the comma behind the item. -/
def itemStep (read : List Char → Option (Value × List Char)) (before : List Value)
    (text : List Char) : Option (Progress (List Value) Value × List Char) := do
  match ← skipArrayBlanks text with
  | ']' :: rest => some (.done (.array before.reverse), rest)
  | start =>
    let (item, rest) ← read start
    match ← skipArrayBlanks rest with
    | ',' :: after => some (.more (item :: before), after)
    | ']' :: after => some (.done (.array (item :: before).reverse), after)
    | _ => none

/-- Reads a key and its value, and the comma or the brace behind them. -/
def pairStep (read : List Char → Option (Value × List Char)) (before : Entries)
    (text : List Char) : Option (Progress Entries Value × List Char) := do
  let ((path, key), rest) ← readKey text
  let (value, rest) ← read (skipSpaces (← readMark '=' rest))
  let entries ← define path key value .header before
  match skipSpaces rest with
  | ',' :: after => some (.more entries, after)
  | '\x7d' :: after => some (.done (.table (entryValues entries)), after)
  | _ => none

/-- Reads a table behind its first brace. -/
def readPairs (read : List Char → Option (Value × List Char)) (text : List Char) :
    Option (Value × List Char) :=
  match skipSpaces text with
  | '\x7d' :: rest => some (.table [], rest)
  | start => readLoop (pairStep read) [] start

/-- Reads a value that nests at most `room` deep. -/
def readValue : Nat → List Char → Option (Value × List Char)
  | room, text =>
    match text with
    | [] => none
    | '[' :: rest =>
      match room with
      | 0 => none
      | room + 1 => readLoop (itemStep (readValue room)) [] rest
    | '\x7b' :: rest =>
      match room with
      | 0 => none
      | room + 1 => readPairs (readValue room) rest
    | 't' :: 'r' :: 'u' :: 'e' :: rest => some (.boolean true, rest)
    | 'f' :: 'a' :: 'l' :: 's' :: 'e' :: rest => some (.boolean false, rest)
    | c :: _ =>
      if c = '"' ∨ c = '\'' then
        (readString text).map fun (inside, rest) => (.string (.ofList inside), rest)
      else readNumber text

/-! ### Lines -/

/-- What is read so far. -/
structure Document where
  entries : Entries
  /-- The table to which the lines add, as the path from the whole. -/
  current : List String

/-- The document with a value under a key of the current table. -/
def Document.define (document : Document) (path : List String) (key : String) (value : Value) :
    Option Document := do
  let entries ← edit false (Toml.define path key value) .header document.current document.entries
  some { document with entries }

/-- Reads blanks, a comment if there is one, and the end of a line or of the text. -/
def readLineEnd (text : List Char) : Option (List Char) :=
  let rest := match skipSpaces text with
    | '#' :: comment => skipComment comment
    | start => start
  if rest.isEmpty then some [] else readNewline rest

/-- Reads a header behind its first bracket. -/
def readHeader (document : Document) (text : List Char) : Option (Document × List Char) := do
  match text with
  | '[' :: rest =>
    let ((path, key), rest) ← readKey rest
    match rest with
    | ']' :: ']' :: after =>
      some ({ entries := ← openArray path key document.entries, current := path ++ [key] }, after)
    | _ => none
  | _ =>
    let ((path, key), rest) ← readKey text
    let after ← readMark ']' rest
    some ({ entries := ← openTable path key document.entries, current := path ++ [key] }, after)

/-- Reads a key and its value. -/
def readPair (document : Document) (text : List Char) : Option (Document × List Char) := do
  let ((path, key), rest) ← readKey text
  let (value, after) ← readValue depthLimit (skipSpaces (← readMark '=' rest))
  some (← document.define path key value, after)

/-- Reads a line. -/
def lineStep (document : Document) (text : List Char) :
    Option (Progress Document Document × List Char) := do
  match skipSpaces text with
  | [] => some (.done document, [])
  | '[' :: rest =>
    let (document, rest) ← readHeader document rest
    some (.more document, ← readLineEnd rest)
  | start =>
    match readLineEnd start with
    | some rest => some (.more document, rest)
    | none =>
      let (document, rest) ← readPair document start
      some (.more document, ← readLineEnd rest)

/-- A text without the mark of byte order in front. -/
def skipMark : List Char → List Char
  | '\uFEFF' :: rest => rest
  | text => text

/-- The entries that a text gives, if it is TOML. -/
def read? (text : List Char) : Option (List (String × Value)) := do
  let (document, _) ← readLoop lineStep { entries := [], current := [] } (skipMark text)
  some (entryValues document.entries)

end ServiceLocation.Toml
