import ServiceLocation.Pattern.Expression
import ServiceLocation.Text.Blank
import ServiceLocation.Text.Numeral
import ServiceLocation.Text.Utf16
import ServiceLocation.Unicode.CaseFolding
import ServiceLocation.Unicode.PropertyName

/-!
**Escapes in patterns.**

* `Flags`: the modes a pattern can be in, and reading past blanks and comments in extended mode;
* `Escape`: what a backslash and the characters after it stand for;
* `readEscape`: reading it.

A reader takes the text from where it is, and answers what it read and the text after it, or nothing
if the pattern is malformed.
-/

namespace ServiceLocation.Pattern

open ServiceLocation.Text ServiceLocation.Unicode

/-- The modes of a pattern. -/
structure Flags where
  /-- Letters match in either case. -/
  ignoreCase : Bool
  /-- `^` and `$` match at the ends of lines. -/
  multiLine : Bool
  /-- `.` matches line feeds. -/
  dotAll : Bool
  /-- Repetitions are lazy unless marked. -/
  swapGreed : Bool
  /-- Classes and words are those of all scripts. -/
  unicode : Bool
  /-- A carriage return ends a line too. -/
  crlf : Bool
  /-- Blanks and comments do not count. -/
  extended : Bool
  deriving Repr, DecidableEq

/-- The modes at the start of a pattern. -/
def Flags.initial (ignoreCase : Bool) : Flags :=
  { ignoreCase, multiLine := false, dotAll := false, swapGreed := false, unicode := true
    crlf := false, extended := false }

/-- A text without the blanks and comments in front; `inComment` says that it starts in one. -/
def skipIgnored (inComment : Bool) : List Char → List Char
  | [] => []
  | c :: rest =>
    if inComment then skipIgnored (c != '\n') rest
    else if isBlank c then skipIgnored false rest
    else if c = '#' then skipIgnored true rest
    else c :: rest

/-- A text without what the modes ignore in front. -/
def Flags.skip (flags : Flags) (text : List Char) : List Char :=
  if flags.extended then skipIgnored false text else text

theorem length_skipIgnored_le (inComment : Bool) (text : List Char) :
    (skipIgnored inComment text).length ≤ text.length := by
  induction text generalizing inComment with
  | nil => exact Nat.le_refl 0
  | cons c rest ih =>
    have step (inComment : Bool) : (skipIgnored inComment rest).length ≤ (c :: rest).length :=
      Nat.le_succ_of_le (ih inComment)
    unfold skipIgnored
    split
    · exact step _
    · split
      · exact step _
      · split
        · exact step _
        · exact Nat.le_refl _

/-- Nothing is added by skipping. -/
theorem Flags.length_skip_le (flags : Flags) (text : List Char) :
    (flags.skip text).length ≤ text.length := by
  unfold Flags.skip
  split
  · exact length_skipIgnored_le false text
  · exact Nat.le_refl _

/-- What follows the first character that counts is shorter. -/
theorem Flags.length_lt_of_skip {flags : Flags} {text rest : List Char} {c : Char}
    (counts : flags.skip text = c :: rest) : rest.length < text.length := by
  have bound := flags.length_skip_le text
  rw [counts] at bound
  exact bound

/-- The ASCII letters and all they differ from in case alone, among ASCII. -/
def closeUnderAsciiCase (set : CharSet) : CharSet :=
  let letters := (List.range 26).filter fun index =>
    set.containsCode (0x41 + index) || set.containsCode (0x61 + index)
  set.union (.ofCodes (letters.flatMap fun index => [0x41 + index, 0x61 + index]))

/-- A set as the modes match it. -/
def Flags.fold (flags : Flags) (set : CharSet) : CharSet :=
  if !flags.ignoreCase then set
  else if flags.unicode then closeUnderCase set
  else closeUnderAsciiCase set

/--
A set as the modes match it, or what is outside. A set of bytes has no complement, since a text may
not be matched in the midst of a character.
-/
def Flags.foldOrNegate? (flags : Flags) (negated : Bool) (set : CharSet) : Option CharSet :=
  if !negated then some (flags.fold set)
  else if flags.unicode then some (flags.fold set).complement
  else none

/-- What an escape stands for. -/
inductive Escape where
  /-- A character; `isByte` if it was given by two hexadecimal digits. -/
  | literal (c : Char) (isByte : Bool)
  | chars (set : CharSet)
  | look (look : Look)

/-- The ASCII decimal digits. -/
def asciiDigit : CharSet := .range 0x30 0x39

/-- The blanks of ASCII. -/
def asciiBlank : CharSet := ⟨[0x9, 0xE, 0x20, 0x21]⟩

/-- The set of a class letter, in small writing. -/
def classLetter (unicode : Bool) (letter : Char) : CharSet :=
  match letter with
  | 'd' => if unicode then digit else asciiDigit
  | 's' => if unicode then whiteSpace else asciiBlank
  | _ => if unicode then wordCharacter else asciiWordCharacter

/-- The set of a class letter; a capital stands for what is outside. -/
def letterSet? (flags : Flags) (letter : Char) : Option CharSet :=
  let set := classLetter flags.unicode letter.toLower
  if !letter.isUpper then some set
  else if flags.unicode then some set.complement
  else none

/-- Reads `count` hexadecimal digits after those that make up `value`. -/
def readHexDigits (flags : Flags) (value : Nat) : Nat → List Char → Option (Nat × List Char)
  | 0, text => some (value, text)
  | _ + 1, [] => none
  | count + 1, c :: rest => do
    let digit ← digitValue? 16 c
    readHexDigits flags (value * 16 + digit) count (flags.skip rest)

/-- Reads up to a closing brace, ignoring what the modes ignore; answers what stands before it. -/
def readBraced (flags : Flags) (text : List Char) : Option (List Char × List Char) :=
  match _counts : flags.skip text with
  | [] => none
  | c :: rest =>
    if c = '\x7d' then some ([], rest)
    else (readBraced flags rest).map fun (inside, after) => (c :: inside, after)
  termination_by text.length
  decreasing_by exact Flags.length_lt_of_skip _counts

/-- Reads a character given by its code point, behind the letter that starts the escape. -/
def readHex (flags : Flags) (letter : Char) (text : List Char) : Option (Escape × List Char) := do
  match flags.skip text with
  | '\x7b' :: rest =>
    let (inside, after) ← readBraced flags rest
    let code ← number? 16 inside
    some (.literal (← charOfCode? code) false, flags.skip after)
  | start =>
    let count := if letter = 'x' then 2 else if letter = 'u' then 4 else 8
    let (code, after) ← readHexDigits flags 0 count start
    some (.literal (← charOfCode? code) (letter == 'x'), after)

/-- A text cut before and after the first occurrence of `mark`. -/
def cutAtFirst? (mark : List Char) : List Char → Option (List Char × List Char)
  | [] => none
  | c :: rest =>
    if mark.isPrefixOf (c :: rest) then some ([], (c :: rest).drop mark.length)
    else (cutAtFirst? mark rest).map fun (before, after) => (c :: before, after)

/-- The set of a property given in braces: a name, or a name and a value. -/
def bracedProperty? (inside : List Char) : Option CharSet :=
  match ((cutAtFirst? ['!', '='] inside).or (cutAtFirst? [':'] inside)).or
      (cutAtFirst? ['='] inside) with
  | some (name, value) => valuedSet? name value
  | none => namedSet? inside

/-- Reads the set of a property behind the letter that starts the escape. -/
def readProperty (flags : Flags) (negated : Bool) (text : List Char) :
    Option (Escape × List Char) := do
  let (set, after) ← match flags.skip text with
    | [] => none
    | '\x7b' :: rest => do
      let (inside, after) ← readBraced flags rest
      some (← bracedProperty? inside, after)
    | '\\' :: _ => none
    | c :: after => do some (← namedSet? [c], after)
  if flags.unicode then some (.chars (← flags.foldOrNegate? negated set), after) else none

/-- Whether a character may stand in the name of a place. -/
def inEdgeName (c : Char) : Bool := c.isAlpha || c == '-'

/-- Reads the letters of the name of a place, and the closing brace after them. -/
def readEdgeName (flags : Flags) (text : List Char) : Option (List Char × List Char) :=
  match text with
  | [] => none
  | c :: rest =>
    if c = '\x7d' then some ([], rest)
    else if inEdgeName c then
      (readEdgeName flags (flags.skip rest)).map fun (name, after) => (c :: name, after)
    else none
  termination_by text.length
  decreasing_by exact Nat.lt_succ_of_le (flags.length_skip_le rest)

/-- The place with a name. -/
def edgeOfName? (name : List Char) : Option Edge :=
  if name = "start".toList then some .start
  else if name = "end".toList then some .stop
  else if name = "start-half".toList then some .startHalf
  else if name = "end-half".toList then some .stopHalf
  else none

/--
Reads what follows a boundary of words: the name of a place in braces, if a letter or a dash comes
first in them. Other braces are left for the repetition that they may be.
-/
def readBoundary (flags : Flags) (text : List Char) : Option (Escape × List Char) := do
  let boundary := Escape.look (.word .boundary !flags.unicode)
  match text with
  | '\x7b' :: rest =>
    match flags.skip rest with
    | [] => none
    | c :: more =>
      if inEdgeName c then
        let (name, after) ← readEdgeName flags (c :: more)
        some (.look (.word (← edgeOfName? name) !flags.unicode), after)
      else some (boundary, text)
  | _ => some (boundary, text)

/-- Whether a backslash takes the special meaning of a character away, or leaves it as it is. -/
def isEscapable (c : Char) : Bool :=
  c.toNat < 0x80 && !c.isAlphanum && c != '<' && c != '>'

/-- Reads the escape behind a backslash. -/
def readEscape (flags : Flags) (text : List Char) : Option (Escape × List Char) :=
  match text with
  | [] => none
  | c :: rest =>
    let literal (code : Char) : Option (Escape × List Char) := some (.literal code false, rest)
    let edge (edge : Edge) : Option (Escape × List Char) :=
      some (.look (.word edge !flags.unicode), rest)
    if isEscapable c then literal c
    else match c with
      | 'x' => readHex flags c rest
      | 'u' => readHex flags c rest
      | 'U' => readHex flags c rest
      | 'p' => readProperty flags false rest
      | 'P' => readProperty flags true rest
      | 'a' => literal '\x07'
      | 'f' => literal '\x0C'
      | 't' => literal '\t'
      | 'n' => literal '\n'
      | 'r' => literal '\r'
      | 'v' => literal '\x0B'
      | 'A' => some (.look .textStart, rest)
      | 'z' => some (.look .textEnd, rest)
      | 'b' => readBoundary flags rest
      | 'B' => edge .noBoundary
      | '<' => edge .start
      | '>' => edge .stop
      | _ =>
        if c ∈ ['d', 's', 'w', 'D', 'S', 'W'] then
          (letterSet? flags c).map fun set => (.chars set, rest)
        else none

end ServiceLocation.Pattern
