import ServiceLocation.Idna.MappingTable
import ServiceLocation.Idna.Punycode
import ServiceLocation.Unicode.BidiClass
import ServiceLocation.Unicode.Category
import ServiceLocation.Unicode.Composition
import ServiceLocation.Unicode.JoiningType

/-!
**Domain names in their ASCII form.**

* `mapText`: the mapping of characters, then the composed normal form;
* `isWellFormed`: no label starts with a mark, and joiners stand only where they join;
* `obeysBidiRule`: the rule for labels in names that are written from right to left;
* `readLabel?`, `toAscii?`: each label in its ASCII form, or nothing if a label is not valid.

Empty labels and labels of any length are taken.
-/

namespace ServiceLocation.Idna

open ServiceLocation.Text ServiceLocation.Unicode

/-- The ASCII characters that no domain name in a URL may hold. -/
def isForbidden (c : Char) : Bool :=
  c.toNat ≤ 0x20 || c.toNat == 0x7F ||
    c ∈ ['%', '#', '/', ':', '<', '>', '?', '@', '[', '\\', ']', '^', '|']

/-- Whether a character is ASCII. -/
def isAscii (c : Char) : Bool := c.toNat < 0x80

/-- The code points that take the place of one with a status; `none` if it may not occur. -/
def Status.replacement? (code : Nat) : Status → Option (List Nat)
  | valid => some [code]
  | ignored => some []
  | disallowed => none
  | mapped codes => some codes
  | raised distance => some [code + distance]
  | lowered distance => some [code - distance]

/-- The code points that take the place of a character; `none` if it may not occur. -/
def mapChar? (c : Char) : Option (List Nat) := (Status.ofChar c).replacement? c.toNat

/-- The characters of code points in the composed normal form. -/
def composedText (codes : List Nat) : List Char := (composed codes).map Char.ofNat

/-- A name with its characters mapped, in the composed normal form. -/
def mapText (text : List Char) : Option (List Char) :=
  (text.mapM mapChar?).map fun codes => composedText codes.flatten

/-- The zero-width non-joiner. -/
def nonJoiner : Char := '\u200C'

/-- The zero-width joiner. -/
def joiner : Char := '\u200D'

/-- Whether a character is a virama. -/
def isVirama (c : Char) : Bool := combiningClass c.toNat == 9

/-- Whether the first character that does not let joining through has a wanted type. -/
def joins (wanted : JoiningType → Bool) : List Char → Bool
  | [] => false
  | c :: rest =>
    let type := JoiningType.ofChar c
    if wanted type then true else if type == .transparent then joins wanted rest else false

/-- Whether every joiner stands where it joins; `before` is what comes before, last one first. -/
def joinersFit (before : List Char) : List Char → Bool
  | [] => true
  | c :: rest =>
    let fits :=
      if c == nonJoiner || c == joiner then
        match before with
        | [] => false
        | previous :: _ =>
          isVirama previous ||
            (c == nonJoiner && joins JoiningType.joinsForward before &&
              joins JoiningType.joinsBackward rest)
      else true
    fits && joinersFit (c :: before) rest

/-- Whether a label starts with no mark and its joiners stand where they join. -/
def isWellFormed (label : List Char) : Bool :=
  !(label.head?.any isMark) && joinersFit [] label

/-- Whether a character makes a name one that is written from right to left. -/
def isRightToLeft (c : Char) : Bool :=
  BidiClass.ofChar c ∈ [.rightToLeft, .arabicLetter, .arabicNumber]

/-- The classes that a label written from left to right may hold. -/
def leftClasses : List BidiClass :=
  [.leftToRight, .europeanNumber, .europeanSeparator, .commonSeparator, .europeanTerminator,
   .otherNeutral, .boundaryNeutral, .nonspacingMark]

/-- The classes that a label written from right to left may hold. -/
def rightClasses : List BidiClass :=
  [.rightToLeft, .arabicLetter, .arabicNumber, .europeanNumber, .europeanSeparator,
   .commonSeparator, .europeanTerminator, .otherNeutral, .boundaryNeutral, .nonspacingMark]

/-- The last class of a label that is not a nonspacing mark. -/
def endingClass? (classes : List BidiClass) : Option BidiClass :=
  classes.reverse.find? (· != .nonspacingMark)

/-- Whether a label obeys the rule for names that are written from right to left. -/
def obeysBidiRule (label : List Char) : Bool :=
  let classes := label.map BidiClass.ofChar
  match classes with
  | [] => true
  | .leftToRight :: _ =>
    classes.all (· ∈ leftClasses) &&
      (endingClass? classes).any (· ∈ [.leftToRight, .europeanNumber])
  | first :: _ =>
    first ∈ [.rightToLeft, .arabicLetter] && classes.all (· ∈ rightClasses) &&
      (endingClass? classes).any
        (· ∈ [.rightToLeft, .arabicLetter, .europeanNumber, .arabicNumber]) &&
      !(classes.contains .europeanNumber && classes.contains .arabicNumber)

/-- The start of a coded label. -/
def codedStart : List Char := ['x', 'n', '-', '-']

/-- A coded label longer than this is not read. -/
def longestCoded : Nat := 2000

/-- A label longer than this is not coded. -/
def longestUncoded : Nat := 1000

/-- A label in its ASCII form and with its characters. -/
structure Label where
  ascii : List Char
  characters : List Char
  deriving Repr, DecidableEq

/-- The characters of a coded label, without its start, if they are those of a valid label. -/
def decodeLabel? (coded : List Char) : Option (List Char) :=
  if coded.isEmpty || coded.getLast? == some '-' || longestCoded < coded.length then none
  else do
    let characters ← Punycode.decode? coded
    let isStable := characters.all (Status.ofChar · == .valid) &&
      composedText (characters.map Char.toNat) == characters
    let isAllowed := characters.all fun c => !isForbidden c && c != '.'
    if isStable && isAllowed && isWellFormed characters then some characters else none

/-- A mapped label, if it is valid. -/
def readLabel? (label : List Char) : Option Label :=
  if codedStart.isPrefixOf label then
    if label.all isAscii then
      (decodeLabel? (label.drop 4)).map fun characters => { ascii := label, characters }
    else none
  else if label.any isForbidden then none
  else if label.all isAscii then some { ascii := label, characters := label }
  else if isWellFormed label && label.length ≤ longestUncoded then
    some { ascii := codedStart ++ Punycode.encode label, characters := label }
  else none

/-- The ASCII form of a domain name; `none` if one of its labels is not valid. -/
def toAscii? (name : List Char) : Option (List Char) := do
  let mapped ← mapText name
  let labels ← (mapped.splitOn '.').mapM readLabel?
  if labels.any (·.characters.any isRightToLeft) &&
      !labels.all (obeysBidiRule ·.characters) then none
  else some (List.intercalate ['.'] (labels.map (·.ascii)))

end ServiceLocation.Idna
