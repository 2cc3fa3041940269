import ServiceLocation.Json.Reader

/-!
**The grammar of JSON.**

Which texts write which values, told apart from how they are read: with any blanks between the parts, any
spelling of the characters in strings, and any nesting.

* `StringText`: the texts of a string, by the units that it is made of;
* `NumberText`: the texts of numbers;
* `Writes`: **the texts of a value**, of the items of an array and of the members of an object;
* `IsText`: the whole texts of a value.
-/

namespace ServiceLocation.Json

open ServiceLocation.Text

/-- Blanks and nothing else. -/
def Blanks (text : List Char) : Prop := ∀ c ∈ text, isJsonBlank c = true

/-! ### Strings -/

/-- What a unit may be written as in a string: as the character, as a letter behind a backslash, or by its
number. -/
inductive UnitText : List Char → Nat → Prop where
  | plain {c : Char} (visible : 0x20 ≤ c.toNat) (noQuote : c ≠ '"') (noBackslash : c ≠ '\\') :
    UnitText [c] c.toNat
  | letter {letter c : Char} (stands : escaped? letter = some c) : UnitText ['\\', letter] c.toNat
  | code {a b c d : Char} {unit : Nat} (digits : number? 16 [a, b, c, d] = some unit) :
    UnitText ['\\', 'u', a, b, c, d] unit

/-- What several units may be written as. -/
inductive UnitsText : List Char → List Nat → Prop where
  | nil : UnitsText [] []
  | cons {first rest : List Char} {unit : Nat} {units : List Nat} (here : UnitText first unit)
      (later : UnitsText rest units) : UnitsText (first ++ rest) (unit :: units)

/-- What a string may be written as. It has no text if its units make none. -/
inductive StringText : List Char → Option (List Char) → Prop where
  | quotes {inside : List Char} {units : List Nat} (written : UnitsText inside units) :
    StringText ('"' :: (inside ++ ['"'])) (Utf16.decodeUnits? units)

/-! ### Numbers -/

/-- At least one digit. -/
structure Digits (text : List Char) : Prop where
  nonempty : text ≠ []
  all : ∀ c ∈ text, c.isDigit = true

/-- The digits in front: no zero is the first of several. -/
inductive WholeText : List Char → Prop where
  | zero : WholeText ['0']
  | digits {first : Char} {rest : List Char} (digits : Digits (first :: rest)) (noZero : first ≠ '0') :
    WholeText (first :: rest)

/-- A decimal point with digits behind it, or nothing. -/
inductive FractionText : List Char → Prop where
  | none : FractionText []
  | point {digits : List Char} (behind : Digits digits) : FractionText ('.' :: digits)

/-- The mark of an exponent, a sign or none, and digits; or nothing. -/
inductive ExponentText : List Char → Prop where
  | none : ExponentText []
  | mark {mark : Char} {sign digits : List Char} (isMark : mark = 'e' ∨ mark = 'E')
      (isSign : sign ∈ [[], ['+'], ['-']]) (behind : Digits digits) :
    ExponentText (mark :: (sign ++ digits))

/-- What numbers are written as. -/
inductive NumberText : List Char → Prop where
  | parts {sign whole fraction exponent : List Char} (isSign : sign ∈ [[], ['-']])
      (isWhole : WholeText whole) (isFraction : FractionText fraction)
      (isExponent : ExponentText exponent) : NumberText (sign ++ whole ++ fraction ++ exponent)

/-! ### Values -/

/-- What a part of a text may stand for. -/
inductive Part where
  | value (value : Value)
  /-- A member of an object: its key and its value. -/
  | member (member : Option (List Char) × Value)
  /-- Items of an array, with the bracket behind them. -/
  | items (items : List Value)
  /-- Members of an object, with the brace behind them. -/
  | members (members : List (Option (List Char) × Value))

/-- **What a value may be written as**, and what its parts may be: there is at least one item or one member
where any are written, with a comma between two of them. -/
inductive Writes : Part → List Char → Prop where
  | null : Writes (.value .null) ['n', 'u', 'l', 'l']
  | true : Writes (.value (.boolean true)) ['t', 'r', 'u', 'e']
  | false : Writes (.value (.boolean false)) ['f', 'a', 'l', 's', 'e']
  | number {text : List Char} (written : NumberText text) : Writes (.value (.number text)) text
  | string {text : List Char} {content : Option (List Char)} (written : StringText text content) :
    Writes (.value (.string content)) text
  | emptyArray {blanks : List Char} (blank : Blanks blanks) :
    Writes (.value (.array [])) ('[' :: (blanks ++ [']']))
  | array {text : List Char} {items : List Value} (inside : Writes (.items items) text) :
    Writes (.value (.array items)) ('[' :: text)
  | emptyObject {blanks : List Char} (blank : Blanks blanks) :
    Writes (.value (.object [])) ('\x7b' :: (blanks ++ ['\x7d']))
  | object {text : List Char} {members : List (Option (List Char) × Value)}
      (inside : Writes (.members members) text) : Writes (.value (.object members)) ('\x7b' :: text)
  | member {quoted behind before text : List Char} {key : Option (List Char)} {value : Value}
      (isKey : StringText quoted key) (blankBehind : Blanks behind) (blankBefore : Blanks before)
      (written : Writes (.value value) text) :
    Writes (.member (key, value)) (quoted ++ (behind ++ ':' :: (before ++ text)))
  | lastItem {before text behind : List Char} {item : Value} (blankBefore : Blanks before)
      (written : Writes (.value item) text) (blankBehind : Blanks behind) :
    Writes (.items [item]) (before ++ (text ++ (behind ++ [']'])))
  | moreItems {before text behind rest : List Char} {item : Value} {items : List Value}
      (blankBefore : Blanks before) (written : Writes (.value item) text) (blankBehind : Blanks behind)
      (later : Writes (.items items) rest) :
    Writes (.items (item :: items)) (before ++ (text ++ (behind ++ ',' :: rest)))
  | lastMember {before text behind : List Char} {member : Option (List Char) × Value}
      (blankBefore : Blanks before) (written : Writes (.member member) text)
      (blankBehind : Blanks behind) :
    Writes (.members [member]) (before ++ (text ++ (behind ++ ['\x7d'])))
  | moreMembers {before text behind rest : List Char} {member : Option (List Char) × Value}
      {members : List (Option (List Char) × Value)} (blankBefore : Blanks before)
      (written : Writes (.member member) text) (blankBehind : Blanks behind)
      (later : Writes (.members members) rest) :
    Writes (.members (member :: members)) (before ++ (text ++ (behind ++ ',' :: rest)))

/-- The whole texts of a value, with blanks around it. -/
inductive IsText : List Char → Value → Prop where
  | blanks {before text behind : List Char} {value : Value} (blankBefore : Blanks before)
      (written : Writes (.value value) text) (blankBehind : Blanks behind) :
    IsText (before ++ (text ++ behind)) value

end ServiceLocation.Json
