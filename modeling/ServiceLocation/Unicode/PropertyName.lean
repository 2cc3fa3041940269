import ServiceLocation.Text.AsciiCase
import ServiceLocation.Unicode.Age
import ServiceLocation.Unicode.BreakProperty
import ServiceLocation.Unicode.Property
import ServiceLocation.Unicode.Script

/-!
**Sets of code points by the names of properties.**

* `looseName`: a name as it is compared, without its case, its separators and a leading `is`;
* `namedSet?`: the set of a binary property, a general category or a script;
* `valuedSet?`: the set of a property that has a value, such as `sc=Greek`.
-/

namespace ServiceLocation.Unicode

open ServiceLocation.Text

/-- A name without separators and characters that no name has, in small letters. -/
def plainName (name : List Char) : List Char :=
  lowerAscii (name.filter fun c => c.toNat < 0x80 && !(c == ' ' || c == '_' || c == '-'))

/-- A name as it is compared: a leading `is` does not count, but for the name `isc`. -/
def looseName (name : List Char) : List Char :=
  match name with
  | first :: second :: rest =>
    if lowerAscii [first, second] = ['i', 's'] then
      let short := plainName rest
      if short = ['c'] then ['i', 's', 'c'] else short
    else plainName name
  | _ => plainName name

/-- Whether a loose name is one of the given names. -/
def isNamed (loose : List Char) (names : List String) : Bool :=
  names.any fun name => plainName name.toList == loose

/-- The general categories, alone and in groups, with their names. -/
def categoryNames : List (List String × (Category → Bool)) :=
  [(["Lu", "Uppercase_Letter"], (· == .uppercaseLetter)),
   (["Ll", "Lowercase_Letter"], (· == .lowercaseLetter)),
   (["Lt", "Titlecase_Letter"], (· == .titlecaseLetter)),
   (["LC", "Cased_Letter"],
    fun category => category ∈ [.uppercaseLetter, .lowercaseLetter, .titlecaseLetter]),
   (["Lm", "Modifier_Letter"], (· == .modifierLetter)),
   (["Lo", "Other_Letter"], (· == .otherLetter)),
   (["L", "Letter"], Category.isLetter),
   (["Mn", "Nonspacing_Mark"], (· == .nonspacingMark)),
   (["Mc", "Spacing_Mark"], (· == .spacingMark)),
   (["Me", "Enclosing_Mark"], (· == .enclosingMark)),
   (["M", "Mark", "Combining_Mark"], Category.isMark),
   (["Nd", "Decimal_Number", "digit"], (· == .decimalNumber)),
   (["Nl", "Letter_Number"], (· == .letterNumber)),
   (["No", "Other_Number"], (· == .otherNumber)),
   (["N", "Number"], Category.isNumber),
   (["Pc", "Connector_Punctuation"], (· == .connectorPunctuation)),
   (["Pd", "Dash_Punctuation"], (· == .dashPunctuation)),
   (["Ps", "Open_Punctuation"], (· == .openPunctuation)),
   (["Pe", "Close_Punctuation"], (· == .closePunctuation)),
   (["Pi", "Initial_Punctuation"], (· == .initialPunctuation)),
   (["Pf", "Final_Punctuation"], (· == .finalPunctuation)),
   (["Po", "Other_Punctuation"], (· == .otherPunctuation)),
   (["P", "Punctuation", "punct"], Category.isPunctuation),
   (["Sm", "Math_Symbol"], (· == .mathSymbol)),
   (["Sc", "Currency_Symbol"], (· == .currencySymbol)),
   (["Sk", "Modifier_Symbol"], (· == .modifierSymbol)),
   (["So", "Other_Symbol"], (· == .otherSymbol)),
   (["S", "Symbol"], Category.isSymbol),
   (["Zs", "Space_Separator"], (· == .spaceSeparator)),
   (["Zl", "Line_Separator"], (· == .lineSeparator)),
   (["Zp", "Paragraph_Separator"], (· == .paragraphSeparator)),
   (["Z", "Separator"], Category.isSeparator),
   (["Cc", "Control", "cntrl"], (· == .control)),
   (["Cf", "Format"], (· == .format)),
   (["Co", "Private_Use"], (· == .privateUse)),
   (["Cn", "Unassigned"], (· == .unassigned)),
   (["C", "Other"], Category.isOther),
   (["Any"], fun _ => true),
   (["Assigned"], (· != .unassigned))]

/-- The set of a general category, or one of the sets `any`, `assigned` and `ascii`. -/
def categorySet? (loose : List Char) : Option CharSet :=
  if loose = "ascii".toList then some (.range 0 0x7F)
  else (categoryNames.find? (isNamed loose ·.1)).map fun entry => Category.set entry.2

/-- The set of a binary property. -/
def propertySet? (loose : List Char) : Option CharSet :=
  (properties.find? fun property =>
    isNamed loose [property.name, property.shortName] ||
      (loose == "space".toList && property.name == "White_Space")).map (·.members)

/-- The first of the names that a value has, by any of them. -/
def firstName? (names : List (List String)) (loose : List Char) : Option String :=
  (names.find? (isNamed loose)).bind (·.head?)

/-- The four-letter name of a script. -/
def scriptCode? (loose : List Char) : Option String := firstName? scriptNames loose

/-- The code points that are at least as old as a version, by its name. -/
def ageSet? (loose : List Char) : Option CharSet :=
  (ageNames.findIdx? (isNamed loose)).map fun index => ageSet (index + 1)

/-- The short names that mean a general category, though a property has them too. -/
def categoryOnly : List String := ["cf", "sc", "lc"]

/-- The set of a binary property, a general category or a script. -/
def namedSet? (name : List Char) : Option CharSet :=
  let loose := looseName name
  let property := if isNamed loose categoryOnly then none else propertySet? loose
  (property.or (categorySet? loose)).or ((scriptCode? loose).map script)

/-- The set of the code points for which a property has a value. -/
def valuedSet? (name value : List Char) : Option CharSet :=
  let loose := looseName name
  let wanted := looseName value
  if isNamed loose ["General_Category", "gc"] then categorySet? wanted
  else if isNamed loose ["Script", "sc"] then (scriptCode? wanted).map script
  else if isNamed loose ["Script_Extensions", "scx"] then (scriptCode? wanted).map scriptExtension
  else if isNamed loose ["Age", "age"] then ageSet? wanted
  else if isNamed loose ["Grapheme_Cluster_Break", "GCB"] then
    (firstName? graphemeBreakNames wanted).map graphemeBreak
  else if isNamed loose ["Word_Break", "WB"] then (firstName? wordBreakNames wanted).map wordBreak
  else if isNamed loose ["Sentence_Break", "SB"] then
    (firstName? sentenceBreakNames wanted).map sentenceBreak
  else none

end ServiceLocation.Unicode
