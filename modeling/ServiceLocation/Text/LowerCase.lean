import ServiceLocation.Text.CharSet
import ServiceLocation.Text.LowerCaseTable

/-!
**Lower-casing of text, independent of any language.**

* Every capital has the small letter of `shifts`; `İ` becomes `i` and a dot above.
* A capital sigma becomes `ς` at the end of a word and `σ` elsewhere. It ends a word when a cased
  letter comes before it and none after it, skipping in both directions the characters that case
  ignores.
-/

namespace ServiceLocation.Text

/-- The characters with the property `Cased`. -/
def cased : CharSet := ⟨casedBoundaries⟩

/-- The characters with the property `Case_Ignorable`. -/
def caseIgnorable : CharSet := ⟨caseIgnorableBoundaries⟩

/-- The capital sigma. -/
def capitalSigma : Char := 'Σ'

/-- The lower case of a character, regardless of what stands around it. -/
def lowerChar (c : Char) : List Char :=
  if c.toNat < 0x80 then [c.toLower]
  else if c = 'İ' then ['i', '\u0307']
  else match shifts.findSome? (·.lower? c.toNat) with
    | some code => [Char.ofNat code]
    | none => [c]

/-- Whether the first character that case does not ignore is cased. -/
def startsCased : List Char → Bool
  | [] => false
  | c :: rest => if caseIgnorable.contains c then startsCased rest else cased.contains c

/-- Whether a cased letter comes last before a point, when `c` is put in front of that point. -/
def casedAfter (casedBefore : Bool) (c : Char) : Bool :=
  if caseIgnorable.contains c then casedBefore else cased.contains c

/-- The lower case of a text that follows a cased letter or none. -/
def lowerFrom (casedBefore : Bool) : List Char → List Char
  | [] => []
  | c :: rest =>
    let lowered :=
      if c = capitalSigma then (if casedBefore && !startsCased rest then ['ς'] else ['σ'])
      else lowerChar c
    lowered ++ lowerFrom (casedAfter casedBefore c) rest

/-- The lower case of a text. -/
def lowerCase (text : List Char) : List Char := lowerFrom false text

/-- `lowerCase` on strings. -/
def lowerCased (text : String) : String := String.ofList (lowerCase text.toList)

@[simp] theorem toList_lowerCased (text : String) :
    (lowerCased text).toList = lowerCase text.toList := by
  simp [lowerCased]

end ServiceLocation.Text
