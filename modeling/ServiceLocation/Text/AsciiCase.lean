/-!
**Case of the ASCII letters.**

`Char.toLower` moves the letters `A` to `Z` alone, so it is the ASCII lower-casing.

* `eqIgnoreCase`: two texts agree up to the case of their ASCII letters;
* `eqIgnoreCase_iff`: that is equality of the lowered texts.
-/

namespace ServiceLocation.Text

/-- A text with its ASCII capitals lowered and everything else kept. -/
def lowerAscii (text : List Char) : List Char := text.map Char.toLower

/-- Two texts agree up to the case of their ASCII letters. -/
def eqIgnoreCase (first second : List Char) : Bool := lowerAscii first == lowerAscii second

theorem eqIgnoreCase_iff {first second : List Char} :
    eqIgnoreCase first second = true ↔ lowerAscii first = lowerAscii second := by
  simp [eqIgnoreCase]

@[simp] theorem length_lowerAscii (text : List Char) :
    (lowerAscii text).length = text.length := by
  simp [lowerAscii]

end ServiceLocation.Text
