/-!
**Blank characters and trimming.**

* `isBlank`: the characters with the Unicode property `White_Space`;
* `trim`: a text without the blanks at its two ends;
* `trim_trim`: trimming twice changes nothing more;
* `head_trim`, `getLast_trim`: what is left neither starts nor ends with a blank.
-/

namespace ServiceLocation.Text

/-- The characters with the Unicode property `White_Space`. -/
def isBlank (c : Char) : Bool :=
  let code := c.toNat
  (0x9 ≤ code && code ≤ 0xD) || code == 0x20 || code == 0x85 || code == 0xA0 ||
  code == 0x1680 || (0x2000 ≤ code && code ≤ 0x200A) || code == 0x2028 || code == 0x2029 ||
  code == 0x202F || code == 0x205F || code == 0x3000

/-- A text without its trailing blanks. -/
def trimRight (text : List Char) : List Char := (text.reverse.dropWhile isBlank).reverse

/-- A text without the blanks at its two ends. -/
def trim (text : List Char) : List Char := trimRight (text.dropWhile isBlank)

/-- `trim` on strings. -/
def trimmed (text : String) : String := String.ofList (trim text.toList)

@[simp] theorem toList_trimmed (text : String) : (trimmed text).toList = trim text.toList := by
  simp [trimmed]

/-- Dropping blanks leaves a text that starts with none. -/
theorem head_dropWhile_isBlank (text : List Char) (c : Char)
    (first : (text.dropWhile isBlank).head? = some c) : isBlank c = false := by
  have kept := List.head?_dropWhile_not isBlank text
  rw [first] at kept
  simpa using kept

/-- A text that starts with no blank keeps its start. -/
theorem dropWhile_isBlank_of_head {text : List Char}
    (start : ∀ c, text.head? = some c → isBlank c = false) : text.dropWhile isBlank = text := by
  cases text with
  | nil => rfl
  | cons c rest => simp [start c rfl]

/-- What `trimRight` leaves does not end with a blank. -/
theorem getLast_trimRight (text : List Char) (c : Char)
    (last : (trimRight text).getLast? = some c) : isBlank c = false := by
  rw [trimRight, List.getLast?_reverse] at last
  exact head_dropWhile_isBlank _ _ last

/-- What `trim` leaves does not end with a blank. -/
theorem getLast_trim (text : List Char) (c : Char)
    (last : (trim text).getLast? = some c) : isBlank c = false :=
  getLast_trimRight _ c last

/-- `trimRight` keeps a start of the text. -/
theorem trimRight_isPrefix (text : List Char) : trimRight text <+: text := by
  have kept := List.dropWhile_suffix isBlank (l := text.reverse)
  simpa [trimRight] using List.reverse_prefix.mpr kept

/-- What `trim` leaves does not start with a blank. -/
theorem head_trim (text : List Char) (c : Char)
    (first : (trim text).head? = some c) : isBlank c = false := by
  have kept := trimRight_isPrefix (text.dropWhile isBlank)
  obtain ⟨rest, whole⟩ := kept
  refine head_dropWhile_isBlank text c ?_
  rw [← whole]
  rw [trim] at first
  cases trimmed : trimRight (text.dropWhile isBlank) with
  | nil => rw [trimmed] at first; simp at first
  | cons d more => rw [trimmed] at first; simpa using first

/-- A text that ends with no blank keeps its end. -/
theorem trimRight_of_getLast {text : List Char}
    (ending : ∀ c, text.getLast? = some c → isBlank c = false) : trimRight text = text := by
  have start : ∀ c, text.reverse.head? = some c → isBlank c = false := by
    intro c head
    exact ending c (by simpa [List.head?_reverse] using head)
  rw [trimRight, dropWhile_isBlank_of_head start, List.reverse_reverse]

/-- Trimming twice changes nothing more. -/
theorem trim_trim (text : List Char) : trim (trim text) = trim text := by
  have ends := getLast_trim text
  have starts := head_trim text
  rw [trim, dropWhile_isBlank_of_head starts, trimRight_of_getLast ends]

end ServiceLocation.Text
