/-!
**Ends of texts.**

* `dropFinal`: a text without a character at its end, if it ends with that character;
* `dropFinals`: the same for all occurrences of the character at the end;
* `holds`: whether a text occurs in another.
-/

namespace ServiceLocation.Text

/-- A text without `mark` at its end, if it ends with it; one occurrence is dropped. -/
def dropFinal (mark : Char) (text : List Char) : List Char :=
  if text.getLast? = some mark then text.dropLast else text

@[simp] theorem dropFinal_concat (mark : Char) (text : List Char) :
    dropFinal mark (text ++ [mark]) = text := by
  simp [dropFinal]

/-- A text without all occurrences of `mark` at its end. -/
def dropFinals (mark : Char) (text : List Char) : List Char :=
  (text.reverse.dropWhile (· == mark)).reverse

/-- Whether `part` occurs in a text. -/
def holds (part : List Char) (text : List Char) : Bool :=
  part.isPrefixOf text ||
    match text with
    | [] => false
    | _ :: rest => holds part rest

end ServiceLocation.Text
