/-!
**Reading step by step.**

* `Progress`: whether a step leaves more to read or finishes;
* `readLoop`: a step repeated until it finishes. A step that goes on has to read something, and so
  the loop ends.
-/

namespace ServiceLocation.Text

/-- What a step of reading leads to. -/
inductive Progress (σ α : Type) where
  /-- There is more to read. -/
  | more (state : σ)
  /-- Everything is read. -/
  | done (result : α)

/-- A step repeated until it finishes, with the text that is left then. -/
def readLoop {σ α : Type} (step : σ → List Char → Option (Progress σ α × List Char)) (state : σ)
    (text : List Char) : Option (α × List Char) :=
  match step state text with
  | none => none
  | some (.done result, rest) => some (result, rest)
  | some (.more next, rest) =>
    if _shorter : rest.length < text.length then readLoop step next rest else none
  termination_by text.length

end ServiceLocation.Text
