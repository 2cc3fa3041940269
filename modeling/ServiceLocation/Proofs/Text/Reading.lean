import ServiceLocation.Text.Reading

/-!
**What a reader does is told by its steps.**

* `readLoop_of_done`, `readLoop_of_more`: a step that finishes, and one that goes on;
* `readLoop_induct`: what each step keeps holds of what is read.
-/

namespace ServiceLocation.Text

variable {σ α : Type} {step : σ → List Char → Option (Progress σ α × List Char)} {state next : σ}
  {text rest : List Char} {result : α}

theorem readLoop_of_done (finishes : step state text = some (.done result, rest)) :
    readLoop step state text = some (result, rest) := by
  rw [readLoop, finishes]

/-- After a step that goes on, what is left is read. -/
theorem readLoop_of_more (goesOn : step state text = some (.more next, rest))
    (shorter : rest.length < text.length) : readLoop step state text = readLoop step next rest := by
  rw [readLoop, goesOn]
  exact dif_pos shorter

/-- What each step of a reader keeps, up to the last one. -/
theorem readLoop_induct (Holds : σ → Prop) (Ends : α → Prop)
    (goesOn : ∀ {state text next rest}, Holds state → step state text = some (.more next, rest) →
      Holds next)
    (ends : ∀ {state text result rest}, Holds state → step state text = some (.done result, rest) →
      Ends result)
    (holds : Holds state)
    (read : readLoop step state text = some (result, rest)) : Ends result := by
  fun_induction readLoop step state text with
  | case1 => cases read
  | case2 state text result' rest' is =>
    cases read
    exact ends holds is
  | case3 state text next rest' is shorter ih => exact ih (goesOn holds is) read
  | case4 => cases read

end ServiceLocation.Text
