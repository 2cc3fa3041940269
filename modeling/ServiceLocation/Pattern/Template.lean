import ServiceLocation.Text.Numeral

/-!
**Templates.**

A template writes the text that takes the place of a match. A dollar sign in front of a number or a
name, which may stand in braces, refers to a group of the pattern, and two of them stand for one.
All else stands for itself.

* `Reference`: a reference to a group;
* `readReference?`: the reference behind a dollar sign, if there is one;
* `fillIn`: the text that a template stands for, given what references stand for.
-/

namespace ServiceLocation.Pattern

open ServiceLocation.Text

/-- A reference to a group of a pattern. -/
inductive Reference where
  | number (index : Nat)
  | name (name : List Char)
  deriving Repr, DecidableEq

namespace Reference

/-- A text without a plus sign in front. -/
def withoutPlus : List Char → List Char
  | '+' :: rest => rest
  | text => text

/-- The reference that a text writes: a number if it is one below `2 ^ 64`, and else a name. -/
def ofText (text : List Char) : Reference :=
  match (number? 10 (withoutPlus text)).filter (· < UInt64.size) with
  | some index => number index
  | none => name text

end Reference

/-- Whether a character may stand in a reference without braces. -/
def inReference (c : Char) : Bool := c.isAlphanum || c == '_'

/-- Reads the reference behind a dollar sign; without one the sign stands for itself. -/
def readReference? : List Char → Option (Reference × List Char)
  | '\x7b' :: rest =>
    match rest.dropWhile (· != '\x7d') with
    | _ :: after => some (.ofText (rest.takeWhile (· != '\x7d')), after)
    | [] => none
  | text =>
    let written := text.takeWhile inReference
    if written.isEmpty then none else some (.ofText written, text.dropWhile inReference)

/-- What is left behind a reference is no longer than the text. -/
theorem length_le_of_readReference? {text after : List Char} {reference : Reference}
    (read : readReference? text = some (reference, after)) : after.length ≤ text.length := by
  unfold readReference? at read
  split at read
  · rename_i rest
    have shorter := (List.dropWhile_suffix (· != '\x7d') (l := rest)).length_le
    split at read
    · rename_i left
      rw [left, List.length_cons] at shorter
      obtain ⟨-, rfl⟩ := Prod.mk.inj (Option.some.inj read)
      rw [List.length_cons]
      omega
    · cases read
  · dsimp only at read
    split at read
    · cases read
    · obtain ⟨-, rfl⟩ := Prod.mk.inj (Option.some.inj read)
      exact (List.dropWhile_suffix inReference).length_le

/-- The text that a template stands for. -/
def fillIn (referent : Reference → List Char) (template : List Char) : List Char :=
  match template with
  | [] => []
  | '$' :: '$' :: rest => '$' :: fillIn referent rest
  | '$' :: rest =>
    match _read : readReference? rest with
    | some (reference, after) => referent reference ++ fillIn referent after
    | none => '$' :: fillIn referent rest
  | c :: rest => c :: fillIn referent rest
  termination_by template.length
  decreasing_by
    · simp only [List.length_cons]
      omega
    · exact Nat.lt_succ_of_le (length_le_of_readReference? _read)
    · exact Nat.lt_succ_self _
    · exact Nat.lt_succ_self _

end ServiceLocation.Pattern
