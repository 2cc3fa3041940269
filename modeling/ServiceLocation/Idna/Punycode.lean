/-!
**Punycode.**

A label is its ASCII characters, a hyphen if there are any, and then the other characters as steps
of a walk through all pairs of a code point and a position, each step a numeral in base 36 whose
digits have the weights that `threshold` fixes.

* `decode?`: the characters of a coded label;
* `encode`: the code of a label.
-/

namespace ServiceLocation.Idna.Punycode

/-- The first code point that is coded. -/
def firstCode : Nat := 0x80

/-- The bias before the first step. -/
def firstBias : Nat := 72

/-- Numbers stay below this one. -/
def wordLimit : Nat := UInt32.size

/-- The digit of a value below 36. -/
def digit (value : Nat) : Char :=
  if value < 26 then Char.ofNat ('a'.toNat + value) else Char.ofNat ('0'.toNat + (value - 26))

/-- The value of a digit. -/
def value? (c : Char) : Option Nat :=
  if 'a' ≤ c ∧ c ≤ 'z' then some (c.toNat - 'a'.toNat)
  else if 'A' ≤ c ∧ c ≤ 'Z' then some (c.toNat - 'A'.toNat)
  else if '0' ≤ c ∧ c ≤ '9' then some (c.toNat - '0'.toNat + 26)
  else none

/-- The threshold of the digit at place `place`, counted in steps of 36. -/
def threshold (place bias : Nat) : Nat :=
  if place ≤ bias then 1 else if bias + 26 ≤ place then 26 else place - bias

theorem threshold_pos (place bias : Nat) : 0 < threshold place bias := by
  unfold threshold
  split
  · omega
  · split <;> omega

theorem threshold_le (place bias : Nat) : threshold place bias ≤ 26 := by
  unfold threshold
  split
  · omega
  · split <;> omega

/-- A number divided by 35 until it is at most 455, counting the places. -/
def settle (delta places : Nat) : Nat :=
  if 455 < delta then settle (delta / 35) (places + 36)
  else places + 36 * delta / (delta + 38)
  termination_by delta
  decreasing_by omega

/-- The bias after a step of `delta`, when there are `count` characters. -/
def adapt (delta count : Nat) (isFirst : Bool) : Nat :=
  let scaled := if isFirst then delta / 700 else delta / 2
  settle (scaled + scaled / count) 0

/-- The step that digits write, added to `index`, and the digits left over. -/
def readStep (bias index weight place : Nat) : List Char → Option (Nat × List Char)
  | [] => none
  | c :: rest =>
    match value? c with
    | none => none
    | some value =>
      let next := index + value * weight
      let limit := threshold place bias
      if wordLimit ≤ next then none
      else if value < limit then some (next, rest)
      else if wordLimit ≤ weight * (36 - limit) then none
      else readStep bias next (weight * (36 - limit)) (place + 36) rest

/-- A step leaves fewer digits than it was given. -/
theorem length_of_readStep {bias index weight place : Nat} {text rest : List Char} {next : Nat}
    (step : readStep bias index weight place text = some (next, rest)) :
    rest.length < text.length := by
  induction text generalizing index weight place with
  | nil => simp [readStep] at step
  | cons c text ih =>
    rw [readStep] at step
    split at step
    · simp at step
    · dsimp only at step
      split at step
      · simp at step
      · split at step
        · obtain ⟨-, rfl⟩ := Prod.mk.inj (Option.some.inj step)
          simp
        · split at step
          · simp at step
          · exact Nat.lt_succ_of_lt (ih step)

/-- The characters that `text` inserts into `known`, walking on from `code` and `index`. -/
def decodeFrom (known : List Char) (code index bias : Nat) (text : List Char) :
    Option (List Char) :=
  if text.isEmpty then some known
  else match _taken : readStep bias index 1 36 text with
    | none => none
    | some (next, rest) =>
      let count := known.length + 1
      let codeHere := code + next / count
      let position := next % count
      if codeHere.isValidChar then
        decodeFrom (known.take position ++ Char.ofNat codeHere :: known.drop position) codeHere
          (position + 1) (adapt (next - index) count (index == 0)) rest
      else none
  termination_by text.length
  decreasing_by exact length_of_readStep _taken

/-- The text before the last hyphen, if there is one past the start, and the text after it. -/
def cutAtLastHyphen (text : List Char) : List Char × List Char :=
  let coded := (text.reverse.takeWhile (· ≠ '-')).reverse
  let before := text.take (text.length - coded.length - 1)
  if coded.length < text.length ∧ before ≠ [] then (before, coded) else ([], text)

/-- The characters of a coded label. -/
def decode? (text : List Char) : Option (List Char) :=
  let (plain, coded) := cutAtLastHyphen text
  decodeFrom plain firstCode 0 firstBias coded

/-- The digits of a step, from the place `place` on. -/
def writeStep (bias place step : Nat) : List Char :=
  let limit := threshold place bias
  if step < limit then [digit step]
  else digit (limit + (step - limit) % (36 - limit)) ::
    writeStep bias (place + 36) ((step - limit) / (36 - limit))
  termination_by step
  decreasing_by
    have positive := threshold_pos place bias
    have smaller := Nat.div_le_self (step - threshold place bias) (36 - threshold place bias)
    omega

/-- Where the walk stands while a label is coded. -/
structure Walk where
  /-- The code so far. -/
  code : List Char
  /-- The pairs passed since the last step. -/
  delta : Nat
  bias : Nat
  /-- The number of characters already placed. -/
  placed : Nat

/-- The walk past one character of the label, at the code point `current`. -/
def Walk.pass (plainCount current : Nat) (walk : Walk) (c : Char) : Walk :=
  if c.toNat < current then { walk with delta := walk.delta + 1 }
  else if c.toNat = current then
    { code := walk.code ++ writeStep walk.bias 36 walk.delta, delta := 0
      bias := adapt walk.delta (walk.placed + 1) (walk.placed == plainCount)
      placed := walk.placed + 1 }
  else walk

/-- The walk through the given code points, in increasing order, from `start` on. -/
def Walk.through (plainCount : Nat) (label : List Char) : Nat → Walk → List Nat → Walk
  | _, walk, [] => walk
  | start, walk, current :: rest =>
    let arrived := { walk with delta := walk.delta + (current - start) * (walk.placed + 1) }
    let passed := label.foldl (Walk.pass plainCount current) arrived
    Walk.through plainCount label (current + 1) { passed with delta := passed.delta + 1 } rest

/-- The code points of a label that are coded, in increasing order and each once. -/
def codedPoints (label : List Char) : List Nat :=
  ((label.map Char.toNat).filter (firstCode ≤ ·)).mergeSort.eraseDups

/-- The code of a label. -/
def encode (label : List Char) : List Char :=
  let plain := label.filter (·.toNat < firstCode)
  let start := if plain.isEmpty then [] else plain ++ ['-']
  let walk : Walk := { code := start, delta := 0, bias := firstBias, placed := plain.length }
  (walk.through plain.length label firstCode (codedPoints label)).code

end ServiceLocation.Idna.Punycode
