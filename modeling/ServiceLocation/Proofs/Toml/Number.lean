import ServiceLocation.Proofs.Text.Characters
import ServiceLocation.Proofs.Text.Numeral
import ServiceLocation.Toml.Number

/-!
**Numbers of TOML are read back.**

The digits of a number are read as an integer and as nothing else, whatever comes behind them, so long as
it starts with a character that no number has.

* `int64?_eq_some_iff`: which numbers are integers of 64 bits;
* `inNumber`: the characters of numbers and of points in time;
* `readDateTime_digits`, `readFloat_digits`: digits alone are no point in time, and have no fraction;
* `readNumber_toString`: **so a number is read back as an integer**.
-/

namespace ServiceLocation.Toml

open ServiceLocation.Text

variable {c : Char} {digits : List Char} (rest : List Char)

/-! ### Integers of 64 bits -/

theorem int64?_toInt (value : Int64) : int64? value.toInt = some value := by
  rw [int64?, if_pos ⟨value.minValue_le_toInt, value.toInt_le⟩, Int64.ofInt_toInt]

/-- **A number is an integer of 64 bits just if one stands for it.** -/
theorem int64?_eq_some_iff {number : Int} {value : Int64} :
    int64? number = some value ↔ value.toInt = number := by
  constructor
  · intro is
    obtain ⟨⟨least, most⟩, same⟩ := Option.ite_none_right_eq_some.1 is
    rw [Int64.toInt_minValue] at least
    rw [Int64.toInt_maxValue] at most
    rw [← Option.some.inj same]
    exact Int64.toInt_ofInt_of_le least (by omega)
  · rintro rfl
    exact int64?_toInt value

/-! ### Where numbers end -/

/-- Whether a character may stand in a number or in a point in time, with a letter for the mark of a base
or of an exponent. -/
def inNumber (c : Char) : Bool := c.isAlphanum || c ∈ ['_', '.', '+', '-', ':']

section

variable (stops : inNumber c = false)

include stops

theorem ne_of_inNumber {d : Char} (inside : inNumber d = true) : c ≠ d :=
  (ne_of_kind inside stops).symm

theorem isDigit_eq_false_of_inNumber : c.isDigit = false := by
  simp only [inNumber, Char.isAlphanum, Bool.or_eq_false_iff] at stops
  exact stops.1.2

theorem readRun_digits (all : ∀ d ∈ digits, d.isDigit = true) :
    readRun Char.isDigit (digits ++ c :: rest) = (digits, c :: rest) := by
  induction digits with
  | nil =>
    have noScore := ne_of_inNumber stops (d := '_') rfl
    have noDigit := isDigit_eq_false_of_inNumber stops
    rw [List.nil_append, readRun.eq_3 _ _ _ (fun _ _ is _ => noScore is), noDigit]
    rfl
  | cons d digits ih =>
    have digit := all d List.mem_cons_self
    have noScore : d ≠ '_' := ne_of_kind digit rfl
    have later := ih fun e member => all e (List.mem_cons_of_mem _ member)
    rw [List.cons_append, readRun.eq_3 _ _ _ (fun _ _ is _ => noScore is), digit, later]
    rfl

/-- A number is read with all its digits; a zero in front is the only one. -/
theorem readDecimal_toDigits (number : Nat) :
    readDecimal (Nat.toDigits 10 number ++ c :: rest) =
      some (Nat.toDigits 10 number, c :: rest) := by
  have all : ∀ d ∈ Nat.toDigits 10 number, d.isDigit = true := fun _ =>
    Nat.isDigit_of_mem_toDigits (by decide) (by decide)
  rcases Nat.eq_zero_or_pos number with rfl | positive
  · rfl
  · obtain ⟨digit, digits, is, other⟩ := exists_toDigits_of_pos (by decide : 2 ≤ 10) (by decide) positive
    rw [is] at all ⊢
    rw [List.cons_append, readDecimal.eq_2 _ (fun _ starts => other (List.cons.inj starts).1),
      readDigits, all digit List.mem_cons_self, if_pos rfl,
      readRun_digits rest stops fun d member => all d (List.mem_cons_of_mem _ member)]

/-! ### What digits alone are not -/

/-- A number of some digits is read from as many of them. -/
theorem exists_of_readFixed {count low high number : Nat} {after : List Char}
    (all : ∀ d ∈ digits, d.isDigit = true)
    (read : readFixed count low high (digits ++ c :: rest) = some (number, after)) :
    ∃ later, (∀ d ∈ later, d.isDigit = true) ∧ after = later ++ c :: rest := by
  have noDigit := isDigit_eq_false_of_inNumber stops
  unfold readFixed at read
  dsimp only at read
  split at read
  · rename_i found
    obtain ⟨length, digital⟩ := found
    obtain ⟨number', _, kept⟩ := Option.bind_eq_some_iff.1 read
    obtain ⟨_, same⟩ := Option.ite_none_right_eq_some.1 kept
    have within : count ≤ digits.length := by
      by_contra beyond
      refine absurd (List.all_eq_true.1 digital c ?_) (by simp [noDigit])
      rw [List.take_append, List.take_of_length_le (by omega)]
      obtain ⟨more, is⟩ : ∃ more, count - digits.length = more + 1 :=
        ⟨count - digits.length - 1, by omega⟩
      rw [is, List.take_succ_cons]
      exact List.mem_append_right _ List.mem_cons_self
    refine ⟨digits.drop count, fun d member => all d (List.mem_of_mem_drop member), ?_⟩
    rw [← (Prod.mk.inj (Option.some.inj same)).2, List.drop_append_of_le_length within]
  · cases read

omit stops in
/-- Behind digits there is no mark. -/
theorem readMark_digits {mark : Char} (all : ∀ d ∈ digits, d.isDigit = true)
    (noDigit : mark.isDigit = false) (other : c ≠ mark) :
    readMark mark (digits ++ c :: rest) = none := by
  cases digits with
  | nil => exact if_neg other
  | cons d digits => exact if_neg (ne_of_kind (all d List.mem_cons_self) noDigit)

theorem readDate_digits (all : ∀ d ∈ digits, d.isDigit = true) :
    readDate (digits ++ c :: rest) = none := by
  rw [readDate]
  cases year : readFixed 4 0 9999 (digits ++ c :: rest) with
  | none => rfl
  | some found =>
    obtain ⟨later, digital, is⟩ := exists_of_readFixed rest stops all year
    have noMark := readMark_digits rest digital rfl (ne_of_inNumber stops (d := '-') rfl)
    simp [is, noMark]

theorem readTime_digits (all : ∀ d ∈ digits, d.isDigit = true) :
    readTime (digits ++ c :: rest) = none := by
  rw [readTime]
  cases hour : readFixed 2 0 23 (digits ++ c :: rest) with
  | none => rfl
  | some found =>
    obtain ⟨later, digital, is⟩ := exists_of_readFixed rest stops all hour
    have noMark := readMark_digits rest digital rfl (ne_of_inNumber stops (d := ':') rfl)
    simp [is, noMark]

/-- Digits alone are no point in time. -/
theorem readDateTime_digits (all : ∀ d ∈ digits, d.isDigit = true) :
    readDateTime (digits ++ c :: rest) = none := by
  simp [readDateTime, readDate_digits rest stops all, readTime_digits rest stops all]

theorem readFraction_none : readFraction (c :: rest) = some ([], c :: rest) :=
  readFraction.eq_2 _ fun _ starts => ne_of_inNumber stops rfl (List.cons.inj starts).1

theorem readExponent_none : readExponent (c :: rest) = some (0, c :: rest) :=
  if_neg (not_or_intro (ne_of_inNumber stops rfl) (ne_of_inNumber stops rfl))

end

/-! ### Reading back -/

/-- A text starts with the first digit of the number in front of it. -/
theorem exists_toDigits_append (number : Nat) (after : List Char) :
    ∃ digit digits, digit.isDigit = true ∧ Nat.toDigits 10 number ++ after = digit :: digits := by
  cases is : Nat.toDigits 10 number with
  | nil => exact absurd is Nat.toDigits_ne_nil
  | cons digit digits =>
    have member : digit ∈ Nat.toDigits 10 number := is ▸ List.mem_cons_self
    exact ⟨digit, digits ++ after, Nat.isDigit_of_mem_toDigits (by decide) (by decide) member, rfl⟩

/-- Digits have no sign in front. -/
theorem readSign_toDigits (number : Nat) (after : List Char) :
    readSign (Nat.toDigits 10 number ++ after) = (false, Nat.toDigits 10 number ++ after) := by
  obtain ⟨digit, digits, isDigit, is⟩ := exists_toDigits_append number after
  rw [is]
  exact readSign.eq_3 _ (fun _ starts => ne_of_kind isDigit rfl (List.cons.inj starts).1)
    fun _ starts => ne_of_kind isDigit rfl (List.cons.inj starts).1

section

variable (stops : inNumber c = false)

include stops

/-- Digits alone have no fraction and no exponent. -/
theorem readFloat_digits (number : Nat) :
    readFloat (Nat.toDigits 10 number ++ c :: rest) = none := by
  have whole := readDecimal_toDigits rest stops number
  have plain := readSign_toDigits number (c :: rest)
  obtain ⟨digit, digits, isDigit, is⟩ := exists_toDigits_append number (c :: rest)
  rw [readFloat, plain]
  rw [is] at whole ⊢
  dsimp only
  split
  · rename_i starts
    exact absurd (List.cons.inj starts).1 (ne_of_kind isDigit rfl)
  · rename_i starts
    exact absurd (List.cons.inj starts).1 (ne_of_kind isDigit rfl)
  · simp [whole, readFraction_none rest stops, readExponent_none rest stops]

theorem readInteger_toDigits {number : Nat} {value : Int64} (fits : int64? number = some value) :
    readInteger (Nat.toDigits 10 number ++ c :: rest) = some (value, c :: rest) := by
  have whole := readDecimal_toDigits rest stops number
  have plain := readSign_toDigits number (c :: rest)
  have size : integerOf? false 10 (Nat.toDigits 10 number) = some value := by
    rw [integerOf?, number?_toDigits (by decide) (by decide)]
    exact fits
  have noBase : ∀ base, inNumber base = true → base.isDigit = false → ∀ after,
      Nat.toDigits 10 number ++ c :: rest ≠ '0' :: base :: after := by
    intro base letter noDigit after starts
    rcases Nat.eq_zero_or_pos number with rfl | positive
    · exact ne_of_inNumber stops letter (List.cons.inj (List.cons.inj starts).2).1
    · obtain ⟨digit, digits, is, other⟩ := exists_toDigits_of_pos (by decide : 2 ≤ 10) (by decide)
        positive
      rw [is] at starts
      exact other (List.cons.inj starts).1
  rw [readInteger.eq_4 _ (noBase 'x' rfl rfl) (noBase 'o' rfl rfl) (noBase 'b' rfl rfl), plain]
  simp [whole, size]

/-- **A number is read back as an integer.** -/
theorem readNumber_toString {number : Nat} {value : Int64} (fits : int64? number = some value) :
    readNumber ((toString number).toList ++ c :: rest) = some (.integer value, c :: rest) := by
  have all : ∀ d ∈ Nat.toDigits 10 number, d.isDigit = true := fun _ =>
    Nat.isDigit_of_mem_toDigits (by decide) (by decide)
  rw [Nat.toString_eq_ofList_toDigits, String.toList_ofList, readNumber,
    readDateTime_digits rest stops all, readFloat_digits rest stops,
    readInteger_toDigits rest stops fits]
  rfl

end

end ServiceLocation.Toml
