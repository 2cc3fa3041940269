import Mathlib.Tactic.Common
import ServiceLocation.Text.Numeral

/-!
**Numerals are read and written.**

* `isSome_digitValue?_of_number?`: what is read as a number consists of digits;
* `map_number?_eq_some_iff`: what values of a fixed width are read from;
* `digitValue?_digitChar`: a digit is read back;
* `number?_toDigits`: **and so is a number in any base**, digit by digit;
* `isSome_digitValue?_of_mem_toDigits`: so what a number is written as consists of digits;
* `exists_toDigits_of_pos`: the first of which is no zero, unless the number is zero.
-/

namespace ServiceLocation.Text

/-! ### Reading -/

theorem isSome_digitValue?_of_numberOfDigits? {base number : Nat} {digits : List Char}
    (read : numberOfDigits? base digits = some number) :
    ∀ c ∈ digits, (digitValue? base c).isSome = true := by
  unfold numberOfDigits? at read
  generalize 0 = start at read
  induction digits generalizing start with
  | nil => exact fun c member => by cases member
  | cons d rest ih =>
    rw [List.foldlM_cons, Option.bind_eq_bind, Option.bind_eq_some_iff] at read
    obtain ⟨next, here, later⟩ := read
    obtain ⟨value, digit, _⟩ := Option.map_eq_some_iff.1 here
    intro c member
    rcases List.mem_cons.1 member with same | there
    · rw [same, digit]
      rfl
    · exact ih next later c there

/-- **What is read as a number consists of digits.** -/
theorem isSome_digitValue?_of_number? {base number : Nat} {digits : List Char}
    (read : number? base digits = some number) :
    ∀ c ∈ digits, (digitValue? base c).isSome = true := by
  unfold number? at read
  split at read
  · cases read
  · exact isSome_digitValue?_of_numberOfDigits? read

/-- A digit in a base is one in a larger base. -/
theorem isSome_digitValue?_mono {base larger : Nat} (le : base ≤ larger) {c : Char}
    (digit : (digitValue? base c).isSome = true) : (digitValue? larger c).isSome = true := by
  unfold digitValue? at digit ⊢
  dsimp only at digit ⊢
  obtain ⟨value, found⟩ := Option.isSome_iff_exists.1 digit
  obtain ⟨is, below⟩ := Option.filter_eq_some_iff.1 found
  have further : value < larger := Nat.lt_of_lt_of_le (by simpa using below) le
  rw [Option.isSome_iff_exists]
  exact ⟨value, Option.filter_eq_some_iff.2 ⟨is, by simpa using further⟩⟩

/-- A text that is read as a value is one of the number that stands for the value. -/
theorem map_number?_eq_some_iff {α : Type} {base bound : Nat} {ofNat : Nat → α} {toNat : α → Nat}
    (back : ∀ number < bound, toNat (ofNat number) = number)
    (below : ∀ value, toNat value < bound) (again : ∀ value, ofNat (toNat value) = value)
    {digits : List Char} {value : α} :
    ((number? base digits).filter (· < bound)).map ofNat = some value ↔
      number? base digits = some (toNat value) := by
  rw [Option.map_eq_some_iff]
  constructor
  · rintro ⟨number, found, rfl⟩
    obtain ⟨read, within⟩ := Option.filter_eq_some_iff.1 found
    rw [read, back number (of_decide_eq_true within)]
  · intro read
    exact ⟨toNat value, Option.filter_eq_some_iff.2 ⟨read, decide_eq_true (below value)⟩, again value⟩

theorem toNat_lt_of_isSome_digitValue? {base : Nat} {c : Char}
    (digit : (digitValue? base c).isSome = true) : c.toNat < 128 := by
  have below : ∀ last : Char, c ≤ last → c.toNat ≤ last.toNat := fun last le =>
    UInt32.le_iff_toNat_le.1 le
  unfold digitValue? at digit
  dsimp only at digit
  split at digit
  · rename_i decimal
    exact Nat.lt_of_le_of_lt (below '9' decimal.2) (by decide)
  · split at digit
    · rename_i small
      exact Nat.lt_of_le_of_lt (below 'f' small.2) (by decide)
    · split at digit
      · rename_i capital
        exact Nat.lt_of_le_of_lt (below 'F' capital.2) (by decide)
      · cases digit

/-! ### Reading back -/

theorem digitValue?_digitChar :
    ∀ base ≤ 16, ∀ digit < base, digitValue? base (Nat.digitChar digit) = some digit := by
  decide

section

variable {base : Nat} (two : 2 ≤ base) (sixteen : base ≤ 16) (number : Nat)

include two sixteen

theorem numberOfDigits?_toDigits :
    numberOfDigits? base (Nat.toDigits base number) = some number := by
  unfold numberOfDigits?
  induction number using Nat.strongRecOn with
  | ind number ih =>
    by_cases small : number < base
    · rw [Nat.toDigits_of_lt_base small]
      simp [digitValue?_digitChar base sixteen number small]
    · have last := digitValue?_digitChar base sixteen (number % base) (Nat.mod_lt _ (by omega))
      have front := ih (number / base) (Nat.div_lt_self (by omega) (by omega))
      rw [Nat.toDigits_of_base_le (by omega) (by omega), List.foldlM_append, front]
      simp [last, Nat.div_add_mod']

/-- **A number is read back from its digits.** -/
theorem number?_toDigits : number? base (Nat.toDigits base number) = some number := by
  have filled : Nat.toDigits base number ≠ [] := Nat.toDigits_ne_nil
  rw [number?, List.isEmpty_eq_false_iff.2 filled, if_neg Bool.false_ne_true,
    numberOfDigits?_toDigits two sixteen]

/-- **What a number is written as consists of digits.** -/
theorem isSome_digitValue?_of_mem_toDigits :
    ∀ c ∈ Nat.toDigits base number, (digitValue? base c).isSome = true :=
  isSome_digitValue?_of_number? (number?_toDigits two sixteen number)

end

/-- A zero stands in front of no other digit. -/
theorem exists_toDigits_of_pos {base number : Nat} (two : 2 ≤ base) (sixteen : base ≤ 16)
    (positive : 0 < number) :
    ∃ digit rest, Nat.toDigits base number = digit :: rest ∧ digit ≠ '0' := by
  have noZero : ∀ digit < 16, 0 < digit → Nat.digitChar digit ≠ '0' := by decide
  induction number using Nat.strongRecOn with
  | ind number ih =>
    by_cases small : number < base
    · exact ⟨_, [], Nat.toDigits_of_lt_base small, noZero number (by omega) positive⟩
    · obtain ⟨digit, rest, front, other⟩ := ih (number / base)
        (Nat.div_lt_self (by omega) (by omega)) (Nat.div_pos (by omega) (by omega))
      rw [Nat.toDigits_of_base_le (by omega) (by omega), front]
      exact ⟨digit, _, rfl, other⟩

theorem number?_toString (number : Nat) : number? 10 (toString number).toList = some number := by
  rw [Nat.toString_eq_ofList_toDigits, String.toList_ofList, number?_toDigits (by decide) (by decide)]

end ServiceLocation.Text
