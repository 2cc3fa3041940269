/-!
**Numerals.**

* `digitValue?`: the value of a digit in a base of at most 16;
* `number?`: the number that a text of digits writes.
-/

namespace ServiceLocation.Text

/-- The value of a digit in a base of at most 16. -/
def digitValue? (base : Nat) (c : Char) : Option Nat :=
  let value? :=
    if '0' ≤ c ∧ c ≤ '9' then some (c.toNat - '0'.toNat)
    else if 'a' ≤ c ∧ c ≤ 'f' then some (c.toNat - 'a'.toNat + 10)
    else if 'A' ≤ c ∧ c ≤ 'F' then some (c.toNat - 'A'.toNat + 10)
    else none
  value?.filter (· < base)

/-- The number that a text of digits writes; `none` if a character is no digit. -/
def numberOfDigits? (base : Nat) (digits : List Char) : Option Nat :=
  digits.foldlM (fun number c => (digitValue? base c).map (number * base + ·)) 0

/-- The number that a text of at least one digit writes. -/
def number? (base : Nat) (digits : List Char) : Option Nat :=
  if digits.isEmpty then none else numberOfDigits? base digits

end ServiceLocation.Text
