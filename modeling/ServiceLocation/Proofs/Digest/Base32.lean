import Mathlib.Algebra.Ring.Nat
import Mathlib.Data.List.Basic
import Mathlib.Data.List.Induction
import Mathlib.Tactic.Ring
import ServiceLocation.Digest.Base32

/-!
**Base32 loses nothing.**

A group of bytes is one number, written in base 256 and in base 32.

* `numberOfDigits_digits`, `bytesOfNumber_numberOfBytes`: either way of writing is read back;
* `decodeGroup_digits`: so a group is, since the bits that fill up its last digit are dropped again;
* `of_mem_encode`: nothing but digits is written;
* `getLast?_encode`: these bits are zero;
* `decode_encode`: **and so are all bytes, group by group.**
-/

namespace ServiceLocation.Digest.Base32

/-! ### Numbers and their digits -/

theorem value?_digit : ∀ value < 32, value? (digit value) = some value := by
  decide

theorem exists_digit_of_mem_digits {count number : Nat} {c : Char}
    (member : c ∈ digits count number) : ∃ value < 32, c = digit value := by
  induction count generalizing number with
  | zero => cases member
  | succ count ih =>
    rw [digits, List.mem_append, List.mem_singleton] at member
    rcases member with front | last
    · exact ih front
    · exact ⟨_, Nat.mod_lt _ (by decide), last⟩

/-- A number is read back from its digits, less what is too large for them. -/
theorem numberOfDigits_digits (count number : Nat) :
    numberOfDigits (digits count number) = some (number % 32 ^ count) := by
  unfold numberOfDigits
  induction count generalizing number with
  | zero =>
    rw [pow_zero, Nat.mod_one]
    rfl
  | succ count ih =>
    have last := value?_digit (number % 32) (Nat.mod_lt _ (by decide))
    have whole : number / 32 % 32 ^ count * 32 + number % 32 = number % 32 ^ (count + 1) := by
      rw [pow_succ, mul_comm (32 ^ count), Nat.mod_mul]
      ring
    rw [digits, List.foldlM_append, ih]
    simp only [Option.bind_eq_bind, Option.bind_some, List.foldlM_cons, last, Option.map_some,
      List.foldlM_nil]
    rw [whole]
    rfl

/-! ### Numbers and their bytes -/

theorem numberOfBytes_concat (bytes : List UInt8) (last : UInt8) :
    numberOfBytes (bytes ++ [last]) = numberOfBytes bytes * 256 + last.toNat :=
  List.foldl_append

theorem numberOfBytes_lt (bytes : List UInt8) : numberOfBytes bytes < 256 ^ bytes.length := by
  induction bytes using List.reverseRecOn with
  | nil => decide
  | append_singleton bytes last ih =>
    have below := last.toNat_lt
    rw [numberOfBytes_concat, List.length_append, List.length_singleton, pow_succ]
    omega

/-- Bytes are read back from the number they write. -/
theorem bytesOfNumber_numberOfBytes (bytes : List UInt8) :
    bytesOfNumber bytes.length (numberOfBytes bytes) = bytes := by
  induction bytes using List.reverseRecOn with
  | nil => rfl
  | append_singleton bytes last ih =>
    have below := last.toNat_lt
    have front : (numberOfBytes bytes * 256 + last.toNat) / 256 = numberOfBytes bytes := by omega
    have back : (numberOfBytes bytes * 256 + last.toNat) % 256 = last.toNat := by omega
    rw [numberOfBytes_concat, List.length_append, List.length_singleton, bytesOfNumber, front, back,
      ih, UInt8.ofNat_toNat]

/-! ### Groups -/

/-- **A group is read back from its digits**, of which the last holds fewer than eight bits that are
not the group's. -/
theorem decodeGroup_digits {group : List UInt8} {count spare : Nat}
    (bits : 5 * count = 8 * group.length + spare) (few : spare < 8) :
    decodeGroup (digits count (numberOfBytes group * 2 ^ spare)) = some group := by
  have bytes : 5 * count / 8 = group.length := by omega
  have dropped : 5 * count % 8 = spare := by omega
  have fits : numberOfBytes group * 2 ^ spare < 32 ^ count := by
    have room : 32 ^ count = 256 ^ group.length * 2 ^ spare := by
      rw [show 32 = 2 ^ 5 from rfl, show 256 = 2 ^ 8 from rfl, ← pow_mul, ← pow_mul, ← pow_add, bits]
    rw [room]
    exact Nat.mul_lt_mul_of_pos_right (numberOfBytes_lt group) (Nat.two_pow_pos spare)
  rw [decodeGroup, numberOfDigits_digits, Nat.mod_eq_of_lt fits, Option.map_some, length_digits,
    bytes, dropped]
  show some (bytesOfNumber _ (_ * 2 ^ spare / 2 ^ spare)) = _
  rw [Nat.mul_div_cancel _ (Nat.two_pow_pos spare), bytesOfNumber_numberOfBytes]

theorem decode_of_length_lt {text : List Char} (short : text.length < 8) :
    decode text = decodeGroup text := by
  unfold decode
  split
  · simp only [List.length_cons] at short
    omega
  · rfl

/-- Eight digits are a group before what follows them. -/
theorem decode_append {group : List Char} (eight : group.length = 8) (rest : List Char) :
    decode (group ++ rest) =
      (decodeGroup group).bind fun bytes => (decode rest).map (bytes ++ ·) := by
  match group, eight with
  | [c0, c1, c2, c3, c4, c5, c6, c7], _ =>
    rw [List.cons_append, List.cons_append, List.cons_append, List.cons_append, List.cons_append,
      List.cons_append, List.cons_append, List.cons_append, List.nil_append, decode]
    cases decodeGroup [c0, c1, c2, c3, c4, c5, c6, c7] <;> cases decode rest <;> rfl

/-! ### Bytes -/

theorem exists_digit_of_mem_encode {bytes : List UInt8} {c : Char} (member : c ∈ encode bytes) :
    ∃ value < 32, c = digit value := by
  fun_induction encode bytes with
  | case1 => cases member
  | case2 => exact exists_digit_of_mem_digits member
  | case3 => exact exists_digit_of_mem_digits member
  | case4 => exact exists_digit_of_mem_digits member
  | case5 => exact exists_digit_of_mem_digits member
  | case6 b0 b1 b2 b3 b4 rest ih =>
    rcases List.mem_append.1 member with group | later
    · exact exists_digit_of_mem_digits group
    · exact ih later

/-- **What holds of the digits holds of all that is written.** -/
theorem of_mem_encode {P : Char → Prop} (all : ∀ value < 32, P (digit value)) {bytes : List UInt8} :
    ∀ c ∈ encode bytes, P c := by
  intro c member
  obtain ⟨value, below, rfl⟩ := exists_digit_of_mem_encode member
  exact all value below

/-- The last digit of a number that is followed by `spare` zero bits holds these, and bits of the
number. -/
theorem getLast?_digits (count number spare : Nat) (few : spare ≤ 5) :
    ∃ value, (digits (count + 1) (number * 2 ^ spare)).getLast? = some (digit (value * 2 ^ spare)) ∧
      value * 2 ^ spare < 32 := by
  have room : 2 ^ (5 - spare) * 2 ^ spare = 32 := by
    rw [← pow_add, Nat.sub_add_cancel few]
    rfl
  have last : number * 2 ^ spare % 32 = number % 2 ^ (5 - spare) * 2 ^ spare := by
    rw [← room, Nat.mul_mod_mul_right]
  refine ⟨number % 2 ^ (5 - spare), ?_, ?_⟩
  · rw [digits, List.getLast?_concat, last]
  · rw [← last]
    exact Nat.mod_lt _ (by decide)

/-- **The bits of the last digit that are not those of a byte are zero.** There are as many of them as
the digits have bits more than the bytes. -/
theorem getLast?_encode {bytes : List UInt8} (nonempty : bytes ≠ []) :
    let spare := 5 * (encode bytes).length - 8 * bytes.length
    ∃ value, (encode bytes).getLast? = some (digit (value * 2 ^ spare)) ∧ value * 2 ^ spare < 32 := by
  fun_induction encode bytes with
  | case1 => exact absurd rfl nonempty
  | case2 b0 => exact getLast?_digits 1 _ 2 (by decide)
  | case3 b0 b1 => exact getLast?_digits 3 _ 4 (by decide)
  | case4 b0 b1 b2 => exact getLast?_digits 4 _ 1 (by decide)
  | case5 b0 b1 b2 b3 => exact getLast?_digits 6 _ 3 (by decide)
  | case6 b0 b1 b2 b3 b4 rest ih =>
    by_cases empty : rest = []
    · subst empty
      have last := getLast?_digits 7 (numberOfBytes [b0, b1, b2, b3, b4]) 0 (Nat.zero_le 5)
      rw [pow_zero, mul_one] at last
      rw [show encode [] = [] from rfl, List.append_nil]
      exact last
    · have filled : encode rest ≠ [] := by
        intro none
        have length := length_encode rest
        have positive := List.length_pos_iff.2 empty
        rw [none, List.length_nil] at length
        omega
      have same : 5 * (digits 8 (numberOfBytes [b0, b1, b2, b3, b4]) ++ encode rest).length -
          8 * (b0 :: b1 :: b2 :: b3 :: b4 :: rest).length =
            5 * (encode rest).length - 8 * rest.length := by
        simp only [List.length_append, length_digits, List.length_cons]
        omega
      rw [same, List.getLast?_append_of_ne_nil _ filled]
      exact ih empty

/-- A last group of fewer than five bytes has fewer than eight digits. -/
theorem decode_digits (group : List UInt8) (count spare : Nat) (short : count < 8)
    (bits : 5 * count = 8 * group.length + spare) (few : spare < 8) :
    decode (digits count (numberOfBytes group * 2 ^ spare)) = some group := by
  rw [decode_of_length_lt (by rwa [length_digits]), decodeGroup_digits bits few]

/-- **Bytes are read back from their digits.** -/
theorem decode_encode (bytes : List UInt8) : decode (encode bytes) = some bytes := by
  fun_induction encode bytes with
  | case1 => rfl
  | case2 b0 => exact decode_digits [b0] 2 2 (by decide) rfl (by decide)
  | case3 b0 b1 => exact decode_digits [b0, b1] 4 4 (by decide) rfl (by decide)
  | case4 b0 b1 b2 => exact decode_digits [b0, b1, b2] 5 1 (by decide) rfl (by decide)
  | case5 b0 b1 b2 b3 => exact decode_digits [b0, b1, b2, b3] 7 3 (by decide) rfl (by decide)
  | case6 b0 b1 b2 b3 b4 rest ih =>
    have group : decodeGroup (digits 8 (numberOfBytes [b0, b1, b2, b3, b4] * 2 ^ 0)) =
        some [b0, b1, b2, b3, b4] := decodeGroup_digits rfl (by decide)
    rw [pow_zero, mul_one] at group
    rw [decode_append (length_digits _ _), group, ih]
    rfl

theorem encode_inj {first second : List UInt8} : encode first = encode second ↔ first = second := by
  refine ⟨fun same => ?_, fun same => congrArg encode same⟩
  have read := congrArg decode same
  rw [decode_encode, decode_encode] at read
  exact Option.some.inj read

end ServiceLocation.Digest.Base32
