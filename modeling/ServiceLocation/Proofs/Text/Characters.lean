import Mathlib.Tactic.Common

/-!
**Characters, and where they stand.**

* `append_inj_of_first_mark`, `append_inj_of_last_mark`: a text is cut at a mark in one way only;
* `ne_of_kind`: characters are different if only one of them is of a kind;
* `of_toNat_lt`, `of_isAlphanum`: what holds of the first characters by their numbers holds of each of
  them, and so for the ASCII letters and digits;
* `eq_of_toLower_eq`: a character that is no small letter is lowered from itself only.
-/

namespace ServiceLocation.Text

/-! ### The first mark and the last mark -/

/-- A text is cut in one way only where a mark occurs first. -/
theorem append_inj_of_first_mark {mark : Char} {before behind before' behind' : List Char}
    (notIn : mark ∉ before) (notIn' : mark ∉ before')
    (same : before ++ mark :: behind = before' ++ mark :: behind') :
    before = before' ∧ behind = behind' := by
  have cut : ∀ front back : List Char, mark ∉ front →
      (front ++ mark :: back).takeWhile (· ≠ mark) = front := by
    intro front back free
    have kept : ∀ c ∈ front, decide (c ≠ mark) = true := fun c member =>
      decide_eq_true fun is => free (is ▸ member)
    rw [List.takeWhile_append_of_pos kept, List.takeWhile_cons_of_neg (by simp), List.append_nil]
  have front : before = before' := by
    rw [← cut before behind notIn, same, cut before' behind' notIn']
  rw [front] at same
  exact ⟨front, (List.cons.inj (List.append_cancel_left same)).2⟩

/-- A text is cut in one way only where a mark occurs last. -/
theorem append_inj_of_last_mark {mark : Char} {before behind before' behind' : List Char}
    (notIn : mark ∉ behind) (notIn' : mark ∉ behind')
    (same : before ++ mark :: behind = before' ++ mark :: behind') :
    before = before' ∧ behind = behind' := by
  have reversed : behind.reverse ++ mark :: before.reverse =
      behind'.reverse ++ mark :: before'.reverse := by
    simpa using congrArg List.reverse same
  obtain ⟨back, front⟩ := append_inj_of_first_mark (by simpa using notIn) (by simpa using notIn')
    reversed
  exact ⟨List.reverse_inj.1 front, List.reverse_inj.1 back⟩

/-- A text in which a mark occurs is what stands before its last occurrence and behind it. -/
theorem eq_append_of_mark {mark : Char} {text behind : List Char}
    (same : behind = (text.reverse.takeWhile (· ≠ mark)).reverse)
    (shorter : behind.length < text.length) :
    text = text.take (text.length - behind.length - 1) ++ mark :: behind := by
  have split := List.takeWhile_append_dropWhile (p := (· ≠ mark)) (l := text.reverse)
  cases front : text.reverse.dropWhile (· ≠ mark) with
  | nil =>
    rw [front, List.append_nil] at split
    rw [same, split, List.reverse_reverse] at shorter
    exact absurd shorter (Nat.lt_irrefl _)
  | cons last before =>
    have isMark : last = mark := by
      have head := List.head?_dropWhile_not (· ≠ mark) text.reverse
      rw [front, List.head?_cons] at head
      simpa using head
    rw [front, isMark] at split
    have whole : text = before.reverse ++ mark :: behind := by
      rw [← List.reverse_reverse text, ← split, same]
      simp
    have length : text.length - behind.length - 1 = before.reverse.length := by
      rw [whole, List.length_append, List.length_cons]
      omega
    rw [length]
    nth_rewrite 2 [whole]
    rw [List.take_left, ← whole]

/-! ### Single characters -/

/-- A character of a kind is none that is not of the kind. -/
theorem ne_of_kind {kind : Char → Bool} {c d : Char} (inside : kind c = true)
    (outside : kind d = false) : c ≠ d := fun same => by
  rw [same, outside] at inside
  cases inside

/-- What holds of every character below a bound, given by its number, holds of each of them. -/
theorem of_toNat_lt {bound : Nat} {P : Char → Prop} (all : ∀ code < bound, P (Char.ofNat code))
    {c : Char} (below : c.toNat < bound) : P c := by
  have here := all c.toNat below
  rwa [Char.ofNat_toNat] at here

/-- What holds of the ASCII letters and digits holds of every letter and digit. -/
theorem of_isAlphanum {P : Char → Prop}
    (all : ∀ code < 0x80, (Char.ofNat code).isAlphanum = true → P (Char.ofNat code)) {c : Char}
    (alphanumeric : c.isAlphanum = true) : P c := by
  have below : c.toNat < 0x80 := by
    unfold Char.isAlphanum Char.isAlpha Char.isUpper Char.isLower Char.isDigit at alphanumeric
    simp only [Bool.or_eq_true, Bool.and_eq_true, decide_eq_true_eq, ge_iff_le,
      UInt32.le_iff_toNat_le] at alphanumeric
    show c.val.toNat < 0x80
    rcases alphanumeric with (⟨-, high⟩ | ⟨-, high⟩) | ⟨-, high⟩
    · exact Nat.lt_of_le_of_lt high (by decide)
    · exact Nat.lt_of_le_of_lt high (by decide)
    · exact Nat.lt_of_le_of_lt high (by decide)
  exact of_toNat_lt (P := fun c => c.isAlphanum = true → P c) all below alphanumeric

/-- Only a letter is lowered to something else, and that is a letter. -/
theorem eq_of_toLower_eq {c d : Char} (noLetter : d.isLower = false) (same : c.toLower = d) :
    c = d := by
  unfold Char.toLower at same
  split at same
  · rename_i capital
    have sum : d.val.toNat = c.val.toNat + 32 := by
      have small : c.val.toNat ≤ 90 := UInt32.le_iff_toNat_le.1 capital.2
      rw [← same]
      show (c.val + 32).toNat = _
      rw [UInt32.toNat_add]
      exact Nat.mod_eq_of_lt (by show c.val.toNat + 32 < _; omega)
    have isLower : d.isLower = true := by
      have least : 65 ≤ c.val.toNat := UInt32.le_iff_toNat_le.1 capital.1
      have most : c.val.toNat ≤ 90 := UInt32.le_iff_toNat_le.1 capital.2
      have low : 'a'.val ≤ d.val := UInt32.le_iff_toNat_le.2 (by show 97 ≤ _; omega)
      have high : d.val ≤ 'z'.val := UInt32.le_iff_toNat_le.2 (by show _ ≤ 122; omega)
      exact Bool.and_eq_true_iff.2 ⟨decide_eq_true low, decide_eq_true high⟩
    rw [noLetter] at isLower
    cases isLower
  · exact same

end ServiceLocation.Text
