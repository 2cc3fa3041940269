import ServiceLocation.Naptr.Substitution
import ServiceLocation.Proofs.Pattern.Find
import ServiceLocation.Proofs.Text.Characters

/-!
**What a substitution makes of a text.**

A replacement is translated to a template, and the template is filled in. Dollar signs and braces, which
mean something in templates, mean nothing in replacements.

* `Replacement.meaning`: **what a replacement stands for**, read from left to right;
* `fillIn_literal`, `fillIn_escaped`: what a piece of a template is filled in with, whatever follows it;
* `fillIn_template`: **a template is filled in with what its replacement stands for**;
* `apply_exact`: **a substitution replaces the first match of its pattern by that, and nothing else**,
  and it tells that there is no match exactly of texts of which the pattern matches no part.
-/

namespace ServiceLocation.Naptr

open Pattern

namespace Replacement

/-- What a replacement stands for, where `group` tells what the group of a number matches. A backslash in
front of a digit refers to a group; in front of any other character, and at the end, it and all else
stand for characters. -/
def meaning (group : Nat → List Char) : List Char → List Char
  | [] => []
  | ['\\'] => ['\\']
  | '\\' :: c :: rest =>
    if c.isDigit then group (c.toNat - '0'.toNat) ++ meaning group rest else c :: meaning group rest
  | c :: rest => c :: meaning group rest

variable (referent : Reference → List Char) (rest : List Char)

/-! ### Pieces of templates -/

/-- A dollar sign is doubled, so it begins no reference with what follows. -/
theorem fillIn_dollar : fillIn referent ('$' :: '$' :: rest) = '$' :: fillIn referent rest := by
  rw [fillIn]

/-- Characters other than the dollar sign stand for themselves, braces too. -/
theorem fillIn_cons_of_ne {c : Char} (ne : c ≠ '$') :
    fillIn referent (c :: rest) = c :: fillIn referent rest := by
  rw [fillIn]
  · intro _ eq
    exact absurd eq ne
  · intro eq
    exact ne eq

theorem fillIn_literal (c : Char) :
    fillIn referent (literal c ++ rest) = c :: fillIn referent rest := by
  unfold literal
  by_cases dollar : c = '$'
  · rw [if_pos dollar, dollar]
    exact fillIn_dollar referent rest
  · rw [if_neg dollar]
    exact fillIn_cons_of_ne referent rest dollar

/-- A digit in braces is read as the number of a group, and nothing behind the braces belongs to it. -/
theorem readReference?_digit {c : Char} (digit : c.isDigit = true) :
    readReference? ('\x7b' :: c :: '\x7d' :: rest) =
      some (.number (c.toNat - '0'.toNat), rest) := by
  have below : c.toNat < 0x80 := by
    simp only [Char.isDigit, Bool.and_eq_true, decide_eq_true_eq] at digit
    have : c.toNat ≤ 57 := UInt32.le_iff_toNat_le.1 digit.2
    omega
  have each : c ≠ '\x7d' ∧ Reference.ofText [c] = .number (c.toNat - '0'.toNat) :=
    Text.of_toNat_lt (P := fun c => c.isDigit = true →
      c ≠ '\x7d' ∧ Reference.ofText [c] = .number (c.toNat - '0'.toNat)) (by decide) below digit
  have inBraces : (c != '\x7d') = true := bne_iff_ne.2 each.1
  unfold readReference?
  simp only [List.dropWhile_cons, List.takeWhile_cons, inBraces, bne_self_eq_false, if_true,
    Bool.false_eq_true, if_false, each.2]

theorem fillIn_reference {c : Char} (digit : c.isDigit = true) :
    fillIn referent ('$' :: '\x7b' :: c :: '\x7d' :: rest) =
      referent (.number (c.toNat - '0'.toNat)) ++ fillIn referent rest := by
  rw [fillIn]
  · split
    · rename_i reference after read
      rw [readReference?_digit rest digit] at read
      cases read
      rfl
    · rename_i read
      rw [readReference?_digit rest digit] at read
      cases read
  · intro _ eq
    cases eq

theorem fillIn_escaped (c : Char) : fillIn referent (escaped c ++ rest) =
    (if c.isDigit then referent (.number (c.toNat - '0'.toNat)) else [c]) ++
      fillIn referent rest := by
  unfold escaped
  by_cases digit : c.isDigit = true
  · rw [if_pos digit, if_pos digit]
    exact fillIn_reference referent rest digit
  · rw [if_neg digit, if_neg digit]
    exact fillIn_literal referent rest c

/-- **A template is filled in with what its replacement stands for**, whatever names refer to. -/
theorem fillIn_template (replacement : List Char) :
    fillIn referent (template replacement) =
      meaning (fun number => referent (.number number)) replacement := by
  fun_induction template replacement with
  | case1 => rw [fillIn, meaning]
  | case2 c rest ih =>
    rw [fillIn_escaped, meaning, ih]
    split <;> rfl
  | case3 c rest noEscape ih =>
    rw [fillIn_literal, ih]
    by_cases backslash : c = '\\'
    · subst backslash
      -- With a character behind it, it would be an escape.
      cases rest with
      | nil => rw [meaning, meaning]
      | cons d rest => exact absurd rfl (noEscape d rest rfl)
    · rw [meaning]
      · intro eq
        exact absurd eq backslash
      · intro _ _ eq
        exact absurd eq backslash

end Replacement

/-! ### Substitutions -/

namespace Substitution

/-- What the replacement stands for at a match; a group that takes no part in it, or does not exist,
matches nothing. -/
def expansion (substitution : Substitution) (found : Match) : List Char :=
  Replacement.meaning (fun number => (found.group? number).getD []) substitution.replacement.toList

variable {substitution : Substitution} {pattern : Pattern}

theorem replaceMatch_eq (found : Match) :
    substitution.replaceMatch found =
      .ofList (found.before ++ substitution.expansion found ++ found.after) := by
  unfold replaceMatch
  dsimp only
  rw [Replacement.fillIn_template]
  rfl

/-- **A substitution replaces the first match of its pattern by what its replacement stands for**, and
keeps all that stands before and after it. It tells that there is no match exactly of texts of which the
pattern matches no part. -/
theorem apply_exact (input : String) (compiled :
    Pattern.ofText? substitution.ignoresCase substitution.pattern.toList = some pattern) :
    (substitution.apply input = .error (.noMatch substitution.pattern input) ↔
        ¬ ∃ before inside after, pattern.MatchesAt input.toList before inside after) ∧
      ((∃ before inside after, pattern.MatchesAt input.toList before inside after) →
        ∃ found inside, pattern.find? input.toList = some found ∧
          found.IsFirst pattern input.toList inside ∧
          substitution.apply input =
            .ok (.ofList (found.before ++ substitution.expansion found ++ found.after))) := by
  rw [← find?_eq_none_iff compiled]
  constructor
  · cases is : pattern.find? input.toList with
    | none => simp [apply, compiled, is]
    | some found => simp [apply, compiled, is]
  · rintro ⟨before, inside, after, isMatch⟩
    obtain ⟨slots, is, _⟩ := exists_find? compiled isMatch
    obtain ⟨inside', isFirst⟩ := isFirst_of_find? compiled is
    refine ⟨_, inside', is, isFirst, ?_⟩
    simp only [apply, compiled, is, replaceMatch_eq]

/-- A replacement of dollar signs, braces and groups, of which the second takes no part in the match. -/
def dollars : Substitution := ⟨"(b)(x)?", "$\\1\x7b\\2\x7d1\\$\\", ""⟩

theorem apply_exact_of_dollars : ∃ pattern,
    Pattern.ofText? dollars.ignoresCase dollars.pattern.toList = some pattern ∧
      ∃ found inside, found.IsFirst pattern "abc".toList inside ∧
        .ofList (found.before ++ dollars.expansion found ++ found.after) = "a$b\x7b\x7d1$\\c" := by
  have output : dollars.apply "abc" = .ok "a$b\x7b\x7d1$\\c" := by decide +kernel
  obtain ⟨pattern, compiled⟩ := Option.isSome_iff_exists.1 (by decide +kernel :
    (Pattern.ofText? dollars.ignoresCase dollars.pattern.toList).isSome = true)
  obtain ⟨noMatch_iff, replaced⟩ := apply_exact "abc" compiled
  have isMatch : ∃ before inside after, pattern.MatchesAt "abc".toList before inside after := by
    by_contra noMatch
    cases output.symm.trans (noMatch_iff.2 noMatch)
  obtain ⟨found, inside, _, isFirst, applied⟩ := replaced isMatch
  exact ⟨pattern, compiled, found, inside, isFirst,
    (Except.ok.inj (output.symm.trans applied)).symm⟩

end Substitution

end ServiceLocation.Naptr
