import Mathlib.Data.Bool.AllAny
import Mathlib.Data.List.Basic
import ServiceLocation.Proofs.Idna.AsciiNames
import ServiceLocation.Proofs.Text.Utf8
import ServiceLocation.Proofs.Url.HostCharacters

/-!
**Names as hosts of special URLs.**

A name is percent-decoded, mapped to its ASCII form, and taken for an address if it ends in a number.

* `Host.ofSpecial_of_isHostChar`: nothing is there to decode in a name without forbidden characters;
* `Host.IsVerbatim`, `Host.ofSpecial_of_isVerbatim`: so **such a name is a host**, in lower case,
  unless a label claims to be coded or the name ends in a number;
* `Host.ofSpecial_of_forbidden`: and an ASCII name with a forbidden character is none;
* `Host.domain_or_short_of_ofSpecial`: every host that is no domain name is short;
* `Host.eq_lowerAscii_of_ofSpecial`: so the host of a long name without forbidden characters **is the
  name in lower case.**
-/

namespace ServiceLocation.Url

open ServiceLocation.Text ServiceLocation.Address

/-! ### Names without forbidden characters -/

section

variable {name : List Char}

/-- A text without percent signs is decoded to its own bytes. -/
theorem decode_of_isHostChar (allowed : ∀ c ∈ name, Idna.IsHostChar c) :
    decode name = name.map fun c => UInt8.ofNat c.toNat := by
  induction name with
  | nil => rw [decode]; rfl
  | cons c rest ih =>
    obtain ⟨here, later⟩ := List.forall_mem_cons.1 allowed
    have noSign : c ≠ '%' := Idna.of_isHostChar (P := (· ≠ '%')) here (by decide)
    have one : decode (c :: rest) = Utf8.encode [c] ++ decode rest := by
      rw [decode]
      exact fun _ _ _ is _ => noSign is
    rw [one, Utf8.encode_singleton_of_lt (Idna.toNat_lt_of_isAscii here.1), ih later]
    rfl

namespace Host

/-- **The host of a name without forbidden characters** is that of its ASCII form. -/
theorem ofSpecial_of_isHostChar (allowed : ∀ c ∈ name, Idna.IsHostChar c) :
    ofSpecial name = (Idna.toAscii? name).elim (.error .invalidDomain) ofAscii := by
  have text : Utf8.decode? (decode name) = some name := by
    rw [decode_of_isHostChar allowed]
    exact Utf8.decode?_of_lt fun c member => Idna.toNat_lt_of_isAscii (allowed c member).1
  unfold ofSpecial
  split
  · exact absurd (allowed '[' List.mem_cons_self) (by decide)
  · rw [text, Option.bind_some]
    cases Idna.toAscii? name <;> rfl

/-- A name that is a host as it stands, but for the case of its letters. -/
structure IsVerbatim (name : List Char) : Prop where
  nonempty : name ≠ []
  allowed : ∀ c ∈ name, Idna.IsHostChar c
  /-- No label claims to be coded. -/
  uncoded : ∀ label ∈ (lowerAscii name).splitOn '.', Idna.codedStart.isPrefixOf label = false
  noNumber : endsInNumber (lowerAscii name) = false

instance (name : List Char) : Decidable (IsVerbatim name) :=
  decidable_of_iff (name ≠ [] ∧ name.all (fun c => decide (Idna.IsHostChar c)) = true ∧
      (∀ label ∈ (lowerAscii name).splitOn '.', Idna.codedStart.isPrefixOf label = false) ∧
      endsInNumber (lowerAscii name) = false)
    ⟨fun ⟨nonempty, allowed, uncoded, noNumber⟩ =>
      ⟨nonempty, List.all_iff_forall_prop.1 allowed, uncoded, noNumber⟩,
    fun verbatim => ⟨verbatim.nonempty, List.all_iff_forall_prop.2 verbatim.allowed,
      verbatim.uncoded, verbatim.noNumber⟩⟩

theorem IsVerbatim.lowerAscii_ne_nil (verbatim : IsVerbatim name) : lowerAscii name ≠ [] :=
  mt List.map_eq_nil_iff.1 verbatim.nonempty

/-- **Such a name is a host**, in lower case. -/
theorem ofSpecial_of_isVerbatim (verbatim : IsVerbatim name) :
    ofSpecial name = .ok (.domain (lowerAscii name)) := by
  rw [ofSpecial_of_isHostChar verbatim.allowed,
    Idna.toAscii?_of_isHostChar verbatim.allowed verbatim.uncoded, Option.elim_some, ofAscii,
    List.isEmpty_eq_false_iff.2 verbatim.lowerAscii_ne_nil, verbatim.noNumber,
    if_neg Bool.false_ne_true, if_neg Bool.false_ne_true]

/-- **A name of ASCII characters is no host** if one of them is forbidden in it. -/
theorem ofSpecial_of_forbidden {c : Char} (decoded : Utf8.decode? (decode name) = some name)
    (ascii : ∀ c ∈ name, Idna.isAscii c = true) (noBracket : name.head? ≠ some '[')
    (member : c ∈ lowerAscii name) (forbidden : ¬Idna.IsHostChar c) :
    ofSpecial name = .error .invalidDomain := by
  have noForm : Idna.toAscii? name = none := by
    cases found : Idna.toAscii? name with
    | none => rfl
    | some form =>
      rw [← Idna.eq_lowerAscii_of_toAscii? ascii found] at member
      exact absurd (Idna.isHostChar_of_mem_toAscii? found c member) forbidden
  unfold ofSpecial
  split
  · exact absurd rfl noBracket
  · rw [decoded, Option.bind_some, noForm]

end Host

end

/-- **Only what stands behind the last dot tells whether a name ends in a number.** -/
theorem Host.endsInNumber_append (front : List Char) {behind : List Char} (nonempty : behind ≠ []) :
    endsInNumber (front ++ '.' :: behind) = endsInNumber behind := by
  have last : (parts (front ++ '.' :: behind)).getLast? = (parts behind).getLast? := by
    unfold parts
    rw [List.splitOn_append_cons_self]
    obtain ⟨first, more, whole⟩ := List.exists_cons_of_ne_nil (List.splitOn_ne_nil '.' behind)
    have filled := List.length_pos_iff.2 (List.splitOn_ne_nil '.' front)
    generalize front.splitOn '.' = before at filled ⊢
    rw [whole]
    dsimp only
    cases more with
    | nil =>
      have single : first ≠ [] := by
        have joined : List.intercalate ['.'] (behind.splitOn '.') = behind := List.intercalate_splitOn '.'
        rw [whole, List.intercalate_singleton] at joined
        rw [joined]
        exact nonempty
      simp [single]
    | cons second more =>
      have wide : first :: second :: more ≠ [] := List.cons_ne_nil _ _
      have long : 1 < (before ++ first :: second :: more).length := by
        rw [List.length_append, List.length_cons, List.length_cons]
        omega
      rw [List.getLast?_append_of_ne_nil before wide]
      by_cases empty : (first :: second :: more).getLast? = some []
      · rw [if_pos ⟨empty, long⟩, if_pos ⟨empty, by simp⟩, List.dropLast_append_of_ne_nil wide,
          List.getLast?_append_of_ne_nil before (by simp)]
      · rw [if_neg fun is => empty is.1, if_neg fun is => empty is.1,
          List.getLast?_append_of_ne_nil before wide]
  rw [endsInNumber, endsInNumber, last]

/-! ### Addresses are short -/

theorem length_intercalate_le {mark : List Char} {bound : Nat} {texts : List (List Char)}
    (single : mark.length = 1) (short : ∀ text ∈ texts, text.length ≤ bound) :
    (List.intercalate mark texts).length ≤ texts.length * (bound + 1) := by
  induction texts with
  | nil => exact Nat.zero_le _
  | cons first rest ih =>
    obtain ⟨here, later⟩ := List.forall_mem_cons.1 short
    have behind := ih later
    rw [List.length_cons, Nat.add_mul]
    cases rest with
    | nil => rw [List.intercalate_singleton]; omega
    | cons second rest =>
      rw [List.intercalate_cons_cons, List.length_append, List.length_append, single]
      omega

theorem length_ipv4Text_le (address : Ipv4) : address.text.toList.length ≤ 16 := by
  have byte : ∀ value : UInt8, (Nat.toDigits 10 value.toNat).length ≤ 3 := fun value =>
    (Nat.length_toDigits_le_iff (by decide) (by decide)).2
      (Nat.lt_trans value.toNat_lt (show 2 ^ 8 < 10 ^ 3 by decide))
  rw [Ipv4.text, String.toList_intercalate]
  show _ ≤ 4 * (3 + 1)
  refine length_intercalate_le rfl ?_
  simpa using ⟨byte address.a, byte address.b, byte address.c, byte address.d⟩

theorem length_colonText_le (segments : List UInt16) :
    (Ipv6.colonText segments).toList.length ≤ segments.length * 5 := by
  rw [Ipv6.colonText, String.toList_intercalate]
  have short : ∀ text ∈ (segments.map fun segment =>
      String.ofList (Nat.toDigits 16 segment.toNat)).map String.toList, text.length ≤ 4 := by
    intro text listed
    rw [List.map_map, List.mem_map] at listed
    obtain ⟨segment, _, rfl⟩ := listed
    have below : segment.toNat < 16 ^ 4 := segment.toNat_lt
    rw [Function.comp_apply, String.toList_ofList]
    exact (Nat.length_toDigits_le_iff (by decide) (by decide)).2 below
  have whole := length_intercalate_le (show ":".toList.length = 1 from rfl) short
  simpa using whole

theorem length_compressed_le (address : Ipv6) : address.compressed.toList.length ≤ 42 := by
  have eight : address.toList.length = 8 := Vector.length_toList
  unfold Ipv6.compressed
  dsimp only
  split
  · have before := length_colonText_le (address.toList.take (Ipv6.longestZeros 0 address.toList).1)
    have behind := length_colonText_le (address.toList.drop
      ((Ipv6.longestZeros 0 address.toList).1 + (Ipv6.longestZeros 0 address.toList).2))
    have gap : "::".toList.length = 2 := rfl
    rw [List.length_take, eight] at before
    rw [List.length_drop, eight] at behind
    rw [String.toList_append, String.toList_append, List.length_append, List.length_append, gap]
    omega
  · have whole := length_colonText_le address.toList
    rw [eight] at whole
    omega

namespace Host

/-- A name in its ASCII form is kept, or taken for an address. -/
theorem domain_or_short_of_ofAscii {name : List Char} {host : Host} (read : ofAscii name = .ok host) :
    host = .domain name ∨ host.text.length ≤ 44 := by
  unfold ofAscii at read
  split at read
  · cases read
  · split at read
    · split at read
      · rename_i address _
        rw [← Except.ok.inj read]
        exact .inr (Nat.le_trans (length_ipv4Text_le address) (by decide))
      · cases read
    · exact .inl (Except.ok.inj read).symm

/-- **The host of a special URL is a domain name, or short.** -/
theorem domain_or_short_of_ofSpecial {text : List Char} {host : Host}
    (read : ofSpecial text = .ok host) :
    (∃ name, host = .domain name ∧ ∀ c ∈ name, Idna.IsHostChar c) ∨ host.text.length ≤ 44 := by
  unfold ofSpecial at read
  split at read
  · unfold ofBrackets at read
    split at read
    · split at read
      · rename_i address _
        have short := length_compressed_le address
        rw [← Except.ok.inj read, Host.text, List.length_append, List.length_cons,
          List.length_singleton]
        omega
      · cases read
    · cases read
  · split at read
    · rename_i name found
      obtain ⟨decoded, _, ascii⟩ := Option.bind_eq_some_iff.1 found
      exact (domain_or_short_of_ofAscii read).imp_left fun is =>
        ⟨name, is, Idna.isHostChar_of_mem_toAscii? ascii⟩
    · cases read

/-- **The host of a name without forbidden characters is the name in lower case**, or short. -/
theorem eq_lowerAscii_of_ofSpecial {name : List Char} (allowed : ∀ c ∈ name, Idna.IsHostChar c)
    {host : Host} (read : ofSpecial name = .ok host) :
    host = .domain (lowerAscii name) ∨ host.text.length ≤ 44 := by
  rw [ofSpecial_of_isHostChar allowed] at read
  cases found : Idna.toAscii? name with
  | none => rw [found] at read; cases read
  | some ascii =>
    rw [found] at read
    rw [← Idna.eq_lowerAscii_of_toAscii? (fun c member => (allowed c member).1) found]
    exact domain_or_short_of_ofAscii read

end Host

end ServiceLocation.Url
