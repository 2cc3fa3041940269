import ServiceLocation.Naming
import ServiceLocation.Proofs.Digest.Base32
import ServiceLocation.Proofs.Text.Ending
import ServiceLocation.Proofs.Text.LowerCase
import ServiceLocation.Proofs.Text.Utf8
import ServiceLocation.Text.AsciiCase

/-!
**The parts of names made from hashes.**

* `toList_label`, `of_mem_label`: a label is the Base32 digits of a digest;
* `label_eq_iff`: **labels are equal if the digests are**;
* `label_eq_of_eqIgnoreCase`, `label_lowerCased`: values that are lowered have one label if they agree
  up to the case of ASCII letters, and the label of their lower case;
* `eq_of_lowerAscii_label`: labels are equal if they are up to the case of their letters;
* `toList_dnsName`: the zone stands at the end of a name, behind a dot and less a dot of its own;
* `getLast?_label`, `digest_of_label`: a label ends in A or Q, and **the digest is read back from it**.
-/

namespace ServiceLocation

open ServiceLocation.Text

namespace Naming

/-- **A label is the digits of a digest.** None of them is a sign of padding, and all of them are capitals
or figures, so what is done to them changes nothing. -/
theorem toList_label (lowercase : Bool) (value : String) :
    (label lowercase value).toList =
      Digest.Base32.encode (Digest.sha256 (hashInput lowercase value)) := by
  have noPadding : ∀ c ∈ Digest.Base32.encode (Digest.sha256 (hashInput lowercase value)), c ≠ '=' :=
    Digest.Base32.of_mem_encode (by decide)
  have kept : ∀ c ∈ Digest.Base32.encode (Digest.sha256 (hashInput lowercase value)), c.toUpper = c :=
    Digest.Base32.of_mem_encode (by decide)
  rw [label, String.toList_ofList, dropFinals_of_notMem fun member => noPadding '=' member rfl]
  exact List.map_congr_left kept |>.trans (List.map_id _)

/-- A label has 52 characters. -/
@[simp] theorem length_label (lowercase : Bool) (value : String) :
    (label lowercase value).length = labelLength := by
  rw [← String.length_toList, toList_label, Digest.Base32.length_encode, Digest.length_sha256]
  rfl

/-- **What holds of the Base32 digits holds of the characters of a label.** -/
theorem of_mem_label {P : Char → Prop} (all : ∀ value < 32, P (Digest.Base32.digit value))
    {lowercase : Bool} {value : String} : ∀ c ∈ (label lowercase value).toList, P c := by
  rw [toList_label]
  exact Digest.Base32.of_mem_encode all

theorem label_ne_nil (lowercase : Bool) (value : String) : (label lowercase value).toList ≠ [] := by
  intro empty
  have length := length_label lowercase value
  rw [← String.length_toList, empty] at length
  cases length

/-- **Labels are equal exactly if the digests are.** -/
theorem label_eq_iff {lowercase lowercase' : Bool} {value value' : String} :
    label lowercase value = label lowercase' value' ↔
      Digest.sha256 (hashInput lowercase value) = Digest.sha256 (hashInput lowercase' value') := by
  rw [← String.toList_inj, toList_label, toList_label, Digest.Base32.encode_inj]

/-- **A label ends with `A` or `Q`**, since its last digit holds one bit of the digest, and four zeros. -/
theorem getLast?_label (lowercase : Bool) (value : String) :
    (label lowercase value).toList.getLast? = some 'A' ∨
      (label lowercase value).toList.getLast? = some 'Q' := by
  have digest := Digest.length_sha256 (hashInput lowercase value)
  have nonempty : Digest.sha256 (hashInput lowercase value) ≠ [] := by
    intro none
    rw [none] at digest
    cases digest
  obtain ⟨bit, last, below⟩ := Digest.Base32.getLast?_encode nonempty
  rw [Digest.Base32.length_encode, digest] at last below
  have few : bit = 0 ∨ bit = 1 := by omega
  rw [toList_label, last]
  rcases few with rfl | rfl
  · exact .inl rfl
  · exact .inr rfl

/-- The bytes that are hashed tell the text that they are taken from. -/
theorem hashInput_eq_iff {lowercase lowercase' : Bool} {value value' : String} :
    hashInput lowercase value = hashInput lowercase' value' ↔
      (if lowercase then lowerCased value else value) =
        if lowercase' then lowerCased value' else value' :=
  Utf8.toUTF8_toList_inj

/-- **Values that agree up to the case of ASCII letters have one label**, if they are lowered. -/
theorem label_eq_of_eqIgnoreCase {value value' : String}
    (same : eqIgnoreCase value.toList value'.toList = true) : label true value = label true value' := by
  have lowered : lowerCased value = lowerCased value' := by
    rw [← String.toList_inj, toList_lowerCased, toList_lowerCased]
    exact lowerCase_congr (eqIgnoreCase_iff.1 same)
  exact label_eq_iff.2 (congrArg Digest.sha256 (hashInput_eq_iff.2 lowered))

/-- **A value that is lowered has the label of its lower case**, whether that is lowered or not. -/
theorem label_lowerCased (lowercase : Bool) (value : String) :
    label lowercase (lowerCased value) = label true value := by
  have twice : lowerCased (lowerCased value) = lowerCased value := by
    rw [← String.toList_inj, toList_lowerCased, toList_lowerCased, lowerCase_lowerCase]
  have hashed : (if lowercase then lowerCased (lowerCased value) else lowerCased value) =
      lowerCased value := by
    rw [twice, ite_self]
  exact label_eq_iff.2 (congrArg Digest.sha256 (hashInput_eq_iff.2 hashed))

/-- **Labels hold no two letters that differ in case alone**, so case does not matter between them. -/
theorem eq_of_lowerAscii_label {lowercase lowercase' : Bool} {value value' : String}
    (same : lowerAscii (label lowercase value).toList = lowerAscii (label lowercase' value').toList) :
    label lowercase value = label lowercase' value' := by
  have raised : ∀ lowercase value, (lowerAscii (label lowercase value).toList).map Char.toUpper =
      (label lowercase value).toList := by
    intro lowercase value
    have kept : ∀ c ∈ (label lowercase value).toList, c.toLower.toUpper = c :=
      of_mem_label (by decide)
    rw [lowerAscii, List.map_map]
    exact List.map_congr_left kept |>.trans (List.map_id _)
  rw [← String.toList_inj, ← raised, same, raised]

/-- **The zone stands at the end of a name**, behind a dot and less a dot of its own. -/
theorem toList_dnsName {labelPrefix label zone : String} (scheme : Option String)
    (nonempty : zone.toList ≠ []) :
    (dnsName labelPrefix label scheme zone).toList =
      labelPrefix.toList ++ label.toList ++
        ((scheme.filter (!·.isEmpty)).elim [] fun scheme => '.' :: scheme.toList) ++
        '.' :: dropFinal '.' zone.toList := by
  have joined : ∀ middle : List Char,
      dropFinal '.' (labelPrefix.toList ++ label.toList ++ middle ++ ['.'] ++ zone.toList) =
        labelPrefix.toList ++ label.toList ++ middle ++ '.' :: dropFinal '.' zone.toList := by
    intro middle
    rw [dropFinal_append nonempty, List.append_assoc]
    rfl
  unfold dnsName
  cases scheme.filter (!·.isEmpty) with
  | none => simpa using joined []
  | some scheme => simpa using joined ('.' :: scheme.toList)

/-- **A label is the digest of a value in 52 digits of Base32**, capitals and figures, of which the last
is `A` or `Q`. The digest is read back from it, so labels are equal exactly if the digests are. What the
encoder writes ends with no sign of padding and holds no small letter that would have to be raised. -/
theorem digest_of_label (lowercase : Bool) (value : String) :
    let digest := Digest.sha256 (if lowercase then lowerCased value else value).toUTF8.toList
    let written := (label lowercase value).toList
    digest.length = 32 ∧ written.length = 52 ∧
      (∀ c ∈ written, ('A' ≤ c ∧ c ≤ 'Z') ∨ ('2' ≤ c ∧ c ≤ '7')) ∧
      (written.getLast? = some 'A' ∨ written.getLast? = some 'Q') ∧
      Digest.Base32.decode written = some digest ∧
      (∀ lowercase' value', label lowercase value = label lowercase' value' ↔
        digest = Digest.sha256 (if lowercase' then lowerCased value' else value').toUTF8.toList) ∧
      Digest.Base32.encode digest = written ∧
      (written.reverse.dropWhile (· == '=')).reverse = written ∧
      written.map Char.toUpper = written := by
  intro digest written
  have encoded : written = Digest.Base32.encode digest := toList_label lowercase value
  refine ⟨Digest.length_sha256 _, ?_, of_mem_label (by decide), getLast?_label lowercase value, ?_,
    fun _ _ => label_eq_iff, encoded.symm, ?_, ?_⟩
  · have length := length_label lowercase value
    rwa [← String.length_toList] at length
  · rw [encoded, Digest.Base32.decode_encode]
  · have noPadding : ∀ c ∈ written, c ≠ '=' := of_mem_label (by decide)
    exact dropFinals_of_notMem fun member => noPadding '=' member rfl
  · have kept : ∀ c ∈ written, c.toUpper = c := of_mem_label (by decide)
    exact List.map_congr_left kept |>.trans (List.map_id _)

end Naming

end ServiceLocation
