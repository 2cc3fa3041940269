import ServiceLocation.Locator.Name
import ServiceLocation.Proofs.Naming

/-!
**Participants whose values differ in case.**

Where values are lowered before they are hashed, the case of their letters does not matter for their
names.

* `dnsName_congr`: the value counts in a name by its label alone;
* `dnsName_of_lowercase`: **values that agree up to the case of ASCII letters have one name**, and the
  label of a value is that of its lower case.
-/

namespace ServiceLocation.Locator

open ServiceLocation.Text

variable {locator : Locator}

/-- The value counts in a name by its label alone. -/
theorem dnsName_congr {scheme value value' : String}
    (same : Naming.label locator.lowercase value = Naming.label locator.lowercase value')
    (zone : String) : locator.dnsName ⟨scheme, value⟩ zone = locator.dnsName ⟨scheme, value'⟩ zone := by
  unfold dnsName
  rw [same]

/-- **Where values are lowered, those that agree up to the case of ASCII letters have one name**, in
every zone and under every scheme, or are rejected alike. The lower case of a value has the label of
the value, lowered once more or not. -/
theorem dnsName_of_lowercase (lowered : locator.lowercase = true) :
    (∀ scheme zone value value', eqIgnoreCase value.toList value'.toList = true →
      locator.dnsName ⟨scheme, value⟩ zone = locator.dnsName ⟨scheme, value'⟩ zone) ∧
    ∀ value, Naming.label true (lowerCased value) = Naming.label true value ∧
      Naming.label false (lowerCased value) = Naming.label true value := by
  refine ⟨fun scheme zone value value' same => dnsName_congr ?_ zone, fun value => ?_⟩
  · rw [lowered]
    exact Naming.label_eq_of_eqIgnoreCase same
  · exact ⟨Naming.label_lowerCased true value, Naming.label_lowerCased false value⟩

/-- A sigma behind a capital letter, which makes it the last of its word. -/
theorem dnsName_of_lowercase_of_sigma :
    eqIgnoreCase "9915:ABCΣ".toList "9915:abcΣ".toList = true ∧
      (Locator.ofPreset .peppol).dnsName ⟨"iso6523-actorid-upis", "9915:ABCΣ"⟩ "example.org." =
        (Locator.ofPreset .peppol).dnsName ⟨"iso6523-actorid-upis", "9915:abcΣ"⟩ "example.org." ∧
      lowerCased "9915:ABCΣ" = "9915:abcς" ∧
      Naming.label false "9915:abcς" = Naming.label true "9915:ABCΣ" := by
  have lowered : (Locator.ofPreset .peppol).lowercase = true := rfl
  have same : eqIgnoreCase "9915:ABCΣ".toList "9915:abcΣ".toList = true := by decide
  have final : lowerCased "9915:ABCΣ" = "9915:abcς" := by decide +kernel
  obtain ⟨named, labels⟩ := dnsName_of_lowercase lowered
  exact ⟨same, named _ _ _ _ same, final, final ▸ (labels "9915:ABCΣ").2⟩

end ServiceLocation.Locator
