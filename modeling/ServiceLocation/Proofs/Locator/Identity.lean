import ServiceLocation.Proofs.Locator.Name

/-!
**What a name tells of a participant.**

In one zone, the names that a locator makes differ in their labels and their schemes alone. All labels
are of one length, so that where the label ends is told by the name.

* `map_schemePart_eq_iff`: what stands for the scheme tells the scheme, none included;
* `map_dnsName_eq_iff`: **so a name tells the label and the scheme**, also when only some change of its
  characters is known;
* `dnsName_eqIgnoreCase_iff`: names are equal up to case if the labels are equal and the schemes are
  equal up to case, and then so are the values, unless two of them have the same digest.
-/

namespace ServiceLocation.Locator

open ServiceLocation.Text ServiceLocation.Digest

section

variable {locator : Locator} {first second : Participant} {zone name name' : String}

/-- What stands for the scheme of a participant, behind the label. -/
def schemePart (locator : Locator) (participant : Participant) : List Char :=
  if locator.addScheme && participant.hasScheme then '.' :: participant.scheme.toList else []

theorem ownPart_eq (locator : Locator) (participant : Participant) :
    ownPart locator participant = locator.labelPrefix.toList ++
      (Naming.label locator.lowercase participant.value).toList ++
        schemePart locator participant := rfl

theorem schemePart_of_addScheme (added : locator.addScheme = true) (participant : Participant) :
    schemePart locator participant =
      if participant.scheme.toList = [] then [] else '.' :: participant.scheme.toList := by
  rw [schemePart, added, Bool.true_and, Participant.hasScheme]
  by_cases empty : participant.scheme.toList = []
  · have isEmpty : participant.scheme.isEmpty = true := by simpa using empty
    rw [isEmpty, if_pos empty]
    rfl
  · have isEmpty : participant.scheme.isEmpty = false := by simpa using empty
    rw [isEmpty, if_neg empty]
    rfl

/-- **What stands for the scheme tells the scheme**, if schemes are shown at all. -/
theorem map_schemePart_eq_iff (change : Char → Char) :
    (schemePart locator first).map change = (schemePart locator second).map change ↔
      locator.addScheme = false ∨
        first.scheme.toList.map change = second.scheme.toList.map change := by
  cases added : locator.addScheme with
  | false => simp [schemePart, added]
  | true =>
    -- A scheme that is shown is not empty, so a dot and what follows it never stand for none.
    rw [schemePart_of_addScheme added first, schemePart_of_addScheme added second]
    by_cases empty : first.scheme.toList = [] <;> by_cases empty' : second.scheme.toList = [] <;>
      simp [empty, empty']

/-- **A name tells the label and the scheme**, up to any change of characters. -/
theorem map_dnsName_eq_iff (change : Char → Char) (named : locator.dnsName first zone = .ok name)
    (named' : locator.dnsName second zone = .ok name') :
    name.toList.map change = name'.toList.map change ↔
      (Naming.label locator.lowercase first.value).toList.map change =
          (Naming.label locator.lowercase second.value).toList.map change ∧
        (locator.addScheme = false ∨
          first.scheme.toList.map change = second.scheme.toList.map change) := by
  obtain ⟨_, written, _⟩ := dnsName_eq_ok_iff.1 named
  obtain ⟨_, written', _⟩ := dnsName_eq_ok_iff.1 named'
  have lengths : ((Naming.label locator.lowercase first.value).toList.map change).length =
      ((Naming.label locator.lowercase second.value).toList.map change).length := by
    simp only [List.length_map, String.length_toList, Naming.length_label]
  rw [written, written', ownPart_eq, ownPart_eq, ← map_schemePart_eq_iff change]
  simp only [List.map_append, List.append_assoc, List.append_right_inj]
  constructor
  · intro same
    -- The zone is behind both, and the labels are as long as each other.
    rw [← List.append_assoc, ← List.append_assoc, List.append_left_inj] at same
    exact List.append_inj same lengths
  · rintro ⟨labels, schemes⟩
    rw [labels, schemes]

/-- **Names tell participants apart.** Two participants of a zone have names that are equal up to case
exactly if their labels are equal and, where schemes are shown, their schemes are equal up to case.
Then the texts that are hashed are equal, unless they have one digest all the same; and names that are
equal in case, too, are those of equal schemes. -/
theorem dnsName_eqIgnoreCase_iff (named : locator.dnsName first zone = .ok name)
    (named' : locator.dnsName second zone = .ok name') :
    (eqIgnoreCase name.toList name'.toList = true ↔
      Naming.label locator.lowercase first.value = Naming.label locator.lowercase second.value ∧
        (locator.addScheme = false ∨
          eqIgnoreCase first.scheme.toList second.scheme.toList = true)) ∧
    ((sha256 (Naming.hashInput locator.lowercase first.value) =
          sha256 (Naming.hashInput locator.lowercase second.value) →
        Naming.hashInput locator.lowercase first.value =
          Naming.hashInput locator.lowercase second.value) →
      eqIgnoreCase name.toList name'.toList = true →
      (if locator.lowercase then lowerCased first.value else first.value) =
        if locator.lowercase then lowerCased second.value else second.value) ∧
    (name = name' → locator.addScheme = true → first.scheme = second.scheme) := by
  have told : eqIgnoreCase name.toList name'.toList = true ↔
      Naming.label locator.lowercase first.value = Naming.label locator.lowercase second.value ∧
        (locator.addScheme = false ∨
          eqIgnoreCase first.scheme.toList second.scheme.toList = true) := by
    have labels : lowerAscii (Naming.label locator.lowercase first.value).toList =
          lowerAscii (Naming.label locator.lowercase second.value).toList ↔
        Naming.label locator.lowercase first.value = Naming.label locator.lowercase second.value :=
      ⟨Naming.eq_of_lowerAscii_label, fun same => by rw [same]⟩
    rw [eqIgnoreCase_iff, eqIgnoreCase_iff, ← labels]
    exact map_dnsName_eq_iff Char.toLower named named'
  refine ⟨told, fun noCollision same => ?_, fun same added => ?_⟩
  · have digests := Naming.label_eq_iff.1 (told.1 same).1
    exact Naming.hashInput_eq_iff.1 (noCollision digests)
  · have same' : name.toList.map id = name'.toList.map id := by rw [same]
    have schemes := ((map_dnsName_eq_iff id named named').1 same').2.resolve_left
      (by rw [added]; decide)
    rwa [List.map_id, List.map_id, String.toList_inj] at schemes

/-- Of three participants the first two differ in case alone, and the third has no scheme. -/
theorem dnsName_eqIgnoreCase_of_preset : ∃ name name' name'',
    (Locator.ofPreset .peppol).dnsName ⟨"iso6523-actorid-upis", "9915:test"⟩ "example.org." =
        .ok name ∧
      (Locator.ofPreset .peppol).dnsName ⟨"ISO6523-ActorId-UPIS", "9915:TEST"⟩ "example.org." =
        .ok name' ∧
      (Locator.ofPreset .peppol).dnsName ⟨"", "9915:test"⟩ "example.org." = .ok name'' ∧
      eqIgnoreCase name.toList name'.toList = true ∧
      eqIgnoreCase name.toList name''.toList = false := by
  have named : (Locator.ofPreset .peppol).dnsName ⟨"iso6523-actorid-upis", "9915:test"⟩
      "example.org." = .ok (String.ofList ((Naming.label true "9915:test").toList ++
        '.' :: "iso6523-actorid-upis.example.org".toList)) :=
    dnsName_of_isVerbatim rfl (by decide) (by decide) (by decide)
  have named' : (Locator.ofPreset .peppol).dnsName ⟨"ISO6523-ActorId-UPIS", "9915:TEST"⟩
      "example.org." = .ok (String.ofList ((Naming.label true "9915:TEST").toList ++
        '.' :: "ISO6523-ActorId-UPIS.example.org".toList)) :=
    dnsName_of_isVerbatim rfl (by decide) (by decide) (by decide)
  have named'' : (Locator.ofPreset .peppol).dnsName ⟨"", "9915:test"⟩ "example.org." =
      .ok (String.ofList ((Naming.label true "9915:test").toList ++ '.' :: "example.org".toList)) :=
    dnsName_of_isVerbatim rfl (by decide) (by decide) (by decide)
  have labels : Naming.label true "9915:test" = Naming.label true "9915:TEST" :=
    Naming.label_eq_iff.2 (congrArg sha256 (Naming.hashInput_eq_iff.2 (by decide +kernel)))
  refine ⟨_, _, _, named, named', named'', ?_, ?_⟩
  · exact (dnsName_eqIgnoreCase_iff named named').1.2 ⟨labels, .inr (by decide)⟩
  · refine Bool.eq_false_iff.2 fun same => ?_
    rcases ((dnsName_eqIgnoreCase_iff named named'').1.1 same).2 with hidden | schemes
    · cases hidden
    · exact absurd schemes (by decide)

end

end ServiceLocation.Locator
