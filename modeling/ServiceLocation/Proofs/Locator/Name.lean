import ServiceLocation.Locator.Name
import ServiceLocation.Proofs.Naming
import ServiceLocation.Proofs.Url.Reading

/-!
**The names of participants.**

A name is the locator's own part, a dot and the zone.

* `isHostChar_of_checkHost`, `parse_of_checkHost`: **a long name that is accepted is the host of its
  URL**, in lower case, and holds nothing that a host may not hold;
* `isVerbatim_label`, `checkHost_of_isVerbatim`: a label in front of a name that is a host as it
  stands is accepted;
* `dnsName_eq_ok_iff`: a participant has a name exactly if its parts make one that is accepted;
* `dnsName_error_cases`: what is wrong with a name is wrong with its zone or its URL;
* `dots_of_dnsName`: **a name starts with no dot; whether it ends with one, and whether two stand side
  by side in it, is up to the zone.**
-/

namespace ServiceLocation.Locator

open ServiceLocation.Text

/-! ### Accepted names -/

section

variable {name : String}

theorem checkHost_eq_ok_iff : checkHost name = .ok () ↔
    ∃ url host, Url.parse (hostUrl name).toList = .ok url ∧ url.hostText? = some host ∧
      lowerAscii host = lowerAscii name.toList := by
  unfold checkHost
  dsimp only
  cases Url.parse (hostUrl name).toList with
  | error fault => simp
  | ok url =>
    dsimp only
    cases has : url.hostText? with
    | none => simp [has]
    | some host =>
      by_cases same : eqIgnoreCase host name.toList = true
      · simpa [same, has] using eqIgnoreCase_iff.1 same
      · simpa [same, has] using mt eqIgnoreCase_iff.2 same

theorem checkHost_error {error : LocationError} (rejected : checkHost name = .error error) :
    ∃ fault, error = .malformedUrl (hostUrl name) fault := by
  unfold checkHost at rejected
  dsimp only at rejected
  split at rejected
  · exact ⟨_, (Except.error.inj rejected).symm⟩
  · split at rejected
    · exact ⟨_, (Except.error.inj rejected).symm⟩
    · split at rejected
      · cases rejected
      · exact ⟨_, (Except.error.inj rejected).symm⟩

theorem toList_hostUrl : (hostUrl name).toList = "http://".toList ++ name.toList :=
  String.toList_append

/-- A name that is longer than every address holds nothing that a host may not hold. -/
theorem isHostChar_of_checkHost (long : 44 < name.toList.length) (accepted : checkHost name = .ok ()) :
    ∀ c ∈ name.toList, Idna.IsHostChar c := by
  obtain ⟨url, hostText, read, has, same⟩ := checkHost_eq_ok_iff.1 accepted
  obtain ⟨text, host, special, has'⟩ := Url.exists_ofSpecial_of_parse_http (toList_hostUrl ▸ read)
  obtain rfl : hostText = host.text := Option.some.inj (has.symm.trans has')
  rcases Url.Host.domain_or_short_of_ofSpecial special with ⟨domain, rfl, allowed⟩ | short
  · intro c member
    have lowered : c.toLower ∈ lowerAscii domain := by
      rw [show lowerAscii domain = lowerAscii name.toList from same]
      exact List.mem_map.2 ⟨c, member, rfl⟩
    obtain ⟨d, inside, is⟩ := List.mem_map.1 lowered
    exact Idna.isHostChar_of_toLower (is ▸ Idna.isHostChar_toLower (allowed d inside))
  · have length := congrArg List.length same
    rw [length_lowerAscii, length_lowerAscii] at length
    omega

/-- **A name that is longer than every address and is accepted is the host of its URL**, in lower
case. -/
theorem parse_of_checkHost (long : 44 < name.toList.length) (accepted : checkHost name = .ok ()) :
    Url.parse (hostUrl name).toList =
      .ok (Url.atHost "http".toList (.domain (lowerAscii name.toList)) none []) := by
  have allowed := isHostChar_of_checkHost long accepted
  have nonempty : name.toList ≠ [] := List.length_pos_iff.1 (by omega)
  obtain ⟨url, hostText, read, has, same⟩ := checkHost_eq_ok_iff.1 accepted
  rw [toList_hostUrl, Url.parse_http_name nonempty allowed] at read ⊢
  cases special : Url.Host.ofSpecial name.toList with
  | error fault => rw [special] at read; cases read
  | ok host =>
    rw [special] at read
    obtain rfl : Url.atHost "http".toList host none [] = url := Except.ok.inj read
    rw [Url.hostText?_atHost] at has
    rcases Url.Host.eq_lowerAscii_of_ofSpecial allowed special with rfl | short
    · rfl
    · have length := congrArg List.length same
      rw [← Option.some.inj has, length_lowerAscii, length_lowerAscii] at length
      omega

/-- **A name that is a host as it stands is accepted.** -/
theorem checkHost_of_isVerbatim (verbatim : Url.Host.IsVerbatim name.toList) :
    checkHost name = .ok () := by
  have read : Url.parse (hostUrl name).toList =
      .ok (Url.atHost "http".toList (.domain (lowerAscii name.toList)) none []) := by
    rw [toList_hostUrl, Url.parse_http_name verbatim.nonempty verbatim.allowed,
      Url.Host.ofSpecial_of_isVerbatim verbatim]
    rfl
  have twice : lowerAscii (lowerAscii name.toList) = lowerAscii name.toList := by
    rw [lowerAscii, lowerAscii, List.map_map]
    exact List.map_congr_left fun c member =>
      Idna.of_isHostChar (P := fun c => c.toLower.toLower = c.toLower)
        (verbatim.allowed c member) (by decide)
  exact checkHost_eq_ok_iff.2 ⟨_, _, read, Url.hostText?_atHost .., twice⟩

end

/-- **A label may stand in front of a name that is a host as it stands.** -/
theorem isVerbatim_label {lowercase : Bool} {value : String} {behind : List Char}
    (verbatim : Url.Host.IsVerbatim behind) :
    Url.Host.IsVerbatim ((Naming.label lowercase value).toList ++ '.' :: behind) := by
  generalize written : (Naming.label lowercase value).toList = label
  have filled : label ≠ [] := written ▸ Naming.label_ne_nil lowercase value
  have digits : ∀ c ∈ label, Idna.IsHostChar c ∧ c.toLower ≠ '.' ∧ c.toLower ≠ '-' := by
    rw [← written]
    exact Naming.of_mem_label
      (P := fun c => Idna.IsHostChar c ∧ c.toLower ≠ '.' ∧ c.toLower ≠ '-') (by decide)
  have lowered : lowerAscii (label ++ '.' :: behind) = lowerAscii label ++ '.' :: lowerAscii behind :=
    List.map_append
  have noDot : '.' ∉ lowerAscii label := fun member =>
    have ⟨c, inside, is⟩ := List.mem_map.1 member
    (digits c inside).2.1 is
  -- The start of a coded label holds a hyphen, which is no digit.
  have noCode : Idna.codedStart.isPrefixOf (lowerAscii label) = false := by
    rw [Bool.eq_false_iff, Ne, List.isPrefixOf_iff_prefix]
    intro coded
    obtain ⟨c, inside, is⟩ := List.mem_map.1 (coded.subset (show '-' ∈ Idna.codedStart by decide))
    exact (digits c inside).2.2 is
  constructor
  · exact List.append_ne_nil_of_left_ne_nil filled _
  · exact List.forall_mem_append.2
      ⟨fun c inside => (digits c inside).1, List.forall_mem_cons.2 ⟨by decide, verbatim.allowed⟩⟩
  · rw [lowered, List.splitOn_append_cons_self, List.splitOn_eq_singleton noDot]
    exact List.forall_mem_cons.2 ⟨noCode, verbatim.uncoded⟩
  · rw [lowered, Url.Host.endsInNumber_append _ verbatim.lowerAscii_ne_nil, verbatim.noNumber]

/-! ### The parts of a name -/

section

variable {locator : Locator} {participant : Participant} {zone name : String}

/-- What stands in front of the zone and its dot. -/
def ownPart (locator : Locator) (participant : Participant) : List Char :=
  locator.labelPrefix.toList ++ (Naming.label locator.lowercase participant.value).toList ++
    if locator.addScheme && participant.hasScheme then '.' :: participant.scheme.toList else []

theorem ownPart_ne_nil : ownPart locator participant ≠ [] :=
  List.append_ne_nil_of_left_ne_nil
    (List.append_ne_nil_of_right_ne_nil _ (Naming.label_ne_nil _ _)) _

theorem le_length_ownPart : Naming.labelLength ≤ (ownPart locator participant).length := by
  have label := Naming.length_label locator.lowercase participant.value
  rw [← String.length_toList] at label
  rw [ownPart, List.length_append, List.length_append, label]
  omega

theorem bare_eq_ok_iff {bare : String} : Zone.bare zone = .ok bare ↔
    Zone.isRoot (trim zone.toList) = false ∧ bare.toList = trim zone.toList := by
  unfold Zone.bare
  dsimp only
  split
  · rename_i root
    simp [root]
  · rename_i other
    rw [Except.ok.injEq, Bool.not_eq_true] at *
    simp only [other, true_and]
    exact ⟨fun same => by rw [← same, String.toList_ofList],
      fun same => by rw [← same, String.ofList_toList]⟩

theorem toList_dnsName {bare : String} (nonempty : bare.toList ≠ []) :
    (Naming.dnsName locator.labelPrefix (Naming.label locator.lowercase participant.value)
      (if locator.addScheme then some participant.scheme else none) bare).toList =
        ownPart locator participant ++ '.' :: dropFinal '.' bare.toList := by
  rw [Naming.toList_dnsName _ nonempty, ownPart, Participant.hasScheme]
  cases locator.addScheme with
  | false => rfl
  | true =>
    cases empty : participant.scheme.isEmpty with
    | false => rw [if_pos rfl, Option.filter_some, empty]; rfl
    | true => rw [if_pos rfl, Option.filter_some, empty]; rfl

/-- **A name is the locator's own part, a dot and the zone less a dot at its end**, if the zone is
not the root and the name is accepted. -/
theorem dnsName_eq_ok_iff : locator.dnsName participant zone = .ok name ↔
    Zone.isRoot (trim zone.toList) = false ∧
      name.toList = ownPart locator participant ++ '.' :: dropFinal '.' (trim zone.toList) ∧
      checkHost name = .ok () := by
  have filled : ∀ text, Zone.isRoot text = false → text ≠ [] := by
    rintro _ root rfl
    cases root
  constructor
  · intro named
    obtain ⟨bare, isBare, rest⟩ := bind_eq_ok_iff.1 named
    obtain ⟨_, accepted, same⟩ := bind_eq_ok_iff.1 rest
    obtain ⟨root, is⟩ := bare_eq_ok_iff.1 isBare
    have nonempty : bare.toList ≠ [] := is ▸ filled _ root
    have written : _ = ownPart locator participant ++ '.' :: dropFinal '.' bare.toList :=
      toList_dnsName nonempty
    rw [Except.ok.inj same] at accepted written
    exact ⟨root, by rw [written, is], accepted⟩
  · rintro ⟨root, written, accepted⟩
    have nonempty := filled _ root
    have isBare : Zone.bare zone = .ok (String.ofList (trim zone.toList)) :=
      bare_eq_ok_iff.2 ⟨root, String.toList_ofList⟩
    rw [← String.toList_ofList (l := trim zone.toList)] at written nonempty
    rw [← toList_dnsName nonempty, String.toList_inj] at written
    rw [written] at accepted ⊢
    exact bind_eq_ok_iff.2 ⟨_, isBare, bind_eq_ok_iff.2 ⟨(), accepted, rfl⟩⟩

/-- **A participant without a name is in no zone, or its parts make no host.** -/
theorem dnsName_error_cases {error : LocationError}
    (failed : locator.dnsName participant zone = .error error) :
    error = .invalidInput .emptyZone ∨ ∃ url fault, error = .malformedUrl url fault := by
  rcases bind_eq_error_iff.1 failed with noZone | ⟨bare, _, rest⟩
  · unfold Zone.bare at noZone
    dsimp only at noZone
    split at noZone
    · exact .inl (Except.error.inj noZone).symm
    · cases noZone
  · rcases bind_eq_error_iff.1 rest with rejected | ⟨_, _, done⟩
    · obtain ⟨fault, is⟩ := checkHost_error rejected
      exact .inr ⟨_, fault, is⟩
    · cases done

/-- **A locator without a prefix names a participant wherever scheme and zone are a host as they
stand.** -/
theorem dnsName_of_isVerbatim {behind : List Char} (noPrefix : locator.labelPrefix.toList = [])
    (root : Zone.isRoot (trim zone.toList) = false)
    (parts : (if locator.addScheme && participant.hasScheme then participant.scheme.toList ++ ['.']
      else []) ++ dropFinal '.' (trim zone.toList) = behind)
    (verbatim : Url.Host.IsVerbatim behind) :
    locator.dnsName participant zone = .ok (String.ofList
      ((Naming.label locator.lowercase participant.value).toList ++ '.' :: behind)) := by
  refine dnsName_eq_ok_iff.2 ⟨root, ?_, checkHost_of_isVerbatim ?_⟩ <;> rw [String.toList_ofList]
  · rw [ownPart, noPrefix, List.nil_append, List.append_assoc, ← parts]
    split
    · simp
    · rfl
  · exact isVerbatim_label verbatim

/-! ### Dots -/

/-- A prefix and a scheme without dots leave the own part with no empty label. -/
theorem ownPart_dots (noDot : '.' ∉ locator.labelPrefix.toList)
    (noDot' : '.' ∉ participant.scheme.toList) :
    (ownPart locator participant).head? ≠ some '.' ∧
      (ownPart locator participant).getLast? ≠ some '.' ∧
      ¬['.', '.'] <:+: ownPart locator participant := by
  unfold ownPart
  generalize isFront : locator.labelPrefix.toList ++
    (Naming.label locator.lowercase participant.value).toList = front
  have filled : front ≠ [] :=
    isFront ▸ List.append_ne_nil_of_right_ne_nil _ (Naming.label_ne_nil _ _)
  have free : '.' ∉ front := by
    rw [← isFront, List.mem_append, not_or]
    exact ⟨noDot, fun member =>
      Naming.of_mem_label (P := (· ≠ '.')) (by decide) '.' member rfl⟩
  have noPair : ¬['.', '.'] <:+: front := fun pair => free (pair.subset List.mem_cons_self)
  have first : front.head? ≠ some '.' := fun is => free (List.mem_of_head? is)
  have last : front.getLast? ≠ some '.' := fun is => free (List.mem_of_getLast? is)
  split
  · rename_i shown
    have nonempty : participant.scheme.toList ≠ [] := by
      simpa [Participant.hasScheme] using (Bool.and_eq_true_iff.1 shown).2
    refine ⟨?_, ?_, ?_⟩
    · rwa [List.head?_append_of_ne_nil front filled]
    · rw [List.getLast?_append_of_ne_nil front (List.cons_ne_nil _ _), ← List.singleton_append,
        List.getLast?_append_of_ne_nil _ nonempty]
      exact fun is => noDot' (List.mem_of_getLast? is)
    · rw [pair_isInfix_append_iff, List.infix_cons_iff, List.cons_prefix_cons]
      rintro (inside | (⟨_, start⟩ | behind) | ⟨is, _⟩)
      · exact noPair inside
      · exact noDot' (start.subset List.mem_cons_self)
      · exact noDot' (behind.subset List.mem_cons_self)
      · exact last is
  · rw [List.append_nil]
    exact ⟨first, last, noPair⟩

/-- **A name starts with no dot**, if the prefix and the scheme hold none. **It ends with one, and two
stand side by side in it, only if that is so in the zone**, less a dot at its end. -/
theorem dots_of_dnsName (noDot : '.' ∉ locator.labelPrefix.toList)
    (noDot' : '.' ∉ participant.scheme.toList) (named : locator.dnsName participant zone = .ok name) :
    name.toList.head? ≠ some '.' ∧
      (name.toList.getLast? = some '.' ↔ ['.', '.'] <:+ trim zone.toList) ∧
      (['.', '.'] <:+: name.toList ↔
        (trim zone.toList).head? = some '.' ∨ ['.', '.'] <:+: dropFinal '.' (trim zone.toList)) := by
  obtain ⟨root, written, _⟩ := dnsName_eq_ok_iff.1 named
  obtain ⟨first, last, noPair⟩ := ownPart_dots noDot noDot'
  rw [written]
  generalize trim zone.toList = bare at root ⊢
  have notRoot : bare ≠ ['.'] := by
    rintro rfl
    cases root
  have nonempty : bare ≠ [] := by
    rintro rfl
    cases root
  have ⟨filled, start⟩ : dropFinal '.' bare ≠ [] ∧ (dropFinal '.' bare).head? = bare.head? := by
    rcases dropFinal_cases '.' bare with ⟨_, same⟩ | whole
    · rw [same]
      exact ⟨nonempty, rfl⟩
    · have filled : dropFinal '.' bare ≠ [] := fun empty => notRoot (by rw [whole, empty]; rfl)
      have start : (dropFinal '.' bare ++ ['.']).head? = _ := List.head?_append_of_ne_nil _ filled
      rw [← whole] at start
      exact ⟨filled, start.symm⟩
  refine ⟨?_, ?_, ?_⟩
  · rwa [List.head?_append_of_ne_nil _ ownPart_ne_nil]
  · rw [List.getLast?_append_of_ne_nil _ (List.cons_ne_nil _ _), ← List.singleton_append,
      List.getLast?_append_of_ne_nil _ filled, getLast?_dropFinal_iff]
  · rw [pair_isInfix_append_iff, List.infix_cons_iff, List.cons_prefix_cons, ← start]
    constructor
    · rintro (inside | (⟨_, next⟩ | behind) | ⟨is, _⟩)
      · exact absurd inside noPair
      · obtain ⟨rest, same⟩ := next
        rw [← same]
        exact .inl rfl
      · exact .inr behind
      · exact absurd is last
    · rintro (is | inside)
      · obtain ⟨rest, same⟩ := List.head?_eq_some_iff.1 is
        exact .inr (.inl (.inl ⟨rfl, by rw [same]; exact ⟨rest, rfl⟩⟩))
      · exact .inr (.inl (.inr inside))

theorem dots_of_dnsName_of_preset : ∃ name,
    (Locator.ofPreset .peppol).dnsName { scheme := "iso6523-actorid-upis", value := "9915:test" }
        "edelivery.tech.ec.europa.eu." = .ok name ∧
      name.toList.head? ≠ some '.' ∧ name.toList.getLast? ≠ some '.' ∧ ¬['.', '.'] <:+: name.toList := by
  have named : (Locator.ofPreset .peppol).dnsName
      { scheme := "iso6523-actorid-upis", value := "9915:test" } "edelivery.tech.ec.europa.eu." =
        .ok (String.ofList ((Naming.label (Locator.ofPreset .peppol).lowercase "9915:test").toList ++
          '.' :: "iso6523-actorid-upis.edelivery.tech.ec.europa.eu".toList)) :=
    dnsName_of_isVerbatim rfl (by decide) (by decide) (by decide)
  obtain ⟨first, last, pairs⟩ := dots_of_dnsName (by decide) (by decide) named
  exact ⟨_, named, first, mt last.1 (by decide), mt pairs.1 (by rw [← holds_iff]; decide +kernel)⟩

/-- **One dot is dropped from a zone that ends with two**, so that its names end with a dot. -/
theorem dnsName_of_two_dots :
    '.' ∉ (Locator.ofPreset .peppol).labelPrefix.toList ∧
      '.' ∉ (Participant.ofValue "abc").scheme.toList ∧
      ∃ name, (Locator.ofPreset .peppol).dnsName (.ofValue "abc") "example.org.." = .ok name ∧
        name.toList.getLast? = some '.' := by
  have named : (Locator.ofPreset .peppol).dnsName (.ofValue "abc") "example.org.." =
      .ok (String.ofList ((Naming.label (Locator.ofPreset .peppol).lowercase "abc").toList ++
        '.' :: "example.org.".toList)) :=
    dnsName_of_isVerbatim rfl (by decide) (by decide) (by decide)
  refine ⟨by decide, by decide, _, named, ?_⟩
  rw [String.toList_ofList, List.getLast?_append_of_ne_nil _ (List.cons_ne_nil _ _)]
  rfl

end

end ServiceLocation.Locator
