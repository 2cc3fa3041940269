import ServiceLocation.Proofs.Locator.Name
import ServiceLocation.Proofs.Locator.Session
import ServiceLocation.Proofs.Sml.Parts

/-!
**Zones that are written in different ways.**

The canonical form of a zone gets a dot at its end, which a name drops again, and both trim.

* `Zone.Writes`: the ways to write a zone: as it is, with blanks around it, in its canonical form, and
  as a part of a locator of service metadata, in any order and number;
* `dnsName_eq_checked`: the zone counts in a name by what stands between its blanks, less a dot;
* `dnsName_of_canonical`: so **a name is the same in the canonical form of its zone**;
* `calls_of_writes`: **calls answer, ask and remember the same for every way to write a zone.**
-/

namespace ServiceLocation

open ServiceLocation.Address ServiceLocation.Naptr ServiceLocation.Text

/-- The ways to write a zone. -/
inductive Zone.Writes (zone : String) : String → Prop where
  | itself : Writes zone zone
  | spaced {form : String} (before behind : String) (writes : Writes zone form)
    (blank : ∀ c ∈ before.toList, isBlank c = true)
    (blank' : ∀ c ∈ behind.toList, isBlank c = true) : Writes zone (before ++ form ++ behind)
  | canonical {form canonical : String} (writes : Writes zone form)
    (is : Zone.canonical form = .ok canonical) : Writes zone canonical
  | part {form id displayName managementUrl : String} {requiresClientCertificate : Bool} {sml : Sml}
    (writes : Writes zone form)
    (made : Sml.make id displayName form managementUrl requiresClientCertificate = .ok sml) :
    Writes zone sml.zone

namespace Locator

section

variable {locator : Locator} {participant : Participant} {zone zone' : String}

/-- **A name in a zone that is not the root is what its parts make**, once that is checked. -/
theorem dnsName_eq_checked (root : Zone.isRoot (trim zone.toList) = false) :
    locator.dnsName participant zone =
      let name := String.ofList
        (ownPart locator participant ++ '.' :: dropFinal '.' (trim zone.toList))
      checkHost name >>= fun _ => .ok name := by
  obtain ⟨bare, isBare, is⟩ : ∃ bare, Zone.bare zone = .ok bare ∧ bare.toList = trim zone.toList :=
    ⟨_, bare_eq_ok_iff.2 ⟨root, String.toList_ofList⟩, String.toList_ofList⟩
  have nonempty : bare.toList ≠ [] := is ▸ Zone.ne_nil_of_isRoot root
  have written : Naming.dnsName locator.labelPrefix (Naming.label locator.lowercase participant.value)
      (if locator.addScheme then some participant.scheme else none) bare =
        String.ofList (ownPart locator participant ++ '.' :: dropFinal '.' (trim zone.toList)) := by
    rw [← String.toList_inj, toList_dnsName nonempty, is, String.toList_ofList]
  unfold dnsName
  rw [isBare]
  dsimp only [bind, Except.bind]
  rw [written]

/-- Blanks around a zone do not count. -/
theorem dnsName_of_trim (same : trim zone.toList = trim zone'.toList) :
    locator.dnsName participant zone = locator.dnsName participant zone' := by
  unfold dnsName
  rw [Zone.bare_congr same]

/-- **A participant has the same name in a zone and in its canonical form**, or is rejected alike. -/
theorem dnsName_of_canonical (is : Zone.canonical zone = .ok zone') :
    locator.dnsName participant zone' = locator.dnsName participant zone := by
  obtain ⟨root, -, -⟩ := Zone.canonical_eq_ok_iff.1 is
  have trimmed := Zone.trim_of_canonical is
  have root' : Zone.isRoot (trim zone'.toList) = false := by
    rw [trimmed]
    exact (Zone.noRoot_of_canonical is).1
  have same : dropFinal '.' (trim zone'.toList) = dropFinal '.' (trim zone.toList) := by
    rw [trimmed, Zone.dropFinal_of_canonical is]
  rw [dnsName_eq_checked root, dnsName_eq_checked root', same]

/-- Every way to write a zone gives the same names. -/
theorem dnsName_of_writes (writes : Zone.Writes zone zone') :
    locator.dnsName participant zone' = locator.dnsName participant zone := by
  induction writes with
  | itself => rfl
  | spaced before behind writes blank blank' ih =>
    rw [← ih]
    refine dnsName_of_trim ?_
    rw [String.toList_append, String.toList_append, trim_of_blank _ blank blank']
  | canonical writes is ih => rw [dnsName_of_canonical is, ih]
  | part writes made ih => rw [dnsName_of_canonical (Sml.make_eq_ok_iff.1 made).2.1, ih]

/-- A call answers by the name that it makes. -/
theorem resolveWith_congr {network : Network} {options : ResolveOptions} {memory : Memory}
    (same : locator.dnsName participant zone' = locator.dnsName participant zone) :
    locator.resolveWith network participant zone' options memory =
      locator.resolveWith network participant zone options memory := by
  unfold resolveWith
  rw [same]

/-- **It does not matter how a zone is written**: names and errors are the same, and so is what a call
answers, what it asks and what is remembered afterwards, under the same key. -/
theorem calls_of_writes (writes : Zone.Writes zone zone') (locator : Locator)
    (participant : Participant) :
    locator.dnsName participant zone' = locator.dnsName participant zone ∧
      (∀ network options memory,
        locator.resolveWith network participant zone' options memory =
          locator.resolveWith network participant zone options memory) ∧
      ∀ options key,
        (∃ name service servers, locator.Asks participant zone' options name service servers ∧
          key = Cache.key name service options.primaryText) ↔
        ∃ name service servers, locator.Asks participant zone options name service servers ∧
          key = Cache.key name service options.primaryText := by
  have same : locator.dnsName participant zone' = locator.dnsName participant zone :=
    dnsName_of_writes writes
  have asks : ∀ options name service servers,
      locator.Asks participant zone' options name service servers ↔
        locator.Asks participant zone options name service servers := by
    intro options name service servers
    constructor
    · rintro ⟨named, target, listed⟩
      exact ⟨same ▸ named, target, listed⟩
    · rintro ⟨named, target, listed⟩
      exact ⟨same ▸ named, target, listed⟩
  refine ⟨same, fun network options memory => resolveWith_congr same, fun options key => ?_⟩
  simp only [asks]

end

/-- A zone without a dot, the zone of a locator made of it, and that zone between blanks. -/
theorem calls_of_writes_of_sample : ∃ name,
    (Locator.ofPreset .peppol).dnsName (.ofValue "abc") "sml.example.org" = .ok name ∧
      (Locator.ofPreset .peppol).dnsName (.ofValue "abc") "sml.example.org." = .ok name ∧
      (Locator.ofPreset .peppol).dnsName (.ofValue "abc") "\t sml.example.org.\u00A0" = .ok name := by
  have made : Sml.make "test" "Test" "sml.example.org" "https://smp.example.org/" true =
      .ok (Sml.sample "https://smp.example.org") := Sml.make_sample (by decide) Url.parse_exampleHost
  have part : Zone.Writes "sml.example.org" "sml.example.org." := .part .itself made
  have spaced : Zone.Writes "sml.example.org" "\t sml.example.org.\u00A0" :=
    .spaced "\t " "\u00A0" part (List.all_eq_true.1 (by decide)) (List.all_eq_true.1 (by decide))
  have named : (Locator.ofPreset .peppol).dnsName (.ofValue "abc") "sml.example.org" =
      .ok (String.ofList ((Naming.label (Locator.ofPreset .peppol).lowercase "abc").toList ++
        '.' :: "sml.example.org".toList)) :=
    dnsName_of_isVerbatim rfl (by decide) (by decide) (by decide)
  exact ⟨_, named, (calls_of_writes part _ _).1.trans named, (calls_of_writes spaced _ _).1.trans named⟩

end Locator

end ServiceLocation
