import ServiceLocation.Proofs.Url.Reading
import ServiceLocation.Proofs.Zone
import ServiceLocation.Sml

/-!
**Locators of service metadata and their parts.**

Two parts are brought into a form of their own: the zone gets a dot at its end, and the management URL
loses a slash there.

* `readManagementUrl_eq_ok_iff`, `make_eq_ok_iff`: which parts make a locator, and which one;
* `make_of_made`: a locator that is made of the parts of one can differ from it in the URL alone;
* `make_parts`: **the parts of a locator make that locator again exactly if its URL does not end with a
  slash, and it does if the given one ended with two.**
-/

namespace ServiceLocation.Sml

open ServiceLocation.Text

section

variable {id displayName zone managementUrl url : String} {requiresClientCertificate : Bool} {sml : Sml}

/-- **A management URL is a URL**, and the given text less a slash at its end. -/
theorem readManagementUrl_eq_ok_iff : readManagementUrl managementUrl = .ok url ↔
    url.toList = dropFinal '/' managementUrl.toList ∧ ∃ base, Url.parse url.toList = .ok base := by
  unfold readManagementUrl
  generalize dropFinal '/' managementUrl.toList = inner
  dsimp only
  by_cases empty : inner.isEmpty = true
  · -- The empty text is no URL.
    rw [if_pos empty, List.isEmpty_iff.1 empty]
    constructor
    · intro read
      cases read
    · rintro ⟨written, base, read⟩
      rw [written] at read
      cases read
  · rw [if_neg empty]
    constructor
    · intro read
      split at read
      · rename_i base isUrl
        rw [← Except.ok.inj read, String.toList_ofList]
        exact ⟨rfl, base, isUrl⟩
      · cases read
    · rintro ⟨written, base, isUrl⟩
      rw [← written, isUrl]
      exact congrArg Except.ok String.ofList_toList

/-- **A locator is made of a name and an id that are not blank, a zone that has a canonical form, and
a URL.** -/
theorem make_eq_ok_iff :
    make id displayName zone managementUrl requiresClientCertificate = .ok sml ↔
      (trim id.toList ≠ [] ∧ trim displayName.toList ≠ []) ∧
        Zone.canonical zone = .ok sml.zone ∧ readManagementUrl managementUrl = .ok sml.managementUrl ∧
        sml.id = id ∧ sml.displayName = displayName ∧
        sml.requiresClientCertificate = requiresClientCertificate := by
  unfold make
  by_cases noId : trim id.toList = []
  · simp [noId]
  · by_cases noName : trim displayName.toList = []
    · simp [noId, noName]
    · have shown : ¬(trim id.toList).isEmpty = true := by simpa using noId
      have shown' : ¬(trim displayName.toList).isEmpty = true := by simpa using noName
      rw [if_neg shown, if_neg shown']
      constructor
      · intro made
        obtain ⟨form, canonical, rest⟩ := bind_eq_ok_iff.1 made
        obtain ⟨url, read, same⟩ := bind_eq_ok_iff.1 rest
        rw [← Except.ok.inj same]
        exact ⟨⟨noId, noName⟩, canonical, read, rfl, rfl, rfl⟩
      · rintro ⟨-, canonical, read, rfl, rfl, rfl⟩
        exact bind_eq_ok_iff.2 ⟨_, canonical, bind_eq_ok_iff.2 ⟨_, read, rfl⟩⟩

/-- A locator that is made of the parts of one, but for the URL, can differ from it in the URL alone. -/
theorem make_of_made (made : make id displayName zone managementUrl requiresClientCertificate = .ok sml)
    {again : Sml} :
    make sml.id sml.displayName sml.zone url sml.requiresClientCertificate = .ok again ↔
      readManagementUrl url = .ok again.managementUrl ∧
        again = { sml with managementUrl := again.managementUrl } := by
  obtain ⟨⟨hasId, hasName⟩, canonical, -, rfl, rfl, -⟩ := make_eq_ok_iff.1 made
  rw [make_eq_ok_iff, Zone.canonical_canonical canonical]
  constructor
  · rintro ⟨-, sameZone, read, sameId, sameName, sameCertificate⟩
    cases again
    cases sml
    cases sameId
    cases sameName
    cases sameCertificate
    cases Except.ok.inj sameZone
    exact ⟨read, rfl⟩
  · rintro ⟨read, same⟩
    rw [same]
    exact ⟨⟨hasId, hasName⟩, rfl, read, rfl, rfl, rfl⟩

/-- **The parts of a locator make that locator again exactly if the given URL did not end with two
slashes**, and exactly then the URL of the locator does not end with one. What the parts make
otherwise differs from it by that slash alone. -/
theorem make_parts (made : make id displayName zone managementUrl requiresClientCertificate = .ok sml) :
    (sml.managementUrl.toList.getLast? = some '/' ↔ ['/', '/'] <:+ managementUrl.toList) ∧
      (make sml.id sml.displayName sml.zone sml.managementUrl sml.requiresClientCertificate = .ok sml ↔
        ¬['/', '/'] <:+ managementUrl.toList) ∧
      ∀ again,
        make sml.id sml.displayName sml.zone sml.managementUrl sml.requiresClientCertificate =
            .ok again →
          again = { sml with
            managementUrl := String.ofList (dropFinal '/' sml.managementUrl.toList) } := by
  obtain ⟨-, -, read, -⟩ := make_eq_ok_iff.1 made
  obtain ⟨written, isUrl⟩ := readManagementUrl_eq_ok_iff.1 read
  have last : sml.managementUrl.toList.getLast? = some '/' ↔ ['/', '/'] <:+ managementUrl.toList := by
    rw [written, getLast?_dropFinal_iff]
  refine ⟨last, ?_, fun again remade => ?_⟩
  · rw [make_of_made made, ← last, readManagementUrl_eq_ok_iff]
    constructor
    · rintro ⟨⟨kept, -⟩, -⟩ slash
      obtain ⟨front, whole⟩ := List.getLast?_eq_some_iff.1 slash
      rw [whole, dropFinal_concat] at kept
      simp at kept
    · intro noSlash
      exact ⟨⟨(dropFinal_of_getLast?_ne noSlash).symm, isUrl⟩, rfl⟩
  · obtain ⟨read', same⟩ := (make_of_made made).1 remade
    have written' := (readManagementUrl_eq_ok_iff.1 read').1
    rw [same, ← written', String.ofList_toList]

end

/-- The locator of the runs below. -/
def sample (managementUrl : String) : Sml :=
  { id := "test", displayName := "Test", zone := "sml.example.org.", managementUrl
    requiresClientCertificate := true }

theorem make_sample {managementUrl url : String} {base : Url}
    (written : url.toList = dropFinal '/' managementUrl.toList)
    (isUrl : Url.parse url.toList = .ok base) :
    make "test" "Test" "sml.example.org" managementUrl true = .ok (sample url) := by
  have canonical : Zone.canonical "sml.example.org" = .ok "sml.example.org." :=
    Zone.canonical_eq_ok_iff.2 ⟨by decide, by decide, by decide⟩
  exact make_eq_ok_iff.2 ⟨⟨by decide, by decide⟩, canonical,
    readManagementUrl_eq_ok_iff.2 ⟨written, base, isUrl⟩, rfl, rfl, rfl⟩

theorem make_parts_of_oneSlash :
    make "test" "Test" "sml.example.org" "https://smp.example.org/" true =
        .ok (sample "https://smp.example.org") ∧
      ¬['/', '/'] <:+ "https://smp.example.org/".toList ∧
      make "test" "Test" "sml.example.org." "https://smp.example.org" true =
        .ok (sample "https://smp.example.org") := by
  have made : make "test" "Test" "sml.example.org" "https://smp.example.org/" true =
      .ok (sample "https://smp.example.org") := make_sample (by decide) Url.parse_exampleHost
  have single : ¬['/', '/'] <:+ "https://smp.example.org/".toList := by decide
  exact ⟨made, single, (make_parts made).2.1.2 single⟩

/-- **Of two slashes the locator keeps one**, which the locator made of its parts does not have. -/
theorem make_parts_of_two_slashes :
    make "test" "Test" "sml.example.org" "http://smp.example.org//" true =
        .ok (sample "http://smp.example.org/") ∧
      (sample "http://smp.example.org/").managementUrl.toList.getLast? = some '/' ∧
      make "test" "Test" "sml.example.org." "http://smp.example.org/" true =
        .ok (sample "http://smp.example.org") ∧
      sample "http://smp.example.org" ≠ sample "http://smp.example.org/" := by
  have isUrl : Url.parse "http://smp.example.org/".toList =
      .ok (Url.atHost "http".toList (.domain "smp.example.org".toList) none "/".toList) :=
    Url.parse_of_exampleName (show _ = some (_, "//".toList ++ ("smp.example.org".toList ++ "/".toList))
      by decide) rfl rfl rfl
  have isUrl' : Url.parse "http://smp.example.org".toList =
      .ok (Url.atHost "http".toList (.domain "smp.example.org".toList) none []) :=
    Url.parse_of_exampleName (show _ = some (_, "//".toList ++ ("smp.example.org".toList ++ []))
      by decide) rfl rfl rfl
  have made : make "test" "Test" "sml.example.org" "http://smp.example.org//" true =
      .ok (sample "http://smp.example.org/") := make_sample (by decide) isUrl
  have made' : make "test" "Test" "sml.example.org" "http://smp.example.org/" true =
      .ok (sample "http://smp.example.org") := make_sample (by decide) isUrl'
  have remade : make "test" "Test" "sml.example.org." "http://smp.example.org/" true =
      .ok (sample "http://smp.example.org") :=
    (make_of_made made).2 ⟨(make_eq_ok_iff.1 made').2.2.1, rfl⟩
  exact ⟨made, by decide, remade, by decide⟩

end ServiceLocation.Sml
