import ServiceLocation.Proofs.Sml.Parts
import ServiceLocation.Proofs.Url.Below

/-!
**Endpoints of the management service.**

An endpoint is read from the management URL with a path behind it, and of the management URL only its
last slash has been dropped.

* `Url.SamePlace`: the scheme, the host and the port of two URLs are the same;
* `Url.KeepsPlace`: every word below a text leads to the same place;
* `Url.keepsPlace_of_host`: so it is with a host, unless the text ends with a character that does not
  count;
* `hasEndpoints_iff`, `endpoints_of_make`: **both endpoints are there exactly if the management URL
  keeps its place, and has neither a query nor a fragment.**
-/

namespace ServiceLocation

open ServiceLocation.Text

namespace Url

/-- The host of a URL, if it has one. -/
def host? (url : Url) : Option Host := url.authority.bind (·.host)

/-- The port of a URL, unless it is the usual one of its scheme. -/
def port? (url : Url) : Option UInt16 := url.authority.bind (·.port)

/-- Two URLs lead to the same port of the same host by the same scheme. -/
structure SamePlace (url base : Url) : Prop where
  scheme : url.scheme = base.scheme
  host : url.host? = base.host?
  port : url.port? = base.port?

theorem samePlace_of_authority {url base : Url} (scheme : url.scheme = base.scheme)
    (authority : url.authority = base.authority) : url.SamePlace base :=
  ⟨scheme, congrArg (·.bind (·.host)) authority, congrArg (·.bind (·.port)) authority⟩

theorem SamePlace.symm {url base : Url} (same : url.SamePlace base) : base.SamePlace url :=
  ⟨same.scheme.symm, same.host.symm, same.port.symm⟩

theorem SamePlace.trans {url next base : Url} (same : url.SamePlace next)
    (same' : next.SamePlace base) : url.SamePlace base :=
  ⟨same.scheme.trans same'.scheme, same.host.trans same'.host, same.port.trans same'.port⟩

/-- Every word below a text leads to the place of `base`. -/
def KeepsPlace (text : List Char) (base : Url) : Prop :=
  ∀ word, IsWord word → ∃ url, parse (text ++ '/' :: word) = .ok url ∧ url.SamePlace base

/-- A word that is no address and no number, and does not name the local host. -/
structure IsFarName (name : List Char) : Prop where
  letters : IsWord name
  verbatim : Host.IsVerbatim name
  far : lowerAscii name ≠ "localhost".toList

section

variable {text name : List Char} {base url : Url} (isUrl : parse text = .ok base)

include isUrl

/-- Where one word leads to the place of a URL, every word may stand. -/
theorem takesWords_of_samePlace (isName : IsFarName name) (read : parse (text ++ '/' :: name) = .ok url)
    (same : url.SamePlace base) : TakesWords parse (base.query = none ∧ base.fragment = none) text := by
  rcases takesWords_or_host isUrl isName.letters read with takes | ⟨noHost, isHost⟩
  · exact takes
  · refine absurd ?_ (isHost isName.verbatim isName.far)
    exact (congrArg (Option.map Host.text) same.host).trans noHost

/-- **A URL with a host keeps its place**, unless it ends with a character that does not count there. -/
theorem keepsPlace_of_host (counts : ∀ c ∈ text.getLast?, isEdge c = false)
    (hasHost : base.hostText? ≠ none) : KeepsPlace text base := by
  obtain ⟨slash, read⟩ := exists_parse_slash counts isUrl hasHost
  obtain ⟨scheme, authority⟩ := parse_concat_slash counts isUrl hasHost read
  rcases takesWords_or_host isUrl isWord_nil read with ⟨stem, every⟩ | ⟨noHost, _⟩
  · have place : stem.SamePlace base := by
      obtain ⟨slash', read', below⟩ := every [] isWord_nil
      obtain rfl : slash = slash' := Except.ok.inj (read.symm.trans read')
      exact (samePlace_of_authority below.scheme below.authority).symm.trans
        (samePlace_of_authority scheme authority)
    intro word letters
    obtain ⟨url, found, below⟩ := every word letters
    exact ⟨url, found, (samePlace_of_authority below.scheme below.authority).trans place⟩
  · exact absurd noHost hasHost

end

end Url

namespace Sml

/-- An answer is a URL at the place of `base`, and the path of that URL ends with `path`. -/
def IsEndpoint (sml : Sml) (base : Url) (path : String) (answer : Except LocationError String) : Prop :=
  ∃ url, Url.parse (sml.managementUrl ++ path).toList = .ok url ∧
    answer = .ok (String.ofList url.text) ∧ url.SamePlace base ∧ path.toList <:+ url.location.text

/-- Both endpoints are below the management URL. -/
structure HasEndpoints (sml : Sml) (base : Url) : Prop where
  metadata : sml.IsEndpoint base "/manageservicemetadata" sml.metadataEndpoint
  participant : sml.IsEndpoint base "/manageparticipantidentifier" sml.participantEndpoint

section

variable {sml : Sml} {base : Url} {path : String} {word : List Char}

/-- An endpoint is the URL below the management URL, if there is one. -/
theorem isEndpoint_endpoint_iff (written : path.toList = '/' :: word) :
    sml.IsEndpoint base path (sml.endpoint path) ↔
      ∃ url, Url.parse (sml.managementUrl.toList ++ '/' :: word) = .ok url ∧ url.SamePlace base ∧
        '/' :: word <:+ url.location.text := by
  unfold IsEndpoint endpoint
  rw [String.toList_append, written]
  constructor
  · rintro ⟨url, read, -, same, ends⟩
    exact ⟨url, read, same, ends⟩
  · rintro ⟨url, read, same, ends⟩
    refine ⟨url, read, ?_, same, ends⟩
    dsimp only
    rw [String.toList_append, written, read]

theorem isFarName_metadata : Url.IsFarName "manageservicemetadata".toList :=
  ⟨List.all_iff_forall_prop.1 (by decide), by decide, by decide⟩

theorem isFarName_participant : Url.IsFarName "manageparticipantidentifier".toList :=
  ⟨List.all_iff_forall_prop.1 (by decide), by decide, by decide⟩

theorem toList_metadata : "/manageservicemetadata".toList = '/' :: "manageservicemetadata".toList := rfl

theorem toList_participant :
    "/manageparticipantidentifier".toList = '/' :: "manageparticipantidentifier".toList := rfl

variable (isUrl : Url.parse sml.managementUrl.toList = .ok base)

include isUrl

/-- Where a URL keeps its place, a path behind it is a path below it. -/
theorem isEndpoint_of_keepsPlace (isName : Url.IsFarName word) (written : path.toList = '/' :: word)
    (noTail : base.query = none ∧ base.fragment = none)
    (keeps : Url.KeepsPlace sml.managementUrl.toList base) :
    sml.IsEndpoint base path (sml.endpoint path) := by
  rw [isEndpoint_endpoint_iff written]
  obtain ⟨url, read, same⟩ := keeps word isName.letters
  obtain ⟨stem, every⟩ := Url.takesWords_of_samePlace isUrl isName read same
  obtain ⟨url', read', below⟩ := every word isName.letters
  obtain rfl : url = url' := Except.ok.inj (read.symm.trans read')
  exact ⟨url, read, same, below.path noTail⟩

/-- **Both endpoints are there exactly if the management URL has neither a query nor a fragment, and
keeps its place.** -/
theorem hasEndpoints_iff : sml.HasEndpoints base ↔
    (base.query = none ∧ base.fragment = none) ∧ Url.KeepsPlace sml.managementUrl.toList base := by
  constructor
  · rintro ⟨metadata, participant⟩
    obtain ⟨url, read, same, ends⟩ := (isEndpoint_endpoint_iff toList_metadata).1 metadata
    obtain ⟨url', read', same', ends'⟩ := (isEndpoint_endpoint_iff toList_participant).1 participant
    obtain ⟨stem, every⟩ := Url.takesWords_of_samePlace isUrl isFarName_metadata read same
    obtain ⟨first, found, below⟩ := every _ isFarName_metadata.letters
    obtain ⟨second, found', below'⟩ := every _ isFarName_participant.letters
    obtain rfl : url = first := Except.ok.inj (read.symm.trans found)
    obtain rfl : url' = second := Except.ok.inj (read'.symm.trans found')
    constructor
    · -- Otherwise the two paths are the same, and cannot end in two ways.
      by_contra tail
      rw [below.location tail] at ends
      rw [below'.location tail] at ends'
      rcases List.suffix_or_suffix_of_suffix ends ends' with inside | inside
      · exact absurd inside (by decide)
      · exact absurd inside (by decide)
    · intro word letters
      obtain ⟨other, found, beside⟩ := every word letters
      have stays : other.SamePlace url :=
        (Url.samePlace_of_authority beside.scheme beside.authority).trans
          (Url.samePlace_of_authority below.scheme below.authority).symm
      exact ⟨other, found, stays.trans same⟩
  · rintro ⟨noTail, keeps⟩
    exact ⟨isEndpoint_of_keepsPlace isUrl isFarName_metadata toList_metadata noTail keeps,
      isEndpoint_of_keepsPlace isUrl isFarName_participant toList_participant noTail keeps⟩

end

section

variable {id displayName zone managementUrl : String} {requiresClientCertificate : Bool} {sml : Sml}

/-- **The management URL of a locator is a URL. Both endpoints are below it exactly if it has neither a
query nor a fragment, and words below it lead to the same place**, as they do below a URL with a host
that does not end with a character that does not count. -/
theorem endpoints_of_make
    (made : make id displayName zone managementUrl requiresClientCertificate = .ok sml) :
    ∃ base, Url.parse sml.managementUrl.toList = .ok base ∧
      (sml.HasEndpoints base ↔ (base.query = none ∧ base.fragment = none) ∧
        Url.KeepsPlace sml.managementUrl.toList base) ∧
      (base.hostText? ≠ none → (∀ c ∈ sml.managementUrl.toList.getLast?, Url.isEdge c = false) →
        Url.KeepsPlace sml.managementUrl.toList base) := by
  obtain ⟨-, -, read, -⟩ := make_eq_ok_iff.1 made
  obtain ⟨-, base, isUrl⟩ := readManagementUrl_eq_ok_iff.1 read
  exact ⟨base, isUrl, hasEndpoints_iff isUrl, fun hasHost counts =>
    Url.keepsPlace_of_host isUrl counts hasHost⟩

end

theorem endpoints_of_make_of_host :
    make "test" "Test" "sml.example.org" "https://smp.example.org/" true =
        .ok (sample "https://smp.example.org") ∧
      (sample "https://smp.example.org").HasEndpoints
        (Url.atHost "https".toList (.domain "smp.example.org".toList) none []) := by
  have isUrl := Url.parse_exampleHost
  have made : make "test" "Test" "sml.example.org" "https://smp.example.org/" true =
      .ok (sample "https://smp.example.org") := make_sample (by decide) isUrl
  obtain ⟨base, read, both, keeps⟩ := endpoints_of_make made
  obtain rfl := Except.ok.inj (isUrl.symm.trans read)
  have counts : ∀ c ∈ "https://smp.example.org".toList.getLast?, Url.isEdge c = false := by
    intro c last
    cases last
    decide
  exact ⟨made, both.2 ⟨⟨rfl, rfl⟩, keeps (Option.some_ne_none _) counts⟩⟩

theorem endpoint_of_error {sml : Sml} {path raw : String} {fault : Url.Fault}
    (written : sml.managementUrl ++ path = raw) (noUrl : Url.parse raw.toList = .error fault) :
    sml.endpoint path = .error (.malformedUrl raw (.malformed fault)) := by
  unfold endpoint
  rw [written]
  dsimp only
  rw [noUrl]

/-- A blank behind the name of a host is a part of that name if a slash stands behind it. -/
theorem parse_of_blank {text rest : List Char}
    (read : Url.readScheme? (Url.cleaned text) =
      some ("http".toList, "//".toList ++ ("smp.example.org ".toList ++ '/' :: rest))) :
    Url.parse text = .error .invalidDomain := by
  have noHost : Url.Host.ofSpecial "smp.example.org ".toList = .error .invalidDomain :=
    Url.Host.ofSpecial_of_forbidden (c := ' ') (by decide +kernel)
      (List.all_iff_forall_prop.1 (by decide)) (by decide) (by decide) (by decide)
  have noAuthority : Url.readAuthority (.special 80) "smp.example.org ".toList false =
      .error .invalidDomain := by
    have noUser : Url.cutAtLast '@' "smp.example.org ".toList = none := by decide
    have host : Url.cutHost false "smp.example.org ".toList = ("smp.example.org ".toList, []) := by
      decide
    have special : Url.readHost (.special 80) "smp.example.org ".toList [] =
        some <$> Url.Host.ofSpecial "smp.example.org ".toList := by
      rw [Url.readHost]
      rfl
    unfold Url.readAuthority Url.readHostAndPort
    rw [noUser, host]
    dsimp only
    rw [special, noHost]
    rfl
  have kind : Url.SchemeKind.ofScheme "http".toList = .special 80 := rfl
  have start : ("//".toList ++ ("smp.example.org ".toList ++ '/' :: rest)).dropWhile
      (Url.isSlash true) = "smp.example.org ".toList ++ '/' :: rest := rfl
  have front : "smp.example.org ".toList.takeWhile
      (fun c => !Url.endsAuthority (Url.SchemeKind.isSpecial (.special 80)) c) =
        "smp.example.org ".toList := by decide
  rw [Url.parse_of_special read kind, start, Url.ofAuthority_append_slash front rfl, noAuthority]
  rfl

/-- **A URL with a blank at its end is a management URL, and has no endpoints.** -/
theorem endpoints_of_make_of_blank :
    make "test" "Test" "sml.example.org" "http://smp.example.org " true =
        .ok (sample "http://smp.example.org ") ∧
      (sample "http://smp.example.org ").metadataEndpoint = .error (.malformedUrl
        "http://smp.example.org /manageservicemetadata" (.malformed .invalidDomain)) ∧
      (sample "http://smp.example.org ").participantEndpoint = .error (.malformedUrl
        "http://smp.example.org /manageparticipantidentifier" (.malformed .invalidDomain)) := by
  have isUrl : Url.parse "http://smp.example.org ".toList =
      .ok (Url.atHost "http".toList (.domain "smp.example.org".toList) none []) :=
    Url.parse_of_exampleName (show _ = some (_, "//".toList ++ ("smp.example.org".toList ++ []))
      by decide) rfl rfl rfl
  refine ⟨make_sample (by decide) isUrl, ?_, ?_⟩
  · exact endpoint_of_error rfl (parse_of_blank (show _ = some (_, "//".toList ++
      ("smp.example.org ".toList ++ '/' :: "manageservicemetadata".toList)) by decide))
  · exact endpoint_of_error rfl (parse_of_blank (show _ = some (_, "//".toList ++
      ("smp.example.org ".toList ++ '/' :: "manageparticipantidentifier".toList)) by decide))

end Sml

end ServiceLocation
