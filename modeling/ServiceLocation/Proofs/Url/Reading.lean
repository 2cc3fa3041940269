import Mathlib.Data.List.DropRight
import Mathlib.Data.List.TakeDrop
import ServiceLocation.Proofs.Url.HostName

/-!
**URLs that are made of a name.**

* `exists_cleaned_append`, `readScheme?_append`: a scheme in front of a text is its scheme, whatever
  the text is;
* `readScheme?_of_parse`: the scheme of a URL is read off its text so;
* `exists_ofSpecial_of_ofAuthority`: the host of a URL of a special scheme is that of some text;
* `parse_of_name`: **a name behind such a scheme is that text**, if it holds no forbidden character.
-/

namespace ServiceLocation.Url

open ServiceLocation.Text

/-! ### Characters that do not count -/

section

variable {text : List Char}

theorem isSkipped_of_isEdge {c : Char} (counts : isEdge c = false) : isSkipped c = false := by
  rw [Bool.eq_false_iff] at counts ⊢
  intro is
  simp only [isSkipped, Bool.or_eq_true, beq_iff_eq] at is
  rcases is with (rfl | rfl) | rfl <;> exact counts rfl

theorem cleaned_eq (text : List Char) :
    cleaned text = ((text.dropWhile isEdge).rdropWhile isEdge).filter fun c => !isSkipped c := rfl

theorem filter_of_edgeless (edgeless : ∀ c ∈ text, isEdge c = false) :
    (text.filter fun c => !isSkipped c) = text :=
  List.filter_eq_self.2 fun c member => by rw [isSkipped_of_isEdge (edgeless c member)]; rfl

/-- **What a text starts with is kept** if all of it counts. -/
theorem exists_cleaned_append (nonempty : text ≠ []) (edgeless : ∀ c ∈ text, isEdge c = false)
    (behind : List Char) : ∃ rest, cleaned (text ++ behind) = text ++ rest := by
  have kept : ∃ rest, (text ++ behind).rdropWhile isEdge = text ++ rest := by
    induction behind using List.reverseRecOn with
    | nil =>
      refine ⟨[], ?_⟩
      rw [List.append_nil, List.rdropWhile_eq_self_iff]
      exact fun filled => Bool.eq_false_iff.1 (edgeless _ (List.getLast_mem filled))
    | append_singleton behind c ih =>
      rw [← List.append_assoc, List.rdropWhile_concat]
      split
      · exact ih
      · exact ⟨behind ++ [c], List.append_assoc ..⟩
  have start : (text ++ behind).dropWhile isEdge = text ++ behind := by
    cases text with
    | nil => exact absurd rfl nonempty
    | cons c rest =>
      exact List.dropWhile_cons_of_neg (Bool.eq_false_iff.1 (edgeless c List.mem_cons_self))
  obtain ⟨rest, whole⟩ := kept
  rw [cleaned_eq, start, whole, List.filter_append, filter_of_edgeless edgeless]
  exact ⟨_, rfl⟩

/-- A text all of which counts is kept. -/
theorem cleaned_of_edgeless (edgeless : ∀ c ∈ text, isEdge c = false) : cleaned text = text := by
  have start : text.dropWhile isEdge = text := by
    rw [List.dropWhile_eq_self_iff]
    exact fun filled => Bool.eq_false_iff.1 (edgeless _ (List.getElem_mem filled))
  have ending : text.rdropWhile isEdge = text := by
    rw [List.rdropWhile_eq_self_iff]
    exact fun filled => Bool.eq_false_iff.1 (edgeless _ (List.getLast_mem filled))
  rw [cleaned_eq, start, ending, filter_of_edgeless edgeless]

end

/-! ### Schemes -/

/-- **What stands before the first colon is the scheme**, whatever stands behind it. -/
theorem readScheme?_append {scheme : List Char} (letter : scheme.head?.any Char.isAlpha = true)
    (written : ∀ c ∈ scheme, isSchemeChar c = true) (rest : List Char) :
    readScheme? (scheme ++ ':' :: rest) = some (lowerAscii scheme, rest) := by
  have first : (scheme ++ ':' :: rest).head?.any Char.isAlpha = true := by
    cases scheme with
    | nil => cases letter
    | cons c more => exact letter
  have cut : (scheme ++ ':' :: rest).span isSchemeChar = (scheme, ':' :: rest) := by
    rw [List.span_eq_takeWhile_dropWhile, List.takeWhile_append_of_pos written,
      List.dropWhile_append_of_pos written, List.takeWhile_cons_of_neg (by decide),
      List.dropWhile_cons_of_neg (by decide), List.append_nil]
  rw [readScheme?, if_pos first, cut]
  rfl

/-- A scheme is read off what stands before the first colon. -/
theorem eq_append_of_readScheme? {text lowered rest : List Char}
    (read : readScheme? text = some (lowered, rest)) :
    ∃ scheme, text = scheme ++ ':' :: rest ∧ lowered = lowerAscii scheme ∧
      scheme.head?.any Char.isAlpha = true ∧ ∀ c ∈ scheme, isSchemeChar c = true := by
  unfold readScheme? at read
  split at read
  · rename_i letter
    split at read
    · rename_i scheme behind cut
      obtain ⟨rfl, rfl⟩ : lowerAscii scheme = lowered ∧ behind = rest :=
        Prod.mk.inj (Option.some.inj read)
      rw [List.span_eq_takeWhile_dropWhile] at cut
      obtain ⟨front, back⟩ := Prod.mk.inj cut
      have whole : text = scheme ++ ':' :: behind := by
        rw [← front, ← back, List.takeWhile_append_dropWhile]
      have written : ∀ c ∈ scheme, isSchemeChar c = true :=
        fun c member => List.mem_takeWhile_imp (front ▸ member)
      refine ⟨scheme, whole, rfl, ?_, written⟩
      -- The first character is a letter, so it is not the colon.
      cases scheme with
      | nil => rw [whole] at letter; exact absurd letter (show ¬(':').isAlpha = true by decide)
      | cons c more => rwa [whole] at letter
    · cases read
  · cases read

/-- A special scheme other than that of files announces an authority. -/
theorem parse_of_special {text scheme rest : List Char} {usual : UInt16}
    (read : readScheme? (cleaned text) = some (scheme, rest))
    (kind : SchemeKind.ofScheme scheme = .special usual) :
    parse text = ofAuthority (.special usual) scheme (rest.dropWhile (isSlash true)) := by
  unfold parse
  rw [read]
  dsimp only
  rw [kind]

theorem scheme_of_ofAuthority {kind : SchemeKind} {scheme text : List Char} {url : Url}
    (read : ofAuthority kind scheme text = .ok url) : url.scheme = scheme := by
  obtain ⟨_, _, same⟩ := bind_eq_ok_iff.1 read
  rw [← Except.ok.inj same]

/-- **The scheme of a URL is the one that its text starts with.** -/
theorem readScheme?_of_parse {text : List Char} {url : Url} (read : parse text = .ok url) :
    ∃ rest, readScheme? (cleaned text) = some (url.scheme, rest) := by
  unfold parse at read
  split at read
  · cases read
  · rename_i scheme rest found
    rw [found]
    refine ⟨rest, congrArg some (Prod.mk.injEq .. ▸ ⟨?_, rfl⟩)⟩
    split at read
    · exact (scheme_of_ofAuthority read).symm
    · obtain ⟨_, _, same⟩ := bind_eq_ok_iff.1 read
      rw [← Except.ok.inj same]
    · unfold ofOther at read
      split at read
      · exact (scheme_of_ofAuthority read).symm
      · rw [← Except.ok.inj read]

/-- A URL has a scheme. -/
theorem scheme_ne_nil_of_parse {text : List Char} {url : Url} (read : parse text = .ok url) :
    url.scheme ≠ [] := by
  obtain ⟨rest, found⟩ := readScheme?_of_parse read
  obtain ⟨scheme, _, lowered, letter, _⟩ := eq_append_of_readScheme? found
  rw [lowered]
  cases scheme with
  | nil => cases letter
  | cons c more => exact List.cons_ne_nil _ _

/-! ### Hosts of special URLs -/

theorem exists_ofSpecial_of_readHost {usual : UInt16} {hostText rest : List Char}
    {host? : Option Host} (read : readHost (.special usual) hostText rest = .ok host?) :
    ∃ host, host? = some host ∧ Host.ofSpecial hostText = .ok host := by
  unfold readHost at read
  split at read
  · cases read
  · obtain ⟨host, found, same⟩ := map_eq_ok_iff.1 read
    exact ⟨host, same.symm, found⟩

/-- **A special URL has a host**, and that is the host of some text. -/
theorem exists_ofSpecial_of_ofAuthority {usual : UInt16} {scheme text : List Char} {url : Url}
    (read : ofAuthority (.special usual) scheme text = .ok url) :
    ∃ hostText host, Host.ofSpecial hostText = .ok host ∧ url.hostText? = some host.text := by
  obtain ⟨authority, is, hostText, _, found⟩ := exists_readHost_of_ofAuthority read
  obtain ⟨host, has, special⟩ := exists_ofSpecial_of_readHost found
  refine ⟨hostText, host, special, ?_⟩
  rw [hostText?, is, Option.bind_some, has]
  rfl

theorem readScheme?_http (rest : List Char) :
    readScheme? ("http://".toList ++ rest) = some ("http".toList, "//".toList ++ rest) := by
  have cut : "http://".toList ++ rest = "http".toList ++ ':' :: ("//".toList ++ rest) := rfl
  rw [cut]
  exact readScheme?_append rfl (List.all_eq_true.1 (by decide)) _

theorem readScheme?_cleaned_http (text : List Char) :
    ∃ rest, readScheme? (cleaned ("http://".toList ++ text)) = some ("http".toList, rest) := by
  have start : ∃ rest, cleaned ("http://".toList ++ text) = "http://".toList ++ rest :=
    exists_cleaned_append (by decide) (List.all_iff_forall_prop.1 (by decide)) text
  obtain ⟨rest, kept⟩ := start
  rw [kept]
  exact ⟨_, readScheme?_http rest⟩

section

variable {text : List Char} {url : Url} (read : parse ("http://".toList ++ text) = .ok url)

include read

theorem scheme_of_parse_http : url.scheme = "http".toList := by
  obtain ⟨rest, found⟩ := readScheme?_of_parse read
  obtain ⟨rest', found'⟩ := readScheme?_cleaned_http text
  exact (Prod.mk.inj (Option.some.inj (found.symm.trans found'))).1

/-- Whatever stands behind `http://`, the URL has a host. -/
theorem exists_ofSpecial_of_parse_http :
    ∃ hostText host, Host.ofSpecial hostText = .ok host ∧ url.hostText? = some host.text := by
  obtain ⟨rest, scheme⟩ := readScheme?_cleaned_http text
  rw [parse_of_special scheme rfl] at read
  exact exists_ofSpecial_of_ofAuthority read

end

/-! ### Names -/

theorem cutAtLast_of_notMem {mark : Char} {text : List Char} (free : mark ∉ text) :
    cutAtLast mark text = none := by
  have whole : (text.reverse.takeWhile (· != mark)).reverse = text := by
    rw [List.takeWhile_eq_self_iff.2, List.reverse_reverse]
    intro c member
    rw [bne_iff_ne]
    exact fun is => free (is ▸ List.mem_reverse.1 member)
  rw [cutAtLast, whole, if_neg (Nat.lt_irrefl _)]

section

variable {name portText : List Char}

/-- A name ends at the colon in front of the port. -/
theorem cutHost_append (allowed : ∀ c ∈ name, Idna.IsHostChar c)
    (ends : portText = [] ∨ ∃ digits, portText = ':' :: digits) :
    cutHost false (name ++ portText) = (name, portText) := by
  induction name with
  | nil => rcases ends with rfl | ⟨digits, rfl⟩ <;> rfl
  | cons c rest ih =>
    obtain ⟨here, later⟩ := List.forall_mem_cons.1 allowed
    have noMark : c ≠ ':' ∧ c ≠ '[' :=
      Idna.of_isHostChar (P := fun c => c ≠ ':' ∧ c ≠ '[') here (by decide)
    have noColon : (c == ':' && !false) = false := by simpa using noMark.1
    have outside : (if c == '[' then true else if c == ']' then false else false) = false := by
      simpa using noMark.2
    rw [List.cons_append, cutHost, noColon, outside, if_neg Bool.false_ne_true]
    dsimp only
    rw [ih later]

/-- The URL of a host, from the text behind the host and the port. -/
def atHost (scheme : List Char) (host : Host) (port : Option UInt16) (rest : List Char) : Url :=
  let (pathText, tail) := rest.span fun c => !endsPath c
  let (query, fragment) := readTail true tail
  { scheme
    authority := some { username := [], password := [], host := some host, port }
    location := .path (readPath true pathText), query, fragment }

@[simp] theorem hostText?_atHost (scheme : List Char) (host : Host) (port : Option UInt16)
    (rest : List Char) : (atHost scheme host port rest).hostText? = some host.text := rfl

/-- What may stand behind a name: a port or none, and then what ends the authority. -/
structure IsBehindName (usual : UInt16) (portText rest : List Char) (port : Option UInt16) :
    Prop where
  isPort : portText = [] ∨ ∃ digits, portText = ':' :: digits
  noEnd : ∀ c ∈ portText, endsAuthority true c = false ∧ c ≠ '@'
  ends : rest.head?.all (endsAuthority true) = true
  shown : readShownPort (.special usual) portText = .ok (port, [])

theorem IsBehindName.noPort {usual : UInt16} {rest : List Char}
    (ends : rest.head?.all (endsAuthority true) = true) : IsBehindName usual [] rest none :=
  ⟨.inl rfl, List.forall_mem_nil _, ends, rfl⟩

section

variable {usual : UInt16} {port : Option UInt16} {scheme rest : List Char}
  (nonempty : name ≠ []) (allowed : ∀ c ∈ name, Idna.IsHostChar c)
  (follows : IsBehindName usual portText rest port)

include nonempty allowed follows

/-- **A name without forbidden characters is read as the host**, with a port behind it or not, up to
the slash or mark that ends the authority. -/
theorem ofAuthority_of_name :
    ofAuthority (.special usual) scheme (name ++ portText ++ rest) =
      (Host.ofSpecial name).map fun host => atHost scheme host port rest := by
  have free : ∀ c ∈ name ++ portText, endsAuthority true c = false ∧ c ≠ '@' := by
    rw [List.forall_mem_append]
    exact ⟨fun c member => Idna.of_isHostChar
      (P := fun c => endsAuthority true c = false ∧ c ≠ '@') (allowed c member) (by decide),
      follows.noEnd⟩
  have ends := follows.ends
  have cut : (name ++ portText ++ rest).span (fun c => !endsAuthority true c) =
      (name ++ portText, rest) := by
    have inside : ∀ c ∈ name ++ portText, (!endsAuthority true c) = true :=
      fun c member => by rw [(free c member).1]; rfl
    rw [List.span_eq_takeWhile_dropWhile, List.takeWhile_append_of_pos inside,
      List.dropWhile_append_of_pos inside]
    cases rest with
    | nil => simp
    | cons c more =>
      have stop : (!endsAuthority true c) = false := by
        rw [show endsAuthority true c = true from ends]
        rfl
      rw [List.takeWhile_cons, List.dropWhile_cons, stop, if_neg Bool.false_ne_true,
        if_neg Bool.false_ne_true, List.append_nil]
  have noUser : cutAtLast '@' (name ++ portText) = none :=
    cutAtLast_of_notMem fun member => (free '@' member).2 rfl
  have filled : name.isEmpty = false := List.isEmpty_eq_false_iff.2 nonempty
  have host : readHost (.special usual) name portText = some <$> Host.ofSpecial name := by
    rw [readHost, filled]
    rfl
  have authority : readAuthority (.special usual) (name ++ portText) rest.isEmpty =
      (Host.ofSpecial name).map fun host =>
        ({ username := [], password := [], host := some host, port }, []) := by
    unfold readAuthority readHostAndPort
    rw [noUser, cutHost_append allowed follows.isPort]
    dsimp only
    rw [host, follows.shown]
    cases Host.ofSpecial name <;> rfl
  unfold ofAuthority
  rw [show SchemeKind.isSpecial (.special usual) = true from rfl, cut]
  dsimp only
  rw [authority]
  cases Host.ofSpecial name <;> rfl

/-- **Behind a special scheme and slashes, a name without forbidden characters is read as the
host.** -/
theorem parse_of_name {text slashes : List Char}
    (read : readScheme? (cleaned text) = some (scheme, slashes ++ (name ++ portText ++ rest)))
    (kind : SchemeKind.ofScheme scheme = .special usual)
    (only : slashes.all (isSlash true) = true) :
    parse text = (Host.ofSpecial name).map fun host => atHost scheme host port rest := by
  have behind : (slashes ++ (name ++ portText ++ rest)).dropWhile (isSlash true) =
      name ++ portText ++ rest := by
    rw [List.dropWhile_append_of_pos (List.all_eq_true.1 only)]
    cases name with
    | nil => exact absurd rfl nonempty
    | cons c more =>
      exact List.dropWhile_cons_of_neg (Idna.of_isHostChar (P := fun c => ¬isSlash true c = true)
        (allowed c List.mem_cons_self) (by decide))
  rw [parse_of_special read kind, behind]
  exact ofAuthority_of_name nonempty allowed follows

end

/-- **And it is the host**, in lower case, unless a label claims to be coded or the name ends in a
number. -/
theorem parse_of_isVerbatim {usual : UInt16} {port : Option UInt16}
    {text scheme slashes rest : List Char} (verbatim : Host.IsVerbatim name)
    (follows : IsBehindName usual portText rest port)
    (read : readScheme? (cleaned text) = some (scheme, slashes ++ (name ++ portText ++ rest)))
    (kind : SchemeKind.ofScheme scheme = .special usual)
    (only : slashes.all (isSlash true) = true) :
    parse text = .ok (atHost scheme (.domain (lowerAscii name)) port rest) := by
  rw [parse_of_name verbatim.nonempty verbatim.allowed follows read kind only,
    Host.ofSpecial_of_isVerbatim verbatim]
  rfl

/-- **The host of the URL of a name without forbidden characters** is that of the name. -/
theorem parse_http_name (nonempty : name ≠ []) (allowed : ∀ c ∈ name, Idna.IsHostChar c) :
    parse ("http://".toList ++ name) =
      (Host.ofSpecial name).map fun host => atHost "http".toList host none [] := by
  have edgeless : ∀ c ∈ "http://".toList ++ name, isEdge c = false := by
    rw [List.forall_mem_append]
    exact ⟨List.all_iff_forall_prop.1 (by decide), fun c member =>
      Idna.of_isHostChar (P := fun c => isEdge c = false) (allowed c member) (by decide)⟩
  have scheme : readScheme? (cleaned ("http://".toList ++ name)) =
      some ("http".toList, "//".toList ++ (name ++ [] ++ [])) := by
    rw [cleaned_of_edgeless edgeless, List.append_nil, List.append_nil]
    exact readScheme?_http name
  exact parse_of_name nonempty allowed (.noPort rfl) scheme rfl rfl

end

/-! ### An example -/

/-- The host of the runs on fixed texts, behind any scheme and slashes. -/
theorem parse_of_exampleName {usual : UInt16} {text scheme slashes rest : List Char}
    (read : readScheme? (cleaned text) =
      some (scheme, slashes ++ ("smp.example.org".toList ++ rest)))
    (kind : SchemeKind.ofScheme scheme = .special usual)
    (only : slashes.all (isSlash true) = true)
    (ends : rest.head?.all (endsAuthority true) = true) :
    parse text = .ok (atHost scheme (.domain "smp.example.org".toList) none rest) := by
  have noPort : readScheme? (cleaned text) =
      some (scheme, slashes ++ ("smp.example.org".toList ++ [] ++ rest)) := by
    rw [List.append_nil, read]
  exact parse_of_isVerbatim (by decide) (.noPort ends) noPort kind only

theorem parse_exampleHost : parse "https://smp.example.org".toList =
    .ok (atHost "https".toList (.domain "smp.example.org".toList) none []) :=
  parse_of_exampleName (show _ = some (_, "//".toList ++ ("smp.example.org".toList ++ []))
    by decide) rfl rfl rfl

end ServiceLocation.Url
