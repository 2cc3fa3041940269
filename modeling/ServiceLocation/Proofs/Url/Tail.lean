import ServiceLocation.Proofs.Url.Segment

/-!
**URLs without a query and a fragment.**

The readers of an authority cut texts at marks that start neither of them, and leave an end of the text
they are given.

* `suffix_of_readAuthority`: what is left of an authority is the end of its text;
* `readTail_eq_none_iff`: a query or a fragment is there if anything is;
* `ofScheme_noTail_iff`: **a URL has neither exactly if no character behind its scheme starts one.**
-/

namespace ServiceLocation.Url

open ServiceLocation.Text

/-! ### What is left of an authority -/

theorem suffix_of_cutHost (inBrackets : Bool) (text : List Char) :
    (cutHost inBrackets text).2 <:+ text := by
  induction text generalizing inBrackets with
  | nil => exact List.suffix_rfl
  | cons c rest ih =>
    rw [cutHost]
    split
    · exact List.suffix_rfl
    · exact (ih _).trans (List.suffix_cons c rest)

theorem suffix_of_cutAtLast {mark : Char} {text front behind : List Char}
    (cut : cutAtLast mark text = some (front, behind)) : behind <:+ text := by
  unfold cutAtLast at cut
  dsimp only at cut
  split at cut
  · have ending := List.reverse_suffix.2 (List.takeWhile_prefix (· != mark) (l := text.reverse))
    rw [List.reverse_reverse] at ending
    exact (Prod.mk.inj (Option.some.inj cut)).2 ▸ ending
  · cases cut

theorem suffix_of_readPort {text more : List Char} {port? : Option Nat}
    (read : readPort text = .ok (port?, more)) : more <:+ text := by
  unfold readPort at read
  rw [List.span_eq_takeWhile_dropWhile] at read
  dsimp only at read
  split at read
  · split at read
    · cases read
    · split at read
      · rw [← (Prod.mk.inj (Except.ok.inj read)).2]
        exact List.dropWhile_suffix _
      · cases read
  · cases read

theorem suffix_of_readShownPort {kind : SchemeKind} {text more : List Char} {port? : Option UInt16}
    (read : readShownPort kind text = .ok (port?, more)) : more <:+ text := by
  unfold readShownPort at read
  split at read
  · rename_i portText
    obtain ⟨⟨port?, more⟩, found, same⟩ := bind_eq_ok_iff.1 read
    rw [← (Prod.mk.inj (Except.ok.inj same)).2]
    exact (suffix_of_readPort found).trans (List.suffix_cons _ _)
  · exact (Prod.mk.inj (Except.ok.inj read)).2 ▸ List.suffix_rfl

theorem suffix_of_readHostAndPort {kind : SchemeKind} {text more : List Char} {host? : Option Host}
    {port? : Option UInt16} (read : readHostAndPort kind text = .ok (host?, port?, more)) :
    more <:+ text := by
  obtain ⟨host, _, rest⟩ := bind_eq_ok_iff.1 read
  obtain ⟨⟨port, left⟩, found, same⟩ := bind_eq_ok_iff.1 rest
  obtain ⟨_, both⟩ := Prod.mk.inj (Except.ok.inj same)
  rw [← (Prod.mk.inj both).2]
  exact (suffix_of_readShownPort found).trans (suffix_of_cutHost _ _)

/-- **What is left of an authority is the end of its text.** -/
theorem suffix_of_readAuthority {kind : SchemeKind} {text more : List Char} {endsHere : Bool}
    {authority : Authority} (read : readAuthority kind text endsHere = .ok (authority, more)) :
    more <:+ text := by
  unfold readAuthority at read
  split at read
  · obtain ⟨⟨host, port, left⟩, found, same⟩ := bind_eq_ok_iff.1 read
    rw [← (Prod.mk.inj (Except.ok.inj same)).2]
    exact suffix_of_readHostAndPort found
  · rename_i behind cut
    split at read
    · cases read
    · obtain ⟨⟨host, port, left⟩, found, same⟩ := bind_eq_ok_iff.1 read
      rw [← (Prod.mk.inj (Except.ok.inj same)).2]
      exact (suffix_of_readHostAndPort found).trans (suffix_of_cutAtLast cut)
  · rename_i user behind _ cut
    obtain ⟨⟨host, port, left⟩, found, checked⟩ := bind_eq_ok_iff.1 read
    dsimp only at checked
    split at checked
    · cases checked
    · rw [← (Prod.mk.inj (Except.ok.inj checked)).2]
      exact (suffix_of_readHostAndPort found).trans (suffix_of_cutAtLast cut)

/-! ### Texts without a query and a fragment -/

theorem isPathText_append_iff {front behind : List Char} :
    IsPathText (front ++ behind) ↔ IsPathText front ∧ IsPathText behind :=
  List.forall_mem_append

/-- What ends at a mark of an authority starts neither a query nor a fragment. -/
theorem isPathText_takeWhile (isSpecial : Bool) (text : List Char) :
    IsPathText (text.takeWhile fun c => !endsAuthority isSpecial c) := by
  intro c member
  have inside := List.mem_takeWhile_imp member
  simp only [endsAuthority, Bool.not_eq_true', Bool.or_eq_false_iff] at inside
  rw [endsPath, inside.1.2, inside.2]
  rfl

/-- A query or a fragment starts in a text exactly if it starts behind the authority. -/
theorem isPathText_dropWhile_iff (isSpecial : Bool) (text : List Char) :
    IsPathText (text.dropWhile fun c => !endsAuthority isSpecial c) ↔ IsPathText text := by
  conv_rhs =>
    rw [← List.takeWhile_append_dropWhile (p := fun c => !endsAuthority isSpecial c) (l := text)]
  rw [isPathText_append_iff]
  exact (and_iff_right (isPathText_takeWhile isSpecial text)).symm

theorem isPathText_of_readAuthority {kind : SchemeKind} {text more : List Char} {endsHere : Bool}
    {authority : Authority}
    (read : readAuthority kind (text.takeWhile fun c => !endsAuthority kind.isSpecial c) endsHere =
      .ok (authority, more)) :
    IsPathText (more ++ text.dropWhile fun c => !endsAuthority kind.isSpecial c) ↔ IsPathText text := by
  have plain : IsPathText more := fun c member =>
    isPathText_takeWhile _ _ c ((suffix_of_readAuthority read).subset member)
  rw [isPathText_append_iff, isPathText_dropWhile_iff]
  exact and_iff_right plain

/-! ### Queries and fragments -/

/-- **A query or a fragment is there if anything is.** -/
theorem readTail_eq_none_iff (isSpecial : Bool) {text : List Char}
    (starts : ∀ c ∈ text.head?, endsPath c = true) :
    ((readTail isSpecial text).1 = none ∧ (readTail isSpecial text).2 = none) ↔ text = [] := by
  cases text with
  | nil => simp [readTail]
  | cons c rest =>
    have mark := starts c rfl
    simp only [endsPath, Bool.or_eq_true, beq_iff_eq] at mark
    rcases mark with rfl | rfl
    · simp [readTail]
    · simp [readTail]

/-! ### URLs -/

/-- The URL of what stands in front of a path, and of the rest of the text. -/
def withRest (isSpecial : Bool) (locate : List Char → Location) (scheme : List Char)
    (authority : Option Authority) (text : List Char) : Url :=
  let (pathText, tail) := text.span fun c => !endsPath c
  let (query, fragment) := readTail isSpecial tail
  { scheme, authority, location := locate pathText, query, fragment }

/-- The path of a file from its text, which one slash may announce. -/
def fileLocation (pathText : List Char) : Location :=
  let inner := match pathText with
    | c :: more => if isSlash true c then more else pathText
    | [] => []
  .path (Path.ofText true true inner).withoutEmptyStart

/-- What follows the scheme of a URL that is not special, if that is no authority. -/
def otherLocation (body : List Char) : Location :=
  match body with
  | '/' :: rest => .path (Path.ofText false false rest)
  | _ => .unstructured (encode isControl body)

/-- The URL of an authority and of the rest of the text. -/
def behindAuthority (kind : SchemeKind) (scheme : List Char) (authority : Authority)
    (rest : List Char) : Url :=
  withRest kind.isSpecial (fun text => .path (readPath kind.isSpecial text)) scheme (some authority)
    rest

/-- The URL of a file on a host, and of the rest of the text. -/
def behindFileHost (scheme : List Char) (host? : Option Host) (rest : List Char) : Url :=
  let host := if startsWithDrive rest then none else host?
  withRest true fileLocation scheme (some { username := [], password := [], host, port := none }) rest

/-- The URL of a text behind a scheme and a colon. -/
def ofScheme (scheme text : List Char) : Except Fault Url :=
  match SchemeKind.ofScheme scheme with
  | .special usualPort =>
    ofAuthority (.special usualPort) scheme (text.dropWhile (isSlash true))
  | .file => ofFile scheme text
  | .other => ofOther scheme text

section

variable {scheme text : List Char} {url : Url}

theorem ofAuthority_eq (kind : SchemeKind) (scheme text : List Char) :
    ofAuthority kind scheme text =
      (fun (authority, more) => behindAuthority kind scheme authority
        (more ++ text.dropWhile fun c => !endsAuthority kind.isSpecial c)) <$>
        readAuthority kind (text.takeWhile fun c => !endsAuthority kind.isSpecial c)
          (text.dropWhile fun c => !endsAuthority kind.isSpecial c).isEmpty := by
  unfold ofAuthority
  rw [List.span_eq_takeWhile_dropWhile]
  rfl

theorem ofFile_eq (scheme text : List Char) :
    ofFile scheme text =
      (fun (host?, rest) => behindFileHost scheme host? rest) <$> readFileStart text := by
  unfold ofFile behindFileHost withRest
  simp only [List.span_eq_takeWhile_dropWhile]
  cases readFileStart text <;> rfl

theorem ofOther_eq (noAuthority : ∀ rest, text ≠ '/' :: '/' :: rest) :
    ofOther scheme text = .ok (withRest false otherLocation scheme none text) := by
  unfold ofOther
  split
  · exact absurd rfl (noAuthority _)
  · unfold withRest
    rw [List.span_eq_takeWhile_dropWhile]
    rfl

theorem parse_eq_ofScheme {written : List Char}
    (found : readScheme? (cleaned written) = some (scheme, text)) :
    parse written = ofScheme scheme text := by
  unfold parse
  rw [found]
  rfl

theorem withRest_noTail_iff {isSpecial : Bool} {locate : List Char → Location}
    {authority : Option Authority} :
    (withRest isSpecial locate scheme authority text).query = none ∧
      (withRest isSpecial locate scheme authority text).fragment = none ↔ IsPathText text := by
  have starts : ∀ c ∈ (text.dropWhile fun c => !endsPath c).head?, endsPath c = true := by
    intro c first
    have stops := List.head?_dropWhile_not (fun c => !endsPath c) text
    rw [Option.mem_def.1 first] at stops
    simpa using stops
  have ends := readTail_eq_none_iff isSpecial starts
  rw [List.dropWhile_eq_nil_iff] at ends
  unfold withRest
  rw [List.span_eq_takeWhile_dropWhile]
  refine ends.trans ?_
  simp [IsPathText]

theorem ofAuthority_noTail_iff {kind : SchemeKind} (read : ofAuthority kind scheme text = .ok url) :
    url.query = none ∧ url.fragment = none ↔ IsPathText text := by
  rw [ofAuthority_eq] at read
  obtain ⟨⟨authority, more⟩, found, rfl⟩ := map_eq_ok_iff.1 read
  exact withRest_noTail_iff.trans (isPathText_of_readAuthority found)

theorem ofOther_noTail_iff (read : ofOther scheme text = .ok url) :
    url.query = none ∧ url.fragment = none ↔ IsPathText text := by
  by_cases announced : ∃ rest, text = '/' :: '/' :: rest
  · obtain ⟨rest, rfl⟩ := announced
    have behind : ofAuthority .other scheme rest = .ok url := read
    rw [ofAuthority_noTail_iff behind]
    simp [IsPathText, endsPath]
  · rw [ofOther_eq (not_exists.1 announced)] at read
    rw [← Except.ok.inj read]
    exact withRest_noTail_iff

/-- The host of a file is read up to a mark that starts neither a query nor a fragment. -/
theorem isPathText_of_readFileStart {rest : List Char} {host? : Option Host}
    (read : readFileStart text = .ok (host?, rest)) : IsPathText rest ↔ IsPathText text := by
  unfold readFileStart at read
  split at read
  · rename_i first second more
    split at read
    · rename_i slashes
      have plain : endsPath first = false ∧ endsPath second = false := by
        simp only [isSlash, Bool.and_eq_true, Bool.or_eq_true, beq_iff_eq, Bool.true_and] at slashes
        obtain ⟨rfl | rfl, rfl | rfl⟩ := slashes <;> decide
      have behind : IsPathText (first :: second :: more) ↔ IsPathText more := by
        simp [IsPathText, plain]
      rw [behind]
      unfold readFileHost at read
      rw [List.span_eq_takeWhile_dropWhile] at read
      dsimp only at read
      split at read
      · rw [(Prod.mk.inj (Except.ok.inj read)).2]
      · obtain ⟨host, _, same⟩ := bind_eq_ok_iff.1 read
        rw [← (Prod.mk.inj (Except.ok.inj same)).2]
        exact isPathText_dropWhile_iff true more
    · rw [(Prod.mk.inj (Except.ok.inj read)).2]
  · rw [(Prod.mk.inj (Except.ok.inj read)).2]

theorem ofFile_noTail_iff (read : ofFile scheme text = .ok url) :
    url.query = none ∧ url.fragment = none ↔ IsPathText text := by
  rw [ofFile_eq] at read
  obtain ⟨⟨host?, rest⟩, found, rfl⟩ := map_eq_ok_iff.1 read
  exact withRest_noTail_iff.trans (isPathText_of_readFileStart found)

theorem isPathText_dropWhile_isSlash_iff :
    IsPathText (text.dropWhile (isSlash true)) ↔ IsPathText text := by
  have slashes : IsPathText (text.takeWhile (isSlash true)) := by
    intro c member
    have slash := List.mem_takeWhile_imp member
    simp only [isSlash, Bool.or_eq_true, Bool.and_eq_true, beq_iff_eq, true_and] at slash
    rcases slash with rfl | rfl <;> rfl
  conv_rhs => rw [← List.takeWhile_append_dropWhile (p := isSlash true) (l := text)]
  rw [isPathText_append_iff]
  exact (and_iff_right slashes).symm

/-- **A URL has neither a query nor a fragment exactly if none starts behind its scheme.** -/
theorem ofScheme_noTail_iff (read : ofScheme scheme text = .ok url) :
    url.query = none ∧ url.fragment = none ↔ IsPathText text := by
  unfold ofScheme at read
  split at read
  · rw [ofAuthority_noTail_iff read, isPathText_dropWhile_isSlash_iff]
  · exact ofFile_noTail_iff read
  · exact ofOther_noTail_iff read

end

end ServiceLocation.Url
