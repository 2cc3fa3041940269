import ServiceLocation.Proofs.Url.Tail

/-!
**URLs of words below a text.**

A slash and a word behind a text end its authority and stand at the end of its path, unless a query or a
fragment starts in the text.

* `IsBelow`, `TakesWords`: all that depends on the word is the end of the path;
* `AwaitsHost`: where it is not so, because the slash announces an authority and the word is the host;
* `takesWords_of_ofAuthority`, `takesWords_of_ofFile`, `takesWords_of_ofOther`: elsewhere it is so for
  every word, if it is for one;
* `takesWords_or_host`: **of a URL the one or the other holds**;
* `exists_parse_slash`: and with a host and a character that counts at its end, a URL takes words.
-/

namespace ServiceLocation.Url

open ServiceLocation.Text

/-! ### What a word changes -/

/-- A URL with a word below it is as `base` but for the end of the path; `plain` tells that neither a
query nor a fragment starts in front of the word. -/
structure IsBelow (plain : Prop) (word : List Char) (base url : Url) : Prop where
  scheme : url.scheme = base.scheme
  authority : url.authority = base.authority
  path : plain → '/' :: word <:+ url.location.text
  location : ¬plain → url.location = base.location

/-- Every word may stand below a text. -/
def TakesWords (read : List Char → Except Fault Url) (plain : Prop) (text : List Char) : Prop :=
  ∃ base, ∀ word, IsWord word →
    ∃ url, read (text ++ '/' :: word) = .ok url ∧ IsBelow plain word base url

section

variable {scheme text word : List Char} {url : Url}

/-- The word below a text is the end of its location, or is not in it. -/
theorem isBelow_withRest {isSpecial : Bool} {locate : List Char → Location}
    {authority : Option Authority} (letters : IsWord word)
    (ends : IsPathText text → '/' :: word <:+ (locate (text ++ '/' :: word)).text) :
    IsBelow (IsPathText text) word (withRest isSpecial locate scheme authority text)
      (withRest isSpecial locate scheme authority (text ++ '/' :: word)) := by
  unfold withRest
  rw [List.span_eq_takeWhile_dropWhile, List.span_eq_takeWhile_dropWhile]
  refine ⟨rfl, rfl, fun plain => ?_, fun marked => ?_⟩
  · show _ <:+ (locate (List.takeWhile _ _)).text
    rw [plain.takeWhile_slash letters]
    exact ends plain
  · exact congrArg locate (takeWhile_of_not_isPathText marked _)

/-! ### Authorities -/

theorem isEmpty_append_slash (front behind : List Char) : (front ++ '/' :: behind).isEmpty = false := by
  cases front <;> rfl

/-- An authority ends in front of a slash, if it has not ended before. -/
theorem ofAuthority_append_slash {kind : SchemeKind} {front behind : List Char}
    (front_eq : text.takeWhile (fun c => !endsAuthority kind.isSpecial c) = front)
    (behind_eq : text.dropWhile (fun c => !endsAuthority kind.isSpecial c) = behind)
    (more : List Char) :
    ofAuthority kind scheme (text ++ '/' :: more) =
      (fun (authority, left) =>
        behindAuthority kind scheme authority (left ++ behind ++ '/' :: more)) <$>
        readAuthority kind front false := by
  have stops : (!endsAuthority kind.isSpecial '/') = false := by cases kind <;> rfl
  have spans := span_append_mark (p := fun c => !endsAuthority kind.isSpecial c) stops text more
  rw [List.span_eq_takeWhile_dropWhile, List.span_eq_takeWhile_dropWhile, front_eq, behind_eq] at spans
  obtain ⟨sameFront, sameBehind⟩ := Prod.mk.inj spans
  rw [ofAuthority_eq, sameFront, sameBehind, isEmpty_append_slash]
  simp only [List.append_assoc]

/-- **Every word may stand below an authority**, if one may. -/
theorem takesWords_of_ofAuthority {kind : SchemeKind}
    (read : ofAuthority kind scheme (text ++ '/' :: word) = .ok url) :
    TakesWords (ofAuthority kind scheme) (IsPathText text) text := by
  generalize behind_eq : text.dropWhile (fun c => !endsAuthority kind.isSpecial c) = behind
  rw [ofAuthority_append_slash rfl behind_eq] at read
  obtain ⟨⟨authority, left⟩, found, _⟩ := map_eq_ok_iff.1 read
  have plain := isPathText_of_readAuthority found
  rw [behind_eq] at plain
  rw [TakesWords, ← plain]
  refine ⟨behindAuthority kind scheme authority (left ++ behind), fun word letters =>
    ⟨behindAuthority kind scheme authority (left ++ behind ++ '/' :: word), ?_, ?_⟩⟩
  · rw [ofAuthority_append_slash rfl behind_eq, found]
    rfl
  · refine isBelow_withRest letters fun _ => ?_
    obtain ⟨front, same⟩ := Path.exists_readPath_slash kind.isSpecial (left ++ behind)
    rw [same word letters]
    exact Path.slash_suffix_text front word

/-! ### Other URLs -/

/-- What stands behind a scheme, if a slash and a word behind it make the word a host. -/
def AwaitsHost : SchemeKind → List Char → Prop
  | .special _, text => text.dropWhile (isSlash true) = []
  | kind, text => ∃ mark, text = [mark] ∧ isSlash kind.isSpecial mark = true

/-- **Every word may stand below the path of a file**, if one may. -/
theorem takesWords_of_ofFile (closed : ¬AwaitsHost .file text) (letters : IsWord word)
    (read : ofFile scheme (text ++ '/' :: word) = .ok url) :
    TakesWords (ofFile scheme) (IsPathText text) text := by
  have noSlash : ∀ word, IsWord word → ∀ c ∈ word.head?, isSlash true c = false :=
    fun word letters c first =>
      letters.plain (P := fun c => isSlash true c = false) (by decide) c (List.mem_of_mem_head? first)
  rw [ofFile_eq, readFileStart_append_slash closed (noSlash word letters)] at read
  obtain ⟨_, moved, _⟩ := map_eq_ok_iff.1 read
  obtain ⟨⟨host?, rest⟩, found, _⟩ := map_eq_ok_iff.1 moved
  rw [TakesWords, ← isPathText_of_readFileStart found]
  -- The drive in place of a host is the same below every word, so the empty one tells it.
  let host := if startsWithDrive (rest ++ ['/']) then none else host?
  let authority : Authority := { username := [], password := [], host, port := none }
  refine ⟨withRest true fileLocation scheme (some authority) rest, fun word' letters' =>
    ⟨withRest true fileLocation scheme (some authority) (rest ++ '/' :: word'), ?_, ?_⟩⟩
  · rw [ofFile_eq, readFileStart_append_slash closed (noSlash word' letters'), found]
    refine congrArg Except.ok ?_
    show behindFileHost scheme host? (rest ++ '/' :: word') = _
    rw [behindFileHost, startsWithDrive_slash letters' isWord_nil]
  · refine isBelow_withRest letters' fun plain => ?_
    obtain ⟨front, same⟩ := Path.exists_pathInner_slash plain
    have located : fileLocation (rest ++ '/' :: word') =
        .path (front.dropWhile List.isEmpty ++ [word']) := by
      have inner := same word' letters'
      rw [pathInner, plain.takeWhile_slash letters'] at inner
      rw [← Path.withoutEmptyStart_concat, ← inner]
      rfl
    rw [located]
    exact Path.slash_suffix_text _ word'

theorem otherLocation_slash (letters : IsWord word) :
    '/' :: word <:+ (otherLocation (text ++ '/' :: word)).text := by
  match text with
  | [] =>
    rw [List.nil_append, otherLocation, Path.ofText_of_isWord false false letters]
    exact Path.slash_suffix_text [] word
  | c :: rest =>
    by_cases slash : c = '/'
    · obtain ⟨front, same⟩ := Path.exists_ofText_slash false false rest
      rw [slash, List.cons_append, otherLocation, same word letters]
      exact Path.slash_suffix_text front word
    · have body : otherLocation (c :: rest ++ '/' :: word) =
          .unstructured (encode isControl (c :: rest ++ '/' :: word)) := by
        unfold otherLocation
        split
        · rename_i same
          exact absurd (List.cons.inj same).1 slash
        · rfl
      have kept : encode isControl ('/' :: word) = '/' :: word := by
        have plain : encode isControl word = word := encode_of_isWord letters (by decide)
        rw [encode] at plain ⊢
        rw [List.flatMap_cons, plain]
        rfl
      rw [body]
      show _ <:+ encode isControl _
      rw [encode, List.flatMap_append, ← encode, ← encode, kept]
      exact List.suffix_append _ _

/-- **Every word may stand below a URL of no special scheme**, if one may. -/
theorem takesWords_of_ofOther (closed : ¬AwaitsHost .other text)
    (read : ofOther scheme (text ++ '/' :: word) = .ok url) :
    TakesWords (ofOther scheme) (IsPathText text) text := by
  by_cases announced : ∃ rest, text = '/' :: '/' :: rest
  · obtain ⟨rest, rfl⟩ := announced
    have behind : ofAuthority .other scheme (rest ++ '/' :: word) = .ok url := read
    have plain : IsPathText ('/' :: '/' :: rest) ↔ IsPathText rest := by simp [IsPathText, endsPath]
    rw [TakesWords, plain]
    exact takesWords_of_ofAuthority behind
  · have noAuthority : ∀ word, IsWord word → ∀ rest, text ++ '/' :: word ≠ '/' :: '/' :: rest := by
      intro word letters rest same
      rcases text with _ | ⟨mark, _ | ⟨second, more⟩⟩
      · have slash : word = '/' :: rest := (List.cons.inj same).2
        have free : '/' ∉ word := letters.notMem rfl
        exact free (slash ▸ List.mem_cons_self)
      · have slash : mark = '/' := (List.cons.inj same).1
        exact closed ⟨mark, rfl, slash ▸ rfl⟩
      · obtain ⟨rfl, behind⟩ := List.cons.inj same
        obtain ⟨rfl, _⟩ := List.cons.inj behind
        exact announced ⟨more, rfl⟩
    exact ⟨_, fun word letters => ⟨_, ofOther_eq (noAuthority word letters),
      isBelow_withRest letters fun _ => otherLocation_slash letters⟩⟩

/-- **Every word may stand below what follows a scheme**, if one may and is no host. -/
theorem takesWords_of_ofScheme (closed : ¬AwaitsHost (SchemeKind.ofScheme scheme) text)
    (letters : IsWord word) (read : ofScheme scheme (text ++ '/' :: word) = .ok url) :
    TakesWords (ofScheme scheme) (IsPathText text) text := by
  unfold TakesWords ofScheme at *
  cases kind : SchemeKind.ofScheme scheme with
  | special usual =>
    rw [kind] at closed read
    simp only [dropWhile_append_of_ne_nil closed] at read ⊢
    rw [← isPathText_dropWhile_isSlash_iff]
    exact takesWords_of_ofAuthority read
  | file =>
    rw [kind] at closed read
    exact takesWords_of_ofFile closed letters read
  | other =>
    rw [kind] at closed read
    exact takesWords_of_ofOther closed read

/-! ### Words that are hosts -/

/-- A word behind two slashes is the host, whatever the scheme is. -/
theorem hostText?_ne_none_of_isWord (letters : IsWord word) (nonempty : word ≠ [])
    (read : ofAuthority .other scheme word = .ok url) : url.hostText? ≠ none := by
  have inside : ∀ c ∈ word, (!endsAuthority (SchemeKind.isSpecial .other) c) = true :=
    letters.plain (by decide)
  have host : cutHost false word = (word, []) := by
    have allowed : ∀ c ∈ word, Idna.IsHostChar c := letters.plain (by decide)
    have whole := cutHost_append allowed (.inl rfl)
    rwa [List.append_nil] at whole
  rw [ofAuthority_eq, List.takeWhile_eq_self_iff.2 inside, List.dropWhile_eq_nil_iff.2 inside] at read
  obtain ⟨⟨authority, left⟩, found, rfl⟩ := map_eq_ok_iff.1 read
  unfold readAuthority readHostAndPort at found
  rw [cutAtLast_of_notMem (letters.notMem rfl), host] at found
  obtain ⟨⟨host?, port?, more⟩, both, same⟩ := bind_eq_ok_iff.1 found
  obtain ⟨host?', isHost, rest⟩ := bind_eq_ok_iff.1 both
  obtain ⟨_, _, same'⟩ := bind_eq_ok_iff.1 rest
  rw [readHost, List.isEmpty_eq_false_iff.2 nonempty] at isHost
  obtain ⟨plain, _, rfl⟩ := map_eq_ok_iff.1 isHost
  obtain ⟨rfl, _⟩ := Prod.mk.inj (Except.ok.inj same)
  obtain ⟨rfl, _⟩ := Prod.mk.inj (Except.ok.inj same')
  exact Option.some_ne_none _

theorem hostText?_ne_none_of_isVerbatim {mark : Char} (slash : isSlash true mark = true)
    (letters : IsWord word) (verbatim : Host.IsVerbatim word)
    (far : lowerAscii word ≠ "localhost".toList)
    (read : ofFile scheme (mark :: '/' :: word) = .ok url) :
    url.hostText? ≠ none := by
  have inside : ∀ c ∈ word, (!endsAuthority true c) = true := letters.plain (by decide)
  have start : readFileStart (mark :: '/' :: word) = .ok (some (.domain (lowerAscii word)), []) := by
    have other : (Host.domain (lowerAscii word) == .domain "localhost".toList) = false := by
      rw [beq_eq_false_iff_ne]
      exact fun same => far (Host.domain.inj same)
    have second : isSlash true '/' = true := rfl
    rw [readFileStart, slash, second, Bool.and_self, if_pos rfl, readFileHost,
      List.span_eq_takeWhile_dropWhile, List.takeWhile_eq_self_iff.2 inside,
      List.dropWhile_eq_nil_iff.2 inside]
    dsimp only
    rw [List.isEmpty_eq_false_iff.2 verbatim.nonempty, Path.isDriveLetter_of_isWord letters,
      Host.ofSpecial_of_isVerbatim verbatim]
    show Except.ok (if _ then none else _, _) = _
    rw [other]
    rfl
  rw [ofFile_eq, start] at read
  rw [← Except.ok.inj read]
  exact Option.some_ne_none _

/-! ### URLs -/

variable {written : List Char} {base : Url}

/-- **What follows the scheme of a URL** is followed by what is hidden at its end and a word. -/
theorem exists_ofScheme_of_parse (isUrl : parse written = .ok base) :
    ∃ core, ofScheme base.scheme core = .ok base ∧ ∀ word, IsWord word →
      parse (written ++ '/' :: word) =
        ofScheme base.scheme (core ++ hiddenEnd written ++ '/' :: word) := by
  obtain ⟨core, found⟩ := readScheme?_of_parse isUrl
  refine ⟨core, (parse_eq_ofScheme found).symm.trans isUrl, fun word letters => parse_eq_ofScheme ?_⟩
  have edgeless : ∀ c ∈ '/' :: word, isEdge c = false := by
    rw [List.forall_mem_cons]
    exact ⟨rfl, letters.plain (by decide)⟩
  rw [cleaned_append (List.cons_ne_nil _ _) edgeless, List.append_assoc,
    readScheme?_append_of_some found, List.append_assoc]

theorem isPathText_hiddenEnd : IsPathText (hiddenEnd written) := by
  intro c member
  have edge := isEdge_of_mem_hiddenEnd c member
  rw [Bool.eq_false_iff]
  intro ends
  simp only [endsPath, Bool.or_eq_true, beq_iff_eq] at ends
  rcases ends with rfl | rfl <;> cases edge

/-- A slash is not hidden at the end of a text. -/
theorem hiddenEnd_of_awaitsHost {kind : SchemeKind} {core : List Char}
    (notSpecial : ∀ usual, kind ≠ .special usual)
    (awaits : AwaitsHost kind (core ++ hiddenEnd written)) :
    ∃ mark, core = [mark] ∧ hiddenEnd written = [] ∧ isSlash kind.isSpecial mark = true := by
  obtain ⟨mark, single, slash⟩ : ∃ mark, core ++ hiddenEnd written = [mark] ∧
      isSlash kind.isSpecial mark = true := by
    cases kind with
    | special usual => exact absurd rfl (notSpecial usual)
    | file => exact awaits
    | other => exact awaits
  have shown : mark ∉ hiddenEnd written := by
    intro member
    have edge := isEdge_of_mem_hiddenEnd mark member
    simp only [isSlash, Bool.or_eq_true, Bool.and_eq_true, beq_iff_eq] at slash
    rcases slash with rfl | ⟨_, rfl⟩ <;> cases edge
  rcases List.append_eq_singleton_iff.1 single with ⟨_, hidden⟩ | ⟨is, hidden⟩
  · exact absurd (hidden ▸ List.mem_singleton_self mark) shown
  · exact ⟨mark, is, hidden, slash⟩

/-- **Below a URL every word may stand if one may, or a word there is the host** and the URL has
none. -/
theorem takesWords_or_host (isUrl : parse written = .ok base) (letters : IsWord word)
    (read : parse (written ++ '/' :: word) = .ok url) :
    TakesWords parse (base.query = none ∧ base.fragment = none) written ∨
      base.hostText? = none ∧ (Host.IsVerbatim word → lowerAscii word ≠ "localhost".toList →
        url.hostText? ≠ none) := by
  obtain ⟨core, isCore, below⟩ := exists_ofScheme_of_parse isUrl
  rw [below word letters] at read
  by_cases awaits : AwaitsHost (SchemeKind.ofScheme base.scheme) (core ++ hiddenEnd written)
  · right
    unfold ofScheme at isCore read
    cases kind : SchemeKind.ofScheme base.scheme with
    | special usual =>
      rw [kind] at isCore awaits
      refine absurd ?_ (ne_nil_of_ofAuthority isCore)
      rw [List.dropWhile_eq_nil_iff]
      intro c member
      exact List.dropWhile_eq_nil_iff.1 awaits c (List.mem_append_left (hiddenEnd written) member)
    | file =>
      rw [kind] at isCore read awaits
      obtain ⟨mark, rfl, hidden, slash⟩ := hiddenEnd_of_awaitsHost (by simp) awaits
      rw [hidden] at read
      refine ⟨?_, fun verbatim far => hostText?_ne_none_of_isVerbatim slash letters verbatim far read⟩
      rw [ofFile_eq] at isCore
      rw [← Except.ok.inj isCore]
      show Option.map Host.text (if startsWithDrive [mark] then none else none) = none
      rw [ite_self]
      rfl
    | other =>
      rw [kind] at isCore read awaits
      obtain ⟨mark, rfl, hidden, slash⟩ := hiddenEnd_of_awaitsHost (by simp) awaits
      obtain rfl : mark = '/' := by simpa [isSlash, SchemeKind.isSpecial] using slash
      rw [hidden] at read
      refine ⟨?_, fun verbatim _ => hostText?_ne_none_of_isWord letters verbatim.nonempty read⟩
      rw [← Except.ok.inj isCore]
      rfl
  · left
    obtain ⟨stem, every⟩ := takesWords_of_ofScheme awaits letters read
    have plain : IsPathText (core ++ hiddenEnd written) ↔ IsPathText core :=
      isPathText_append_iff.trans (and_iff_left isPathText_hiddenEnd)
    rw [TakesWords, ofScheme_noTail_iff isCore, ← plain]
    refine ⟨stem, fun word letters => ?_⟩
    rw [below word letters]
    exact every word letters

/-! ### URLs with a host -/

theorem readHostAndPort_nil {kind : SchemeKind} {result : Option Host × Option UInt16 × List Char}
    (read : readHostAndPort kind [] = .ok result) : result.1 = none := by
  cases kind <;> cases read
  rfl

/-- An authority with a host is accepted wherever it ends. -/
theorem readAuthority_of_host {kind : SchemeKind} {endsHere : Bool} {authority : Authority}
    {left : List Char} (hasHost : authority.host ≠ none)
    (read : readAuthority kind text endsHere = .ok (authority, left)) :
    readAuthority kind text false = .ok (authority, left) := by
  unfold readAuthority at read ⊢
  cases cut : cutAtLast '@' text with
  | none => rwa [cut] at read
  | some parts =>
    obtain ⟨user, behind⟩ := parts
    rw [cut] at read
    cases user with
    | cons c rest => exact read
    | nil =>
      dsimp only at read ⊢
      split at read
      · cases read
      · cases behind with
        | nil =>
          -- No host is read from the empty text.
          obtain ⟨⟨host?, port?, more⟩, found, same⟩ := bind_eq_ok_iff.1 read
          obtain ⟨rfl, _⟩ := Prod.mk.inj (Except.ok.inj same)
          exact absurd (readHostAndPort_nil found) hasHost
        | cons c rest => exact read

theorem exists_ofAuthority_slash {kind : SchemeKind} (hasHost : url.hostText? ≠ none)
    (read : ofAuthority kind scheme text = .ok url) :
    ∃ below, ofAuthority kind scheme (text ++ ['/']) = .ok below := by
  rw [ofAuthority_eq] at read
  obtain ⟨⟨authority, left⟩, found, rfl⟩ := map_eq_ok_iff.1 read
  have host : authority.host ≠ none := by
    intro none
    refine hasHost ?_
    show authority.host.map Host.text = _
    rw [none]
    rfl
  rw [ofAuthority_append_slash rfl rfl, readAuthority_of_host host found]
  exact ⟨_, rfl⟩

theorem exists_ofFile_slash (hasHost : url.hostText? ≠ none) (read : ofFile scheme text = .ok url) :
    ∃ below, ofFile scheme (text ++ ['/']) = .ok below := by
  obtain ⟨host?, rest, found, _, same⟩ := authority_of_ofFile read
  cases host? with
  | none =>
    refine absurd ?_ hasHost
    rw [hostText?, same, ite_self]
    rfl
  | some host =>
    rw [ofFile_eq, (readFileStart_concat_slash found).1]
    exact ⟨_, rfl⟩

theorem exists_ofOther_slash (hasHost : url.hostText? ≠ none) (read : ofOther scheme text = .ok url) :
    ∃ below, ofOther scheme (text ++ ['/']) = .ok below := by
  by_cases announced : ∃ rest, text = '/' :: '/' :: rest
  · obtain ⟨rest, rfl⟩ := announced
    have behind : ofAuthority .other scheme rest = .ok url := read
    exact exists_ofAuthority_slash hasHost behind
  · rw [ofOther_eq (not_exists.1 announced)] at read
    rw [← Except.ok.inj read] at hasHost
    exact absurd rfl hasHost

/-- **A URL with a host is one with a slash behind it**, unless it ends with a character that does not
count there. -/
theorem exists_parse_slash (counts : ∀ c ∈ written.getLast?, isEdge c = false)
    (isUrl : parse written = .ok base) (hasHost : base.hostText? ≠ none) :
    ∃ below, parse (written ++ ['/']) = .ok below := by
  obtain ⟨core, isCore, below⟩ := exists_ofScheme_of_parse isUrl
  rw [below [] isWord_nil, hiddenEnd_of_counts counts, List.append_nil]
  unfold ofScheme at isCore ⊢
  cases kind : SchemeKind.ofScheme base.scheme with
  | special usual =>
    rw [kind] at isCore
    dsimp only
    rw [dropWhile_append_of_ne_nil (ne_nil_of_ofAuthority isCore)]
    exact exists_ofAuthority_slash hasHost isCore
  | file =>
    rw [kind] at isCore
    exact exists_ofFile_slash hasHost isCore
  | other =>
    rw [kind] at isCore
    exact exists_ofOther_slash hasHost isCore

end

end ServiceLocation.Url
