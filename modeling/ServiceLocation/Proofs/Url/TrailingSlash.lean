import ServiceLocation.Proofs.Url.Reading

/-!
**A slash behind a URL.**

* `hiddenEnd`, `cleaned_append`: what is dropped at the end of a text, and is not with a text behind it;
* `cleaned_concat_slash`, `readScheme?_append_of_some`: the slash stays behind what is read of a text
  that does not end with a character that does not count;
* `ofAuthority_concat_slash`: so the authority ends where it ended;
* `Path.walk_concat_nil`: the path of a file gets an empty segment at its end or none, which does not
  change what it starts with;
* `parse_concat_slash`: **a slash behind a URL with a host changes neither its scheme nor its
  authority.**
-/

namespace ServiceLocation.Url

open ServiceLocation.Text

/-! ### Spans -/

/-- A span that ends before a mark is not changed by what stands behind it. -/
theorem span_append_mark {p : Char → Bool} {mark : Char} (stops : p mark = false)
    (text behind : List Char) :
    (text ++ mark :: behind).span p = ((text.span p).1, (text.span p).2 ++ mark :: behind) := by
  simp only [List.span_eq_takeWhile_dropWhile]
  induction text with
  | nil => simp [stops]
  | cons c rest ih =>
    obtain ⟨front, back⟩ := Prod.mk.inj ih
    rw [List.cons_append, List.takeWhile_cons, List.dropWhile_cons, List.takeWhile_cons,
      List.dropWhile_cons]
    split
    · rw [front, back]
    · rfl

/-! ### Ends that do not count -/

/-- What is dropped at the end of a text, and counts as soon as something stands behind it. -/
def hiddenEnd (text : List Char) : List Char :=
  ((text.dropWhile isEdge).rtakeWhile isEdge).filter fun c => !isSkipped c

theorem isEdge_of_mem_hiddenEnd {text : List Char} : ∀ c ∈ hiddenEnd text, isEdge c = true :=
  fun _ member => List.mem_rtakeWhile_imp (List.mem_filter.1 member).1

theorem hiddenEnd_of_counts {text : List Char} (counts : ∀ c ∈ text.getLast?, isEdge c = false) :
    hiddenEnd text = [] := by
  have none : (text.dropWhile isEdge).rtakeWhile isEdge = [] := by
    rw [List.rtakeWhile_eq_nil_iff]
    intro filled
    obtain ⟨front, whole⟩ := List.dropWhile_suffix isEdge (l := text)
    have last : text.getLast? = some ((text.dropWhile isEdge).getLast filled) := by
      rw [← List.getLast?_eq_some_getLast filled]
      nth_rewrite 1 [← whole]
      exact List.getLast?_append_of_ne_nil front filled
    exact Bool.eq_false_iff.1 (counts _ last)
  rw [hiddenEnd, none]
  rfl

/-- **What stands behind a text stays there**, if all of it counts, and so does what is hidden at the
end of the text. -/
theorem cleaned_append {text behind : List Char} (nonempty : behind ≠ [])
    (edgeless : ∀ c ∈ behind, isEdge c = false) :
    cleaned (text ++ behind) = cleaned text ++ hiddenEnd text ++ behind := by
  have first : behind.dropWhile isEdge = behind := by
    rw [List.dropWhile_eq_self_iff]
    exact fun filled => Bool.eq_false_iff.1 (edgeless _ (List.getElem_mem filled))
  have start : (text ++ behind).dropWhile isEdge = text.dropWhile isEdge ++ behind := by
    rw [List.dropWhile_append]
    split
    · rename_i empty
      rw [List.isEmpty_iff.1 empty, first]
      rfl
    · rfl
  have ending : (text.dropWhile isEdge ++ behind).rdropWhile isEdge =
      text.dropWhile isEdge ++ behind := by
    rw [List.rdropWhile_eq_self_iff]
    intro filled
    rw [List.getLast_append_of_ne_nil _ nonempty]
    exact Bool.eq_false_iff.1 (edgeless _ (List.getLast_mem nonempty))
  rw [cleaned_eq, cleaned_eq, start, ending, hiddenEnd, ← List.filter_append,
    List.rdropWhile_append_rtakeWhile, List.filter_append, filter_of_edgeless edgeless]

/-- A slash behind a text that does not end with a character that does not count, stays there. -/
theorem cleaned_concat_slash {text : List Char} (counts : ∀ c ∈ text.getLast?, isEdge c = false) :
    cleaned (text ++ ['/']) = cleaned text ++ ['/'] := by
  have edgeless : ∀ c ∈ ['/'], isEdge c = false := List.forall_mem_singleton.2 rfl
  rw [cleaned_append (List.cons_ne_nil _ _) edgeless, hiddenEnd_of_counts counts, List.append_nil]

/-- What stands behind a text with a scheme stands behind what the scheme leaves. -/
theorem readScheme?_append_of_some {text scheme rest : List Char}
    (read : readScheme? text = some (scheme, rest)) (behind : List Char) :
    readScheme? (text ++ behind) = some (scheme, rest ++ behind) := by
  obtain ⟨written, rfl, rfl, letter, chars⟩ := eq_append_of_readScheme? read
  rw [List.append_assoc, List.cons_append]
  exact readScheme?_append letter chars _

/-- What is dropped at the start of a text is dropped with anything behind the text, unless that is all
of it. -/
theorem dropWhile_append_of_ne_nil {p : Char → Bool} {text : List Char}
    (filled : text.dropWhile p ≠ []) (behind : List Char) :
    (text ++ behind).dropWhile p = text.dropWhile p ++ behind := by
  rw [List.dropWhile_append, List.isEmpty_eq_false_iff.2 filled, if_neg Bool.false_ne_true]

/-! ### Authorities -/

/-- A special URL has something behind its slashes. -/
theorem ne_nil_of_ofAuthority {usual : UInt16} {scheme text : List Char} {url : Url}
    (read : ofAuthority (.special usual) scheme text = .ok url) : text ≠ [] := by
  rintro rfl
  cases read

/-- Whether a text ends behind the authority tells whether the authority is accepted, not what it
is. -/
theorem readAuthority_unique {kind : SchemeKind} {text : List Char} {endsHere endsHere' : Bool}
    {result result' : Authority × List Char} (read : readAuthority kind text endsHere = .ok result)
    (read' : readAuthority kind text endsHere' = .ok result') : result' = result := by
  unfold readAuthority at read read'
  cases cut : cutAtLast '@' text with
  | none =>
    rw [cut] at read read'
    exact Except.ok.inj (read'.symm.trans read)
  | some parts =>
    obtain ⟨user, behind⟩ := parts
    rw [cut] at read read'
    cases user with
    | nil =>
      dsimp only at read read'
      split at read
      · cases read
      · split at read'
        · cases read'
        · exact Except.ok.inj (read'.symm.trans read)
    | cons c rest => exact Except.ok.inj (read'.symm.trans read)

/-- **A slash behind an authority does not change it.** -/
theorem ofAuthority_concat_slash {kind : SchemeKind} {scheme text : List Char} {url url' : Url}
    (read : ofAuthority kind scheme text = .ok url)
    (read' : ofAuthority kind scheme (text ++ ['/']) = .ok url') :
    url'.scheme = url.scheme ∧ url'.authority = url.authority := by
  unfold ofAuthority at read read'
  rw [span_append_mark (by cases kind <;> rfl)] at read'
  obtain ⟨⟨authority, more⟩, found, same⟩ := bind_eq_ok_iff.1 read
  obtain ⟨⟨authority', more'⟩, found', same'⟩ := bind_eq_ok_iff.1 read'
  obtain ⟨rfl, _⟩ := Prod.mk.inj (readAuthority_unique found found')
  rw [← Except.ok.inj same, ← Except.ok.inj same']
  exact ⟨rfl, rfl⟩

/-! ### Paths of files -/

namespace Path

/-- **An empty segment behind a path is there already, or is added at its end.** -/
theorem walk_concat_nil (isFile : Bool) (passed segments : List (List Char)) :
    walk isFile passed (segments ++ [[]]) = walk isFile passed segments ∨
      walk isFile passed (segments ++ [[]]) = [] :: walk isFile passed segments := by
  have last : ∀ passed, walk isFile passed [[]] = [] :: passed := by
    intro passed
    have kept : normalized isFile passed.isEmpty [] = [] := by
      cases isFile <;> cases passed.isEmpty <;> rfl
    show normalized isFile passed.isEmpty [] :: passed = [] :: passed
    rw [kept]
  induction segments generalizing passed with
  | nil => exact .inr (last passed)
  | cons segment rest ih =>
    have more : (rest ++ [[]]).isEmpty = false := by cases rest <;> rfl
    rw [List.cons_append, walk, walk, more, if_neg Bool.false_ne_true]
    split
    · cases rest with
      | nil => exact .inl (last _)
      | cons next rest => exact ih _
    · split
      · cases rest with
        | nil => exact .inl (last _)
        | cons next rest => exact ih _
      · exact ih _

/-- A text that is cut at its slashes is cut on either side of one. -/
theorem cut_slash (isSpecial : Bool) (front behind : List Char) :
    cut isSpecial (front ++ '/' :: behind) = cut isSpecial front ++ cut isSpecial behind := by
  unfold cut
  cases isSpecial with
  | false => exact List.splitOn_append_cons_self front behind
  | true =>
    rw [if_pos rfl, if_pos rfl, if_pos rfl, List.map_append]
    exact List.splitOn_append_cons_self _ _

/-- A slash behind a text leaves its path as it is, or adds an empty segment. -/
theorem ofText_concat_slash (isSpecial isFile : Bool) (text : List Char) :
    ofText isSpecial isFile (text ++ ['/']) = ofText isSpecial isFile text ∨
      ofText isSpecial isFile (text ++ ['/']) = ofText isSpecial isFile text ++ [[]] := by
  have cuts : cut isSpecial (text ++ ['/']) = cut isSpecial text ++ [[]] := by
    rw [cut_slash]
    cases isSpecial <;> rfl
  unfold ofText
  rw [cuts]
  rcases walk_concat_nil isFile [] (cut isSpecial text) with same | added
  · exact .inl (congrArg List.reverse same)
  · refine .inr ?_
    rw [added, List.reverse_cons]

/-- An empty segment at the end of a path does not change what it starts with. -/
theorem head?_withoutEmptyStart_concat (path : Path) :
    (withoutEmptyStart (path ++ [[]])).head? = (withoutEmptyStart path).head? := by
  unfold withoutEmptyStart
  rw [List.dropWhile_append]
  cases path.dropWhile List.isEmpty with
  | nil => rfl
  | cons segment rest => rfl

end Path

/-- What a file's path is read from: the text up to a query or fragment, without a slash in front. -/
def pathInner (text : List Char) : List Char :=
  match text.takeWhile fun c => !endsPath c with
  | c :: more => if isSlash true c then more else text.takeWhile fun c => !endsPath c
  | [] => []

/-- A slash behind what follows a host is read as a part of the path, if it is. -/
theorem pathInner_concat_slash {text : List Char}
    (ends : ∀ c ∈ text.head?, endsAuthority true c = true) :
    pathInner (text ++ ['/']) = pathInner text ∨
      pathInner (text ++ ['/']) = pathInner text ++ ['/'] := by
  cases text with
  | nil => exact .inl rfl
  | cons c rest =>
    unfold pathInner
    rw [List.cons_append, List.takeWhile_cons, List.takeWhile_cons]
    cases isEnd : endsPath c with
    | true => exact .inl rfl
    | false =>
      have slash : isSlash true c = true := by
        have marks := ends c rfl
        rw [endsAuthority, Bool.or_assoc, Bool.or_eq_true] at marks
        exact marks.resolve_right (Bool.eq_false_iff.1 isEnd)
      rw [Bool.not_false, if_pos rfl, if_pos rfl]
      dsimp only
      rw [slash, if_pos rfl, if_pos rfl, List.takeWhile_append]
      split
      · rename_i whole
        exact .inr (by rw [(List.takeWhile_prefix _).eq_of_length whole]; rfl)
      · exact .inl rfl

/-- Whether a path starts with the letter of a drive, which stands in place of a host. -/
def startsWithDrive (text : List Char) : Bool :=
  (Path.ofText true true (pathInner text)).withoutEmptyStart.head?.any Path.isDriveLetter

theorem startsWithDrive_concat_slash {text : List Char}
    (ends : ∀ c ∈ text.head?, endsAuthority true c = true) :
    startsWithDrive (text ++ ['/']) = startsWithDrive text := by
  unfold startsWithDrive
  rcases pathInner_concat_slash ends with same | added
  · rw [same]
  · rw [added]
    rcases Path.ofText_concat_slash true true (pathInner text) with same | longer
    · rw [same]
    · rw [longer, Path.head?_withoutEmptyStart_concat]

/-- A slash ends the host of a file, and what stands behind it stays there. -/
theorem readFileHost_append_slash (text behind : List Char) :
    readFileHost (text ++ '/' :: behind) =
      (fun (host?, rest) => (host?, rest ++ '/' :: behind)) <$> readFileHost text := by
  unfold readFileHost
  rw [span_append_mark rfl]
  dsimp only
  split
  · rfl
  · cases Host.ofSpecial (text.span fun c => !endsAuthority true c).1 <;> rfl

/-- Two slashes announce the host of a file, unless the second of them stands behind the text. -/
theorem readFileStart_append_slash {text behind : List Char}
    (closed : ¬∃ mark, text = [mark] ∧ isSlash true mark = true)
    (noSlash : ∀ c ∈ behind.head?, isSlash true c = false) :
    readFileStart (text ++ '/' :: behind) =
      (fun (host?, rest) => (host?, rest ++ '/' :: behind)) <$> readFileStart text := by
  match text with
  | [] =>
    cases behind with
    | nil => rfl
    | cons c more =>
      have second : isSlash true c = false := noSlash c rfl
      rw [List.nil_append, readFileStart, second, Bool.and_false, if_neg Bool.false_ne_true]
      rfl
  | [mark] =>
    have first : isSlash true mark = false := Bool.eq_false_iff.2 fun slash => closed ⟨mark, rfl, slash⟩
    rw [List.singleton_append, readFileStart, first, Bool.false_and, if_neg Bool.false_ne_true]
    rfl
  | first :: second :: more =>
    rw [List.cons_append, List.cons_append, readFileStart, readFileStart]
    split
    · exact readFileHost_append_slash more behind
    · rfl

/-- A host that stands in front of a path ends where the path starts. -/
theorem ends_of_readFileHost {text rest : List Char} {host : Host}
    (read : readFileHost text = .ok (some host, rest)) :
    ∀ c ∈ rest.head?, endsAuthority true c = true := by
  unfold readFileHost at read
  rw [List.span_eq_takeWhile_dropWhile] at read
  dsimp only at read
  split at read
  · cases read
  · obtain ⟨found, _, same⟩ := bind_eq_ok_iff.1 read
    rw [← (Prod.mk.inj (Except.ok.inj same)).2]
    intro c first
    have stops := List.head?_dropWhile_not (fun c => !endsAuthority true c) text
    rw [Option.mem_def.1 first] at stops
    simpa using stops

theorem readFileStart_concat_slash {text rest : List Char} {host : Host}
    (read : readFileStart text = .ok (some host, rest)) :
    readFileStart (text ++ ['/']) = .ok (some host, rest ++ ['/']) ∧
      ∀ c ∈ rest.head?, endsAuthority true c = true := by
  have closed : ¬∃ mark, text = [mark] ∧ isSlash true mark = true := by
    rintro ⟨mark, rfl, _⟩
    cases read
  refine ⟨?_, ?_⟩
  · rw [readFileStart_append_slash closed (by simp), read]
    rfl
  · unfold readFileStart at read
    split at read
    · split at read
      · exact ends_of_readFileHost read
      · cases read
    · cases read

/-- The authority of a file is its host, if no drive stands in place of it. -/
theorem authority_of_ofFile {scheme text : List Char} {url : Url}
    (read : ofFile scheme text = .ok url) : ∃ host? rest, readFileStart text = .ok (host?, rest) ∧
      url.scheme = scheme ∧ url.authority = some
        { username := [], password := [], host := if startsWithDrive rest then none else host?
          port := none } := by
  obtain ⟨⟨host?, rest⟩, found, same⟩ := bind_eq_ok_iff.1 read
  dsimp only at same
  rw [List.span_eq_takeWhile_dropWhile] at same
  rw [← Except.ok.inj same]
  exact ⟨host?, rest, found, rfl, rfl⟩

/-- **A slash behind the URL of a file on a host does not change the authority.** -/
theorem ofFile_concat_slash {scheme text : List Char} {url url' : Url}
    (read : ofFile scheme text = .ok url) (hasHost : url.hostText? ≠ none)
    (read' : ofFile scheme (text ++ ['/']) = .ok url') :
    url'.scheme = url.scheme ∧ url'.authority = url.authority := by
  obtain ⟨host?, rest, found, sameScheme, same⟩ := authority_of_ofFile read
  obtain ⟨host?', rest', found', sameScheme', same'⟩ := authority_of_ofFile read'
  cases host? with
  | none =>
    refine absurd ?_ hasHost
    rw [hostText?, same, ite_self]
    rfl
  | some host =>
    obtain ⟨further, ends⟩ := readFileStart_concat_slash found
    obtain ⟨rfl, rfl⟩ := Prod.mk.inj (Except.ok.inj (found'.symm.trans further))
    rw [sameScheme, sameScheme', same, same', startsWithDrive_concat_slash ends]
    exact ⟨rfl, rfl⟩

/-! ### URLs -/

/-- **A slash behind the URL of no special scheme does not change its authority**, if it has a
host. -/
theorem ofOther_concat_slash {scheme text : List Char} {url url' : Url}
    (read : ofOther scheme text = .ok url) (hasHost : url.hostText? ≠ none)
    (read' : ofOther scheme (text ++ ['/']) = .ok url') :
    url'.scheme = url.scheme ∧ url'.authority = url.authority := by
  unfold ofOther at read
  split at read
  · exact ofAuthority_concat_slash read read'
  · rw [← Except.ok.inj read] at hasHost
    exact absurd rfl hasHost

/-- **A slash behind a URL with a host changes neither its scheme nor its authority**, if the URL
does not end with a character that does not count. -/
theorem parse_concat_slash {text : List Char} {url url' : Url}
    (counts : ∀ c ∈ text.getLast?, isEdge c = false) (read : parse text = .ok url)
    (hasHost : url.hostText? ≠ none) (read' : parse (text ++ ['/']) = .ok url') :
    url'.scheme = url.scheme ∧ url'.authority = url.authority := by
  unfold parse at read read'
  rw [cleaned_concat_slash counts] at read'
  cases found : readScheme? (cleaned text) with
  | none => rw [found] at read; cases read
  | some parts =>
    obtain ⟨scheme, rest⟩ := parts
    rw [found] at read
    rw [readScheme?_append_of_some found] at read'
    dsimp only at read read'
    cases kind : SchemeKind.ofScheme scheme with
    | special usual =>
      rw [kind] at read read'
      dsimp only at read read'
      rw [dropWhile_append_of_ne_nil (ne_nil_of_ofAuthority read)] at read'
      exact ofAuthority_concat_slash read read'
    | file =>
      rw [kind] at read read'
      exact ofFile_concat_slash read hasHost read'
    | other =>
      rw [kind] at read read'
      exact ofOther_concat_slash read hasHost read'

end ServiceLocation.Url
