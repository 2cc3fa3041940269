import ServiceLocation.Locator.Resolve
import ServiceLocation.Proofs.Text.Ending
import ServiceLocation.Proofs.Url.TrailingSlash

/-!
**Base URLs.**

A text with `://` in it is taken for a URL, any other gets `http://` in front, and one slash is
dropped at the end of either.

* `baseUrl_eq_ok_iff`: what is left is the base URL if it is a URL with a host;
* `slash_of_baseUrl`: **a base URL ends with a slash exactly if the text ends with two**, and only
  then it is not its own base URL;
* `baseUrl_of_url`: **a URL is kept exactly if it holds `://`**, which not all URLs do.
-/

namespace ServiceLocation.Locator

open ServiceLocation.Text

section

variable {resolved url : String}

/-! ### The marks of a scheme -/

/-- A text has a scheme in front once it has been given one. -/
theorem holds_withScheme (text : List Char) : holds "://".toList (withScheme text) = true := by
  unfold withScheme
  split
  · assumption
  · exact holds_iff.2 ⟨"http".toList, text, rfl⟩

theorem withScheme_of_holds {text : List Char} (marked : holds "://".toList text = true) :
    withScheme text = text := if_pos marked

theorem withScheme_of_not_holds {text : List Char} (unmarked : ¬holds "://".toList text = true) :
    withScheme text = "http://".toList ++ text := if_neg unmarked

/-- **A base URL is a URL with a host**, and the given text with `://` in it and less a slash. -/
theorem baseUrl_eq_ok_iff : baseUrl resolved = .ok url ↔
    url.toList = dropFinal '/' (withScheme resolved.toList) ∧
      ∃ parsed host, Url.parse url.toList = .ok parsed ∧ parsed.hostText? = some host ∧ host ≠ [] := by
  unfold baseUrl
  generalize dropFinal '/' (withScheme resolved.toList) = base
  dsimp only
  constructor
  · intro made
    split at made
    · cases made
    · rename_i parsed read
      split at made
      · cases made
      · rename_i host has
        split at made
        · cases made
        · rename_i filled
          rw [← Except.ok.inj made, String.toList_ofList]
          exact ⟨rfl, parsed, host, read, has, by simpa using filled⟩
  · rintro ⟨rfl, parsed, host, read, has, filled⟩
    rw [read]
    dsimp only
    rw [has]
    dsimp only
    rw [List.isEmpty_eq_false_iff.2 filled, if_neg Bool.false_ne_true, String.ofList_toList]

/-- The slashes at the end of a text are those of the text with a scheme in front, but for texts that
give no base URL. -/
theorem slashes_withScheme (made : baseUrl resolved = .ok url) :
    ['/', '/'] <:+ withScheme resolved.toList ↔ ['/', '/'] <:+ resolved.toList := by
  obtain ⟨written, parsed, _, read, _⟩ := baseUrl_eq_ok_iff.1 made
  by_cases marked : holds "://".toList resolved.toList = true
  · rw [withScheme_of_holds marked]
  · rw [withScheme_of_not_holds marked] at written ⊢
    refine ⟨fun ends => ?_, fun ends => List.suffix_append_of_suffix ends⟩
    -- Only with nothing or a slash behind it the front would be a part of the end.
    have long : ['/', '/'].length ≤ resolved.toList.length := by
      match text : resolved.toList with
      | [] => rw [written, text] at read; cases read
      | [c] =>
        obtain rfl : c = '/' := by
          obtain ⟨front, same⟩ := ends
          have last := congrArg List.getLast? same
          rw [text, List.getLast?_concat, List.getLast?_append_of_ne_nil _ (List.cons_ne_nil _ _)]
            at last
          exact (Option.some.inj last).symm
        rw [written, text] at read
        cases read
      | _ :: _ :: _ => simp
    exact List.suffix_of_suffix_length_le ends (List.suffix_append _ _) long

/-- What is left of a text with `://` in it holds that too, unless it still ends with a slash. -/
theorem holds_dropFinal {text : List Char} (marked : holds "://".toList text = true)
    (noSlash : (dropFinal '/' text).getLast? ≠ some '/') :
    holds "://".toList (dropFinal '/' text) = true := by
  rcases dropFinal_cases '/' text with ⟨_, same⟩ | whole
  · rwa [same]
  · generalize dropFinal '/' text = front at whole noSlash ⊢
    rw [whole, holds_iff, List.infix_concat_iff, List.suffix_concat_iff] at marked
    rcases marked with (empty | ⟨start, same, ends⟩) | inside
    · cases empty
    · have start' : start = [':', '/'] :=
        List.append_cancel_right (show start ++ ['/'] = [':', '/'] ++ ['/'] from same.symm)
      obtain ⟨before, rfl⟩ := ends
      rw [start', List.getLast?_append_of_ne_nil _ (List.cons_ne_nil _ _)] at noSlash
      exact absurd rfl noSlash
    · exact holds_iff.2 inside

/-! ### Slashes -/

theorem getLast?_of_baseUrl (made : baseUrl resolved = .ok url) :
    url.toList.getLast? = some '/' ↔ ['/', '/'] <:+ resolved.toList := by
  rw [(baseUrl_eq_ok_iff.1 made).1, getLast?_dropFinal_iff, slashes_withScheme made]

/-- A text that ends with a slash is not its own base URL. -/
theorem baseUrl_ne_self (last : url.toList.getLast? = some '/') : baseUrl url ≠ .ok url := by
  intro same
  have written := (baseUrl_eq_ok_iff.1 same).1
  obtain ⟨front, is⟩ := List.getLast?_eq_some_iff.1 last
  have length := congrArg List.length written
  by_cases marked : holds "://".toList url.toList = true
  · rw [withScheme_of_holds marked, is, dropFinal_concat, List.length_append] at length
    simp at length
  · rw [withScheme_of_not_holds marked, is, ← List.append_assoc, dropFinal_concat] at length
    simp at length

/-- **A base URL is a URL. It ends with a slash exactly if the given text ends with two of them**,
and exactly then its own base URL is another. So it is with the base URL of a service. -/
theorem slash_of_baseUrl (made : baseUrl resolved = .ok url) :
    (∃ parsed, Url.parse url.toList = .ok parsed ∧ parsed.scheme ≠ []) ∧
      (url.toList.getLast? = some '/' ↔ ['/', '/'] <:+ resolved.toList) ∧
      (baseUrl url = .ok url ↔ ¬['/', '/'] <:+ resolved.toList) ∧
      ∀ locator network participant zone memory,
        (serviceUrl locator network participant zone memory).1 = .ok url →
          ∃ text, (resolve locator network participant zone memory).1 = .ok text ∧
            (url.toList.getLast? = some '/' ↔ ['/', '/'] <:+ text.toList) := by
  obtain ⟨written, parsed, host, read, has, filled⟩ := baseUrl_eq_ok_iff.1 made
  have last := getLast?_of_baseUrl made
  refine ⟨⟨parsed, read, Url.scheme_ne_nil_of_parse read⟩, last,
    ⟨fun same ends => baseUrl_ne_self (last.2 ends) same, fun single => ?_⟩,
    fun locator network participant zone memory located => ?_⟩
  · have noSlash : url.toList.getLast? ≠ some '/' := mt last.1 single
    have marked : holds "://".toList url.toList = true := by
      rw [written] at noSlash ⊢
      exact holds_dropFinal (holds_withScheme _) noSlash
    refine baseUrl_eq_ok_iff.2 ⟨?_, parsed, host, read, has, filled⟩
    rw [withScheme_of_holds marked, dropFinal_of_getLast?_ne noSlash]
  · obtain ⟨text, answer, made'⟩ := bind_eq_ok_iff.1 located
    exact ⟨text, answer, getLast?_of_baseUrl made'⟩

theorem slash_of_baseUrl_of_oneSlash :
    baseUrl "https://smp.example.org/" = .ok "https://smp.example.org" ∧
      ¬['/', '/'] <:+ "https://smp.example.org/".toList ∧
      baseUrl "https://smp.example.org" = .ok "https://smp.example.org" := by
  have made : baseUrl "https://smp.example.org/" = .ok "https://smp.example.org" :=
    baseUrl_eq_ok_iff.2 ⟨by decide +kernel, _, _, Url.parse_exampleHost, rfl, by decide⟩
  have single : ¬['/', '/'] <:+ "https://smp.example.org/".toList := by decide
  exact ⟨made, single, (slash_of_baseUrl made).2.2.1.2 single⟩

/-- **One of two slashes is dropped**, so that the base URL ends with the other, which its own base
URL does not have. -/
theorem baseUrl_of_two_slashes :
    baseUrl "http://smp.example.org//" = .ok "http://smp.example.org/" ∧
      baseUrl "http://smp.example.org/" = .ok "http://smp.example.org" := by
  have read : Url.parse "http://smp.example.org/".toList =
      .ok (Url.atHost "http".toList (.domain "smp.example.org".toList) none "/".toList) :=
    Url.parse_of_exampleName (show _ = some (_, "//".toList ++ ("smp.example.org".toList ++ "/".toList))
      by decide) rfl rfl rfl
  have read' : Url.parse "http://smp.example.org".toList =
      .ok (Url.atHost "http".toList (.domain "smp.example.org".toList) none []) :=
    Url.parse_of_exampleName (show _ = some (_, "//".toList ++ ("smp.example.org".toList ++ []))
      by decide) rfl rfl rfl
  exact ⟨baseUrl_eq_ok_iff.2 ⟨by decide +kernel, _, _, read, rfl, by decide⟩,
    baseUrl_eq_ok_iff.2 ⟨by decide +kernel, _, _, read', rfl, by decide⟩⟩

/-! ### URLs that are kept -/

/-- **A URL is kept, but for a slash at its end, exactly if it holds `://`**, and what is kept leads
to the same place, if it does not then end with a character that does not count. A URL without that
mark gets another scheme in front. -/
theorem baseUrl_of_url {whole : Url} (isUrl : Url.parse resolved.toList = .ok whole)
    (made : baseUrl resolved = .ok url) :
    (url = resolved ∨ url ++ "/" = resolved ↔ holds "://".toList resolved.toList = true) ∧
      (holds "://".toList resolved.toList = true →
        (∀ c ∈ url.toList.getLast?, Url.isEdge c = false) →
          ∃ parsed, Url.parse url.toList = .ok parsed ∧ parsed.scheme = whole.scheme ∧
            parsed.authority = whole.authority) ∧
      (holds "://".toList resolved.toList = false →
        url.toList = "http://".toList ++ dropFinal '/' resolved.toList ∧
          ∃ parsed, Url.parse url.toList = .ok parsed ∧ parsed.scheme = "http".toList) := by
  obtain ⟨written, parsed, host, read, has, filled⟩ := baseUrl_eq_ok_iff.1 made
  have kept : holds "://".toList resolved.toList = true → url = resolved ∨ url ++ "/" = resolved := by
    intro marked
    rw [withScheme_of_holds marked] at written
    rcases dropFinal_cases '/' resolved.toList with ⟨_, same⟩ | whole
    · exact .inl (String.toList_inj.1 (written.trans same))
    · refine .inr (String.toList_inj.1 ?_)
      rw [String.toList_append, written]
      exact whole.symm
  refine ⟨⟨fun same => ?_, kept⟩, fun marked counts => ?_, fun unmarked => ?_⟩
  · by_contra unmarked
    rw [withScheme_of_not_holds unmarked] at written
    have least := length_le_dropFinal '/' ("http://".toList ++ resolved.toList)
    have seven : "http://".toList.length = 7 := rfl
    rw [← written, List.length_append, seven] at least
    rcases same with rfl | same
    · omega
    · rw [← same, String.toList_append, List.length_append] at least
      omega
  · rcases kept marked with rfl | same
    · exact ⟨whole, isUrl, rfl, rfl⟩
    · rw [← same, String.toList_append] at isUrl
      obtain ⟨scheme, authority⟩ := Url.parse_concat_slash counts read (by rw [has]; simp) isUrl
      exact ⟨parsed, read, scheme.symm, authority.symm⟩
  · rw [withScheme_of_not_holds (Bool.eq_false_iff.1 unmarked)] at written
    have nonempty : resolved.toList ≠ [] := by
      intro empty
      rw [empty] at isUrl
      cases isUrl
    rw [dropFinal_append nonempty] at written
    rw [written] at read ⊢
    exact ⟨rfl, parsed, read, Url.scheme_of_parse_http read⟩

/-- A control character in front of the slash is a part of the host, and at the end it is not. -/
example :
    (Url.parse "x://h\x01/".toList).toOption.bind Url.hostText? = some "h%01".toList ∧
      (Url.parse "x://h\x01".toList).toOption.bind Url.hostText? = some "h".toList := by
  decide +kernel

theorem baseUrl_of_url_of_slash : ∃ parsed,
    Url.parse "https://smp.example.org".toList = .ok parsed ∧
      parsed.scheme = "https".toList ∧ parsed.hostText? = some "smp.example.org".toList := by
  have isUrl : Url.parse "https://smp.example.org/".toList =
      .ok (Url.atHost "https".toList (.domain "smp.example.org".toList) none "/".toList) :=
    Url.parse_of_exampleName (show _ = some (_, "//".toList ++ ("smp.example.org".toList ++ "/".toList))
      by decide) rfl rfl rfl
  have made : baseUrl "https://smp.example.org/" = .ok "https://smp.example.org" :=
    baseUrl_eq_ok_iff.2 ⟨by decide +kernel, _, _, Url.parse_exampleHost, rfl, by decide⟩
  obtain ⟨parsed, found, scheme, authority⟩ :=
    (baseUrl_of_url isUrl made).2.1 (by decide +kernel) fun c last => by cases last; decide
  refine ⟨parsed, found, scheme, ?_⟩
  rw [Url.hostText?, authority]
  rfl

/-- **A URL with one slash behind its scheme gets another scheme in front**, and its scheme is taken
for the host. -/
theorem baseUrl_of_one_slash :
    (∃ whole, Url.parse "https:/smp.example.org/".toList = .ok whole ∧
      whole.hostText? = some "smp.example.org".toList) ∧
      baseUrl "https:/smp.example.org/" = .ok "http://https:/smp.example.org" ∧
      ∃ parsed, Url.parse "http://https:/smp.example.org".toList = .ok parsed ∧
        parsed.hostText? = some "https".toList := by
  have isUrl : Url.parse "https:/smp.example.org/".toList =
      .ok (Url.atHost "https".toList (.domain "smp.example.org".toList) none "/".toList) :=
    Url.parse_of_exampleName (show _ = some (_, "/".toList ++ ("smp.example.org".toList ++ "/".toList))
      by decide) rfl rfl rfl
  have read : Url.parse "http://https:/smp.example.org".toList =
      .ok (Url.atHost "http".toList (.domain "https".toList) none "/smp.example.org".toList) :=
    Url.parse_of_isVerbatim (by decide)
      ⟨.inr ⟨[], rfl⟩, List.forall_mem_singleton.2 (by decide), rfl, rfl⟩
      (show _ = some (_, "//".toList ++ ("https".toList ++ [':'] ++ "/smp.example.org".toList))
        by decide) rfl rfl
  exact ⟨⟨_, isUrl, rfl⟩, baseUrl_eq_ok_iff.2 ⟨by decide +kernel, _, _, read, rfl, by decide⟩,
    _, read, rfl⟩

end

end ServiceLocation.Locator
