import ServiceLocation.Participant.Json
import ServiceLocation.Proofs.Json.Reader

/-!
**Participants survive JSON.**

* `Participant.isText_json`: what a participant is written as is a text of its object;
* `Participant.known`: the members of an object that say something about a participant;
* `Participant.ofMembers?_of_known`: **the others do not count, and neither does the order**;
* `Participant.json_exact`: **so a participant is read back**, from any text that says the same.
-/

namespace ServiceLocation.Participant

open ServiceLocation.Json

/-- A member of an object: a key with a string. -/
def textMember (key text : String) : Option (List Char) × Value := (some key.toList, .ofText text)

/-! ### Writing -/

theorem writes_textMember (key text : String) :
    Writes (.member (textMember key text)) (quoted key.toList ++ ':' :: quoted text.toList) :=
  .member (stringText_quoted key.toList) (List.forall_mem_nil _) (List.forall_mem_nil _)
    (.string (stringText_quoted text.toList))

/-- **What a participant is written as is a text of its object.** -/
theorem isText_json (participant : Participant) :
    IsText participant.json.toList
      (.object [textMember schemeKey participant.scheme, textMember valueKey participant.value]) := by
  have nothing : Blanks [] := List.forall_mem_nil _
  have last := Writes.lastMember nothing (writes_textMember valueKey participant.value) nothing
  have both := Writes.moreMembers nothing (writes_textMember schemeKey participant.scheme) nothing last
  have whole := IsText.blanks nothing (.object both) nothing
  rw [json, String.toList_ofList]
  simpa [Value.ofMembers, Value.ofText, Value.text, Value.memberTexts, joinedBy] using whole

/-! ### Members that count -/

/-- The members of an object that say something about a participant. -/
def known (members : List (Option (List Char) × Value)) : List (Option (List Char) × Value) :=
  members.filter fun member => member.1 == some schemeKey.toList || member.1 == some valueKey.toList

/-- What a known key has is found among the members that count. -/
theorem valuesOf_known {key : String} (isKnown : key = schemeKey ∨ key = valueKey)
    (members : List (Option (List Char) × Value)) :
    valuesOf key (known members) = valuesOf key members := by
  unfold valuesOf known
  rw [List.filter_filter]
  congr 1
  refine List.filter_congr fun member _ => ?_
  rcases isKnown with rfl | rfl
  · cases is : member.1 == some schemeKey.toList <;> simp
  · cases is : member.1 == some valueKey.toList <;> simp

theorem onlyText?_perm {values others : List Value} (perm : values.Perm others)
    (absent : Option String) : onlyText? absent values = onlyText? absent others := by
  have length := perm.length_eq
  match values, others with
  | [], [] => rfl
  | [value], [other] =>
    rw [List.singleton_perm_singleton.1 perm]
  | _ :: _ :: _, _ :: _ :: _ => rfl

/-- **Other members do not count, and neither does the order**, if every key is a text. -/
theorem ofMembers?_of_known {members others : List (Option (List Char) × Value)}
    (keys : ∀ member ∈ members, member.1.isSome) (otherKeys : ∀ member ∈ others, member.1.isSome)
    (perm : (known members).Perm (known others)) : ofMembers? members = ofMembers? others := by
  have same (key : String) (isKnown : key = schemeKey ∨ key = valueKey) (absent : Option String) :
      onlyText? absent (valuesOf key members) = onlyText? absent (valuesOf key others) := by
    rw [← valuesOf_known isKnown members, ← valuesOf_known isKnown others]
    exact onlyText?_perm ((perm.filter _).map _) absent
  rw [ofMembers?, ofMembers?, if_pos (List.all_eq_true.2 keys), if_pos (List.all_eq_true.2 otherKeys),
    same schemeKey (.inl rfl), same valueKey (.inr rfl)]

theorem ofJson?_of_isText {text : String} {members : List (Option (List Char) × Value)}
    (isText : IsText text.toList (.object members)) : ofJson? text = ofMembers? members := by
  rw [ofJson?, Value.ofText?_eq_some_iff.2 isText]
  rfl

theorem ofMembers?_value (value : String) :
    ofMembers? [textMember valueKey value] = some (ofValue value) := by
  have other : valueKey.toList ≠ schemeKey.toList := by decide
  simp [ofMembers?, valuesOf, textMember, onlyText?, textOf?, Value.ofText, ofValue, other]

theorem ofMembers?_both (participant : Participant) :
    ofMembers? [textMember schemeKey participant.scheme, textMember valueKey participant.value] =
      some participant := by
  have other : valueKey.toList ≠ schemeKey.toList := by decide
  simp [ofMembers?, valuesOf, textMember, onlyText?, textOf?, Value.ofText, other, other.symm]

/-- **Participants survive JSON.** A participant is read from what it is written as. From any text of an
object whose keys are texts, whatever its spelling, a participant without scheme is read if no member but
one of those that count is the value; a participant with scheme and value if these two are the members
that count, in any order; and always the same as from any other object with the same members that count,
in any order. -/
theorem json_exact :
    (∀ participant : Participant, ofJson? participant.json = some participant) ∧
    ∀ text members, IsText text.toList (.object members) → (∀ member ∈ members, member.1.isSome) →
      (∀ value, known members = [textMember valueKey value] → ofJson? text = some (ofValue value)) ∧
      (∀ scheme value,
        (known members).Perm [textMember schemeKey scheme, textMember valueKey value] →
          ofJson? text = some { scheme, value }) ∧
      ∀ other others, IsText other.toList (.object others) → (∀ member ∈ others, member.1.isSome) →
        (known members).Perm (known others) → ofJson? text = ofJson? other := by
  refine ⟨fun participant => ?_, fun text members isText keys => ⟨fun value only => ?_,
    fun scheme value both => ?_, fun other others isOther otherKeys perm => ?_⟩⟩
  · rw [ofJson?_of_isText (isText_json participant), ofMembers?_both]
  · have counts : known [textMember valueKey value] = [textMember valueKey value] := by
      simp [known, textMember]
    have same : (known members).Perm (known [textMember valueKey value]) := by rw [only, counts]
    rw [ofJson?_of_isText isText, ofMembers?_of_known keys (by simp [textMember]) same,
      ofMembers?_value]
  · have counts : known [textMember schemeKey scheme, textMember valueKey value] =
        [textMember schemeKey scheme, textMember valueKey value] := by
      simp [known, textMember]
    rw [← counts] at both
    rw [ofJson?_of_isText isText, ofMembers?_of_known keys (by simp [textMember]) both]
    exact ofMembers?_both { scheme, value }
  · rw [ofJson?_of_isText isText, ofJson?_of_isText isOther, ofMembers?_of_known keys otherKeys perm]

/-- With other members that hold any values, with a character by its number, and with the two members that
count the other way round. -/
theorem json_exact_of_spellings :
    ofJson? " \x7b\"x\" : [null, -1.5e3],\n\"value\":\"\\u0041\"\x7d" = some (ofValue "A") ∧
      ofJson? "\x7b\"value\":\"v\\n\",\"y\":\x7b\x7d,\"scheme\":\"s\"\x7d" =
        some { scheme := "s", value := "v\n" } ∧
      ofJson? "\x7b\"value\":\"v\\n\",\"y\":\x7b\x7d,\"scheme\":\"s\"\x7d" =
        ofJson? (json { scheme := "s", value := "v\n" }) := by
  have isSingle : IsText " \x7b\"x\" : [null, -1.5e3],\n\"value\":\"\\u0041\"\x7d".toList (.object
      [(some ['x'], .array [.null, .number "-1.5e3".toList]), textMember valueKey "A"]) :=
    Value.ofText?_eq_some_iff.1 (by with_unfolding_all rfl)
  have isBoth : IsText "\x7b\"value\":\"v\\n\",\"y\":\x7b\x7d,\"scheme\":\"s\"\x7d".toList (.object
      [textMember valueKey "v\n", (some ['y'], .object []), textMember schemeKey "s"]) :=
    Value.ofText?_eq_some_iff.1 (by with_unfolding_all rfl)
  have ofSingle := (json_exact.2 _ _ isSingle (by decide)).1 "A" rfl
  obtain ⟨_, ofBoth, sameAs⟩ := json_exact.2 _ _ isBoth (by decide)
  have swapped :
      (known [textMember valueKey "v\n", (some ['y'], .object []), textMember schemeKey "s"]).Perm
        [textMember schemeKey "s", textMember valueKey "v\n"] := .swap _ _ []
  have ofOther := sameAs _ _ (isText_json { scheme := "s", value := "v\n" }) (by decide) swapped
  exact ⟨ofSingle, ofBoth "s" "v\n" swapped, ofOther⟩

end ServiceLocation.Participant
