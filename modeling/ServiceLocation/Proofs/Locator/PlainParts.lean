import ServiceLocation.Proofs.Locator.Name
import ServiceLocation.Proofs.Text.Blank
import ServiceLocation.Proofs.Text.Numeral
import ServiceLocation.Proofs.Url.Segment

/-!
**Names of plain parts.**

Letters, digits, hyphens, underscores and dots stand in a host as they are, unless a label claims to be
coded or the last one is a number.

* `IsPlain`: a text of these characters, no label of which claims to be coded;
* `IsPlain.append_alphanum`: letters and digits behind such a text make no coded label, since they hold
  no hyphen;
* `IsPlain.append_dot`, `isPlain_dropFinal`: texts are plain with a dot between them, and without one at
  the end;
* `IsPlain.isVerbatim`: **a plain text is a host as it stands if its last label starts with a letter**;
* `dnsName_of_isPlain`: **so no participant is refused by a locator and a zone of plain parts.**
-/

namespace ServiceLocation.Locator

open ServiceLocation.Text

/-! ### Plain texts -/

/-- A text of ASCII letters and digits, hyphens, underscores and dots, no label of which starts with
`xn--` in any case. -/
structure IsPlain (text : List Char) : Prop where
  allowed : ∀ c ∈ text, c.isAlphanum = true ∨ c ∈ ['-', '_', '.']
  uncoded : ∀ label ∈ text.splitOn '.', ¬Idna.codedStart <+: lowerAscii label

instance (text : List Char) : Decidable (IsPlain text) :=
  decidable_of_iff (text.all (fun c => decide (c.isAlphanum = true ∨ c ∈ ['-', '_', '.'])) = true ∧
      ∀ label ∈ text.splitOn '.', ¬Idna.codedStart <+: lowerAscii label)
    ⟨fun ⟨allowed, uncoded⟩ => ⟨List.all_iff_forall_prop.1 allowed, uncoded⟩,
    fun plain => ⟨List.all_iff_forall_prop.2 plain.allowed, plain.uncoded⟩⟩

/-- The last label of a text starts with a letter. -/
def EndsInWord (text : List Char) : Prop :=
  ∃ c rest, (text.splitOn '.').getLast? = some (c :: rest) ∧ c.isAlpha = true

section

variable {text front behind : List Char}

theorem IsPlain.isHostChar (plain : IsPlain text) : ∀ c ∈ text, Idna.IsHostChar c := by
  intro c member
  rcases plain.allowed c member with alphanumeric | mark
  · exact of_isAlphanum (P := Idna.IsHostChar) (by decide) alphanumeric
  · simp only [List.mem_cons, List.not_mem_nil, or_false] at mark
    rcases mark with rfl | rfl | rfl <;> decide

theorem IsPlain.notBlank (plain : IsPlain text) : ∀ c ∈ text, isBlank c = false := by
  intro c member
  exact Idna.of_isHostChar (P := fun c => isBlank c = false) (plain.isHostChar c member) (by decide)

/-- A start that ends with a mark is not made by characters that are other than the mark. -/
theorem prefix_of_prefix_append {mark : Char} {start : List Char} (ends : start.getLast? = some mark)
    (free : mark ∉ behind) (begins : start <+: front ++ behind) : start <+: front := by
  rcases List.prefix_or_prefix_of_prefix begins (List.prefix_append front behind) with
    inside | ⟨more, rfl⟩
  · exact inside
  · have rest : more <+: behind := (List.prefix_append_right_inj front).1 begins
    cases more with
    | nil => exact (List.append_nil front).symm ▸ List.prefix_rfl
    | cons c more =>
      rw [List.getLast?_append_of_ne_nil front (List.cons_ne_nil _ _)] at ends
      exact absurd (rest.subset (List.mem_of_getLast? ends)) free

/-- **Letters and digits behind a plain text make no coded label.** -/
theorem IsPlain.append_alphanum (plain : IsPlain front)
    (alphanumeric : ∀ c ∈ behind, c.isAlphanum = true) : IsPlain (front ++ behind) := by
  have other : ∀ c ∈ behind, c ≠ '.' ∧ c.toLower ≠ '-' := fun c member =>
    of_isAlphanum (P := fun c => c ≠ '.' ∧ c.toLower ≠ '-') (by decide) (alphanumeric c member)
  have noDot : '.' ∉ behind := fun member => (other '.' member).1 rfl
  have noHyphen : '-' ∉ lowerAscii behind := fun member =>
    have ⟨c, inside, is⟩ := List.mem_map.1 member
    (other c inside).2 is
  constructor
  · exact List.forall_mem_append.2 ⟨plain.allowed, fun c member => .inl (alphanumeric c member)⟩
  · obtain ⟨before, last, cut, cut'⟩ := splitOn_append_of_notMem front noDot
    have uncoded := plain.uncoded
    rw [cut] at uncoded
    rw [cut']
    intro label listed coded
    rcases List.mem_append.1 listed with early | final
    · exact uncoded label (List.mem_append_left _ early) coded
    · rw [List.mem_singleton.1 final, lowerAscii, List.map_append] at coded
      exact uncoded last (List.mem_append_right _ List.mem_cons_self)
        (prefix_of_prefix_append rfl noHyphen coded)

theorem IsPlain.append_dot (plain : IsPlain front) (plain' : IsPlain behind) :
    IsPlain (front ++ '.' :: behind) := by
  constructor
  · exact List.forall_mem_append.2
      ⟨plain.allowed, List.forall_mem_cons.2 ⟨by decide, plain'.allowed⟩⟩
  · rw [List.splitOn_append_cons_self]
    exact List.forall_mem_append.2 ⟨plain.uncoded, plain'.uncoded⟩

theorem isPlain_dropFinal (plain : IsPlain text) : IsPlain (dropFinal '.' text) := by
  rcases dropFinal_cases '.' text with ⟨_, same⟩ | whole
  · rwa [same]
  · rw [whole] at plain
    refine ⟨fun c member => plain.allowed c (List.mem_append_left _ member), fun label listed => ?_⟩
    refine plain.uncoded label ?_
    rw [List.splitOn_append_cons_self]
    exact List.mem_append_left _ listed

theorem isAlphanum_of_mem_label (lowercase : Bool) (value : String) :
    ∀ c ∈ (Naming.label lowercase value).toList, c.isAlphanum = true :=
  Naming.of_mem_label (by decide)

theorem EndsInWord.append_dot (front : List Char) (ends : EndsInWord behind) :
    EndsInWord (front ++ '.' :: behind) := by
  obtain ⟨c, rest, isLast, letter⟩ := ends
  have filled := List.splitOn_ne_nil '.' behind
  refine ⟨c, rest, ?_, letter⟩
  rwa [List.splitOn_append_cons_self, List.getLast?_append_of_ne_nil _ filled]

/-! ### Plain texts as hosts -/

theorem splitOn_lowerAscii (text : List Char) :
    (lowerAscii text).splitOn '.' = (text.splitOn '.').map lowerAscii := by
  induction text with
  | nil => rfl
  | cons c rest ih =>
    rw [lowerAscii, List.map_cons, ← lowerAscii]
    by_cases same : c = '.'
    · rw [same, show '.'.toLower = '.' from rfl, splitOn_cons_self, splitOn_cons_self, ih]
      rfl
    · have other : c.toLower ≠ '.' := fun is => same (eq_of_toLower_eq (by decide) is)
      obtain ⟨first, more, whole, cut⟩ := exists_splitOn_cons same rest
      obtain ⟨first', more', whole', cut'⟩ := exists_splitOn_cons other (lowerAscii rest)
      rw [ih, whole] at whole'
      obtain ⟨rfl, rfl⟩ := List.cons.inj whole'
      rw [cut, cut']
      rfl

/-- A text whose last label starts with a letter does not end in a number. -/
theorem endsInNumber_of_endsInWord (ends : EndsInWord text) :
    Url.Host.endsInNumber (lowerAscii text) = false := by
  obtain ⟨c, rest, isLast, letter⟩ := ends
  have last : ((lowerAscii text).splitOn '.').getLast? = some (c.toLower :: lowerAscii rest) := by
    rw [splitOn_lowerAscii, List.getLast?_map, isLast]
    rfl
  obtain ⟨noZero, noDigit, noValue⟩ : c.toLower ≠ '0' ∧ c.toLower.isDigit = false ∧
      (digitValue? 10 c.toLower).isSome = false :=
    Url.of_isAlpha (P := fun c => c.toLower ≠ '0' ∧ c.toLower.isDigit = false ∧
      (digitValue? 10 c.toLower).isSome = false) (by decide) letter
  have noNumber : Url.Host.ipv4Number? (c.toLower :: lowerAscii rest) = none := by
    have decimal : numberOfDigits? 10 (c.toLower :: lowerAscii rest) = none := by
      rw [Option.eq_none_iff_forall_ne_some]
      intro number read
      have digit := isSome_digitValue?_of_numberOfDigits? read c.toLower List.mem_cons_self
      rw [noValue] at digit
      cases digit
    unfold Url.Host.ipv4Number?
    split <;> simp_all
  rw [Url.Host.endsInNumber, Url.Host.parts, last, if_neg (by simp), last]
  simp [noDigit, noNumber]

/-- **A plain text is a host as it stands**, if its last label starts with a letter. -/
theorem IsPlain.isVerbatim (plain : IsPlain text) (ends : EndsInWord text) :
    Url.Host.IsVerbatim text := by
  constructor
  · rintro rfl
    obtain ⟨c, rest, isLast, _⟩ := ends
    cases isLast
  · exact plain.isHostChar
  · rw [splitOn_lowerAscii, List.forall_mem_map]
    intro label listed
    rw [Bool.eq_false_iff, Ne, List.isPrefixOf_iff_prefix]
    exact plain.uncoded label listed
  · exact endsInNumber_of_endsInWord ends

end

/-! ### Names -/

section

variable {locator : Locator} {participant : Participant} {zone : String}

theorem isPlain_ownPart (plainPrefix : IsPlain locator.labelPrefix.toList)
    (plainScheme : IsPlain participant.scheme.toList) : IsPlain (ownPart locator participant) := by
  have front := plainPrefix.append_alphanum (isAlphanum_of_mem_label locator.lowercase participant.value)
  unfold ownPart
  split
  · exact front.append_dot plainScheme
  · rwa [List.append_nil]

/-- The parts of a name, one behind the other. -/
theorem toList_parts (locator : Locator) (participant : Participant) (zone : String) :
    (locator.labelPrefix ++ Naming.label locator.lowercase participant.value ++
      (if locator.addScheme = true ∧ participant.scheme ≠ "" then "." ++ participant.scheme else "") ++
        "." ++ zone).toList = ownPart locator participant ++ ['.'] ++ zone.toList := by
  rw [ownPart, Participant.hasScheme]
  by_cases shown : locator.addScheme = true ∧ participant.scheme ≠ ""
  · simp [shown]
  · rw [if_neg shown, if_neg (by simpa using shown)]
    simp

/-- **No participant is refused** by a locator and a zone whose parts are plain, if the last label of the
zone starts with a letter: the name is the prefix, the label, the scheme if it is asked for and there is
one, and the zone, less a dot at the end. Such a zone is neither empty nor the root. -/
theorem dnsName_of_isPlain (locator : Locator) (participant : Participant) (zone : String)
    (plainPrefix : IsPlain locator.labelPrefix.toList)
    (plainScheme : IsPlain participant.scheme.toList) (plainZone : IsPlain zone.toList)
    (ends : EndsInWord (dropFinal '.' zone.toList)) :
    locator.dnsName participant zone = .ok (String.ofList (dropFinal '.'
      (locator.labelPrefix ++ Naming.label locator.lowercase participant.value ++
        (if locator.addScheme = true ∧ participant.scheme ≠ "" then "." ++ participant.scheme else "") ++
          "." ++ zone).toList)) := by
  have kept : trim zone.toList = zone.toList := trim_of_notBlank plainZone.notBlank
  have ⟨nonempty, noDot⟩ : zone.toList ≠ [] ∧ zone.toList ≠ ['.'] := by
    obtain ⟨c, rest, isLast, _⟩ := ends
    constructor <;> intro is <;> rw [is] at isLast <;> cases isLast
  have root : Zone.isRoot (trim zone.toList) = false := by simp [kept, Zone.isRoot, nonempty, noDot]
  have written : dropFinal '.' (ownPart locator participant ++ ['.'] ++ zone.toList) =
      ownPart locator participant ++ '.' :: dropFinal '.' zone.toList := by
    rw [dropFinal_append nonempty, List.append_assoc]
    rfl
  have plain := (isPlain_ownPart plainPrefix plainScheme).append_dot (isPlain_dropFinal plainZone)
  refine dnsName_eq_ok_iff.2 ⟨root, ?_, checkHost_of_isVerbatim ?_⟩ <;>
    rw [String.toList_ofList, toList_parts, written]
  · rw [kept]
  · exact plain.isVerbatim (ends.append_dot _)

end

/-- A prefix that would be the start of a coded label if a hyphen followed it, and a value of characters
that no host may hold. -/
theorem dnsName_of_isPlain_of_prefixed :
    ({ Locator.ofPreset .esens with labelPrefix := "a.XN-" } : Locator).dnsName
        { scheme := "iso6523-actorid-upis", value := "9915:\u00DF/?#@" } "sml_1.2.example.org." =
      .ok ("a.XN-" ++ Naming.label true "9915:\u00DF/?#@" ++
        ".iso6523-actorid-upis.sml_1.2.example.org") := by
  have named := dnsName_of_isPlain { Locator.ofPreset .esens with labelPrefix := "a.XN-" }
    { scheme := "iso6523-actorid-upis", value := "9915:\u00DF/?#@" } "sml_1.2.example.org."
    (by decide) (by decide) (by decide) ⟨'o', ['r', 'g'], by decide, by decide⟩
  rw [if_pos ⟨rfl, by decide⟩] at named
  rw [named]
  show Except.ok (String.ofList (dropFinal '.' ("a.XN-" ++ Naming.label true "9915:\u00DF/?#@" ++
    ("." ++ "iso6523-actorid-upis") ++ "." ++ "sml_1.2.example.org.").toList)) = _
  generalize Naming.label true "9915:\u00DF/?#@" = label
  have dotted : ("a.XN-" ++ label ++ ("." ++ "iso6523-actorid-upis") ++ "." ++
      "sml_1.2.example.org.").toList =
        ("a.XN-" ++ label ++ ".iso6523-actorid-upis.sml_1.2.example.org").toList ++ ['.'] := by
    simp [String.toList_append]
  rw [dotted, dropFinal_concat, String.ofList_toList]

end ServiceLocation.Locator
