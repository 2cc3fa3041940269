import ServiceLocation.Proofs.Idna.AsciiForm
import ServiceLocation.Proofs.Result
import ServiceLocation.Proofs.Text.RunLength
import ServiceLocation.Text.AsciiCase

/-!
**Domain names of ASCII characters.**

* `mapText_of_isAscii`: the mapping of characters lowers the letters of ASCII and leaves its other
  characters as they are;
* `eq_lowerAscii_of_toAscii?`: so **the ASCII form of a name of ASCII characters is that name in lower
  case**, if there is one;
* `toAscii?_of_isHostChar`: and there is one if no label claims to be coded and no character is
  forbidden.
-/

namespace ServiceLocation

open ServiceLocation.Text

/-! ### Characters of ASCII in the tables -/

namespace Unicode

/-- A character of ASCII is no mark. -/
theorem combiningClass_of_lt {code : Nat} (ascii : code < 128) : combiningClass code = 0 := by
  have read : combiningClass code = valueOf 0 (("0.lc".toList.splitOn ' ').map
      (Partition.readRun number36)) code :=
    Partition.valueAt_of_start (prefix_toList_join rfl (by decide))
      (Nat.lt_trans ascii (by decide))
  rw [read]
  rfl

/-- Nothing composes with a character of ASCII behind it. -/
theorem le_second_of_mem_composites {pair : Composite} (listed : pair ∈ composites) :
    128 ≤ pair.second := by
  have all : composites.all (fun pair => decide (128 ≤ pair.second)) = true := by
    unfold composites
    rw [List.all_map]
    repeat
      refine all_splitOn_join_cons rfl (by decide +kernel) ?_
    exact all_splitOn_join_singleton rfl (by decide +kernel)
  exact of_decide_eq_true (List.all_eq_true.1 all pair listed)

theorem compose?_of_lt {first second : Nat} (ascii : first < 128) (ascii' : second < 128) :
    compose? first second = none := by
  have noSyllable : Hangul.join? first second = none := by
    have noLead : (Hangul.leadBase ≤ first) = False := by
      have : ¬ 0x1100 ≤ first := by omega
      simpa [Hangul.leadBase] using this
    have noOpen : (Hangul.syllableBase ≤ first) = False := by
      have : ¬ 0xAC00 ≤ first := by omega
      simpa [Hangul.syllableBase] using this
    simp [Hangul.join?, Hangul.isSyllable, noLead, noOpen]
  have noPair : composites.find? (fun pair => pair.first == first && pair.second == second) = none := by
    rw [List.find?_eq_none]
    intro pair listed is
    have second' := le_second_of_mem_composites listed
    simp only [Bool.and_eq_true, beq_iff_eq] at is
    omega
  rw [compose?, noSyllable, noPair]
  rfl

theorem decompose_of_lt {codes : List Nat} (ascii : ∀ code ∈ codes, code < 128) :
    decompose codes = codes := by
  induction codes with
  | nil => rfl
  | cons code rest ih =>
    obtain ⟨here, later⟩ := List.forall_mem_cons.1 ascii
    have small : code < 0xC0 := Nat.lt_trans here (by decide)
    rw [decompose, List.flatMap_cons, if_pos small, ← decompose, ih later, List.singleton_append]

theorem orderMarks_of_lt {codes : List Nat} (ascii : ∀ code ∈ codes, code < 128) :
    orderMarks codes = codes := by
  induction codes with
  | nil => rfl
  | cons code rest ih =>
    obtain ⟨_, later⟩ := List.forall_mem_cons.1 ascii
    rw [orderMarks, List.foldr_cons, ← orderMarks, ih later]
    cases rest with
    | nil => rfl
    | cons next rest =>
      have noMark := combiningClass_of_lt (List.forall_mem_cons.1 later).1
      rw [insertMark, if_neg fun is => is.1 noMark]

theorem composeFrom_of_lt {base : Nat} {codes : List Nat} (here : base < 128)
    (later : ∀ code ∈ codes, code < 128) : composeFrom base [] codes = base :: codes := by
  induction codes generalizing base with
  | nil => rfl
  | cons code rest ih =>
    obtain ⟨next, behind⟩ := List.forall_mem_cons.1 later
    unfold composeFrom
    dsimp only
    rw [if_neg Bool.false_ne_true, compose?_of_lt here next]
    dsimp only
    rw [if_pos (combiningClass_of_lt next), ih next behind, List.reverse_nil, List.singleton_append]

/-- **A text of ASCII characters is in the composed normal form.** -/
theorem composed_of_lt {codes : List Nat} (ascii : ∀ code ∈ codes, code < 128) :
    composed codes = codes := by
  rw [composed, decompose_of_lt ascii, orderMarks_of_lt ascii]
  cases codes with
  | nil => rfl
  | cons base rest =>
    obtain ⟨here, later⟩ := List.forall_mem_cons.1 ascii
    exact composeFrom_of_lt here later

/-- Where the table of classes tells those of ASCII: its first line, and a part of the second. -/
def BidiClass.asciiStart : List Char :=
  "BN.9 S.1 B.1 S.1 WS.1 B.1 BN.e B.3 S.1 WS.1 ON.2 ET.3 ON.5 ES.1 CS.1 ES.1 CS.2 EN.a CS.1 ".toList ++
    "ON.6 L.q ON.6 L.q ON.4 BN.6".toList

/-- No character of ASCII is written from right to left. -/
theorem BidiClass.ofChar_of_lt {c : Char} (ascii : c.toNat < 128) :
    ofChar c ∉ [.rightToLeft, .arabicLetter, .arabicNumber] := by
  have read : ofChar c = valueOf .leftToRight
      ((asciiStart.splitOn ' ').map (Partition.readRun ofShortName)) c.toNat :=
    Partition.valueAt_of_start
      (append_prefix_toList_join rfl
        (show asciiStart ++ [' '] = _ ++ "ON.6 L.q ON.6 L.q ON.4 BN.6 ".toList by decide +kernel)
        (prefix_toList_join rfl (by decide)))
      (Nat.lt_of_lt_of_le ascii (by decide +kernel))
  have every : ∀ run ∈ (asciiStart.splitOn ' ').map (Partition.readRun ofShortName),
      run.1 ∉ [.rightToLeft, .arabicLetter, .arabicNumber] := by decide +kernel
  rw [read]
  exact forall_valueOf
    (P := fun value : BidiClass => value ∉ [.rightToLeft, .arabicLetter, .arabicNumber])
    (show leftToRight ∉ [rightToLeft, arabicLetter, arabicNumber] by decide) every _

end Unicode

/-! ### Names -/

namespace Idna

open ServiceLocation.Unicode

theorem toNat_lt_of_isAscii {c : Char} (ascii : isAscii c = true) : c.toNat < 128 :=
  of_decide_eq_true ascii

/-- A character of ASCII is mapped to itself in lower case. -/
theorem mapChar?_of_isAscii {c : Char} (ascii : isAscii c = true) :
    mapChar? c = some [c.toLower.toNat] := by
  have below := toNat_lt_of_isAscii ascii
  have read : Status.ofChar c = valueOf .disallowed (("v.1t sw.q v.11".toList.splitOn ' ').map
      (Partition.readRun Status.read)) c.toNat :=
    Partition.valueAt_of_start (prefix_toList_join rfl (by decide))
      (Nat.lt_of_lt_of_le below (by decide))
  rw [mapChar?, read]
  exact of_toNat_lt (P := fun c => (valueOf Status.disallowed
    (("v.1t sw.q v.11".toList.splitOn ' ').map (Partition.readRun Status.read)) c.toNat).replacement?
      c.toNat = some [c.toLower.toNat]) (by decide) below

/-- A lowered character of ASCII is one. -/
theorem isAscii_toLower {c : Char} (ascii : isAscii c = true) : isAscii c.toLower = true :=
  of_toNat_lt (P := fun c => isAscii c.toLower = true) (by decide) (toNat_lt_of_isAscii ascii)

/-- **The mapping of characters lowers a name of ASCII characters.** -/
theorem mapText_of_isAscii {text : List Char} (ascii : ∀ c ∈ text, isAscii c = true) :
    mapText text = some (lowerAscii text) := by
  have mapped : text.mapM mapChar? = some (text.map fun c => [c.toLower.toNat]) :=
    mapM_of_forall fun c member => mapChar?_of_isAscii (ascii c member)
  have flat : (text.map fun c => [c.toLower.toNat]).flatten = (lowerAscii text).map Char.toNat := by
    rw [← List.flatMap_def, lowerAscii, List.map_map]
    exact List.map_eq_flatMap.symm
  have below : ∀ code ∈ (lowerAscii text).map Char.toNat, code < 128 := by
    intro code member
    obtain ⟨lowered, inside, rfl⟩ := List.mem_map.1 member
    obtain ⟨c, listed, rfl⟩ := List.mem_map.1 inside
    exact toNat_lt_of_isAscii (isAscii_toLower (ascii c listed))
  have back : ((lowerAscii text).map Char.toNat).map Char.ofNat = lowerAscii text := by
    rw [List.map_map]
    exact List.map_id'' Char.ofNat_toNat _
  rw [mapText, mapped, Option.map_some, flat, composedText, composed_of_lt below, back]

/-- A label of ASCII characters is its own ASCII form, coded or not. -/
theorem ascii_of_readLabel? {text : List Char} {label : Label} (ascii : text.all isAscii = true)
    (read : readLabel? text = some label) : label.ascii = text := by
  unfold readLabel? at read
  split at read
  · obtain ⟨characters, _, rfl⟩ := Option.map_eq_some_iff.1 read
    rfl
  · split at read
    · cases read
    · rw [← Option.some.inj read]

/-- A part of a text of ASCII characters consists of them. -/
theorem all_isAscii_of_mem_splitOn {text : List Char} (ascii : ∀ c ∈ text, isAscii c = true) :
    ∀ piece ∈ text.splitOn '.', piece.all isAscii = true := by
  intro piece listed
  rw [List.all_eq_true]
  exact fun c inside => ascii c (mem_of_mem_splitOn listed inside)

/-- **The ASCII form of a name of ASCII characters is that name in lower case**, if there is one. -/
theorem eq_lowerAscii_of_toAscii? {name ascii : List Char} (isAscii : ∀ c ∈ name, isAscii c = true)
    (read : toAscii? name = some ascii) : ascii = lowerAscii name := by
  have lowered : ∀ c ∈ lowerAscii name, Idna.isAscii c = true := by
    intro c member
    obtain ⟨d, listed, rfl⟩ := List.mem_map.1 member
    exact isAscii_toLower (isAscii d listed)
  unfold toAscii? at read
  rw [mapText_of_isAscii isAscii, Option.bind_eq_bind, Option.bind_some, Option.bind_eq_bind,
    Option.bind_eq_some_iff] at read
  obtain ⟨labels, all, rest⟩ := read
  split at rest
  · cases rest
  · have same : labels.map (·.ascii) = (lowerAscii name).splitOn '.' :=
      map_of_mapM (fun piece listed label found =>
        ascii_of_readLabel? (all_isAscii_of_mem_splitOn lowered piece listed) found) all
    rw [← Option.some.inj rest, same, List.intercalate_splitOn]

/-- What holds of the characters of ASCII that a name may hold holds of every such character. -/
theorem of_isHostChar {P : Char → Prop} {c : Char} (allowed : IsHostChar c)
    (all : ∀ code < 128, IsHostChar (Char.ofNat code) → P (Char.ofNat code)) : P c :=
  of_toNat_lt (P := fun c => IsHostChar c → P c) all (toNat_lt_of_isAscii allowed.1) allowed

/-- A lowered character that a name may hold is one. -/
theorem isHostChar_toLower {c : Char} (allowed : IsHostChar c) : IsHostChar c.toLower :=
  of_isHostChar (P := fun c => IsHostChar c.toLower) allowed (by decide)

/-- A character that is lowered to one that a name may hold is such a character. -/
theorem isHostChar_of_toLower {c : Char} (lowered : IsHostChar c.toLower) : IsHostChar c := by
  by_cases below : c.toNat < 128
  · exact of_toNat_lt (P := fun c => IsHostChar c.toLower → IsHostChar c) (by decide) below lowered
  · have kept : c.toLower = c := by
      unfold Char.toLower
      refine dif_neg fun capital => below ?_
      exact Nat.lt_of_le_of_lt (UInt32.le_iff_toNat_le.1 capital.2) (by decide)
    rwa [kept] at lowered

/-- **A name that holds no forbidden character has an ASCII form**, unless a label claims to be
coded. -/
theorem toAscii?_of_isHostChar {name : List Char} (allowed : ∀ c ∈ name, IsHostChar c)
    (uncoded : ∀ label ∈ (lowerAscii name).splitOn '.', codedStart.isPrefixOf label = false) :
    toAscii? name = some (lowerAscii name) := by
  have lowered : ∀ c ∈ lowerAscii name, IsHostChar c := by
    intro c member
    obtain ⟨d, listed, rfl⟩ := List.mem_map.1 member
    exact isHostChar_toLower (allowed d listed)
  have read : ((lowerAscii name).splitOn '.').mapM readLabel? =
      some (((lowerAscii name).splitOn '.').map fun label => { ascii := label, characters := label }) := by
    refine mapM_of_forall fun label listed => ?_
    have clean : label.any isForbidden = false :=
      List.any_eq_false.2 fun c inside => by
        rw [(lowered c (mem_of_mem_splitOn listed inside)).2]
        exact Bool.false_ne_true
    have ascii : label.all isAscii = true :=
      List.all_eq_true.2 fun c inside => (lowered c (mem_of_mem_splitOn listed inside)).1
    rw [readLabel?, uncoded label listed, clean, ascii]
    rfl
  have leftToRight : (((lowerAscii name).splitOn '.').map fun label =>
      ({ ascii := label, characters := label } : Label)).any
        (·.characters.any isRightToLeft) = false := by
    rw [List.any_map, List.any_eq_false]
    intro label listed
    rw [Bool.not_eq_true, Function.comp_apply, List.any_eq_false]
    intro c inside
    have below := toNat_lt_of_isAscii (lowered c (mem_of_mem_splitOn listed inside)).1
    simpa [isRightToLeft] using BidiClass.ofChar_of_lt below
  unfold toAscii?
  rw [mapText_of_isAscii fun c member => (allowed c member).1]
  show (((lowerAscii name).splitOn '.').mapM readLabel?).bind _ = _
  rw [read]
  show (if _ then none else some _) = some _
  rw [leftToRight, Bool.false_and, if_neg Bool.false_ne_true, List.map_map]
  show some (List.intercalate ['.'] (List.map id _)) = _
  rw [List.map_id, List.intercalate_splitOn]

end Idna

end ServiceLocation
