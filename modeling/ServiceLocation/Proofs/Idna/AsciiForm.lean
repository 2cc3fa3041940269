import ServiceLocation.Idna.Domain
import ServiceLocation.Proofs.Text.Characters
import ServiceLocation.Proofs.Text.Pieces

/-!
**The characters of domain names in their ASCII form.**

* `Punycode.mem_of_decode?`: a coded label that can be read holds digits, a hyphen, and characters
  of the label it codes;
* `Punycode.isHostChar_of_mem_encode`: the code of a label holds digits, a hyphen, and characters of
  the label;
* `isHostChar_of_mem_readLabel?`, `isHostChar_of_mem_toAscii?`: so **the ASCII form of a name holds
  no character that is forbidden in a host**.

A label that is given in its coded form is not itself looked through for forbidden characters. It
holds none because it is decoded, and the characters it codes are looked through.
-/

namespace ServiceLocation.Idna

open ServiceLocation.Text

/-- A character that a domain name in its ASCII form may hold. -/
def IsHostChar (c : Char) : Prop := isAscii c = true ∧ isForbidden c = false

instance (c : Char) : Decidable (IsHostChar c) := inferInstanceAs (Decidable (_ ∧ _))

/-! ### Coded labels -/

namespace Punycode

theorem isHostChar_digit : ∀ value < 36, IsHostChar (digit value) := by
  decide

theorem isHostChar_of_value? {c : Char} (isDigit : (value? c).isSome = true) : IsHostChar c := by
  have below : c.toNat < 128 := by
    unfold value? at isDigit
    simp only [Char.le_def, UInt32.le_iff_toNat_le] at isDigit
    split at isDigit
    · rename_i lower
      exact Nat.lt_of_le_of_lt lower.2 (by decide)
    · split at isDigit
      · rename_i upper
        exact Nat.lt_of_le_of_lt upper.2 (by decide)
      · split at isDigit
        · rename_i decimal
          exact Nat.lt_of_le_of_lt decimal.2 (by decide)
        · cases isDigit
  have all : ∀ code < 128, (value? (Char.ofNat code)).isSome = true →
      IsHostChar (Char.ofNat code) := by
    decide
  rw [← Char.ofNat_toNat c] at isDigit ⊢
  exact all c.toNat below isDigit

/-- A step is read from digits. -/
theorem readStep_digits {bias index weight place next : Nat} {text rest : List Char}
    (step : readStep bias index weight place text = some (next, rest)) :
    ∃ digits, text = digits ++ rest ∧ ∀ c ∈ digits, (value? c).isSome = true := by
  induction text generalizing index weight place with
  | nil => cases step
  | cons c text ih =>
    rw [readStep] at step
    split at step
    · cases step
    · rename_i value isDigit
      have first : (value? c).isSome = true := by rw [isDigit]; rfl
      dsimp only at step
      split at step
      · cases step
      · split at step
        · obtain ⟨_, same⟩ := Prod.mk.inj (Option.some.inj step)
          exact ⟨[c], by rw [same]; rfl, List.forall_mem_cons.2 ⟨first, by simp⟩⟩
        · split at step
          · cases step
          · obtain ⟨digits, same, later⟩ := ih step
            exact ⟨c :: digits, by rw [same]; rfl, List.forall_mem_cons.2 ⟨first, later⟩⟩

/-- Insertions are read from digits, and none of the characters known before is lost. -/
theorem decodeFrom_digits {known text result : List Char} {code index bias : Nat}
    (decoded : decodeFrom known code index bias text = some result) :
    (∀ c ∈ text, (value? c).isSome = true) ∧ ∀ c ∈ known, c ∈ result := by
  fun_induction decodeFrom known code index bias text with
  | case1 known code index bias text empty =>
    rw [List.isEmpty_iff] at empty
    subst empty
    rw [Option.some.inj decoded]
    exact ⟨List.forall_mem_nil _, fun c member => member⟩
  | case2 => cases decoded
  | case3 known code index bias text _ next rest step count codeHere position valid ih =>
    obtain ⟨later, kept⟩ := ih decoded
    obtain ⟨digits, same, first⟩ := readStep_digits step
    refine ⟨?_, fun c member => kept c ?_⟩
    · rw [same]
      exact List.forall_mem_append.2 ⟨first, later⟩
    · rw [← List.take_append_drop position known] at member
      rcases List.mem_append.1 member with before | behind
      · exact List.mem_append_left _ before
      · exact List.mem_append_right _ (List.mem_cons_of_mem _ behind)
  | case4 => cases decoded

theorem mem_of_cutAtLastHyphen {text plain coded : List Char}
    (cut : cutAtLastHyphen text = (plain, coded)) :
    ∀ c ∈ text, c ∈ plain ∨ c = '-' ∨ c ∈ coded := by
  unfold cutAtLastHyphen at cut
  dsimp only at cut
  split at cut
  · rename_i hyphen
    obtain ⟨before, behind⟩ := Prod.mk.inj cut
    intro c member
    rw [eq_append_of_mark rfl hyphen.1, before, behind, List.mem_append, List.mem_cons] at member
    exact member
  · obtain ⟨_, all⟩ := Prod.mk.inj cut
    exact fun c member => .inr (.inr (all ▸ member))

/-- **A coded label that can be read holds digits, a hyphen, and characters of the label.** -/
theorem mem_of_decode? {text characters : List Char} (decoded : decode? text = some characters) :
    ∀ c ∈ text, c ∈ characters ∨ c = '-' ∨ (value? c).isSome = true := by
  obtain ⟨digits, kept⟩ := decodeFrom_digits decoded
  intro c member
  rcases mem_of_cutAtLastHyphen rfl c member with plain | hyphen | coded
  · exact .inl (kept c plain)
  · exact .inr (.inl hyphen)
  · exact .inr (.inr (digits c coded))

theorem isHostChar_of_mem_writeStep {bias place step : Nat} :
    ∀ c ∈ writeStep bias place step, IsHostChar c := by
  fun_induction writeStep bias place step with
  | case1 place step limit final =>
    have within : limit ≤ 26 := threshold_le place bias
    exact List.forall_mem_singleton.2 (isHostChar_digit step (by omega))
  | case2 place step limit _ ih =>
    have within : limit ≤ 26 := threshold_le place bias
    have small := Nat.mod_lt (step - limit) (show 0 < 36 - limit by omega)
    exact List.forall_mem_cons.2 ⟨isHostChar_digit _ (by omega), ih⟩

theorem isHostChar_of_mem_pass {plainCount current : Nat} {walk : Walk} (c : Char)
    (before : ∀ c ∈ walk.code, IsHostChar c) :
    ∀ d ∈ (walk.pass plainCount current c).code, IsHostChar d := by
  unfold Walk.pass
  split
  · exact before
  · split
    · exact List.forall_mem_append.2 ⟨before, isHostChar_of_mem_writeStep⟩
    · exact before

theorem isHostChar_of_mem_foldl_pass {plainCount current : Nat} (label : List Char) {walk : Walk}
    (before : ∀ c ∈ walk.code, IsHostChar c) :
    ∀ c ∈ (label.foldl (Walk.pass plainCount current) walk).code, IsHostChar c := by
  induction label generalizing walk with
  | nil => exact before
  | cons c rest ih => exact ih (isHostChar_of_mem_pass c before)

theorem isHostChar_of_mem_through {plainCount : Nat} {label : List Char} {points : List Nat}
    {start : Nat} {walk : Walk} (before : ∀ c ∈ walk.code, IsHostChar c) :
    ∀ c ∈ (walk.through plainCount label start points).code, IsHostChar c := by
  induction points generalizing start walk with
  | nil => exact before
  | cons current rest ih => exact ih (isHostChar_of_mem_foldl_pass label before)

/-- **The code of a label without forbidden characters holds none.** -/
theorem isHostChar_of_mem_encode {label : List Char}
    (allowed : ∀ c ∈ label, isForbidden c = false) : ∀ c ∈ encode label, IsHostChar c := by
  refine isHostChar_of_mem_through ?_
  have plain : ∀ c ∈ label.filter (·.toNat < firstCode), IsHostChar c := fun c member =>
    have ⟨listed, below⟩ := List.mem_filter.1 member
    ⟨below, allowed c listed⟩
  dsimp only
  split
  · exact fun c member => by cases member
  · exact List.forall_mem_append.2 ⟨plain, List.forall_mem_singleton.2 (by decide)⟩

end Punycode

/-! ### Labels and names -/

theorem isHostChar_of_decodeLabel? {coded characters : List Char}
    (ascii : coded.all isAscii = true) (decoded : decodeLabel? coded = some characters) :
    ∀ c ∈ coded, IsHostChar c := by
  unfold decodeLabel? at decoded
  split at decoded
  · cases decoded
  · rw [Option.bind_eq_bind, Option.bind_eq_some_iff] at decoded
    obtain ⟨found, read, checked⟩ := decoded
    dsimp only at checked
    split at checked
    · rename_i passed
      simp only [Bool.and_eq_true] at passed
      intro c member
      rcases Punycode.mem_of_decode? read c member with inside | rfl | isDigit
      · have allowed := List.all_eq_true.1 passed.1.2 c inside
        rw [Bool.and_eq_true] at allowed
        exact ⟨List.all_eq_true.1 ascii c member, by simpa using allowed.1⟩
      · decide
      · exact Punycode.isHostChar_of_value? isDigit
    · cases checked

/-- **The ASCII form of a label holds no forbidden character.** -/
theorem isHostChar_of_mem_readLabel? {text : List Char} {label : Label}
    (read : readLabel? text = some label) : ∀ c ∈ label.ascii, IsHostChar c := by
  have start : ∀ c ∈ codedStart, IsHostChar c := by
    have all : codedStart.all (IsHostChar ·) = true := by decide
    exact fun c member => of_decide_eq_true (List.all_eq_true.1 all c member)
  unfold readLabel? at read
  split at read
  · rename_i coded
    split at read
    · rename_i ascii
      obtain ⟨characters, decoded, same⟩ := Option.map_eq_some_iff.1 read
      rw [← same]
      obtain ⟨rest, whole⟩ := List.isPrefixOf_iff_prefix.1 coded
      have behind : text.drop 4 = rest := by rw [← whole]; rfl
      rw [behind] at decoded
      rw [← whole, List.all_append, Bool.and_eq_true] at ascii
      show ∀ c ∈ text, IsHostChar c
      rw [← whole]
      exact List.forall_mem_append.2 ⟨start, isHostChar_of_decodeLabel? ascii.2 decoded⟩
    · cases read
  · split at read
    · cases read
    · rename_i clean
      have allowed : ∀ c ∈ text, isForbidden c = false := by simpa using clean
      split at read
      · rename_i ascii
        rw [← Option.some.inj read]
        exact fun c member => ⟨List.all_eq_true.1 ascii c member, allowed c member⟩
      · split at read
        · rw [← Option.some.inj read]
          exact List.forall_mem_append.2 ⟨start, Punycode.isHostChar_of_mem_encode allowed⟩
        · cases read

theorem mem_of_mapM {α β : Type} {read : α → Option β} {list : List α} {results : List β}
    (all : list.mapM read = some results) : ∀ result ∈ results, ∃ a ∈ list, read a = some result := by
  induction list generalizing results with
  | nil =>
    rw [List.mapM_nil] at all
    rw [← Option.some.inj all]
    exact fun result member => by cases member
  | cons a rest ih =>
    simp only [List.mapM_cons, Option.bind_eq_bind, Option.bind_eq_some_iff] at all
    obtain ⟨first, here, more, later, same⟩ := all
    rw [← Option.some.inj same]
    refine List.forall_mem_cons.2 ⟨⟨a, List.mem_cons_self, here⟩, fun result member => ?_⟩
    obtain ⟨b, listed, found⟩ := ih later result member
    exact ⟨b, List.mem_cons_of_mem _ listed, found⟩

/-- **The ASCII form of a name holds no forbidden character.** -/
theorem isHostChar_of_mem_toAscii? {name ascii : List Char} (read : toAscii? name = some ascii) :
    ∀ c ∈ ascii, IsHostChar c := by
  unfold toAscii? at read
  simp only [Option.bind_eq_bind, Option.bind_eq_some_iff] at read
  obtain ⟨mapped, _, labels, all, rest⟩ := read
  split at rest
  · cases rest
  · rw [← Option.some.inj rest]
    intro c member
    rcases mem_or_of_mem_intercalate member with dot | ⟨text, listed, inside⟩
    · rw [List.mem_singleton.1 dot]
      decide
    · obtain ⟨label, isLabel, rfl⟩ := List.mem_map.1 listed
      obtain ⟨piece, _, found⟩ := mem_of_mapM all label isLabel
      exact isHostChar_of_mem_readLabel? found c inside

end ServiceLocation.Idna
