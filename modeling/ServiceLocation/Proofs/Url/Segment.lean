import Mathlib.Data.List.TakeWhile
import ServiceLocation.Proofs.Text.RunLength
import ServiceLocation.Proofs.Url.TrailingSlash

/-!
**Paths with a word as their last segment.**

A word of letters is no segment that a path removes, so it stays where it stands, and what stands
before it is read without it.

* `of_isAlpha`: what holds of ASCII letters, checked one by one;
* `Path.walk_concat`: a segment that stays is put behind what the others come to;
* `Path.exists_ofText_slash`: **a path that is written with a slash and a word behind it ends with that
  word**, and what it starts with does not depend on the word;
* `Path.withoutEmptyStart_concat`, `startsWithDrive_slash`: so it is in the path of a file;
* `Path.slash_suffix_text`: its text ends with the slash and the word.
-/

namespace ServiceLocation.Url

open ServiceLocation.Text

/-! ### Words -/

/-- What holds of the ASCII letters holds of every letter. -/
theorem of_isAlpha {P : Char → Prop}
    (all : ∀ code < 0x80, (Char.ofNat code).isAlpha = true → P (Char.ofNat code)) {c : Char}
    (letter : c.isAlpha = true) : P c := by
  have alphanumeric : c.isAlphanum = true := by simp [Char.isAlphanum, letter]
  exact of_isAlphanum (P := fun c => c.isAlpha = true → P c) (fun code below _ => all code below)
    alphanumeric letter

/-- A text of ASCII letters, which may be empty. -/
def IsWord (word : List Char) : Prop := ∀ c ∈ word, c.isAlpha = true

theorem isWord_nil : IsWord [] := List.forall_mem_nil _

section

variable {word : List Char} (letters : IsWord word)

include letters

/-- Nothing in a word ends it, is skipped, or is encoded. -/
theorem IsWord.plain {P : Char → Prop}
    (all : ∀ code < 0x80, (Char.ofNat code).isAlpha = true → P (Char.ofNat code)) :
    ∀ c ∈ word, P c :=
  fun c member => of_isAlpha all (letters c member)

theorem IsWord.notMem {mark : Char} (other : mark.isAlpha = false) : mark ∉ word := by
  intro member
  rw [letters mark member] at other
  cases other

theorem encode_of_isWord {inSet : Char → Bool}
    (free : ∀ code < 0x80, (Char.ofNat code).isAlpha = true → inSet (Char.ofNat code) = false) :
    encode inSet word = word := by
  have kept : ∀ c ∈ word, inSet c = false := letters.plain free
  unfold encode
  induction word with
  | nil => rfl
  | cons c rest ih =>
    obtain ⟨here, later⟩ := List.forall_mem_cons.1 kept
    rw [List.flatMap_cons, here, if_neg Bool.false_ne_true,
      ih (fun d member => letters d (List.mem_cons_of_mem _ member)) later]
    rfl

end

/-- A text in which neither a query nor a fragment starts. -/
def IsPathText (text : List Char) : Prop := ∀ c ∈ text, endsPath c = false

/-- All of such a text is a path, with a slash and a word behind it too. -/
theorem IsPathText.takeWhile_slash {text word : List Char} (plain : IsPathText text)
    (letters : IsWord word) :
    (text ++ '/' :: word).takeWhile (fun c => !endsPath c) = text ++ '/' :: word := by
  rw [List.takeWhile_eq_self_iff, List.forall_mem_append, List.forall_mem_cons]
  refine ⟨fun c member => by rw [plain c member]; rfl, rfl, ?_⟩
  exact letters.plain (by decide)

namespace Path

section

variable {word : List Char} (letters : IsWord word)

include letters

theorem plainDots_of_isWord : plainDots word = word := by
  induction word with
  | nil => rfl
  | cons c rest ih =>
    obtain ⟨here, later⟩ := List.forall_mem_cons.1 letters
    have noSign : c ≠ '%' := of_isAlpha (P := (· ≠ '%')) (by decide) here
    rw [plainDots, ih later]
    exact fun _ _ is _ => noSign is

theorem isDoubleDot_of_isWord : isDoubleDot word = false := by
  rw [isDoubleDot, plainDots_of_isWord letters, beq_eq_false_iff_ne]
  rintro rfl
  have noDot : '.' ∉ _ := letters.notMem rfl
  exact noDot List.mem_cons_self

theorem isSingleDot_of_isWord : isSingleDot word = false := by
  rw [isSingleDot, plainDots_of_isWord letters, beq_eq_false_iff_ne]
  rintro rfl
  have noDot : '.' ∉ _ := letters.notMem rfl
  exact noDot List.mem_cons_self

theorem isDriveLetter_of_isWord : isDriveLetter word = false := by
  match word with
  | [] => rfl
  | [_] => rfl
  | [letter, mark] =>
    have noMark : mark ≠ ':' ∧ mark ≠ '|' :=
      of_isAlpha (P := fun c => c ≠ ':' ∧ c ≠ '|') (by decide) (letters mark (by simp))
    simp [isDriveLetter, noMark]
  | _ :: _ :: _ :: _ => rfl

theorem normalized_of_isWord (isFile isFirst : Bool) : normalized isFile isFirst word = word := by
  unfold normalized
  rw [isDriveLetter_of_isWord letters, Bool.and_false]
  exact encode_of_isWord letters (by decide)

end

/-- **A word is put behind what the segments before it come to**, and that does not depend on it. -/
theorem walk_concat (isFile : Bool) (passed segments : List (List Char)) :
    ∃ before, ∀ word, IsWord word → walk isFile passed (segments ++ [word]) = word :: before := by
  induction segments generalizing passed with
  | nil =>
    refine ⟨passed, fun word letters => ?_⟩
    rw [List.nil_append, walk, isDoubleDot_of_isWord letters, isSingleDot_of_isWord letters,
      normalized_of_isWord letters]
    rfl
  | cons segment rest ih =>
    have more : ∀ word : List Char, (rest ++ [word]).isEmpty = false := by
      intro word
      cases rest <;> rfl
    simp only [List.cons_append, walk, more, Bool.false_eq_true, if_false]
    split
    · exact ih _
    · split
      · exact ih _
      · exact ih _

theorem cut_of_isWord (isSpecial : Bool) {word : List Char} (letters : IsWord word) :
    cut isSpecial word = [word] := by
  have kept : word.map (fun c => if c == '\\' then '/' else c) = word := by
    refine (List.map_congr_left fun c member => ?_).trans (List.map_id _)
    have noMark : (c == '\\') = false :=
      of_isAlpha (P := fun c => (c == '\\') = false) (by decide) (letters c member)
    rw [noMark]
    rfl
  rw [cut, kept, ite_self, List.splitOn_eq_singleton (letters.notMem rfl)]

theorem ofText_of_isWord (isSpecial isFile : Bool) {word : List Char} (letters : IsWord word) :
    ofText isSpecial isFile word = [word] := by
  rw [ofText, cut_of_isWord isSpecial letters, walk, isDoubleDot_of_isWord letters,
    isSingleDot_of_isWord letters, normalized_of_isWord letters]
  rfl

/-- **The path of a text with a slash and a word behind it ends with the word**, and the rest of it
does not depend on the word. -/
theorem exists_ofText_slash (isSpecial isFile : Bool) (text : List Char) :
    ∃ front, ∀ word, IsWord word →
      ofText isSpecial isFile (text ++ '/' :: word) = front ++ [word] := by
  obtain ⟨before, walked⟩ := walk_concat isFile [] (cut isSpecial text)
  refine ⟨before.reverse, fun word letters => ?_⟩
  rw [ofText, cut_slash, cut_of_isWord isSpecial letters, walked word letters, List.reverse_cons]

/-- So it is if a slash that the text starts with announces the path. -/
theorem exists_readPath_slash (isSpecial : Bool) (text : List Char) :
    ∃ front, ∀ word, IsWord word → readPath isSpecial (text ++ '/' :: word) = front ++ [word] := by
  cases text with
  | nil =>
    refine ⟨[], fun word letters => ?_⟩
    have slash : isSlash isSpecial '/' = true := rfl
    rw [List.nil_append, List.nil_append, readPath, slash, if_pos rfl, ofText_of_isWord _ _ letters]
  | cons c rest =>
    by_cases slash : isSlash isSpecial c = true
    · obtain ⟨front, behind⟩ := exists_ofText_slash isSpecial false rest
      refine ⟨front, fun word letters => ?_⟩
      rw [List.cons_append, readPath, if_pos slash, behind word letters]
    · obtain ⟨front, behind⟩ := exists_ofText_slash isSpecial false (c :: rest)
      refine ⟨front, fun word letters => ?_⟩
      rw [List.cons_append, readPath, if_neg slash]
      exact behind word letters

/-- **The text of a path ends with a slash and its last segment.** -/
theorem slash_suffix_text (front : Path) (word : List Char) :
    '/' :: word <:+ text (front ++ [word]) := by
  rw [text, List.flatMap_append, List.flatMap_singleton]
  exact List.suffix_append _ _

/-! ### Files -/

theorem exists_pathInner_slash {text : List Char} (plain : IsPathText text) :
    ∃ front, ∀ word, IsWord word →
      ofText true true (pathInner (text ++ '/' :: word)) = front ++ [word] := by
  have whole := fun word (letters : IsWord word) => plain.takeWhile_slash letters
  cases text with
  | nil =>
    refine ⟨[], fun word letters => ?_⟩
    rw [pathInner, whole word letters]
    exact ofText_of_isWord true true letters
  | cons c rest =>
    by_cases slash : isSlash true c = true
    · obtain ⟨front, behind⟩ := exists_ofText_slash true true rest
      refine ⟨front, fun word letters => ?_⟩
      rw [pathInner, whole word letters, List.cons_append]
      dsimp only
      rw [if_pos slash, behind word letters]
    · obtain ⟨front, behind⟩ := exists_ofText_slash true true (c :: rest)
      refine ⟨front, fun word letters => ?_⟩
      rw [pathInner, whole word letters, List.cons_append]
      dsimp only
      rw [if_neg slash]
      exact behind word letters

/-- Of a path that ends with a word, empty segments at the start are dropped before the word. -/
theorem withoutEmptyStart_concat (front : Path) (word : List Char) :
    withoutEmptyStart (front ++ [word]) = front.dropWhile List.isEmpty ++ [word] := by
  unfold withoutEmptyStart
  rw [List.dropWhile_append]
  by_cases empty : (front.dropWhile List.isEmpty).isEmpty = true
  · rw [if_pos empty, List.isEmpty_iff.1 empty]
    cases word <;> rfl
  · rw [if_neg empty]
    cases kept : front.dropWhile List.isEmpty with
    | nil =>
      rw [kept] at empty
      exact absurd rfl empty
    | cons segment rest => rfl

end Path

/-- A text ends with what stands behind it, unless it has stopped before. -/
theorem takeWhile_append_of_mem {p : Char → Bool} {text : List Char} {c : Char} (member : c ∈ text)
    (stops : p c = false) (behind : List Char) :
    (text ++ behind).takeWhile p = text.takeWhile p := by
  rw [List.takeWhile_append, if_neg]
  intro whole
  have all := List.takeWhile_eq_self_iff.1 ((List.takeWhile_prefix p).eq_of_length whole) c member
  rw [stops] at all
  cases all

/-- What stands behind the start of a query or a fragment is no part of the path. -/
theorem takeWhile_of_not_isPathText {text : List Char} (ends : ¬IsPathText text)
    (behind : List Char) :
    (text ++ behind).takeWhile (fun c => !endsPath c) = text.takeWhile fun c => !endsPath c := by
  obtain ⟨c, member, isEnd⟩ : ∃ c ∈ text, endsPath c = true := by simpa [IsPathText] using ends
  exact takeWhile_append_of_mem member (by rw [isEnd]; rfl) behind

/-- What is read in place of a host does not depend on a word behind the path. -/
theorem startsWithDrive_slash {text word word' : List Char} (letters : IsWord word)
    (letters' : IsWord word') :
    startsWithDrive (text ++ '/' :: word) = startsWithDrive (text ++ '/' :: word') := by
  by_cases plain : IsPathText text
  · obtain ⟨front, ends⟩ := Path.exists_pathInner_slash plain
    rw [startsWithDrive, startsWithDrive, ends word letters, ends word' letters',
      Path.withoutEmptyStart_concat, Path.withoutEmptyStart_concat]
    cases front.dropWhile List.isEmpty with
    | nil =>
      show Path.isDriveLetter word = Path.isDriveLetter word'
      rw [Path.isDriveLetter_of_isWord letters, Path.isDriveLetter_of_isWord letters']
    | cons segment rest => rfl
  · have same : ∀ behind, pathInner (text ++ behind) = pathInner text := fun behind => by
      rw [pathInner, takeWhile_of_not_isPathText plain, ← pathInner]
    rw [startsWithDrive, startsWithDrive, same, same]

end ServiceLocation.Url
