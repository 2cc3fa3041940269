import ServiceLocation.Proofs.Json.Scalars
import ServiceLocation.Proofs.Text.Reading

/-!
**JSON is read as its grammar says.**

* `partStep_of_read`: what a step does where a part is read;
* `Reads`, `reads_of_writes`: **what is written is read**, if nothing behind it goes on with a number;
* `exists_of_readLoop`, `writes_of_readValue`: **what is read was written**;
* `Value.ofText?_eq_some_iff`: **so a text is read as a value just if it is a text of the value**.
-/

namespace ServiceLocation.Json

open ServiceLocation.Text

variable {text rest : List Char}

/-! ### Blanks -/

theorem skipBlanks_append {blanks : List Char} (blank : Blanks blanks) (text : List Char) :
    skipBlanks (blanks ++ text) = skipBlanks text := List.dropWhile_append_of_pos blank

theorem skipBlanks_cons {c : Char} (solid : isJsonBlank c = false) (rest : List Char) :
    skipBlanks (c :: rest) = c :: rest :=
  List.dropWhile_cons_of_neg (by simp [solid])

theorem skipBlanks_blanks {blanks : List Char} (blank : Blanks blanks) : skipBlanks blanks = [] := by
  rw [← List.append_nil blanks, skipBlanks_append blank]
  rfl

/-- A text is the blanks in front of it and what is left without them. -/
theorem exists_blanks (text : List Char) :
    ∃ blanks, Blanks blanks ∧ text = blanks ++ skipBlanks text :=
  ⟨text.takeWhile isJsonBlank, List.all_eq_true.1 List.all_takeWhile,
    (List.takeWhile_append_dropWhile).symm⟩

theorem isJsonBlank_of_skipBlanks {c : Char} (is : skipBlanks text = c :: rest) :
    isJsonBlank c = false := by
  have first := List.head?_dropWhile_not isJsonBlank text
  rw [← skipBlanks, is] at first
  simpa using first

theorem length_skipBlanks_le (text : List Char) : (skipBlanks text).length ≤ text.length :=
  (List.dropWhile_suffix _).length_le

theorem skipBlanks_skipBlanks (text : List Char) : skipBlanks (skipBlanks text) = skipBlanks text := by
  cases is : skipBlanks text with
  | nil => rfl
  | cons c rest => exact skipBlanks_cons (isJsonBlank_of_skipBlanks is) rest

/-- A blank does not go on with a number, and so nothing does before it. -/
theorem noStart_blanks {blanks : List Char} (blank : Blanks blanks)
    (stops : NoStart continuesNumber rest) : NoStart continuesNumber (blanks ++ rest) := by
  cases blanks with
  | nil => exact stops
  | cons b blanks =>
    rintro c ⟨⟩
    have here := blank b List.mem_cons_self
    simp only [isJsonBlank, Bool.or_eq_true, beq_iff_eq] at here
    rcases here with ((rfl | rfl) | rfl) | rfl <;> rfl

theorem noStart_cons {c : Char} (stops : continuesNumber c = false) (rest : List Char) :
    NoStart continuesNumber (c :: rest) := by
  rintro _ ⟨⟩
  exact stops

/-! ### Several parts -/

section

variable {α : Type} {read : List Char → Option (α × List Char)} {close : Char} {all : List α → Value}

/-- What a step does where a part is read, with a comma behind it or what closes the parts. -/
theorem partStep_of_read {before : List α} {part : α} {start behind : List Char} {c : Char}
    (reads : read (skipBlanks start) = some (part, behind ++ c :: rest)) (blank : Blanks behind)
    (solid : isJsonBlank c = false) (closes : c = ',' ∨ c = close) :
    partStep read close all before start =
      some (if c = ',' then .more (part :: before) else .done (all (part :: before).reverse), rest) := by
  have left : skipBlanks (behind ++ c :: rest) = c :: rest := by
    rw [skipBlanks_append blank, skipBlanks_cons solid]
  rw [partStep, reads, Option.bind_eq_bind, Option.bind_some]
  dsimp only
  rw [left]
  dsimp only
  split
  · rfl
  · rename_i noComma
    rw [if_pos (closes.resolve_left noComma)]

/-- What a step has read, and what stands behind that. -/
theorem of_partStep {before : List α} {start : List Char} {progress : Progress (List α) Value}
    (step : partStep read close all before start = some (progress, rest)) :
    ∃ part after, read (skipBlanks start) = some (part, after) ∧
      (skipBlanks after = ',' :: rest ∧ progress = .more (part :: before) ∨
        skipBlanks after = close :: rest ∧ progress = .done (all (part :: before).reverse)) := by
  obtain ⟨⟨part, after⟩, reads, step⟩ := Option.bind_eq_some_iff.1 step
  refine ⟨part, after, reads, ?_⟩
  dsimp only at step
  split at step
  · rename_i front
    split at step
    · rename_i comma
      cases step
      exact .inl ⟨comma ▸ front, rfl⟩
    · split at step
      · rename_i closes
        cases step
        exact .inr ⟨closes ▸ front, rfl⟩
      · cases step
  · cases step

/-- Parts are read wherever the text stands, with blanks in front of it or without. -/
def ReadsParts (read : List Char → Option (α × List Char)) (close : Char) (all : List α → Value)
    (parts : List α) (text : List Char) : Prop :=
  ∀ before start rest, skipBlanks start = skipBlanks (text ++ rest) →
    readLoop (partStep read close all) before start = some (all (before.reverse ++ parts), rest)

/-- What a part is written as: it is read with anything behind it that does not go on with a number. -/
structure ReadsPart (read : List Char → Option (α × List Char)) (part : α) (text : List Char) :
    Prop where
  starts : ∃ c more, text = c :: more ∧ isJsonBlank c = false
  reads : ∀ rest, NoStart continuesNumber rest → read (text ++ rest) = some (part, rest)

variable {part : α} {before behind : List Char} (blankBefore : Blanks before)
  (readsPart : ReadsPart read part text) (blankBehind : Blanks behind)

include blankBefore readsPart blankBehind

/-- A part is read up to the comma or to what closes the parts. -/
theorem ReadsPart.of_start {start : List Char} {c : Char} (stops : continuesNumber c = false)
    (same : skipBlanks start = skipBlanks (before ++ (text ++ (behind ++ c :: rest)))) :
    read (skipBlanks start) = some (part, behind ++ c :: rest) ∧ rest.length < start.length := by
  obtain ⟨d, more, is, solid⟩ := readsPart.starts
  have front : skipBlanks start = text ++ (behind ++ c :: rest) := by
    rw [same, skipBlanks_append blankBefore, is]
    exact skipBlanks_cons solid _
  refine ⟨?_, ?_⟩
  · rw [front]
    exact readsPart.reads _ (noStart_blanks blankBehind (noStart_cons stops rest))
  · have shorter := length_skipBlanks_le start
    rw [front] at shorter
    simp only [List.length_append, List.length_cons] at shorter
    omega

theorem readsParts_last (noComma : close ≠ ',') (solid : isJsonBlank close = false)
    (stops : continuesNumber close = false) :
    ReadsParts read close all [part] (before ++ (text ++ (behind ++ [close]))) := by
  intro earlier start rest same
  simp only [List.append_assoc, List.singleton_append] at same
  obtain ⟨reads, _⟩ := readsPart.of_start blankBefore blankBehind stops same
  have step : partStep read close all earlier start = _ :=
    partStep_of_read reads blankBehind solid (.inr rfl)
  rw [if_neg noComma] at step
  rw [readLoop_of_done step, List.reverse_cons]

theorem readsParts_more {parts : List α} {later : List Char}
    (readsLater : ReadsParts read close all parts later) :
    ReadsParts read close all (part :: parts) (before ++ (text ++ (behind ++ ',' :: later))) := by
  intro earlier start rest same
  simp only [List.append_assoc, List.cons_append] at same
  obtain ⟨reads, shorter⟩ := readsPart.of_start blankBefore blankBehind (by decide) same
  rw [readLoop_of_more (partStep_of_read reads blankBehind (by decide) (.inl rfl)) shorter,
    readsLater (part :: earlier) (later ++ rest) rest rfl]
  simp

omit blankBefore readsPart blankBehind

theorem readParts_empty {blanks : List Char} (blank : Blanks blanks) (solid : isJsonBlank close = false)
    (rest : List Char) : readParts read close all (blanks ++ [close] ++ rest) = some (all [], rest) := by
  have front : skipBlanks (blanks ++ [close] ++ rest) = close :: rest := by
    rw [List.append_assoc, skipBlanks_append blank]
    exact skipBlanks_cons solid rest
  rw [readParts, front]
  exact if_pos rfl

/-- Parts are read, unless they start with what closes them. -/
theorem readParts_of_readsParts {parts : List α} (readsParts : ReadsParts read close all parts text)
    {c : Char} {more : List Char} (front : skipBlanks (text ++ rest) = c :: more) (other : c ≠ close) :
    readParts read close all (text ++ rest) = some (all parts, rest) := by
  rw [readParts, front]
  dsimp only
  rw [if_neg other, ← front, readsParts [] _ rest (skipBlanks_skipBlanks _)]
  rfl

/-- **What is read as parts are such parts**, if what is read as one of them is one, with any blanks in front
of them. -/
theorem exists_of_readLoop (Written : α → List Char → Prop) (Listed : List α → List Char → Prop)
    (sound : ∀ {text part rest}, read text = some (part, rest) →
      ∃ front, Written part front ∧ text = front ++ rest)
    (last : ∀ {before text behind part}, Blanks before → Written part text → Blanks behind →
      Listed [part] (before ++ (text ++ (behind ++ [close]))))
    (more : ∀ {before text behind later part parts}, Blanks before → Written part text →
      Blanks behind → Listed parts later →
      Listed (part :: parts) (before ++ (text ++ (behind ++ ',' :: later))))
    {earlier : List α} {start : List Char} {value : Value}
    (loop : readLoop (partStep read close all) earlier start = some (value, rest))
    {text : List Char} (same : skipBlanks text = skipBlanks start) :
    ∃ parts front, Listed parts front ∧ value = all (earlier.reverse ++ parts) ∧
      text = front ++ rest := by
  have taken : ∀ {text start part after}, skipBlanks text = skipBlanks start →
      read (skipBlanks start) = some (part, after) →
      ∃ before written behind, Blanks before ∧ Written part written ∧ Blanks behind ∧
        text = before ++ (written ++ (behind ++ skipBlanks after)) := by
    intro text start part after same reads
    obtain ⟨before, blankBefore, isText⟩ := exists_blanks text
    obtain ⟨written, isPart, isStart⟩ := sound reads
    obtain ⟨behind, blankBehind, isAfter⟩ := exists_blanks after
    refine ⟨before, written, behind, blankBefore, isPart, blankBehind, ?_⟩
    rw [← isAfter, ← isStart, ← same]
    exact isText
  -- The loop goes on from a text without the blanks in front, which the parts in the text have: so the
  -- text of the parts and the text that the loop is at are the same but for blanks.
  fun_induction readLoop (partStep read close all) earlier start generalizing text with
  | case1 => cases loop
  | case2 earlier start result after step =>
    cases loop
    obtain ⟨part, after, reads, ⟨_, isMore⟩ | ⟨closes, isDone⟩⟩ := of_partStep step
    · cases isMore
    · obtain ⟨before, written, behind, blankBefore, isPart, blankBehind, is⟩ := taken same reads
      cases isDone
      exact ⟨[part], _, last blankBefore isPart blankBehind, by simp, by simp [is, closes]⟩
  | case3 earlier start next after step shorter ih =>
    obtain ⟨part, after, reads, ⟨comma, isMore⟩ | ⟨_, isDone⟩⟩ := of_partStep step
    · obtain ⟨before, written, behind, blankBefore, isPart, blankBehind, is⟩ := taken same reads
      cases isMore
      obtain ⟨parts, later, listed, isValue, isAfter⟩ := ih loop rfl
      exact ⟨part :: parts, _, more blankBefore isPart blankBehind listed, by simp [isValue],
        by simp [is, comma, isAfter]⟩
    · cases isDone
  | case4 => cases loop

/-- Several parts are read from a text of them, or none from blanks. -/
theorem of_readParts {value : Value} (reads : readParts read close all text = some (value, rest)) :
    (∃ blanks, Blanks blanks ∧ value = all [] ∧ text = blanks ++ close :: rest) ∨
      readLoop (partStep read close all) [] (skipBlanks text) = some (value, rest) := by
  unfold readParts at reads
  split at reads
  · rename_i c more front
    split at reads
    · rename_i closes
      obtain ⟨blanks, blank, is⟩ := exists_blanks text
      cases reads
      exact .inl ⟨blanks, blank, rfl, by rw [is, front, closes]⟩
    · rw [front]
      exact .inr reads
  · cases reads

end

/-! ### What is written is read -/

/-- Whether a number may start with a character. -/
def startsNumber (c : Char) : Bool := c.isDigit || c == '-'

theorem exists_of_numberText (written : NumberText text) :
    ∃ c more, text = c :: more ∧ startsNumber c = true := by
  obtain ⟨isSign, isWhole, _, _⟩ := written
  simp only [List.mem_cons, List.not_mem_nil, or_false] at isSign
  rcases isSign with rfl | rfl
  · cases isWhole with
    | zero => exact ⟨_, _, rfl, rfl⟩
    | digits digits _ =>
      exact ⟨_, _, rfl, by simp [startsNumber, digits.all _ List.mem_cons_self]⟩
  · exact ⟨_, _, rfl, rfl⟩

/-- A value starts with no blank, and not with the bracket that closes an array. -/
theorem exists_of_value {value : Value} (writes : Writes (.value value) text) :
    ∃ c more, text = c :: more ∧ isJsonBlank c = false ∧ c ≠ ']' := by
  cases writes with
  | null => exact ⟨_, _, rfl, by decide, by decide⟩
  | true => exact ⟨_, _, rfl, by decide, by decide⟩
  | false => exact ⟨_, _, rfl, by decide, by decide⟩
  | number written =>
    obtain ⟨c, more, is, first⟩ := exists_of_numberText written
    have other : ∀ d, startsNumber d = false → c ≠ d := fun d => ne_of_kind first
    refine ⟨c, more, is, ?_, other ']' rfl⟩
    simp [isJsonBlank, other ' ' rfl, other '\t' rfl, other '\n' rfl, other '\r' rfl]
  | string written =>
    cases written
    exact ⟨_, _, rfl, by decide, by decide⟩
  | emptyArray => exact ⟨_, _, rfl, by decide, by decide⟩
  | array => exact ⟨_, _, rfl, by decide, by decide⟩
  | emptyObject => exact ⟨_, _, rfl, by decide, by decide⟩
  | object => exact ⟨_, _, rfl, by decide, by decide⟩

theorem exists_of_member {member : Option (List Char) × Value} (writes : Writes (.member member) text) :
    ∃ more, text = '"' :: more := by
  cases writes with
  | member isKey _ _ _ =>
    cases isKey
    exact ⟨_, rfl⟩

theorem exists_of_items {items : List Value} (writes : Writes (.items items) text) (rest : List Char) :
    ∃ c more, skipBlanks (text ++ rest) = c :: more ∧ c ≠ ']' := by
  cases writes with
  | lastItem blankBefore written _ =>
    obtain ⟨c, more, is, solid, other⟩ := exists_of_value written
    rw [is, List.append_assoc, skipBlanks_append blankBefore]
    exact ⟨c, _, skipBlanks_cons solid _, other⟩
  | moreItems blankBefore written _ _ =>
    obtain ⟨c, more, is, solid, other⟩ := exists_of_value written
    rw [is, List.append_assoc, skipBlanks_append blankBefore]
    exact ⟨c, _, skipBlanks_cons solid _, other⟩

theorem exists_of_members {members : List (Option (List Char) × Value)}
    (writes : Writes (.members members) text) (rest : List Char) :
    ∃ more, skipBlanks (text ++ rest) = '"' :: more := by
  cases writes with
  | lastMember blankBefore written _ =>
    obtain ⟨more, is⟩ := exists_of_member written
    rw [is, List.append_assoc, skipBlanks_append blankBefore]
    exact ⟨_, rfl⟩
  | moreMembers blankBefore written _ _ =>
    obtain ⟨more, is⟩ := exists_of_member written
    rw [is, List.append_assoc, skipBlanks_append blankBefore]
    exact ⟨_, rfl⟩

theorem readValue_of_startsNumber (room : Nat) {c : Char} (first : startsNumber c = true)
    (more : List Char) :
    readValue room (c :: more) =
      (readNumber (c :: more)).map fun (number, after) => (.number number, after) := by
  have other : ∀ d, startsNumber d = false → ∀ after, c :: more = d :: after → False :=
    fun d outside _ is => ne_of_kind first outside (List.cons.inj is).1
  exact readValue.eq_7 room _ (fun _ => other 'n' rfl _) (fun _ => other 't' rfl _)
    (fun _ => other 'f' rfl _) (fun _ => other '"' rfl _) (fun _ _ _ => other '[' rfl _)
    fun _ _ _ => other '\x7b' rfl _

/-- **What it is for a part to be read.** -/
def Reads : Part → List Char → Prop
  | .value value, text => ∀ room, text.length ≤ room → ReadsPart (readValue room) value text
  | .member member, text =>
    ∀ room, text.length ≤ room → ReadsPart (readMember (readValue room)) member text
  | .items items, text =>
    ∀ room, text.length ≤ room → ReadsParts (readValue room) ']' .array items text
  | .members members, text =>
    ∀ room, text.length ≤ room →
      ReadsParts (readMember (readValue room)) '\x7d' .object members text

theorem readsPart_of_value {room : Nat} {value : Value} (writes : Writes (.value value) text)
    (reads : ∀ rest, NoStart continuesNumber rest →
      readValue room (text ++ rest) = some (value, rest)) : ReadsPart (readValue room) value text := by
  obtain ⟨c, more, is, solid, _⟩ := exists_of_value writes
  exact ⟨⟨c, more, is, solid⟩, reads⟩

theorem readsPart_member {room : Nat} {quoted behind before : List Char} {key : Option (List Char)}
    {value : Value} (isKey : StringText quoted key) (blankBehind : Blanks behind)
    (blankBefore : Blanks before) (readsValue : ReadsPart (readValue room) value text) :
    ReadsPart (readMember (readValue room)) (key, value)
      (quoted ++ (behind ++ ':' :: (before ++ text))) := by
  obtain ⟨c, more, is, solid⟩ := readsValue.starts
  cases isKey with
  | @quotes inside units written =>
    refine ⟨⟨_, _, rfl, by decide⟩, fun rest stops => ?_⟩
    have keyRead : readString (inside ++ ['"'] ++ (behind ++ ':' :: (before ++ text)) ++ rest) =
        some (Utf16.decodeUnits? units, behind ++ ':' :: (before ++ text) ++ rest) :=
      readString_eq_some_iff.2 ⟨_, .quotes written, by simp⟩
    have colon : skipBlanks (behind ++ ':' :: (before ++ text) ++ rest) =
        ':' :: (before ++ text ++ rest) := by
      rw [List.append_assoc, skipBlanks_append blankBehind]
      exact skipBlanks_cons (by decide) _
    have start : skipBlanks (before ++ text ++ rest) = text ++ rest := by
      rw [List.append_assoc, skipBlanks_append blankBefore, is]
      exact skipBlanks_cons solid _
    rw [List.cons_append, List.cons_append, readMember, keyRead, Option.bind_eq_bind,
      Option.bind_some]
    simp only [colon, start, readsValue.reads rest stops, Option.map_some]

/-- Behind a bracket there is room for as much nesting as the text is long. -/
theorem exists_room {c : Char} {room : Nat} (enough : (c :: text).length ≤ room) :
    ∃ inner, room = inner + 1 ∧ text.length ≤ inner := by
  rw [List.length_cons] at enough
  exact ⟨room - 1, by omega, by omega⟩

/-- So there is in one of several parts, and in the parts behind it. -/
theorem room_for_parts {before behind : List Char} {c : Char} {room : Nat}
    (enough : (before ++ (text ++ (behind ++ c :: rest))).length ≤ room) :
    text.length ≤ room ∧ rest.length ≤ room := by
  simp only [List.length_append, List.length_cons] at enough
  omega

/-- **What is written is read**, if there is room for as much nesting as the text is long. -/
theorem reads_of_writes {part : Part} (writes : Writes part text) : Reads part text := by
  induction writes with
  | null => exact fun room _ => readsPart_of_value .null fun rest _ => readValue.eq_1 room rest
  | true => exact fun room _ => readsPart_of_value .true fun rest _ => readValue.eq_2 room rest
  | false => exact fun room _ => readsPart_of_value .false fun rest _ => readValue.eq_3 room rest
  | @number text written =>
    refine fun room _ => readsPart_of_value (.number written) fun rest stops => ?_
    obtain ⟨c, more, is, first⟩ := exists_of_numberText written
    have number := readNumber_append written stops
    rw [is, List.cons_append] at number ⊢
    rw [readValue_of_startsNumber room first, number]
    rfl
  | @string text content written =>
    refine fun room _ => readsPart_of_value (.string written) fun rest _ => ?_
    cases written with
    | @quotes inside units written =>
      have content : readString (inside ++ ['"'] ++ rest) = some (Utf16.decodeUnits? units, rest) :=
        readString_eq_some_iff.2 ⟨_, .quotes written, rfl⟩
      rw [List.cons_append, readValue.eq_4, content]
      rfl
  | @emptyArray blanks blank =>
    refine fun room enough => readsPart_of_value (.emptyArray blank) fun rest _ => ?_
    obtain ⟨inner, rfl, _⟩ := exists_room enough
    exact readParts_empty blank (by decide) rest
  | @array text items inside ih =>
    refine fun room enough => readsPart_of_value (.array inside) fun rest _ => ?_
    obtain ⟨inner, rfl, within⟩ := exists_room enough
    obtain ⟨c, more, front, other⟩ := exists_of_items inside rest
    exact readParts_of_readsParts (ih inner within) front other
  | emptyObject blank =>
    refine fun room enough => readsPart_of_value (.emptyObject blank) fun rest _ => ?_
    obtain ⟨inner, rfl, _⟩ := exists_room enough
    exact readParts_empty blank (by decide) rest
  | @object text members inside ih =>
    refine fun room enough => readsPart_of_value (.object inside) fun rest _ => ?_
    obtain ⟨inner, rfl, within⟩ := exists_room enough
    obtain ⟨more, front⟩ := exists_of_members inside rest
    exact readParts_of_readsParts (ih inner within) front (by decide)
  | member isKey blankBehind blankBefore _ ih =>
    intro room enough
    simp only [List.length_append, List.length_cons] at enough
    exact readsPart_member isKey blankBehind blankBefore (ih room (by omega))
  | lastItem blankBefore _ blankBehind ih =>
    intro room enough
    exact readsParts_last blankBefore (ih room (room_for_parts enough).1) blankBehind (by decide)
      (by decide) (by decide)
  | moreItems blankBefore _ blankBehind _ ih ihLater =>
    intro room enough
    obtain ⟨here, later⟩ := room_for_parts enough
    exact readsParts_more blankBefore (ih room here) blankBehind (ihLater room later)
  | lastMember blankBefore _ blankBehind ih =>
    intro room enough
    exact readsParts_last blankBefore (ih room (room_for_parts enough).1) blankBehind (by decide)
      (by decide) (by decide)
  | moreMembers blankBefore _ blankBehind _ ih ihLater =>
    intro room enough
    obtain ⟨here, later⟩ := room_for_parts enough
    exact readsParts_more blankBefore (ih room here) blankBehind (ihLater room later)

/-! ### What is read was written -/

theorem writes_of_readMember {room : Nat} {member : Option (List Char) × Value}
    (sound : ∀ {text value rest}, readValue room text = some (value, rest) →
      ∃ front, Writes (.value value) front ∧ text = front ++ rest)
    (reads : readMember (readValue room) text = some (member, rest)) :
    ∃ front, Writes (.member member) front ∧ text = front ++ rest := by
  unfold readMember at reads
  split at reads
  · obtain ⟨⟨key, afterKey⟩, keyRead, reads⟩ := Option.bind_eq_some_iff.1 reads
    obtain ⟨quoted, isKey, isText⟩ := readString_eq_some_iff.1 keyRead
    obtain ⟨behind, blankBehind, isAfter⟩ := exists_blanks afterKey
    dsimp only at reads
    split at reads
    · rename_i afterColon colon
      obtain ⟨before, blankBefore, isColon⟩ := exists_blanks afterColon
      obtain ⟨⟨value, afterValue⟩, valueRead, same⟩ := Option.map_eq_some_iff.1 reads
      obtain ⟨front, written, isValue⟩ := sound valueRead
      cases same
      refine ⟨_, .member isKey blankBehind blankBefore written, ?_⟩
      rw [isText, isAfter, colon, isColon, isValue]
      simp
    · cases reads
  · cases reads

theorem writes_of_readItems {room : Nat} {value : Value}
    (sound : ∀ {text value rest}, readValue room text = some (value, rest) →
      ∃ front, Writes (.value value) front ∧ text = front ++ rest)
    (reads : readParts (readValue room) ']' .array text = some (value, rest)) :
    ∃ front, Writes (.value value) ('[' :: front) ∧ text = front ++ rest := by
  rcases of_readParts reads with ⟨blanks, blank, rfl, is⟩ | loop
  · exact ⟨blanks ++ [']'], .emptyArray blank, by simp [is]⟩
  · obtain ⟨items, front, listed, rfl, is⟩ := exists_of_readLoop
      (fun item text => Writes (.value item) text) (fun items text => Writes (.items items) text) sound
      .lastItem .moreItems loop (skipBlanks_skipBlanks text).symm
    exact ⟨front, .array listed, is⟩

theorem writes_of_readMembers {room : Nat} {value : Value}
    (sound : ∀ {text value rest}, readValue room text = some (value, rest) →
      ∃ front, Writes (.value value) front ∧ text = front ++ rest)
    (reads : readParts (readMember (readValue room)) '\x7d' .object text = some (value, rest)) :
    ∃ front, Writes (.value value) ('\x7b' :: front) ∧ text = front ++ rest := by
  rcases of_readParts reads with ⟨blanks, blank, rfl, is⟩ | loop
  · exact ⟨blanks ++ ['\x7d'], .emptyObject blank, by simp [is]⟩
  · obtain ⟨members, front, listed, rfl, is⟩ := exists_of_readLoop
      (fun member text => Writes (.member member) text)
      (fun members text => Writes (.members members) text) (writes_of_readMember sound)
      .lastMember .moreMembers loop (skipBlanks_skipBlanks text).symm
    exact ⟨front, .object listed, is⟩

/-- **What is read as a value is one.** -/
theorem writes_of_readValue {room : Nat} {value : Value}
    (reads : readValue room text = some (value, rest)) :
    ∃ front, Writes (.value value) front ∧ text = front ++ rest := by
  -- On the nesting that is left: what is inside of brackets is read with one less.
  induction room using Nat.strongRecOn generalizing text value rest with
  | ind room ih =>
    unfold readValue at reads
    split at reads
    · cases reads
      exact ⟨_, .null, rfl⟩
    · cases reads
      exact ⟨_, .true, rfl⟩
    · cases reads
      exact ⟨_, .false, rfl⟩
    · obtain ⟨⟨content, after⟩, stringRead, same⟩ := Option.map_eq_some_iff.1 reads
      obtain ⟨quoted, written, is⟩ := readString_eq_some_iff.1 stringRead
      cases same
      exact ⟨quoted, .string written, is⟩
    · obtain ⟨front, written, is⟩ := writes_of_readItems (ih _ (Nat.lt_succ_self _)) reads
      exact ⟨_, written, congrArg _ is⟩
    · obtain ⟨front, written, is⟩ := writes_of_readMembers (ih _ (Nat.lt_succ_self _)) reads
      exact ⟨_, written, congrArg _ is⟩
    · obtain ⟨⟨number, after⟩, numberRead, same⟩ := Option.map_eq_some_iff.1 reads
      obtain ⟨written, is⟩ := numberText_of_readNumber numberRead
      cases same
      exact ⟨number, .number written, is⟩

/-! ### Whole texts -/

/-- **A text is read as a value just if it is a text of the value**, in any way of writing it. -/
theorem Value.ofText?_eq_some_iff {value : Value} :
    Value.ofText? text = some value ↔ IsText text value := by
  constructor
  · intro read
    obtain ⟨⟨value', after⟩, valueRead, rest⟩ := Option.bind_eq_some_iff.1 read
    obtain ⟨empty, same⟩ := Option.ite_none_right_eq_some.1 rest
    obtain ⟨before, blankBefore, isText⟩ := exists_blanks text
    obtain ⟨front, written, isFront⟩ := writes_of_readValue valueRead
    obtain ⟨behind, blankBehind, isAfter⟩ := exists_blanks after
    cases same
    rw [List.isEmpty_iff.1 empty, List.append_nil] at isAfter
    rw [isText, isFront, isAfter]
    exact .blanks blankBefore written blankBehind
  · rintro @⟨before, text, behind, value, blankBefore, written, blankBehind⟩
    obtain ⟨c, more, is, solid, _⟩ := exists_of_value written
    have front : skipBlanks (before ++ (text ++ behind)) = text ++ behind := by
      rw [skipBlanks_append blankBefore, is]
      exact skipBlanks_cons solid _
    have enough : text.length ≤ (before ++ (text ++ behind)).length := by
      simp only [List.length_append]
      omega
    have stops : NoStart continuesNumber behind := by
      have nothing : NoStart continuesNumber [] := fun _ is => by cases is
      simpa using noStart_blanks blankBehind nothing
    have valueRead := (reads_of_writes written _ enough).reads behind stops
    rw [Value.ofText?, front, valueRead, Option.bind_eq_bind, Option.bind_some]
    simp [skipBlanks_blanks blankBehind]

end ServiceLocation.Json
