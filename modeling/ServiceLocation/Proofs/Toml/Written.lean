import ServiceLocation.Proofs.Text.Reading
import ServiceLocation.Proofs.Toml.Number
import ServiceLocation.Proofs.Toml.Quoted
import ServiceLocation.Toml.Reader

/-!
**What is written in TOML is read back.**

* `isSolid`: a character that is not skipped where a value may start;
* `StandsFor`: a text that is read as a value, up to the comma, the bracket or the end of the line behind
  it;
* `standsFor_string`, `standsFor_number`, `standsFor_flag`, `standsFor_array`: **what stands for the
  values that are written**;
* `lineStep_pair`, `lineStep_header`, `lineStep_empty`: **so do the lines with them**.
-/

namespace ServiceLocation.Toml

open ServiceLocation.Text

/-! ### Blanks -/

/-- Whether a character is not skipped: no blank, no end of a line, and not the mark of a comment. -/
def isSolid (c : Char) : Bool := !(isSpace c || c == '\n' || c == '\r' || c == '#')

/-- A character of a kind is not skipped, if none that is skipped is of the kind. -/
theorem isSolid_of_kind {kind : Char → Bool} {c : Char} (inside : kind c = true)
    (outside : [' ', '\t', '\n', '\r', '#'].all (fun d => !kind d) = true) : isSolid c = true := by
  have other : ∀ d ∈ [' ', '\t', '\n', '\r', '#'], c ≠ d := fun d listed =>
    ne_of_kind inside (by simpa using List.all_eq_true.1 outside d listed)
  simp only [List.mem_cons, List.not_mem_nil, or_false, forall_eq_or_imp, forall_eq] at other
  simp [isSolid, isSpace, other]

section

variable {c : Char} (solid : isSolid c = true) (rest : List Char)

include solid

theorem isSpace_eq_false_of_isSolid : isSpace c = false := by
  simp only [isSolid, Bool.not_eq_true', Bool.or_eq_false_iff] at solid
  exact solid.1.1.1

theorem skipSpaces_solid : skipSpaces (c :: rest) = c :: rest :=
  List.dropWhile_cons_of_neg (by simp [isSpace_eq_false_of_isSolid solid])

theorem readNewline_solid : readNewline (c :: rest) = none := by
  unfold readNewline
  split
  · rename_i starts
    exact absurd (List.cons.inj starts).1 (ne_of_kind solid rfl)
  · rename_i starts
    exact absurd (List.cons.inj starts).1 (ne_of_kind solid rfl)
  · rfl

theorem skipLines_solid : skipLines (c :: rest) = c :: rest := by
  rw [skipLines, isSpace_eq_false_of_isSolid solid]
  · rfl
  · exact ne_of_kind solid rfl
  · exact fun _ is _ => ne_of_kind solid rfl is

theorem readLineEnd_solid : readLineEnd (c :: rest) = none := by
  have noComment : ∀ comment, c :: rest ≠ '#' :: comment := fun _ starts =>
    ne_of_kind solid rfl (List.cons.inj starts).1
  simp only [readLineEnd, skipSpaces_solid solid]
  exact readNewline_solid solid rest

/-- Where an item of an array may start, blanks are skipped. -/
theorem skipArrayBlanks_solid {blanks : List Char} (blank : ∀ b ∈ blanks, b = ' ') :
    skipArrayBlanks (blanks ++ c :: rest) = some (c :: rest) := by
  have skipped : skipLines (blanks ++ c :: rest) = c :: rest := by
    induction blanks with
    | nil => exact skipLines_solid solid rest
    | cons b blanks ih =>
      obtain ⟨here, later⟩ := List.forall_mem_cons.1 blank
      subst here
      exact ih later
  have step : arrayBlankStep () (blanks ++ c :: rest) = some (.done (), c :: rest) := by
    unfold arrayBlankStep
    rw [skipped]
    split
    · rename_i starts
      exact absurd (List.cons.inj starts).1 (ne_of_kind solid rfl)
    · rfl
  rw [skipArrayBlanks, readLoop_of_done step]
  rfl

end

/-! ### Values -/

/-- What may stand behind a value: a comma, the bracket that closes an array, or the end of a line. -/
def closers : List Char := [',', ']', '\n']

/-- A text that stands for a value which nests at most `room` deep, wherever there is a closer behind
it. -/
structure StandsFor (room : Nat) (text : List Char) (value : Value) : Prop where
  starts : ∃ c rest, text = c :: rest ∧ isSolid c = true ∧ c ≠ ']'
  read : ∀ closer ∈ closers, ∀ rest,
    readValue room (text ++ closer :: rest) = some (value, closer :: rest)

theorem exists_of_writeString (text : List Char) :
    ∃ quote rest, writeString text = quote :: rest ∧ (quote = '"' ∨ quote = '\'') := by
  unfold writeString
  dsimp only
  repeat' split
  all_goals exact ⟨_, _, rfl, by decide⟩

/-- A closer is no quote, and ends a number. -/
theorem of_mem_closers {closer : Char} (closes : closer ∈ closers) :
    closer ≠ '"' ∧ closer ≠ '\'' ∧ inNumber closer = false := by
  simp only [closers, List.mem_cons, List.not_mem_nil, or_false] at closes
  rcases closes with rfl | rfl | rfl <;> decide

theorem standsFor_string (room : Nat) (text : List Char) :
    StandsFor room (writeString text) (.string (.ofList text)) := by
  obtain ⟨quote, inside, is, isQuote⟩ := exists_of_writeString text
  refine ⟨⟨quote, inside, is, ?_, ?_⟩, fun closer closes rest => ?_⟩
  · rcases isQuote with rfl | rfl <;> decide
  · rcases isQuote with rfl | rfl <;> decide
  · obtain ⟨noDouble, noSingle, _⟩ := of_mem_closers closes
    have back : readString (writeString text ++ closer :: rest) = some (text, closer :: rest) :=
      readString_writeString text (by simpa using noDouble) (by simpa using noSingle)
    have value : readValue room (writeString text ++ closer :: rest) =
        (readString (writeString text ++ closer :: rest)).map fun found =>
          (.string (.ofList found.1), found.2) := by
      rw [is]
      rcases isQuote with rfl | rfl <;> cases room <;> rfl
    rw [value, back]
    rfl

/-- A digit is where a number starts. -/
theorem readValue_digit (room : Nat) {c : Char} (digit : c.isDigit = true) (rest : List Char) :
    readValue room (c :: rest) = readNumber (c :: rest) := by
  have noQuote : ¬(c = '"' ∨ c = '\'') :=
    not_or_intro (ne_of_kind digit rfl) (ne_of_kind digit rfl)
  unfold readValue
  split
  · contradiction
  · rename_i starts
    exact absurd (List.cons.inj starts).1 (ne_of_kind digit rfl)
  · rename_i starts
    exact absurd (List.cons.inj starts).1 (ne_of_kind digit rfl)
  · rename_i starts
    exact absurd (List.cons.inj starts).1 (ne_of_kind digit rfl)
  · rename_i starts
    exact absurd (List.cons.inj starts).1 (ne_of_kind digit rfl)
  · rename_i starts
    obtain ⟨rfl, _⟩ := List.cons.inj starts
    exact if_neg noQuote

theorem standsFor_number (room : Nat) {number : Nat} {value : Int64}
    (fits : int64? number = some value) :
    StandsFor room (toString number).toList (.integer value) := by
  have text : (toString number).toList = Nat.toDigits 10 number := by
    rw [Nat.toString_eq_ofList_toDigits, String.toList_ofList]
  refine ⟨?_, fun closer closes rest => ?_⟩
  · obtain ⟨digit, digits, isDigit, is⟩ := exists_toDigits_append number []
    exact ⟨digit, digits, by rw [text, ← is, List.append_nil], isSolid_of_kind isDigit rfl,
      ne_of_kind isDigit rfl⟩
  · obtain ⟨_, _, stops⟩ := of_mem_closers closes
    obtain ⟨digit, digits, isDigit, is⟩ := exists_toDigits_append number (closer :: rest)
    have value := readNumber_toString rest stops fits
    rw [text, is] at value ⊢
    rw [readValue_digit room isDigit, value]

theorem standsFor_flag (room : Nat) (flag : Bool) :
    StandsFor room (if flag then "true".toList else "false".toList) (.boolean flag) := by
  cases flag
  all_goals
    refine ⟨⟨_, _, rfl, by decide, by decide⟩, fun closer _ rest => ?_⟩
    cases room <;> rfl

/-! ### Arrays -/

section

variable {room : Nat} {before : List Value} {rest : List Char}

theorem itemStep_end {blanks : List Char} (blank : ∀ b ∈ blanks, b = ' ') :
    itemStep (readValue room) before (blanks ++ ']' :: rest) =
      some (.done (.array before.reverse), rest) := by
  simp [itemStep, skipArrayBlanks_solid (rfl : isSolid ']' = true) rest blank]

/-- An item is read with the comma or the bracket behind it. -/
theorem itemStep_item {blanks text : List Char} {item : Value} (blank : ∀ b ∈ blanks, b = ' ')
    (stands : StandsFor room text item) {closer : Char} (closes : closer = ',' ∨ closer = ']') :
    itemStep (readValue room) before (blanks ++ (text ++ closer :: rest)) =
      some (if closer = ',' then .more (item :: before) else .done (.array (item :: before).reverse),
        rest) := by
  obtain ⟨c, inside, is, solid, noEnd⟩ := stands.starts
  have start := skipArrayBlanks_solid solid (inside ++ closer :: rest) blank
  have value := stands.read closer (by rcases closes with rfl | rfl <;> decide) rest
  have behind : skipArrayBlanks (closer :: rest) = some (closer :: rest) :=
    skipArrayBlanks_solid (by rcases closes with rfl | rfl <;> decide) rest (List.forall_mem_nil _)
  rw [is, List.cons_append] at value ⊢
  rw [itemStep, start, Option.bind_eq_bind, Option.bind_some]
  split
  · rename_i starts
    exact absurd (List.cons.inj starts).1 noEnd
  · rw [value, Option.bind_eq_bind, Option.bind_some]
    dsimp only
    rw [behind]
    rcases closes with rfl | rfl <;> rfl

/-- **The items of an array are read one after the other**, whatever has been read before. -/
theorem readLoop_items {blanks : List Char} (blank : ∀ b ∈ blanks, b = ' ')
    {items : List (List Char × Value)} (stand : ∀ item ∈ items, StandsFor room item.1 item.2) :
    readLoop (itemStep (readValue room)) before
        (blanks ++ (", ".toList.intercalate (items.map Prod.fst) ++ ']' :: rest)) =
      some (.array (before.reverse ++ items.map Prod.snd), rest) := by
  induction items generalizing before blanks with
  | nil =>
    rw [List.map_nil, List.map_nil, List.append_nil]
    exact readLoop_of_done (itemStep_end blank)
  | cons item items ih =>
    obtain ⟨here, later⟩ := List.forall_mem_cons.1 stand
    cases items with
    | nil =>
      rw [List.map_singleton, List.intercalate_singleton,
        readLoop_of_done (itemStep_item blank here (.inr rfl))]
      simp
    | cons next items =>
      have whole : ", ".toList.intercalate ((item :: next :: items).map Prod.fst) ++ ']' :: rest =
          item.1 ++ ',' :: ([' '] ++
            (", ".toList.intercalate ((next :: items).map Prod.fst) ++ ']' :: rest)) := by
        simp [List.intercalate_cons_cons]
      rw [whole, readLoop_of_more (itemStep_item blank here (.inl rfl)) (by simp +arith)]
      simpa using @ih (item.2 :: before) [' '] (by simp) later

theorem standsFor_array {items : List (List Char × Value)}
    (stand : ∀ item ∈ items, StandsFor room item.1 item.2) :
    StandsFor (room + 1) ('[' :: (", ".toList.intercalate (items.map Prod.fst) ++ [']']))
      (.array (items.map Prod.snd)) := by
  refine ⟨⟨_, _, rfl, by decide, by decide⟩, fun closer _ rest => ?_⟩
  rw [List.cons_append, List.append_assoc]
  exact readLoop_items (List.forall_mem_nil _) stand

end

/-! ### Lines -/

/-- A key without quotes. -/
structure IsBare (key : List Char) : Prop where
  nonempty : key ≠ []
  all : ∀ c ∈ key, inBareKey c = true

theorem IsBare.exists_cons {key : List Char} (bare : IsBare key) :
    ∃ c more, key = c :: more ∧ inBareKey c = true := by
  obtain ⟨c, more, is⟩ := List.exists_cons_of_ne_nil bare.nonempty
  exact ⟨c, more, is, bare.all c (is ▸ List.mem_cons_self)⟩

section

variable {key : List Char} (bare : IsBare key) {document : Document} (rest : List Char)

include bare

/-- A key without quotes is read up to the character behind it. -/
theorem readKeyPart_bare {c : Char} (outside : inBareKey c = false) :
    readKeyPart (key ++ c :: rest) = some (.ofList key, c :: rest) := by
  have taken : (key ++ c :: rest).takeWhile inBareKey = key := by
    rw [List.takeWhile_append_of_pos bare.all, List.takeWhile_cons_of_neg (by simp [outside]),
      List.append_nil]
  have left : (key ++ c :: rest).dropWhile inBareKey = c :: rest := by
    rw [List.dropWhile_append_of_pos bare.all, List.dropWhile_cons_of_neg (by simp [outside])]
  obtain ⟨d, more, is, inside⟩ := bare.exists_cons
  have noQuote : ¬(d = '"' ∨ d = '\'') :=
    not_or_intro (ne_of_kind inside rfl) (ne_of_kind inside rfl)
  rw [is, List.cons_append] at taken left ⊢
  rw [readKeyPart, if_neg noQuote, taken, left]
  rfl

theorem readKey_bare {c d : Char} {after : List Char} (outside : inBareKey d = false)
    (start : skipSpaces (d :: after) = c :: rest) (noDot : c ≠ '.') :
    readKey (key ++ d :: after) = some (([], .ofList key), c :: rest) := by
  have front : skipSpaces (key ++ d :: after) = key ++ d :: after := by
    obtain ⟨e, more, is, inside⟩ := bare.exists_cons
    rw [is]
    exact skipSpaces_solid (isSolid_of_kind inside rfl) _
  have step : keyStep [] (key ++ d :: after) = some (.done ([], .ofList key), c :: rest) := by
    rw [keyStep, front, readKeyPart_bare bare after outside, Option.bind_eq_bind, Option.bind_some]
    dsimp only
    rw [start]
    split
    · rename_i starts
      exact absurd (List.cons.inj starts).1 noDot
    · rfl
  rw [readKey, readLoop_of_done step]
  rfl

/-- **A key and its value are read from a line.** -/
theorem lineStep_pair {text : List Char} {value : Value} (stands : StandsFor depthLimit text value)
    {next : Document} (defines : document.define [] (.ofList key) value = some next) :
    lineStep document (key ++ (" = ".toList ++ (text ++ '\n' :: rest))) =
      some (.more next, rest) := by
  obtain ⟨c, inside, is, solid, _⟩ := stands.starts
  have keyRead : readKey (key ++ (" = ".toList ++ (text ++ '\n' :: rest))) =
      some (([], .ofList key), '=' :: ' ' :: (text ++ '\n' :: rest)) :=
    readKey_bare bare _ (d := ' ') rfl rfl (by decide)
  have valueRead : readValue depthLimit (skipSpaces (' ' :: (text ++ '\n' :: rest))) =
      some (value, '\n' :: rest) := by
    have front : skipSpaces (' ' :: (text ++ '\n' :: rest)) = text ++ '\n' :: rest := by
      rw [is]
      exact skipSpaces_solid solid _
    rw [front]
    exact stands.read '\n' (by decide) rest
  have pair : readPair document (key ++ (" = ".toList ++ (text ++ '\n' :: rest))) =
      some (next, '\n' :: rest) := by
    rw [readPair, keyRead]
    simp [readMark, valueRead, defines]
  obtain ⟨d, more, start, inside⟩ := bare.exists_cons
  have solid := isSolid_of_kind inside rfl
  rw [start, List.cons_append] at pair ⊢
  rw [lineStep, skipSpaces_solid solid]
  split
  · contradiction
  · rename_i starts
    exact absurd (List.cons.inj starts).1 (ne_of_kind inside rfl)
  · rw [readLineEnd_solid solid, pair]
    rfl

/-- **A table is opened by its header.** -/
theorem lineStep_header {entries : Entries}
    (opens : openTable [] (.ofList key) document.entries = some entries) :
    lineStep document ('[' :: (key ++ ']' :: '\n' :: rest)) =
      some (.more { entries, current := [.ofList key] }, rest) := by
  have keyRead : readKey (key ++ ']' :: '\n' :: rest) =
      some (([], .ofList key), ']' :: '\n' :: rest) :=
    readKey_bare bare _ (d := ']') rfl rfl (by decide)
  have header : readHeader document (key ++ ']' :: '\n' :: rest) =
      some ({ entries, current := [.ofList key] }, '\n' :: rest) := by
    rw [readHeader]
    · simp [keyRead, readMark, opens]
    · intro more starts
      obtain ⟨c, letters, is, inside⟩ := bare.exists_cons
      rw [is] at starts
      exact ne_of_kind inside rfl (List.cons.inj starts).1
  rw [lineStep, skipSpaces_solid (rfl : isSolid '[' = true)]
  simp only [header, Option.bind_eq_bind, Option.bind_some]
  rfl

end

/-- Nothing is added by a line with nothing in it. -/
theorem lineStep_empty (document : Document) (rest : List Char) :
    lineStep document ('\n' :: rest) = some (.more document, rest) := rfl

/-! ### Tables -/

/-- What stands under the keys of a table that has values only. -/
def plain (members : List (String × Value)) : Entries :=
  members.map fun member => (member.1, .value member.2)

theorem lookup_plain (members : List (String × Value)) (key : String) :
    (plain members).lookup key = (members.lookup key).map .value := by
  induction members with
  | nil => rfl
  | cons member members ih =>
    rw [plain, List.map_cons, List.lookup_cons, List.lookup_cons]
    split
    · rfl
    · exact ih

theorem entryValues_append (before after : Entries) :
    entryValues (before ++ after) = entryValues before ++ entryValues after := by
  induction before with
  | nil => rfl
  | cons entry before ih => rw [List.cons_append, entryValues, ih, entryValues, List.cons_append]

theorem entryValues_plain (members : List (String × Value)) :
    entryValues (plain members) = members := by
  induction members with
  | nil => rfl
  | cons member members ih =>
    rw [plain, List.map_cons, entryValues, Node.toValue]
    exact congrArg (member :: ·) ih

/-- A new key is added to a table that has a header. -/
theorem define_plain {members : List (String × Value)} {key : String} (value : Value)
    (new : members.lookup key = none) :
    define [] key value .header (plain members) = some (plain (members ++ [(key, value)])) := by
  have free := lookup_plain members key
  rw [new, Option.map_none] at free
  have added : plain (members ++ [(key, value)]) = plain members ++ [(key, .value value)] :=
    List.map_append
  rw [added]
  unfold define edit
  simp [free]

/-- A place in a document to which lines add their values: a document for what is there already. -/
def Adds (place : List (String × Value) → Document) : Prop :=
  ∀ members key value, members.lookup key = none →
    (place members).define [] key value = some (place (members ++ [(key, value)]))

theorem adds_top : Adds fun members => { entries := plain members, current := [] } := by
  intro members key value new
  rw [Document.define, edit, define_plain value new]
  rfl

/-- The table whose header was the last. -/
theorem adds_table {before : List (String × Value)} {header : String}
    (new : before.lookup header = none) :
    Adds fun members =>
      { entries := plain before ++ [(header, .table .header (plain members))]
        current := [header] } := by
  intro members key value unused
  have there : ∀ node, (plain before ++ [(header, node)]).lookup header = some node := by
    intro node
    simp [List.lookup_append, lookup_plain, new]
  have replaced : ∀ old node, Entries.replace (plain before ++ [(header, old)]) header node =
      plain before ++ [(header, node)] := by
    intro old node
    have kept : ∀ entry ∈ plain before,
        (if entry.1 == header then (header, node) else entry) = entry := by
      intro entry member
      have free := lookup_plain before header
      rw [new, Option.map_none] at free
      have other := List.lookup_eq_none_iff.1 free entry member
      exact if_neg fun same => by simp [eq_of_beq same] at other
    rw [Entries.replace, List.map_append, List.map_congr_left kept, List.map_id']
    simp
  simp [Document.define, edit, there, replaced, define_plain value unused]

end ServiceLocation.Toml
