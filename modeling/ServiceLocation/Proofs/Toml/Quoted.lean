import ServiceLocation.Proofs.Text.Characters
import ServiceLocation.Proofs.Text.Reading
import ServiceLocation.Toml.Quoted

/-!
**Strings of TOML are read back.**

Each of the forms in which a string is written is read to the text that was written in it, whatever comes
behind it, so long as that is no quote.

* `exists_of_escape?`, `of_escape?_eq_none`: what stands for a character between double quotes;
* `readQuotes_run`: a run of quotes is read at once;
* `readLoop_basicText`, `readLoop_longBasicText`: **escaped texts are read back**;
* `readLoop_literal`, `readLoop_longLiteral`: and so are those that stand for themselves;
* `readString_writeString`: **every text is read back** from the form that is chosen for it.
-/

namespace ServiceLocation.Toml

open ServiceLocation.Text

variable {c : Char} {text before rest : List Char}

/-! ### Characters -/

theorem needsCode_eq_false_iff : needsCode c = false ↔ isLineChar c = true ∨ c = '\n' := by
  simp [needsCode, or_iff_not_imp_left]

theorem toNat_lt_of_needsCode (needs : needsCode c = true) : c.toNat < 128 := by
  simp only [needsCode, isLineChar, Bool.and_eq_true, Bool.not_eq_true', Bool.or_eq_false_iff,
    Bool.and_eq_false_iff, decide_eq_false_iff_not, bne_eq_false_iff_eq] at needs
  omega

/-- A character in a line is no end of it. -/
theorem readNewline_of_isLineChar (plain : isLineChar c = true) (rest : List Char) :
    readNewline (c :: rest) = none := by
  have other : ∀ d, isLineChar d = false → c ≠ d := fun d control same => by
    rw [same, control] at plain
    cases plain
  unfold readNewline
  split
  · rename_i starts
    exact absurd (List.cons.inj starts).1 (other '\n' rfl)
  · rename_i starts
    exact absurd (List.cons.inj starts).1 (other '\r' rfl)
  · rfl

/-! ### Escapes -/

/-- A control character is read back from its code point. -/
theorem readCode_codeEscape (small : c.toNat < 128) (rest : List Char) :
    readCode 4 ('0' :: '0' :: capitalDigit (c.toNat / 16) :: capitalDigit (c.toNat % 16) :: rest) =
      some (c, rest) := by
  have digits : number? 16 ['0', '0', capitalDigit (c.toNat / 16), capitalDigit (c.toNat % 16)] =
      some c.toNat :=
    of_toNat_lt (P := fun c => number? 16
      ['0', '0', capitalDigit (c.toNat / 16), capitalDigit (c.toNat % 16)] = some c.toNat)
      (by decide +kernel) small
  have valid : charOfCode? c.toNat = some c := by
    rw [charOfCode?, Char.ofNat_toNat]
    exact if_pos c.valid
  simp [readCode, digits, valid]

/-- **What stands for a character between double quotes is read as the character.** It does not look
like the end of a line behind a backslash. -/
theorem exists_of_escape? {isLong : Bool} {escape : List Char} (is : escape? isLong c = some escape) :
    ∃ letter code, escape = '\\' :: letter :: code ∧ isSpace letter = false ∧
      (∀ rest, readNewline (letter :: rest) = none) ∧
      ∀ rest, readEscape (letter :: (code ++ rest)) = some (c, rest) := by
  unfold escape? at is
  split at is
  · obtain rfl := Option.some.inj is
    exact ⟨'b', [], rfl, rfl, fun _ => rfl, fun _ => rfl⟩
  · obtain rfl := Option.some.inj is
    exact ⟨'t', [], rfl, rfl, fun _ => rfl, fun _ => rfl⟩
  · obtain ⟨_, same⟩ := Option.ite_none_left_eq_some.1 is
    obtain rfl := Option.some.inj same
    exact ⟨'n', [], rfl, rfl, fun _ => rfl, fun _ => rfl⟩
  · obtain rfl := Option.some.inj is
    exact ⟨'f', [], rfl, rfl, fun _ => rfl, fun _ => rfl⟩
  · obtain rfl := Option.some.inj is
    exact ⟨'r', [], rfl, rfl, fun _ => rfl, fun _ => rfl⟩
  · obtain rfl := Option.some.inj is
    exact ⟨'\\', [], rfl, rfl, fun _ => rfl, fun _ => rfl⟩
  · obtain ⟨needs, same⟩ := Option.ite_none_right_eq_some.1 is
    obtain rfl := Option.some.inj same
    exact ⟨'u', _, rfl, rfl, fun _ => rfl, readCode_codeEscape (toNat_lt_of_needsCode needs)⟩

/-- A character that stands for itself between double quotes is no backslash, and may stand in a line
or, between three of them, is an end of a line. -/
theorem of_escape?_eq_none {isLong : Bool} (none : escape? isLong c = none) :
    c ≠ '\\' ∧ (isLineChar c = true ∨ isLong = true ∧ c = '\n') := by
  unfold escape? at none
  split at none
  · cases none
  · cases none
  · exact ⟨by decide, .inr ⟨by simpa using none, rfl⟩⟩
  · cases none
  · cases none
  · cases none
  · rename_i noNewline _ _ noBackslash
    have plain : needsCode c = false := by simpa using none
    exact ⟨noBackslash, .inl ((needsCode_eq_false_iff.1 plain).resolve_right noNewline)⟩

/-! ### Between double quotes -/

/-- A character but a quote is written as itself or as an escape. -/
theorem basicText_cons_of_ne (isLong : Bool) (spare quotes : Nat) (noQuote : c ≠ '"') :
    basicText isLong spare quotes (c :: text) =
      (escape? isLong c).getD [c] ++ basicText isLong spare 0 text := by
  rw [basicText, if_neg noQuote]
  cases escape? isLong c <;> rfl

theorem basicStep_plain (noQuote : c ≠ '"') (noBackslash : c ≠ '\\') (plain : isLineChar c = true) :
    basicStep before (c :: rest) = some (.more (c :: before), rest) := by
  unfold basicStep
  split
  · contradiction
  · rename_i starts
    exact absurd (List.cons.inj starts).1 noQuote
  · rename_i starts
    exact absurd (List.cons.inj starts).1 noBackslash
  · rename_i starts
    obtain ⟨rfl, rfl⟩ := List.cons.inj starts
    exact if_pos plain

/-- What a character is written as between double quotes is read as the character. -/
theorem basicStep_written (noQuote : c ≠ '"') :
    ∃ first more, (escape? false c).getD [c] = first :: more ∧ ∀ before rest,
      basicStep before (first :: (more ++ rest)) = some (.more (c :: before), rest) := by
  cases written : escape? false c with
  | some escape =>
    obtain ⟨letter, code, rfl, _, _, reads⟩ := exists_of_escape? written
    exact ⟨_, _, rfl, fun before rest => by simp [basicStep, reads]⟩
  | none =>
    obtain ⟨noBackslash, plain | ⟨long, _⟩⟩ := of_escape?_eq_none written
    · exact ⟨c, [], rfl, fun _ _ => basicStep_plain noQuote noBackslash plain⟩
    · cases long

/-- **What is written between double quotes is read back.** -/
theorem readLoop_basicText (text before rest : List Char) :
    readLoop basicStep before (basicText false 0 0 text ++ '"' :: rest) =
      some (before.reverse ++ text, rest) := by
  induction text generalizing before with
  | nil =>
    rw [List.append_nil]
    exact readLoop_of_done rfl
  | cons c text ih =>
    have result : before.reverse ++ c :: text = (c :: before).reverse ++ text := by simp
    rw [result, ← ih (c :: before)]
    by_cases quote : c = '"'
    · subst quote
      rw [basicText, if_pos rfl, if_neg (Nat.lt_irrefl 0)]
      exact readLoop_of_more rfl (by simp +arith)
    · obtain ⟨first, more, written, reads⟩ := basicStep_written quote
      rw [basicText_cons_of_ne false 0 0 quote, written, List.append_assoc, List.cons_append]
      exact readLoop_of_more (reads before _) (by simp +arith)

/-! ### Runs of quotes -/

theorem readQuotes_run {quote : Char} (other : rest.head? ≠ some quote) (count : Nat)
    (before : List Char) :
    readQuotes quote before (List.replicate count quote ++ rest) =
      if count ≤ 2 then some (.more (List.replicate count quote ++ before), rest)
      else if count ≤ 5 then
        some (.done (List.replicate (count - 3) quote ++ before).reverse, rest)
      else none := by
  have run : (List.replicate count quote ++ rest).takeWhile (· == quote) =
      List.replicate count quote := by
    rw [List.takeWhile_append_of_pos (by simp [List.mem_replicate])]
    cases rest with
    | nil => simp
    | cons c rest =>
      have next : c ≠ quote := by simpa using other
      simp [next]
  have behind : (List.replicate count quote ++ rest).drop count = rest :=
    List.drop_left' List.length_replicate
  simp only [readQuotes, run, behind, List.length_replicate]

/-- A step that reads a run of quotes at once. -/
def ReadsQuotes (quote : Char)
    (step : List Char → List Char → Option (Progress (List Char) (List Char) × List Char)) : Prop :=
  ∀ before rest, step before (quote :: rest) = readQuotes quote before (quote :: rest)

section

variable {quote : Char} {count : Nat}
  {step : List Char → List Char → Option (Progress (List Char) (List Char) × List Char)}

theorem ReadsQuotes.run (reads : ReadsQuotes quote step) (positive : 0 < count) :
    step before (List.replicate count quote ++ rest) =
      readQuotes quote before (List.replicate count quote ++ rest) := by
  cases count with
  | zero => cases positive
  | succ count => exact reads before _

/-- Up to two quotes stand for themselves. -/
theorem ReadsQuotes.readLoop_run (reads : ReadsQuotes quote step) (few : count ≤ 2)
    (other : rest.head? ≠ some quote) :
    readLoop step before (List.replicate count quote ++ rest) =
      readLoop step (List.replicate count quote ++ before) rest := by
  rcases Nat.eq_zero_or_pos count with rfl | positive
  · rfl
  · refine readLoop_of_more ?_ (by simp [positive])
    rw [reads.run positive, readQuotes_run other, if_pos few]

/-- Three quotes end a string, in front of which up to two stand for themselves. -/
theorem ReadsQuotes.readLoop_end (reads : ReadsQuotes quote step) (few : count ≤ 2)
    (other : rest.head? ≠ some quote) :
    readLoop step before (List.replicate count quote ++ ([quote, quote, quote] ++ rest)) =
      some (before.reverse ++ List.replicate count quote, rest) := by
  have run : List.replicate count quote ++ ([quote, quote, quote] ++ rest) =
      List.replicate (count + 3) quote ++ rest := by
    rw [← List.append_assoc, ← List.replicate_append_replicate]
    rfl
  rw [run]
  apply readLoop_of_done
  rw [reads.run (Nat.add_pos_right count (Nat.succ_pos 2)), readQuotes_run other,
    if_neg (by omega), if_pos (by omega),
    Nat.add_sub_cancel, List.reverse_append, List.reverse_replicate]

end

/-! ### Between three quotes -/

theorem readsQuotes_longBasicStep : ReadsQuotes '"' longBasicStep := fun _ _ => rfl

theorem readsQuotes_longLiteralStep : ReadsQuotes '\'' longLiteralStep := fun _ _ => rfl

theorem longBasicStep_plain (noQuote : c ≠ '"') (noBackslash : c ≠ '\\')
    (plain : isLineChar c = true ∨ c = '\n') :
    longBasicStep before (c :: rest) = some (.more (c :: before), rest) := by
  unfold longBasicStep
  split
  · contradiction
  · rename_i starts
    exact absurd (List.cons.inj starts).1 noQuote
  · rename_i starts
    exact absurd (List.cons.inj starts).1 noBackslash
  · rename_i starts
    obtain ⟨rfl, rfl⟩ := List.cons.inj starts
    rcases plain with inLine | rfl
    · rw [readNewline_of_isLineChar inLine]
      exact if_pos inLine
    · rfl

/-- What a character is written as between three double quotes is read as the character. -/
theorem longBasicStep_written (noQuote : c ≠ '"') :
    ∃ first more, (escape? true c).getD [c] = first :: more ∧ first ≠ '"' ∧ ∀ before rest,
      longBasicStep before (first :: (more ++ rest)) = some (.more (c :: before), rest) := by
  cases written : escape? true c with
  | some escape =>
    obtain ⟨letter, code, rfl, noSpace, noNewline, reads⟩ := exists_of_escape? written
    refine ⟨_, _, rfl, by decide, fun before rest => ?_⟩
    have stays : (letter :: (code ++ rest)).dropWhile isSpace = letter :: (code ++ rest) :=
      List.dropWhile_cons_of_neg (by simp [noSpace])
    simp [longBasicStep, stays, noNewline, reads]
  | none =>
    obtain ⟨noBackslash, plain⟩ := of_escape?_eq_none written
    exact ⟨c, [], rfl, noQuote, fun _ _ =>
      longBasicStep_plain noQuote noBackslash (plain.imp_right And.right)⟩

theorem longLiteralStep_plain (noQuote : c ≠ '\'') (plain : isLineChar c = true ∨ c = '\n') :
    longLiteralStep before (c :: rest) = some (.more (c :: before), rest) := by
  unfold longLiteralStep
  split
  · contradiction
  · rename_i starts
    exact absurd (List.cons.inj starts).1 noQuote
  · rename_i starts
    obtain ⟨rfl, rfl⟩ := List.cons.inj starts
    rcases plain with inLine | rfl
    · rw [readNewline_of_isLineChar inLine]
      exact if_pos inLine
    · rfl

/-- **What is written between three double quotes is read back**, with the quotes before it that are still
to be read. -/
theorem readLoop_longBasicText (noQuote : rest.head? ≠ some '"') (text before : List Char) {count : Nat}
    (few : count ≤ 2) :
    readLoop longBasicStep before
        (List.replicate count '"' ++ (basicText true 2 count text ++ (['"', '"', '"'] ++ rest))) =
      some (before.reverse ++ List.replicate count '"' ++ text, rest) := by
  induction text generalizing before count with
  | nil =>
    rw [List.append_nil]
    exact readsQuotes_longBasicStep.readLoop_end few noQuote
  | cons c text ih =>
    by_cases quote : c = '"'
    · subst quote
      rw [basicText, if_pos rfl]
      split
      · -- One quote more is still to be read.
        rename_i below
        have one := ih before (Nat.succ_le_of_lt below)
        rw [List.replicate_succ', List.append_assoc, ← List.append_assoc before.reverse,
          List.append_assoc (before.reverse ++ _)] at one
        exact one
      · -- The run is full: it is read, and then the quote, which is escaped.
        rw [List.cons_append, List.cons_append,
          readsQuotes_longBasicStep.readLoop_run few (by simp), readLoop_of_more rfl (by simp +arith)]
        have later := ih ('"' :: (List.replicate count '"' ++ before)) (Nat.zero_le 2)
        simpa using later
    · obtain ⟨first, more, written, notQuote, reads⟩ := longBasicStep_written quote
      rw [basicText_cons_of_ne true 2 count quote, written, List.append_assoc, List.cons_append,
        readsQuotes_longBasicStep.readLoop_run few (by simp [notQuote]),
        readLoop_of_more (reads _ _) (by simp +arith)]
      have later := ih (c :: (List.replicate count '"' ++ before)) (Nat.zero_le 2)
      simpa using later

/-! ### Between single quotes -/

theorem literalStep_plain (noQuote : c ≠ '\'') (plain : isLineChar c = true) :
    literalStep before (c :: rest) = some (.more (c :: before), rest) := by
  unfold literalStep
  split
  · contradiction
  · rename_i starts
    exact absurd (List.cons.inj starts).1 noQuote
  · rename_i starts
    obtain ⟨rfl, rfl⟩ := List.cons.inj starts
    exact if_pos plain

/-- **A text without single quotes and controls is read back from between single quotes.** -/
theorem readLoop_literal (noQuote : '\'' ∉ text) (plain : ∀ c ∈ text, isLineChar c = true) :
    readLoop literalStep before (text ++ '\'' :: rest) = some (before.reverse ++ text, rest) := by
  induction text generalizing before with
  | nil =>
    rw [List.append_nil]
    exact readLoop_of_done rfl
  | cons c text ih =>
    obtain ⟨here, later⟩ := List.forall_mem_cons.1 plain
    obtain ⟨notQuote, noQuotes⟩ := not_or.1 (mt List.mem_cons.2 noQuote)
    have result : before.reverse ++ c :: text = (c :: before).reverse ++ text := by simp
    rw [result, ← ih noQuotes later]
    exact readLoop_of_more (literalStep_plain (Ne.symm notQuote) here) (by simp)

/-- A run of a character goes on for longer than it has until now. -/
theorem le_longestRun (c : Char) (count : Nat) (text : List Char) : count ≤ longestRun c count text := by
  induction text generalizing count with
  | nil => exact Nat.le_refl count
  | cons d text ih =>
    rw [longestRun]
    split
    · exact Nat.le_trans (Nat.le_succ count) (ih (count + 1))
    · exact Nat.le_max_left _ _

/-- **A text without controls and with at most two single quotes in a row is read back from between three
of them**, with the quotes before it that are still to be read. -/
theorem readLoop_longLiteral (other : rest.head? ≠ some '\'') {count : Nat}
    (few : longestRun '\'' count text ≤ 2) (plain : ∀ c ∈ text, isLineChar c = true ∨ c = '\n') :
    readLoop longLiteralStep before
        (List.replicate count '\'' ++ (text ++ (['\'', '\'', '\''] ++ rest))) =
      some (before.reverse ++ List.replicate count '\'' ++ text, rest) := by
  induction text generalizing before count with
  | nil =>
    rw [List.append_nil]
    exact readsQuotes_longLiteralStep.readLoop_end few other
  | cons c text ih =>
    obtain ⟨here, later⟩ := List.forall_mem_cons.1 plain
    rw [longestRun] at few
    split at few
    · -- One quote more is still to be read.
      rename_i quote
      subst quote
      have one := @ih before (count + 1) few later
      rw [List.replicate_succ', List.append_assoc, ← List.append_assoc before.reverse,
        List.append_assoc (before.reverse ++ _)] at one
      exact one
    · rename_i noQuote
      obtain ⟨run, others⟩ := Nat.max_le.1 few
      rw [List.cons_append, readsQuotes_longLiteralStep.readLoop_run run (by simp [noQuote]),
        readLoop_of_more (longLiteralStep_plain noQuote here) (by simp)]
      have last := @ih (c :: (List.replicate count '\'' ++ before)) 0 others later
      simpa using last

/-! ### The form that is chosen -/

/-- A string in one quote on each side does not look like one in three. -/
theorem readString_of_double (alone : ∀ more, text = '"' :: more → more.head? ≠ some '"') :
    readString ('"' :: text) = readLoop basicStep [] text := by
  unfold readString
  split
  · rename_i more starts
    exact absurd rfl (alone ('"' :: more) (List.cons.inj starts).2)
  · rename_i starts
    cases (List.cons.inj starts).1
  · rfl

theorem readString_of_single (alone : ∀ more, text = '\'' :: more → more.head? ≠ some '\'') :
    readString ('\'' :: text) = readLoop literalStep [] text := by
  unfold readString
  split
  · rename_i starts
    cases (List.cons.inj starts).1
  · rename_i more starts
    exact absurd rfl (alone ('\'' :: more) (List.cons.inj starts).2)
  · rfl

theorem readString_basic (noQuote : rest.head? ≠ some '"') :
    readString (delimited ['"'] (basicText false 0 0 text) false ++ rest) = some (text, rest) := by
  have whole : delimited ['"'] (basicText false 0 0 text) false ++ rest =
      '"' :: (basicText false 0 0 text ++ '"' :: rest) := by simp [delimited]
  rw [whole, readString_of_double, readLoop_basicText]
  · rfl
  · intro more starts
    cases text with
    | nil =>
      obtain rfl := (List.cons.inj starts).2
      exact noQuote
    | cons c text =>
      -- A written character never starts with a quote.
      by_cases quote : c = '"'
      · rw [quote, basicText, if_pos rfl, if_neg (Nat.lt_irrefl 0)] at starts
        cases (List.cons.inj starts).1
      · rw [basicText_cons_of_ne false 0 0 quote] at starts
        cases written : escape? false c with
        | some escape =>
          obtain ⟨letter, code, rfl, _⟩ := exists_of_escape? written
          rw [written] at starts
          cases (List.cons.inj starts).1
        | none =>
          rw [written] at starts
          exact absurd (List.cons.inj starts).1 quote

theorem readString_literal (noQuote : rest.head? ≠ some '\'') (inside : '\'' ∉ text)
    (plain : ∀ c ∈ text, isLineChar c = true) :
    readString (delimited ['\''] text false ++ rest) = some (text, rest) := by
  have whole : delimited ['\''] text false ++ rest = '\'' :: (text ++ '\'' :: rest) := by
    simp [delimited]
  rw [whole, readString_of_single, readLoop_literal inside plain]
  · rfl
  · intro more starts
    cases text with
    | nil =>
      obtain rfl := (List.cons.inj starts).2
      exact noQuote
    | cons c text => exact absurd ((List.cons.inj starts).1 ▸ List.mem_cons_self) inside

/-- The end of a line that is put in front of a text with several lines is taken away again. -/
theorem skipNewline_append {breaks : Bool} (starts : breaks = false → readNewline text = none) :
    skipNewline ((if breaks then ['\n'] else []) ++ text) = text := by
  cases breaks with
  | false => rw [skipNewline, if_neg Bool.false_ne_true, List.nil_append, starts rfl]; rfl
  | true => rfl

theorem readNewline_of_escape {isLong : Bool} (other : c ≠ '\n') (more : List Char) :
    readNewline ((escape? isLong c).getD [c] ++ more) = none := by
  cases written : escape? isLong c with
  | some escape =>
    obtain ⟨letter, code, rfl, _⟩ := exists_of_escape? written
    rfl
  | none =>
    obtain ⟨_, plain⟩ := of_escape?_eq_none written
    exact readNewline_of_isLineChar (plain.resolve_right fun is => other is.2) more

theorem readString_longBasic (noQuote : rest.head? ≠ some '"') :
    readString (delimited ['"', '"', '"'] (basicText true 2 0 text) (text.contains '\n') ++ rest) =
      some (text, rest) := by
  have whole : delimited ['"', '"', '"'] (basicText true 2 0 text) (text.contains '\n') ++ rest =
      '"' :: '"' :: '"' :: ((if text.contains '\n' then ['\n'] else []) ++
        (basicText true 2 0 text ++ (['"', '"', '"'] ++ rest))) := by simp [delimited]
  rw [whole, readString, skipNewline_append, ← List.nil_append (basicText true 2 0 text ++ _)]
  · exact readLoop_longBasicText noQuote text [] (Nat.zero_le 2)
  · intro noNewline
    have notIn : '\n' ∉ text := by simpa using noNewline
    cases text with
    | nil => rfl
    | cons c text =>
      by_cases quote : c = '"'
      · rw [quote, basicText, if_pos rfl, if_pos Nat.two_pos]
        rfl
      · rw [basicText_cons_of_ne true 2 0 quote, List.append_assoc]
        exact readNewline_of_escape (fun is => notIn (is ▸ List.mem_cons_self)) _

theorem readString_longLiteral (noQuote : rest.head? ≠ some '\'')
    (few : longestRun '\'' 0 text ≤ 2) (plain : ∀ c ∈ text, isLineChar c = true ∨ c = '\n') :
    readString (delimited ['\'', '\'', '\''] text (text.contains '\n') ++ rest) =
      some (text, rest) := by
  have whole : delimited ['\'', '\'', '\''] text (text.contains '\n') ++ rest =
      '\'' :: '\'' :: '\'' :: ((if text.contains '\n' then ['\n'] else []) ++
        (text ++ (['\'', '\'', '\''] ++ rest))) := by simp [delimited]
  rw [whole, readString, skipNewline_append, ← List.nil_append (text ++ _)]
  · exact readLoop_longLiteral noQuote few plain
  · intro noNewline
    have notIn : '\n' ∉ text := by simpa using noNewline
    cases text with
    | nil => rfl
    | cons c text =>
      have inLine := (plain c List.mem_cons_self).resolve_right fun is =>
        notIn (is ▸ List.mem_cons_self)
      exact readNewline_of_isLineChar inLine _

theorem notMem_of_longestRun {count : Nat} (none : longestRun c count text = 0) : c ∉ text := by
  induction text generalizing count with
  | nil => exact List.not_mem_nil
  | cons d text ih =>
    rw [longestRun] at none
    split at none
    · exact absurd none (Nat.ne_of_gt (Nat.lt_of_lt_of_le (Nat.succ_pos count) (le_longestRun c _ _)))
    · rename_i other
      exact List.not_mem_cons_of_ne_of_not_mem (Ne.symm other) (ih (Nat.max_eq_zero_iff.1 none).2)

/-- **Every text is read back** from the form that is chosen for it, if no quote comes behind it. -/
theorem readString_writeString (text : List Char) (noDouble : rest.head? ≠ some '"')
    (noSingle : rest.head? ≠ some '\'') : readString (writeString text ++ rest) = some (text, rest) := by
  have plain : text.any needsCode = false → ∀ c ∈ text, isLineChar c = true ∨ c = '\n' :=
    fun noCode c member => needsCode_eq_false_iff.1 (by simpa using List.any_eq_false.1 noCode c member)
  unfold writeString
  dsimp only
  split
  · exact readString_basic noDouble
  split
  · rename_i form
    simp only [Bool.and_eq_true, Bool.not_eq_true', beq_iff_eq] at form
    obtain ⟨⟨noCode, noQuote⟩, noNewline⟩ := form
    refine readString_literal noSingle (notMem_of_longestRun noQuote) fun c member => ?_
    have notIn : '\n' ∉ text := by simpa using noNewline
    exact (plain noCode c member).resolve_right fun is => notIn (is ▸ member)
  split
  · exact readString_longBasic noDouble
  split
  · rename_i form
    simp only [Bool.and_eq_true, Bool.not_eq_true', decide_eq_true_eq] at form
    exact readString_longLiteral noSingle form.2 (plain form.1)
  split
  · exact readString_longBasic noDouble
  · exact readString_basic noDouble

end ServiceLocation.Toml
