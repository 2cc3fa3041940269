import ServiceLocation.Proofs.Json.Grammar
import ServiceLocation.Proofs.Text.Characters
import ServiceLocation.Proofs.Text.Numeral

/-!
**Strings and numbers of JSON are read as the grammar says.**

* `readUnits_eq_some_iff`, `readString_eq_some_iff`: **what a string is read as**;
* `stringText_quoted`: **every text is written as a string of it**;
* `readNumber_append`, `numberText_of_readNumber`: **what numbers are read as**.
-/

namespace ServiceLocation.Json

open ServiceLocation.Text

variable {text rest : List Char}

/-! ### Strings -/

/-- A unit is read from what it is written as, whatever comes behind it. -/
theorem readUnits_of_unitText {first : List Char} {unit : Nat} (written : UnitText first unit)
    (rest : List Char) :
    readUnits (first ++ rest) = (readUnits rest).map fun (units, after) => (unit :: units, after) := by
  cases written with
  | @plain c visible noQuote noBackslash =>
    have shown : ¬(c.toNat < 0x20 ∨ c = '\\') := not_or_intro (Nat.not_lt.2 visible) noBackslash
    exact (readUnits.eq_5 c rest noQuote (fun _ _ _ _ _ is _ => noBackslash is)
      fun _ _ is _ => noBackslash is).trans (if_neg shown)
  | @letter letter c stands =>
    have noCode : letter ≠ 'u' := fun is => by
      rw [is] at stands
      cases stands
    have step := readUnits.eq_4 letter rest fun _ _ _ _ _ is _ => noCode is
    rw [List.cons_append, List.singleton_append, step, stands]
    cases readUnits rest <;> rfl
  | @code a b c d unit digits =>
    have step := readUnits.eq_3 a b c d rest
    rw [digits] at step
    refine Eq.trans step ?_
    cases readUnits rest <;> rfl

theorem readUnits_of_unitsText {inside : List Char} {units : List Nat} (written : UnitsText inside units)
    (rest : List Char) : readUnits (inside ++ '"' :: rest) = some (units, rest) := by
  induction written with
  | nil => rfl
  | cons here later ih =>
    rw [List.append_assoc, readUnits_of_unitText here, ih]
    rfl

theorem unitsText_of_readUnits {units : List Nat} (read : readUnits text = some (units, rest)) :
    ∃ inside, UnitsText inside units ∧ text = inside ++ '"' :: rest := by
  fun_induction readUnits text generalizing units rest with
  | case1 => cases read
  | case2 text =>
    cases read
    exact ⟨[], .nil, rfl⟩
  | case3 a b c d text ih =>
    obtain ⟨unit, digits, read⟩ := Option.bind_eq_some_iff.1 read
    obtain ⟨⟨later, after⟩, here, same⟩ := Option.bind_eq_some_iff.1 read
    obtain ⟨inside, written, is⟩ := ih here
    cases same
    exact ⟨_, .cons (.code digits) written, by simp [is]⟩
  | case4 letter text _ ih =>
    obtain ⟨c, stands, read⟩ := Option.bind_eq_some_iff.1 read
    obtain ⟨⟨later, after⟩, here, same⟩ := Option.bind_eq_some_iff.1 read
    obtain ⟨inside, written, is⟩ := ih here
    cases same
    exact ⟨_, .cons (.letter stands) written, by simp [is]⟩
  | case5 => cases read
  | case6 c text noQuote _ _ shown ih =>
    obtain ⟨⟨later, after⟩, here, same⟩ := Option.map_eq_some_iff.1 read
    obtain ⟨inside, written, is⟩ := ih here
    obtain ⟨visible, noBackslash⟩ := not_or.1 shown
    cases same
    exact ⟨_, .cons (.plain (Nat.not_lt.1 visible) noQuote noBackslash) written, by simp [is]⟩

/-- **A string is read just from what it may be written as.** -/
theorem readString_eq_some_iff {content : Option (List Char)} :
    readString text = some (content, rest) ↔
      ∃ quoted, StringText quoted content ∧ '"' :: text = quoted ++ rest := by
  constructor
  · intro read
    obtain ⟨⟨units, after⟩, here, same⟩ := Option.map_eq_some_iff.1 read
    obtain ⟨inside, written, is⟩ := unitsText_of_readUnits here
    cases same
    exact ⟨_, .quotes written, by simp [is]⟩
  · rintro ⟨_, ⟨written⟩, is⟩
    rw [List.cons_append, List.append_assoc, List.singleton_append] at is
    rw [(List.cons.inj is).2, readString, readUnits_of_unitsText written]
    rfl

/-! ### Strings of texts -/

theorem charOfCode?_toNat (c : Char) : charOfCode? c.toNat = some c := by
  rw [charOfCode?, Char.ofNat_toNat]
  exact if_pos c.valid

theorem isHigh_toNat (c : Char) : Utf16.isHigh c.toNat = false := by
  have valid : c.toNat.isValidChar := c.valid
  simp only [Nat.isValidChar] at valid
  simp only [Utf16.isHigh, Bool.and_eq_false_iff, decide_eq_false_iff_not]
  omega

/-- A character stands for itself among units, also where it has two of them. -/
theorem decodeUnits?_toNat (text : List Char) :
    Utf16.decodeUnits? (text.map Char.toNat) = some text := by
  induction text with
  | nil => rfl
  | cons c text ih =>
    cases text with
    | nil => simp [Utf16.decodeUnits?, charOfCode?_toNat]
    | cons d text =>
      rw [List.map_cons] at ih
      simp [Utf16.decodeUnits?, isHigh_toNat, charOfCode?_toNat, ih]

theorem number?_fourDigits {code : Nat} (small : code < 0x20) :
    number? 16 (fourDigits code) = some code := by
  have all : ∀ code < 0x20, number? 16 (fourDigits code) = some code := by decide
  exact all code small

theorem unitText_quotedChar (c : Char) : UnitText (quotedChar c) c.toNat := by
  unfold quotedChar
  split
  · exact .letter rfl
  · exact .letter rfl
  · exact .letter rfl
  · exact .letter rfl
  · exact .letter rfl
  · exact .letter rfl
  · exact .letter rfl
  · rename_i noQuote noBackslash _ _ _ _ _
    split
    · rename_i control
      exact .code (number?_fourDigits control)
    · rename_i visible
      exact .plain (Nat.not_lt.1 visible) noQuote noBackslash

theorem unitsText_quoted (text : List Char) :
    UnitsText (text.flatMap quotedChar) (text.map Char.toNat) := by
  induction text with
  | nil => exact .nil
  | cons c text ih => exact .cons (unitText_quotedChar c) ih

/-- **Every text is written as a string of it.** -/
theorem stringText_quoted (text : List Char) : StringText (quoted text) (some text) := by
  rw [← decodeUnits?_toNat text]
  exact .quotes (unitsText_quoted text)

/-! ### Numbers -/

/-- Nothing in front that `continues` what was read. -/
def NoStart (continues : Char → Bool) (rest : List Char) : Prop :=
  ∀ c, rest.head? = some c → continues c = false

theorem takeWhile_append_of_noStart {p : Char → Bool} {front : List Char}
    (all : ∀ c ∈ front, p c = true) (stops : NoStart p rest) :
    (front ++ rest).takeWhile p = front ∧ (front ++ rest).dropWhile p = rest := by
  rw [List.takeWhile_append_of_pos all, List.dropWhile_append_of_pos all]
  cases rest with
  | nil => simp
  | cons c rest =>
    have stop : ¬p c = true := by simp [stops c rfl]
    simp [stop]

theorem readDigits_append {digits : List Char} (written : Digits digits)
    (stops : NoStart Char.isDigit rest) : readDigits (digits ++ rest) = some (digits, rest) := by
  obtain ⟨taken, left⟩ := takeWhile_append_of_noStart written.all stops
  rw [readDigits, taken, left]
  exact if_neg (by simp [written.nonempty])

theorem digits_of_readDigits {digits : List Char} (read : readDigits text = some (digits, rest)) :
    Digits digits ∧ text = digits ++ rest := by
  obtain ⟨nonempty, same⟩ := Option.ite_none_left_eq_some.1 read
  cases same
  refine ⟨⟨by simpa using nonempty, List.all_eq_true.1 List.all_takeWhile⟩, ?_⟩
  exact (List.takeWhile_append_dropWhile).symm

theorem Digits.append_ne {digits : List Char} (written : Digits digits) {c : Char}
    (noDigit : c.isDigit = false) {more : List Char} : digits ++ rest ≠ c :: more := by
  cases is : digits with
  | nil => exact absurd is written.nonempty
  | cons d digits =>
    have digit := written.all d (is ▸ List.mem_cons_self)
    exact fun starts => ne_of_kind digit noDigit (List.cons.inj starts).1

theorem readWhole_append {whole : List Char} (written : WholeText whole)
    (stops : NoStart Char.isDigit rest) : readWhole (whole ++ rest) = some (whole, rest) := by
  cases written with
  | zero =>
    cases rest with
    | nil => rfl
    | cons c rest => simp [readWhole, stops c rfl]
  | @digits first more digits noZero =>
    have step := readWhole.eq_2 (first :: (more ++ rest)) fun _ _ is => noZero (List.cons.inj is).1
    exact step.trans (readDigits_append digits stops)

theorem wholeText_of_readWhole {whole : List Char} (read : readWhole text = some (whole, rest)) :
    WholeText whole ∧ text = whole ++ rest := by
  unfold readWhole at read
  split at read
  · obtain ⟨_, same⟩ := Option.ite_none_left_eq_some.1 read
    cases same
    exact ⟨.zero, rfl⟩
  · rename_i other
    obtain ⟨digits, is⟩ := digits_of_readDigits read
    refine ⟨?_, is⟩
    cases whole with
    | nil => exact absurd rfl digits.nonempty
    | cons first more =>
      by_cases zero : first = '0'
      · cases more with
        | nil => exact zero ▸ .zero
        | cons second more => exact absurd (zero ▸ is) (other second (more ++ rest))
      · exact .digits digits zero

/-- Whether a character would go on with a number. -/
def continuesNumber (c : Char) : Bool := c.isDigit || c == '.' || c == 'e' || c == 'E'

theorem NoStart.mono {p q : Char → Bool} (stops : NoStart q rest) (le : ∀ c, p c = true → q c = true) :
    NoStart p rest := fun c first =>
  Bool.eq_false_iff.2 fun continues => absurd (le c continues) (by simp [stops c first])

theorem NoStart.digit (stops : NoStart continuesNumber rest) : NoStart Char.isDigit rest :=
  stops.mono fun c digit => by simp [continuesNumber, digit]

theorem readFraction_append {fraction : List Char} (written : FractionText fraction)
    (stops : NoStart (fun c => c.isDigit || c == '.') rest) :
    readFraction (fraction ++ rest) = some (fraction, rest) := by
  cases written with
  | none =>
    refine readFraction.eq_2 rest fun more is => ?_
    have point := stops '.' (by rw [is]; rfl)
    cases point
  | point behind =>
    have digits := readDigits_append behind (stops.mono fun c digit => by simp [digit])
    simp [readFraction, digits]

theorem fractionText_of_readFraction {fraction : List Char}
    (read : readFraction text = some (fraction, rest)) :
    FractionText fraction ∧ text = fraction ++ rest := by
  unfold readFraction at read
  split at read
  · obtain ⟨⟨digits, after⟩, here, same⟩ := Option.map_eq_some_iff.1 read
    obtain ⟨behind, is⟩ := digits_of_readDigits here
    cases same
    exact ⟨.point behind, by rw [is]; rfl⟩
  · cases read
    exact ⟨.none, rfl⟩

theorem readExponent_append {exponent : List Char} (written : ExponentText exponent)
    (stops : NoStart continuesNumber rest) :
    readExponent (exponent ++ rest) = some (exponent, rest) := by
  cases written with
  | none =>
    cases rest with
    | nil => rfl
    | cons c rest =>
      have other := stops c rfl
      simp only [continuesNumber, Bool.or_eq_false_iff, beq_eq_false_iff_ne] at other
      simp [readExponent, other]
  | @mark mark sign digits isMark isSign behind =>
    have read := readDigits_append behind stops.digit
    simp only [List.mem_cons, List.not_mem_nil, or_false] at isSign
    rcases isSign with rfl | rfl | rfl
    · have step := readExponent.eq_3 mark (digits ++ rest) (fun _ => behind.append_ne rfl)
        fun _ => behind.append_ne rfl
      refine step.trans ?_
      rw [if_pos isMark, read]
      rfl
    · refine (readExponent.eq_1 mark (digits ++ rest)).trans ?_
      rw [if_pos isMark, read]
      rfl
    · refine (readExponent.eq_2 mark (digits ++ rest)).trans ?_
      rw [if_pos isMark, read]
      rfl

theorem exponentText_of_readExponent {exponent : List Char}
    (read : readExponent text = some (exponent, rest)) :
    ExponentText exponent ∧ text = exponent ++ rest := by
  unfold readExponent at read
  split at read
  · rename_i mark more
    split at read
    · rename_i isMark
      split at read
      rename_i sign start chosen
      obtain ⟨⟨digits, after⟩, here, same⟩ := Option.map_eq_some_iff.1 read
      obtain ⟨behind, is⟩ := digits_of_readDigits here
      cases same
      split at chosen
      all_goals
        cases chosen
        exact ⟨.mark isMark (by simp) behind, by simp [is]⟩
    · cases read
      exact ⟨.none, rfl⟩
  · cases read
    exact ⟨.none, rfl⟩

theorem noStart_exponent {exponent : List Char} (written : ExponentText exponent)
    (stops : NoStart continuesNumber rest) :
    NoStart (fun c => c.isDigit || c == '.') (exponent ++ rest) := by
  cases written with
  | none =>
    exact stops.mono fun c continues => by
      simp only [Bool.or_eq_true, beq_iff_eq] at continues
      rcases continues with digit | point <;> simp [continuesNumber, *]
  | mark isMark isSign behind =>
    rintro c ⟨⟩
    rcases isMark with rfl | rfl <;> rfl

theorem noStart_fraction {fraction : List Char} (written : FractionText fraction)
    (stops : NoStart (fun c => c.isDigit || c == '.') rest) :
    NoStart Char.isDigit (fraction ++ rest) := by
  cases written with
  | none => exact stops.mono fun c digit => by simp [digit]
  | point behind =>
    rintro c ⟨⟩
    rfl

/-- **A number is read from what it is written as**, if nothing behind it goes on with it. -/
theorem readNumber_append {number : List Char} (written : NumberText number)
    (stops : NoStart continuesNumber rest) : readNumber (number ++ rest) = some (number, rest) := by
  obtain @⟨sign, whole, fraction, exponent, isSign, isWhole, isFraction, isExponent⟩ := written
  have behindFraction := noStart_exponent isExponent stops
  have readsWhole := readWhole_append isWhole (noStart_fraction isFraction behindFraction)
  have readsFraction := readFraction_append isFraction behindFraction
  have readsExponent := readExponent_append isExponent stops
  have noSign : ∀ more, whole ++ (fraction ++ (exponent ++ rest)) ≠ '-' :: more := by
    intro more starts
    cases isWhole with
    | zero => cases (List.cons.inj starts).1
    | digits digits _ => exact digits.append_ne rfl starts
  simp only [List.mem_cons, List.not_mem_nil, or_false] at isSign
  rcases isSign with rfl | rfl
  · rw [List.nil_append, List.append_assoc, List.append_assoc, readNumber.eq_2 _ noSign]
    simp [readsWhole, readsFraction, readsExponent]
  · rw [List.append_assoc, List.append_assoc, List.append_assoc, List.singleton_append,
      readNumber.eq_1]
    simp [readsWhole, readsFraction, readsExponent]

theorem numberText_of_readNumber {number : List Char} (read : readNumber text = some (number, rest)) :
    NumberText number ∧ text = number ++ rest := by
  unfold readNumber at read
  split at read
  rename_i sign start chosen
  obtain ⟨⟨whole, behindWhole⟩, readsWhole, read⟩ := Option.bind_eq_some_iff.1 read
  obtain ⟨⟨fraction, behindFraction⟩, readsFraction, read⟩ := Option.bind_eq_some_iff.1 read
  obtain ⟨⟨exponent, behindExponent⟩, readsExponent, same⟩ := Option.bind_eq_some_iff.1 read
  obtain ⟨isWhole, rfl⟩ := wholeText_of_readWhole readsWhole
  obtain ⟨isFraction, rfl⟩ := fractionText_of_readFraction readsFraction
  obtain ⟨isExponent, rfl⟩ := exponentText_of_readExponent readsExponent
  cases same
  split at chosen
  all_goals
    cases chosen
    exact ⟨.parts (by simp) isWhole isFraction isExponent, by simp⟩

end ServiceLocation.Json
