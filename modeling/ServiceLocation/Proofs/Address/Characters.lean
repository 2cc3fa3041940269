import ServiceLocation.Address.Endpoint
import ServiceLocation.Proofs.Text.Characters
import ServiceLocation.Proofs.Text.Numeral
import ServiceLocation.Proofs.Text.Pieces

/-!
**The characters of addresses.**

* `Ipv4.isDottedChar_of_ofText?`: what is read as an IPv4 address consists of decimal digits and full
  stops;
* `Ipv6.isBareChar_of_ofText?`: what is read as an IPv6 address consists of hexadecimal digits and the
  marks of addresses;
* `IsAddressChar`: one of these, or one of the marks of a scope and of brackets;
* `IsAddressChar.isBlank_eq_false`: none of them is blank.
-/

namespace ServiceLocation.Address

open ServiceLocation.Text

/-- A hexadecimal digit, or one of the marks of an address with a port and a scope. -/
def IsAddressChar (c : Char) : Prop := (digitValue? 16 c).isSome = true ∨ c ∈ ['.', ':', '%', '[', ']']

instance (c : Char) : Decidable (IsAddressChar c) := inferInstanceAs (Decidable (_ ∨ _))

/-- A hexadecimal digit, or one of the marks of an address alone. -/
def IsBareChar (c : Char) : Prop := (digitValue? 16 c).isSome = true ∨ c ∈ ['.', ':']

instance (c : Char) : Decidable (IsBareChar c) := inferInstanceAs (Decidable (_ ∨ _))

/-- A decimal digit, or the mark of an IPv4 address. -/
def IsDottedChar (c : Char) : Prop := (digitValue? 10 c).isSome = true ∨ c = '.'

instance (c : Char) : Decidable (IsDottedChar c) := inferInstanceAs (Decidable (_ ∨ _))

theorem IsBareChar.isAddressChar {c : Char} (bare : IsBareChar c) : IsAddressChar c :=
  bare.imp_right fun mark => List.mem_append_left ['%', '[', ']'] mark

theorem IsDottedChar.isBareChar {c : Char} (dotted : IsDottedChar c) : IsBareChar c :=
  dotted.imp (isSome_digitValue?_mono (by decide)) fun dot => by simp [dot]

theorem IsAddressChar.isBlank_eq_false {c : Char} (isAddress : IsAddressChar c) :
    isBlank c = false := by
  rcases isAddress with digit | mark
  · exact of_toNat_lt (P := fun c => (digitValue? 16 c).isSome = true → isBlank c = false)
      (by decide) (toNat_lt_of_isSome_digitValue? digit) digit
  · simp only [List.mem_cons, List.not_mem_nil, or_false] at mark
    rcases mark with rfl | rfl | rfl | rfl | rfl <;> rfl

theorem isDottedChar_of_number? {number : Nat} {digits : List Char}
    (read : number? 10 digits = some number) : ∀ c ∈ digits, IsDottedChar c :=
  fun c member => .inl (isSome_digitValue?_of_number? read c member)

/-! ### IPv4 addresses -/

namespace Ipv4

theorem isDottedChar_of_octet? {digits : List Char} {octet : UInt8}
    (read : octet? digits = some octet) : ∀ c ∈ digits, IsDottedChar c := by
  unfold octet? at read
  split at read
  · obtain ⟨number, found, _⟩ := Option.map_eq_some_iff.1 read
    exact isDottedChar_of_number? (Option.filter_eq_some_iff.1 found).1
  · cases read

/-- **A text that gives an IPv4 address consists of decimal digits and full stops.** -/
theorem isDottedChar_of_ofText? {text : List Char} {address : Ipv4}
    (read : ofText? text = some address) : ∀ c ∈ text, IsDottedChar c := by
  unfold ofText? at read
  split at read
  · rename_i a b c d cut
    simp only [Option.bind_eq_bind, Option.bind_eq_some_iff] at read
    obtain ⟨_, first, _, second, _, third, _, fourth, _⟩ := read
    refine forall_mem_of_splitOn '.' (.inr rfl) ?_
    rw [cut]
    simp only [List.forall_mem_cons]
    exact ⟨isDottedChar_of_octet? first, isDottedChar_of_octet? second,
      isDottedChar_of_octet? third, isDottedChar_of_octet? fourth, List.forall_mem_nil _⟩
  · cases read

theorem colon_notMem_of_ofText? {text : List Char} {address : Ipv4}
    (read : ofText? text = some address) : ':' ∉ text := by
  intro member
  have dotted := isDottedChar_of_ofText? read ':' member
  exact absurd dotted (by decide)

end Ipv4

/-! ### IPv6 addresses -/

namespace Ipv6

theorem isBareChar_of_segment? {digits : List Char} {segment : UInt16}
    (read : segment? digits = some segment) : ∀ c ∈ digits, IsBareChar c := by
  unfold segment? at read
  split at read
  · obtain ⟨number, found, _⟩ := Option.map_eq_some_iff.1 read
    exact fun c member => .inl (isSome_digitValue?_of_number? found c member)
  · cases read

theorem isBareChar_of_segmentsOfPieces? {ipv4Last : Bool} {pieces : List (List Char)}
    {segments : List UInt16} (read : segmentsOfPieces? ipv4Last pieces = some segments) :
    ∀ piece ∈ pieces, ∀ c ∈ piece, IsBareChar c := by
  induction pieces generalizing segments with
  | nil => exact fun piece listed => by cases listed
  | cons first rest ih =>
    cases rest with
    | nil =>
      intro piece listed
      rw [List.mem_singleton] at listed
      subst listed
      unfold segmentsOfPieces? at read
      cases single : segment? piece with
      | some segment => exact isBareChar_of_segment? single
      | none =>
        simp only [single] at read
        split at read
        · obtain ⟨address, found, _⟩ := Option.map_eq_some_iff.1 read
          exact fun c member => (Ipv4.isDottedChar_of_ofText? found c member).isBareChar
        · cases read
    | cons second rest =>
      unfold segmentsOfPieces? at read
      simp only [Option.bind_eq_bind, Option.bind_eq_some_iff] at read
      obtain ⟨segment, here, more, later, _⟩ := read
      intro piece listed
      rcases List.mem_cons.1 listed with same | there
      · exact same ▸ isBareChar_of_segment? here
      · exact ih later piece there

theorem isBareChar_of_segments? {ipv4Last : Bool} {text : List Char} {segments : List UInt16}
    (read : segments? ipv4Last text = some segments) : ∀ c ∈ text, IsBareChar c := by
  unfold segments? at read
  split at read
  · rename_i empty
    rw [List.isEmpty_iff] at empty
    exact fun c member => by rw [empty] at member; cases member
  · exact forall_mem_of_splitOn ':' (by decide) (isBareChar_of_segmentsOfPieces? read)

/-- What a text with a gap consists of. -/
theorem eq_of_cutAtGap {text before behind : List Char}
    (cut : cutAtGap text = some (before, behind)) : text = before ++ ':' :: ':' :: behind := by
  fun_induction cutAtGap text generalizing before behind with
  | case1 rest =>
    obtain ⟨rfl, rfl⟩ := Prod.mk.inj (Option.some.inj cut)
    rfl
  | case2 c rest _ ih =>
    obtain ⟨⟨front, back⟩, found, same⟩ := Option.map_eq_some_iff.1 cut
    obtain ⟨rfl, rfl⟩ := Prod.mk.inj same
    rw [ih found]
    rfl
  | case3 => cases cut

/-- A text that gives an IPv6 address consists of such characters. -/
theorem isBareChar_of_ofText? {text : List Char} {address : Ipv6}
    (read : ofText? text = some address) : ∀ c ∈ text, IsBareChar c := by
  unfold ofText? at read
  split at read
  · rename_i before behind cut
    simp only [Option.bind_eq_bind, Option.bind_eq_some_iff] at read
    obtain ⟨first, front, last, back, _⟩ := read
    intro c member
    rw [eq_of_cutAtGap cut] at member
    simp only [List.mem_append, List.mem_cons] at member
    rcases member with here | rfl | rfl | there
    · exact isBareChar_of_segments? front c here
    · decide
    · decide
    · exact isBareChar_of_segments? back c there
  · simp only [Option.bind_eq_bind, Option.bind_eq_some_iff] at read
    obtain ⟨whole, all, _⟩ := read
    exact isBareChar_of_segments? all

end Ipv6

end ServiceLocation.Address
