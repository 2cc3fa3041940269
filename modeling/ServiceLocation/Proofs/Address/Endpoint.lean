import ServiceLocation.Proofs.Address.RoundTrip
import ServiceLocation.Proofs.Text.Blank

/-!
**The texts of servers.**

The texts that write a server make up two grammars, and a text is tried in the first before the second:

* `Ported`, `withPort?_eq_some_iff`: an address and a port, an IPv6 address in brackets and maybe with a
  scope;
* `Bare`, `withoutPort?_eq_some_iff`: an address alone;
* `Bare.not_ported`: **no text is in both**, so the order in which they are tried is of no account;
* `ofText?_eq_some_iff`: what is read is what one of them writes;
* `ported_text`, `ofText?_text`: **a server is read back from its text**, whatever its address, port and
  scope;
* `isAddressChar_of_ofText?`: a text that gives a server consists of address characters, but for the
  blanks around it.
-/

namespace ServiceLocation.Address

open ServiceLocation.Text

/-! ### Colons -/

namespace Ipv6

theorem length_of_segmentsOfPieces? {ipv4Last : Bool} {pieces : List (List Char)}
    {segments : List UInt16} (read : segmentsOfPieces? ipv4Last pieces = some segments) :
    segments.length ≤ pieces.length + 1 := by
  fun_induction segmentsOfPieces? ipv4Last pieces generalizing segments with
  | case1 =>
    obtain rfl := Option.some.inj read
    exact Nat.zero_le _
  | case2 =>
    obtain rfl := Option.some.inj read
    exact Nat.le_succ 1
  | case3 =>
    -- The two segments of an IPv4 address.
    obtain ⟨_, _, rfl⟩ := Option.map_eq_some_iff.1 read
    exact Nat.le_refl 2
  | case4 => cases read
  | case5 piece rest _ ih =>
    simp only [Option.bind_eq_bind, Option.bind_eq_some_iff] at read
    obtain ⟨segment, _, more, later, same⟩ := read
    obtain rfl := Option.some.inj same
    exact Nat.succ_le_succ (ih later)

/-- **An IPv6 address is written with at least two colons.** -/
theorem two_le_count_colon {text : List Char} {address : Ipv6} (read : ofText? text = some address) :
    2 ≤ text.count ':' := by
  unfold ofText? at read
  split at read
  · rename_i before behind cut
    rw [eq_of_cutAtGap cut, List.count_append, List.count_cons_self, List.count_cons_self]
    omega
  · simp only [Option.bind_eq_bind, Option.bind_eq_some_iff] at read
    obtain ⟨segments, all, whole⟩ := read
    have eight : segments.length = 8 := (Option.ite_none_right_eq_some.1 whole).1
    unfold segments? at all
    split at all
    · obtain rfl := Option.some.inj all
      cases eight
    · have enough := length_of_segmentsOfPieces? all
      rw [length_splitOn] at enough
      omega

end Ipv6

namespace Endpoint

/-! ### The two grammars -/

/-- The texts that are an address alone, and the servers that they write. -/
inductive Bare : List Char → Endpoint → Prop where
  | v4 {text : List Char} {address : Ipv4} : Ipv4.ofText? text = some address →
      Bare text (.v4 address dnsPort)
  | v6 {text : List Char} {address : Ipv6} : Ipv6.ofText? text = some address →
      Bare text (.v6 address dnsPort 0)

/-- The texts that are an address with a port, the texts of the ports, and the servers. -/
inductive Ported : List Char → List Char → Endpoint → Prop where
  | v4 {text portText : List Char} {address : Ipv4} {port : UInt16} :
      Ipv4.ofText? text = some address → port? portText = some port →
      Ported (text ++ ':' :: portText) portText (.v4 address port)
  | v6 {text portText : List Char} {address : Ipv6} {port : UInt16} :
      Ipv6.ofText? text = some address → port? portText = some port →
      Ported ('[' :: (text ++ ']' :: ':' :: portText)) portText (.v6 address port 0)
  | scopedV6 {text scopeText portText : List Char} {address : Ipv6} {scope : UInt32} {port : UInt16} :
      Ipv6.ofText? text = some address → scope? scopeText = some scope →
      port? portText = some port →
      Ported ('[' :: (text ++ '%' :: scopeText ++ ']' :: ':' :: portText)) portText
        (.v6 address port scope)

theorem port?_eq_some_iff {digits : List Char} {port : UInt16} :
    port? digits = some port ↔ number? 10 digits = some port.toNat :=
  map_number?_eq_some_iff (fun _ => UInt16.toNat_ofNat_of_lt') UInt16.toNat_lt
    fun _ => UInt16.ofNat_toNat

theorem scope?_eq_some_iff {digits : List Char} {scope : UInt32} :
    scope? digits = some scope ↔ number? 10 digits = some scope.toNat :=
  map_number?_eq_some_iff (fun _ => UInt32.toNat_ofNat_of_lt') UInt32.toNat_lt
    fun _ => UInt32.ofNat_toNat

/-! ### Addresses alone -/

/-- **An address alone is read from the texts that write one.** -/
theorem withoutPort?_eq_some_iff {text : List Char} {endpoint : Endpoint} :
    withoutPort? text = some endpoint ↔ Bare text endpoint := by
  constructor
  · intro read
    unfold withoutPort? at read
    split at read
    · rename_i address found
      obtain rfl := Option.some.inj read
      exact .v4 found
    · obtain ⟨address, found, rfl⟩ := Option.map_eq_some_iff.1 read
      exact .v6 found
  · rintro (found | found)
    · rw [withoutPort?, found]
    · -- An IPv4 address is tried first, but that has no colons.
      have colons := Ipv6.two_le_count_colon found
      cases other : Ipv4.ofText? text with
      | none => rw [withoutPort?, other, found, Option.map_some]
      | some address =>
        rw [List.count_eq_zero.2 (Ipv4.colon_notMem_of_ofText? other)] at colons
        omega

theorem Bare.port_eq {text : List Char} {endpoint : Endpoint} (bare : Bare text endpoint) :
    endpoint.port = dnsPort := by
  cases bare <;> rfl

theorem Bare.isBareChar {text : List Char} {endpoint : Endpoint} (bare : Bare text endpoint) :
    ∀ c ∈ text, IsBareChar c := by
  cases bare with
  | v4 found => exact fun c member => (Ipv4.isDottedChar_of_ofText? found c member).isBareChar
  | v6 found => exact Ipv6.isBareChar_of_ofText? found

/-! ### Addresses with ports -/

section

variable {text portText : List Char} {endpoint : Endpoint}

theorem Ported.port?_eq (ported : Ported text portText endpoint) :
    port? portText = some endpoint.port := by
  cases ported with
  | v4 _ port => exact port
  | v6 _ port => exact port
  | scopedV6 _ _ port => exact port

theorem Ported.isAddressChar (ported : Ported text portText endpoint) :
    ∀ c ∈ text, IsAddressChar c := by
  have digits := isDottedChar_of_number? (port?_eq_some_iff.1 ported.port?_eq)
  have inPort : ∀ c ∈ portText, IsAddressChar c := fun c member =>
    (digits c member).isBareChar.isAddressChar
  have colon : IsAddressChar ':' := by decide
  have closing : IsAddressChar ']' := by decide
  have opening : IsAddressChar '[' := by decide
  have percent : IsAddressChar '%' := by decide
  cases ported with
  | v4 found port =>
    have front := Ipv4.isDottedChar_of_ofText? found
    simp only [List.forall_mem_append, List.forall_mem_cons]
    exact ⟨fun c member => (front c member).isBareChar.isAddressChar, colon, inPort⟩
  | v6 found port =>
    have front := Ipv6.isBareChar_of_ofText? found
    simp only [List.forall_mem_append, List.forall_mem_cons]
    exact ⟨opening, fun c member => (front c member).isAddressChar, closing, colon, inPort⟩
  | scopedV6 found scope port =>
    have front := Ipv6.isBareChar_of_ofText? found
    have inScope := isDottedChar_of_number? (scope?_eq_some_iff.1 scope)
    simp only [List.forall_mem_append, List.forall_mem_cons]
    exact ⟨opening, ⟨fun c member => (front c member).isAddressChar, percent,
      fun c member => (inScope c member).isBareChar.isAddressChar⟩, closing, colon, inPort⟩

end

theorem exists_ported_of_ofBrackets? {inside behind : List Char} {endpoint : Endpoint}
    (read : ofBrackets? inside behind = some endpoint) :
    ∃ portText, Ported ('[' :: (inside ++ ']' :: behind)) portText endpoint := by
  unfold ofBrackets? at read
  split at read
  · rename_i portText
    rw [Option.bind_eq_bind, Option.bind_eq_some_iff] at read
    obtain ⟨port, number, read⟩ := read
    refine ⟨portText, ?_⟩
    split at read
    · rename_i address cut
      obtain ⟨_, rfl⟩ := splitOn_eq_singleton_iff.1 cut
      simp only [Option.bind_eq_bind, Option.bind_eq_some_iff] at read
      obtain ⟨ipv6, found, same⟩ := read
      obtain rfl := Option.some.inj same
      exact .v6 found number
    · rename_i address scopeText cut
      obtain ⟨_, _, rfl⟩ := splitOn_eq_pair_iff.1 cut
      simp only [Option.bind_eq_bind, Option.bind_eq_some_iff] at read
      obtain ⟨ipv6, found, scope, within, same⟩ := read
      obtain rfl := Option.some.inj same
      exact .scopedV6 found within number
    · cases read
  · cases read

theorem exists_ported_of_withPort? {text : List Char} {endpoint : Endpoint}
    (read : withPort? text = some endpoint) : ∃ portText, Ported text portText endpoint := by
  unfold withPort? at read
  split at read
  · split at read
    · rename_i rest inside behind cut
      obtain ⟨_, _, rfl⟩ := splitOn_eq_pair_iff.1 cut
      exact exists_ported_of_ofBrackets? read
    · cases read
  · split at read
    · rename_i address portText cut
      obtain ⟨_, _, rfl⟩ := splitOn_eq_pair_iff.1 cut
      simp only [Option.bind_eq_bind, Option.bind_eq_some_iff] at read
      obtain ⟨ipv4, found, port, number, same⟩ := read
      obtain rfl := Option.some.inj same
      exact ⟨portText, .v4 found number⟩
    · cases read

/-- **A server with a port is read from the texts that write one.** -/
theorem withPort?_eq_some_iff {text : List Char} {endpoint : Endpoint} :
    withPort? text = some endpoint ↔ ∃ portText, Ported text portText endpoint := by
  refine ⟨exists_ported_of_withPort?, ?_⟩
  rintro ⟨portText, ported⟩
  have digits := isDottedChar_of_number? (port?_eq_some_iff.1 ported.port?_eq)
  have noBracket : ']' ∉ ':' :: portText :=
    List.not_mem_cons_of_ne_of_not_mem (by decide) (mt (digits ']') (by decide))
  cases ported with
  | @v4 text _ _ _ found number =>
    have noColon : ':' ∉ portText := mt (digits ':') (by decide)
    have inside := Ipv4.isDottedChar_of_ofText? found
    have noOpening : '[' ∉ text ++ ':' :: portText :=
      List.not_mem_append (mt (inside '[') (by decide))
        (List.not_mem_cons_of_ne_of_not_mem (by decide) (mt (digits '[') (by decide)))
    unfold withPort?
    split
    · rename_i starts
      exact absurd (starts ▸ List.mem_cons_self) noOpening
    · rw [splitOn_eq_pair_iff.2 ⟨Ipv4.colon_notMem_of_ofText? found, noColon, rfl⟩]
      simp [found, number]
  | @v6 text _ _ _ found number =>
    have inside := Ipv6.isBareChar_of_ofText? found
    have free : ']' ∉ text := mt (inside ']') (by decide)
    have whole : '%' ∉ text := mt (inside '%') (by decide)
    rw [withPort?, splitOn_eq_pair_iff.2 ⟨free, noBracket, rfl⟩]
    simp [ofBrackets?, number, List.splitOn_eq_singleton whole, found]
  | @scopedV6 text scopeText _ _ _ _ found within number =>
    have inside := Ipv6.isBareChar_of_ofText? found
    have inScope := isDottedChar_of_number? (scope?_eq_some_iff.1 within)
    have front : '%' ∉ text := mt (inside '%') (by decide)
    have behind : '%' ∉ scopeText := mt (inScope '%') (by decide)
    have free : ']' ∉ text ++ '%' :: scopeText :=
      List.not_mem_append (mt (inside ']') (by decide))
        (List.not_mem_cons_of_ne_of_not_mem (by decide) (mt (inScope ']') (by decide)))
    rw [withPort?, splitOn_eq_pair_iff.2 ⟨free, noBracket, rfl⟩]
    simp [ofBrackets?, number, splitOn_eq_pair_iff.2 ⟨front, behind, rfl⟩, found, within]

/-! ### Texts of either grammar -/

section

variable {text portText : List Char} {endpoint endpoint' : Endpoint}

/-- **No text is both an address alone and an address with a port.** -/
theorem Bare.not_ported (bare : Bare text endpoint) : ¬Ported text portText endpoint' := by
  intro ported
  have noOpening : '[' ∉ text := mt (bare.isBareChar '[') (by decide)
  cases ported with
  | v4 found number =>
    -- Of the address with a port, the only colon is the one between them.
    have digits := isDottedChar_of_number? (port?_eq_some_iff.1 number)
    have noColon : ':' ∉ portText := mt (digits ':') (by decide)
    cases bare with
    | v4 alone => exact Ipv4.colon_notMem_of_ofText? alone (by simp)
    | v6 alone =>
      have colons := Ipv6.two_le_count_colon alone
      rw [List.count_append, List.count_cons_self, List.count_eq_zero.2 noColon,
        List.count_eq_zero.2 (Ipv4.colon_notMem_of_ofText? found)] at colons
      omega
  | v6 => exact noOpening List.mem_cons_self
  | scopedV6 => exact noOpening List.mem_cons_self

/-- **What is read is what one of the grammars writes.** -/
theorem ofText?_eq_some_iff {text : String} :
    ofText? text = some endpoint ↔ Bare (trim text.toList) endpoint ∨
      ∃ portText, Ported (trim text.toList) portText endpoint := by
  rw [ofText?, Option.or_eq_some_iff, withPort?_eq_some_iff, withoutPort?_eq_some_iff, or_comm]
  refine or_congr_left ⟨And.right, fun bare => ⟨?_, bare⟩⟩
  cases read : withPort? (trim text.toList) with
  | none => rfl
  | some other =>
    obtain ⟨portText, ported⟩ := withPort?_eq_some_iff.1 read
    exact absurd ported bare.not_ported

/-- An address that ends in a number is an address alone. -/
example : ofText? " 2001:db8::53 " =
    some (.v6 (.ofList [0x2001, 0xdb8, 0, 0, 0, 0, 0, 0x53]) dnsPort 0) := by
  decide

/-- **A text that gives a server consists of address characters**, but for the blanks around it. -/
theorem isAddressChar_of_ofText? {text : String} (read : ofText? text = some endpoint) :
    ∀ c ∈ trim text.toList, IsAddressChar c := by
  rcases ofText?_eq_some_iff.1 read with bare | ⟨portText, ported⟩
  · exact fun c member => (bare.isBareChar c member).isAddressChar
  · exact ported.isAddressChar

/-- **The port is that of the domain name system** exactly if it is left out or written so. -/
theorem port_eq_dnsPort_iff {text : String} (read : ofText? text = some endpoint) :
    endpoint.port = dnsPort ↔ Bare (trim text.toList) endpoint ∨
      ∃ portText, Ported (trim text.toList) portText endpoint ∧ number? 10 portText = some 53 := by
  constructor
  · intro is
    refine (ofText?_eq_some_iff.1 read).imp_right fun ⟨portText, ported⟩ => ⟨portText, ported, ?_⟩
    rw [port?_eq_some_iff.1 ported.port?_eq, is]
    rfl
  · rintro (bare | ⟨portText, ported, names⟩)
    · exact bare.port_eq
    · rw [port?_eq_some_iff.1 ported.port?_eq, Option.some.injEq] at names
      exact UInt16.toNat_inj.1 names

end

/-! ### Reading back -/

/-- **A server is written as its address and its port.** -/
theorem ported_text (endpoint : Endpoint) :
    Ported endpoint.text.toList (toString endpoint.port.toNat).toList endpoint := by
  have number : port? (toString endpoint.port.toNat).toList = some endpoint.port :=
    port?_eq_some_iff.2 (number?_toString _)
  cases endpoint with
  | v4 address port =>
    have whole : (v4 address port).text.toList =
        address.text.toList ++ ':' :: (toString port.toNat).toList := by
      simp [text]
    rw [whole]
    exact .v4 address.ofText?_text number
  | v6 address port scope =>
    by_cases none : scope = 0
    · have whole : (v6 address port scope).text.toList =
          '[' :: (address.text.toList ++ ']' :: ':' :: (toString port.toNat).toList) := by
        simp [text, none]
      rw [whole, none]
      exact .v6 address.ofText?_text number
    · have whole : (v6 address port scope).text.toList =
          '[' :: (address.text.toList ++ '%' :: (toString scope.toNat).toList ++
            ']' :: ':' :: (toString port.toNat).toList) := by
        simp [text, none]
      have within : scope? (toString scope.toNat).toList = some scope :=
        scope?_eq_some_iff.2 (number?_toString _)
      rw [whole]
      exact .scopedV6 address.ofText?_text within number

/-- **Every server is read back from its text.** -/
theorem ofText?_text (endpoint : Endpoint) : ofText? endpoint.text = some endpoint := by
  have ported := endpoint.ported_text
  have ink : trim endpoint.text.toList = endpoint.text.toList :=
    trim_of_notBlank fun c member => (ported.isAddressChar c member).isBlank_eq_false
  rw [ofText?_eq_some_iff, ink]
  exact .inr ⟨_, ported⟩

end Endpoint

end ServiceLocation.Address
