import ServiceLocation.Proofs.Address.RoundTrip
import ServiceLocation.Proofs.Idna.AsciiForm
import ServiceLocation.Proofs.Result
import ServiceLocation.Url.Parser

/-!
**The characters of hosts.**

* `Host.isTextChar_of_ofSpecial`, `Host.isTextChar_of_ofPlain`: a host consists of characters that a
  host may hold, and of those of addresses;
* `exists_readHost_of_ofAuthority`: the host of a URL is read as one, whatever stands around it;
* `hasTextHost_of_parse`: so the host of every URL consists of such characters;
* `bar_notMem_of_hostText?`: **no host holds a bar**.
-/

namespace ServiceLocation.Url

open ServiceLocation.Text ServiceLocation.Address

/-! ### Hosts -/

namespace Host

/-- A character that is not forbidden in a host, or one of an address. -/
def IsTextChar (c : Char) : Prop := IsAddressChar c ∨ isForbidden c = false

/-- What a domain name holds, every host may hold. -/
theorem isTextChar_of_isHostChar {c : Char} (isHost : Idna.IsHostChar c) : IsTextChar c := by
  refine .inr (Bool.eq_false_iff.2 fun isForbidden => ?_)
  have all : forbidden.all Idna.isForbidden = true := by decide
  have known := List.all_eq_true.1 all c (of_decide_eq_true isForbidden)
  rw [isHost.2] at known
  cases known

theorem isTextChar_of_ofBrackets {inner : List Char} {host : Host}
    (read : ofBrackets inner = .ok host) : ∀ c ∈ host.text, IsTextChar c := by
  unfold ofBrackets at read
  split at read
  · split at read
    · rename_i address _
      rw [← Except.ok.inj read]
      intro c member
      rw [text, List.mem_append, List.mem_cons, List.mem_singleton] at member
      rcases member with (rfl | inside) | rfl
      · exact .inl (by decide)
      · have bare := Ipv6.isBareChar_of_ofText? address.ofText?_compressed c inside
        exact .inl bare.isAddressChar
      · exact .inl (by decide)
    · cases read
  · cases read

theorem isTextChar_of_ofAscii {name : List Char} {host : Host}
    (ascii : ∀ c ∈ name, Idna.IsHostChar c) (read : ofAscii name = .ok host) :
    ∀ c ∈ host.text, IsTextChar c := by
  unfold ofAscii at read
  split at read
  · cases read
  · split at read
    · split at read
      · rename_i address _
        rw [← Except.ok.inj read]
        have dotted := Ipv4.isDottedChar_of_ofText? address.ofText?_text
        exact fun c member => .inl (dotted c member).isBareChar.isAddressChar
      · cases read
    · rw [← Except.ok.inj read]
      exact fun c member => isTextChar_of_isHostChar (ascii c member)

/-- **The host of a special URL holds no forbidden character** but the marks of an address. -/
theorem isTextChar_of_ofSpecial {text : List Char} {host : Host}
    (read : ofSpecial text = .ok host) : ∀ c ∈ host.text, IsTextChar c := by
  unfold ofSpecial at read
  split at read
  · exact isTextChar_of_ofBrackets read
  · split at read
    · rename_i name found
      obtain ⟨decoded, _, ascii⟩ := Option.bind_eq_some_iff.1 found
      exact isTextChar_of_ofAscii (Idna.isHostChar_of_mem_toAscii? ascii) read
    · cases read

theorem isTextChar_of_mem_encodeByte (byte : UInt8) : ∀ c ∈ encodeByte byte, IsTextChar c := by
  have hex : ∀ value < 16, IsAddressChar (capitalHex value) := by decide
  have below : byte.toNat < 256 := byte.toNat_lt
  intro c member
  simp only [encodeByte, List.mem_cons, List.not_mem_nil, or_false] at member
  rcases member with rfl | rfl | rfl
  · exact .inl (by decide)
  · exact .inl (hex _ (by omega))
  · exact .inl (hex _ (Nat.mod_lt _ (by decide)))

/-- **The host of any other URL holds no forbidden character** but the marks of an address. -/
theorem isTextChar_of_ofPlain {text : List Char} {host : Host} (read : ofPlain text = .ok host) :
    ∀ c ∈ host.text, IsTextChar c := by
  unfold ofPlain at read
  split at read
  · exact isTextChar_of_ofBrackets read
  · split at read
    · cases read
    · rename_i clean
      rw [← Except.ok.inj read]
      intro c member
      obtain ⟨d, listed, coded⟩ := List.mem_flatMap.1 member
      split at coded
      · obtain ⟨byte, _, digit⟩ := List.mem_flatMap.1 coded
        exact isTextChar_of_mem_encodeByte byte c digit
      · rw [List.mem_singleton.1 coded]
        exact .inr (by simpa using List.any_eq_false.1 (Bool.eq_false_iff.2 clean) d listed)

end Host

/-! ### URLs -/

theorem isTextChar_of_readHost {kind : SchemeKind} {hostText rest : List Char}
    {host? : Option Host} (read : readHost kind hostText rest = .ok host?) :
    ∀ host ∈ host?, ∀ c ∈ host.text, Host.IsTextChar c := by
  unfold readHost at read
  split at read
  · split at read
    · cases read
    · rw [← Except.ok.inj read]
      exact fun host is => by cases is
  · split at read
    · obtain ⟨host, special, rfl⟩ := map_eq_ok_iff.1 read
      exact fun other same => Option.some.inj same ▸ Host.isTextChar_of_ofSpecial special
    · obtain ⟨host, plain, rfl⟩ := map_eq_ok_iff.1 read
      exact fun other same => Option.some.inj same ▸ Host.isTextChar_of_ofPlain plain

theorem exists_readHost_of_readHostAndPort {kind : SchemeKind} {text more : List Char}
    {host? : Option Host} {port? : Option UInt16}
    (read : readHostAndPort kind text = .ok (host?, port?, more)) :
    ∃ hostText rest, readHost kind hostText rest = .ok host? := by
  obtain ⟨host, found, rest⟩ := bind_eq_ok_iff.1 read
  obtain ⟨port, _, same⟩ := bind_eq_ok_iff.1 rest
  obtain ⟨rfl, _⟩ := Prod.mk.inj (Except.ok.inj same)
  exact ⟨_, _, found⟩

/-- The host of an authority is read as one, whatever stands in front of it. -/
theorem exists_readHost_of_readAuthority {kind : SchemeKind} {text more : List Char}
    {endsHere : Bool} {authority : Authority}
    (read : readAuthority kind text endsHere = .ok (authority, more)) :
    ∃ hostText rest, readHost kind hostText rest = .ok authority.host := by
  unfold readAuthority at read
  split at read
  · obtain ⟨⟨host, port, more⟩, found, same⟩ := bind_eq_ok_iff.1 read
    obtain ⟨rfl, _⟩ := Prod.mk.inj (Except.ok.inj same)
    exact exists_readHost_of_readHostAndPort found
  · split at read
    · cases read
    · obtain ⟨⟨host, port, more⟩, found, same⟩ := bind_eq_ok_iff.1 read
      obtain ⟨rfl, _⟩ := Prod.mk.inj (Except.ok.inj same)
      exact exists_readHost_of_readHostAndPort found
  · obtain ⟨⟨host, port, more⟩, found, checked⟩ := bind_eq_ok_iff.1 read
    dsimp only at checked
    split at checked
    · cases checked
    · obtain ⟨rfl, _⟩ := Prod.mk.inj (Except.ok.inj checked)
      exact exists_readHost_of_readHostAndPort found

/-- The host of a URL with an authority is read as one. -/
theorem exists_readHost_of_ofAuthority {kind : SchemeKind} {scheme text : List Char} {url : Url}
    (read : ofAuthority kind scheme text = .ok url) :
    ∃ authority, url.authority = some authority ∧
      ∃ hostText rest, readHost kind hostText rest = .ok authority.host := by
  obtain ⟨⟨authority, more⟩, found, same⟩ := bind_eq_ok_iff.1 read
  rw [← Except.ok.inj same]
  exact ⟨authority, rfl, exists_readHost_of_readAuthority found⟩

/-- The host of a URL consists of characters that a host may hold. -/
def HasTextHost (url : Url) : Prop :=
  ∀ text, url.hostText? = some text → ∀ c ∈ text, Host.IsTextChar c

theorem hasTextHost_of_authority {url : Url} {authority : Authority}
    (is : url.authority = some authority)
    (inside : ∀ host ∈ authority.host, ∀ c ∈ host.text, Host.IsTextChar c) :
    url.HasTextHost := by
  intro text found
  rw [hostText?, is, Option.bind_some] at found
  obtain ⟨host, has, rfl⟩ := Option.map_eq_some_iff.1 found
  exact inside host has

theorem hasTextHost_of_ofAuthority {kind : SchemeKind} {scheme text : List Char} {url : Url}
    (read : ofAuthority kind scheme text = .ok url) : url.HasTextHost := by
  obtain ⟨authority, is, _, _, found⟩ := exists_readHost_of_ofAuthority read
  exact hasTextHost_of_authority is (isTextChar_of_readHost found)

theorem hasTextHost_of_ofOther {scheme text : List Char} {url : Url}
    (read : ofOther scheme text = .ok url) : url.HasTextHost := by
  unfold ofOther at read
  split at read
  · exact hasTextHost_of_ofAuthority read
  · rw [← Except.ok.inj read]
    exact fun text found => by cases found

theorem isTextChar_of_readFileHost {text rest : List Char} {host? : Option Host}
    (read : readFileHost text = .ok (host?, rest)) :
    ∀ host ∈ host?, ∀ c ∈ host.text, Host.IsTextChar c := by
  unfold readFileHost at read
  dsimp only at read
  split at read
  · obtain ⟨rfl, _⟩ := Prod.mk.inj (Except.ok.inj read)
    exact fun host is => by cases is
  · obtain ⟨host, found, same⟩ := bind_eq_ok_iff.1 read
    obtain ⟨rfl, _⟩ := Prod.mk.inj (Except.ok.inj same)
    intro other is
    rw [← Option.some.inj (Option.mem_ite_none_left.1 is).2]
    exact Host.isTextChar_of_ofSpecial found

theorem isTextChar_of_readFileStart {text rest : List Char} {host? : Option Host}
    (read : readFileStart text = .ok (host?, rest)) :
    ∀ host ∈ host?, ∀ c ∈ host.text, Host.IsTextChar c := by
  unfold readFileStart at read
  split at read
  · split at read
    · exact isTextChar_of_readFileHost read
    · obtain ⟨rfl, _⟩ := Prod.mk.inj (Except.ok.inj read)
      exact fun host is => by cases is
  · obtain ⟨rfl, _⟩ := Prod.mk.inj (Except.ok.inj read)
    exact fun host is => by cases is

theorem hasTextHost_of_ofFile {scheme text : List Char} {url : Url}
    (read : ofFile scheme text = .ok url) : url.HasTextHost := by
  obtain ⟨⟨host?, rest⟩, found, same⟩ := bind_eq_ok_iff.1 read
  rw [← Except.ok.inj same]
  exact hasTextHost_of_authority rfl fun host is =>
    isTextChar_of_readFileStart found host (Option.mem_ite_none_left.1 is).2

/-- **The host of every URL consists of characters that a host may hold.** -/
theorem hasTextHost_of_parse {text : List Char} {url : Url} (read : parse text = .ok url) :
    url.HasTextHost := by
  unfold parse at read
  split at read
  · cases read
  · split at read
    · exact hasTextHost_of_ofAuthority read
    · exact hasTextHost_of_ofFile read
    · exact hasTextHost_of_ofOther read

/-- **No host holds a bar.** -/
theorem bar_notMem_of_hostText? {text host : List Char} {url : Url} (read : parse text = .ok url)
    (has : url.hostText? = some host) : '|' ∉ host := by
  intro member
  rcases hasTextHost_of_parse read host has '|' member with address | allowed
  · exact absurd address (by decide)
  · exact absurd allowed (by decide)

end ServiceLocation.Url
