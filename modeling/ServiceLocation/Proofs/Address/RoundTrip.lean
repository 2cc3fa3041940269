import Mathlib.Data.List.TakeWhile
import ServiceLocation.Proofs.Address.Characters
import ServiceLocation.Proofs.Text.Ending
import ServiceLocation.Proofs.Text.Numeral

/-!
**Addresses are read back from their texts.**

* `Ipv4.ofText?_text`: four numbers, cut at the full stops between them;
* `Ipv6.segments?_colonText`: segments, cut at the colons between them;
* `Ipv6.longestZeros_spec`: what the gap of an address stands for;
* `Ipv6.cutAtGap_append`, `Ipv6.cutAtGap_eq_none`: where a text is cut at a gap, and when it is not;
* `Ipv6.ofText?_text`: **every address is read back**, with a gap, without one, and with an IPv4 address
  at its end.
-/

namespace ServiceLocation.Address

open ServiceLocation.Text

/-! ### IPv4 addresses -/

namespace Ipv4

/-- A number below 256 is written without needless zeros in at most three digits. -/
theorem octet?_toDigits_of_lt :
    ∀ value < 256, octet? (Nat.toDigits 10 value) = some (UInt8.ofNat value) := by
  decide +kernel

theorem octet?_toDigits (byte : UInt8) : octet? (Nat.toDigits 10 byte.toNat) = some byte := by
  rw [octet?_toDigits_of_lt _ byte.toNat_lt, UInt8.ofNat_toNat]

theorem dot_notMem_toDigits (number : Nat) : '.' ∉ Nat.toDigits 10 number := by
  intro member
  have digit := isSome_digitValue?_of_mem_toDigits (by decide) (by decide) number '.' member
  cases digit

/-- **An IPv4 address is read back from its text.** -/
theorem ofText?_text (address : Ipv4) : ofText? address.text.toList = some address := by
  have cut : address.text.toList.splitOn '.' =
      [Nat.toDigits 10 address.a.toNat, Nat.toDigits 10 address.b.toNat,
        Nat.toDigits 10 address.c.toNat, Nat.toDigits 10 address.d.toNat] := by
    refine (splitOn_eq_iff (List.cons_ne_nil _ _)).2 ⟨?_, ?_⟩
    · simp [dot_notMem_toDigits]
    · simp [text]
  rw [ofText?, cut]
  simp [octet?_toDigits]

/-- A number of four bytes is that of the address it makes. -/
theorem toNat_ofNat {number : Nat} (below : number < 0x100000000) : (ofNat number).toNat = number := by
  simp only [toNat, ofNat, UInt8.toNat_ofNat']
  omega

end Ipv4

/-! ### IPv6 addresses -/

namespace Ipv6

@[simp] theorem length_toList (address : Ipv6) : address.toList.length = 8 := Vector.length_toList

@[simp] theorem ofList_toList (address : Ipv6) : ofList address.toList = address := by
  obtain ⟨segments⟩ := address
  refine congrArg Ipv6.mk (Vector.ext fun i within => ?_)
  simp [toList]

/-- The digits of a segment. -/
def digitsOf (segment : UInt16) : List Char := Nat.toDigits 16 segment.toNat

theorem segment?_digitsOf (segment : UInt16) : segment? (digitsOf segment) = some segment := by
  have short : (digitsOf segment).length ≤ 4 :=
    (Nat.length_toDigits_le_iff (by decide) (by decide)).2 segment.toNat_lt
  rw [segment?, if_pos short, digitsOf, number?_toDigits (by decide) (by decide), Option.map_some,
    UInt16.ofNat_toNat]

theorem colon_notMem_digitsOf (segment : UInt16) : ':' ∉ digitsOf segment := by
  intro member
  have digit := isSome_digitValue?_of_mem_toDigits (by decide) (Nat.le_refl 16) _ ':' member
  cases digit

theorem toList_colonText (segments : List UInt16) :
    (colonText segments).toList = List.intercalate [':'] (segments.map digitsOf) := by
  rw [colonText, String.toList_intercalate, List.map_map]
  congr 1
  exact List.map_congr_left fun segment _ => String.toList_ofList

theorem segmentsOfPieces?_map (ipv4Last : Bool) (segments : List UInt16) :
    segmentsOfPieces? ipv4Last (segments.map digitsOf) = some segments := by
  induction segments with
  | nil => rfl
  | cons segment rest ih =>
    cases rest with
    | nil => simp [segmentsOfPieces?, segment?_digitsOf]
    | cons next rest =>
      rw [List.map_cons, List.map_cons, segmentsOfPieces?, segment?_digitsOf, ← List.map_cons, ih]
      · rfl
      · simp

/-- **Segments are read back from the digits that colons join.** -/
theorem segments?_colonText (ipv4Last : Bool) (segments : List UInt16) :
    segments? ipv4Last (colonText segments).toList = some segments := by
  cases segments with
  | nil => rfl
  | cons segment rest =>
    have cut : (colonText (segment :: rest)).toList.splitOn ':' = (segment :: rest).map digitsOf := by
      rw [toList_colonText]
      refine List.splitOn_intercalate ':' ?_ (List.cons_ne_nil _ _)
      simp [colon_notMem_digitsOf]
    have filled : (colonText (segment :: rest)).toList.isEmpty = false := by
      rw [List.isEmpty_eq_false_iff]
      intro empty
      rw [empty] at cut
      have first := (List.cons.inj cut).1
      exact Nat.toDigits_ne_nil first.symm
    rw [segments?, filled, if_neg Bool.false_ne_true, cut, segmentsOfPieces?_map]

/-! ### Gaps -/

section

variable {text front behind : List Char}

theorem cutAtGap_cons {c : Char} {rest : List Char} (noGap : ¬(c = ':' ∧ rest.head? = some ':')) :
    cutAtGap (c :: rest) = (cutAtGap rest).map fun (before, behind) => (c :: before, behind) := by
  rw [cutAtGap]
  rintro more rfl rfl
  exact noGap ⟨rfl, rfl⟩

/-- **A text is cut at its first gap.** -/
theorem cutAtGap_append (first : ¬[':', ':'] <:+: front ++ [':']) (behind : List Char) :
    cutAtGap (front ++ ':' :: ':' :: behind) = some (front, behind) := by
  induction front with
  | nil => rfl
  | cons c rest ih =>
    rw [List.cons_append, List.infix_cons_iff, not_or] at first
    have noGap : ¬(c = ':' ∧ (rest ++ ':' :: ':' :: behind).head? = some ':') := by
      rintro ⟨rfl, next⟩
      refine first.1 ((List.prefix_cons_inj _).2 ?_)
      cases rest with
      | nil => exact List.prefix_rfl
      | cons d rest =>
        rw [List.cons_append, List.head?_cons, Option.some.injEq] at next
        rw [next]
        exact ⟨rest ++ [':'], rfl⟩
    rw [List.cons_append, cutAtGap_cons noGap, ih first.2]
    rfl

theorem cutAtGap_eq_none (noGap : ¬[':', ':'] <:+: text) : cutAtGap text = none := by
  cases cut : cutAtGap text with
  | none => rfl
  | some parts =>
    refine absurd ?_ noGap
    rw [eq_of_cutAtGap cut]
    exact ⟨parts.1, parts.2, by simp⟩

/-- Texts with colons between them have no gap if none of them is empty and none holds a colon. -/
theorem noGap_intercalate {texts : List (List Char)} (filled : ∀ text ∈ texts, text ≠ [])
    (free : ∀ text ∈ texts, ':' ∉ text) : ¬[':', ':'] <:+: List.intercalate [':'] texts ++ [':'] := by
  induction texts with
  | nil => decide
  | cons text rest ih =>
    obtain ⟨here, later⟩ := List.forall_mem_cons.1 filled
    obtain ⟨free, free'⟩ := List.forall_mem_cons.1 free
    have noPair : ¬[':', ':'] <:+: text := fun pair => free (pair.subset List.mem_cons_self)
    have noLast : text.getLast? ≠ some ':' := fun is => free (List.mem_of_getLast? is)
    cases rest with
    | nil =>
      rw [List.intercalate_singleton, pair_isInfix_append_iff]
      rintro (inside | behind | ⟨is, _⟩)
      · exact noPair inside
      · exact absurd behind (by decide)
      · exact noLast is
    | cons next rest =>
      -- What stands behind a colon starts with the next text, and that is not empty.
      have start : (List.intercalate [':'] (next :: rest) ++ [':']).head? ≠ some ':' := by
        have ⟨notEmpty, _⟩ := List.forall_mem_cons.1 later
        have ⟨noColon, _⟩ := List.forall_mem_cons.1 free'
        obtain ⟨c, more, rfl⟩ := List.exists_cons_of_ne_nil notEmpty
        have other : c ≠ ':' := fun is => noColon (is ▸ List.mem_cons_self)
        cases rest <;> simp [other]
      rw [List.intercalate_cons_cons, List.append_assoc, List.append_assoc, List.singleton_append,
        pair_isInfix_append_iff, List.infix_cons_iff, List.cons_prefix_cons]
      rintro (inside | (⟨_, next⟩ | behind) | ⟨is, _⟩)
      · exact noPair inside
      · obtain ⟨more, same⟩ := next
        exact start (by rw [← same]; rfl)
      · exact ih later free' behind
      · exact noLast is

theorem noGap_colonText (segments : List UInt16) :
    ¬[':', ':'] <:+: (colonText segments).toList ++ [':'] := by
  rw [toList_colonText]
  refine noGap_intercalate ?_ ?_
  · simp [digitsOf, Nat.toDigits_ne_nil]
  · simp [colon_notMem_digitsOf]

end

/-- **What the gap of an address stands for**: the first longest run of zeros is a part of the list. -/
theorem longestZeros_spec (start : Nat) (segments : List UInt16) :
    ∃ before behind, segments = before ++ List.replicate (longestZeros start segments).2 0 ++ behind ∧
      (longestZeros start segments).1 = start + before.length := by
  induction segments generalizing start with
  | nil => exact ⟨[], [], rfl, rfl⟩
  | cons segment rest ih =>
    rw [longestZeros]
    split
    · refine ⟨[], (segment :: rest).dropWhile (· == 0), ?_, rfl⟩
      have zeros : (segment :: rest).takeWhile (· == 0) =
          List.replicate (leadingZeros (segment :: rest)) 0 :=
        List.eq_replicate_iff.2 ⟨rfl, fun zero member => by
          simpa using List.mem_takeWhile_imp member⟩
      rw [List.nil_append, ← zeros, List.takeWhile_append_dropWhile]
    · obtain ⟨before, behind, whole, place⟩ := ih (start + 1)
      refine ⟨segment :: before, behind, ?_, ?_⟩
      · rw [List.cons_append, List.cons_append, ← whole]
      · rw [place, List.length_cons]
        omega

/-- **An address is read back from the text with its zeros left out.** -/
theorem ofText?_compressed (address : Ipv6) : ofText? address.compressed.toList = some address := by
  obtain ⟨before, behind, whole, place⟩ := longestZeros_spec 0 address.toList
  have length := address.length_toList
  unfold compressed
  generalize longestZeros 0 address.toList = gap at whole place
  obtain ⟨start, count⟩ := gap
  obtain rfl : start = before.length := place.trans (Nat.zero_add _)
  dsimp only at whole ⊢
  rw [whole, List.length_append, List.length_append, List.length_replicate] at length
  split
  · have front : address.toList.take before.length = before := by
      rw [whole, List.append_assoc, List.take_left]
    have back : address.toList.drop (before.length + count) = behind := by
      rw [whole, List.append_assoc, ← List.drop_drop, List.drop_left]
      exact List.drop_left' List.length_replicate
    have missing : 8 - before.length - behind.length = count := by omega
    rw [front, back, String.toList_append, String.toList_append, List.append_assoc]
    show ofText? ((colonText before).toList ++ ':' :: ':' :: (colonText behind).toList) = _
    rw [ofText?, cutAtGap_append (noGap_colonText before)]
    simp only [segments?_colonText, Option.bind_eq_bind, Option.bind_some, missing]
    rw [if_pos (by omega), ← whole, ofList_toList]
    rfl
  · have noGap : ¬[':', ':'] <:+: (colonText address.toList).toList := fun pair =>
      noGap_colonText address.toList (pair.trans (List.prefix_append _ _).isInfix)
    rw [ofText?, cutAtGap_eq_none noGap]
    simp [segments?_colonText]

/-- An address that maps an IPv4 address consists of the two segments of that, behind others. -/
theorem toList_of_mapped? {address : Ipv6} {ipv4 : Ipv4} (maps : address.mapped? = some ipv4) :
    address.toList = List.replicate 5 0 ++ 0xffff :: segmentsOfIpv4 ipv4 := by
  unfold mapped? at maps
  split at maps
  · rename_i high low written
    obtain rfl := Option.some.inj maps
    have high_lt := high.toNat_lt
    have low_lt := low.toNat_lt
    have number : high.toNat * 0x10000 + low.toNat < 0x100000000 := by omega
    have upper : (high.toNat * 0x10000 + low.toNat) / 0x10000 = high.toNat := by omega
    have lower : (high.toNat * 0x10000 + low.toNat) % 0x10000 = low.toNat := by omega
    rw [written, segmentsOfIpv4, Ipv4.toNat_ofNat number, upper, lower, UInt16.ofNat_toNat,
      UInt16.ofNat_toNat]
    rfl
  · cases maps

/-- What is written with full stops is no segment. -/
theorem segment?_text_ipv4 (ipv4 : Ipv4) : segment? ipv4.text.toList = none := by
  cases read : segment? ipv4.text.toList with
  | none => rfl
  | some segment =>
    have dotted : '.' ∈ ipv4.text.toList := by simp [Ipv4.text]
    rw [segment?, Option.ite_none_right_eq_some] at read
    obtain ⟨number, found, _⟩ := Option.map_eq_some_iff.1 read.2
    have digit := isSome_digitValue?_of_number? found '.' dotted
    cases digit

/-- **Every IPv6 address is read back from its text.** -/
theorem ofText?_text (address : Ipv6) : ofText? address.text.toList = some address := by
  unfold text
  split
  · rename_i ipv4 maps
    have cut : cutAtGap ("::ffff:" ++ ipv4.text).toList =
        some ([], "ffff".toList ++ ':' :: ipv4.text.toList) := by
      rw [String.toList_append]
      rfl
    have first : segment? ['f', 'f', 'f', 'f'] = some 0xffff := by decide
    have last : segments? true ("ffff".toList ++ ':' :: ipv4.text.toList) =
        some (0xffff :: segmentsOfIpv4 ipv4) := by
      rw [segments?, if_neg (by simp), List.splitOn_append_cons_self, List.splitOn_eq_singleton (by decide),
        List.splitOn_eq_singleton (Ipv4.colon_notMem_of_ofText? ipv4.ofText?_text), List.singleton_append]
      simp [segmentsOfPieces?, first, segment?_text_ipv4, Ipv4.ofText?_text]
    have none : segments? false [] = some [] := rfl
    rw [ofText?, cut]
    simp only [none, last, Option.bind_eq_bind, Option.bind_some]
    rw [if_pos (by simp [segmentsOfIpv4]), ← ofList_toList address, toList_of_mapped? maps]
    rfl
  · exact ofText?_compressed address

end Ipv6

end ServiceLocation.Address
