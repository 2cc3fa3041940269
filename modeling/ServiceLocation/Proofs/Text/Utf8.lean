import ServiceLocation.Proofs.Result
import ServiceLocation.Proofs.Text.Characters
import ServiceLocation.Text.Utf8

/-!
**The bytes of texts in UTF-8.**

Texts are told apart by their bytes (`toUTF8_toList_inj`). Each character of ASCII is one byte, its
number, and is read back from that byte.

* `encode_singleton_of_lt`: the byte of a character of ASCII;
* `decode?_of_lt`: the bytes of a text of such characters give the text.
-/

namespace ServiceLocation.Text.Utf8

/-- The bytes of an array from a position on, behind those already collected in reverse. -/
theorem toList_loop (bytes : ByteArray) (position : Nat) (passed : List UInt8) :
    ByteArray.toList.loop bytes position passed =
      passed.reverse ++ bytes.data.toList.drop position := by
  fun_induction ByteArray.toList.loop bytes position passed with
  | case1 position passed within ih =>
    have inside : position < bytes.data.toList.length := by simpa using within
    have byte : bytes.get! position = bytes.data.toList[position] := by
      simp [ByteArray.get!, within]
    rw [ih, List.drop_eq_getElem_cons inside, byte, List.reverse_cons, List.append_assoc,
      List.singleton_append]
  | case2 position passed beyond =>
    rw [List.drop_eq_nil_of_le (by simpa using Nat.le_of_not_lt beyond), List.append_nil]

/-- **Texts are told apart by their bytes.** -/
theorem toUTF8_toList_inj {first second : String} :
    first.toUTF8.toList = second.toUTF8.toList ↔ first = second := by
  have bytes : ∀ text : String, text.toUTF8.toList = text.toByteArray.data.toList := by
    intro text
    rw [String.toUTF8, ByteArray.toList, toList_loop]
    rfl
  rw [bytes, bytes, Array.toList_inj, ← ByteArray.ext_iff, String.toByteArray_inj]

theorem encode_eq_flatMap (text : List Char) : encode text = text.flatMap String.utf8EncodeChar := by
  rw [encode, String.toUTF8, String.toByteArray_ofList, ByteArray.toList, toList_loop,
    List.utf8Encode]
  simp

/-- **A character of ASCII is one byte.** -/
theorem encode_singleton_of_lt {c : Char} (ascii : c.toNat < 128) :
    encode [c] = [UInt8.ofNat c.toNat] := by
  rw [encode_eq_flatMap, List.flatMap_singleton]
  exact of_toNat_lt (P := fun c => String.utf8EncodeChar c = [UInt8.ofNat c.toNat]) (by decide) ascii

/-- A byte of ASCII is a whole sequence. -/
theorem readChar_of_lt {code : Nat} (ascii : code < 128) (rest : List UInt8) :
    readChar (UInt8.ofNat code) rest = (some (Char.ofNat code), 1) := by
  have lead : ∀ code < 128, lead? (UInt8.ofNat code) = some (0, 0, 0) := by decide
  have bits : (UInt8.ofNat code).toNat = code := by
    rw [UInt8.toNat_ofNat']
    exact Nat.mod_eq_of_lt (Nat.lt_trans ascii (by decide))
  rw [readChar, lead code ascii]
  show ((readTail (UInt8.ofNat code).toNat 1 0 0 0 rest).1.map Char.ofNat, _) = _
  rw [readTail, bits]
  rfl

/-- **The bytes of a text of ASCII characters give the text.** -/
theorem decode?_of_lt {text : List Char} (ascii : ∀ c ∈ text, c.toNat < 128) :
    decode? (text.map fun c => UInt8.ofNat c.toNat) = some text := by
  have parts : decodeParts (text.map fun c => UInt8.ofNat c.toNat) = text.map some := by
    induction text with
    | nil => rw [List.map_nil, decodeParts]; rfl
    | cons c rest ih =>
      obtain ⟨here, later⟩ := List.forall_mem_cons.1 ascii
      rw [List.map_cons, decodeParts, readChar_of_lt here, Char.ofNat_toNat]
      show some c :: decodeParts (List.map _ rest) = _
      rw [ih later, List.map_cons]
  rw [decode?, parts]
  exact (List.mapM_map).trans ((mapM_of_forall fun c _ => rfl).trans (congrArg some (List.map_id _)))

end ServiceLocation.Text.Utf8
