import Swarmkeeper.Text.Utf8

/-!
# ASCII text

The bytes below 128 are the characters of ASCII, each of which is one byte; the bytes of all other
characters are greater. So text of ASCII characters can be read byte by byte.
-/

namespace Swarmkeeper.Text.Utf8

/-! ## The bytes of a text -/

theorem toList_loop (bytes : ByteArray) (i : Nat) (acc : List UInt8) :
    ByteArray.toList.loop bytes i acc = acc.reverse ++ bytes.data.toList.drop i := by
  fun_induction ByteArray.toList.loop bytes i acc with
  | case1 i acc h ih =>
      have hi : i < bytes.data.toList.length := by simpa using h
      have hget : bytes.get! i = bytes.data.toList[i] := by simp [ByteArray.get!, h]
      rw [ih, List.drop_eq_getElem_cons hi, hget, List.reverse_cons, List.append_assoc,
        List.singleton_append]
  | case2 i acc h =>
      have hi : bytes.data.toList.length ≤ i := by simpa using h
      rw [List.drop_eq_nil_of_le hi, List.append_nil]

theorem toList_toByteArray (bytes : List UInt8) : bytes.toByteArray.toList = bytes := by
  rw [ByteArray.toList, toList_loop, List.toList_data_toByteArray]
  rfl

theorem encode_eq (s : String) : encode s = s.toList.flatMap String.utf8EncodeChar := by
  rw [encode, String.toUTF8, ← String.utf8Encode_toList, List.utf8Encode, toList_toByteArray]

/-! ## One character -/

variable {c : Char} {b : UInt8}

/-- The byte of an ASCII character. -/
def byteOf (c : Char) : UInt8 := UInt8.ofNat c.toNat

/-- The character of an ASCII byte. -/
def charOf (b : UInt8) : Char := Char.ofNat b.toNat

theorem toNat_byteOf (h : c.toNat < 128) : (byteOf c).toNat = c.toNat := by
  simp [byteOf]
  omega

theorem toNat_charOf (b : UInt8) : (charOf b).toNat = b.toNat := by
  have hvalid : b.toNat.isValidChar := Or.inl (Nat.lt_trans b.toNat_lt (by decide))
  rw [charOf, Char.ofNat, dif_pos hvalid]
  rfl

theorem charOf_byteOf (h : c.toNat < 128) : charOf (byteOf c) = c := by
  rw [charOf, toNat_byteOf h, Char.ofNat_toNat]

@[simp] theorem byteOf_charOf (b : UInt8) : byteOf (charOf b) = b := by
  rw [byteOf, toNat_charOf, UInt8.ofNat_toNat]

theorem utf8EncodeChar_of_lt (h : c.toNat < 128) : String.utf8EncodeChar c = [byteOf c] := by
  have hv : c.val.toNat ≤ 127 := Nat.le_of_lt_succ h
  rw [String.utf8EncodeChar, if_pos hv]
  rfl

theorem le_of_mem_utf8EncodeChar (h : 128 ≤ c.toNat) (hb : b ∈ String.utf8EncodeChar c) : 128 ≤ b.toNat := by
  have hv : ¬ c.val.toNat ≤ 127 := Nat.not_le.mpr h
  rw [String.utf8EncodeChar, if_neg hv] at hb
  split at hb
  · simp at hb
    rcases hb with rfl | rfl <;> simp <;> omega
  split at hb
  · simp at hb
    rcases hb with rfl | rfl | rfl <;> simp <;> omega
  · simp at hb
    rcases hb with rfl | rfl | rfl | rfl <;> simp <;> omega

/-! ## ASCII bytes -/

theorem encode_of_ascii {s : String} (h : ∀ c ∈ s.toList, c.toNat < 128) :
    encode s = s.toList.map byteOf := by
  rw [encode_eq]
  generalize s.toList = cs at h
  induction cs with
  | nil => rfl
  | cons c cs ih =>
      rw [List.flatMap_cons, utf8EncodeChar_of_lt (h c List.mem_cons_self),
        ih fun d hd => h d (List.mem_cons_of_mem _ hd), List.map_cons, List.singleton_append]

/-- Bytes below 128 come from characters below 128. -/
theorem ascii_of_encode {s : String} (h : ∀ b ∈ encode s, b.toNat < 128) : ∀ c ∈ s.toList, c.toNat < 128 := by
  intro c hc
  rcases Nat.lt_or_ge c.toNat 128 with hlt | hge
  · exact hlt
  · obtain ⟨b, hb⟩ := List.exists_mem_of_ne_nil _ (String.utf8EncodeChar_ne_nil (c := c))
    have hmem : b ∈ encode s := by
      rw [encode_eq]
      exact List.mem_flatMap.mpr ⟨c, hc, hb⟩
    exact absurd (h b hmem) (Nat.not_lt.mpr (le_of_mem_utf8EncodeChar hge hb))

theorem pieces_of_ascii {bytes : List UInt8} (h : ∀ b ∈ bytes, b.toNat < 128) :
    pieces bytes.length bytes = bytes.map fun b => some (charOf b) := by
  induction bytes with
  | nil => rfl
  | cons b bytes ih =>
      have hstep : step b bytes = .char (charOf b) 1 :=
        if_pos (UInt8.lt_iff_toNat_lt.mpr (h b List.mem_cons_self))
      rw [List.length_cons, pieces, hstep, List.map_cons]
      exact congrArg _ (ih fun d hd => h d (List.mem_cons_of_mem _ hd))

theorem decodeLossy_of_ascii {bytes : List UInt8} (h : ∀ b ∈ bytes, b.toNat < 128) :
    decodeLossy bytes = String.ofList (bytes.map charOf) := by
  rw [decodeLossy, pieces_of_ascii h, List.map_map]
  rfl

/-- Bytes below 128 are read as ASCII characters, whose bytes they are. -/
theorem encode_decodeLossy {bytes : List UInt8} (h : ∀ b ∈ bytes, b.toNat < 128) :
    (∀ c ∈ (decodeLossy bytes).toList, c.toNat < 128) ∧ encode (decodeLossy bytes) = bytes := by
  rw [decodeLossy_of_ascii h]
  have hascii : ∀ c ∈ (String.ofList (bytes.map charOf)).toList, c.toNat < 128 := by
    simpa [toNat_charOf] using h
  refine ⟨hascii, ?_⟩
  rw [encode_of_ascii hascii, String.toList_ofList, List.map_map]
  exact (List.map_congr_left fun b _ => byteOf_charOf b).trans (List.map_id _)

end Swarmkeeper.Text.Utf8
