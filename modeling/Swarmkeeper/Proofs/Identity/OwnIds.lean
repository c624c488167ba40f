import Swarmkeeper.Proofs.Identity.VersionCode
import Swarmkeeper.Proofs.Text.Ascii

/-!
# The client accepts its own peer ids

There is a fingerprint for every tag of two letters or digits and for no other, whatever the version says. It
is a text of eight ASCII characters with delimiters at its ends only, so that a peer id made of it and of
random letters and digits has exactly two delimiters, the first of them in front.
-/

namespace Swarmkeeper.Identity

open Swarmkeeper.Text Swarmkeeper.Text.Utf8

variable {tag product version : String} {f : Fingerprint} {b : UInt8} {c : Char}

/-! ## Letters and digits -/

theorem isAlphanumeric_iff : isAlphanumeric b = true ↔
    48 ≤ b.toNat ∧ b.toNat ≤ 57 ∨ 65 ≤ b.toNat ∧ b.toNat ≤ 90 ∨ 97 ≤ b.toNat ∧ b.toNat ≤ 122 := by
  simp [isAlphanumeric, UInt8.le_iff_toNat_le, or_assoc]

theorem isAlphanum_iff : c.isAlphanum = true ↔
    48 ≤ c.toNat ∧ c.toNat ≤ 57 ∨ 65 ≤ c.toNat ∧ c.toNat ≤ 90 ∨ 97 ≤ c.toNat ∧ c.toNat ≤ 122 := by
  have h : c.isAlphanum = (decide (c.val ≥ 'A'.val ∧ c.val ≤ 'Z'.val) ||
      (decide (c.val ≥ 'a'.val) && decide (c.val ≤ 'z'.val)) ||
      (decide (c.val ≥ '0'.val) && decide (c.val ≤ '9'.val))) := rfl
  simp [h, UInt32.le_iff_toNat_le]
  omega

theorem lt_of_isAlphanum (h : c.isAlphanum = true) : c.toNat < 128 := by
  have := isAlphanum_iff.mp h
  omega

theorem isAlphanumeric_byteOf (h : c.toNat < 128) : isAlphanumeric (byteOf c) = c.isAlphanum := by
  rw [Bool.eq_iff_iff, isAlphanumeric_iff, isAlphanum_iff, toNat_byteOf h]

theorem lt_of_isAlphanumeric (h : isAlphanumeric b = true) : b.toNat < 128 := by
  have := isAlphanumeric_iff.mp h
  omega

theorem ne_delimiter_of_isAlphanumeric (h : isAlphanumeric b = true) : b ≠ delimiter := by
  rintro rfl
  exact absurd h (by decide)

theorem isAlphanumeric_of_mem_alphabet : ∀ b ∈ alphabet, isAlphanumeric b = true := by decide +kernel

/-! ## Tags -/

/-- Two characters, each of them an ASCII letter or digit. -/
def TwoAlphanumerics (tag : String) : Prop :=
  ∃ c d : Char, tag.toList = [c, d] ∧ c.isAlphanum = true ∧ d.isAlphanum = true

theorem TwoAlphanumerics.ascii (h : TwoAlphanumerics tag) : ∀ c ∈ tag.toList, c.toNat < 128 := by
  obtain ⟨c, d, htag, hc, hd⟩ := h
  rw [htag]
  simp [lt_of_isAlphanum hc, lt_of_isAlphanum hd]

theorem TwoAlphanumerics.encode_tag (h : TwoAlphanumerics tag) : encode tag = tag.toList.map byteOf :=
  encode_of_ascii h.ascii

theorem TwoAlphanumerics.map_charOf (h : TwoAlphanumerics tag) : (encode tag).map charOf = tag.toList := by
  rw [h.encode_tag, List.map_map]
  exact (List.map_congr_left fun c hc => charOf_byteOf (h.ascii c hc)).trans (List.map_id _)

theorem isTag_iff : isTag tag = true ↔ TwoAlphanumerics tag := by
  constructor
  · intro h
    obtain ⟨hlength, hall⟩ : (encode tag).length = 2 ∧ ∀ b ∈ encode tag, isAlphanumeric b = true := by
      simpa [isTag] using h
    -- bytes of letters and digits are below 128, so that each is a character of its own
    have hascii := ascii_of_encode fun b hb => lt_of_isAlphanumeric (hall b hb)
    have hencode : encode tag = tag.toList.map byteOf := encode_of_ascii hascii
    rw [hencode, List.length_map] at hlength
    have halphanum : ∀ c ∈ tag.toList, c.isAlphanum = true := fun c hc => by
      rw [← isAlphanumeric_byteOf (hascii c hc)]
      exact hall _ (hencode ▸ List.mem_map_of_mem hc)
    obtain ⟨c, d, htag⟩ := List.length_eq_two.mp hlength
    exact ⟨c, d, htag, halphanum c (by simp [htag]), halphanum d (by simp [htag])⟩
  · intro h
    have hascii := h.ascii
    obtain ⟨c, d, htag, hc, hd⟩ := id h
    simp only [htag, List.mem_cons, List.not_mem_nil, or_false, forall_eq_or_imp, forall_eq] at hascii
    simp [isTag, h.encode_tag, htag, isAlphanumeric_byteOf hascii.1, isAlphanumeric_byteOf hascii.2, hc, hd]

theorem isAlphanumeric_of_mem_encode (h : TwoAlphanumerics tag) (hb : b ∈ encode tag) :
    isAlphanumeric b = true := by
  have htag := isTag_iff.mpr h
  simp only [isTag, Bool.and_eq_true, List.all_eq_true] at htag
  exact htag.2 b hb

/-! ## Versions -/

/-- A byte of a version code is that of a digit or a capital letter. -/
def IsCodeByte (b : UInt8) : Prop := 48 ≤ b.toNat ∧ b.toNat ≤ 57 ∨ 65 ≤ b.toNat ∧ b.toNat ≤ 90

theorem isCodeByte_versionChar (n : Nat) : IsCodeByte (versionChar n) := by
  rw [IsCodeByte, toNat_versionChar]
  split <;> omega

theorem isCodeByte_of_mem_versionCode (h : b ∈ versionCode version) : IsCodeByte b := by
  rw [versionCode_eq] at h
  obtain ⟨i, -, rfl⟩ := List.mem_map.mp h
  exact isCodeByte_versionChar _

theorem IsCodeByte.isAlphanumeric (h : IsCodeByte b) : isAlphanumeric b = true :=
  isAlphanumeric_iff.mpr (h.imp_right Or.inl)

theorem IsCodeByte.char (h : IsCodeByte b) :
    '0' ≤ charOf b ∧ charOf b ≤ '9' ∨ 'A' ≤ charOf b ∧ charOf b ≤ 'Z' := by
  have hle (c d : Char) : c ≤ d ↔ c.toNat ≤ d.toNat := Iff.rfl
  rw [hle, hle, hle, hle, toNat_charOf]
  exact h

theorem char_of_mem_versionCode : ∀ c ∈ (versionCode version).map charOf,
    '0' ≤ c ∧ c ≤ '9' ∨ 'A' ≤ c ∧ c ≤ 'Z' := by
  intro c hc
  obtain ⟨b, hb, rfl⟩ := List.mem_map.mp hc
  exact (isCodeByte_of_mem_versionCode hb).char

/-! ## The fingerprint -/

theorem derive?_of_twoAlphanumerics (h : TwoAlphanumerics tag) : Fingerprint.derive? tag product version =
    some ⟨delimiter :: encode tag ++ versionCode version ++ [delimiter], s!"{product}/{version}"⟩ :=
  if_pos (isTag_iff.mpr h)

theorem isSome_derive? : (Fingerprint.derive? tag product version).isSome = true ↔ TwoAlphanumerics tag := by
  rw [Fingerprint.derive?, ← isTag_iff]
  split <;> simp_all

/-- A peer id that the client may show: the fingerprint and further bytes, with a delimiter in front and
another one behind it. -/
structure Presentable (f : Fingerprint) (id : List UInt8) : Prop where
  fingerprint : f.bytes <+: id
  length : id.length = peerIdLength
  delimiters : id.count delimiter = 2
  accepted : isMalformed id = false

/-- What the fingerprint of a tag looks like. -/
structure Framed (tag : String) (f : Fingerprint) : Prop where
  text : ∃ code : List Char, code.length = 4 ∧ (∀ c ∈ code, '0' ≤ c ∧ c ≤ '9' ∨ 'A' ≤ c ∧ c ≤ 'Z') ∧
    '-' ∉ tag.toList ++ code ∧ f.toText.toList = '-' :: (tag.toList ++ code) ++ ['-']
  ascii : ∀ c ∈ f.toText.toList, c.toNat < 128
  /-- The bytes are those of the text. -/
  bytes : encode f.toText = f.bytes
  length : f.bytes.length = 8
  ids : ∀ tail : List UInt8, tail.length = 12 → (∀ b ∈ tail, b ∈ alphabet) → Presentable f (f.peerId tail)

variable {bytes : List UInt8}

theorem count_delimiter_of_isAlphanumeric (h : ∀ b ∈ bytes, isAlphanumeric b = true) :
    bytes.count delimiter = 0 :=
  List.count_eq_zero_of_not_mem fun hmem => ne_delimiter_of_isAlphanumeric (h _ hmem) rfl

theorem presentable (hf : f.bytes = delimiter :: bytes ++ [delimiter]) (hlength : bytes.length = 6)
    (h : ∀ b ∈ bytes, isAlphanumeric b = true) {tail : List UInt8} (ht : tail.length = 12)
    (htail : ∀ b ∈ tail, b ∈ alphabet) : Presentable f (f.peerId tail) := by
  have hcount := count_delimiter_of_isAlphanumeric h
  have htcount := count_delimiter_of_isAlphanumeric fun b hb => isAlphanumeric_of_mem_alphabet b (htail b hb)
  constructor
  · exact List.prefix_append _ _
  · simp [Fingerprint.peerId, hf, hlength, ht, peerIdLength]
  · simp [Fingerprint.peerId, hf, hcount, htcount]
  · simp [Fingerprint.peerId, hf, isMalformed]

/-! ### Between the delimiters -/

theorem TwoAlphanumerics.inner (h : TwoAlphanumerics tag) :
    ∀ b ∈ encode tag ++ versionCode version, isAlphanumeric b = true := by
  intro b hb
  rcases List.mem_append.mp hb with hb | hb
  · exact isAlphanumeric_of_mem_encode h hb
  · exact (isCodeByte_of_mem_versionCode hb).isAlphanumeric

theorem TwoAlphanumerics.length_inner (h : TwoAlphanumerics tag) :
    (encode tag ++ versionCode version).length = 6 := by
  obtain ⟨c, d, htag, -, -⟩ := id h
  simp [h.encode_tag, htag, versionCode_eq]

theorem TwoAlphanumerics.dash_not_mem (h : TwoAlphanumerics tag) :
    '-' ∉ tag.toList ++ (versionCode version).map charOf := by
  obtain ⟨c, d, htag, hc, hd⟩ := h
  rw [htag, List.mem_append, List.mem_pair]
  rintro ((rfl | rfl) | hcode)
  · exact absurd hc (by decide)
  · exact absurd hd (by decide)
  · exact absurd (char_of_mem_versionCode _ hcode) (by decide)

theorem framed (h : TwoAlphanumerics tag)
    (hf : f.bytes = delimiter :: (encode tag ++ versionCode version) ++ [delimiter]) : Framed tag f := by
  have hbytes : ∀ b ∈ f.bytes, b.toNat < 128 := by
    have hinner : ∀ b ∈ encode tag ++ versionCode version, b.toNat < 128 :=
      fun b hb => lt_of_isAlphanumeric (h.inner b hb)
    have hdelimiter : delimiter.toNat < 128 := by decide
    rw [hf]
    simp_all [or_imp, forall_and]
  have htext : f.toText.toList = f.bytes.map charOf := by
    rw [Fingerprint.toText, decodeLossy_of_ascii hbytes, String.toList_ofList]
  obtain ⟨hascii, hencode⟩ := encode_decodeLossy hbytes
  refine ⟨⟨(versionCode version).map charOf, ?_, char_of_mem_versionCode, h.dash_not_mem, ?_⟩, hascii, hencode,
    ?_, fun _ => presentable hf h.length_inner h.inner⟩
  · simp [versionCode_eq]
  · have hframe : charOf delimiter = '-' := rfl
    simp [htext, hf, h.map_charOf, hframe]
  · rw [hf, List.length_append, List.length_cons, h.length_inner]
    rfl

/-- There is a fingerprint for exactly the tags of two letters or digits, and no peer id made of it is taken
for one without a fingerprint. -/
theorem own_ids_accepted (tag product version : String) :
    ((Fingerprint.derive? tag product version).isSome = true ↔ TwoAlphanumerics tag) ∧
      ∀ f ∈ Fingerprint.derive? tag product version, Framed tag f := by
  refine ⟨isSome_derive?, fun f hf => ?_⟩
  have h : TwoAlphanumerics tag := isSome_derive?.mp (Option.isSome_of_mem hf)
  rw [derive?_of_twoAlphanumerics h, Option.mem_some_iff] at hf
  exact @framed tag version f h (by rw [← hf]; simp)

end Swarmkeeper.Identity
