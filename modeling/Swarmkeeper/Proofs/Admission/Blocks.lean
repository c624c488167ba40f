import Swarmkeeper.Proofs.Admission.Forms

/-!
# Blocks of addresses

An address and a prefix length stand for the addresses that begin with the same bits, as many as the length
says. The block is an interval whose bounds are multiples of its size, which is what makes the two agree.
-/

namespace Swarmkeeper

open Swarmkeeper.Text

/-! ## Leading bits -/

namespace Address

/-- The bit at position `i`, counted from the left. -/
def bit (a : Address) (i : Nat) : Bool := a.value.testBit (a.family.width - 1 - i)

theorem div_eq_div_iff_testBit {v w k m : Nat} (hv : v < 2 ^ m) (hw : w < 2 ^ m) :
    v / 2 ^ k = w / 2 ^ k ↔ ∀ j, k ≤ j → j < m → v.testBit j = w.testBit j := by
  constructor
  · intro h j hk _
    obtain ⟨i, rfl⟩ := Nat.exists_eq_add_of_le' hk
    rw [← Nat.testBit_div_two_pow, h, Nat.testBit_div_two_pow]
  · intro h
    refine Nat.eq_of_testBit_eq fun i => ?_
    rw [Nat.testBit_div_two_pow, Nat.testBit_div_two_pow]
    rcases Nat.lt_or_ge (i + k) m with hi | hi
    · exact h _ (Nat.le_add_left ..) hi
    · have hpow : 2 ^ m ≤ 2 ^ (i + k) := Nat.pow_le_pow_right (by decide) hi
      rw [Nat.testBit_lt_two_pow (Nat.lt_of_lt_of_le hv hpow),
        Nat.testBit_lt_two_pow (Nat.lt_of_lt_of_le hw hpow)]

/-- Two addresses of a family lie in one block if they have the same leading bits. -/
theorem div_blockSize_eq_iff {x a : Address} {n : Nat} (hf : x.family = a.family)
    (hn : n ≤ a.family.width) :
    x.value / a.family.blockSize n = a.value / a.family.blockSize n ↔
      ∀ i < n, x.bit i = a.bit i := by
  have hx : x.value < 2 ^ a.family.width := hf ▸ x.value_lt
  have ha : a.value < 2 ^ a.family.width := a.value_lt
  have hbits := div_eq_div_iff_testBit (k := a.family.width - n) hx ha
  simp only [Family.blockSize, Nat.pow_eq, hbits, bit, hf]
  constructor
  · intro h i hi
    exact h _ (by omega) (by omega)
  · intro h j hk hj
    have := h (a.family.width - 1 - j) (by omega)
    rwa [show a.family.width - 1 - (a.family.width - 1 - j) = j by omega] at this

end Address

/-! ## Blocks -/

namespace Admission.Range

open Address

variable {a x : Address} {cs ds : List Char} {n : Nat}

/-- A block holds the addresses of its family with the same leading bits. -/
theorem contains_block (hn : n ≤ a.family.width) :
    (block a n hn).Contains x ↔
      x.canonical.family = a.family ∧ ∀ i < n, x.canonical.bit i = a.bit i := by
  refine and_congr_right fun hf => ?_
  have hpos := a.family.blockSize_pos n
  have hblock := Nat.div_eq_iff (x := x.canonical.value)
    (y := a.value / a.family.blockSize n) hpos
  rw [← div_blockSize_eq_iff hf hn, hblock, Nat.add_sub_assoc hpos]
  rfl

theorem readBlock_of_unreadable (h : ofChars? cs = none) :
    readBlock cs ds = .error (.invalidAddress (String.ofList cs)) := by
  simp [readBlock, readAddress, h, bind, Except.bind]

/-- A length that fits the address is accepted. -/
theorem readBlock_of_writes (h : ofChars? cs = some a) (hd : Writes ds n)
    (hn : n ≤ a.canonical.family.width) : readBlock cs ds = .ok (block a.canonical n hn) := by
  have hlt : n < 0x100000000 := by
    have hw : ∀ f : Family, f.width ≤ 128 := by
      intro f
      cases f <;> decide
    have := hw a.canonical.family
    omega
  simp [readBlock, readAddress, h, bind, Except.bind,
    (readBelow?_eq_some_iff (by decide)).mpr ⟨hd, hlt⟩, hn]

theorem readBlock_of_no_length (h : ofChars? cs = some a)
    (hd : ¬ ∃ n, Writes ds n ∧ n ≤ a.canonical.family.width) :
    readBlock cs ds = .error (.invalidPrefix (String.ofList ds)) := by
  cases hr : readBelow? 0x100000000 ds with
  | none => simp [readBlock, readAddress, h, bind, Except.bind, hr]
  | some n =>
      have hw := ((readBelow?_eq_some_iff (by decide)).mp hr).1
      have hn : ¬ n ≤ a.canonical.family.width := fun hn => hd ⟨n, hw, hn⟩
      simp [readBlock, readAddress, h, bind, Except.bind, hr, hn]

/-- What two texts with a slash between them stand for, the first of them an address and the second a
prefix length. -/
structure ReadsBlock (address length : String) : Prop where
  accepted : (∃ r, Range.ofText (address ++ "/" ++ length) = .ok r) ↔
    ∃ a n, ofText? (trim address) = some a ∧ Writes (trim length).toList n ∧
      n ≤ a.canonical.family.width
  /-- The range holds what agrees with the address in as many bits as the length says. -/
  contains : ∀ r a n, Range.ofText (address ++ "/" ++ length) = .ok r →
    ofText? (trim address) = some a → Writes (trim length).toList n →
    ∀ x, r.Contains x ↔ x.canonical.family = a.canonical.family ∧
      ∀ i < n, x.canonical.bit i = a.canonical.bit i
  /-- A text that is no address is reported whatever the length is. -/
  noAddress : ofText? (trim address) = none →
    Range.ofText (address ++ "/" ++ length) = .error (.invalidAddress (trim address))
  noLength : ∀ a, ofText? (trim address) = some a →
    (¬ ∃ n, Writes (trim length).toList n ∧ n ≤ a.canonical.family.width) →
    Range.ofText (address ++ "/" ++ length) = .error (.invalidPrefix (trim length))

/-- What is written as an address, a slash and a length is read as the block of the addresses that agree
with it in so many leading bits, or refused by the first of the two parts that cannot be read. -/
theorem prefix_equality (address length : String) (h : '/' ∉ address.toList) :
    ReadsBlock address length := by
  have hread : Range.ofText (address ++ "/" ++ length) =
      readBlock (trim address).toList (trim length).toList := by
    rw [Range.ofText, String.toList_append, String.toList_append, List.append_assoc]
    simpa [trim] using ofChars_slash h
  have hnone : ofText? (trim address) = none →
      Range.ofText (address ++ "/" ++ length) = .error (.invalidAddress (trim address)) := by
    intro ha
    rw [hread, readBlock_of_unreadable ha, String.ofList_toList]
  have hlength : ∀ a, ofText? (trim address) = some a →
      (¬ ∃ n, Writes (trim length).toList n ∧ n ≤ a.canonical.family.width) →
      Range.ofText (address ++ "/" ++ length) = .error (.invalidPrefix (trim length)) := by
    intro a ha hn
    rw [hread, readBlock_of_no_length ha hn, String.ofList_toList]
  have haccepted : (∃ r, Range.ofText (address ++ "/" ++ length) = .ok r) →
      ∃ a n, ofText? (trim address) = some a ∧ Writes (trim length).toList n ∧
        n ≤ a.canonical.family.width := by
    rintro ⟨r, hr⟩
    cases ha : ofText? (trim address) with
    | none => cases (hnone ha).symm.trans hr
    | some a =>
        by_cases hn : ∃ n, Writes (trim length).toList n ∧ n ≤ a.canonical.family.width
        · obtain ⟨n, hw, hle⟩ := hn
          exact ⟨a, n, rfl, hw, hle⟩
        · cases (hlength a ha hn).symm.trans hr
  refine ⟨⟨haccepted, ?_⟩, ?_, hnone, hlength⟩
  · rintro ⟨a, n, ha, hw, hn⟩
    exact ⟨_, hread.trans (readBlock_of_writes ha hw hn)⟩
  · intro r a n hr ha hw x
    obtain ⟨b, m, hb, hm, hle⟩ := haccepted ⟨r, hr⟩
    obtain rfl : a = b := Option.some.inj (ha.symm.trans hb)
    obtain rfl := hw.unique hm
    obtain rfl := Except.ok.inj (hr.symm.trans (hread.trans (readBlock_of_writes ha hw hle)))
    exact contains_block hle

/-- A mapped address with bits set behind the length, blanks around it and a sign before the length. -/
theorem prefix_equality_mapped : '/' ∉ " ::ffff:10.1.2.3".toList ∧
    ∃ r, Range.ofText (" ::ffff:10.1.2.3" ++ "/" ++ "+8 ") = .ok r ∧
      ∀ x, r.Contains x ↔ x.canonical.family = .v4 ∧
        ∀ i < 8, x.canonical.bit i = (ofOctets 10 1 2 3).bit i := by
  have hslash : '/' ∉ " ::ffff:10.1.2.3".toList := by decide
  have hread := prefix_equality " ::ffff:10.1.2.3" "+8 " hslash
  have ha : ofText? (trim " ::ffff:10.1.2.3") =
      some ⟨.v6, mappedBase + 0x0A010203, by decide⟩ := by decide +kernel
  have hn : Writes (trim "+8 ").toList 8 :=
    ⟨['8'], .inr (by decide +kernel), by decide, by decide, by decide⟩
  obtain ⟨r, hr⟩ := hread.accepted.mpr ⟨_, 8, ha, hn, by decide⟩
  exact ⟨hslash, r, hr, hread.contains r _ 8 hr ha hn⟩

end Admission.Range

end Swarmkeeper
