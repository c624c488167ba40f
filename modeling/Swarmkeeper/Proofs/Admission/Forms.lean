import Swarmkeeper.Admission.Range
import Swarmkeeper.Proofs.Address.Notation
import Swarmkeeper.Proofs.Text.Cutting
import Swarmkeeper.Proofs.Text.Numeral

/-!
# The forms of a pattern

A slash decides what a pattern is before a dash does, and a dash before a star. What stands on the two
sides of a slash or dash is read without the blanks around it. A written address has none of these signs,
is bounded by no blanks, and is no numeral.
-/

namespace Swarmkeeper

open Swarmkeeper.Text

/-! ## The signs of an address -/

namespace Address

variable {c : Char} {cs : List Char} {a : Address}

theorem toNat_of_isSign (h : isSign c = true) :
    c.toNat = 46 ∨ (48 ≤ c.toNat ∧ c.toNat ≤ 58) ∨ (65 ≤ c.toNat ∧ c.toNat ≤ 70) ∨
      (97 ≤ c.toNat ∧ c.toNat ≤ 102) := by
  have le (x y : Char) (hxy : x ≤ y) : x.toNat ≤ y.toNat := hxy
  simp only [isSign, isHexDigit, Bool.or_eq_true, beq_iff_eq] at h
  rcases h with (h | rfl) | rfl
  · unfold hexValue? at h
    split at h
    · rename_i hc
      exact .inr (.inl ⟨le _ _ hc.1, (le _ _ hc.2).trans (by decide)⟩)
    · split at h
      · rename_i hc
        exact .inr (.inr (.inr ⟨le _ _ hc.1, le _ _ hc.2⟩))
      · split at h
        · rename_i hc
          exact .inr (.inr (.inl ⟨le _ _ hc.1, le _ _ hc.2⟩))
        · cases h
  · decide
  · decide

theorem isBlank_of_isSign (h : isSign c = true) : isBlank c = false := by
  have hc := toNat_of_isSign h
  simp only [isBlank, Bool.or_eq_false_iff, Bool.and_eq_false_iff, decide_eq_false_iff_not,
    beq_eq_false_iff_ne]
  omega

theorem readBelow?_of_ofChars? {limit : Nat} (hl : 0 < limit) (h : ofChars? cs = some a) :
    readBelow? limit cs = none := by
  rcases point_or_colon_mem_of_ofChars? h with hc | hc
  · exact readBelow?_eq_none hl hc (by decide) (by decide)
  · exact readBelow?_eq_none hl hc (by decide) (by decide)

end Address

/-! ## Which sign decides -/

namespace Admission.Range

open Address

variable {a : Address} {cs ds : List Char}

/-- No sign that makes a form of pattern stands in a written address. -/
theorem not_mem_of_ofChars? (h : ofChars? cs = some a) (sep : Char) (hs : isSign sep = false) :
    sep ∉ cs := by
  intro hm
  rw [isSign_of_ofChars? h _ hm] at hs
  cases hs

theorem trimChars_of_ofChars? (h : ofChars? cs = some a) : trimChars cs = cs :=
  trimChars_eq_self fun c hc => isBlank_of_isSign (isSign_of_ofChars? h c hc)

theorem ne_nil_of_ofChars? (h : ofChars? cs = some a) : cs ≠ [] := by
  rintro rfl
  have : ofChars? [] = none := by decide
  rw [this] at h
  cases h

/-- A written address is no last octet. -/
theorem readLast_of_ofChars? (first : Address) (h : ofChars? cs = some a) : readLast first cs = .ok a := by
  unfold readLast
  split
  · rename_i hd
    rw [readBelow?_of_ofChars? (by decide) h] at hd
    cases hd
  · simp [readAddress, h]

theorem trimChars_append_cons_ne_nil {c : Char} (hc : isBlank c = false) :
    trimChars (cs ++ c :: ds) ≠ [] := by
  simp [trimChars_append_cons hc]

/-- With a slash the pattern is a block. -/
theorem ofChars_slash (h : '/' ∉ cs) :
    Range.ofChars (cs ++ '/' :: ds) = readBlock (trimChars cs) (trimChars ds) := by
  rw [Range.ofChars, if_neg (trimChars_append_cons_ne_nil (by decide)),
    splitOnce_trimChars (by decide) h]
  simp only [trimChars_dropWhile, trimChars_rdropWhile]

/-- Without a slash and with a dash it is a pair of bounds. -/
theorem ofChars_dash (hc : '-' ∉ cs) (hs : '/' ∉ cs ++ ds) :
    Range.ofChars (cs ++ '-' :: ds) = readBounds (trimChars cs) (trimChars ds) := by
  have hslash : '/' ∉ cs ++ '-' :: ds := by simpa using hs
  rw [Range.ofChars, if_neg (trimChars_append_cons_ne_nil (by decide)),
    splitOnce_trimChars_eq_none hslash, splitOnce_trimChars (by decide) hc]
  simp only [trimChars_dropWhile, trimChars_rdropWhile]

/-- With neither and with a star it is a wildcard. -/
theorem ofChars_star (ht : trimChars cs = cs) (h : '*' ∈ cs) (hs : '/' ∉ cs) (hd : '-' ∉ cs) :
    Range.ofChars cs = readWildcard cs := by
  have hne : cs ≠ [] := List.ne_nil_of_mem h
  have hstar : cs.contains '*' = true := by simpa using h
  simp only [Range.ofChars, ht, if_neg hne, splitOnce_eq_none hs, splitOnce_eq_none hd, hstar, if_true]

end Admission.Range

end Swarmkeeper
