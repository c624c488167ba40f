import Swarmkeeper.Admission.Filter
import Swarmkeeper.Proofs.Address.RoundTrip
import Swarmkeeper.Proofs.Admission.Forms

/-!
# A written address as a range

An address written alone is the range of that address; written as both bounds it is the range of its
canonical form. Since addresses are looked up in canonical form, the two differ on mapped addresses: alone,
such an address matches nobody.
-/

namespace Swarmkeeper

open Swarmkeeper.Text

/-! ## Canonical addresses -/

namespace Address

variable {a b : Address}

theorem canonical_of_not_isMapped (h : a.isMapped = false) : a.canonical = a := by
  rw [canonical, h, if_neg Bool.false_ne_true]

theorem isMapped_canonical (a : Address) : a.canonical.isMapped = false := by
  cases h : a.isMapped with
  | true => rw [canonical, h, if_pos rfl]; rfl
  | false => rw [canonical_of_not_isMapped h, h]

@[simp] theorem canonical_canonical (a : Address) : a.canonical.canonical = a.canonical :=
  canonical_of_not_isMapped (isMapped_canonical a)

/-- Only mapped addresses have another canonical form. -/
theorem canonical_eq_self : a.canonical = a ↔ a.isMapped = false :=
  ⟨fun h => h ▸ isMapped_canonical a, canonical_of_not_isMapped⟩

theorem eq_of_value_eq (hf : a.family = b.family) (hv : a.value = b.value) : a = b := by
  cases a
  cases b
  cases hf
  cases hv
  rfl

end Address

/-! ## Ranges of one address -/

namespace Admission.Range

open Address

variable {a b : Address} {cs ds : List Char}

/-- The range of one address holds those whose canonical form is this address. -/
theorem contains_single : (single a).Contains b ↔ b.canonical = a := by
  constructor
  · rintro ⟨hf, hlo, hhi⟩
    exact eq_of_value_eq hf (Nat.le_antisymm hhi hlo)
  · rintro rfl
    exact ⟨rfl, Nat.le_refl _, Nat.le_refl _⟩

theorem ofBounds_self (a : Address) : ofBounds a a = .ok (single a.canonical) := by
  rw [ofBounds]
  simp [single]

/-- An address alone. -/
theorem ofChars_of_ofChars? (h : ofChars? cs = some a) : Range.ofChars cs = .ok (single a) := by
  have hstar : cs.contains '*' = false := by simpa using not_mem_of_ofChars? h '*' (by decide)
  simp only [Range.ofChars, trimChars_of_ofChars? h, ne_nil_of_ofChars? h, if_false,
    splitOnce_eq_none (not_mem_of_ofChars? h '/' (by decide)),
    splitOnce_eq_none (not_mem_of_ofChars? h '-' (by decide)), hstar, readAddress, h]
  rfl

/-- An address as both bounds, which need not be written alike. -/
theorem ofChars_bounds (hc : ofChars? cs = some a) (hd : ofChars? ds = some a) :
    Range.ofChars (cs ++ '-' :: ds) = .ok (single a.canonical) := by
  have hslash : '/' ∉ cs ++ ds := by
    simp [not_mem_of_ofChars? hc '/' (by decide), not_mem_of_ofChars? hd '/' (by decide)]
  rw [ofChars_dash (not_mem_of_ofChars? hc '-' (by decide)) hslash, trimChars_of_ofChars? hc,
    trimChars_of_ofChars? hd]
  simp only [readBounds, readAddress, hc, bind, Except.bind, readLast_of_ofChars? a hd, ofBounds_self]

section Matcher

variable [Pattern.Matcher]

/-- What the two patterns of one address stand for. -/
structure WrittenAlone (a : Address) : Prop where
  written : ofChars? a.toChars = some a
  /-- However the address is written, both patterns are accepted. -/
  alone : ∀ cs, ofChars? cs = some a → Range.ofChars cs = .ok (single a)
  bounds : ∀ cs ds, ofChars? cs = some a → ofChars? ds = some a →
    Range.ofChars (cs ++ '-' :: ds) = .ok (single a.canonical)
  bounds_contain : ∀ b, (single a.canonical).Contains b ↔ b.canonical = a.canonical
  contains_itself : (single a).Contains a ↔ a.isMapped = false
  agree : (∀ b, (single a).Contains b ↔ (single a.canonical).Contains b) ↔ a.isMapped = false
  /-- A rule made of the address alone blocks somebody, unless the address is mapped. -/
  blocks : ∀ s : String, ofText? s = some a →
    ((∃ peer, (Filter.ofRange s).blocks peer = true) ↔ a.isMapped = false)

theorem blocks_ofRange {s : String} (h : ofText? s = some a) {peer : Peer} :
    (Filter.ofRange s).blocks peer = true ↔ ∃ b, ofText? peer.ip = some b ∧ b.canonical = a := by
  have hr : Range.ofText s = .ok (single a) := ofChars_of_ofChars? h
  simp only [Filter.ofRange, hr, Except.toOption, Filter.blocks, Option.any_eq_true,
    decide_eq_true_eq, contains_single]

/-- The text of an address is a range of this one address as it stands, which the address itself is in
unless it is an IPv4 address in the notation of IPv6. -/
theorem written_alone (a : Address) : WrittenAlone a where
  written := ofChars?_toChars a
  alone _ := ofChars_of_ofChars?
  bounds _ _ := ofChars_bounds
  bounds_contain _ := contains_single
  contains_itself := contains_single.trans canonical_eq_self
  agree := by
    simp only [contains_single]
    constructor
    · intro h
      exact canonical_eq_self.mp ((h a).mpr rfl)
    · intro h b
      rw [canonical_of_not_isMapped h]
  blocks s hs := by
    simp only [blocks_ofRange hs]
    constructor
    · rintro ⟨peer, b, -, rfl⟩
      exact isMapped_canonical b
    · intro h
      exact ⟨⟨[], "", s⟩, a, hs, canonical_of_not_isMapped h⟩

end Matcher

/-- A mapped address written alone does not even match itself; written as both bounds it does. -/
theorem mapped_not_contained :
    ∃ a, ofText? "::ffff:1.2.3.4" = some a ∧ Range.ofText "::ffff:1.2.3.4" = .ok (single a) ∧
      ¬ (single a).Contains a ∧
      ∃ r, Range.ofText "::ffff:1.2.3.4-::ffff:1.2.3.4" = .ok r ∧ r.Contains a := by
  refine ⟨⟨.v6, mappedBase + 0x01020304, by decide⟩, by decide +kernel, by decide +kernel,
    by decide +kernel, ⟨.v4, 0x01020304, 0x01020304, by decide, by decide⟩, by decide +kernel,
    by decide +kernel⟩

end Admission.Range

end Swarmkeeper
