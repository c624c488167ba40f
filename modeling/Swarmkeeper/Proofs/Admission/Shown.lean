import Swarmkeeper.Admission.Filter
import Swarmkeeper.Pattern.Basic
import Swarmkeeper.Proofs.Admission.Bounds
import Swarmkeeper.Proofs.Admission.OneAddress

/-!
# Ranges as they are shown

A range is shown as its two bounds with a dash between them. That is a pattern in its turn, and it stands
for the same range: each bound is read as it was written, no bound is a last octet, and neither holds a
sign that would make another form of the pattern. Only mapped bounds do not come back, since the bounds of
a pattern are taken in canonical form.
-/

namespace Swarmkeeper

open Swarmkeeper.Text

/-! ## Mapped addresses -/

namespace Address

variable {a : Address}

theorem ofNat_value (a : Address) : ofNat a.family a.value = a :=
  eq_of_value_eq rfl (Nat.mod_eq_of_lt a.value_lt)

theorem isMapped_of_v4 (h : a.family = .v4) : a.isMapped = false := by
  rw [isMapped, h]

theorem canonical_of_isMapped (h : a.isMapped = true) :
    a.canonical.family = .v4 ∧ a.canonical.value = a.value - mappedBase := by
  rw [canonical, if_pos h]
  refine ⟨rfl, Nat.mod_eq_of_lt ?_⟩
  unfold isMapped at h
  split at h
  · cases h
  · rw [Bool.and_eq_true, decide_eq_true_eq, decide_eq_true_eq] at h
    have hsize : Family.v4.size = 0x100000000 := by decide
    omega

theorem canonical_family_ne {b : Address} (hf : a.family = b.family) (ha : a.isMapped = true)
    (hb : b.isMapped = false) : a.canonical.family ≠ b.canonical.family := by
  rw [(canonical_of_isMapped ha).1, canonical_of_not_isMapped hb, ← hf]
  intro h4
  rw [isMapped_of_v4 h4.symm] at ha
  cases ha

end Address

namespace Admission.Range

open Address

variable {a b : Address} {r s : Range}

/-! ## The two bounds -/

/-- The first address of the range. -/
def lower (r : Range) : Address :=
  ⟨r.family, r.first, Nat.lt_of_le_of_lt r.first_le_last r.last_lt⟩

/-- The last address of the range. -/
def upper (r : Range) : Address := ⟨r.family, r.last, r.last_lt⟩

theorem eq_of_bounds_eq (hl : r.lower = s.lower) (hu : r.upper = s.upper) : r = s := by
  cases r
  cases s
  cases hl
  cases hu
  rfl

/-- A range is made of bounds if these are its bounds in canonical form. -/
theorem ofBounds_eq_ok_iff : ofBounds a b = .ok r ↔ r.lower = a.canonical ∧ r.upper = b.canonical := by
  constructor
  · intro h
    obtain ⟨⟨hf, -⟩, hfam, hlo, hhi⟩ := of_ofBounds h
    exact ⟨eq_of_value_eq hfam hlo, eq_of_value_eq (hfam.trans hf) hhi⟩
  · rintro ⟨hl, hu⟩
    have hf : a.canonical.family = b.canonical.family := by rw [← hl, ← hu]; rfl
    have hle : a.canonical.value ≤ b.canonical.value := by
      rw [← hl, ← hu]
      exact r.first_le_last
    obtain ⟨s, hs⟩ := exists_ofBounds hf hle
    obtain ⟨-, hfam, hlo, hhi⟩ := of_ofBounds hs
    have hsl : s.lower = a.canonical := eq_of_value_eq hfam hlo
    have hsu : s.upper = b.canonical := eq_of_value_eq (hfam.trans hf) hhi
    rw [hs, eq_of_bounds_eq (hsl.trans hl.symm) (hsu.trans hu.symm)]

/-! ## The text -/

theorem toList_toText (r : Range) : r.toText.toList = r.lower.toChars ++ '-' :: r.upper.toChars := by
  have htext (s : String) : toString s = s := rfl
  have hlower : Address.ofNat r.family r.first = r.lower := ofNat_value r.lower
  have hupper : Address.ofNat r.family r.last = r.upper := ofNat_value r.upper
  rw [toText, hlower, hupper]
  simp [Address.toText, htext]

/-- No white space is found in the text of a range. -/
theorem trim_toText (r : Range) : trim r.toText = r.toText := by
  have hblank : ∀ c ∈ r.toText.toList, isBlank c = false := by
    intro c hc
    rw [toList_toText, List.mem_append, List.mem_cons] at hc
    rcases hc with hc | rfl | hc
    · exact isBlank_of_isSign (isSign_of_ofChars? (ofChars?_toChars _) c hc)
    · decide
    · exact isBlank_of_isSign (isSign_of_ofChars? (ofChars?_toChars _) c hc)
  rw [trim, trimChars_eq_self hblank, String.ofList_toList]

theorem toText_ne_empty (r : Range) : r.toText ≠ "" := by
  intro h
  have hlist := toList_toText r
  rw [h] at hlist
  simp at hlist

/-- A list of ranges takes the text as it stands. -/
theorem cleanEntries_toText (r : Range) : Filter.cleanEntries [r.toText] = [r.toText] := by
  simp [Filter.cleanEntries, trim_toText, toText_ne_empty]

/-! ## The text as a pattern -/

/-- The text is read as its two bounds, as if they were given as addresses. -/
theorem ofText_toText_eq_ofBounds (r : Range) : Range.ofText r.toText = ofBounds r.lower r.upper := by
  have hlower := ofChars?_toChars r.lower
  have hupper := ofChars?_toChars r.upper
  calc Range.ofText r.toText
      = Range.ofChars (r.lower.toChars ++ '-' :: r.upper.toChars) := by rw [Range.ofText, toList_toText]
    _ = readBounds r.lower.toChars r.upper.toChars :=
        ofChars_dash_of_ofChars? hlower (isSign_of_ofChars? hupper)
    _ = ofBounds r.lower r.upper := readBounds_of_writesLast hlower (.address hupper)

/-- The text of a range is read as the same range exactly if no bound is mapped. -/
theorem ofText_toText_eq_ok_iff : Range.ofText r.toText = .ok r ↔
    r.lower.isMapped = false ∧ r.upper.isMapped = false := by
  rw [ofText_toText_eq_ofBounds, ofBounds_eq_ok_iff]
  exact and_congr (eq_comm.trans canonical_eq_self) (eq_comm.trans canonical_eq_self)

/-- Two mapped bounds are read as the IPv4 addresses that they stand for. -/
theorem ofText_toText_of_isMapped (hl : r.lower.isMapped = true) (hu : r.upper.isMapped = true) :
    ∃ s, Range.ofText r.toText = .ok s ∧ s.lower = r.lower.canonical ∧ s.upper = r.upper.canonical := by
  obtain ⟨hlf, hlv⟩ := canonical_of_isMapped hl
  obtain ⟨huf, huv⟩ := canonical_of_isMapped hu
  have hle : r.lower.value ≤ r.upper.value := r.first_le_last
  obtain ⟨s, hs⟩ := exists_ofBounds (hlf.trans huf.symm) (by rw [hlv, huv]; omega)
  exact ⟨s, (ofText_toText_eq_ofBounds r).trans hs, ofBounds_eq_ok_iff.mp hs⟩

theorem ofText_toText_of_ne (h : r.lower.isMapped ≠ r.upper.isMapped) :
    Range.ofText r.toText = .error .mixedFamilies := by
  rw [ofText_toText_eq_ofBounds]
  have hf : r.lower.family = r.upper.family := rfl
  cases hl : r.lower.isMapped with
  | true =>
      have hu : r.upper.isMapped = false := by simpa [hl] using h
      exact ofBounds_of_ne (canonical_family_ne hf hl hu)
  | false =>
      have hu : r.upper.isMapped = true := by simpa [hl] using h
      exact ofBounds_of_ne (canonical_family_ne hf.symm hu hl).symm

/-! ## Copied from a description -/

section Matcher

variable [Pattern.Matcher]

theorem describe_ofRange {pattern : String} (h : Range.ofText pattern = .ok r) :
    (Filter.ofRange pattern).describe = "IP range " ++ r.toText := by
  rw [Filter.ofRange, h]
  rfl

theorem blocks_ofRange_eq {pattern : String} (h : Range.ofText pattern = .ok r) (peer : Peer) :
    (Filter.ofRange pattern).blocks peer = (ofText? peer.ip).any fun a => decide (r.Contains a) := by
  rw [Filter.ofRange, h]
  rfl

/-- What becomes of a range whose text is taken out of a description and used as a pattern. -/
structure Copied (pattern : String) (r : Range) : Prop where
  described : (Filter.ofRange pattern).describe = "IP range " ++ r.toText
  /-- The text survives as an entry of a list of ranges. -/
  kept : Filter.cleanEntries [r.toText] = [r.toText]
  same : Range.ofText r.toText = .ok r ↔
    r.family = .v4 ∨ (r.lower.isMapped = false ∧ r.upper.isMapped = false)
  sameRule : r.family = .v4 ∨ (r.lower.isMapped = false ∧ r.upper.isMapped = false) →
    (Filter.ofRange r.toText).describe = (Filter.ofRange pattern).describe ∧
      ∀ peer, (Filter.ofRange r.toText).blocks peer = (Filter.ofRange pattern).blocks peer
  mapped : r.lower.isMapped = true → r.upper.isMapped = true →
    ∃ s, Range.ofText r.toText = .ok s ∧ s.lower = r.lower.canonical ∧ s.upper = r.upper.canonical
  mixed : r.lower.isMapped ≠ r.upper.isMapped → Range.ofText r.toText = .error .mixedFamilies

/-- A range that was read from some pattern can be copied from a report back into a list, except that
bounds in the notation of IPv6 for IPv4 addresses are read as other bounds or not at all. -/
theorem shown_as_pattern (pattern : String) (r : Range) (h : Range.ofText pattern = .ok r) :
    Copied pattern r := by
  have hplain : (r.family = .v4 ∨ (r.lower.isMapped = false ∧ r.upper.isMapped = false)) ↔
      r.lower.isMapped = false ∧ r.upper.isMapped = false :=
    ⟨fun hr => hr.elim (fun h4 => ⟨isMapped_of_v4 h4, isMapped_of_v4 h4⟩) id, .inr⟩
  have hsame : Range.ofText r.toText = .ok r ↔
      r.family = .v4 ∨ (r.lower.isMapped = false ∧ r.upper.isMapped = false) :=
    ofText_toText_eq_ok_iff.trans hplain.symm
  refine ⟨describe_ofRange h, cleanEntries_toText r, hsame, fun hr => ?_,
    ofText_toText_of_isMapped, ofText_toText_of_ne⟩
  have hagain := hsame.mpr hr
  exact ⟨(describe_ofRange hagain).trans (describe_ofRange h).symm,
    fun peer => (blocks_ofRange_eq hagain peer).trans (blocks_ofRange_eq h peer).symm⟩

end Matcher

/-- A block of IPv6 addresses is shown as its two bounds and comes back. -/
theorem shown_as_pattern_block : ∃ r, Range.ofText "fe80::/10" = .ok r ∧
    (Filter.ofRange "fe80::/10").describe =
      "IP range fe80::-febf:ffff:ffff:ffff:ffff:ffff:ffff:ffff" ∧
    Range.ofText "fe80::-febf:ffff:ffff:ffff:ffff:ffff:ffff:ffff" = .ok r := by
  let r : Range := ⟨.v6, 0xfe80 * 2 ^ 112, 0xfec0 * 2 ^ 112 - 1, by decide, by decide⟩
  have hr : Range.ofText "fe80::/10" = .ok r := by decide +kernel
  have htext : r.toText = "fe80::-febf:ffff:ffff:ffff:ffff:ffff:ffff:ffff" := by decide +kernel
  have hcopied := shown_as_pattern "fe80::/10" r hr
  have hsame := hcopied.same.mpr (.inr ⟨by decide, by decide⟩)
  rw [htext] at hsame
  exact ⟨r, hr, by rw [hcopied.described, htext]; rfl, hsame⟩

end Admission.Range

end Swarmkeeper
