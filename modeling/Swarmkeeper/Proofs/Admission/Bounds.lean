import Swarmkeeper.Proofs.Address.RoundTrip
import Swarmkeeper.Proofs.Admission.Forms

/-!
# Pairs of bounds

Two bounds stand for the addresses between them, both included, of the family that they have in common. A
last octet as the second bound is short for the first bound with that octet, and for nothing else: no
numeral is an address, so that no text can be meant in two ways.
-/

namespace Swarmkeeper

open Swarmkeeper.Text

/-! ## Octets -/

namespace Address

variable {a : Address} {p q r s : Fin 256} {c : Char} {n : Nat}

theorem octet_ofOctets : octet (ofOctets p q r s).value 0 = p ∧ octet (ofOctets p q r s).value 1 = q ∧
    octet (ofOctets p q r s).value 2 = r ∧ octet (ofOctets p q r s).value 3 = s := by
  simp only [octet, ofOctets, Fin.ext_iff]
  norm_num
  omega

theorem isSign_of_mem_decimal (h : c ∈ decimal n) : isSign c = true :=
  isSign_of_isV4Sign (by simp [isV4Sign, digitValue?_of_mem_decimal h])

theorem toChars_ofOctets : (ofOctets p q r s).toChars =
    decimal p ++ '.' :: decimal q ++ '.' :: decimal r ++ '.' :: decimal s := by
  obtain ⟨h0, h1, h2, h3⟩ := octet_ofOctets (p := p) (q := q) (r := r) (s := s)
  have hf : (ofOctets p q r s).family = .v4 := rfl
  rw [toChars, hf]
  simp only [octetsText, h0, h1, h2, h3]

end Address

/-! ## The second bound -/

namespace Admission.Range

open Address

variable {a b x : Address} {cs ds : List Char}

/-- What a text writes as the second bound beside the first: an address, or the first bound with another
last octet. -/
inductive WritesLast : Address → List Char → Address → Prop where
  | address {a b : Address} {cs : List Char} : ofChars? cs = some b → WritesLast a cs b
  | octet {p q r s t : Fin 256} {cs : List Char} :
      Writes cs t.val → WritesLast (ofOctets p q r s) cs (ofOctets p q r t)

theorem writesLast_of_readLast (h : readLast a cs = .ok b) : WritesLast a cs b := by
  unfold readLast at h
  split at h
  · rename_i d hf hd
    cases h
    have hlast := WritesLast.octet (p := Address.octet a.value 0) (q := Address.octet a.value 1)
      (r := Address.octet a.value 2) (s := Address.octet a.value 3) (writes_of_readBelow? hd)
    rwa [ofOctets_octet hf] at hlast
  · unfold readAddress at h
    split at h
    · cases h
      exact .address ‹_›
    · cases h

theorem readLast_of_writesLast (h : WritesLast a cs b) : readLast a cs = .ok b := by
  cases h with
  | address h => exact readLast_of_ofChars? a h
  | @octet p q r s t _ hw =>
      have hf : (ofOctets p q r s).family = .v4 := rfl
      obtain ⟨h0, h1, h2, -⟩ := octet_ofOctets (p := p) (q := q) (r := r) (s := s)
      simp [readLast, hf, readBelow?_of_writes hw, withLastOctet, h0, h1, h2]

/-- What is neither an octet nor an address is no second bound. -/
theorem readLast_of_not (h : ¬ ∃ b, WritesLast a cs b) :
    readLast a cs = .error (.invalidAddress (String.ofList cs)) := by
  cases hr : readLast a cs with
  | ok b => exact absurd ⟨b, writesLast_of_readLast hr⟩ h
  | error fault =>
      unfold readLast at hr
      split at hr
      · cases hr
      · unfold readAddress at hr
        split at hr
        · cases hr
        · exact hr.symm

/-! ## Both bounds -/

theorem readBounds_of_unreadable (h : ofChars? cs = none) :
    readBounds cs ds = .error (.invalidAddress (String.ofList cs)) := by
  simp [readBounds, readAddress, h, bind, Except.bind]

theorem readBounds_of_not (h : ofChars? cs = some a) (hd : ¬ ∃ b, WritesLast a ds b) :
    readBounds cs ds = .error (.invalidAddress (String.ofList ds)) := by
  simp [readBounds, readAddress, h, readLast_of_not hd, bind, Except.bind]

theorem readBounds_of_writesLast (h : ofChars? cs = some a) (hd : WritesLast a ds b) :
    readBounds cs ds = ofBounds a b := by
  simp [readBounds, readAddress, h, readLast_of_writesLast hd, bind, Except.bind]

theorem exists_ofBounds (hf : a.canonical.family = b.canonical.family)
    (hle : a.canonical.value ≤ b.canonical.value) : ∃ r, ofBounds a b = .ok r := by
  simp [ofBounds, hf, hle]

/-- Bounds that are accepted are of one family and in order, and the range is the interval between them.
-/
theorem of_ofBounds {r : Range} (h : ofBounds a b = .ok r) :
    (a.canonical.family = b.canonical.family ∧ a.canonical.value ≤ b.canonical.value) ∧
      r.family = a.canonical.family ∧ r.first = a.canonical.value ∧ r.last = b.canonical.value := by
  simp only [ofBounds] at h
  split at h
  · rename_i hf
    split at h
    · rename_i hle
      cases h
      exact ⟨⟨hf, hle⟩, rfl, rfl, rfl⟩
    · cases h
  · cases h

/-- Bounds that are out of order are refused. -/
theorem ofBounds_of_lt (hf : a.canonical.family = b.canonical.family)
    (hlt : b.canonical.value < a.canonical.value) : ofBounds a b = .error (.inverted a b) := by
  simp [ofBounds, hf, Nat.not_le.mpr hlt]

/-- Bounds of two families are refused. -/
theorem ofBounds_of_ne (hf : a.canonical.family ≠ b.canonical.family) :
    ofBounds a b = .error .mixedFamilies := by
  simp [ofBounds, hf]

/-- What two texts with a dash between them stand for. -/
structure ReadsBounds (first last : String) : Prop where
  accepted : (∃ r, Range.ofText (first ++ "-" ++ last) = .ok r) ↔
    ∃ a b, ofText? (trim first) = some a ∧ WritesLast a (trim last).toList b ∧
      a.canonical.family = b.canonical.family ∧ a.canonical.value ≤ b.canonical.value
  contains : ∀ r a b, Range.ofText (first ++ "-" ++ last) = .ok r → ofText? (trim first) = some a →
    WritesLast a (trim last).toList b →
    r.first = a.canonical.value ∧ r.last = b.canonical.value ∧ r.first ≤ r.last ∧
      ∀ x, r.Contains x ↔ x.canonical.family = a.canonical.family ∧
        a.canonical.value ≤ x.canonical.value ∧ x.canonical.value ≤ b.canonical.value
  mixed : ∀ a b, ofText? (trim first) = some a → WritesLast a (trim last).toList b →
    a.canonical.family ≠ b.canonical.family →
    Range.ofText (first ++ "-" ++ last) = .error .mixedFamilies
  /-- The bounds are compared in canonical form and reported as they were written. -/
  inverted : ∀ a b, ofText? (trim first) = some a → WritesLast a (trim last).toList b →
    a.canonical.family = b.canonical.family → b.canonical.value < a.canonical.value →
    Range.ofText (first ++ "-" ++ last) = .error (.inverted a b)
  noFirst : ofText? (trim first) = none →
    Range.ofText (first ++ "-" ++ last) = .error (.invalidAddress (trim first))
  noLast : ∀ a, ofText? (trim first) = some a → (¬ ∃ b, WritesLast a (trim last).toList b) →
    Range.ofText (first ++ "-" ++ last) = .error (.invalidAddress (trim last))

theorem readsBounds {first last : String} (hf : '-' ∉ first.toList)
    (hs : '/' ∉ first.toList ++ last.toList) : ReadsBounds first last := by
  have hread : Range.ofText (first ++ "-" ++ last) =
      readBounds (trim first).toList (trim last).toList := by
    rw [Range.ofText, String.toList_append, String.toList_append, List.append_assoc]
    simpa [trim] using ofChars_dash hf hs
  have hpair : ∀ a b, ofText? (trim first) = some a → WritesLast a (trim last).toList b →
      Range.ofText (first ++ "-" ++ last) = ofBounds a b :=
    fun a b ha hb => hread.trans (readBounds_of_writesLast ha hb)
  have hnoFirst : ofText? (trim first) = none →
      Range.ofText (first ++ "-" ++ last) = .error (.invalidAddress (trim first)) := by
    intro ha
    rw [hread, readBounds_of_unreadable ha, String.ofList_toList]
  have hnoLast : ∀ a, ofText? (trim first) = some a → (¬ ∃ b, WritesLast a (trim last).toList b) →
      Range.ofText (first ++ "-" ++ last) = .error (.invalidAddress (trim last)) := by
    intro a ha hb
    rw [hread, readBounds_of_not ha hb, String.ofList_toList]
  refine ⟨⟨?_, ?_⟩, ?_, ?_, ?_, hnoFirst, hnoLast⟩
  · rintro ⟨r, hr⟩
    cases ha : ofText? (trim first) with
    | none => cases (hnoFirst ha).symm.trans hr
    | some a =>
        by_cases hb : ∃ b, WritesLast a (trim last).toList b
        · obtain ⟨b, hb⟩ := hb
          exact ⟨a, b, rfl, hb, (of_ofBounds ((hpair a b ha hb).symm.trans hr)).1⟩
        · cases (hnoLast a ha hb).symm.trans hr
  · rintro ⟨a, b, ha, hb, hfam, hle⟩
    obtain ⟨r, hr⟩ := exists_ofBounds hfam hle
    exact ⟨r, (hpair a b ha hb).trans hr⟩
  · intro r a b hr ha hb
    obtain ⟨-, hfam, hlo, hhi⟩ := of_ofBounds ((hpair a b ha hb).symm.trans hr)
    refine ⟨hlo, hhi, r.first_le_last, fun x => ?_⟩
    rw [Contains, hfam, hlo, hhi]
  · intro a b ha hb hfam
    rw [hpair a b ha hb, ofBounds_of_ne hfam]
  · intro a b ha hb hfam hlt
    rw [hpair a b ha hb, ofBounds_of_lt hfam hlt]

/-! ## The last octet for the bound -/

theorem ofChars_dash_of_ofChars? (h : ofChars? cs = some a) (hd : ∀ c ∈ ds, isSign c = true) :
    Range.ofChars (cs ++ '-' :: ds) = readBounds cs ds := by
  have hslash : '/' ∉ cs ++ ds := by
    rintro hm
    rcases List.mem_append.mp hm with hm | hm
    · exact not_mem_of_ofChars? h '/' (by decide) hm
    · exact absurd (hd _ hm) (by decide)
  rw [ofChars_dash (not_mem_of_ofChars? h '-' (by decide)) hslash, trimChars_of_ofChars? h,
    trimChars_eq_self fun c hc => isBlank_of_isSign (hd c hc)]

/-- Whoever writes one octet and whoever writes all four get the same answer, be it a range or a fault. -/
theorem ofChars_last_octet (p q r s t : Fin 256) :
    Range.ofChars ((ofOctets p q r s).toChars ++ '-' :: decimal t) =
      Range.ofChars ((ofOctets p q r s).toChars ++ '-' :: (ofOctets p q r t).toChars) := by
  have hfirst := ofChars?_toChars (ofOctets p q r s)
  have hlast := ofChars?_toChars (ofOctets p q r t)
  calc Range.ofChars ((ofOctets p q r s).toChars ++ '-' :: decimal t)
      = readBounds (ofOctets p q r s).toChars (decimal t) :=
        ofChars_dash_of_ofChars? hfirst fun _ => isSign_of_mem_decimal
    _ = ofBounds (ofOctets p q r s) (ofOctets p q r t) :=
        readBounds_of_writesLast hfirst (.octet (writes_decimal t))
    _ = readBounds (ofOctets p q r s).toChars (ofOctets p q r t).toChars :=
        (readBounds_of_writesLast hfirst (.address hlast)).symm
    _ = Range.ofChars ((ofOctets p q r s).toChars ++ '-' :: (ofOctets p q r t).toChars) :=
        (ofChars_dash_of_ofChars? hfirst (isSign_of_ofChars? hlast)).symm

/-- Two bounds with a dash between them are read as the interval from one to the other, and a last octet
in the place of the second bound stands for the first bound with that octet. -/
theorem bounds_or_last_octet :
    (∀ first last : String, '-' ∉ first.toList → '/' ∉ first.toList ++ last.toList →
      ReadsBounds first last) ∧
    ∀ p q r s t : Fin 256, Range.ofText s!"{p}.{q}.{r}.{s}-{t}" =
      Range.ofText s!"{p}.{q}.{r}.{s}-{p}.{q}.{r}.{t}" := by
  refine ⟨fun _ _ => readsBounds, fun p q r s t => ?_⟩
  have hnumber (n : Fin 256) : (toString n).toList = decimal n := Nat.toList_repr
  have htext (s : String) : toString s = s := rfl
  have h := ofChars_last_octet p q r s t
  simpa [Range.ofText, String.toList_append, hnumber, htext, toChars_ofOctets] using h

/-- A mapped address and an IPv4 address as bounds of one range, with blanks around the dash. -/
theorem bounds_or_last_octet_mapped : '-' ∉ "::ffff:1.2.3.4 ".toList ∧
    '/' ∉ "::ffff:1.2.3.4 ".toList ++ " 1.2.3.9".toList ∧
    ∃ r, Range.ofText ("::ffff:1.2.3.4 " ++ "-" ++ " 1.2.3.9") = .ok r ∧
      ∀ x, r.Contains x ↔ x.canonical.family = .v4 ∧
        0x01020304 ≤ x.canonical.value ∧ x.canonical.value ≤ 0x01020309 := by
  have hdash : '-' ∉ "::ffff:1.2.3.4 ".toList := by decide
  have hslash : '/' ∉ "::ffff:1.2.3.4 ".toList ++ " 1.2.3.9".toList := by decide
  have hread := bounds_or_last_octet.1 "::ffff:1.2.3.4 " " 1.2.3.9" hdash hslash
  have hfirst : ofText? (trim "::ffff:1.2.3.4 ") =
      some ⟨.v6, mappedBase + 0x01020304, by decide⟩ := by decide +kernel
  have hlast : ofText? (trim " 1.2.3.9") = some (ofOctets 1 2 3 9) := by decide +kernel
  obtain ⟨r, hr⟩ := hread.accepted.mpr ⟨_, _, hfirst, .address hlast, by decide, by decide⟩
  obtain ⟨-, -, -, hcontains⟩ := hread.contains r _ _ hr hfirst (.address hlast)
  exact ⟨hdash, hslash, r, hr, hcontains⟩

end Admission.Range

end Swarmkeeper
