import Mathlib.Data.List.Infix
import Mathlib.Data.List.TakeWhile
import Swarmkeeper.Address.Text
import Swarmkeeper.Proofs.Text.Digits

/-!
# The written form of an address

Hexadecimal digits, points and colons are all that a written address has, and every IPv4 address has a
point. An address is read as it is written.
-/

namespace Swarmkeeper.Address

open Swarmkeeper.Text

variable {cs rest : List Char} {c : Char}

/-! ## What has been read -/

def isHexDigit (c : Char) : Bool := (hexValue? c).isSome

/-- A sign of an IPv4 address. -/
def isV4Sign (c : Char) : Bool := (digitValue? c).isSome || c == '.'

/-- A sign of an address. -/
def isSign (c : Char) : Bool := isHexDigit c || c == '.' || c == ':'

/-- The rest is left of a text when signs of one sort have been read. -/
def Leaves (p : Char → Bool) (cs rest : List Char) : Prop :=
  ∃ used, cs = used ++ rest ∧ ∀ c ∈ used, p c = true

theorem hexValue?_of_digitValue? {d : Nat} (h : digitValue? c = some d) : hexValue? c = some d := by
  unfold digitValue? at h
  split at h
  · rename_i hc
    rw [hexValue?, if_pos hc, h]
  · cases h

theorem isSign_of_isV4Sign (h : isV4Sign c = true) : isSign c = true := by
  simp only [isV4Sign, Bool.or_eq_true] at h
  rcases h with h | h
  · obtain ⟨d, hd⟩ := Option.isSome_iff_exists.mp h
    simp [isSign, isHexDigit, hexValue?_of_digitValue? hd]
  · simp [isSign, h]

namespace Leaves

variable {p q : Char → Bool} {mid : List Char}

theorem refl (cs : List Char) : Leaves p cs cs := ⟨[], rfl, by simp⟩

theorem trans (h : Leaves p cs mid) (h' : Leaves p mid rest) : Leaves p cs rest := by
  obtain ⟨used, rfl, hu⟩ := h
  obtain ⟨used', rfl, hu'⟩ := h'
  refine ⟨used ++ used', (List.append_assoc ..).symm, fun c hc => ?_⟩
  rcases List.mem_append.mp hc with hc | hc
  · exact hu c hc
  · exact hu' c hc

theorem cons (hc : p c = true) (h : Leaves p cs rest) : Leaves p (c :: cs) rest :=
  trans ⟨[c], rfl, by simpa using hc⟩ h

theorem mono (hpq : ∀ c, p c = true → q c = true) (h : Leaves p cs rest) : Leaves q cs rest := by
  obtain ⟨used, hcs, hu⟩ := h
  exact ⟨used, hcs, fun c hc => hpq c (hu c hc)⟩

theorem drop_takeWhile (p : Char → Bool) (cs : List Char) :
    Leaves p cs (cs.drop (cs.takeWhile p).length) :=
  ⟨cs.takeWhile p, List.prefix_append_drop (List.takeWhile_prefix p),
    fun _ hc => List.mem_takeWhile_imp hc⟩

theorem forall_mem (h : Leaves p cs []) : ∀ c ∈ cs, p c = true := by
  obtain ⟨used, rfl, hu⟩ := h
  simpa using hu

end Leaves

theorem readOctet_leaves {d : Fin 256} (h : readOctet cs = some (d, rest)) :
    Leaves (fun c => (digitValue? c).isSome) cs rest := by
  simp only [readOctet] at h
  split at h
  · cases h
  · split at h
    · cases h
      exact .drop_takeWhile _ cs
    · cases h

theorem readDottedOctet_leaves {d : Fin 256} (h : readDottedOctet cs = some (d, rest)) :
    ∃ tail, cs = '.' :: tail ∧ Leaves isV4Sign tail rest := by
  unfold readDottedOctet at h
  split at h
  · exact ⟨_, rfl, (readOctet_leaves h).mono fun c hc => by simp [isV4Sign, hc]⟩
  · cases h

theorem readOctets_leaves {o : Fin 256 × Fin 256 × Fin 256 × Fin 256}
    (h : readOctets cs = some (o, rest)) :
    ∃ tail, Leaves (fun c => (digitValue? c).isSome) cs ('.' :: tail) ∧ Leaves isV4Sign tail rest := by
  simp only [readOctets, bind, Option.bind_eq_some_iff, Prod.exists] at h
  obtain ⟨_, _, ha, _, _, hb, _, _, hc, _, _, hd, h⟩ := h
  cases h
  obtain ⟨tb, rfl, lb⟩ := readDottedOctet_leaves hb
  obtain ⟨tc, rfl, lc⟩ := readDottedOctet_leaves hc
  obtain ⟨td, rfl, ld⟩ := readDottedOctet_leaves hd
  exact ⟨tb, readOctet_leaves ha, lb.trans ((lc.trans (ld.cons rfl)).cons rfl)⟩

theorem readOctets_leaves_sign {o : Fin 256 × Fin 256 × Fin 256 × Fin 256}
    (h : readOctets cs = some (o, rest)) : Leaves isSign cs rest := by
  obtain ⟨tail, ht, hr⟩ := readOctets_leaves h
  refine .mono (p := isV4Sign) (fun _ => isSign_of_isV4Sign) ?_
  exact (ht.mono fun c hc => by simp [isV4Sign, hc]).trans (.cons rfl hr)

theorem readGroup_leaves {g : Nat} (h : readGroup cs = some (g, rest)) :
    Leaves isSign cs rest := by
  simp only [readGroup] at h
  split at h
  · cases h
  · cases h
    exact (Leaves.drop_takeWhile isHexDigit cs).mono fun c hc => by simp [isSign, hc]

theorem readGroups_leaves (slots : Nat) (first : Bool) (cs : List Char) :
    Leaves isSign cs (readGroups slots first cs).rest := by
  induction slots generalizing first cs with
  | zero => exact .refl cs
  | succ slots ih =>
      rw [readGroups.eq_def]
      simp only
      split
      · exact .refl cs
      · rename_i body hbody
        have hb : Leaves isSign cs body := by
          split at hbody
          · cases hbody
            exact .refl cs
          · split at hbody
            · cases hbody
              exact .cons rfl (.refl _)
            · cases hbody
        split
        · rename_i a b c d rest ho
          split at ho
          · cases ho
          · exact hb.trans (readOctets_leaves_sign ho)
        · split
          · exact .refl cs
          · rename_i hg
            exact hb.trans ((readGroup_leaves hg).trans (ih ..))

theorem readV6_leaves {a : Address} (h : readV6 cs = some (a, rest)) : Leaves isSign cs rest := by
  have hhead := readGroups_leaves 8 true cs
  simp only [readV6] at h
  split at h
  · cases h
    exact hhead
  · split at h
    · cases h
    · split at h
      · rename_i hr
        cases h
        rw [hr] at hhead
        exact hhead.trans (.cons rfl (.cons rfl (readGroups_leaves ..)))
      · cases h

theorem readV6_family {a : Address} (h : readV6 cs = some (a, rest)) : a.family = .v6 := by
  simp only [readV6] at h
  split at h
  · cases h
    rfl
  · split at h
    · cases h
    · split at h
      · cases h
        rfl
      · cases h

theorem ofChars?_cases {a : Address} (h : ofChars? cs = some a) :
    readV4 cs = some (a, []) ∨ readV6 cs = some (a, []) := by
  unfold ofChars? at h
  split at h
  · cases h
    exact .inl ‹_›
  · split at h
    · cases h
      exact .inr ‹_›
    · cases h

theorem exists_readOctets {a : Address} (h : readV4 cs = some (a, rest)) :
    ∃ o, readOctets cs = some (o, rest) := by
  obtain ⟨⟨o, r⟩, ho, hr⟩ := Option.map_eq_some_iff.mp h
  cases hr
  exact ⟨o, ho⟩

theorem isSign_of_ofChars? {a : Address} (h : ofChars? cs = some a) : ∀ c ∈ cs, isSign c = true := by
  rcases ofChars?_cases h with h | h
  · obtain ⟨o, ho⟩ := exists_readOctets h
    exact (readOctets_leaves_sign ho).forall_mem
  · exact (readV6_leaves h).forall_mem

theorem point_mem_of_ofChars? {a : Address} (h : ofChars? cs = some a) (ha : a.family = .v4) :
    '.' ∈ cs := by
  rcases ofChars?_cases h with h | h
  · obtain ⟨o, ho⟩ := exists_readOctets h
    obtain ⟨tail, ⟨used, rfl, -⟩, -⟩ := readOctets_leaves ho
    simp
  · rw [readV6_family h] at ha
    cases ha

/-! ## Colons -/

theorem mem_of_leaves {p : Char → Bool} (h : Leaves p cs rest) (hc : c ∈ rest) : c ∈ cs := by
  obtain ⟨used, rfl, -⟩ := h
  exact List.mem_append_right used hc

theorem colon_mem_of_readGroups (slots : Nat) (h : (readGroups slots false cs).groups ≠ []) :
    ':' ∈ cs := by
  cases slots with
  | zero => exact absurd rfl h
  | succ slots =>
      rw [readGroups.eq_def] at h
      simp only [Bool.false_eq_true, if_false] at h
      split at h
      · exact absurd rfl h
      · rename_i hbody
        split at hbody
        · exact List.mem_cons_self
        · cases hbody

/-- More groups than the two of an IPv4 address have a colon between them. -/
theorem colon_mem_of_two_lt (slots : Nat) (h : 2 < (readGroups slots true cs).groups.length) :
    ':' ∈ cs := by
  cases slots with
  | zero => cases h
  | succ slots =>
      rw [readGroups.eq_def] at h
      simp only [if_true] at h
      split at h
      · exact absurd h (by simp)
      · split at h
        · cases h
        · rename_i hg
          refine mem_of_leaves (readGroup_leaves hg) (colon_mem_of_readGroups slots ?_)
          intro hn
          rw [hn] at h
          simp at h

theorem colon_mem_of_readV6 {a : Address} (h : readV6 cs = some (a, rest)) : ':' ∈ cs := by
  simp only [readV6] at h
  split at h
  · rename_i hl
    exact colon_mem_of_two_lt 8 (by omega)
  · split at h
    · cases h
    · split at h
      · rename_i hr
        exact mem_of_leaves (readGroups_leaves 8 true cs) (hr ▸ List.mem_cons_self)
      · cases h

theorem point_or_colon_mem_of_ofChars? {a : Address} (h : ofChars? cs = some a) : '.' ∈ cs ∨ ':' ∈ cs := by
  cases ha : a.family with
  | v4 => exact .inl (point_mem_of_ofChars? h ha)
  | v6 =>
      rcases ofChars?_cases h with h | h
      · obtain ⟨⟨o, r⟩, -, hr⟩ := Option.map_eq_some_iff.mp h
        cases hr
        cases ha
      · exact .inr (colon_mem_of_readV6 h)

end Swarmkeeper.Address
