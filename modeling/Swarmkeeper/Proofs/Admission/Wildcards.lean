import Swarmkeeper.Proofs.Address.RoundTrip
import Swarmkeeper.Proofs.Admission.Forms

/-!
# Wildcards

A pattern with stars has four parts, of which some are octets and all that follow are stars. It stands for
the IPv4 addresses with these octets. The range is one interval of numbers, which says the same only because
no octet comes after a star.
-/

namespace Swarmkeeper

open Swarmkeeper.Text

namespace Admission.Range

open Address

variable {parts : List (List Char)} {os : List (Option (Fin 256))} {part cs : List Char} {x : Address}
  {a b c d : Option (Fin 256)} {i n : Nat}

/-! ## Parts -/

/-- What parts stand for, one by one: octets first, and wildcards after them. -/
inductive Patterned : List (List Char) → List (Option (Fin 256)) → Prop where
  | stars (n : Nat) : Patterned (List.replicate n ['*']) (List.replicate n none)
  | number {part : List Char} {o : Fin 256} {parts : List (List Char)} {os : List (Option (Fin 256))} :
      Writes part o.val → Patterned parts os → Patterned (part :: parts) (some o :: os)

/-- Each part is a star or an octet, and what follows a star is a star. -/
structure Octetwise (parts : List (List Char)) : Prop where
  octets : ∀ part ∈ parts, part = ['*'] ∨ ∃ n, Writes part n ∧ n < 256
  trailing : ∀ i j, i ≤ j → j < parts.length → parts[i]? = some ['*'] → parts[j]? = some ['*']

theorem not_writes_star : ¬ Writes ['*'] n := by
  intro h
  have hs := (readBelow?_eq_some_iff (Nat.succ_pos n)).mpr ⟨h, Nat.lt_succ_self n⟩
  rw [readBelow?_eq_none (Nat.succ_pos n) List.mem_cons_self (by decide) (by decide)] at hs
  cases hs

theorem eq_replicate_of_all (h : parts.all (· == ['*']) = true) :
    parts = List.replicate parts.length ['*'] :=
  List.eq_replicate_iff.mpr ⟨rfl, by simpa using h⟩

theorem patterned_of_readOctetPatterns (h : readOctetPatterns parts = some os) : Patterned parts os := by
  induction parts using readOctetPatterns.induct generalizing os with
  | case1 =>
      cases h
      exact .stars 0
  | case2 parts hall =>
      rw [readOctetPatterns, if_pos hall] at h
      cases h
      rw [List.map_const', eq_replicate_of_all hall, List.length_replicate]
      exact .stars (parts.length + 1)
  | case3 parts hall =>
      rw [readOctetPatterns, if_neg hall] at h
      cases h
  | case4 part parts hpart ih =>
      rw [readOctetPatterns.eq_def] at h
      simp only [bind, Option.bind_eq_some_iff] at h
      obtain ⟨n, hn, os', hos, h⟩ := h
      cases h
      exact .number (writes_of_readBelow? hn) (ih hos)

theorem readOctetPatterns_of_patterned (h : Patterned parts os) : readOctetPatterns parts = some os := by
  induction h with
  | stars n =>
      cases n with
      | zero => rfl
      | succ n => simp [List.replicate_succ, readOctetPatterns]
  | @number part o parts os hw _ ih =>
      have hpart : part ≠ ['*'] := by
        rintro rfl
        exact not_writes_star hw
      simp [readOctetPatterns, ih, readBelow?_of_writes hw]

/-- The parts are read exactly if they are octets first and stars after. -/
theorem readOctetPatterns_eq_some_iff : readOctetPatterns parts = some os ↔ Patterned parts os :=
  ⟨patterned_of_readOctetPatterns, readOctetPatterns_of_patterned⟩

theorem Patterned.length_eq (h : Patterned parts os) : os.length = parts.length := by
  induction h with
  | stars n => simp
  | number _ _ ih => simp [ih]

/-- The numbers of the parts are the octets, each in its place. -/
theorem Patterned.getElem?_iff (h : Patterned parts os) :
    (∃ part, parts[i]? = some part ∧ Writes part n) ↔
      ∃ o : Fin 256, os[i]? = some (some o) ∧ o.val = n := by
  induction h generalizing i with
  | stars k =>
      simp only [List.getElem?_replicate]
      constructor
      · rintro ⟨part, hp, hw⟩
        split at hp
        · cases hp
          exact absurd hw not_writes_star
        · cases hp
      · rintro ⟨o, ho, -⟩
        split at ho <;> cases ho
  | @number part o parts os hw _ ih =>
      cases i with
      | zero =>
          constructor
          · rintro ⟨_, hp, hn⟩
            cases hp
            exact ⟨o, rfl, hw.unique hn⟩
          · rintro ⟨_, ho, rfl⟩
            cases ho
            exact ⟨part, rfl, hw⟩
      | succ i => exact ih

theorem Patterned.octetwise (h : Patterned parts os) : Octetwise parts := by
  induction h with
  | stars k =>
      constructor
      · exact fun part hp => .inl (List.eq_of_mem_replicate hp)
      · intro i j _ hj _
        rw [List.length_replicate] at hj
        rw [List.getElem?_replicate, if_pos hj]
  | @number part o parts os hw _ ih =>
      constructor
      · exact List.forall_mem_cons.mpr ⟨.inr ⟨o, hw, o.isLt⟩, ih.octets⟩
      · intro i j hij hj hi
        cases i with
        | zero =>
            cases hi
            exact absurd hw not_writes_star
        | succ i =>
            obtain ⟨j, rfl⟩ : ∃ k, j = k + 1 := ⟨j - 1, by omega⟩
            exact ih.trailing i j (by omega) (by simpa using hj) hi

theorem Octetwise.exists_patterned (h : Octetwise parts) : ∃ os, Patterned parts os := by
  induction parts with
  | nil => exact ⟨_, .stars 0⟩
  | cons part parts ih =>
      rcases h.octets part List.mem_cons_self with rfl | ⟨n, hw, hn⟩
      · -- a star comes first, so that all that follow are stars
        have hall : ['*'] :: parts = List.replicate (parts.length + 1) ['*'] := by
          refine List.eq_replicate_iff.mpr ⟨rfl, fun part hp => ?_⟩
          obtain ⟨j, hj, rfl⟩ := List.getElem_of_mem hp
          have := h.trailing 0 j (Nat.zero_le _) hj rfl
          rw [List.getElem?_eq_getElem hj] at this
          exact Option.some.inj this
        rw [hall]
        exact ⟨_, .stars _⟩
      · have hrest : Octetwise parts := by
          refine ⟨fun part hp => h.octets part (List.mem_cons_of_mem _ hp), fun i j hij hj hi => ?_⟩
          exact h.trailing (i + 1) (j + 1) (by omega) (by simpa using hj) hi
        obtain ⟨os, hos⟩ := ih hrest
        exact ⟨_, .number (o := ⟨n, hn⟩) hw hos⟩

theorem Patterned.getElem?_none {j : Nat} (h : Patterned parts os) (hij : i ≤ j) (hj : j < os.length)
    (hi : os[i]? = some none) : os[j]? = some none := by
  induction h generalizing i j with
  | stars k =>
      rw [List.length_replicate] at hj
      rw [List.getElem?_replicate, if_pos hj]
  | number _ _ ih =>
      cases i with
      | zero => cases hi
      | succ i =>
          obtain ⟨j, rfl⟩ : ∃ k, j = k + 1 := ⟨j - 1, by omega⟩
          exact ih (by omega) (by simpa using hj) hi

/-! ## Ranges of octets -/

/-- The octet is the one that is asked for, if any is. -/
def Meets (p : Fin 256) (o : Option (Fin 256)) : Prop := ∀ m, o = some m → p = m

@[simp] theorem meets_none (p : Fin 256) : Meets p none := nofun

@[simp] theorem meets_some {p m : Fin 256} : Meets p (some m) ↔ p.val = m.val := by
  constructor
  · intro h
    exact congrArg Fin.val (h m rfl)
  · rintro h _ ⟨⟩
    exact Fin.ext h

/-- With wildcards at the end only, the numbers between the bounds are those with the same octets. -/
theorem contains_ofOctetPatterns (hab : a = none → b = none) (hbc : b = none → c = none)
    (hcd : c = none → d = none) :
    (ofOctetPatterns a b c d).Contains x ↔ x.canonical.family = .v4 ∧
      Meets (octet x.canonical.value 0) a ∧ Meets (octet x.canonical.value 1) b ∧
      Meets (octet x.canonical.value 2) c ∧ Meets (octet x.canonical.value 3) d := by
  refine and_congr_right fun hf => ?_
  have hx : (ofOctets (octet x.canonical.value 0) (octet x.canonical.value 1)
      (octet x.canonical.value 2) (octet x.canonical.value 3)).value = x.canonical.value :=
    congrArg Address.value (ofOctets_octet hf)
  generalize octet x.canonical.value 0 = p, octet x.canonical.value 1 = q,
    octet x.canonical.value 2 = r, octet x.canonical.value 3 = s at hx ⊢
  rw [← hx]
  cases a with
  | none =>
      obtain rfl := hab rfl
      obtain rfl := hbc rfl
      obtain rfl := hcd rfl
      simp [ofOctetPatterns, ofOctets, lowOctet, highOctet]
      omega
  | some a =>
      cases b with
      | none =>
          obtain rfl := hbc rfl
          obtain rfl := hcd rfl
          simp [ofOctetPatterns, ofOctets, lowOctet, highOctet]
          omega
      | some b =>
          cases c with
          | none =>
              obtain rfl := hcd rfl
              simp [ofOctetPatterns, ofOctets, lowOctet, highOctet]
              omega
          | some c =>
              cases d <;> simp [ofOctetPatterns, ofOctets, lowOctet, highOctet] <;> omega

theorem forall_getElem?_four {P : Nat → Option (Fin 256) → Prop} :
    (∀ i o, [a, b, c, d][i]? = some o → P i o) ↔ P 0 a ∧ P 1 b ∧ P 2 c ∧ P 3 d := by
  constructor
  · intro h
    exact ⟨h 0 a rfl, h 1 b rfl, h 2 c rfl, h 3 d rfl⟩
  · rintro ⟨ha, hb, hc, hd⟩ i o ho
    match i, ho with
    | 0, rfl => exact ha
    | 1, rfl => exact hb
    | 2, rfl => exact hc
    | 3, rfl => exact hd

theorem Patterned.contains (h : Patterned parts [a, b, c, d]) :
    (ofOctetPatterns a b c d).Contains x ↔ x.canonical.family = .v4 ∧
      ∀ i part n, parts[i]? = some part → Writes part n → (octet x.canonical.value i).val = n := by
  have next (i : Nat) (hi : i + 1 < 4) : [a, b, c, d][i]? = some none → [a, b, c, d][i + 1]? = some none :=
    h.getElem?_none (Nat.le_succ i) hi
  have hrange := contains_ofOctetPatterns (x := x) (by simpa using next 0 (by decide))
    (by simpa using next 1 (by decide)) (by simpa using next 2 (by decide))
  rw [hrange, ← forall_getElem?_four (P := fun i => Meets (octet x.canonical.value i))]
  refine and_congr_right fun _ => ⟨fun hm i part n hp hw => ?_, fun hn i o ho m hm => ?_⟩
  · obtain ⟨o, ho, rfl⟩ := h.getElem?_iff.mp ⟨part, hp, hw⟩
    exact congrArg Fin.val (hm i _ ho o rfl)
  · subst hm
    obtain ⟨part, hp, hw⟩ := h.getElem?_iff.mpr ⟨m, ho, rfl⟩
    exact Fin.ext (hn i part _ hp hw)

/-! ## Patterns with stars -/

theorem readWildcard_of_patterned (h : Patterned (cs.splitOn '.') [a, b, c, d]) :
    readWildcard cs = .ok (ofOctetPatterns a b c d) := by
  rw [readWildcard, splitAll_eq_splitOn, readOctetPatterns_of_patterned h]

theorem exists_patterned (hl : (cs.splitOn '.').length = 4) (h : Octetwise (cs.splitOn '.')) :
    ∃ a b c d, Patterned (cs.splitOn '.') [a, b, c, d] := by
  obtain ⟨os, hos⟩ := h.exists_patterned
  have hlen := hos.length_eq.trans hl
  match os, hlen with
  | [a, b, c, d], _ => exact ⟨a, b, c, d, hos⟩

theorem readWildcard_of_not (h : ¬ ((cs.splitOn '.').length = 4 ∧ Octetwise (cs.splitOn '.'))) :
    readWildcard cs = .error (.invalidAddress (String.ofList cs)) := by
  rw [readWildcard, splitAll_eq_splitOn]
  split
  · rename_i hos
    have hos := readOctetPatterns_eq_some_iff.mp hos
    exact absurd ⟨hos.length_eq.symm, hos.octetwise⟩ h
  · rfl

/-- What a text with a star and neither slash nor dash stands for. -/
structure ReadsWildcard (pattern : String) : Prop where
  accepted : (∃ r, Range.ofText pattern = .ok r) ↔
    (pattern.toList.splitOn '.').length = 4 ∧ Octetwise (pattern.toList.splitOn '.')
  refused : ∀ fault, Range.ofText pattern = .error fault → fault = .invalidAddress pattern
  /-- The range holds the IPv4 addresses with the octets that are written, each in its place. -/
  contains : ∀ r, Range.ofText pattern = .ok r → ∀ x, r.Contains x ↔ x.canonical.family = .v4 ∧
    ∀ i part n, (pattern.toList.splitOn '.')[i]? = some part → Writes part n →
      (octet x.canonical.value i).val = n

/-- A pattern with stars is read if and only if it has four parts of which the stars are the last, and then
holds the addresses that have the octets before the stars. -/
theorem octet_patterns (pattern : String) (ht : trim pattern = pattern) (h : '*' ∈ pattern.toList)
    (hs : '/' ∉ pattern.toList) (hd : '-' ∉ pattern.toList) : ReadsWildcard pattern := by
  have htrim : trimChars pattern.toList = pattern.toList := by
    simpa [trim] using congrArg String.toList ht
  have hread : Range.ofText pattern = readWildcard pattern.toList := ofChars_star htrim h hs hd
  by_cases hw : (pattern.toList.splitOn '.').length = 4 ∧ Octetwise (pattern.toList.splitOn '.')
  · obtain ⟨a, b, c, d, hos⟩ := exists_patterned hw.1 hw.2
    have hok := hread.trans (readWildcard_of_patterned hos)
    refine ⟨⟨fun _ => hw, fun _ => ⟨_, hok⟩⟩, fun fault hf => ?_, fun r hr x => ?_⟩
    · cases hok.symm.trans hf
    · cases hok.symm.trans hr
      exact hos.contains
  · have herror := hread.trans (readWildcard_of_not hw)
    rw [String.ofList_toList] at herror
    refine ⟨⟨?_, fun h => absurd h hw⟩, fun fault hf => ?_, fun r hr => ?_⟩
    · rintro ⟨r, hr⟩
      cases herror.symm.trans hr
    · exact Except.error.inj (hf.symm.trans herror)
    · cases herror.symm.trans hr

/-- A pattern with octets written in two ways and stars in the last two places. -/
theorem octet_patterns_signed : trim "172.+016.*.*" = "172.+016.*.*" ∧ '*' ∈ "172.+016.*.*".toList ∧
    '/' ∉ "172.+016.*.*".toList ∧ '-' ∉ "172.+016.*.*".toList ∧
    ∃ r, Range.ofText "172.+016.*.*" = .ok r ∧ ∀ x, r.Contains x →
      (octet x.canonical.value 0).val = 172 ∧ (octet x.canonical.value 1).val = 16 := by
  have ht : trim "172.+016.*.*" = "172.+016.*.*" := by decide +kernel
  have h : '*' ∈ "172.+016.*.*".toList := by decide
  have hs : '/' ∉ "172.+016.*.*".toList := by decide
  have hd : '-' ∉ "172.+016.*.*".toList := by decide
  have hread := octet_patterns "172.+016.*.*" ht h hs hd
  have hparts : "172.+016.*.*".toList.splitOn '.' =
      ["172".toList, "+016".toList, ['*'], ['*']] := by decide +kernel
  have h172 : Writes "172".toList 172 := ⟨"172".toList, .inl rfl, by decide, by decide, by decide⟩
  have h016 : Writes "+016".toList 16 := ⟨"016".toList, .inr rfl, by decide, by decide, by decide⟩
  have hoctets : Octetwise ("172.+016.*.*".toList.splitOn '.') := by
    rw [hparts]
    exact (Patterned.number (o := 172) h172 (.number (o := 16) h016 (.stars 2))).octetwise
  obtain ⟨r, hr⟩ := hread.accepted.mpr ⟨by rw [hparts]; rfl, hoctets⟩
  refine ⟨ht, h, hs, hd, r, hr, fun x hx => ?_⟩
  obtain ⟨-, hx⟩ := (hread.contains r hr x).mp hx
  rw [hparts] at hx
  exact ⟨hx 0 _ 172 rfl h172, hx 1 _ 16 rfl h016⟩

end Admission.Range

end Swarmkeeper
