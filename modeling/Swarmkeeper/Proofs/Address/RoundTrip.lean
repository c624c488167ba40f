import Swarmkeeper.Proofs.Address.Notation

/-!
# Addresses are read as they are written

The numbers between points and colons come back one by one. A double colon is written for a run of zeros
that is as long as what the reader finds missing.
-/

namespace Swarmkeeper.Address

open Swarmkeeper.Text

variable {cs rest : List Char}

theorem takeWhile_append {p : Char → Bool} {ds : List Char} (hd : ∀ c ∈ ds, p c = true)
    (hr : ∀ c ∈ rest.head?, p c = false) : (ds ++ rest).takeWhile p = ds := by
  rw [List.takeWhile_append_of_pos hd]
  cases rest with
  | nil => simp
  | cons c rest => simp [hr c rfl]

/-! ## Octets -/

theorem readOctet_decimal (d : Fin 256) (hr : ∀ c ∈ rest.head?, (digitValue? c).isSome = false) :
    readOctet (decimal d ++ rest) = some (d, rest) := by
  have hlen : (decimal d).length ≤ 3 :=
    Nat.toDigits_length 10 d 3 (by omega) (Nat.lt_trans d.isLt (by decide))
  have hzero : ¬ (1 < (decimal d).length ∧ (decimal d).head? = some '0') := by
    rintro ⟨hl, h0⟩
    rw [eq_zero_of_head?_decimal h0] at hl
    exact absurd hl (by decide)
  rw [readOctet, takeWhile_append (fun _ => digitValue?_of_mem_decimal) hr]
  simp only [digitsValue_decimal, decimal_ne_nil, hzero, Nat.not_lt.mpr hlen, or_self, if_false,
    d.isLt, dif_pos, List.drop_left]

theorem readOctets_octetsText (value : Nat) (rest : List Char)
    (hr : ∀ c ∈ rest.head?, (digitValue? c).isSome = false) :
    readOctets (octetsText value ++ rest) =
      some ((octet value 0, octet value 1, octet value 2, octet value 3), rest) := by
  have point (tail : List Char) : ∀ c ∈ ('.' :: tail).head?, (digitValue? c).isSome = false := by
    intro c hc
    cases hc
    decide
  simp only [octetsText, List.append_assoc, List.cons_append, readOctets, bind, Option.bind,
    readOctet_decimal _ (point _), readDottedOctet, readOctet_decimal _ hr, pure]

theorem ofOctets_octet {a : Address} (ha : a.family = .v4) :
    ofOctets (octet a.value 0) (octet a.value 1) (octet a.value 2) (octet a.value 3) = a := by
  obtain ⟨f, v, hv⟩ := a
  cases ha
  have hv : v < 0x100000000 := hv
  simp only [ofOctets, octet, Address.mk.injEq, true_and]
  norm_num
  omega

/-! ## Groups -/

/-- What may follow a group: the end, or a colon. -/
def Follows (rest : List Char) : Prop := ∀ c ∈ rest.head?, c = ':'

theorem Follows.colon (tail : List Char) : Follows (':' :: tail) := fun _ hc => (Option.some.inj hc).symm

theorem Follows.nil : Follows [] := nofun

theorem readGroup_hexadecimal {g : Nat} (hg : g < 65536) (hr : Follows rest) :
    readGroup (hexadecimal g ++ rest) = some (g, rest) := by
  have hlen : (hexadecimal g).length ≤ 4 := Nat.toDigits_length 16 g 4 (by omega) hg
  have hstop : ∀ c ∈ rest.head?, (hexValue? c).isSome = false := by
    intro c hc
    rw [hr c hc]
    decide
  rw [readGroup, takeWhile_append (fun _ => hexValue?_of_mem_hexadecimal) hstop]
  simp only [hexadecimal_ne_nil, Nat.not_lt.mpr hlen, or_self, if_false, foldl_hexadecimal,
    List.drop_left]

theorem not_leaves_point {hs tail : List Char} (hh : ∀ c ∈ hs, isHexDigit c = true)
    (hr : Follows rest) : ¬ Leaves (fun c => (digitValue? c).isSome) (hs ++ rest) ('.' :: tail) := by
  rintro ⟨used, hcs, hu⟩
  induction hs generalizing used with
  | nil =>
      rw [List.nil_append] at hcs
      cases used with
      | nil => exact absurd (hr '.' (by simp [hcs])) (by decide)
      | cons d used =>
          have hd : d = ':' := hr d (by simp [hcs])
          exact absurd (hu d (by simp)) (by simp [hd]; decide)
  | cons c hs ih =>
      rw [List.cons_append] at hcs
      cases used with
      | nil =>
          have hc : c = '.' := (List.cons.inj hcs).1
          exact absurd (hh c (by simp)) (by simp [hc]; decide)
      | cons d used =>
          exact ih (fun x hx => hh x (by simp [hx])) used (List.cons.inj hcs).2
            fun x hx => hu x (by simp [hx])

/-- Digits that no point follows are no octets. -/
theorem readOctets_eq_none (hs : List Char) (hh : ∀ c ∈ hs, isHexDigit c = true) (hr : Follows rest) :
    readOctets (hs ++ rest) = none := by
  rw [Option.eq_none_iff_forall_ne_some]
  rintro ⟨o, r⟩ h
  obtain ⟨tail, ht, -⟩ := readOctets_leaves h
  exact not_leaves_point hh hr ht

theorem readGroup_eq_none (hr : Follows rest) : readGroup rest = none := by
  cases rest with
  | nil => rfl
  | cons c rest =>
      obtain rfl : c = ':' := hr c rfl
      rfl

/-- No further group can be read here. -/
def Stops (rest : List Char) : Prop :=
  Follows rest ∧ ∀ slots, readGroups slots false rest = ⟨[], false, rest⟩

theorem Stops.nil : Stops [] := by
  refine ⟨.nil, fun slots => ?_⟩
  cases slots <;> rfl

theorem Stops.doubleColon (tail : List Char) : Stops (':' :: ':' :: tail) := by
  refine ⟨.colon _, fun slots => ?_⟩
  cases slots with
  | zero => rfl
  | succ slots =>
      have ho : readOctets (':' :: tail) = none := readOctets_eq_none [] nofun (.colon tail)
      rw [readGroups]
      simp [ho, readGroup_eq_none (.colon tail)]

/-- Groups with a colon before each. -/
def furtherText (gs : List Nat) : List Char := gs.flatMap fun g => ':' :: hexadecimal g

theorem groupsText_cons (g : Nat) (gs : List Nat) :
    groupsText (g :: gs) = hexadecimal g ++ furtherText gs := by
  induction gs generalizing g with
  | nil => simp [groupsText, furtherText]
  | cons g' gs ih => simp [groupsText, ih g', furtherText]

theorem Follows.further (gs : List Nat) (hr : Follows rest) : Follows (furtherText gs ++ rest) := by
  cases gs with
  | nil => exact hr
  | cons g gs => exact .colon _

theorem readGroups_group {g : Nat} (hg : g < 65536) (hr : Follows rest) (slots : Nat) (first : Bool) :
    readGroups (slots + 1) first ((if first then [] else [':']) ++ hexadecimal g ++ rest) =
      ⟨g :: (readGroups slots false rest).groups, (readGroups slots false rest).endsInOctets,
        (readGroups slots false rest).rest⟩ := by
  have ho : readOctets (hexadecimal g ++ rest) = none :=
    readOctets_eq_none _ (fun _ => hexValue?_of_mem_hexadecimal) hr
  cases first <;> simp [readGroups.eq_def (slots + 1), ho, readGroup_hexadecimal hg hr]

theorem readGroups_further {gs : List Nat} {slots : Nat} (hg : ∀ g ∈ gs, g < 65536)
    (hl : gs.length ≤ slots) (hr : Stops rest) :
    readGroups slots false (furtherText gs ++ rest) = ⟨gs, false, rest⟩ := by
  induction gs generalizing slots with
  | nil => exact hr.2 slots
  | cons g gs ih =>
      rw [List.length_cons] at hl
      obtain ⟨slots, rfl⟩ : ∃ n, slots = n + 1 := ⟨slots - 1, by omega⟩
      have h := readGroups_group (hg g (by simp)) (hr.1.further gs) slots false
      rw [ih (fun x hx => hg x (by simp [hx])) (by omega)] at h
      simpa [furtherText] using h

/-- As many groups as there is room for are read as they are written. -/
theorem readGroups_groupsText {gs : List Nat} (slots : Nat) (hg : ∀ g ∈ gs, g < 65536)
    (hl : gs.length ≤ slots + 1) (hr : Stops rest) :
    readGroups (slots + 1) true (groupsText gs ++ rest) = ⟨gs, false, rest⟩ := by
  cases gs with
  | nil =>
      have ho : readOctets rest = none := readOctets_eq_none [] nofun hr.1
      simp [groupsText, readGroups.eq_def (slots + 1), ho, readGroup_eq_none hr.1]
  | cons g gs =>
      rw [List.length_cons] at hl
      have h := readGroups_group (hg g (by simp)) (hr.1.further gs) slots true
      rw [readGroups_further (fun x hx => hg x (by simp [hx])) (by omega) hr] at h
      simpa [groupsText_cons] using h

/-- The groups that a double colon leaves out are found again. -/
theorem readV6_doubleColon {front back : List Nat} (hf : ∀ g ∈ front, g < 65536)
    (hb : ∀ g ∈ back, g < 65536) (hl : front.length + back.length ≤ 6) :
    readV6 (groupsText front ++ ':' :: ':' :: groupsText back) =
      some (ofGroups (front ++ List.replicate (8 - front.length - back.length) 0 ++ back), []) := by
  have hhead := readGroups_groupsText 7 hf (by omega) (.doubleColon (groupsText back))
  have htail := readGroups_groupsText (6 - front.length) hb (by omega) .nil
  rw [List.append_nil, show 6 - front.length + 1 = 7 - front.length by omega] at htail
  rw [readV6]
  simp only [hhead, htail, if_neg (show ¬ front.length = 8 by omega), Bool.false_eq_true, if_false]

theorem readV6_groupsText {gs : List Nat} (hg : ∀ g ∈ gs, g < 65536) (hl : gs.length = 8) :
    readV6 (groupsText gs) = some (ofGroups gs, []) := by
  have h := readGroups_groupsText 7 hg (by omega) .nil
  rw [List.append_nil] at h
  rw [readV6]
  simp only [h, hl, if_true]

/-! ## The run of zeros that is left out -/

theorem take_eq_replicate {gs : List Nat} {n : Nat} (hn : n ≤ leadingZeros gs) :
    gs.take n = List.replicate n 0 := by
  have hz : gs.takeWhile (· == 0) = List.replicate (leadingZeros gs) 0 := by
    rw [List.eq_replicate_iff]
    exact ⟨rfl, fun g hg => by simpa using List.mem_takeWhile_imp hg⟩
  have hp : gs.take (leadingZeros gs) = gs.takeWhile (· == 0) :=
    (List.prefix_iff_eq_take.mp (List.takeWhile_prefix _)).symm
  calc gs.take n = (gs.take (leadingZeros gs)).take n := by rw [List.take_take, Nat.min_eq_left hn]
    _ = List.replicate n 0 := by rw [hp, hz, List.take_replicate, Nat.min_eq_left hn]

/-- What is found at a place are zeros. -/
theorem longestZeros_le (gs : List Nat) :
    (longestZeros gs).2 ≤ leadingZeros (gs.drop (longestZeros gs).1) := by
  unfold longestZeros
  generalize List.range gs.length = places
  suffices h : ∀ best : Nat × Nat, best.2 ≤ leadingZeros (gs.drop best.1) →
      (places.foldl (fun best i =>
        let run := leadingZeros (gs.drop i)
        if best.2 < run then (i, run) else best) best).2 ≤
      leadingZeros (gs.drop (places.foldl (fun best i =>
        let run := leadingZeros (gs.drop i)
        if best.2 < run then (i, run) else best) best).1) by
    exact h (0, 0) (Nat.zero_le _)
  intro best hbest
  induction places generalizing best with
  | nil => exact hbest
  | cons i places ih =>
      rw [List.foldl_cons]
      refine ih _ ?_
      simp only
      split
      · exact Nat.le_refl _
      · exact hbest

theorem eq_of_longestZeros (gs : List Nat) :
    gs = gs.take (longestZeros gs).1 ++ List.replicate (longestZeros gs).2 0 ++
      gs.drop ((longestZeros gs).1 + (longestZeros gs).2) := by
  rw [← take_eq_replicate (longestZeros_le gs), ← List.drop_drop, List.append_assoc,
    List.take_append_drop, List.take_append_drop]

theorem longestZeros_end_le {gs : List Nat} (h : 0 < (longestZeros gs).2) :
    (longestZeros gs).1 + (longestZeros gs).2 ≤ gs.length := by
  have hle := longestZeros_le gs
  have hlen : leadingZeros (gs.drop (longestZeros gs).1) ≤ (gs.drop (longestZeros gs).1).length :=
    (List.takeWhile_prefix _).length_le
  rw [List.length_drop] at hlen
  omega

/-! ## Whole addresses -/

theorem ofGroups_group {a : Address} (ha : a.family = .v6) :
    ofGroups ((List.range 8).map (group a.value)) = a := by
  obtain ⟨f, v, hv⟩ := a
  cases ha
  have hv : v < 0x100000000000000000000000000000000 := hv
  simp only [ofGroups, ofNat, Address.mk.injEq, true_and]
  have hsize : Family.v6.size = 0x100000000000000000000000000000000 := by decide
  simp [List.range, List.range.loop, group, hsize]
  omega

theorem group_lt (value i : Nat) : group value i < 65536 := Nat.mod_lt _ (by decide)

/-- Hexadecimal digits, maybe none, and then a colon or the end. -/
def BeginsV6 (cs : List Char) : Prop :=
  ∃ hs tail, cs = hs ++ tail ∧ (∀ c ∈ hs, isHexDigit c = true) ∧ Follows tail

theorem beginsV6_groupsText (gs : List Nat) (tail : List Char) (ht : Follows tail) :
    BeginsV6 (groupsText gs ++ tail) := by
  cases gs with
  | nil => exact ⟨[], tail, rfl, nofun, ht⟩
  | cons g gs =>
      exact ⟨hexadecimal g, furtherText gs ++ tail, by rw [groupsText_cons, List.append_assoc],
        fun _ => hexValue?_of_mem_hexadecimal, ht.further gs⟩

theorem beginsV6_colon (tail : List Char) : BeginsV6 (':' :: tail) := ⟨[], _, rfl, nofun, .colon _⟩

theorem ofChars?_of_readV6 {a : Address} (hcs : BeginsV6 cs) (h : readV6 cs = some (a, [])) :
    ofChars? cs = some a := by
  obtain ⟨hs, tail, rfl, hh, ht⟩ := hcs
  have hn : readV4 (hs ++ tail) = none := by
    rw [readV4, readOctets_eq_none hs hh ht, Option.map_none]
  simp [ofChars?, hn, h]

theorem ofChars?_groupsForm {a : Address} (ha : a.family = .v6) :
    ofChars? (groupsForm a.value) = some a := by
  have hlt : ∀ g ∈ (List.range 8).map (group a.value), g < 65536 := by
    intro g hg
    obtain ⟨i, -, rfl⟩ := List.mem_map.mp hg
    exact group_lt _ _
  have hlen : ((List.range 8).map (group a.value)).length = 8 := by simp
  have hgs := ofGroups_group ha
  unfold groupsForm
  generalize (List.range 8).map (group a.value) = gs at hlt hlen hgs
  simp only
  split
  · rename_i hrun
    have hend := longestZeros_end_le (show 0 < (longestZeros gs).2 by omega)
    have hsplit := eq_of_longestZeros gs
    generalize (longestZeros gs).1 = start, (longestZeros gs).2 = run at hrun hend hsplit
    refine ofChars?_of_readV6 (beginsV6_groupsText _ _ (.colon _)) ?_
    rw [readV6_doubleColon (fun g hg => hlt g (List.mem_of_mem_take hg))
      (fun g hg => hlt g (List.mem_of_mem_drop hg)) (by simp; omega)]
    have hzeros : 8 - (gs.take start).length - (gs.drop (start + run)).length = run := by
      simp
      omega
    rw [hzeros, ← hsplit, hgs]
  · have h := readV6_groupsText hlt hlen
    rw [hgs] at h
    have hb := beginsV6_groupsText gs [] .nil
    rw [List.append_nil] at hb
    exact ofChars?_of_readV6 hb h

/-- The groups that an IPv4 address ends in. -/
def octetGroups (value : Nat) : List Nat :=
  [(octet value 0).val * 256 + (octet value 1).val, (octet value 2).val * 256 + (octet value 3).val]

theorem readGroups_octetsText (value slots : Nat) :
    readGroups (slots + 2) false (':' :: octetsText value) = ⟨octetGroups value, true, []⟩ := by
  have ho := readOctets_octetsText value [] nofun
  rw [List.append_nil] at ho
  simp [readGroups, ho, octetGroups]

theorem ofGroups_mapped {a : Address} (hm : a.isMapped = true) :
    ofGroups (List.replicate 5 0 ++ 0xFFFF :: octetGroups (a.value - mappedBase)) = a := by
  obtain ⟨f, v, hv⟩ := a
  cases f with
  | v4 => cases hm
  | v6 =>
      have hlo : mappedBase ≤ v := by
        simp only [isMapped, Bool.and_eq_true] at hm
        exact of_decide_eq_true hm.1
      have hhi : v < mappedBase + 0x100000000 := by
        simp only [isMapped, Bool.and_eq_true] at hm
        exact of_decide_eq_true hm.2
      obtain ⟨n, rfl⟩ := Nat.exists_eq_add_of_le hlo
      have hn : n < 0x100000000 := Nat.lt_of_add_lt_add_left hhi
      have hvalue : (octetGroups n).foldl (fun acc g => acc * 65536 + g) 0xFFFF = mappedBase + n := by
        simp only [octetGroups, octet, List.foldl_cons, List.foldl_nil, mappedBase]
        norm_num
        omega
      simp only [ofGroups, ofNat, Address.mk.injEq, true_and, Nat.add_sub_cancel_left,
        List.replicate, List.cons_append, List.nil_append, List.foldl_cons, Nat.zero_mul, Nat.zero_add,
        hvalue]
      exact Nat.mod_eq_of_lt hv

theorem ofChars?_mapped {a : Address} (hm : a.isMapped = true) :
    ofChars? (':' :: ':' :: (hexadecimal 0xFFFF ++ ':' :: octetsText (a.value - mappedBase))) =
      some a := by
  have hend : Follows (':' :: octetsText (a.value - mappedBase)) := .colon _
  have hhead := readGroups_groupsText 7 (show ∀ g ∈ [], g < 65536 from nofun) (by simp)
    (.doubleColon (hexadecimal 0xFFFF ++ ':' :: octetsText (a.value - mappedBase)))
  have htail := readGroups_group (g := 0xFFFF) (by decide) hend 6 true
  rw [readGroups_octetsText] at htail
  refine ofChars?_of_readV6 (beginsV6_colon _) ?_
  rw [readV6]
  simp only [groupsText, List.nil_append, if_true] at hhead htail ⊢
  simp only [hhead, htail, List.length_nil]
  simpa [octetGroups] using ofGroups_mapped hm

theorem mappedText : "::ffff:".toList = ':' :: ':' :: (hexadecimal 0xFFFF ++ [':']) := by decide

/-- An address is read as it is written. -/
theorem ofChars?_toChars (a : Address) : ofChars? a.toChars = some a := by
  unfold toChars
  cases hf : a.family with
  | v4 =>
      have h := readOctets_octetsText a.value [] nofun
      rw [List.append_nil] at h
      simp only [ofChars?, readV4, h, Option.map_some, ofOctets_octet hf]
  | v6 =>
      simp only
      split
      · rename_i hm
        rw [mappedText, List.cons_append, List.cons_append, List.append_assoc]
        exact ofChars?_mapped hm
      · exact ofChars?_groupsForm hf

end Swarmkeeper.Address
