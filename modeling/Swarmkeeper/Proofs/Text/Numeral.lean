import Swarmkeeper.Proofs.Text.Digits

/-!
# Bounded numerals

A numeral below a bound is written with digits, at least one, after at most one plus sign. It stands for the
number that the digits write, however many zeros they start with.
-/

namespace Swarmkeeper.Text

variable {limit acc n : Nat} {cs ds : List Char} {c : Char}

/-- Nothing but decimal digits. -/
def AllDigits (ds : List Char) : Prop := ∀ c ∈ ds, (digitValue? c).isSome = true

instance (ds : List Char) : Decidable (AllDigits ds) :=
  List.decidableBAll (fun c => (digitValue? c).isSome = true) ds

/-- A numeral of the number: digits, after a plus sign or without one. -/
def Writes (cs : List Char) (n : Nat) : Prop :=
  ∃ ds, (cs = ds ∨ cs = '+' :: ds) ∧ ds ≠ [] ∧ AllDigits ds ∧ digitsValue ds = n

theorem writes_decimal (n : Nat) : Writes (decimal n) n :=
  ⟨decimal n, .inl rfl, decimal_ne_nil n, fun _ => digitValue?_of_mem_decimal, digitsValue_decimal n⟩

theorem le_foldl_digits (acc : Nat) (ds : List Char) :
    acc ≤ ds.foldl (fun acc c => acc * 10 + (digitValue? c).getD 0) acc := by
  induction ds generalizing acc with
  | nil => exact Nat.le_refl _
  | cons c ds ih =>
      have := ih (acc * 10 + (digitValue? c).getD 0)
      rw [List.foldl_cons]
      omega

theorem readDigits_eq_ok_iff (ha : acc < limit) :
    readDigits limit acc ds = .ok n ↔
      AllDigits ds ∧ ds.foldl (fun acc c => acc * 10 + (digitValue? c).getD 0) acc = n ∧ n < limit := by
  induction ds generalizing acc with
  | nil =>
      simp only [readDigits, Except.ok.injEq, AllDigits, List.not_mem_nil, false_imp_iff, implies_true,
        List.foldl_nil, true_and]
      exact ⟨fun h => ⟨h, h ▸ ha⟩, And.left⟩
  | cons c ds ih =>
      simp only [AllDigits, List.forall_mem_cons, readDigits, List.foldl_cons]
      cases hd : digitValue? c with
      | none => simp
      | some d =>
          simp only [Option.isSome_some, true_and, Option.getD_some]
          split
          · rename_i hlt
            exact ih hlt
          · rename_i hge
            -- what comes after only makes the number greater
            have hle := le_foldl_digits (acc * 10 + d) ds
            constructor
            · nofun
            · rintro ⟨-, rfl, hlt⟩
              omega

theorem readBelow_of_digit (hc : (digitValue? c).isSome = true) :
    readBelow limit (c :: cs) = readDigits limit 0 (c :: cs) := by
  have hp : c ≠ '+' := by
    rintro rfl
    exact absurd hc (by decide)
  unfold readBelow
  split
  · cases ‹_ = []›
  · cases ‹_ = ['+']›
    exact absurd rfl hp
  · cases ‹_ = '+' :: _›
    exact absurd rfl hp
  · rfl

theorem readBelow_plus (hne : ds ≠ []) : readBelow limit ('+' :: ds) = readDigits limit 0 ds := by
  cases ds with
  | nil => exact absurd rfl hne
  | cons c ds => rfl

theorem readDigits_of_readBelow (h : readBelow limit cs = .ok n) :
    ∃ ds, (cs = ds ∨ cs = '+' :: ds) ∧ ds ≠ [] ∧ readDigits limit 0 ds = .ok n := by
  unfold readBelow at h
  split at h
  · cases h
  · cases h
  · rename_i ds hne
    exact ⟨ds, .inr rfl, fun hd => hne (hd ▸ rfl), h⟩
  · rename_i hne _ _
    exact ⟨cs, .inl rfl, fun hd => hne hd, h⟩

theorem readBelow?_eq_some_iff (hl : 0 < limit) :
    readBelow? limit cs = some n ↔ Writes cs n ∧ n < limit := by
  have hok : readBelow? limit cs = some n ↔ readBelow limit cs = .ok n := by
    cases h : readBelow limit cs <;> simp [readBelow?, h, Except.toOption]
  rw [hok]
  constructor
  · intro h
    obtain ⟨ds, hcs, hne, hd⟩ := readDigits_of_readBelow h
    obtain ⟨hall, hv, hn⟩ := (readDigits_eq_ok_iff hl).mp hd
    exact ⟨⟨ds, hcs, hne, hall, hv⟩, hn⟩
  · rintro ⟨⟨ds, hcs, hne, hall, hv⟩, hn⟩
    have hd := (readDigits_eq_ok_iff hl).mpr ⟨hall, hv, hn⟩
    rcases hcs with rfl | rfl
    · obtain ⟨c, ds, rfl⟩ := List.exists_cons_of_ne_nil hne
      rw [readBelow_of_digit (hall c List.mem_cons_self), hd]
    · rw [readBelow_plus hne, hd]

theorem readBelow?_of_writes {o : Fin 256} (h : Writes cs o.val) : readBelow? 256 cs = some o.val :=
  (readBelow?_eq_some_iff (by decide)).mpr ⟨h, o.isLt⟩

theorem writes_of_readBelow? (h : readBelow? 256 cs = some n) : Writes cs (Fin.ofNat 256 n).val := by
  obtain ⟨hw, hlt⟩ := (readBelow?_eq_some_iff (by decide)).mp h
  rwa [Fin.val_ofNat, Nat.mod_eq_of_lt hlt]

theorem Writes.unique {m : Nat} (hm : Writes cs m) (hn : Writes cs n) : m = n := by
  have hm := (readBelow?_eq_some_iff (Nat.succ_pos (m + n))).mpr ⟨hm, by omega⟩
  have hn := (readBelow?_eq_some_iff (Nat.succ_pos (m + n))).mpr ⟨hn, by omega⟩
  exact Option.some.inj (hm.symm.trans hn)

/-- The digits of a bounded numeral without a sign. -/
theorem readBelow?_of_allDigits (hl : 0 < limit) (hne : ds ≠ []) (hd : AllDigits ds) :
    readBelow? limit ds = if digitsValue ds < limit then some (digitsValue ds) else none := by
  split
  · rename_i hlt
    exact (readBelow?_eq_some_iff hl).mpr ⟨⟨ds, .inl rfl, hne, hd, rfl⟩, hlt⟩
  · rename_i hge
    refine Option.eq_none_iff_forall_ne_some.mpr fun n hn => hge ?_
    obtain ⟨⟨es, hds, -, -, rfl⟩, hlt⟩ := (readBelow?_eq_some_iff hl).mp hn
    rcases hds with rfl | rfl
    · exact hlt
    · exact absurd (hd '+' List.mem_cons_self) (by decide)

/-- Signs other than digits and one plus sign are found in no numeral. -/
theorem readBelow?_eq_none (hl : 0 < limit) (hc : c ∈ cs) (hd : digitValue? c = none) (hp : c ≠ '+') :
    readBelow? limit cs = none := by
  refine Option.eq_none_iff_forall_ne_some.mpr fun n hn => ?_
  obtain ⟨⟨ds, hcs, -, hall, -⟩, -⟩ := (readBelow?_eq_some_iff hl).mp hn
  have hm : c ∈ ds := by
    rcases hcs with rfl | rfl
    · exact hc
    · exact (List.mem_cons.mp hc).resolve_left hp
  have := hall c hm
  rw [hd] at this
  cases this

end Swarmkeeper.Text
