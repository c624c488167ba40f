import Swarmkeeper.Identity.Fingerprint
import Swarmkeeper.Proofs.Text.Cutting
import Swarmkeeper.Proofs.Text.Numeral

/-!
# The version in a fingerprint

Each of the four characters tells the number at the front of one component of the version, as far as one
character can: digits up to nine, letters up to 35, and the last letter from there on. A number that 32 bits
do not hold is the exception; it is told as zero.
-/

namespace Swarmkeeper.Identity

open Swarmkeeper.Text

variable {v w : String} {component : List Char} {i m n : Nat}

/-! ## Numbers of a version -/

/-- The digits that a component starts with, blanks aside. -/
def leadingDigits (component : List Char) : List Char :=
  (trimChars component).takeWhile fun c => (digitValue? c).isSome

/-- The parts between the points of a version, up to its first dash or plus. -/
def components (v : String) : List (List Char) := (release v).splitOn '.'

/-- The number that the component at position `i` starts with; zero if it starts with none, or is missing. -/
def number (v : String) (i : Nat) : Nat := digitsValue (leadingDigits ((components v)[i]?.getD []))

/-- The number if 32 bits hold it, or zero. -/
def shown (n : Nat) : Nat := if n < 0x100000000 then n else 0

theorem shown_of_lt (h : n < 2 ^ 32) : shown n = n := if_pos h

theorem shown_of_le (h : 2 ^ 32 ≤ n) : shown n = 0 := if_neg (Nat.not_lt.mpr h)

theorem allDigits_leadingDigits (component : List Char) : AllDigits (leadingDigits component) :=
  fun _ hc => List.mem_takeWhile_imp (p := fun c => (digitValue? c).isSome) hc

theorem componentNumber_eq (component : List Char) :
    componentNumber component = shown (digitsValue (leadingDigits component)) := by
  have hd := allDigits_leadingDigits component
  have hdef : componentNumber component =
      (readBelow? 0x100000000 (leadingDigits component)).getD 0 := rfl
  rw [hdef]
  generalize leadingDigits component = ds at hd
  cases ds with
  | nil => rfl
  | cons d ds =>
      rw [readBelow?_of_allDigits (by decide) (List.cons_ne_nil d ds) hd, shown]
      split <;> rfl

theorem versionCode_eq (v : String) :
    versionCode v = (List.range 4).map fun i => versionChar (shown (number v i)) := by
  unfold versionCode
  refine List.map_congr_left fun i _ => congrArg versionChar ?_
  rw [splitAll_eq_splitOn, List.getElem?_map, number, components]
  cases ((release v).splitOn '.')[i]? with
  | none => rfl
  | some component => exact componentNumber_eq component

theorem getElem?_versionCode (hi : i < 4) :
    (versionCode v)[i]? = some (versionChar (shown (number v i))) := by
  rw [versionCode_eq, List.getElem?_map, List.getElem?_range hi, Option.map_some]

theorem versionCode_congr (h : ∀ i < 4, number v i = number w i) : versionCode v = versionCode w := by
  rw [versionCode_eq, versionCode_eq]
  refine List.map_congr_left fun i hi => ?_
  rw [h i (List.mem_range.mp hi)]

/-! ## Characters -/

theorem versionChar_of_le_nine (h : n ≤ 9) : versionChar n = UInt8.ofNat ('0'.toNat + n) := if_pos h

theorem versionChar_of_le_35 (h : 10 ≤ n) (h' : n ≤ 35) :
    versionChar n = UInt8.ofNat ('A'.toNat + (n - 10)) := by
  rw [versionChar, if_neg (by omega), if_pos h']
  rfl

theorem versionChar_of_gt (h : 35 < n) : versionChar n = UInt8.ofNat 'Z'.toNat := by
  rw [versionChar, if_neg (by omega), if_neg (by omega)]
  rfl

theorem toNat_versionChar (n : Nat) :
    (versionChar n).toNat = min (if n ≤ 9 then 48 + n else 55 + n) 90 := by
  unfold versionChar
  split
  · simp
    omega
  · split
    · simp
      omega
    · rw [Nat.min_eq_right (by omega)]
      rfl

theorem versionChar_mono (h : m ≤ n) : versionChar m ≤ versionChar n := by
  rw [UInt8.le_iff_toNat_le, toNat_versionChar, toNat_versionChar]
  split <;> split <;> omega

/-! ## What is left out -/

/-- What is added to a version comes to nothing behind a dash or plus, or goes to its release. -/
theorem release_append (v : String) (rest : String) :
    release (v ++ rest) = release v ∨
      release v = v.toList ∧ release (v ++ rest) = v.toList ++ release rest := by
  have hkept := List.takeWhile_prefix (l := v.toList) (fun c => decide (c ≠ '-' ∧ c ≠ '+'))
  simp only [release, String.toList_append, List.takeWhile_append]
  split
  · rename_i h
    exact .inr ⟨hkept.eq_of_length h, rfl⟩
  · exact .inl rfl

theorem release_append_sign {sign : Char} (hs : sign = '-' ∨ sign = '+') (rest : String) :
    release (v ++ (String.singleton sign ++ rest)) = release v := by
  rcases release_append v (String.singleton sign ++ rest) with h | ⟨hv, h⟩
  · exact h
  · have hrest : release (String.singleton sign ++ rest) = [] := by
      rcases hs with rfl | rfl <;> simp [release]
    rw [h, hrest, List.append_nil, hv]

theorem components_append_point (rest : String) (hi : i < (components v).length) :
    (components (v ++ ("." ++ rest)))[i]? = (components v)[i]? := by
  rcases release_append v ("." ++ rest) with h | ⟨hv, h⟩
  · rw [components, h, components]
  · have hrest : release ("." ++ rest) = '.' :: release rest := by simp [release]
    have hsplit : components (v ++ ("." ++ rest)) = components v ++ (release rest).splitOn '.' := by
      rw [components, components, h, hv, hrest]
      exact List.splitOnP_append_cons _ _ (by simp)
    rw [hsplit, List.getElem?_append_left hi]

/-! ## The whole code -/

/-- What the code of a version tells. -/
structure Encodes (v : String) : Prop where
  length : (versionCode v).length = 4
  digit : ∀ i < 4, number v i ≤ 9 →
    (versionCode v)[i]? = some (UInt8.ofNat ('0'.toNat + number v i))
  letter : ∀ i < 4, 10 ≤ number v i → number v i ≤ 35 →
    (versionCode v)[i]? = some (UInt8.ofNat ('A'.toNat + (number v i - 10)))
  last : ∀ i < 4, 35 < number v i → number v i < 2 ^ 32 →
    (versionCode v)[i]? = some (UInt8.ofNat 'Z'.toNat)
  /-- What is too great for 32 bits looks as if it were zero. -/
  overflow : ∀ i < 4, 2 ^ 32 ≤ number v i → (versionCode v)[i]? = some (UInt8.ofNat '0'.toNat)
  monotone : ∀ w, ∀ i < 4, number v i ≤ number w i → number w i < 2 ^ 32 →
    ∃ b c, (versionCode v)[i]? = some b ∧ (versionCode w)[i]? = some c ∧ b ≤ c
  /-- Nothing but the first four numbers matters. -/
  numbers : ∀ w, (∀ i < 4, number v i = number w i) → versionCode v = versionCode w
  suffix : ∀ sign rest, sign = '-' ∨ sign = '+' →
    versionCode (v ++ (String.singleton sign ++ rest)) = versionCode v
  further : ∀ rest, 4 ≤ (components v).length → versionCode (v ++ ("." ++ rest)) = versionCode v

/-- The code of a version has one character for each of its first four components, as the table of the codes
has it, except that a component that does not fit a word counts as zero. -/
theorem encodes (v : String) : Encodes v where
  length := by rw [versionCode_eq, List.length_map, List.length_range]
  digit i hi h := by
    rw [getElem?_versionCode hi, shown_of_lt (by omega), versionChar_of_le_nine h]
  letter i hi h h' := by
    rw [getElem?_versionCode hi, shown_of_lt (by omega), versionChar_of_le_35 h h']
  last i hi h h' := by
    rw [getElem?_versionCode hi, shown_of_lt h', versionChar_of_gt h]
  overflow i hi h := by
    rw [getElem?_versionCode hi, shown_of_le h]
    rfl
  monotone w i hi h h' := by
    refine ⟨_, _, getElem?_versionCode hi, getElem?_versionCode hi, ?_⟩
    rw [shown_of_lt h', shown_of_lt (Nat.lt_of_le_of_lt h h')]
    exact versionChar_mono h
  numbers w h := versionCode_congr h
  suffix sign rest hs := versionCode_congr fun i _ => by
    rw [number, components, release_append_sign hs, number, components]
  further rest hl := versionCode_congr fun i hi => by
    rw [number, components_append_point rest (Nat.lt_of_lt_of_le hi hl), number]

/-- The least number that 32 bits do not hold is told as zero, and the one before it as the last letter. -/
theorem overflow_told_as_zero : number "4294967296" 0 = 4294967296 ∧
    (versionCode "4294967296")[0]? = some (UInt8.ofNat '0'.toNat) ∧
    (versionCode "4294967295")[0]? = some (UInt8.ofNat 'Z'.toNat) := by
  decide +kernel

end Swarmkeeper.Identity
