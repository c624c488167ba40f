import Mathlib.Data.List.Basic
import Mathlib.Data.Nat.Digits.Defs
import Swarmkeeper.Text.Numeral

/-!
# Digits

The digits of a natural number give it back to whoever can tell the value of each digit, be it in decimal
or in hexadecimal notation.
-/

namespace Swarmkeeper.Text

theorem digitValue?_digitChar {d : Nat} (hd : d < 10) : digitValue? d.digitChar = some d := by
  have h : ∀ d : Fin 10, digitValue? d.val.digitChar = some d.val := by decide
  exact h ⟨d, hd⟩

theorem hexValue?_digitChar {d : Nat} (hd : d < 16) : hexValue? d.digitChar = some d := by
  have h : ∀ d : Fin 16, hexValue? d.val.digitChar = some d.val := by decide
  exact h ⟨d, hd⟩

/-! ## Any base -/

section

variable {b : Nat} {value? : Char → Option Nat} {n : Nat} {c : Char}

theorem isSome_of_mem_toDigits (hb : 1 < b) (hv : ∀ d, d < b → value? d.digitChar = some d)
    (hc : c ∈ Nat.toDigits b n) : (value? c).isSome = true := by
  induction n using Nat.strongRecOn with
  | ind n ih =>
      rcases Nat.lt_or_ge n b with hn | hn
      · rw [Nat.toDigits_of_lt_base hn, List.mem_singleton] at hc
        rw [hc, hv n hn]
        rfl
      · rw [Nat.toDigits_of_base_le hb hn, List.mem_append, List.mem_singleton] at hc
        rcases hc with hc | hc
        · exact ih (n / b) (Nat.div_lt_self (by omega) hb) hc
        · rw [hc, hv _ (Nat.mod_lt n (by omega))]
          rfl

theorem foldl_toDigits (hb : 1 < b) (hv : ∀ d, d < b → value? d.digitChar = some d) (n : Nat) :
    (Nat.toDigits b n).foldl (fun acc c => acc * b + (value? c).getD 0) 0 = n := by
  induction n using Nat.strongRecOn with
  | ind n ih =>
      rcases Nat.lt_or_ge n b with hn | hn
      · simp [Nat.toDigits_of_lt_base hn, hv n hn]
      · rw [Nat.toDigits_of_base_le hb hn, List.foldl_append, List.foldl_cons, List.foldl_nil,
          ih (n / b) (Nat.div_lt_self (by omega) hb), hv _ (Nat.mod_lt n (by omega)),
          Option.getD_some, Nat.mul_comm]
        exact Nat.div_add_mod n b

end

/-! ## Decimal and hexadecimal -/

theorem decimal_of_lt {n : Nat} (hn : n < 10) : decimal n = [n.digitChar] := Nat.toDigits_of_lt_base hn

theorem decimal_of_le {n : Nat} (hn : 10 ≤ n) :
    decimal n = decimal (n / 10) ++ [(n % 10).digitChar] := Nat.toDigits_of_base_le (by omega) hn

theorem digitValue?_of_mem_decimal {n : Nat} {c : Char} (hc : c ∈ decimal n) :
    (digitValue? c).isSome = true :=
  isSome_of_mem_toDigits (by decide) (fun _ => digitValue?_digitChar) hc

theorem hexValue?_of_mem_hexadecimal {n : Nat} {c : Char} (hc : c ∈ hexadecimal n) :
    (hexValue? c).isSome = true :=
  isSome_of_mem_toDigits (by decide) (fun _ => hexValue?_digitChar) hc

theorem decimal_ne_nil (n : Nat) : decimal n ≠ [] := Nat.toDigits_ne_nil

theorem hexadecimal_ne_nil (n : Nat) : hexadecimal n ≠ [] := Nat.toDigits_ne_nil

theorem digitsValue_decimal (n : Nat) : digitsValue (decimal n) = n :=
  foldl_toDigits (by decide) (fun _ => digitValue?_digitChar) n

theorem foldl_hexadecimal (n : Nat) :
    (hexadecimal n).foldl (fun acc c => acc * 16 + (hexValue? c).getD 0) 0 = n :=
  foldl_toDigits (by decide) (fun _ => hexValue?_digitChar) n

/-- Only zero is written with a zero in front. -/
theorem eq_zero_of_head?_decimal {n : Nat} (h : (decimal n).head? = some '0') : n = 0 := by
  induction n using Nat.strongRecOn with
  | ind n ih =>
      rcases Nat.lt_or_ge n 10 with hn | hn
      · rw [decimal_of_lt hn, List.head?_cons, Option.some.injEq] at h
        exact Nat.digitChar_eq_zero.mp h
      · rw [decimal_of_le hn, List.head?_append_of_ne_nil _ (decimal_ne_nil _)] at h
        have := ih (n / 10) (by omega) h
        omega

end Swarmkeeper.Text
