import Mathlib.Data.List.TakeDrop
import Swarmkeeper.Json.Printer
import Swarmkeeper.Proofs.Text.Digits

/-!
# Literals are read as they are written

A natural number and a text are written in a way of their own each, which a reader takes back whatever
follows, unless what follows could go on with the number.
-/

namespace Swarmkeeper.Json

open Swarmkeeper.Text

namespace Reader

/-! ## Numbers -/

/-- What follows cannot go on with a number: it is the end, or the next sign of a list or an object. -/
def Ends (rest : List Char) : Prop := ∀ c ∈ rest.head?, c = ',' ∨ c = ']' ∨ c = '}'

variable {rest : List Char}

theorem spanDigits_append {ds : List Char} (hds : ∀ c ∈ ds, (digitValue? c).isSome = true)
    (hr : Ends rest) : spanDigits (ds ++ rest) = (ds, rest) := by
  rw [spanDigits, List.span_eq_takeWhile_dropWhile, List.takeWhile_append_of_pos hds,
    List.dropWhile_append_of_pos hds]
  cases rest with
  | nil => simp
  | cons c rest =>
      rcases hr c rfl with rfl | rfl | rfl <;> simp [digitValue?]

theorem readWhole_decimal (n : Nat) (hr : Ends rest) : readWhole (decimal n ++ rest) = .ok (decimal n, rest) := by
  rw [readWhole, spanDigits_append (fun _ => digitValue?_of_mem_decimal) hr]
  split
  · rename_i h
    exact absurd (Prod.mk.inj h).1 (decimal_ne_nil n)
  · rename_i c cs _ h
    -- a zero in front of other digits is never written
    have hz : n = 0 := eq_zero_of_head?_decimal (by rw [(Prod.mk.inj h).1]; rfl)
    rw [hz, decimal_of_lt (by omega)] at h
    simp at h
  · rename_i h
    obtain ⟨rfl, rfl⟩ := Prod.mk.inj h
    rfl

theorem readFraction_of_ends (hr : Ends rest) : readFraction rest = .ok ([], rest) := by
  cases rest with
  | nil => rfl
  | cons c rest => rcases hr c rfl with rfl | rfl | rfl <;> rfl

theorem readExponent_of_ends (hr : Ends rest) : readExponent rest = .ok (none, rest) := by
  cases rest with
  | nil => rfl
  | cons c rest => rcases hr c rfl with rfl | rfl | rfl <;> rfl

theorem toChars_ofNat (n : Nat) : (Number.ofNat n).toChars = decimal n := by
  simp [Number.ofNat, Number.toChars]

/-- A natural number is read as it is written. -/
theorem readNumberTree_decimal (n : Nat) (hr : Ends rest) :
    readNumberTree false (decimal n ++ rest) = (.natural n, rest) := by
  rw [readNumberTree, readNumber, readWhole_decimal n hr]
  simp only [bind, Except.bind, readFraction_of_ends hr, readExponent_of_ends hr]
  rfl

/-! ## Texts -/

theorem padZeros_hexadecimal {n : Nat} (hn : n < 0x20) :
    padZeros 4 (hexadecimal n) = ['0', '0', (n / 16).digitChar, (n % 16).digitChar] := by
  have h : ∀ n : Fin 0x20,
      padZeros 4 (hexadecimal n) = ['0', '0', (n.val / 16).digitChar, (n.val % 16).digitChar] := by
    decide
  exact h ⟨n, hn⟩

theorem readUnicode_padZeros {n : Nat} (hn : n < 0x20) (rest : List Char) :
    readUnicode (padZeros 4 (hexadecimal n) ++ rest) = .ok (Char.ofNat n, rest) := by
  have hhex : readHex (padZeros 4 (hexadecimal n) ++ rest) = .ok (n, rest) := by
    have hzero : hexValue? '0' = some 0 := by decide
    rw [padZeros_hexadecimal hn]
    simp only [List.cons_append, List.nil_append, readHex, hzero,
      hexValue?_digitChar (show n / 16 < 16 by omega), hexValue?_digitChar (show n % 16 < 16 by omega)]
    congr 2
    omega
  rw [readUnicode, hhex]
  simp only [bind, Except.bind]
  rw [if_neg (by omega), if_pos (by omega)]

/-- A character is written with a letter that stands for it, with its number, or as it is. -/
theorem escapeChar_cases (c : Char) :
    (∃ e, e ≠ 'u' ∧ escapeChar? e = some c ∧ Json.escapeChar c = ['\\', e]) ∨
      (c.toNat < 0x20 ∧ Json.escapeChar c = '\\' :: 'u' :: padZeros 4 (hexadecimal c.toNat)) ∨
      (c ≠ '"' ∧ c ≠ '\\' ∧ ¬ c.toNat < 0x20 ∧ Json.escapeChar c = [c]) := by
  unfold Json.escapeChar
  split
  · exact .inl ⟨'"', by subst c; decide⟩
  split
  · exact .inl ⟨'\\', by subst c; decide⟩
  split
  · exact .inl ⟨'b', by subst c; decide⟩
  split
  · exact .inl ⟨'f', by subst c; decide⟩
  split
  · exact .inl ⟨'n', by subst c; decide⟩
  split
  · exact .inl ⟨'r', by subst c; decide⟩
  split
  · exact .inl ⟨'t', by subst c; decide⟩
  split
  · exact .inr (.inl ⟨‹_›, rfl⟩)
  · exact .inr (.inr ⟨‹_›, ‹_›, ‹_›, rfl⟩)

theorem readContent_letter {e x : Char} (he : e ≠ 'u') (hx : escapeChar? e = some x) (fuel : Nat)
    (rest : List Char) : readContent (fuel + 1) ('\\' :: e :: rest) =
      (readContent fuel rest).map fun (xs, rest) => (x :: xs, rest) := by
  rw [readContent, if_neg (by decide), if_pos rfl]
  · simp only [hx, bind, Except.bind]
    cases readContent fuel rest <;> rfl
  · exact he

theorem readContent_number {c : Char} (hc : c.toNat < 0x20) (fuel : Nat) (rest : List Char) :
    readContent (fuel + 1) ('\\' :: 'u' :: (padZeros 4 (hexadecimal c.toNat) ++ rest)) =
      (readContent fuel rest).map fun (xs, rest) => (c :: xs, rest) := by
  rw [readContent, if_neg (by decide), if_pos rfl]
  simp only [readUnicode_padZeros hc, Char.ofNat_toNat, bind, Except.bind]
  cases readContent fuel rest <;> rfl

theorem readContent_plain {c : Char} (hq : c ≠ '"') (hb : c ≠ '\\') (hc : ¬ c.toNat < 0x20) (fuel : Nat)
    (rest : List Char) : readContent (fuel + 1) (c :: rest) =
      (readContent fuel rest).map fun (xs, rest) => (c :: xs, rest) := by
  rw [readContent.eq_def]
  simp only [if_neg hq, if_neg hb, if_neg hc, bind, Except.bind]
  cases readContent fuel rest <;> rfl

theorem readContent_escapeChar (c : Char) (fuel : Nat) (rest : List Char) :
    readContent (fuel + 1) (Json.escapeChar c ++ rest) =
      (readContent fuel rest).map fun (xs, rest) => (c :: xs, rest) := by
  rcases escapeChar_cases c with ⟨e, he, hx, hw⟩ | ⟨hc, hw⟩ | ⟨hq, hb, hc, hw⟩ <;> rw [hw]
  · exact readContent_letter he hx fuel rest
  · exact readContent_number hc fuel rest
  · exact readContent_plain hq hb hc fuel rest

theorem readContent_flatMap (s : List Char) (rest : List Char) {fuel : Nat} (hf : s.length < fuel) :
    readContent fuel (s.flatMap Json.escapeChar ++ '"' :: rest) = .ok (s, rest) := by
  -- a step for each character, and one for the quotation mark at the end
  obtain ⟨fuel, rfl⟩ : ∃ n, fuel = n + 1 := ⟨fuel - 1, by omega⟩
  induction s generalizing fuel with
  | nil => rfl
  | cons c s ih =>
      rw [List.length_cons] at hf
      obtain ⟨fuel, rfl⟩ : ∃ n, fuel = n + 1 := ⟨fuel - 1, by omega⟩
      rw [List.flatMap_cons, List.append_assoc, readContent_escapeChar, ih fuel (by omega)]
      rfl

theorem length_le_flatMap_escapeChar (s : List Char) : s.length ≤ (s.flatMap Json.escapeChar).length := by
  induction s with
  | nil => exact Nat.le_refl 0
  | cons c s ih =>
      have hc : 0 < (Json.escapeChar c).length := by
        rcases escapeChar_cases c with ⟨e, _, _, hw⟩ | ⟨_, hw⟩ | ⟨_, _, _, hw⟩ <;> simp [hw]
      rw [List.flatMap_cons, List.length_append, List.length_cons]
      omega

/-- A text is read as it is written. -/
theorem readLiteral_flatMap (s : String) (rest : List Char) :
    readLiteral (s.toList.flatMap Json.escapeChar ++ '"' :: rest) = .ok (.ok s, rest) := by
  have hlen := length_le_flatMap_escapeChar s.toList
  rw [readLiteral, readContent_flatMap s.toList rest (by simp only [List.length_append]; omega)]
  simp

end Reader

end Swarmkeeper.Json
