import Swarmkeeper.Json.Fault
import Swarmkeeper.Text.Numeral

/-!
Numbers as they are written, and the values they stand for: a natural number below two to the 64, a
negative whole number of 64 bits, or else a floating-point value. A fraction, an exponent, a sign
before zero and a whole number that does not fit all make a number floating-point.
-/

namespace Swarmkeeper.Json

open Swarmkeeper.Text

/-- A written number: sign, whole digits, fraction digits and exponent. -/
structure Number where
  negative : Bool
  whole : List Char
  /-- Digits after the point; empty if there is no point. -/
  fraction : List Char
  /-- Sign, if written, and digits of the exponent. -/
  exponent : Option (List Char × List Char)
deriving DecidableEq

/-- The value of a number. -/
inductive Numeric where
  | natural (n : Nat)
  | negative (n : Int)
  | floating (x : Float)

namespace Number

/-- The written form of a natural number. -/
def ofNat (n : Nat) : Number := ⟨false, decimal n, [], none⟩

/-- The number as text. -/
def toChars (n : Number) : List Char :=
  (if n.negative then ['-'] else []) ++ n.whole ++
    (if n.fraction = [] then [] else '.' :: n.fraction) ++
    match n.exponent with
    | none => []
    | some (sign, digits) => 'e' :: sign ++ digits

/-- The digits taken into a 64-bit significand, and how many were left over because they did not
fit. Once a digit does not fit, all later ones are left over. -/
def significand (acc : Nat) : List Char → Nat × Nat
  | [] => (acc, 0)
  | c :: cs =>
      let next := acc * 10 + (digitValue? c).getD 0
      if next < 0x10000000000000000 then significand next cs else (acc, cs.length + 1)

/-- Fraction digits taken into a 64-bit significand until one does not fit, and how many fitted. -/
def fractionDigits (acc : Nat) (taken : Nat) : List Char → Nat × Nat
  | [] => (acc, taken)
  | c :: cs =>
      let next := acc * 10 + (digitValue? c).getD 0
      if next < 0x10000000000000000 then fractionDigits next (taken + 1) cs else (acc, taken)

/-- Ten to the power, correctly rounded. -/
def powerOfTen (n : Nat) : Float := Float.ofScientific 1 false n

/-- Scales by powers of ten in steps of at most 308, each rounded. Overflow is out of range. -/
def scaled : Nat → Float → Int → Except SyntaxFault Float
  | 0, x, _ => .ok x
  | steps + 1, x, e =>
      if e.natAbs ≤ 308 then
        if 0 ≤ e then
          let y := x * powerOfTen e.toNat
          if y.isInf then .error .numberOutOfRange else .ok y
        else .ok (x / powerOfTen e.natAbs)
      else if x == 0 then .ok x
      else if 0 ≤ e then .error .numberOutOfRange
      else scaled steps (x / powerOfTen 308) (e + 308)

/-- The exponent that is written, or that it does not fit 31 bits. -/
def exponentValue (digits : List Char) : Option Nat :=
  let n := digitsValue digits
  if n < 0x80000000 then some n else none

/-- The floating-point value. -/
def toFloat (n : Number) : Except SyntaxFault Float := do
  let (whole, dropped) := significand 0 n.whole
  let (digits, taken) := fractionDigits whole 0 n.fraction
  let start : Int := dropped - taken
  let signed (x : Float) : Float := if n.negative then -x else x
  match n.exponent with
  | none => signed <$> scaled 16 digits.toUInt64.toFloat start
  | some (sign, ds) =>
      match exponentValue ds with
      | some e =>
          let total :=
            if sign = ['-'] then max (start - e) (-0x80000000) else min (start + e) 0x7FFFFFFF
          signed <$> scaled 16 digits.toUInt64.toFloat total
      | none =>
          if digits ≠ 0 ∧ sign ≠ ['-'] then .error .numberOutOfRange else .ok (signed 0)

/-- The value of the number. -/
def value (n : Number) : Except SyntaxFault Numeric :=
  let whole := digitsValue n.whole
  if n.fraction = [] ∧ n.exponent = none then
    if n.negative = false ∧ whole < 0x10000000000000000 then .ok (.natural whole)
    else if n.negative = true ∧ 0 < whole ∧ whole ≤ 0x8000000000000000 then .ok (.negative (-whole))
    else .floating <$> n.toFloat
  else .floating <$> n.toFloat

end Number

end Swarmkeeper.Json
