/-!
Natural numbers in decimal and hexadecimal notation. Reading a bounded numeral tells an empty text,
a foreign character and an overflow apart; what comes first from the left decides.
-/

namespace Swarmkeeper.Text

/-- Why a text is no numeral of a bounded type. -/
inductive NumeralFault where
  | empty
  | invalidDigit
  | tooLarge
deriving DecidableEq, Repr

namespace NumeralFault

/-- The wording of a numeral fault. -/
def message : NumeralFault → String
  | empty => "cannot parse integer from empty string"
  | invalidDigit => "invalid digit found in string"
  | tooLarge => "number too large to fit in target type"

end NumeralFault

/-- The value of an ASCII decimal digit. -/
def digitValue? (c : Char) : Option Nat :=
  if '0' ≤ c ∧ c ≤ '9' then some (c.toNat - '0'.toNat) else none

/-- The value of an ASCII hexadecimal digit of either case. -/
def hexValue? (c : Char) : Option Nat :=
  if '0' ≤ c ∧ c ≤ '9' then some (c.toNat - '0'.toNat)
  else if 'a' ≤ c ∧ c ≤ 'f' then some (c.toNat - 'a'.toNat + 10)
  else if 'A' ≤ c ∧ c ≤ 'F' then some (c.toNat - 'A'.toNat + 10)
  else none

/-- Reads on after the digits that make up `acc`; the result is below `limit`. -/
def readDigits (limit acc : Nat) : List Char → Except NumeralFault Nat
  | [] => .ok acc
  | c :: cs =>
      match digitValue? c with
      | none => .error .invalidDigit
      | some d => if acc * 10 + d < limit then readDigits limit (acc * 10 + d) cs else .error .tooLarge

/-- A decimal numeral below `limit`, with any leading zeros and at most one plus sign in front. -/
def readBelow (limit : Nat) : List Char → Except NumeralFault Nat
  | [] => .error .empty
  | ['+'] => .error .invalidDigit
  | '+' :: cs => readDigits limit 0 cs
  | cs => readDigits limit 0 cs

/-- The numeral, if it is one; the reason is dropped. -/
def readBelow? (limit : Nat) (cs : List Char) : Option Nat :=
  (readBelow limit cs).toOption

/-- The natural number that a run of decimal digits writes. -/
def digitsValue (ds : List Char) : Nat :=
  ds.foldl (fun acc c => acc * 10 + (digitValue? c).getD 0) 0

/-- The decimal digits of a natural number, without leading zeros. -/
def decimal (n : Nat) : List Char := Nat.toDigits 10 n

/-- The lower-case hexadecimal digits of a natural number, without leading zeros. -/
def hexadecimal (n : Nat) : List Char := Nat.toDigits 16 n

/-- Pads with zeros on the left to at least `width` digits. -/
def padZeros (width : Nat) (digits : List Char) : List Char :=
  List.replicate (width - digits.length) '0' ++ digits

end Swarmkeeper.Text
