/-!
The shortest decimal that identifies a binary floating-point value. A value is `mantissa * 2 ^ power`
in exact arithmetic; the decimals that read back to it form an interval around it, whose ends belong
to it when the mantissa is even. The selection takes the coarsest decimal grid that has a point in
that interval and, of two such points, the nearer.
-/

namespace Swarmkeeper.Decimal

/-- A finite value without its sign. -/
structure Binary where
  mantissa : Nat
  power : Int
  /-- The gap to the next value below is half the gap to the next value above. -/
  narrowBelow : Bool

namespace Binary

/-- Decodes the bits of a finite value of 64 bits. -/
def ofBits64 (bits : UInt64) : Binary :=
  let exponent : Nat := bits.toNat / 0x10000000000000 % 0x800
  let fraction := bits.toNat % 0x10000000000000
  if exponent = 0 then ⟨fraction, -1074, false⟩
  else ⟨0x10000000000000 + fraction, exponent - 1075, fraction = 0 && 1 < exponent⟩

/-- Decodes the bits of a finite value of 32 bits. -/
def ofBits32 (bits : UInt32) : Binary :=
  let exponent : Nat := bits.toNat / 0x800000 % 0x100
  let fraction := bits.toNat % 0x800000
  if exponent = 0 then ⟨fraction, -149, false⟩
  else ⟨0x800000 + fraction, exponent - 150, fraction = 0 && 1 < exponent⟩

/-- The order of `a * 10 ^ i` and `n * 2 ^ j`. -/
def compareScaled (a : Nat) (i : Int) (n : Nat) (j : Int) : Ordering :=
  compare (a * Nat.pow 10 i.toNat * Nat.pow 2 (-j).toNat)
    (n * Nat.pow 2 j.toNat * Nat.pow 10 (-i).toNat)

/-- The decimal `digits * 10 ^ exp` lies among the reals that round to the value. -/
def readsBack (x : Binary) (digits : Nat) (exp : Int) : Bool :=
  let low := if x.narrowBelow then 4 * x.mantissa - 1 else 4 * x.mantissa - 2
  let high := 4 * x.mantissa + 2
  let closed := x.mantissa % 2 == 0
  let below := compareScaled digits exp low (x.power - 2)
  let above := compareScaled digits exp high (x.power - 2)
  (below == .gt || (closed && below == .eq)) && (above == .lt || (closed && above == .eq))

/-- The point at or below the value on the grid of multiples of `10 ^ exp`. -/
def gridFloor (x : Binary) (exp : Int) : Nat :=
  x.mantissa * Nat.pow 2 x.power.toNat * Nat.pow 10 (-exp).toNat /
    (Nat.pow 2 (-x.power).toNat * Nat.pow 10 exp.toNat)

/-- The nearer of two neighbouring grid points; an exact tie goes to the even one. -/
def nearer (x : Binary) (low : Nat) (exp : Int) : Nat :=
  match compareScaled (2 * low + 1) exp (2 * x.mantissa) x.power with
  | .lt => low + 1
  | .gt => low
  | .eq => if low % 2 = 0 then low else low + 1

/-- The point of the grid that reads back, if the grid has one next to the value. -/
def onGrid? (x : Binary) (exp : Int) : Option Nat :=
  let low := x.gridFloor exp
  match x.readsBack low exp, x.readsBack (low + 1) exp with
  | true, true => some (x.nearer low exp)
  | true, false => some low
  | false, true => some (low + 1)
  | false, false => none

/-- The least `k` from `start` on, within `steps`, with the value below `10 ^ k`. -/
def scaleFrom (x : Binary) : Nat → Int → Int
  | 0, k => k
  | steps + 1, k =>
      if compareScaled 1 k x.mantissa x.power == .gt then k else scaleFrom x steps (k + 1)

/-- The number of digits before the point, negative for a value far below one. -/
def scale (x : Binary) : Int :=
  let bits : Int := x.mantissa.log2 + x.power
  x.scaleFrom 4 (bits * 30103 / 100000 - 1)

/-- Moves trailing zeros of the digits into the exponent. -/
def dropZeros : Nat → Nat → Int → Nat × Int
  | 0, digits, exp => (digits, exp)
  | steps + 1, digits, exp =>
      if digits % 10 = 0 ∧ digits ≠ 0 then dropZeros steps (digits / 10) (exp + 1) else (digits, exp)

/-- Digits and exponent of the shortest decimal that reads back. Zero is `0 * 10 ^ 0`. A value for
which seventeen digits do not suffice is written exactly. -/
def shortest (x : Binary) : Nat × Int :=
  if x.mantissa = 0 then (0, 0)
  else
    let k := x.scale
    let found := (List.range 17).findSome? fun (n : Nat) =>
      let exp : Int := k - (Int.ofNat n + 1)
      (x.onGrid? exp).map fun digits => (digits, exp)
    match found with
    | some (digits, exp) => dropZeros 20 digits exp
    | none => (x.gridFloor (min x.power 0), min x.power 0)

end Binary

/-- Where the written form of a decimal changes from positional to scientific. -/
structure Thresholds where
  /-- The least exponent of the leading digit that is written positionally. -/
  plainFrom : Int
  /-- The greatest exponent of the leading digit that is written positionally. -/
  plainTo : Int

/-- Digits and exponent as text: positional with a point and at least one digit on both sides, or
one digit before the point and a signed exponent. -/
def layout (n : Thresholds) (digits : Nat) (exp : Int) : List Char :=
  if digits = 0 then ['0', '.', '0']
  else
    let ds := Nat.toDigits 10 digits
    let lead : Int := exp + ds.length - 1
    if n.plainFrom ≤ lead ∧ lead ≤ n.plainTo then
      if 0 ≤ exp then ds ++ List.replicate exp.toNat '0' ++ ['.', '0']
      else if 0 ≤ lead then ds.take (lead.toNat + 1) ++ '.' :: ds.drop (lead.toNat + 1)
      else '0' :: '.' :: List.replicate ((-lead).toNat - 1) '0' ++ ds
    else
      let mark := 'e' :: (if lead < 0 then '-' else '+') :: Nat.toDigits 10 lead.natAbs
      match ds with
      | [d] => d :: mark
      | d :: rest => d :: '.' :: rest ++ mark
      | [] => mark

/-- Values of 64 bits are positional from `0.00001` to below `1e16`. -/
def thresholds64 : Thresholds := ⟨-5, 15⟩

/-- Values of 32 bits are positional from `0.000001` to below `1e13`. -/
def thresholds32 : Thresholds := ⟨-6, 12⟩

/-- A finite value of 64 bits as text. -/
def text64 (x : Float) : List Char :=
  let bits := x.toBits
  let (digits, exp) := (Binary.ofBits64 bits).shortest
  (if bits.toNat / 0x8000000000000000 = 1 then ['-'] else []) ++ layout thresholds64 digits exp

/-- A finite value of 32 bits as text. -/
def text32 (x : Float32) : List Char :=
  let bits := x.toBits
  let (digits, exp) := (Binary.ofBits32 bits).shortest
  (if bits.toNat / 0x80000000 = 1 then ['-'] else []) ++ layout thresholds32 digits exp

end Swarmkeeper.Decimal
