/-!
Domain labels beyond ASCII as ASCII. The ASCII characters of a label come first; each other character
follows, in ascending order, as the distance from the one before it. A distance counts the places
passed over in all labels between and is written with digits of base 36 whose thresholds adapt to the
distances met so far.
-/

namespace Swarmkeeper.Url.Punycode

/-- The digit with a value below 36: letters, then decimal digits. -/
def digit (n : Nat) : Char := Char.ofNat (if n < 26 then 0x61 + n else 0x30 + (n - 26))

/-- The value of a digit. -/
def value? (c : Char) : Option Nat :=
  if 'a' ≤ c ∧ c ≤ 'z' then some (c.toNat - 0x61)
  else if 'A' ≤ c ∧ c ≤ 'Z' then some (c.toNat - 0x41)
  else if '0' ≤ c ∧ c ≤ '9' then some (c.toNat - 0x30 + 26)
  else none

/-- The threshold of the digit at place `k`, which steps by 36. -/
def threshold (bias k : Nat) : Nat := min 26 (max 1 (k - bias))

theorem threshold_pos (bias k : Nat) : 1 ≤ threshold bias k := by
  simp only [threshold]; omega

/-- Divides by 35 until the thresholds suit the distance. -/
def settle (delta places : Nat) : Nat :=
  if 455 < delta then settle (delta / 35) (places + 36)
  else places + 36 * delta / (delta + 38)
termination_by delta
decreasing_by omega

/-- The bias after a distance, with `points` characters placed. -/
def adapt (delta points : Nat) (first : Bool) : Nat :=
  let delta := if first then delta / 700 else delta / 2
  settle (delta + delta / points) 0

/-- A distance as digits. -/
def encodeDistance (bias k q : Nat) : List Char :=
  let t := threshold bias k
  if q < t then [digit q]
  else digit (t + (q - t) % (36 - t)) :: encodeDistance bias (k + 36) ((q - t) / (36 - t))
termination_by q
decreasing_by
  have := threshold_pos bias k
  have := Nat.div_le_self (q - threshold bias k) (36 - threshold bias k)
  omega

/-- The writer between two characters: digits so far, distance so far, bias, characters placed. -/
structure Writer where
  digits : List Char
  distance : Nat
  bias : Nat
  placed : Nat

/-- Passes over one character of the label while the characters equal to `point` are placed. -/
def Writer.pass (ascii point : Nat) (w : Writer) (c : Char) : Writer :=
  if c.toNat < point then { w with distance := w.distance + 1 }
  else if c.toNat = point then
    { digits := w.digits ++ encodeDistance w.bias 36 w.distance
      distance := 0
      bias := adapt w.distance (w.placed + 1) (w.placed = ascii)
      placed := w.placed + 1 }
  else w

/-- Places every character that equals the next of the ascending points. -/
def Writer.place (label : List Char) (ascii : Nat) : List Nat → Nat → Writer → Writer
  | [], _, w => w
  | point :: points, start, w =>
      let w := { w with distance := w.distance + (point - start) * (w.placed + 1) }
      let w := label.foldl (Writer.pass ascii point) w
      place label ascii points (point + 1) { w with distance := w.distance + 1 }

/-- The ASCII form of a label. -/
def encode (label : List Char) : List Char :=
  let ascii := label.filter fun c => c.toNat < 0x80
  let points := ((label.map Char.toNat).filter (0x80 ≤ ·)).eraseDups.mergeSort
  let w := Writer.place label ascii.length points 0x80 ⟨[], 0, 72, ascii.length⟩
  ascii ++ (if ascii = [] then [] else ['-']) ++ w.digits

/-- The distance that digits at the front write, added to `i`, and what follows. -/
def decodeDistance (bias k weight i : Nat) : List Char → Option (Nat × List Char)
  | [] => none
  | c :: cs =>
      match value? c with
      | none => none
      | some d =>
          let t := threshold bias k
          if d < t then some (i + d * weight, cs)
          else decodeDistance bias (k + 36) (weight * (36 - t)) (i + d * weight) cs

/-- Places the characters whose distances follow. The fuel is the number of digits. -/
def decodeDistances : Nat → Nat → Nat → Nat → List Char → List Char → Option (List Char)
  | _, _, _, _, label, [] => some label
  | 0, _, _, _, _, _ => none
  | fuel + 1, bias, point, i, label, cs =>
      match decodeDistance bias 36 1 i cs with
      | none => none
      | some (next, rest) =>
          let points := label.length + 1
          let point := point + next / points
          let place := next % points
          if point < 0xD800 ∨ (0xDFFF < point ∧ point < 0x110000) then
            decodeDistances fuel (adapt (next - i) points (i = 0)) point (place + 1)
              (label.insertIdx place (Char.ofNat point)) rest
          else none

/-- The label that an ASCII form writes. -/
def decode (cs : List Char) : Option (List Char) :=
  let digits := (cs.reverse.takeWhile (· ≠ '-')).reverse
  let ascii := (cs.take (cs.length - digits.length)).dropLast
  if cs.all fun c => c.toNat < 0x80 then
    decodeDistances digits.length 72 0x80 0 ascii digits
  else none

end Swarmkeeper.Url.Punycode
