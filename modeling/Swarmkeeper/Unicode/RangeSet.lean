import Swarmkeeper.Text.Numeral
import Swarmkeeper.Text.Split

/-!
Finite sets of numbers as ascending closed ranges that do not touch. They hold code points, or bytes.
-/

namespace Swarmkeeper.Unicode

open Swarmkeeper.Text

/-- A set of numbers, given by closed ranges. -/
structure RangeSet where
  ranges : List (Nat × Nat)
deriving DecidableEq

namespace RangeSet

/-- The set without members. -/
def empty : RangeSet := ⟨[]⟩

/-- The numbers from `a` to `b`; none if `b` is below `a`. -/
def interval (a b : Nat) : RangeSet := if a ≤ b then ⟨[(a, b)]⟩ else empty

/-- The set with one member. -/
def singleton (n : Nat) : RangeSet := ⟨[(n, n)]⟩

/-- The number lies in one of the ranges. -/
def contains (s : RangeSet) (n : Nat) : Bool := s.ranges.any fun (a, b) => a ≤ n && n ≤ b

/-- The set has no members. -/
def isEmpty (s : RangeSet) : Bool := s.ranges.isEmpty

/-- Joins ranges that overlap or touch; the list is ascending in its first numbers. -/
def joinRanges : List (Nat × Nat) → List (Nat × Nat)
  | [] => []
  | r :: rs => go r rs
where
  go (r : Nat × Nat) : List (Nat × Nat) → List (Nat × Nat)
    | [] => [r]
    | s :: rs => if s.1 ≤ r.2 + 1 then go (r.1, max r.2 s.2) rs else r :: go s rs

/-- The set of the numbers in these ranges, given in any order. -/
def ofRanges (rs : List (Nat × Nat)) : RangeSet :=
  ⟨joinRanges (rs.mergeSort fun a b => a.1 ≤ b.1)⟩

/-- The numbers in at least one of two sets. -/
def union (s t : RangeSet) : RangeSet := ofRanges (s.ranges ++ t.ranges)

/-- The numbers in at least one of the sets. -/
def unions (sets : List RangeSet) : RangeSet := ofRanges (sets.flatMap ranges)

/-- The gaps between ascending ranges, from `start` to `limit`. -/
def gaps (limit : Nat) : Nat → List (Nat × Nat) → List (Nat × Nat)
  | start, [] => if start ≤ limit then [(start, limit)] else []
  | start, (a, b) :: rs =>
      (if start < a then [(start, min limit (a - 1))] else []) ++ gaps limit (b + 1) rs

/-- The numbers up to `limit` that are not in the set. -/
def complement (limit : Nat) (s : RangeSet) : RangeSet := ⟨gaps limit 0 s.ranges⟩

/-- The numbers in both sets. -/
def inter (s t : RangeSet) : RangeSet :=
  ofRanges (s.ranges.flatMap fun (a, b) =>
    t.ranges.filterMap fun (c, d) => if max a c ≤ min b d then some (max a c, min b d) else none)

/-- The greatest code point. -/
def lastCodePoint : Nat := 0x10FFFF

/-- The numbers in the first set and not in the second. -/
def difference (s t : RangeSet) : RangeSet := s.inter (t.complement lastCodePoint)

/-- The numbers in exactly one of the sets. -/
def symmetricDifference (s t : RangeSet) : RangeSet := (s.union t).difference (s.inter t)

/-- The number that hexadecimal digits write. -/
def hexNumber (cs : List Char) : Nat := cs.foldl (fun acc c => acc * 16 + (hexValue? c).getD 0) 0

/-- A set written as ascending hexadecimal numbers and pairs with a dash, with spaces or line ends
between. -/
def decode (lines : List String) : RangeSet :=
  ⟨(lines.flatMap fun line => splitAll ' ' line.toList).map fun piece =>
    match splitOnce '-' piece with
    | some (a, b) => (hexNumber a, hexNumber b)
    | none => (hexNumber piece, hexNumber piece)⟩

end RangeSet

end Swarmkeeper.Unicode
