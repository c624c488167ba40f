import Swarmkeeper.Pattern.Node

/-!
How large the automaton of a pattern would be. A pattern is refused when its automaton, with every
counted repetition written out, needs more than ten mebibytes. A state takes 32 bytes; a state with
several successors takes eight bytes more for each byte range and four for each alternative.
-/

namespace Swarmkeeper.Pattern

open Swarmkeeper.Unicode

/-- The bytes of the UTF-8 form of a code point. -/
def utf8Bytes (c : Nat) : List Nat :=
  if c < 0x80 then [c]
  else if c < 0x800 then [0xC0 + c / 64, 0x80 + c % 64]
  else if c < 0x10000 then [0xE0 + c / 4096, 0x80 + c / 64 % 64, 0x80 + c % 64]
  else [0xF0 + c / 262144, 0x80 + c / 4096 % 64, 0x80 + c / 64 % 64, 0x80 + c % 64]

/-- Where a range of code points has to be cut so that its two parts are closer to ranges of bytes: the
first number of the upper part. -/
def cutPoint? (a b : Nat) : Option Nat :=
  let lengths := [0x7F, 0x7FF, 0xFFFF].findSome? fun m => if a ≤ m ∧ m < b then some (m + 1) else none
  lengths <|>
    if b < 0x80 then none
    else [64, 4096, 262144].findSome? fun m =>
      if a / m = b / m then none
      else if a % m ≠ 0 then some ((a / m + 1) * m)
      else if b % m ≠ m - 1 then some (b / m * m)
      else none

/-- The sequences of byte ranges that write a range of code points. -/
def byteSequences : Nat → Nat → Nat → List (List (Nat × Nat))
  | 0, _, _ => []
  | fuel + 1, a, b =>
      if b < a then []
      else if a < 0xE000 ∧ 0xD7FF < b then
        byteSequences fuel a 0xD7FF ++ byteSequences fuel 0xE000 b
      else match cutPoint? a b with
        | some m => byteSequences fuel a (m - 1) ++ byteSequences fuel m b
        | none => [(utf8Bytes a).zip (utf8Bytes b)]

/-- The number of different non-empty starts of sequences in lexical order: those that a sequence
does not share with the one before it. -/
def distinctStarts : List (Nat × Nat) → List (List (Nat × Nat)) → Nat
  | _, [] => 0
  | previous, s :: rest =>
      let shared := (s.zip previous).takeWhile fun (x, y) => x == y
      s.length - shared.length + distinctStarts s rest

namespace Node

/-- The size of the state itself. -/
def stateSize : Nat := 32

/-- The node never matches more than nothing. -/
def isEmptyWidth : Node → Bool
  | .empty | .condition _ => true
  | .byte _ | .char _ => false
  | .concat a b | .alternation a b => a.isEmptyWidth && b.isEmptyWidth
  | .repetition inner _ most => most == some 0 || inner.isEmptyWidth
  | .capture inner => inner.isEmptyWidth

/-- The node may match nothing. -/
def mayBeEmpty : Node → Bool
  | .empty | .condition _ => true
  | .byte _ | .char _ => false
  | .concat a b => a.mayBeEmpty && b.mayBeEmpty
  | .alternation a b => a.mayBeEmpty || b.mayBeEmpty
  | .repetition inner least _ => least = 0 || inner.mayBeEmpty
  | .capture inner => inner.mayBeEmpty

/-- The size of the automaton of a set of characters. -/
def charSize (s : RangeSet) : Nat :=
  match s.ranges with
  | [(a, b)] => if a = b then stateSize * (utf8Bytes a).length else sets
  | _ => sets
where
  sets : Nat :=
    if s.ranges.all fun r => r.2 < 128 then 2 * stateSize + 8 * s.ranges.length
    else
      let sequences := s.ranges.flatMap fun (a, b) => byteSequences 64 a b
      2 * stateSize + 4 * sequences.length + stateSize * distinctStarts [] sequences

/-- The size of the automaton of a node. -/
def size : Node → Nat
  | .empty | .condition _ => stateSize
  | .byte s => 2 * stateSize + 8 * s.ranges.length
  | .char s => charSize s
  | .concat a b => a.size + b.size
  | .alternation a b => a.size + b.size + 2 * stateSize + 8
  | .capture inner => inner.size + 2 * stateSize
  | .repetition inner least most =>
      let once := inner.isEmptyWidth
      let least := if once then min least 1 else least
      let most := if once then some (min (most.getD 1) 1) else most
      match most with
      | none => max least 1 * inner.size + (if least = 0 ∧ inner.mayBeEmpty then 3 else 1) * stateSize
      | some most =>
          least * inner.size +
            (if least = most then 0 else stateSize + (most - least) * (inner.size + stateSize + 8))

/-- The size that an automaton may have. -/
def maxSize : Nat := 10 * 0x100000

end Node

end Swarmkeeper.Pattern
