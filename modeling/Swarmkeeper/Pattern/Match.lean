import Swarmkeeper.Pattern.Node
import Swarmkeeper.Text.Utf8

/-!
Whether a pattern occurs in a text. A node takes a set of places in the text to the set of places where
it can end when it starts at one of them; places are byte positions.
-/

namespace Swarmkeeper.Pattern

open Swarmkeeper.Unicode Swarmkeeper.Text

/-- The bytes that are searched, and at each place the character that starts there, if one does, with
its length. -/
structure Haystack where
  bytes : Array UInt8
  chars : Array (Option (Char × Nat))

namespace Haystack

/-- The character at the front of the bytes, and its length. -/
def charAt? : List UInt8 → Option (Char × Nat)
  | [] => none
  | b :: rest =>
      match Utf8.step b rest with
      | .char c n => some (c, n)
      | .broken _ => none

/-- The characters at every place of the bytes. -/
def charsOf : List UInt8 → List (Option (Char × Nat))
  | [] => []
  | b :: rest => charAt? (b :: rest) :: charsOf rest

/-- The bytes as a haystack. -/
def ofBytes (bs : List UInt8) : Haystack := ⟨bs.toArray, (charsOf bs).toArray⟩

/-- The number of bytes. -/
def size (h : Haystack) : Nat := h.bytes.size

/-- The byte at a place. -/
def byte? (h : Haystack) (i : Nat) : Option UInt8 := h.bytes[i]?

/-- The character that starts at a place. -/
def char? (h : Haystack) (i : Nat) : Option (Char × Nat) := (h.chars[i]?).join

/-- The character that ends at a place. -/
def charBefore? (h : Haystack) (i : Nat) : Option Char :=
  [1, 2, 3, 4].findSome? fun n =>
    if n ≤ i then
      match h.char? (i - n) with
      | some (c, k) => if k = n then some c else none
      | none => none
    else none

end Haystack

/-- A word character next to a place: known, absent at the end of the text, or unreadable. -/
inductive Side where
  | word
  | notWord
  | unreadable
deriving DecidableEq

namespace Side

/-- The side is a word character. -/
def isWord (s : Side) : Bool := s = .word

/-- The side of this character. -/
def ofChar (c : Char) : Side := if wordSet.contains c.toNat then .word else .notWord

/-- The side of this byte, as an ASCII character. -/
def ofByte (b : UInt8) : Side :=
  if (asciiSet "word".toList).contains b.toNat then .word else .notWord

end Side

/-- What lies before a place. -/
def sideBefore (h : Haystack) (unicode : Bool) (i : Nat) : Side :=
  if i = 0 then .notWord
  else if unicode then
    match h.charBefore? i with
    | some c => .ofChar c
    | none => .unreadable
  else match h.byte? (i - 1) with
    | some b => .ofByte b
    | none => .notWord

/-- What lies after a place. -/
def sideAfter (h : Haystack) (unicode : Bool) (i : Nat) : Side :=
  if h.size ≤ i then .notWord
  else if unicode then
    match h.char? i with
    | some (c, _) => .ofChar c
    | none => .unreadable
  else match h.byte? i with
    | some b => .ofByte b
    | none => .notWord

/-- A condition on words between what lies before and after a place. That there is no boundary is
never said next to bytes that are no character. -/
def wordCondition (a : Assertion) (before after : Side) : Bool :=
  match a with
  | .wordBoundary => before.isWord != after.isWord
  | .noWordBoundary =>
      before ≠ .unreadable && after ≠ .unreadable && before.isWord == after.isWord
  | .wordStart => !before.isWord && after.isWord
  | .wordEnd => before.isWord && !after.isWord
  | .wordStartHalf => before ≠ .unreadable && !before.isWord
  | .wordEndHalf => after ≠ .unreadable && !after.isWord
  | _ => false

/-- The condition holds at a place. -/
def Condition.holds (h : Haystack) (i : Nat) : Condition → Bool
  | .textStart => i = 0
  | .textEnd => i = h.size
  | .lineStart false => i = 0 || h.byte? (i - 1) = some 10
  | .lineEnd false => i = h.size || h.byte? i = some 10
  | .lineStart true =>
      i = 0 || h.byte? (i - 1) = some 10 || (h.byte? (i - 1) = some 13 && h.byte? i ≠ some 10)
  | .lineEnd true =>
      i = h.size || h.byte? i = some 13 ||
        (h.byte? i = some 10 && (i = 0 || h.byte? (i - 1) ≠ some 13))
  | .word a unicode => wordCondition a (sideBefore h unicode i) (sideAfter h unicode i)

/-- A set of places: bit `i` of the number stands for place `i`. -/
abbrev Places := Nat

namespace Places

/-- The place is in the set. -/
def has (s : Places) (i : Nat) : Bool := Nat.testBit s i

/-- The set with one place. -/
def single (i : Nat) : Places := Nat.pow 2 i

/-- The places in the set, the last one first and at most `count` of them, each moved by `f` or dropped. -/
def moveLast (f : Nat → Option Nat) : Nat → Places → Places → Places
  | 0, _, acc => acc
  | count + 1, s, acc =>
      if s = 0 then acc
      else
        let i := Nat.log2 s
        moveLast f count (s ^^^ single i) (match f i with
          | some j => acc ||| single j
          | none => acc)

/-- The places up to `size` in the set, each moved by `f` or dropped. -/
def move (size : Nat) (s : Places) (f : Nat → Option Nat) : Places := moveLast f (size + 1) s 0

end Places

/-- Applies a step to a set of places this many times, stopping early when nothing changes. -/
def stepTimes (step : Places → Places) : Nat → Places → Places
  | 0, s => s
  | n + 1, s =>
      let t := step s
      if t = s then s else stepTimes step n t

/-- Adds what further steps reach, at most this many, from the places that are new; it stops early when
none is. -/
def reach (step : Places → Places) : Nat → Places → Places → Places
  | 0, s, _ => s
  | n + 1, s, new =>
      if new = 0 then s
      else
        let t := s ||| step new
        reach step n t (t ^^^ s)

namespace Node

/-- The places where the node can end when it starts at a place of the set. -/
def ends (h : Haystack) : Node → Places → Places
  | .empty, s => s
  | .byte set, s => Places.move h.size s fun i =>
      match h.byte? i with
      | some b => if set.contains b.toNat then some (i + 1) else none
      | none => none
  | .char set, s => Places.move h.size s fun i =>
      match h.char? i with
      | some (c, n) => if set.contains c.toNat then some (i + n) else none
      | none => none
  | .condition c, s => Places.move h.size s fun i => if c.holds h i then some i else none
  | .concat a b, s => b.ends h (a.ends h s)
  | .alternation a b, s => a.ends h s ||| b.ends h s
  | .repetition inner least most, s =>
      let start := stepTimes (inner.ends h) least s
      let further := match most with
        | some most => min (most - least) (h.size + 1)
        | none => h.size + 1
      reach (inner.ends h) further start start
  | .capture inner, s => inner.ends h s

end Node

/-- The places where a search may start: everywhere in bytes, between characters in text. -/
def searchStarts (s : Subject) (h : Haystack) : Places :=
  (List.range (h.size + 1)).foldl
    (fun acc i =>
      if s = .bytes ∨ i = h.size ∨ (h.char? i).isSome then acc ||| Places.single i else acc) 0

/-- The node occurs somewhere in the haystack. -/
def Node.occurs (s : Subject) (n : Node) (h : Haystack) : Bool := n.ends h (searchStarts s h) ≠ 0

end Swarmkeeper.Pattern
