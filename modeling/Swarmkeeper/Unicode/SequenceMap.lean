import Swarmkeeper.Unicode.RangeSet

/-!
Maps from code points to sequences of code points, written as tables.
-/

namespace Swarmkeeper.Unicode.SequenceMap

open Swarmkeeper.Text RangeSet

/-- Code points in a row, with what each of them goes to. -/
inductive Run where
  /-- The numbers from `first` on, each with its own sequence. -/
  | listed (first : Nat) (targets : List (List Nat))
  /-- The numbers from `first` to `last` in steps of `step`, each with the number that is as far
  from `target` as it is from `first`. -/
  | shifted (first last step target : Nat)

/-- The code points of a run with their sequences. -/
def Run.pairs : Run → List (Nat × List Nat)
  | listed first targets => targets.mapIdx fun i target => (first + i, target)
  | shifted first last step target =>
      (List.range ((last - first) / step + 1)).map fun i => (first + i * step, [target + i * step])

/-- A run written as its numbers, an equality sign and what they go to. Two numbers with a dash are
a range, with a slash every second number of a range. A number alone starts a list with commas, and
the sequences of the list are written with points. -/
def Run.ofChars (cs : List Char) : Run :=
  match splitOnce '=' cs with
  | none => listed 0 []
  | some (span, target) =>
      match splitOnce '-' span, splitOnce '/' span with
      | some (a, b), _ => shifted (hexNumber a) (hexNumber b) 1 (hexNumber target)
      | none, some (a, b) => shifted (hexNumber a) (hexNumber b) 2 (hexNumber target)
      | none, none =>
          listed (hexNumber span)
            ((splitAll ',' target).map fun t => (splitAll '.' t).map hexNumber)

/-- The map that runs with spaces or line ends between them write. -/
def decode (lines : List String) : List (Nat × List Nat) :=
  (lines.flatMap fun line => splitAll ' ' line.toList).flatMap fun cs => (Run.ofChars cs).pairs

example : decode ["A=61.62,63 10-11=20 30/34=31"] =
    [(0xA, [0x61, 0x62]), (0xB, [0x63]), (0x10, [0x20]), (0x11, [0x21]), (0x30, [0x31]),
      (0x32, [0x33]), (0x34, [0x35])] := by
  decide +kernel

end Swarmkeeper.Unicode.SequenceMap
