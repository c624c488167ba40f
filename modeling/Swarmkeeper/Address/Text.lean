import Swarmkeeper.Address.Basic
import Swarmkeeper.Text.Numeral

/-!
The written form of addresses. IPv4 is four decimal octets without leading zeros. IPv6 is eight
hexadecimal groups, of which one run of zeros may be left out as a double colon and the last two may
be written as an IPv4 address. Printing leaves out the first longest run of at least two zeros.
-/

namespace Swarmkeeper.Address

open Swarmkeeper.Text

/-- An octet of at most three digits without a leading zero, and what follows it. -/
def readOctet (cs : List Char) : Option (Fin 256 × List Char) :=
  let ds := cs.takeWhile fun c => (digitValue? c).isSome
  let n := digitsValue ds
  if ds = [] ∨ 3 < ds.length ∨ (1 < ds.length ∧ ds.head? = some '0') then none
  else if h : n < 256 then some (⟨n, h⟩, cs.drop ds.length) else none

/-- An octet after a point. -/
def readDottedOctet : List Char → Option (Fin 256 × List Char)
  | '.' :: cs => readOctet cs
  | _ => none

/-- Four octets with points between them, and what follows them. -/
def readOctets (cs : List Char) : Option ((Fin 256 × Fin 256 × Fin 256 × Fin 256) × List Char) := do
  let (a, cs) ← readOctet cs
  let (b, cs) ← readDottedOctet cs
  let (c, cs) ← readDottedOctet cs
  let (d, cs) ← readDottedOctet cs
  pure ((a, b, c, d), cs)

/-- A group of one to four hexadecimal digits, and what follows it. -/
def readGroup (cs : List Char) : Option (Nat × List Char) :=
  let ds := cs.takeWhile fun c => (hexValue? c).isSome
  if ds = [] ∨ 4 < ds.length then none
  else some (ds.foldl (fun acc c => acc * 16 + (hexValue? c).getD 0) 0, cs.drop ds.length)

/-- The groups that were read, whether the last two were written as an IPv4 address, and the rest. -/
structure Groups where
  groups : List Nat
  endsInOctets : Bool
  rest : List Char

/-- Reads at most `slots` groups with colons between them. An IPv4 address fills two slots and ends
the groups. A separator that no group follows is left in the rest. -/
def readGroups : Nat → Bool → List Char → Groups
  | 0, _, cs => ⟨[], false, cs⟩
  | slots + 1, first, cs =>
      let body := if first then some cs else
        match cs with
        | ':' :: rest => some rest
        | _ => none
      match body with
      | none => ⟨[], false, cs⟩
      | some body =>
          match (if slots = 0 then none else readOctets body) with
          | some ((a, b, c, d), rest) => ⟨[a.val * 256 + b.val, c.val * 256 + d.val], true, rest⟩
          | none =>
              match readGroup body with
              | none => ⟨[], false, cs⟩
              | some (g, rest) =>
                  let more := readGroups slots false rest
                  ⟨g :: more.groups, more.endsInOctets, more.rest⟩

/-- An IPv6 address at the front of a text, and what follows it. -/
def readV6 (cs : List Char) : Option (Address × List Char) :=
  let head := readGroups 8 true cs
  if head.groups.length = 8 then some (ofGroups head.groups, head.rest)
  else if head.endsInOctets then none
  else match head.rest with
    | ':' :: ':' :: rest =>
        let tail := readGroups (7 - head.groups.length) true rest
        let zeros := List.replicate (8 - head.groups.length - tail.groups.length) 0
        some (ofGroups (head.groups ++ zeros ++ tail.groups), tail.rest)
    | _ => none

/-- An IPv4 address at the front of a text, and what follows it. -/
def readV4 (cs : List Char) : Option (Address × List Char) :=
  (readOctets cs).map fun ((a, b, c, d), rest) => (ofOctets a b c d, rest)

/-- The address that the whole text writes. -/
def ofChars? (cs : List Char) : Option Address :=
  match readV4 cs with
  | some (a, []) => some a
  | _ =>
      match readV6 cs with
      | some (a, []) => some a
      | _ => none

/-- The address that the whole text writes. -/
def ofText? (s : String) : Option Address := ofChars? s.toList

/-- Four decimal octets. -/
def octetsText (value : Nat) : List Char :=
  decimal (octet value 0) ++ '.' :: decimal (octet value 1) ++ '.' :: decimal (octet value 2) ++
    '.' :: decimal (octet value 3)

/-- The number of zeros at the front of a list of groups. -/
def leadingZeros (groups : List Nat) : Nat := (groups.takeWhile (· == 0)).length

/-- Start and length of the first longest run of zeros. -/
def longestZeros (groups : List Nat) : Nat × Nat :=
  (List.range groups.length).foldl
    (fun best i =>
      let run := leadingZeros (groups.drop i)
      if best.2 < run then (i, run) else best)
    (0, 0)

/-- Hexadecimal groups with colons between them. -/
def groupsText : List Nat → List Char
  | [] => []
  | [g] => hexadecimal g
  | g :: gs => hexadecimal g ++ ':' :: groupsText gs

/-- Eight groups, with the first longest run of at least two zeros left out. -/
def groupsForm (value : Nat) : List Char :=
  let groups := (List.range 8).map (group value)
  let (start, run) := longestZeros groups
  if 1 < run then
    groupsText (groups.take start) ++ ':' :: ':' :: groupsText (groups.drop (start + run))
  else groupsText groups

/-- The address as text. -/
def toChars (a : Address) : List Char :=
  match a.family with
  | .v4 => octetsText a.value
  | .v6 =>
      if a.isMapped then "::ffff:".toList ++ octetsText (a.value - mappedBase)
      else groupsForm a.value

/-- The address as text. -/
def toText (a : Address) : String := String.ofList a.toChars

end Swarmkeeper.Address
