import Swarmkeeper.Address.Text
import Swarmkeeper.Text.Blank
import Swarmkeeper.Text.Split

/-!
Ranges of addresses and the patterns that write them: one address, a block with a prefix length,
two bounds, bounds that differ in the last octet, and octets with wildcards at the end. A range holds
the numbers between its bounds, of one family; an address is looked up in its canonical form.
-/

namespace Swarmkeeper.Admission

open Swarmkeeper.Text

/-- An inclusive, non-empty interval of addresses of one family. -/
structure Range where
  family : Family
  first : Nat
  last : Nat
  first_le_last : first ≤ last
  last_lt : last < family.size

instance : DecidableEq Range := fun r s =>
  if h : r.family = s.family ∧ r.first = s.first ∧ r.last = s.last then
    .isTrue (by
      obtain ⟨hf, h1, h2⟩ := h
      cases r; cases s; cases hf; cases h1; cases h2
      rfl)
  else .isFalse fun e => h (e ▸ ⟨rfl, rfl, rfl⟩)

/-- Why a pattern writes no range. -/
inductive RangeFault where
  | empty
  | invalidAddress (text : String)
  | invalidPrefix (text : String)
  | inverted (first last : Address)
  | mixedFamilies
deriving DecidableEq

/-- The wording of a range fault. -/
def RangeFault.message : RangeFault → String
  | empty => "Empty range pattern"
  | invalidAddress text => s!"Invalid address '{text}'"
  | invalidPrefix text => s!"Invalid prefix length '{text}'"
  | inverted first last => s!"Range start {first.toText} is after end {last.toText}"
  | mixedFamilies => "Range mixes IPv4 and IPv6 addresses"

namespace Range

/-- The range of one address. -/
def single (a : Address) : Range := ⟨a.family, a.value, a.value, Nat.le_refl _, a.value_lt⟩

/-- The range holds the canonical form of the address. -/
def Contains (r : Range) (a : Address) : Prop :=
  a.canonical.family = r.family ∧ r.first ≤ a.canonical.value ∧ a.canonical.value ≤ r.last

instance (r : Range) (a : Address) : Decidable (r.Contains a) :=
  inferInstanceAs (Decidable (_ ∧ _ ∧ _))

/-- The addresses between two bounds in canonical form. -/
def ofBounds (first last : Address) : Except RangeFault Range :=
  let a := first.canonical
  let b := last.canonical
  if hf : a.family = b.family then
    if hle : a.value ≤ b.value then .ok ⟨a.family, a.value, b.value, hle, hf ▸ b.value_lt⟩
    else .error (.inverted first last)
  else .error .mixedFamilies

theorem block_last_lt (f : Family) (value bits : Nat) (hv : value < f.size) (hb : bits ≤ f.width) :
    value / f.blockSize bits * f.blockSize bits + (f.blockSize bits - 1) < f.size := by
  have hpos := f.blockSize_pos bits
  have hsize := f.size_eq_mul_blockSize hb
  have hlt : value / f.blockSize bits < Nat.pow 2 bits :=
    Nat.div_lt_of_lt_mul (by rw [Nat.mul_comm, ← hsize]; exact hv)
  have hmul : (value / f.blockSize bits + 1) * f.blockSize bits ≤ f.size :=
    hsize ▸ Nat.mul_le_mul_right _ hlt
  rw [Nat.add_mul] at hmul
  omega

/-- The block of addresses that agree with `a` in the first `bits` bits. -/
def block (a : Address) (bits : Nat) (h : bits ≤ a.family.width) : Range where
  family := a.family
  first := a.value / a.family.blockSize bits * a.family.blockSize bits
  last := a.value / a.family.blockSize bits * a.family.blockSize bits + (a.family.blockSize bits - 1)
  first_le_last := Nat.le_add_right _ _
  last_lt := block_last_lt _ _ _ a.value_lt h

/-- The address that the text writes. -/
def readAddress (cs : List Char) : Except RangeFault Address :=
  match Address.ofChars? cs with
  | some a => .ok a
  | none => .error (.invalidAddress (String.ofList cs))

/-- An address and a prefix length with a slash between them. -/
def readBlock (address length : List Char) : Except RangeFault Range := do
  let a ← readAddress address
  match readBelow? 0x100000000 length with
  | none => .error (.invalidPrefix (String.ofList length))
  | some bits =>
      if h : bits ≤ a.canonical.family.width then .ok (block a.canonical bits h)
      else .error (.invalidPrefix (String.ofList length))

/-- The address with its last octet replaced. -/
def withLastOctet (a : Address) (d : Fin 256) : Address :=
  .ofOctets (Address.octet a.value 0) (Address.octet a.value 1) (Address.octet a.value 2) d

/-- The second bound of a pair: a last octet if the first bound is written as IPv4, else an
address. -/
def readLast (first : Address) (cs : List Char) : Except RangeFault Address :=
  match first.family, readBelow? 256 cs with
  | .v4, some d => .ok (withLastOctet first (Fin.ofNat 256 d))
  | _, _ => readAddress cs

/-- Two bounds with a dash between them. -/
def readBounds (first last : List Char) : Except RangeFault Range := do
  let a ← readAddress first
  let b ← readLast a last
  ofBounds a b

/-- Octets of which those from some position on are wildcards; `none` stands for a wildcard. -/
def readOctetPatterns : List (List Char) → Option (List (Option (Fin 256)))
  | [] => some []
  | ['*'] :: parts =>
      if parts.all (· == ['*']) then some (none :: parts.map fun _ => none) else none
  | part :: parts => do
      let d ← readBelow? 256 part
      let rest ← readOctetPatterns parts
      pure (some (Fin.ofNat 256 d) :: rest)

/-- The lowest octet that a position with or without a wildcard admits. -/
def lowOctet (o : Option (Fin 256)) : Fin 256 := o.getD 0

/-- The highest octet that a position with or without a wildcard admits. -/
def highOctet (o : Option (Fin 256)) : Fin 256 := o.getD 255

theorem lowOctet_le_highOctet (o : Option (Fin 256)) : (lowOctet o).val ≤ (highOctet o).val := by
  cases o <;> simp [lowOctet, highOctet]

/-- The addresses whose octets lie between the lowest and the highest of their positions. -/
def ofOctetPatterns (a b c d : Option (Fin 256)) : Range where
  family := .v4
  first := (Address.ofOctets (lowOctet a) (lowOctet b) (lowOctet c) (lowOctet d)).value
  last := (Address.ofOctets (highOctet a) (highOctet b) (highOctet c) (highOctet d)).value
  first_le_last := by
    have := lowOctet_le_highOctet a; have := lowOctet_le_highOctet b
    have := lowOctet_le_highOctet c; have := lowOctet_le_highOctet d
    simp only [Address.ofOctets]
    omega
  last_lt := (Address.ofOctets (highOctet a) (highOctet b) (highOctet c) (highOctet d)).value_lt

/-- Four octets with wildcards at the end. -/
def readWildcard (cs : List Char) : Except RangeFault Range :=
  match readOctetPatterns (splitAll '.' cs) with
  | some [a, b, c, d] => .ok (ofOctetPatterns a b c d)
  | _ => .error (.invalidAddress (String.ofList cs))

/-- The range that a pattern writes. A slash decides before a dash, a dash before a wildcard; white
space around the pattern and around both sides of a slash or dash is ignored. -/
def ofChars (pattern : List Char) : Except RangeFault Range :=
  let cs := trimChars pattern
  if cs = [] then .error .empty
  else match splitOnce '/' cs with
    | some (address, length) => readBlock (trimChars address) (trimChars length)
    | none =>
        match splitOnce '-' cs with
        | some (first, last) => readBounds (trimChars first) (trimChars last)
        | none => if cs.contains '*' then readWildcard cs else single <$> readAddress cs

/-- The range that a pattern writes. -/
def ofText (pattern : String) : Except RangeFault Range := ofChars pattern.toList

/-- The two bounds with a dash between them. -/
def toText (r : Range) : String :=
  s!"{(Address.ofNat r.family r.first).toText}-{(Address.ofNat r.family r.last).toText}"

end Range

end Swarmkeeper.Admission
