/-!
Internet addresses: a family and a number below two to the width of that family. An IPv6 address of
the mapped block stands for an IPv4 address; `canonical` takes it there.
-/

namespace Swarmkeeper

/-- The two address families. -/
inductive Family where
  | v4
  | v6
deriving DecidableEq, Repr

namespace Family

/-- The number of bits of an address. -/
def width : Family → Nat
  | v4 => 32
  | v6 => 128

/-- The number of addresses. -/
def size (f : Family) : Nat := Nat.pow 2 f.width

theorem size_pos (f : Family) : 0 < f.size := Nat.two_pow_pos _

/-- The number of addresses that agree in their first `bits` bits. -/
def blockSize (f : Family) (bits : Nat) : Nat := Nat.pow 2 (f.width - bits)

theorem blockSize_pos (f : Family) (bits : Nat) : 0 < f.blockSize bits := Nat.two_pow_pos _

theorem size_eq_mul_blockSize (f : Family) {bits : Nat} (h : bits ≤ f.width) :
    f.size = Nat.pow 2 bits * f.blockSize bits := by
  unfold size blockSize
  rw [Nat.pow_eq, Nat.pow_eq, Nat.pow_eq, ← Nat.pow_add, Nat.add_sub_cancel' h]

end Family

/-- One address of one family. -/
structure Address where
  family : Family
  value : Nat
  value_lt : value < family.size
deriving DecidableEq

namespace Address

/-- The address of the family with this number, taken modulo the family's size. -/
def ofNat (f : Family) (n : Nat) : Address :=
  ⟨f, n % f.size, Nat.mod_lt _ f.size_pos⟩

/-- The IPv4 address written with these four octets. -/
def ofOctets (a b c d : Fin 256) : Address where
  family := .v4
  value := ((a.val * 256 + b.val) * 256 + c.val) * 256 + d.val
  value_lt := by
    have := a.isLt; have := b.isLt; have := c.isLt; have := d.isLt
    show _ < 0x100000000
    omega

/-- The IPv6 address written with these groups of sixteen bits, first group first. -/
def ofGroups (groups : List Nat) : Address :=
  ofNat .v6 (groups.foldl (fun acc g => acc * 65536 + g) 0)

/-- The octet at position `i` of an IPv4 number, counted from the left. -/
def octet (value i : Nat) : Fin 256 :=
  ⟨value / Nat.pow 256 (3 - i) % 256, Nat.mod_lt _ (by decide)⟩

/-- The group at position `i` of an IPv6 number, counted from the left. -/
def group (value i : Nat) : Nat :=
  value / Nat.pow 65536 (7 - i) % 65536

/-- The first number of the block of IPv6 addresses that stand for IPv4 addresses. -/
def mappedBase : Nat := 0xFFFF * 0x100000000

/-- An IPv6 address of the mapped block. -/
def isMapped (a : Address) : Bool :=
  match a.family with
  | .v4 => false
  | .v6 => mappedBase ≤ a.value && a.value < mappedBase + 0x100000000

/-- The address itself, or the IPv4 address that a mapped IPv6 address stands for. -/
def canonical (a : Address) : Address :=
  if a.isMapped then ofNat .v4 (a.value - mappedBase) else a

end Address

end Swarmkeeper
