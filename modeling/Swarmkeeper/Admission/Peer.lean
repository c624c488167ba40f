/-!
What is known of a peer when it asks to be admitted. The rules look at its id, its client and its address.
What the connection to it is like is told in flags, by which no rule goes: sets of bits, compared by inclusion.
-/

namespace Swarmkeeper.Admission

/-- What a connection to a peer is like. -/
structure PeerFlags where
  bits : UInt32
deriving DecidableEq, Repr

namespace PeerFlags

/-- The peer made the connection. -/
def incoming : PeerFlags := ⟨1⟩

/-- The connection is encrypted. -/
def encrypted : PeerFlags := ⟨2⟩

/-- The connection uses the micro transport protocol. -/
def utp : PeerFlags := ⟨4⟩

/-- The peer has everything. -/
def seed : PeerFlags := ⟨8⟩

/-- Every flag of the second set is in the first. -/
def contains (s t : PeerFlags) : Bool := s.bits &&& t.bits == t.bits

theorem contains_iff {s t : PeerFlags} :
    s.contains t ↔ ∀ i, t.bits.toBitVec.getLsbD i = true → s.bits.toBitVec.getLsbD i = true := by
  rw [contains, beq_iff_eq, ← UInt32.toBitVec_inj, UInt32.toBitVec_and]
  constructor
  · intro h i hi
    rw [← h, BitVec.getLsbD_and, Bool.and_eq_true] at hi
    exact hi.1
  · intro h
    refine BitVec.eq_of_getLsbD_eq fun i _ => ?_
    rw [BitVec.getLsbD_and]
    cases hi : t.bits.toBitVec.getLsbD i with
    | false => exact Bool.and_false _
    | true => rw [h i hi, Bool.true_and]

theorem contains_refl (s : PeerFlags) : s.contains s := contains_iff.mpr fun _ h => h

theorem contains_trans {s t u : PeerFlags} (hst : s.contains t) (htu : t.contains u) : s.contains u :=
  contains_iff.mpr fun i h => contains_iff.mp hst i (contains_iff.mp htu i h)

theorem contains_antisymm {s t : PeerFlags} (hst : s.contains t) (hts : t.contains s) : s = t := by
  have h : s.bits = t.bits := by
    rw [← UInt32.toBitVec_inj]
    refine BitVec.eq_of_getLsbD_eq fun i _ => Bool.eq_iff_iff.mpr ?_
    exact ⟨contains_iff.mp hts i, contains_iff.mp hst i⟩
  cases s
  cases t
  exact congrArg mk h

/-- The named flags are different bits, so that none of them stands for another. -/
theorem pairwise_not_contains :
    [incoming, encrypted, utp, seed].Pairwise fun s t => s.contains t = false ∧ t.contains s = false := by
  decide

end PeerFlags

/-- A peer as filters see it. -/
structure Peer where
  /-- The peer id, of any length. -/
  id : List UInt8
  /-- The name of the client software. -/
  client : String
  /-- The address as text. -/
  ip : String
deriving DecidableEq, Repr

end Swarmkeeper.Admission
