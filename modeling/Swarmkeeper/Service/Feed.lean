import Swarmkeeper.Service.Phase

/-!
The feed of the steps of a connection. Only the latest steps are kept for a reader: one that is late is
told how many it has missed, and goes on with the oldest that is left.
-/

namespace Swarmkeeper.Service.Feed

/-- How many steps are kept. -/
def capacity : Nat := 64

/-- What a reader finds. -/
inductive Item where
  | nothing
  | step (t : Transition)
  | missed (count : Nat)
deriving DecidableEq

/-- What a reader finds that is past so many steps, and how many it is past then. The latest step of the
history is its first. -/
def read (history : List Transition) (past : Nat) : Item × Nat :=
  if past + capacity < history.length then
    (.missed (history.length - capacity - past), history.length - capacity)
  else match history.reverse[past]? with
    | some t => (.step t, past + 1)
    | none => (.nothing, past)

theorem lt_of_read {history : List Transition} {past : Nat} (h : (read history past).1 ≠ .nothing) :
    past < (read history past).2 ∧ (read history past).2 ≤ history.length := by
  unfold read at h ⊢
  split at h
  · rename_i hlate
    rw [if_pos hlate]
    exact ⟨by omega, Nat.sub_le _ _⟩
  · rename_i hlate
    rw [if_neg hlate]
    split at h
    · rename_i ht
      have hlt := (List.getElem?_eq_some_iff.mp ht).1
      rw [List.length_reverse] at hlt
      exact ⟨Nat.lt_succ_self _, hlt⟩
    · exact absurd rfl h

/-- What a reader finds that reads on until nothing is left: how many steps it has missed, and the others. -/
def readAll (history : List Transition) (past : Nat) : Nat × List Transition :=
  match _h : read history past with
  | (.nothing, _) => (0, [])
  | (.step t, next) =>
      let (missed, steps) := readAll history next
      (missed, t :: steps)
  | (.missed count, next) =>
      let (missed, steps) := readAll history next
      (count + missed, steps)
termination_by history.length - past
decreasing_by
  all_goals
    have hlt := lt_of_read (by rw [_h]; nofun)
    rw [_h] at hlt
    dsimp only at hlt
    omega

end Swarmkeeper.Service.Feed
