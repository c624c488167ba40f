import Swarmkeeper.Admission.Chain

/-!
# Chains that were installed

A shared chain as the list of all chains that were ever installed, in order: to replace one is to append,
and a chain that is out of use can still be changed in its place.
-/

namespace Swarmkeeper.Admission.SharedChain

variable [Pattern.Matcher] {s t : SharedChain} {c : Chain} {f : Chain → Chain} {id : Nat}

/-- All chains in order of installation. -/
def toList (s : SharedChain) : List Chain := s.oldest :: s.newer.reverse

theorem get?_eq (s : SharedChain) (id : Nat) : s.get? id = s.toList[id]? := rfl

theorem length_toList (s : SharedChain) : s.toList.length = s.currentId + 1 := by
  simp [toList, currentId]

theorem eq_of_toList (h : s.toList = t.toList) : s = t := by
  obtain ⟨hold, hnew⟩ := List.cons.inj h
  obtain ⟨newer, oldest⟩ := s
  obtain ⟨newer', oldest'⟩ := t
  cases hold
  cases List.reverse_inj.mp hnew
  rfl

/-- To replace the chain adds one at the end. -/
@[simp] theorem toList_replace (s : SharedChain) (c : Chain) : (s.replace c).toList = s.toList ++ [c] := by
  simp [toList, replace]

/-- To change a chain changes it in its place. -/
theorem toList_modify (f : Chain → Chain) (h : id < s.toList.length) :
    (s.modify id f).toList = s.toList.modify id f := by
  cases id with
  | zero => rfl
  | succ k =>
      have hk : k < s.newer.length := by simpa [toList] using h
      -- the newest chain comes first in one list and last in the other
      have hrev : (s.newer.modify (s.newer.length - (k + 1)) f).reverse = s.newer.reverse.modify k f := by
        refine List.ext_getElem? fun j => ?_
        rcases Nat.lt_or_ge j s.newer.length with hj | hj
        · rw [List.getElem?_reverse (by simpa using hj), List.length_modify, List.getElem?_modify,
            List.getElem?_modify, List.getElem?_reverse hj]
          have hiff : s.newer.length - (k + 1) = s.newer.length - 1 - j ↔ k = j := by omega
          simp only [hiff]
        · rw [List.getElem?_eq_none (by simpa using hj), List.getElem?_eq_none (by simpa using hj)]
      simp [toList, modify, hrev]

theorem length_toList_modify (s : SharedChain) (id : Nat) (f : Chain → Chain) :
    (s.modify id f).toList.length = s.toList.length := by
  unfold modify
  split <;> simp [toList]

theorem get?_currentId (s : SharedChain) : s.get? s.currentId = some s.current := by
  obtain ⟨newer, oldest⟩ := s
  cases newer with
  | nil => rfl
  | cons c newer => simp [get?, currentId, current]

theorem currentId_lt (s : SharedChain) : s.currentId < s.toList.length := by
  rw [length_toList]
  exact Nat.lt_succ_self _

theorem get?_isSome (h : id < s.toList.length) : ∃ c, s.get? id = some c :=
  ⟨_, List.getElem?_eq_getElem h⟩

theorem lt_length_of_get? (h : s.get? id = some c) : id < s.toList.length :=
  (List.getElem?_eq_some_iff.mp h).1

/-- What is done to one chain leaves the others alone. -/
theorem get?_modify {j : Nat} (h : id < s.toList.length) :
    (s.modify id f).get? j = if id = j then (s.get? j).map f else s.get? j := by
  rw [get?_eq, toList_modify f h, List.getElem?_modify, get?_eq]
  split <;> cases s.toList[j]? <;> rfl

/-- Chains that were replaced can still be found. -/
theorem get?_replace_of_lt (h : id < s.toList.length) : (s.replace c).get? id = s.get? id := by
  rw [get?_eq, toList_replace, List.getElem?_append_left h, get?_eq]

end Swarmkeeper.Admission.SharedChain
