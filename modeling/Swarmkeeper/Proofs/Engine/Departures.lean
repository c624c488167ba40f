import Swarmkeeper.Proofs.Engine.Getters

/-!
# Those who go away

Whoever waits may go away at any time. The cache goes the same way as if they had stayed, and so do all the
others who asked.
-/

namespace Swarmkeeper.Engine

namespace Demand

variable {d d' : Demand} {e : Event} {i : Nat}

/-- The events but for these departures. -/
def without (gone : Nat → Bool) (events : List Event) : List Event :=
  events.filter fun
    | .drop i => !gone i
    | _ => true

/-- Where one stands who may have gone away in the first of two runs only. -/
inductive Strays (gone : Nat → Bool) (i : Nat) : Option Getter → Option Getter → Prop where
  | same (x : Option Getter) : Strays gone i x x
  | away {y : Getter} (hi : gone i = true) (hy : y ≠ .admitted) :
      Strays gone i (some .dropped) (some y)

/-- The demands differ at most in that some of these have gone away in the first. -/
structure Thins (gone : Nat → Bool) (d d' : Demand) : Prop where
  cache : d.cache = d'.cache
  length : d.getters.length = d'.getters.length
  getters : ∀ i : Nat, Strays gone i d.getters[i]? d'.getters[i]?

namespace Thins

variable {gone : Nat → Bool}

theorem refl (gone : Nat → Bool) (d : Demand) : Thins gone d d := ⟨rfl, rfl, fun _ => .same _⟩

theorem onCache (h : Thins gone d d') (f : Cache → Cache) : Thins gone (d.onCache f) (d'.onCache f) :=
  ⟨congrArg f h.cache, h.length, h.getters⟩

theorem arrive (h : Thins gone d d') : Thins gone d.arrive d'.arrive where
  cache := h.cache
  length := by simp [Demand.arrive, h.length]
  getters i := by
    simp only [Demand.arrive, h.cache, List.getElem?_append, h.length]
    split
    · exact h.getters i
    · exact .same _

theorem set {c c' : Cache} {x y : Getter} (h : Thins gone d d') (hc : c = c')
    (hxy : Strays gone i (some x) (some y)) :
    Thins gone ⟨c, d.getters.set i x⟩ ⟨c', d'.getters.set i y⟩ where
  cache := hc
  length := by simpa using h.length
  getters j := by
    have hj := h.getters j
    rw [List.getElem?_set', List.getElem?_set']
    split
    · subst i
      generalize d.getters[j]? = u, d'.getters[j]? = v at hj
      cases hj with
      | same u =>
          cases u with
          | none => exact .same _
          | some => exact hxy
      | away => exact hxy
    · exact hj

theorem set_self {x : Getter} (hi : d.getters[i]? = some x) :
    (⟨d.cache, d.getters.set i x⟩ : Demand) = d := by
  obtain ⟨hlt, rfl⟩ := List.getElem?_eq_some_iff.mp hi
  rw [List.set_getElem_self]

/-- What becomes of somebody who is gone in one run does not matter in the other. -/
theorem set_right {y : Getter} (h : Thins gone d d') (hx : d.getters[i]? = some .dropped)
    (hi : gone i = true) (hy : y ≠ .admitted) : Thins gone d ⟨d.cache, d'.getters.set i y⟩ := by
  have hs := h.set (rfl : d.cache = d.cache) (.away hi hy)
  rwa [set_self hx] at hs

theorem enter (h : Thins gone d d') (i : Nat) (settings : Settings) :
    Thins gone (d.enter i settings) (d'.enter i settings) := by
  have hi := h.getters i
  unfold Demand.enter
  rw [h.cache]
  generalize d.getters[i]? = x, d'.getters[i]? = y at hi
  cases hi with
  | same =>
      split
      · exact h.set rfl (.same _)
      · exact h
  | @away y _ hn =>
      cases y with
      | admitted => exact absurd rfl hn
      | _ => exact h

theorem drop (h : Thins gone d d') (hi : gone i = false) : Thins gone (d.drop i) (d'.drop i) := by
  have hs := h.getters i
  unfold Demand.drop
  generalize d.getters[i]? = x, d'.getters[i]? = y at hs
  cases hs with
  | same =>
      split
      · exact h.set h.cache (.same _)
      · exact h
  | away hi' => simp [hi] at hi'

/-- One of these goes away in the first run only. -/
theorem drop_left (h : Thins gone d d') (hi : gone i = true) : Thins gone (d.drop i) d' := by
  have hs := h.getters i
  unfold Demand.drop
  split
  · rename_i g hx
    generalize hy : d'.getters[i]? = y at hs
    rw [hx] at hs
    cases hs with
    | same =>
        rw [← set_self hy]
        exact h.set h.cache (.away hi nofun)
  · exact h

/-- Those who stay are given the same in both runs. -/
theorem deliver (h : Thins gone d d') (i : Nat) : Thins gone (d.deliver i) (d'.deliver i) := by
  have hs := h.getters i
  unfold Demand.deliver
  rw [← h.cache]
  generalize hx : d.getters[i]? = x, d'.getters[i]? = y at hs
  cases hs with
  | same =>
      split
      · split
        · exact h.set rfl (.same _)
        · exact h
      · exact h
  | @away y hi =>
      cases y with
      | waiting g =>
          simp only
          split
          · exact h.set_right hx hi nofun
          · exact h
      | _ => exact h

/-- Whatever happens to the others happens in both runs. -/
theorem step (h : Thins gone d d') (he : ∀ i, e = .drop i → gone i = false) :
    Thins gone (d.step e) (d'.step e) := by
  cases e with
  | arrive => exact h.arrive
  | enter i settings => exact h.enter i settings
  | drop i => exact h.drop (he i rfl)
  | deliver i => exact h.deliver i
  | finish g r => exact h.onCache (·.finish g r)
  | cancel => exact h.onCache (·.cancel)
  | vacate => exact h.onCache (·.vacate)
  | dispose holder s => exact h.onCache (·.dispose holder s)

end Thins

/-- The run goes as it would if they had not gone away. -/
theorem thins_without (kind : Kind) (gone : Nat → Bool) (events : List Event) :
    Thins gone (after kind events) (after kind (without gone events)) := by
  induction events using List.reverseRecOn with
  | nil => exact .refl gone _
  | append_singleton events e ih =>
      rw [after_concat]
      by_cases he : ∃ i, e = .drop i ∧ gone i = true
      · obtain ⟨i, rfl, hi⟩ := he
        have hw : without gone (events ++ [.drop i]) = without gone events := by
          simp [without, hi]
        rw [hw]
        exact ih.drop_left hi
      · have he : ∀ i, e = .drop i → gone i = false := by simpa using he
        have hw : without gone (events ++ [e]) = without gone events ++ [e] := by
          cases e <;> simp_all [without]
        rw [hw, after_concat]
        exact ih.step he

end Demand

end Swarmkeeper.Engine
