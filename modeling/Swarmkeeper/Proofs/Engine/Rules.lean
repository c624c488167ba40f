import Mathlib.Data.List.Induction
import Swarmkeeper.Engine.Demand

/-!
# The rules of a cache

Every event at a cache follows one of the rules below. What holds of all runs is shown rule by rule.
-/

namespace Swarmkeeper.Engine

/-! ## Constructions -/

/-- The session that a construction gave, if it has ended with one. -/
def BuildOutcome.session? : BuildOutcome → Option Nat
  | installed session | orphaned session => some session
  | failed _ => none

theorem BuildOutcome.result_eq_ok {o : BuildOutcome} {kind : Kind} {s : Nat} :
    o.result kind = .ok s ↔ o = .installed s := by
  cases o <;> simp [result]

namespace Build

def session? (b : Build) : Option Nat := b.outcome.bind (·.session?)

def HasFailed (b : Build) : Prop := ∃ f, b.outcome = some (.failed f)

def finish (b : Build) (o : BuildOutcome) : Build := { b with outcome := some o }

@[simp] theorem session?_mk_none (settings : Settings) : session? ⟨settings, none⟩ = none := rfl

@[simp] theorem session?_finish (b : Build) (o : BuildOutcome) : (b.finish o).session? = o.session? := rfl

theorem HasFailed.session? {b : Build} (h : b.HasFailed) : b.session? = none := by
  obtain ⟨f, hf⟩ := h
  simp [Build.session?, hf, BuildOutcome.session?]

end Build

namespace Cache

variable {c : Cache} {g : Nat}

/-- The sessions that constructions gave, in order. -/
def sessions (c : Cache) : List Nat := c.builds.filterMap Build.session?

theorem build?_eq_some {b : Build} : c.build? g = some b ↔ 1 ≤ g ∧ c.builds[g - 1]? = some b := by
  unfold build?
  split
  · rename_i hg
    simp [hg]
  · rename_i hg
    exact ⟨fun h => ⟨Nat.one_le_iff_ne_zero.mpr hg, h⟩, fun h => h.2⟩

theorem mem_of_build? {b : Build} (h : c.build? g = some b) : b ∈ c.builds :=
  List.mem_of_getElem? (build?_eq_some.mp h).2

/-- A session can be looked up exactly while it is in the slot. -/
theorem peek_eq_some {s : Nat} : c.peek = some s ↔ c.slot = .ready s := by
  unfold peek
  cases c.slot <;> simp

theorem isUnderWay_iff : c.isUnderWay g = true ↔ ∃ b, c.build? g = some b ∧ b.outcome = none := by
  unfold isUnderWay
  cases c.build? g <;> simp

theorem mem_sessions {s : Nat} : s ∈ c.sessions ↔ ∃ b ∈ c.builds, b.session? = some s :=
  List.mem_filterMap

theorem exists_of_outcome? {o : BuildOutcome} (h : c.outcome? g = some o) :
    ∃ b ∈ c.builds, b.outcome = some o := by
  unfold outcome? at h
  split at h
  · cases h
  · obtain ⟨b, hb, ho⟩ := Option.bind_eq_some_iff.mp h
    exact ⟨b, mem_of_build? hb, ho⟩

section note

variable (c : Cache) (g : Nat) (o : BuildOutcome)

@[simp] theorem note_builds : (c.note g o).builds = c.builds.modify (g - 1) (·.finish o) := rfl

@[simp] theorem note_slot : (c.note g o).slot = c.slot := rfl

@[simp] theorem note_discarded : (c.note g o).discarded = c.discarded := rfl

@[simp] theorem note_closings : (c.note g o).closings = c.closings := rfl

end note

end Cache

namespace Demand

/-! ## Rules -/

/-- What one event can do to a cache and its getters. -/
inductive Rule (d : Demand) : Event → Demand → Prop where
  /-- The event cannot happen any more, or has nothing to act on. -/
  | stay {e : Event} (he : e ≠ .arrive) : Rule d e d
  | refuse (hc : d.cache.isCancelled = true) :
      Rule d .arrive { d with getters := d.getters ++ [.returned (.error (.closed d.cache.kind))] }
  | allow (hc : d.cache.isCancelled = false) :
      Rule d .arrive { d with getters := d.getters ++ [.admitted] }
  | meet {i s : Nat} {settings : Settings} (hi : d.getters[i]? = some .admitted)
      (hs : d.cache.slot = .ready s) :
      Rule d (.enter i settings) { d with getters := d.getters.set i (.returned (.ok s)) }
  | turnAway {i : Nat} {settings : Settings} (hi : d.getters[i]? = some .admitted)
      (hs : d.cache.slot = .closed) :
      Rule d (.enter i settings)
        { d with getters := d.getters.set i (.returned (.error (.closed d.cache.kind))) }
  | join {i g : Nat} {settings : Settings} (hi : d.getters[i]? = some .admitted)
      (hs : d.cache.slot = .building g) :
      Rule d (.enter i settings) { d with getters := d.getters.set i (.waiting g) }
  | start {i : Nat} {settings : Settings} (hi : d.getters[i]? = some .admitted)
      (hs : d.cache.slot = .empty) :
      Rule d (.enter i settings)
        { d with
          cache := { d.cache with
            slot := .building (d.cache.builds.length + 1)
            builds := d.cache.builds ++ [⟨settings, none⟩] }
          getters := d.getters.set i (.waiting (d.cache.builds.length + 1)) }
  | leave {i g : Nat} (hi : d.getters[i]? = some (.waiting g)) :
      Rule d (.drop i) { d with getters := d.getters.set i .dropped }
  | deliver {i g : Nat} {o : BuildOutcome} (hi : d.getters[i]? = some (.waiting g))
      (ho : d.cache.outcome? g = some o) :
      Rule d (.deliver i)
        { d with getters := d.getters.set i (.returned (o.result d.cache.kind)) }
  | install {g s : Nat} (hu : d.cache.isUnderWay g = true) (hs : d.cache.slot = .building g) :
      Rule d (.finish g (.ok s))
        { d with cache := { d.cache with slot := .ready s }.note g (.installed s) }
  /-- The session comes after the slot was emptied. -/
  | orphan {g s : Nat} (hu : d.cache.isUnderWay g = true) (hs : d.cache.slot ≠ .building g) :
      Rule d (.finish g (.ok s))
        { d with
          cache := { d.cache with discarded := d.cache.discarded ++ [(Holder.construction g, s)] }.note g
            (.orphaned s) }
  | fail {g : Nat} {f : Fault} (hu : d.cache.isUnderWay g = true) (hs : d.cache.slot = .building g) :
      Rule d (.finish g (.error f))
        { d with cache := { d.cache with slot := .empty }.note g (.failed f) }
  | failLate {g : Nat} {f : Fault} (hu : d.cache.isUnderWay g = true)
      (hs : d.cache.slot ≠ .building g) :
      Rule d (.finish g (.error f)) { d with cache := d.cache.note g (.failed f) }
  | cancel : Rule d .cancel { d with cache := { d.cache with isCancelled := true } }
  | vacate (hc : d.cache.isCancelled = true) :
      Rule d .vacate
        { d with cache := { d.cache with
            slot := .closed
            discarded := d.cache.discarded ++ d.cache.peek.toList.map (Prod.mk Holder.closer) } }
  | dispose {h : Holder} {s : Nat} (hs : (h, s) ∈ d.cache.discarded) :
      Rule d (.dispose h s)
        { d with cache := { d.cache with
            discarded := d.cache.discarded.erase (h, s)
            closings := d.cache.closings ++ [s] } }

variable {d d' : Demand} {e : Event}

theorem returned_of_result? {i : Nat} {r : Except Fault Nat} (h : d.result? i = some r) :
    .returned r ∈ d.getters := by
  unfold result? at h
  split at h
  · cases h
    exact List.mem_of_getElem? ‹_›
  · cases h

theorem arrive_rule (d : Demand) : Rule d .arrive d.arrive := by
  unfold arrive
  split
  · exact .refuse ‹_›
  · rename_i hc
    exact .allow (by simpa using hc)

/-- Who gets at the slot finds a session, waits for a construction, starts one, or is turned away. -/
theorem enter_rule (d : Demand) (i : Nat) (settings : Settings) :
    Rule d (.enter i settings) (d.enter i settings) := by
  unfold enter
  split
  · rename_i hi
    cases hs : d.cache.slot with
    | ready s => simpa [Cache.supply, hs] using Rule.meet hi hs
    | closed => simpa [Cache.supply, hs] using Rule.turnAway hi hs
    | building g => simpa [Cache.supply, hs] using Rule.join hi hs
    | empty => simpa [Cache.supply, hs] using Rule.start hi hs
  · exact .stay nofun

theorem drop_rule (d : Demand) (i : Nat) : Rule d (.drop i) (d.drop i) := by
  unfold drop
  split
  · exact .leave ‹_›
  · exact .stay nofun

theorem deliver_rule (d : Demand) (i : Nat) : Rule d (.deliver i) (d.deliver i) := by
  unfold deliver
  split
  · rename_i hi
    split
    · exact .deliver hi ‹_›
    · exact .stay nofun
  · exact .stay nofun

/-- The end of a construction fills the slot, or comes too late, or was a failure. -/
theorem finish_rule (d : Demand) (g : Nat) (result : Except Fault Nat) :
    Rule d (.finish g result) (d.step (.finish g result)) := by
  cases hu : d.cache.isUnderWay g with
  | false =>
      simpa [step, onCache, Cache.finish, hu] using Rule.stay (d := d) (e := .finish g result) nofun
  | true =>
      by_cases hs : d.cache.slot = .building g
      · cases result with
        | ok s => simpa [step, onCache, Cache.finish, hu, Cache.settle, hs] using Rule.install hu hs
        | error f => simpa [step, onCache, Cache.finish, hu, Cache.settle, hs] using Rule.fail hu hs
      · cases result with
        | ok s => simpa [step, onCache, Cache.finish, hu, Cache.settle, hs] using Rule.orphan hu hs
        | error f =>
            simpa [step, onCache, Cache.finish, hu, Cache.settle, hs] using Rule.failLate hu hs

theorem vacate_rule (d : Demand) : Rule d .vacate (d.step .vacate) := by
  cases hc : d.cache.isCancelled with
  | false => simpa [step, onCache, Cache.vacate, hc] using Rule.stay (d := d) (e := .vacate) nofun
  | true =>
      have h := Rule.vacate hc
      cases hs : d.cache.slot <;> simpa [step, onCache, Cache.vacate, hc, hs, Cache.peek] using h

theorem dispose_rule (d : Demand) (h : Holder) (s : Nat) :
    Rule d (.dispose h s) (d.step (.dispose h s)) := by
  by_cases hs : (h, s) ∈ d.cache.discarded
  · simpa [step, onCache, Cache.dispose, hs] using Rule.dispose hs
  · simpa [step, onCache, Cache.dispose, hs] using Rule.stay (d := d) (e := .dispose h s) nofun

/-- Every event follows one of the rules. -/
theorem step_rule (d : Demand) (e : Event) : Rule d e (d.step e) := by
  cases e with
  | arrive => exact arrive_rule d
  | enter i settings => exact enter_rule d i settings
  | drop i => exact drop_rule d i
  | deliver i => exact deliver_rule d i
  | finish g result => exact finish_rule d g result
  | cancel => exact .cancel
  | vacate => exact vacate_rule d
  | dispose h s => exact dispose_rule d h s

/-- Asking without a pause between its two acts does to the cache what asking at once does. -/
theorem get_cache (d : Demand) (settings : Settings) :
    (d.get settings).cache = (d.cache.get settings).2 := by
  cases hc : d.cache.isCancelled <;> simp [get, step, arrive, enter, Cache.get, hc]

/-! ## Runs -/

/-- What every rule keeps is kept by any number of further events. -/
theorem foldl_step_induction {P : Demand → Prop} (hd : P d)
    (step : ∀ {d e d'}, Rule d e d' → P d → P d') (events : List Event) :
    P (events.foldl Demand.step d) := by
  induction events generalizing d with
  | nil => exact hd
  | cons e events ih => exact ih (step (step_rule d e) hd)

/-- What holds before the first event and is kept by every rule holds after any events. -/
theorem after_induction {kind : Kind} {P : Demand → Prop} (init : P (ofKind kind))
    (step : ∀ {d e d'}, Rule d e d' → P d → P d') (events : List Event) : P (after kind events) :=
  foldl_step_induction init step events

theorem after_append (kind : Kind) (events more : List Event) :
    after kind (events ++ more) = more.foldl step (after kind events) :=
  List.foldl_append

/-- What every rule keeps holds on if it holds after some of the events. -/
theorem after_mono {kind : Kind} {P : Demand → Prop} {earlier events : List Event}
    (step : ∀ {d e d'}, Rule d e d' → P d → P d') (hp : earlier <+: events)
    (h : P (after kind earlier)) : P (after kind events) := by
  obtain ⟨more, rfl⟩ := hp
  rw [after_append]
  exact foldl_step_induction h step more

end Demand

end Swarmkeeper.Engine
