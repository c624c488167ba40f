import Mathlib.Data.List.Basic
import Mathlib.Data.List.Induction
import Swarmkeeper.Engine.Turns
import Swarmkeeper.Proofs.Engine.Loading

/-!
# Which engines are registered

Of each kind the first engine that was given is registered, and no other. Nothing that happens to the
engines changes their kinds and locations, so it stays at that.
-/

namespace Swarmkeeper.Engine

/-! ## Kinds and locations -/

/-- What never changes about an engine. -/
def Native.identity (e : Native) : Kind × Location := (e.kind, e.location)

namespace Registry

variable {r r' : Registry} {i j : Nat} {e : Native}

/-- The kinds and locations of all engines that were given, in order. -/
def identities (r : Registry) : List (Kind × Location) := r.members.map (·.engine.identity)

theorem getElem?_identities (r : Registry) (i : Nat) :
    r.identities[i]? = (r.engine? i).map (·.identity) := by
  rw [identities, List.getElem?_map, engine?, Option.map_map]
  rfl

theorem map_kind_identities (r : Registry) :
    r.identities.map (·.1) = r.members.map (·.engine.kind) := by
  rw [identities, List.map_map]
  rfl

theorem identities_of_engine? (h : ∀ j, (r'.engine? j).map (·.identity) = (r.engine? j).map (·.identity)) :
    r'.identities = r.identities :=
  List.ext_getElem? fun j => by rw [getElem?_identities, getElem?_identities, h j]

/-- Engines of the same identities are of the same kinds, at the same places. -/
theorem engine?_of_identities (h : r'.identities = r.identities) (he : r.engine? i = some e) :
    ∃ e', r'.engine? i = some e' ∧ e'.kind = e.kind ∧ e'.location = e.location := by
  have hi : (r'.engine? i).map (·.identity) = some e.identity := by
    rw [← getElem?_identities, h, getElem?_identities, he, Option.map_some]
  obtain ⟨e', he', hid⟩ := Option.map_eq_some_iff.mp hi
  obtain ⟨hk, hl⟩ := Prod.mk.inj hid
  exact ⟨e', he', hk, hl⟩

theorem engine?_ofEngines (engines : List Native) (i : Nat) : (ofEngines engines).engine? i = engines[i]? := by
  rw [engine?, ofEngines, List.getElem?_map, Option.map_map]
  exact Option.map_id'

theorem identities_setEngine {e' : Native} (he : r.engine? i = some e) (hid : e'.identity = e.identity) :
    (r.setEngine i e').identities = r.identities := by
  refine identities_of_engine? fun j => ?_
  rw [engine?_setEngine]
  split
  · subst_vars
    rw [he, Option.map_some, Option.map_some, Option.map_some, hid]
  · rfl

theorem identities_onDemand (r : Registry) (i : Nat) (f : Demand → Demand) :
    (r.onDemand i f).identities = r.identities := by
  refine List.ext_getElem? fun j => ?_
  simp only [identities, onDemand, List.getElem?_map, List.getElem?_modify]
  split <;> cases r.members[j]? <;> rfl

theorem identities_onAll (r : Registry) (f : Demand → Demand) :
    (r.onAll f).identities = r.identities := by
  rw [identities, onAll, List.map_map]
  rfl

theorem identities_get (r : Registry) (i : Nat) : (r.get i).identities = r.identities := by
  unfold get
  split
  · exact identities_onDemand ..
  · rfl

theorem identities_select (r : Registry) (tree : Files.Tree) (isMetered : Bool) :
    (r.select tree isMetered).2.identities = r.identities := by
  refine identities_of_engine? fun j => ?_
  rcases (firstUsable_rule tree isMetered r r.candidates).1 j with hj | hj
  · rw [select, hj]
  · rw [select, hj, Option.map_map]
    rfl

theorem identities_session (r : Registry) (tree : Files.Tree) (isMetered : Bool) :
    (r.session tree isMetered).2.identities = r.identities := by
  have h := r.identities_select tree isMetered
  unfold session
  split
  · rename_i i r' heq
    rw [heq] at h
    exact (identities_get r' i).trans h
  · rename_i r' heq
    rwa [heq] at h

end Registry

namespace Site

variable {s : Site} {i : Nat}

theorem identities_ask {α : Type} {f : Native → α × Native} (hf : ∀ e, (f e).2.identity = e.identity) :
    (s.ask i f).2.registry.identities = s.registry.identities := by
  unfold ask
  split
  · rfl
  · exact Registry.identities_setEngine ‹_› (hf _)

theorem identities_prepare (i : Nat) (settings : Settings) (tail : Identity.Tail) :
    (s.prepare i settings tail).2.registry.identities = s.registry.identities := by
  unfold prepare
  split
  · rfl
  · refine Registry.identities_setEngine ‹_› ?_
    rw [Native.engine_prepare]
    rfl

theorem identities_step (a : Act) : (s.step a).2.registry.identities = s.registry.identities := by
  cases a with
  | watch i => exact identities_ask (f := (·.isSupported s.host.tree)) fun _ => rfl
  | test i => exact identities_ask (f := (·.testConnection s.host.tree)) fun _ => rfl
  | configure i f => exact identities_ask (f := fun e => ((), _)) fun _ => rfl
  | exchange i library => exact identities_ask (f := fun e => ((), _)) fun _ => rfl
  | create i settings tail construct => exact identities_prepare i settings tail
  | select isMetered => exact Registry.identities_select ..
  | onFiles | setProxy => rfl

theorem identities_take (t : Turn) : (s.take t).registry.identities = s.registry.identities := by
  cases t with
  | act a => exact identities_step a
  | get i => exact Registry.identities_get ..
  | session isMetered => exact Registry.identities_session ..
  | drop | deliver | conclude | tearDown | close => exact Registry.identities_onDemand ..
  | cancel => exact Registry.identities_onAll ..
  | shutDown => exact (Registry.identities_onAll ..).trans (Registry.identities_onAll ..)

/-- No turn changes who the engines are. -/
theorem identities_afterTurns (host : Host) (engines : List Native) (turns : List Turn) :
    ((ofEngines host engines).afterTurns turns).registry.identities =
      (Registry.ofEngines engines).identities := by
  suffices h : ∀ s : Site, (s.afterTurns turns).registry.identities = s.registry.identities from
    h (ofEngines host engines)
  intro s
  induction turns generalizing s with
  | nil => rfl
  | cons t turns ih => exact (ih (s.take t)).trans (identities_take t)

end Site

/-! ## The first of each kind -/

namespace Registry

variable {r r' : Registry} {i j : Nat} {e : Native}

theorem lt_length_of_engine? (he : r.engine? i = some e) : i < r.members.length := by
  obtain ⟨m, hm, -⟩ := Option.map_eq_some_iff.mp he
  exact (List.getElem?_eq_some_iff.mp hm).1

/-- An engine is registered if none before it is of its kind. -/
theorem isRegistered_iff : r.isRegistered i = true ↔
    ∃ e, r.engine? i = some e ∧ ∀ j < i, ∀ f, r.engine? j = some f → f.kind ≠ e.kind := by
  unfold isRegistered
  cases hm : r.members[i]? with
  | none => simp [engine?, hm]
  | some m =>
      simp only [engine?, hm, Option.map_some, Option.some.injEq, exists_eq_left', Bool.not_eq_true',
        List.any_eq_false, List.mem_take_iff_getElem, decide_eq_true_eq]
      constructor
      · intro h j hj f hf
        obtain ⟨m', hm', rfl⟩ := Option.map_eq_some_iff.mp hf
        obtain ⟨hlt, rfl⟩ := List.getElem?_eq_some_iff.mp hm'
        exact h _ ⟨j, by omega, rfl⟩
      · rintro h _ ⟨j, hj, rfl⟩
        exact h j (by omega) _ (by rw [List.getElem?_eq_getElem (by omega)]; rfl)

theorem mem_registered : i ∈ r.registered ↔
    ∃ e, r.engine? i = some e ∧ ∀ j < i, ∀ f, r.engine? j = some f → f.kind ≠ e.kind := by
  rw [registered, List.mem_filter, isRegistered_iff, List.mem_range]
  refine ⟨And.right, fun h => ⟨?_, h⟩⟩
  obtain ⟨e, he, -⟩ := h
  exact lt_length_of_engine? he

theorem mem_registered_of_identities (h : r'.identities = r.identities) (hi : i ∈ r.registered) :
    i ∈ r'.registered := by
  obtain ⟨e, he, hfirst⟩ := mem_registered.mp hi
  obtain ⟨e', he', hk, -⟩ := engine?_of_identities h he
  refine mem_registered.mpr ⟨e', he', fun j hj f' hf' => ?_⟩
  obtain ⟨f, hf, hfk, -⟩ := engine?_of_identities h.symm hf'
  rw [← hfk, hk]
  exact hfirst j hj f hf

/-- The registered engines are listed in the order in which they were given. -/
theorem pairwise_registered (r : Registry) : r.registered.Pairwise (· < ·) :=
  List.pairwise_lt_range.filter _

/-- A further engine is registered unless there is one of its kind. -/
theorem registered_concat (ms : List Member) (m : Member) :
    registered ⟨ms ++ [m]⟩ =
      registered ⟨ms⟩ ++ if ms.any (·.engine.kind = m.engine.kind) then [] else [ms.length] := by
  have hold : ∀ i ∈ List.range ms.length, isRegistered ⟨ms ++ [m]⟩ i = isRegistered ⟨ms⟩ i := by
    intro i hi
    have hlt := List.mem_range.mp hi
    simp only [isRegistered, List.getElem?_append_left hlt, List.take_append_of_le_length (Nat.le_of_lt hlt)]
  rw [registered, List.length_append, List.length_singleton, List.range_succ, List.filter_append,
    List.filter_congr hold]
  congr 1
  cases h : ms.any (·.engine.kind = m.engine.kind) <;> simp [isRegistered, h]

/-- The kinds are those of all engines, each once. -/
theorem kinds_eq (r : Registry) : r.kinds = (r.members.map (·.engine.kind)).eraseDups := by
  obtain ⟨ms⟩ := r
  induction ms using List.reverseRecOn with
  | nil => rfl
  | append_singleton ms m ih =>
      have hold : ∀ i ∈ registered ⟨ms⟩, engine? ⟨ms ++ [m]⟩ i = engine? ⟨ms⟩ i := by
        intro i hi
        obtain ⟨e, he, -⟩ := mem_registered.mp hi
        rw [engine?, List.getElem?_append_left (lt_length_of_engine? he), engine?]
      have hkinds : ((registered ⟨ms⟩).filterMap (engine? ⟨ms ++ [m]⟩)).map (·.kind) =
          (ms.map (·.engine.kind)).eraseDups := by
        rw [List.filterMap_congr hold]
        exact ih
      rw [kinds, registered_concat, List.filterMap_append, List.map_append, hkinds, List.map_append,
        List.eraseDups_append]
      congr 1
      cases h : ms.any (·.engine.kind = m.engine.kind) <;>
        simp_all [engine?, List.removeAll, List.eraseDups_cons]

/-- Of a kind there is at most one registered engine. -/
theorem registered_unique {f : Native} (hi : i ∈ r.registered) (hj : j ∈ r.registered)
    (he : r.engine? i = some e) (hf : r.engine? j = some f) (hk : e.kind = f.kind) : i = j := by
  obtain ⟨e', he', hei⟩ := mem_registered.mp hi
  obtain ⟨f', hf', hfj⟩ := mem_registered.mp hj
  cases he.symm.trans he'
  cases hf.symm.trans hf'
  rcases Nat.lt_trichotomy i j with h | h | h
  · exact absurd hk (hfj i h e he)
  · exact h
  · exact absurd hk.symm (hei j h f hf)

/-- A kind leads to its registered engine. -/
theorem ofKind?_eq_some_iff {kind : Kind} :
    r.ofKind? kind = some i ↔ i ∈ r.registered ∧ (r.engine? i).map (·.kind) = some kind := by
  constructor
  · intro h
    exact ⟨List.mem_of_find?_eq_some h, by simpa using List.find?_some h⟩
  · rintro ⟨hi, hk⟩
    obtain ⟨e, he, rfl⟩ := Option.map_eq_some_iff.mp hk
    cases hfound : r.ofKind? e.kind with
    | none => simpa [he] using List.find?_eq_none.mp hfound i hi
    | some j =>
        obtain ⟨f, hf, hfk⟩ := Option.map_eq_some_iff.mp (by simpa using List.find?_some hfound)
        rw [registered_unique hi (List.mem_of_find?_eq_some hfound) he hf hfk.symm]

end Registry

end Swarmkeeper.Engine
