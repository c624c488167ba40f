import Swarmkeeper.Engine.Turns
import Swarmkeeper.Proofs.Engine.Loading
import Swarmkeeper.Proofs.Engine.Withdrawal

/-!
# After the shutdown

What a turn does to one cache is one of a few deeds, none of which leaves anybody with a session on their
hands. So when all caches have been shut down every session is closed, and nothing that comes later gives
one that is open.
-/

namespace Swarmkeeper.Engine

/-! ## Deeds -/

namespace Demand

/-- What can be done to a cache and its getters without a pause. -/
inductive Deed (d : Demand) : Demand → Prop where
  | stay : Deed d d
  | get (settings : Settings) : Deed d (d.get settings)
  | drop (getter : Nat) : Deed d (d.drop getter)
  | deliver (getter : Nat) : Deed d (d.deliver getter)
  | conclude (generation : Nat) (result : Except Fault Nat) : Deed d (d.conclude generation result)
  | cancel : Deed d (d.step .cancel)
  | tearDown : Deed d d.tearDown
  | shutDown : Deed d d.shutDown
  | cancelShutDown : Deed d (d.step .cancel).shutDown

variable {d d' : Demand} {kind : Kind}

theorem tearDown_events (d : Demand) : ∃ events : List Event, d.tearDown = events.foldl step d := by
  unfold tearDown
  split
  · exact ⟨_, rfl⟩
  · exact ⟨[.vacate], rfl⟩

theorem shutDown_events (d : Demand) : ∃ events : List Event, d.shutDown = events.foldl step d := by
  obtain ⟨events, h⟩ := tearDown_events (d.step .cancel)
  exact ⟨.cancel :: events, h⟩

/-- A deed is a run of events at the cache. -/
theorem Deed.events (h : d.Deed d') : ∃ events : List Event, d' = events.foldl step d := by
  cases h with
  | stay => exact ⟨[], rfl⟩
  | get settings => exact ⟨_, rfl⟩
  | drop getter => exact ⟨[.drop getter], rfl⟩
  | deliver getter => exact ⟨[.deliver getter], rfl⟩
  | conclude generation result =>
      cases result with
      | ok session => exact ⟨_, rfl⟩
      | error fault => exact ⟨[.finish generation (.error fault)], rfl⟩
  | cancel => exact ⟨[.cancel], rfl⟩
  | tearDown => exact tearDown_events d
  | shutDown => exact shutDown_events d
  | cancelShutDown =>
      obtain ⟨events, h⟩ := shutDown_events (d.step .cancel)
      exact ⟨.cancel :: events, h⟩

/-! ## Nobody is left with a session -/

theorem discarded_tearDown (hd : d.cache.discarded = []) : d.tearDown.cache.discarded = [] := by
  unfold tearDown
  cases hs : d.cache.slot <;> cases hc : d.cache.isCancelled <;>
    simp [step, onCache, Cache.vacate, Cache.dispose, hs, hc, hd]

theorem discarded_conclude (hd : d.cache.discarded = []) (g : Nat) (result : Except Fault Nat) :
    (d.conclude g result).cache.discarded = [] := by
  cases hu : d.cache.isUnderWay g with
  | false => cases result <;> simp [conclude, step, onCache, Cache.finish, Cache.dispose, hu, hd]
  | true =>
      cases result with
      | error fault =>
          by_cases hs : d.cache.slot = .building g <;>
            simp [conclude, step, onCache, Cache.finish, Cache.settle, hu, hs, hd]
      | ok session =>
          by_cases hs : d.cache.slot = .building g <;>
            simp [conclude, step, onCache, Cache.finish, Cache.settle, Cache.dispose, hu, hs, hd]

theorem discarded_get (d : Demand) (settings : Settings) :
    (d.get settings).cache.discarded = d.cache.discarded := by
  rw [get_cache, Cache.get]
  cases d.cache.isCancelled <;> cases hs : d.cache.slot <;> simp [Cache.supply, hs]

/-- After a deed nobody is left with a session to close. -/
theorem Deed.discarded (h : d.Deed d') (hd : d.cache.discarded = []) : d'.cache.discarded = [] := by
  cases h with
  | stay | cancel => exact hd
  | get settings => rw [discarded_get, hd]
  | drop getter =>
      unfold Demand.drop
      split <;> exact hd
  | deliver getter =>
      unfold Demand.deliver
      split
      · split <;> exact hd
      · exact hd
  | conclude g result => exact discarded_conclude hd g result
  | tearDown => exact discarded_tearDown hd
  | shutDown | cancelShutDown => exact discarded_tearDown hd

theorem slot_shutDown (d : Demand) : d.shutDown.cache.slot = .closed := by
  have hv : ((d.step .cancel).step .vacate).cache.slot = .closed := by
    simp [step, onCache, Cache.cancel, Cache.vacate]
  unfold shutDown tearDown
  split
  · exact (dispose_rule _ _ _).slot_closed hv
  · exact hv

/-! ## Caches in a run of turns -/

/-- The cache of an engine of this kind in a run of turns. -/
structure Orderly (kind : Kind) (d : Demand) : Prop where
  events : ∃ events, d = after kind events
  discarded : d.cache.discarded = []

theorem Orderly.ofKind (kind : Kind) : Orderly kind (ofKind kind) := ⟨⟨[], rfl⟩, rfl⟩

/-- An orderly cache stays orderly. -/
theorem Orderly.deed (hd : Orderly kind d) (h : d.Deed d') : Orderly kind d' := by
  obtain ⟨⟨events, rfl⟩, hdiscarded⟩ := hd
  obtain ⟨more, rfl⟩ := h.events
  exact ⟨⟨events ++ more, (after_append kind events more).symm⟩, h.discarded hdiscarded⟩

/-- A cache that was shut down in a run of turns. -/
structure Closed (kind : Kind) (d : Demand) : Prop extends Orderly kind d where
  slot : d.cache.slot = .closed

/-- The shutdown closes an orderly cache. -/
theorem Orderly.cancelShutDown (hd : Orderly kind d) : Closed kind (d.step .cancel).shutDown :=
  ⟨hd.deed .cancelShutDown, slot_shutDown _⟩

namespace Closed

/-- A closed cache stays closed. -/
theorem deed (hd : Closed kind d) (h : d.Deed d') : Closed kind d' := by
  refine ⟨hd.toOrderly.deed h, ?_⟩
  obtain ⟨events, rfl⟩ := h.events
  exact foldl_step_induction (P := fun d => d.cache.slot = .closed) hd.slot (fun h hs => h.slot_closed hs)
    events

theorem peek (hd : Closed kind d) : d.cache.peek = none := by simp [Cache.peek, hd.slot]

theorem get (hd : Closed kind d) (settings : Settings) :
    (d.get settings).result? d.getters.length = some (.error (.closed kind)) := by
  obtain ⟨⟨⟨events, rfl⟩, -⟩, hs⟩ := hd
  simp [Demand.get, step, arrive, enter, isCancelled_of_closed hs, result?, kind_after]

/-- Whatever was given, or is given later, is closed. -/
theorem count_closings (hd : Closed kind d) {getter t : Nat} (hg : d.result? getter = some (.ok t)) :
    d.cache.closings.count t = 1 := by
  have hplaces : d.cache.places = d.cache.closings := by
    simp [Cache.places, hd.peek, hd.discarded]
  obtain ⟨⟨⟨events, rfl⟩, -⟩, -⟩ := hd
  have hcount := (places_after kind events).count_eq t
  rw [hplaces] at hcount
  rw [hcount]
  refine Nat.le_antisymm ?_ (List.count_pos_iff.mpr (given_after (returned_of_result? hg)))
  exact Nat.le_trans List.count_le_length (tells_after kind events).length_sessions_le_one

end Closed

end Demand

/-! ## What a turn does to a cache -/

namespace Registry

variable {r r' : Registry} {i j : Nat}

@[simp] theorem demand?_setEngine (r : Registry) (i j : Nat) (e : Native) :
    (r.setEngine i e).demand? j = r.demand? j := by
  simp only [demand?, setEngine, List.getElem?_modify]
  split <;> cases r.members[j]? <;> rfl

theorem demand?_onDemand (r : Registry) (i j : Nat) (f : Demand → Demand) :
    (r.onDemand i f).demand? j = if i = j then (r.demand? j).map f else r.demand? j := by
  simp only [demand?, onDemand, List.getElem?_modify]
  split <;> cases r.members[j]? <;> rfl

theorem demand?_onAll (r : Registry) (j : Nat) (f : Demand → Demand) :
    (r.onAll f).demand? j = (r.demand? j).map f := by
  simp only [demand?, onAll, List.getElem?_map]
  cases r.members[j]? <;> rfl

theorem demand?_firstUsable (tree : Files.Tree) (isMetered : Bool) (r : Registry) (is : List Nat) :
    (firstUsable tree isMetered r is).2.demand? j = r.demand? j := by
  induction is generalizing r with
  | nil => rfl
  | cons i rest ih =>
      simp only [firstUsable]
      split
      · exact ih r
      · split
        · split
          · exact demand?_setEngine ..
          · rw [ih, demand?_setEngine]
        · exact ih r

theorem demand?_select (r : Registry) (tree : Files.Tree) (isMetered : Bool) (j : Nat) :
    (r.select tree isMetered).2.demand? j = r.demand? j := demand?_firstUsable ..

/-- Each cache is as it was or as one of the deeds leaves it. -/
def Does (r r' : Registry) : Prop := ∀ j, Option.Rel Demand.Deed (r.demand? j) (r'.demand? j)

theorem does_of_eq (h : ∀ j, r'.demand? j = r.demand? j) : r.Does r' := by
  intro j
  rw [h j]
  cases r.demand? j with
  | none => exact .none
  | some d => exact .some .stay

theorem does_onDemand {f : Demand → Demand} (hf : ∀ d : Demand, d.Deed (f d)) (i : Nat) :
    r.Does (r.onDemand i f) := by
  intro j
  rw [demand?_onDemand]
  cases r.demand? j with
  | none => simp
  | some d =>
      split
      · exact .some (hf d)
      · exact .some .stay

theorem does_onAll {f : Demand → Demand} (hf : ∀ d : Demand, d.Deed (f d)) : r.Does (r.onAll f) := by
  intro j
  rw [demand?_onAll]
  cases r.demand? j with
  | none => exact .none
  | some d => exact .some (hf d)

theorem shutDown_eq (r : Registry) : r.shutDown = r.onAll fun d => (d.step .cancel).shutDown := by
  simp [shutDown, cancel, onAll, Function.comp_def]

theorem exists_demand? {e : Native} (he : r.engine? i = some e) : ∃ d, r.demand? i = some d := by
  obtain ⟨m, hm, -⟩ := Option.map_eq_some_iff.mp he
  exact ⟨m.demand, by simp [demand?, hm]⟩

theorem getNow?_eq {d : Demand} (hd : r.demand? i = some d) :
    ∃ settings, r.getNow? i = (d.get settings).result? d.getters.length := by
  obtain ⟨m, hm, -⟩ := Option.map_eq_some_iff.mp hd
  have he : r.engine? i = some m.engine := by simp [engine?, hm]
  refine ⟨m.engine.settings.value, ?_⟩
  simp [getNow?, get, he, demand?_onDemand, hd]

theorem does_get (r : Registry) (i : Nat) : r.Does (r.get i) := by
  unfold get
  split
  · exact does_onDemand (fun _ => .get _) i
  · exact does_of_eq fun _ => rfl

/-- To ask for any session does a deed at some caches. -/
theorem does_session (r : Registry) (tree : Files.Tree) (isMetered : Bool) :
    r.Does (r.session tree isMetered).2 := by
  have hsel := r.demand?_select tree isMetered
  unfold session
  split
  · rename_i i r' h
    rw [h] at hsel
    intro j
    rw [← hsel j]
    exact does_get r' i j
  · rename_i h
    rw [h] at hsel
    exact does_of_eq hsel

end Registry

namespace Site

variable {s : Site} {j : Nat} {d : Demand} {engines : List Native}

theorem demand?_ask {α : Type} (i : Nat) (f : Native → α × Native) :
    (s.ask i f).2.registry.demand? j = s.registry.demand? j := by
  unfold ask
  split
  · rfl
  · exact Registry.demand?_setEngine ..

theorem demand?_prepare (i : Nat) (settings : Settings) (tail : Identity.Tail) :
    (s.prepare i settings tail).2.registry.demand? j = s.registry.demand? j := by
  unfold prepare
  split
  · rfl
  · exact Registry.demand?_setEngine ..

theorem demand?_step (a : Act) : (s.step a).2.registry.demand? j = s.registry.demand? j := by
  cases a with
  | watch i => exact demand?_ask i (·.isSupported _)
  | test i => exact demand?_ask i (·.testConnection _)
  | create i settings tail construct => exact demand?_prepare i settings tail
  | select isMetered => exact Registry.demand?_firstUsable ..
  | configure i f => exact demand?_ask i _
  | exchange i library => exact demand?_ask i _
  | onFiles | setProxy => rfl

/-- Every turn does one of the deeds to each cache. -/
theorem does_take (s : Site) (t : Turn) : s.registry.Does (s.take t).registry := by
  cases t with
  | act a => exact Registry.does_of_eq fun _ => demand?_step a
  | get i => exact Registry.does_get _ i
  | session isMetered => exact Registry.does_session _ _ isMetered
  | drop i getter => exact Registry.does_onDemand (fun _ => .drop getter) i
  | deliver i getter => exact Registry.does_onDemand (fun _ => .deliver getter) i
  | conclude i g result => exact Registry.does_onDemand (fun _ => .conclude g result) i
  | tearDown i => exact Registry.does_onDemand (fun _ => .tearDown) i
  | close i => exact Registry.does_onDemand (fun _ => .shutDown) i
  | cancel => exact Registry.does_onAll fun _ => .cancel
  | shutDown =>
      rw [take, onAll, Registry.shutDown_eq]
      exact Registry.does_onAll fun _ => .cancelShutDown

/-! ## Runs -/

/-- There is a cache for each of these engines, and this holds of it. -/
def Has (s : Site) (engines : List Native) (P : Kind → Demand → Prop) : Prop :=
  ∀ i, Option.Rel (fun e d => P e.kind d) engines[i]? (s.registry.demand? i)

variable {P Q : Kind → Demand → Prop} {turns more : List Turn}

/-- What deeds make of the caches they make of a site. -/
theorem Has.does {s' : Site} (h : s.Has engines P) (hs : s.registry.Does s'.registry)
    (hP : ∀ {kind d d'}, d.Deed d' → P kind d → Q kind d') : s'.Has engines Q := by
  intro i
  have hi := h i
  have hs := hs i
  generalize engines[i]? = e?, s.registry.demand? i = d?, s'.registry.demand? i = d'? at hi hs
  cases hi with
  | none =>
      cases hs with
      | none => exact .none
  | some hp =>
      cases hs with
      | some hd => exact .some (hP hd hp)

/-- What every deed keeps is kept by any turns. -/
theorem Has.afterTurns (h : s.Has engines P) (hP : ∀ {kind d d'}, d.Deed d' → P kind d → P kind d')
    (turns : List Turn) : (s.afterTurns turns).Has engines P := by
  induction turns generalizing s with
  | nil => exact h
  | cons t turns ih => exact ih (h.does (does_take s t) hP)

theorem Has.exists (h : s.Has engines P) {i : Nat} (hd : s.registry.demand? i = some d) :
    ∃ e, engines[i]? = some e ∧ P e.kind d := by
  have hi := h i
  rw [hd] at hi
  generalize engines[i]? = e? at hi
  cases hi with
  | some hp => exact ⟨_, rfl, hp⟩

theorem Has.demand? (h : s.Has engines P) {i : Nat} {e : Native} (he : engines[i]? = some e) :
    ∃ d, s.registry.demand? i = some d := by
  have hi := h i
  rw [he] at hi
  generalize s.registry.demand? i = d? at hi ⊢
  cases hi with
  | some _ => exact ⟨_, rfl⟩

theorem orderly_afterTurns (host : Host) (engines : List Native) (turns : List Turn) :
    ((ofEngines host engines).afterTurns turns).Has engines Demand.Orderly := by
  refine Has.afterTurns (fun i => ?_) (fun h hd => hd.deed h) turns
  simp only [ofEngines, Registry.demand?, Registry.ofEngines, List.getElem?_map, Option.map_map]
  cases engines[i]? with
  | none => exact .none
  | some e => exact .some (.ofKind _)

theorem Has.shutDown (h : s.Has engines Demand.Orderly) :
    (s.take .shutDown).Has engines Demand.Closed := by
  intro i
  have hi := h i
  rw [take, onAll, Registry.shutDown_eq, Registry.demand?_onAll]
  generalize engines[i]? = e?, s.registry.demand? i = d? at hi
  cases hi with
  | none => exact .none
  | some ho => exact .some ho.cancelShutDown

/-- After a shutdown all caches are closed, whatever came before and comes later. -/
theorem closed_afterTurns (host : Host) (engines : List Native) (turns more : List Turn) :
    ((ofEngines host engines).afterTurns (turns ++ .shutDown :: more)).Has engines Demand.Closed := by
  rw [afterTurns, List.foldl_append]
  exact (orderly_afterTurns host engines turns).shutDown.afterTurns (fun h hd => hd.deed h) more

theorem Has.getNow? (h : s.Has engines Demand.Closed) {i : Nat} (hd : s.registry.demand? i = some d) :
    ∃ e, engines[i]? = some e ∧ s.registry.getNow? i = some (.error (.closed e.kind)) := by
  obtain ⟨e, he, hc⟩ := h.exists hd
  obtain ⟨settings, hget⟩ := Registry.getNow?_eq hd
  exact ⟨e, he, hget.trans (hc.get settings)⟩

theorem Has.sessionNow? (h : s.Has engines Demand.Closed) (tree : Files.Tree) (isMetered : Bool) :
    s.registry.sessionNow? tree isMetered = some (.error .noEngine) ∨
      ∃ e ∈ engines, s.registry.sessionNow? tree isMetered = some (.error (.closed e.kind)) := by
  have hsel (j : Nat) := s.registry.demand?_select tree isMetered j
  have husable := (Registry.firstUsable_rule tree isMetered s.registry s.registry.candidates).2
  rw [← Registry.select] at husable
  unfold Registry.sessionNow?
  generalize s.registry.select tree isMetered = sel at hsel husable
  obtain ⟨i?, r⟩ := sel
  cases i? with
  | none => exact .inl rfl
  | some i =>
      have h' : Has { s with registry := r } engines Demand.Closed :=
        h.does (Registry.does_of_eq hsel) fun h hd => hd.deed h
      obtain ⟨u, hu, -⟩ := husable i rfl
      obtain ⟨d, hd⟩ := Registry.exists_demand? hu
      obtain ⟨e, he, hget⟩ := h'.getNow? hd
      exact .inr ⟨e, List.mem_of_getElem? he, hget⟩

/-- A site whose caches have all been shut down. -/
structure ShutDown (engines : List Native) (s : Site) : Prop where
  /-- Whatever a cache has given by now is closed. -/
  closed : ∀ i d getter t, s.registry.demand? i = some d → d.result? getter = some (.ok t) →
    d.cache.closings.count t = 1
  refused : ∀ i e, engines[i]? = some e → s.registry.getNow? i = some (.error (.closed e.kind))
  hidden : ∀ i, s.registry.peek i = none
  session : ∀ tree isMetered,
    s.registry.sessionNow? tree isMetered = some (.error .noEngine) ∨
      ∃ e ∈ engines, s.registry.sessionNow? tree isMetered = some (.error (.closed e.kind))

/-- Whatever was going on before, and whatever goes on afterwards. -/
theorem shut_down (host : Host) (engines : List Native) (turns more : List Turn) :
    ShutDown engines ((ofEngines host engines).afterTurns (turns ++ .shutDown :: more)) := by
  have h := closed_afterTurns host engines turns more
  generalize (ofEngines host engines).afterTurns (turns ++ .shutDown :: more) = s at h
  refine {
    closed := fun i d getter t hd hg => ?_
    refused := fun i e he => ?_
    hidden := fun i => ?_
    session := h.sessionNow? }
  · obtain ⟨e, -, hc⟩ := h.exists hd
    exact hc.count_closings hg
  · obtain ⟨d, hd⟩ := h.demand? he
    obtain ⟨e', he', hget⟩ := h.getNow? hd
    rw [he] at he'
    cases he'
    exact hget
  · unfold Registry.peek
    cases hd : s.registry.demand? i with
    | none => rfl
    | some d =>
        obtain ⟨e, -, hc⟩ := h.exists hd
        exact hc.peek

end Site

end Swarmkeeper.Engine
