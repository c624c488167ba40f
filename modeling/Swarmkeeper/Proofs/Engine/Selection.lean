import Swarmkeeper.Proofs.Engine.Registration
import Swarmkeeper.Simulation.EngineScene

/-!
# A choice among engines

Of the registered engines the first that can be used is chosen, engines on this machine before remote ones.
The search settles the engines that it comes to as far as they may be used, and no others: no library is
loaded on which the choice does not depend.
-/

namespace Swarmkeeper.Engine

/-! ## Engines that can be used -/

namespace Native

variable {e : Native} {tree : Files.Tree} {isMetered : Bool}

/-- The engine may be used. -/
structure Allowed (isMetered : Bool) (e : Native) : Prop where
  enabled : e.settings.value.enabled = true
  notRemote : isMetered = true → e.location ≠ .remote

/-- The engine may be used, and its library can be loaded. -/
structure Usable (tree : Files.Tree) (isMetered : Bool) (e : Native) : Prop
    extends Allowed isMetered e where
  supported : e.verdict tree = .ok ()

theorem isAllowed_iff : Registry.isAllowed isMetered e = true ↔ e.Allowed isMetered := by
  constructor
  · intro h
    simp only [Registry.isAllowed, Bool.and_eq_true, Bool.not_eq_true', Bool.and_eq_false_iff,
      decide_eq_false_iff_not] at h
    exact ⟨h.1, fun hm => h.2.resolve_left (by simp [hm])⟩
  · rintro ⟨he, hr⟩
    cases isMetered <;> simp_all [Registry.isAllowed]

theorem verdict_settled (e : Native) (tree : Files.Tree) :
    (e.settled tree).verdict tree = e.verdict tree := verdict_of_some (outcome_settled e tree)

theorem isOk_verdict_iff : (e.verdict tree).isOk = true ↔ e.verdict tree = .ok () := by
  cases e.verdict tree with
  | error f => simp [Except.isOk, Except.toBool]
  | ok u => simp [Except.isOk, Except.toBool]

/-- To settle an engine does not change whether it can be used. -/
theorem usable_settled : (e.settled tree).Usable tree isMetered ↔ e.Usable tree isMetered := by
  constructor
  · rintro ⟨⟨he, hr⟩, hs⟩
    exact ⟨⟨he, hr⟩, verdict_settled e tree ▸ hs⟩
  · rintro ⟨⟨he, hr⟩, hs⟩
    exact ⟨⟨he, hr⟩, (verdict_settled e tree).trans hs⟩

theorem loads_settled (e : Native) (tree : Files.Tree) :
    (e.settled tree).loader.loads =
      if e.loader.outcome = none then e.loader.loads + 1 else e.loader.loads := by
  rw [loader_settled]
  cases h : e.loader.outcome <;> simp [Loader.ensure, h]

end Native

namespace Registry

variable {r r₁ r' : Registry} {tree : Files.Tree} {isMetered : Bool} {i j : Nat} {e f : Native}

/-- The engine with this number can be used. -/
def CanUse (r : Registry) (tree : Files.Tree) (isMetered : Bool) (i : Nat) : Prop :=
  ∃ e, r.engine? i = some e ∧ e.Usable tree isMetered

theorem canUse_of_engine? (he : r.engine? i = some e) :
    r.CanUse tree isMetered i ↔ e.Usable tree isMetered := by
  simp [CanUse, he]

theorem canUse_setEngine_settled (he : r.engine? i = some e) :
    (r.setEngine i (e.settled tree)).CanUse tree isMetered j ↔ r.CanUse tree isMetered j := by
  simp only [CanUse, engine?_setEngine]
  split
  · subst_vars
    simp [he, Native.usable_settled]
  · rfl

/-! ## The search -/

/-- What a search among these engines, of which each precedes those after it, has come to. -/
structure Searched (tree : Files.Tree) (isMetered : Bool) (precedes : Nat → Nat → Prop) (is : List Nat)
    (r r' : Registry) (chosen : Option Nat) : Prop where
  found : ∀ i, chosen = some i → i ∈ is ∧ r.CanUse tree isMetered i ∧
    ∀ k ∈ is, precedes k i → ¬ r.CanUse tree isMetered k
  missed : chosen = none → ∀ k ∈ is, ¬ r.CanUse tree isMetered k
  /-- An engine that may be used is asked whether it can, unless an earlier one is chosen. -/
  asked : ∀ j e, r.engine? j = some e → j ∈ is → e.Allowed isMetered →
    (∀ k ∈ is, precedes k j → ¬ r.CanUse tree isMetered k) → r'.engine? j = some (e.settled tree)
  /-- The others are left alone. -/
  spared : ∀ j e, r.engine? j = some e →
    (j ∉ is ∨ ¬ e.Allowed isMetered ∨ ∃ k ∈ is, precedes k j ∧ r.CanUse tree isMetered k) →
      r'.engine? j = some e

section Search

variable {precedes : Nat → Nat → Prop} {is : List Nat} {chosen : Option Nat}

/-- The search goes on behind an engine that cannot be used. -/
theorem Searched.cons (h : Searched tree isMetered precedes is r₁ r' chosen)
    (hasymm : ∀ a b, precedes a b → ¬ precedes b a) (hfirst : ∀ k ∈ is, precedes i k)
    (hno : ¬ r.CanUse tree isMetered i)
    (hcan : ∀ k, r₁.CanUse tree isMetered k ↔ r.CanUse tree isMetered k)
    (hother : ∀ j, i ≠ j → r₁.engine? j = r.engine? j)
    (hallowed : ∀ e, r.engine? i = some e → e.Allowed isMetered →
      r₁.engine? i = some (e.settled tree))
    (hforbidden : ∀ e, r.engine? i = some e → ¬ e.Allowed isMetered →
      r₁.engine? i = some e) :
    Searched tree isMetered precedes (i :: is) r r' chosen := by
  have hirrefl (a : Nat) : ¬ precedes a a := fun h => hasymm a a h h
  have hi : i ∉ is := fun hi => hirrefl i (hfirst i hi)
  constructor
  · intro k hk
    obtain ⟨hmem, huse, hbefore⟩ := h.found k hk
    refine ⟨List.mem_cons_of_mem i hmem, (hcan k).mp huse, fun m hm hmk => ?_⟩
    rcases List.mem_cons.mp hm with rfl | hm
    · exact hno
    · exact fun hu => hbefore m hm hmk ((hcan m).mpr hu)
  · intro hc k hk
    rcases List.mem_cons.mp hk with rfl | hk
    · exact hno
    · exact fun hu => h.missed hc k hk ((hcan k).mpr hu)
  · intro j e he hj ha hbefore
    rcases List.mem_cons.mp hj with rfl | hj
    · exact h.spared _ _ (hallowed e he ha) (.inl hi)
    · have hij : i ≠ j := fun hij => hirrefl i (hij ▸ hfirst j hj)
      exact h.asked j e ((hother j hij).trans he) hj ha fun k hk hkj hu =>
        hbefore k (List.mem_cons_of_mem i hk) hkj ((hcan k).mp hu)
  · intro j e he hwhy
    by_cases hij : i = j
    · subst hij
      refine h.spared _ _ (hforbidden e he ?_) (.inl hi)
      rcases hwhy with hnot | hnot | ⟨k, hk, hki, -⟩
      · exact absurd List.mem_cons_self hnot
      · exact hnot
      · rcases List.mem_cons.mp hk with rfl | hk
        · exact absurd hki (hirrefl k)
        · exact absurd hki (hasymm i k (hfirst k hk))
    · refine h.spared j e ((hother j hij).trans he) ?_
      rcases hwhy with hnot | hnot | ⟨k, hk, hkj, hu⟩
      · exact .inl fun hj => hnot (List.mem_cons_of_mem i hj)
      · exact .inr (.inl hnot)
      · rcases List.mem_cons.mp hk with rfl | hk
        · exact absurd hu hno
        · exact .inr (.inr ⟨k, hk, hkj, (hcan k).mpr hu⟩)

/-- The search ends at the first engine that can be used. -/
theorem searched_found (hasymm : ∀ a b, precedes a b → ¬ precedes b a) (hfirst : ∀ k ∈ is, precedes i k)
    (he : r.engine? i = some e) (hu : e.Usable tree isMetered) :
    Searched tree isMetered precedes (i :: is) r (r.setEngine i (e.settled tree)) (some i) := by
  have hirrefl (a : Nat) : ¬ precedes a a := fun h => hasymm a a h h
  have huse : r.CanUse tree isMetered i := ⟨e, he, hu⟩
  constructor
  · rintro _ ⟨⟩
    refine ⟨List.mem_cons_self, huse, fun k hk hki => ?_⟩
    rcases List.mem_cons.mp hk with rfl | hk
    · exact absurd hki (hirrefl k)
    · exact absurd hki (hasymm i k (hfirst k hk))
  · rintro ⟨⟩
  · intro j f hf hj ha hbefore
    rcases List.mem_cons.mp hj with rfl | hj
    · cases he.symm.trans hf
      simp [engine?_setEngine, he]
    · exact absurd huse (hbefore i List.mem_cons_self (hfirst j hj))
  · intro j f hf hwhy
    have hij : i ≠ j := by
      rintro rfl
      cases he.symm.trans hf
      rcases hwhy with hnot | hnot | ⟨k, hk, hki, -⟩
      · exact hnot List.mem_cons_self
      · exact hnot hu.toAllowed
      · rcases List.mem_cons.mp hk with rfl | hk
        · exact hirrefl k hki
        · exact hasymm i k (hfirst k hk) hki
    rw [engine?_setEngine, if_neg hij, hf]

/-- A search along an order finds the first that can be used, and settles those that it passed. -/
theorem searched_firstUsable (hasymm : ∀ a b, precedes a b → ¬ precedes b a)
    (hsorted : is.Pairwise precedes) (r : Registry) :
    Searched tree isMetered precedes is r (firstUsable tree isMetered r is).2
      (firstUsable tree isMetered r is).1 := by
  induction is generalizing r with
  | nil => exact ⟨nofun, fun _ => by simp, fun _ _ _ h => (by cases h), fun _ _ he _ => he⟩
  | cons i is ih =>
      obtain ⟨hfirst, hrest⟩ := List.pairwise_cons.mp hsorted
      unfold firstUsable
      split
      · rename_i hnone
        exact (ih hrest r).cons hasymm hfirst (by simp [CanUse, hnone]) (fun _ => .rfl) (fun _ _ => rfl)
          (by simp [hnone]) (by simp [hnone])
      · rename_i e he
        simp only [Native.testConnection_eq]
        split
        · rename_i ha
          have ha := Native.isAllowed_iff.mp ha
          split
          · rename_i hok
            exact searched_found hasymm hfirst he ⟨ha, Native.isOk_verdict_iff.mp hok⟩
          · rename_i hbad
            refine (ih hrest _).cons hasymm hfirst ?_ (fun _ => canUse_setEngine_settled he)
              (fun j hij => by rw [engine?_setEngine, if_neg hij])
              (fun e' he' _ => ?_) (fun e' he' ha' => ?_)
            · rw [canUse_of_engine? he]
              exact fun hu => hbad (Native.isOk_verdict_iff.mpr hu.supported)
            · cases he.symm.trans he'
              simp [engine?_setEngine, he]
            · cases he.symm.trans he'
              exact absurd ha ha'
        · rename_i ha
          have ha : ¬ e.Allowed isMetered := fun h => ha (Native.isAllowed_iff.mpr h)
          refine (ih hrest r).cons hasymm hfirst ?_ (fun _ => .rfl) (fun _ _ => rfl)
            (fun e' he' ha' => ?_) (fun _ he' _ => he')
          · rw [canUse_of_engine? he]
            exact fun hu => ha hu.toAllowed
          · cases he.symm.trans he'
            exact absurd ha' ha

end Search

/-! ## The order of the candidates -/

/-- The first of these engines is preferred: it is on this machine and the other is not, or both are alike
and it was given first. -/
def Before (r : Registry) (i j : Nat) : Prop :=
  ∃ e f, r.engine? i = some e ∧ r.engine? j = some f ∧
    (e.location = .here ∧ f.location = .remote ∨ e.location = f.location ∧ i < j)

theorem before_iff (he : r.engine? i = some e) (hf : r.engine? j = some f) :
    r.Before i j ↔ e.location = .here ∧ f.location = .remote ∨ e.location = f.location ∧ i < j := by
  simp [Before, he, hf]

theorem Before.asymm (h : r.Before i j) : ¬ r.Before j i := by
  obtain ⟨e, f, he, hf, h⟩ := h
  rw [before_iff hf he]
  rcases h with ⟨h, h'⟩ | ⟨h, h'⟩
  · simp [h, h']
  · rintro (⟨hf, he⟩ | ⟨-, hlt⟩)
    · simp [he, hf] at h
    · exact Nat.lt_asymm h' hlt

theorem Before.trans {k : Nat} (h : r.Before i j) (h' : r.Before j k) : r.Before i k := by
  obtain ⟨e, f, he, hf, h⟩ := h
  obtain ⟨f', g, hf', hg, h'⟩ := h'
  cases hf.symm.trans hf'
  refine (before_iff he hg).mpr ?_
  rcases h with ⟨hl, hl'⟩ | ⟨hl, hlt⟩ <;> rcases h' with ⟨hm, hm'⟩ | ⟨hm, hlt'⟩
  · exact .inl ⟨hl, hm'⟩
  · exact .inl ⟨hl, hm.symm.trans hl'⟩
  · exact .inl ⟨hl.trans hm, hm'⟩
  · exact .inr ⟨hl.trans hm, Nat.lt_trans hlt hlt'⟩

/-- Of two engines one is before the other. -/
theorem before_or_before (he : r.engine? i = some e) (hf : r.engine? j = some f) (hij : i ≠ j) :
    r.Before i j ∨ r.Before j i := by
  rw [before_iff he hf, before_iff hf he]
  cases e.location <;> cases f.location <;> simp <;> omega

theorem mem_located {location : Location} : i ∈ r.located location ↔
    i ∈ r.registered ∧ (r.engine? i).map (·.location) = some location := by
  simp [located]

theorem mem_candidates : i ∈ r.candidates ↔ i ∈ r.registered := by
  rw [candidates, List.mem_append, mem_located, mem_located, ← and_or_left, and_iff_left_iff_imp]
  intro hi
  obtain ⟨e, he, -⟩ := mem_registered.mp hi
  rw [he]
  cases h : e.location <;> simp [h]

theorem pairwise_located (r : Registry) (location : Location) :
    (r.located location).Pairwise r.Before := by
  refine ((pairwise_registered r).filter _).imp_of_mem fun {i j} hi hj hlt => ?_
  obtain ⟨e, he, hel⟩ := Option.map_eq_some_iff.mp (mem_located.mp hi).2
  obtain ⟨f, hf, hfl⟩ := Option.map_eq_some_iff.mp (mem_located.mp hj).2
  exact (before_iff he hf).mpr (.inr ⟨hel.trans hfl.symm, hlt⟩)

/-- The candidates are in the order of the choice. -/
theorem pairwise_candidates (r : Registry) : r.candidates.Pairwise r.Before := by
  refine List.pairwise_append.mpr ⟨pairwise_located r .here, pairwise_located r .remote, ?_⟩
  intro i hi j hj
  obtain ⟨e, he, hel⟩ := Option.map_eq_some_iff.mp (mem_located.mp hi).2
  obtain ⟨f, hf, hfl⟩ := Option.map_eq_some_iff.mp (mem_located.mp hj).2
  exact (before_iff he hf).mpr (.inl ⟨hel, hfl⟩)

theorem searched_select (r : Registry) (tree : Files.Tree) (isMetered : Bool) :
    Searched tree isMetered r.Before r.candidates r (r.select tree isMetered).2
      (r.select tree isMetered).1 :=
  searched_firstUsable (fun _ _ h => h.asymm) (pairwise_candidates r) r

/-- None is chosen if and only if none can be used. -/
theorem select_eq_none_iff : (r.select tree isMetered).1 = none ↔
    ∀ i ∈ r.registered, ¬ r.CanUse tree isMetered i := by
  have h := searched_select r tree isMetered
  constructor
  · exact fun hc i hi => h.missed hc i (mem_candidates.mpr hi)
  · intro hno
    cases hc : (r.select tree isMetered).1 with
    | none => rfl
    | some i =>
        obtain ⟨hi, hu, -⟩ := h.found i hc
        exact absurd hu (hno i (mem_candidates.mp hi))

/-- The chosen one is the first that can be used. -/
theorem select_eq_some_iff : (r.select tree isMetered).1 = some i ↔
    i ∈ r.registered ∧ r.CanUse tree isMetered i ∧
      ∀ k ∈ r.registered, r.Before k i → ¬ r.CanUse tree isMetered k := by
  have h := searched_select r tree isMetered
  constructor
  · intro hc
    obtain ⟨hi, hu, hbefore⟩ := h.found i hc
    exact ⟨mem_candidates.mp hi, hu, fun k hk => hbefore k (mem_candidates.mpr hk)⟩
  · rintro ⟨hi, hu, hbefore⟩
    cases hc : (r.select tree isMetered).1 with
    | none => exact absurd hu (select_eq_none_iff.mp hc i hi)
    | some j =>
        obtain ⟨hj, hu', hbefore'⟩ := h.found j hc
        by_cases hij : j = i
        · rw [hij]
        · -- of two that can be used one is preferred, and the other is not chosen
          have ⟨e, he, _⟩ := hu
          have ⟨f, hf, _⟩ := hu'
          rcases before_or_before hf he hij with hji | hji
          · exact absurd hu' (hbefore j (mem_candidates.mp hj) hji)
          · exact absurd hu (hbefore' i (mem_candidates.mpr hi) hji)

end Registry

namespace Site

variable {s : Site} {engines : List Native} {isMetered : Bool}

/-- What a choice among these engines comes to at a site. -/
structure Selection [Pattern.Matcher] (engines : List Native) (s : Site) (isMetered : Bool) : Prop where
  /-- Of each kind the engine that was given first is registered, in the order of the engines, -/
  kinds : s.registry.kinds = (engines.map (·.kind)).eraseDups
  registered : ∀ i, i ∈ s.registry.registered ↔
    ∃ e, engines[i]? = some e ∧ ∀ j < i, ∀ f, engines[j]? = some f → f.kind ≠ e.kind
  sorted : s.registry.registered.Pairwise (· < ·)
  /-- and has its kind and its location for good. -/
  identity : ∀ i e, engines[i]? = some e →
    ∃ e', s.engine? i = some e' ∧ e'.kind = e.kind ∧ e'.location = e.location
  ofKind : ∀ kind i, s.registry.ofKind? kind = some i ↔
    i ∈ s.registry.registered ∧ ∃ e, engines[i]? = some e ∧ e.kind = kind
  /-- The preferred one of those that can be used is chosen, -/
  chosen : ∀ i, (s.select isMetered).1 = some i ↔
    i ∈ s.registry.registered ∧ s.registry.CanUse s.host.tree isMetered i ∧
      ∀ k ∈ s.registry.registered, s.registry.Before k i → ¬ s.registry.CanUse s.host.tree isMetered k
  /-- and none only if none can be used. -/
  none : (s.select isMetered).1 = none ↔
    ∀ i ∈ s.registry.registered, ¬ s.registry.CanUse s.host.tree isMetered i
  /-- An engine that may be used is asked whether it can, unless another one before it is chosen. -/
  asked : ∀ j e, s.engine? j = some e → j ∈ s.registry.registered → e.Allowed isMetered →
    (∀ i, (s.select isMetered).1 = some i → ¬ s.registry.Before i j) →
      (s.select isMetered).2.engine? j = some (e.settled s.host.tree)
  /-- All others stay as they are. -/
  spared : ∀ j e, s.engine? j = some e →
    (j ∉ s.registry.registered ∨ ¬ e.Allowed isMetered ∨
      ∃ i, (s.select isMetered).1 = some i ∧ s.registry.Before i j) →
      (s.select isMetered).2.engine? j = some e
  /-- So a library is loaded only for an engine that is enabled, that may be used on this network, and that
  is not behind the chosen one; and it is loaded once. -/
  loads : ∀ j e e', s.engine? j = some e → (s.select isMetered).2.engine? j = some e' →
    e'.loader.loads ≠ e.loader.loads →
      e'.loader.loads = e.loader.loads + 1 ∧ e.loader.outcome = Option.none ∧
        j ∈ s.registry.registered ∧ e.settings.value.enabled = true ∧
        (isMetered = true → e.location ≠ .remote) ∧
        ∀ i, (s.select isMetered).1 = some i → j = i ∨ s.registry.Before j i
  /-- Who asks for a session is told that there is no engine, and asks no cache, -/
  noEngine : (s.select isMetered).1 = Option.none →
    s.registry.sessionNow? s.host.tree isMetered = some (.error .noEngine) ∧
      s.take (.session isMetered) = s.take (.act (.select isMetered))
  /-- or is one who asks the cache of the chosen engine. -/
  session : ∀ i, (s.select isMetered).1 = some i →
    s.registry.sessionNow? s.host.tree isMetered =
        (s.take (.act (.select isMetered))).registry.getNow? i ∧
      s.take (.session isMetered) = (s.take (.act (.select isMetered))).take (.get i)
  /-- So it is with a visitor of a scene at this site. -/
  visitor : ∀ (w : Simulation.EngineScene.Stage) (index : Nat), w.state.site = s →
    Simulation.EngineScene.arrive w index (.session isMetered) =
      let w := Simulation.EngineScene.onSite w fun _ => (s.select isMetered).2
      match (s.select isMetered).1 with
      | some i => Simulation.EngineScene.arrive w index (.get i)
      | Option.none =>
          Simulation.EngineScene.setVisitor w index ({ · with fate := .done (.error .noEngine) })

theorem engine?_select_of_allowed {j : Nat} {e : Native} (he : s.engine? j = some e)
    (hj : j ∈ s.registry.registered) (ha : e.Allowed isMetered)
    (hbehind : ∀ i, (s.select isMetered).1 = some i → ¬ s.registry.Before i j) :
    (s.select isMetered).2.engine? j = some (e.settled s.host.tree) := by
  have h := Registry.searched_select s.registry s.host.tree isMetered
  refine h.asked j e he (Registry.mem_candidates.mpr hj) ha fun k hk hkj hu => ?_
  cases hc : (s.registry.select s.host.tree isMetered).1 with
  | none => exact h.missed hc k hk hu
  | some i =>
      obtain ⟨-, hui, hno⟩ := h.found i hc
      have hij := hbehind i hc
      by_cases hki : k = i
      · exact hij (hki ▸ hkj)
      · have ⟨f, hf, _⟩ := hu
        have ⟨g, hg, _⟩ := hui
        rcases Registry.before_or_before hf hg hki with hki | hik
        · exact hno k hk hki hu
        · exact hij (hik.trans hkj)

theorem engine?_select_of_spared {j : Nat} {e : Native} (he : s.engine? j = some e)
    (hwhy : j ∉ s.registry.registered ∨ ¬ e.Allowed isMetered ∨
      ∃ i, (s.select isMetered).1 = some i ∧ s.registry.Before i j) :
    (s.select isMetered).2.engine? j = some e := by
  have h := Registry.searched_select s.registry s.host.tree isMetered
  refine h.spared j e he ?_
  rcases hwhy with hj | ha | ⟨i, hc, hij⟩
  · exact .inl fun hj' => hj (Registry.mem_candidates.mp hj')
  · exact .inr (.inl ha)
  · obtain ⟨hi, hu, -⟩ := h.found i hc
    exact .inr (.inr ⟨i, hi, hij, hu⟩)

/-- A choice loads a library once at most, and only if the engine is allowed and not behind the chosen one. -/
theorem loads_select {j : Nat} {e e' : Native} (he : s.engine? j = some e)
    (he' : (s.select isMetered).2.engine? j = some e') (hloads : e'.loader.loads ≠ e.loader.loads) :
    e'.loader.loads = e.loader.loads + 1 ∧ e.loader.outcome = none ∧
      j ∈ s.registry.registered ∧ e.settings.value.enabled = true ∧
      (isMetered = true → e.location ≠ .remote) ∧
      ∀ i, (s.select isMetered).1 = some i → j = i ∨ s.registry.Before j i := by
  have hasked : ¬ (j ∉ s.registry.registered ∨ ¬ e.Allowed isMetered ∨
      ∃ i, (s.select isMetered).1 = some i ∧ s.registry.Before i j) := by
    intro hwhy
    cases he'.symm.trans (engine?_select_of_spared he hwhy)
    exact hloads rfl
  simp only [not_or, not_not, not_exists, not_and] at hasked
  obtain ⟨hj, ha, hbehind⟩ := hasked
  cases he'.symm.trans (engine?_select_of_allowed he hj ha hbehind)
  rw [Native.loads_settled] at hloads ⊢
  split at hloads
  · rename_i hn
    refine ⟨if_pos hn, hn, hj, ha.enabled, ha.notRemote, fun i hi => ?_⟩
    by_cases hji : j = i
    · exact .inl hji
    · obtain ⟨-, ⟨f, hf, -⟩, -⟩ := Registry.select_eq_some_iff.mp hi
      exact .inr ((Registry.before_or_before he hf hji).resolve_right (hbehind i hi))
  · exact absurd rfl hloads

theorem sessionNow?_of_some {i : Nat} (hi : (s.select isMetered).1 = some i) :
    s.registry.sessionNow? s.host.tree isMetered =
        (s.take (.act (.select isMetered))).registry.getNow? i ∧
      s.take (.session isMetered) = (s.take (.act (.select isMetered))).take (.get i) := by
  simp only [select, take, step, onAll, Registry.sessionNow?, Registry.session] at hi ⊢
  generalize s.registry.select s.host.tree isMetered = chosen at hi ⊢
  obtain ⟨i?, r⟩ := chosen
  cases hi
  exact ⟨rfl, rfl⟩

theorem sessionNow?_of_none (hi : (s.select isMetered).1 = none) :
    s.registry.sessionNow? s.host.tree isMetered = some (.error .noEngine) ∧
      s.take (.session isMetered) = s.take (.act (.select isMetered)) := by
  simp only [select, take, step, onAll, Registry.sessionNow?, Registry.session] at hi ⊢
  generalize s.registry.select s.host.tree isMetered = chosen at hi ⊢
  obtain ⟨i?, r⟩ := chosen
  cases hi
  exact ⟨rfl, rfl⟩

/-- Whatever engines were given, and whatever has been done since. -/
theorem selection [Pattern.Matcher] (host : Host) (engines : List Native) (turns : List Turn) (isMetered : Bool) :
    Selection engines ((ofEngines host engines).afterTurns turns) isMetered := by
  have hid := identities_afterTurns host engines turns
  generalize (ofEngines host engines).afterTurns turns = s at hid
  have hregistered (i : Nat) : i ∈ s.registry.registered ↔ i ∈ (Registry.ofEngines engines).registered :=
    ⟨Registry.mem_registered_of_identities hid.symm, Registry.mem_registered_of_identities hid⟩
  have hidentity (i : Nat) (e : Native) (he : engines[i]? = some e) :
      ∃ e', s.engine? i = some e' ∧ e'.kind = e.kind ∧ e'.location = e.location :=
    Registry.engine?_of_identities hid (by rw [Registry.engine?_ofEngines, he])
  exact {
    kinds := by
      rw [Registry.kinds_eq, ← Registry.map_kind_identities, hid, Registry.map_kind_identities,
        Registry.ofEngines, List.map_map]
      rfl
    registered := fun i => by
      simp only [hregistered, Registry.mem_registered, Registry.engine?_ofEngines]
    sorted := Registry.pairwise_registered s.registry
    identity := hidentity
    ofKind := fun kind i => by
      rw [Registry.ofKind?_eq_some_iff]
      refine and_congr_right fun hi => ⟨fun hk => ?_, ?_⟩
      · obtain ⟨e, he, rfl⟩ := Option.map_eq_some_iff.mp hk
        obtain ⟨e', he', hk, -⟩ := Registry.engine?_of_identities hid.symm he
        exact ⟨e', by rw [← Registry.engine?_ofEngines, he'], hk⟩
      · rintro ⟨e, he, rfl⟩
        obtain ⟨e', he', hk, -⟩ := hidentity i e he
        exact Option.map_eq_some_iff.mpr ⟨e', he', hk⟩
    chosen := fun i => Registry.select_eq_some_iff
    none := Registry.select_eq_none_iff
    asked := fun j e he hj ha hbehind => engine?_select_of_allowed he hj ha hbehind
    spared := fun j e he hwhy => engine?_select_of_spared he hwhy
    loads := fun j e e' he he' hloads => loads_select he he' hloads
    noEngine := sessionNow?_of_none
    session := fun i hi => sessionNow?_of_some hi
    visitor := fun w index hw => by
      subst hw
      rfl }

end Site

end Swarmkeeper.Engine
