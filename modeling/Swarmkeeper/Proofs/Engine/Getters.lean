import Swarmkeeper.Proofs.Engine.OneSession

/-!
# Those who ask

Who is admitted returns at once or waits for one construction, and who waits is handed nothing but the
outcome of that construction. An outcome stays what it is.
-/

namespace Swarmkeeper.Engine

namespace Cache

variable {c : Cache} {g k : Nat} {o : BuildOutcome}

/-! ## Endings -/

/-- How a construction has ended, whether or not a session that came too late is closed by now. -/
def ending? (c : Cache) (g : Nat) : Option BuildOutcome := (c.build? g).bind (·.outcome)

/-- What a construction comes to that ends now, by what its constructor gives. -/
def verdict (c : Cache) : Except Fault Nat → BuildOutcome
  | .ok s => if c.slot = .closed then .orphaned s else .installed s
  | .error f => .failed f

theorem outcome?_eq_some : c.outcome? g = some o ↔
    c.isHolding (.construction g) = false ∧ c.ending? g = some o := by
  unfold outcome? ending?
  cases c.isHolding (.construction g) <;> simp

theorem ending?_of_isUnderWay (hu : c.isUnderWay g = true) : c.ending? g = none := by
  obtain ⟨b, hb, ho⟩ := isUnderWay_iff.mp hu
  simp [ending?, hb, ho]

theorem build?_congr {c' : Cache} (h : c'.builds = c.builds) (g : Nat) : c'.build? g = c.build? g := by
  simp [build?, h]

theorem ending?_congr {c' : Cache} (h : c'.builds = c.builds) (g : Nat) :
    c'.ending? g = c.ending? g := by
  simp [ending?, build?_congr h]

theorem build?_note (hg : 1 ≤ g) :
    (c.note g o).build? k = if g = k then (c.build? k).map (·.finish o) else c.build? k := by
  by_cases hk : k = 0
  · subst hk
    simp [build?]
  · have hiff : g - 1 = k - 1 ↔ g = k := by omega
    simp only [build?, hk, if_false, note_builds, List.getElem?_modify, hiff]
    split
    · rfl
    · exact Option.map_id'

theorem build?_append {b : Build} (h : c.build? g = some b) {c' : Cache} {b' : Build}
    (hc : c'.builds = c.builds ++ [b']) : c'.build? g = some b := by
  obtain ⟨hg, hb⟩ := build?_eq_some.mp h
  refine build?_eq_some.mpr ⟨hg, ?_⟩
  rw [hc, List.getElem?_append_left (List.getElem?_eq_some_iff.mp hb).1, hb]

theorem ending?_note_self (hu : c.isUnderWay g = true) : (c.note g o).ending? g = some o := by
  obtain ⟨b, hb, -⟩ := isUnderWay_iff.mp hu
  have hg := (build?_eq_some.mp hb).1
  simp [ending?, build?_note hg, hb, Build.finish]

theorem ending?_note_ne (hg : 1 ≤ g) (hne : g ≠ k) : (c.note g o).ending? k = c.ending? k := by
  simp [ending?, build?_note hg, hne]

theorem one_le_of_isUnderWay (hu : c.isUnderWay g = true) : 1 ≤ g := by
  obtain ⟨b, hb, -⟩ := isUnderWay_iff.mp hu
  exact (build?_eq_some.mp hb).1

/-- A construction that ends is noted with the verdict of that moment, whatever becomes of the slot. -/
theorem exists_finish_eq_note (hu : c.isUnderWay g = true)
    (hs : c.slot = .building g ∨ c.slot = .closed) (r : Except Fault Nat) :
    ∃ c' : Cache, c'.builds = c.builds ∧ c.finish g r = c'.note g (c.verdict r) := by
  cases r with
  | ok s =>
      rcases hs with hs | hs
      · refine ⟨{ c with slot := .ready s }, rfl, ?_⟩
        simp [finish, hu, settle, verdict, hs]
      · refine ⟨{ c with discarded := c.discarded ++ [(.construction g, s)] }, rfl, ?_⟩
        simp [finish, hu, settle, verdict, hs]
  | error f =>
      rcases hs with hs | hs
      · refine ⟨{ c with slot := .empty }, rfl, ?_⟩
        simp [finish, hu, settle, verdict, hs]
      · refine ⟨c, rfl, ?_⟩
        simp [finish, hu, settle, verdict, hs]

end Cache

/-! ## What becomes of one who asks -/

/-- What an event can make of one who asks, by the cache before and after it. -/
inductive Getter.Moves (c c' : Cache) (e : Demand.Event) (i : Nat) : Getter → Getter → Prop where
  | stay (x : Getter) : Moves c c' e i x x
  | meet {s : Nat} (hs : c.slot = .ready s) : Moves c c' e i .admitted (.returned (.ok s))
  | turnAway (hs : c.slot = .closed) : Moves c c' e i .admitted (.returned (.error (.closed c.kind)))
  | wait {g : Nat} (hs : c'.slot = .building g) : Moves c c' e i .admitted (.waiting g)
  | leave {g : Nat} (he : e = .drop i) : Moves c c' e i (.waiting g) .dropped
  | deliver {g : Nat} {o : BuildOutcome} (ho : c.outcome? g = some o) :
      Moves c c' e i (.waiting g) (.returned (o.result c.kind))

namespace Demand

variable {d d' : Demand} {e : Event} {kind : Kind} {events : List Event} {i g : Nat}

/-- What a rule makes of one who asks is one of his moves. -/
theorem Rule.moves {x : Getter} (h : Rule d e d') (hi : d.getters[i]? = some x) :
    ∃ y, d'.getters[i]? = some y ∧ Getter.Moves d.cache d'.cache e i x y := by
  have hlt : i < d.getters.length := (List.getElem?_eq_some_iff.mp hi).1
  have come {c' : Cache} (y : Getter) :
      ∃ z, (d.getters ++ [y])[i]? = some z ∧ Getter.Moves d.cache c' e i x z :=
    ⟨x, by rw [List.getElem?_append_left hlt, hi], .stay x⟩
  have change {c' : Cache} {j : Nat} {z y : Getter} (hj : d.getters[j]? = some z)
      (hm : Getter.Moves d.cache c' e j z y) :
      ∃ w, (d.getters.set j y)[i]? = some w ∧ Getter.Moves d.cache c' e i x w := by
    by_cases hij : j = i
    · subst hij
      rw [hi] at hj
      cases hj
      exact ⟨y, List.getElem?_set_self hlt, hm⟩
    · exact ⟨x, by rw [List.getElem?_set_ne hij, hi], .stay x⟩
  cases h with
  | stay | install | orphan | fail | failLate | cancel | vacate | dispose => exact ⟨x, hi, .stay x⟩
  | refuse | allow => exact come _
  | meet hj hs => exact change hj (.meet hs)
  | turnAway hj hs => exact change hj (.turnAway hs)
  | join hj hs => exact change hj (.wait hs)
  | start hj => exact change hj (.wait rfl)
  | leave hj => exact change hj (.leave rfl)
  | deliver hj ho => exact change hj (.deliver ho)

/-- Who comes new is admitted or turned away. -/
theorem Rule.newcomer {y : Getter} (h : Rule d e d') (hi : d.getters[i]? = none)
    (hy : d'.getters[i]? = some y) :
    (d.cache.isCancelled = false ∧ y = .admitted) ∨
      (d.cache.isCancelled = true ∧ y = .returned (.error (.closed d.cache.kind))) := by
  have hle : d.getters.length ≤ i := List.getElem?_eq_none_iff.mp hi
  have change {j : Nat} {z : Getter} (hz : (d.getters.set j z)[i]? = some y) : False := by
    rw [List.getElem?_eq_none (by simpa using hle)] at hz
    cases hz
  cases h with
  | stay | install | orphan | fail | failLate | cancel | vacate | dispose =>
      rw [hi] at hy
      cases hy
  | refuse hc =>
      rw [List.getElem?_append_right hle, List.getElem?_singleton] at hy
      split at hy <;> cases hy
      exact .inr ⟨hc, rfl⟩
  | allow hc =>
      rw [List.getElem?_append_right hle, List.getElem?_singleton] at hy
      split at hy <;> cases hy
      exact .inl ⟨hc, rfl⟩
  | meet | turnAway | join | start | leave | deliver => exact (change hy).elim

theorem result?_eq_some {r : Except Fault Nat} :
    d.result? i = some r ↔ d.getters[i]? = some (.returned r) := by
  unfold result?
  cases hx : d.getters[i]? with
  | none => simp
  | some x => cases x <;> simp

/-- Who has returned has returned for good. -/
theorem Rule.result? {r : Except Fault Nat} (h : Rule d e d') (hr : d.result? i = some r) :
    d'.result? i = some r := by
  rw [result?_eq_some] at hr ⊢
  obtain ⟨y, hy, hm⟩ := h.moves hr
  cases hm with
  | stay => exact hy

/-- A cache serves one kind of engine. -/
theorem Rule.kind_eq (h : Rule d e d') : d'.cache.kind = d.cache.kind := by
  cases h <;> rfl

theorem kind_after (kind : Kind) (events : List Event) : (after kind events).cache.kind = kind :=
  after_induction (P := fun d => d.cache.kind = kind) rfl (fun h hk => h.kind_eq.trans hk) events

/-! ## What becomes of a construction -/

/-- An ending is for good. -/
theorem Rule.ending? {o : BuildOutcome} (h : Rule d e d') (ho : d.cache.ending? g = some o) :
    d'.cache.ending? g = some o := by
  have note {c : Cache} {k : Nat} (o' : BuildOutcome) (hu : d.cache.isUnderWay k = true)
      (hc : c.builds = d.cache.builds) : (c.note k o').ending? g = some o := by
    have hne : k ≠ g := by
      rintro rfl
      simp [Cache.ending?_of_isUnderWay hu] at ho
    rw [Cache.ending?_note_ne (Cache.one_le_of_isUnderWay hu) hne, Cache.ending?_congr hc, ho]
  cases h with
  | stay | refuse | allow | meet | turnAway | join | leave | deliver | cancel | vacate | dispose =>
      exact ho
  | start =>
      obtain ⟨b, hb, hbo⟩ := Option.bind_eq_some_iff.mp ho
      exact Option.bind_eq_some_iff.mpr ⟨b, Cache.build?_append hb rfl, hbo⟩
  | install hu | orphan hu | fail hu | failLate hu => exact note _ hu rfl

/-- A construction ends when its constructor gives something. -/
theorem Rule.ending?_new {o : BuildOutcome} (h : Rule d e d')
    (ht : d.cache.slot.Tells d.cache.builds) (ho : d'.cache.ending? g = some o) :
    d.cache.ending? g = some o ∨
      ∃ r, e = .finish g r ∧ d.cache.isUnderWay g = true ∧ o = d.cache.verdict r := by
  have note {c : Cache} {k : Nat} {o' : BuildOutcome} (hu : d.cache.isUnderWay k = true)
      (hc : c.builds = d.cache.builds) (ho : (c.note k o').ending? g = some o) :
      d.cache.ending? g = some o ∨ k = g ∧ o = o' := by
    by_cases hne : k = g
    · subst hne
      have hu' : c.isUnderWay k = true := by
        rwa [Cache.isUnderWay, Cache.build?_congr hc]
      rw [Cache.ending?_note_self hu'] at ho
      exact .inr ⟨rfl, (Option.some.inj ho).symm⟩
    · rw [Cache.ending?_note_ne (Cache.one_le_of_isUnderWay hu) hne, Cache.ending?_congr hc] at ho
      exact .inl ho
  cases h with
  | stay | refuse | allow | meet | turnAway | join | leave | deliver | cancel | vacate | dispose =>
      exact .inl ho
  | start =>
      refine .inl ?_
      obtain ⟨b, hb, hbo⟩ := Option.bind_eq_some_iff.mp ho
      obtain ⟨hg, hb⟩ := Cache.build?_eq_some.mp hb
      rcases Nat.lt_or_ge (g - 1) d.cache.builds.length with hlt | hge
      · rw [List.getElem?_append_left hlt] at hb
        exact Option.bind_eq_some_iff.mpr ⟨b, Cache.build?_eq_some.mpr ⟨hg, hb⟩, hbo⟩
      · rw [List.getElem?_append_right hge] at hb
        obtain ⟨-, rfl⟩ : _ ∧ _ = b := by simpa [List.getElem?_singleton] using hb
        cases hbo
  | install hu hs =>
      rcases note hu rfl ho with ho | ⟨rfl, rfl⟩
      · exact .inl ho
      · exact .inr ⟨_, rfl, hu, by simp [Cache.verdict, hs]⟩
  | orphan hu hs =>
      rcases note hu rfl ho with ho | ⟨rfl, rfl⟩
      · exact .inl ho
      · obtain ⟨-, -, -, -, -, hc⟩ := ht.of_isUnderWay hu
        exact .inr ⟨_, rfl, hu, by simp [Cache.verdict, hc.resolve_left hs]⟩
  | fail hu | failLate hu =>
      rcases note hu rfl ho with ho | ⟨rfl, rfl⟩
      · exact .inl ho
      · exact .inr ⟨_, rfl, hu, rfl⟩

/-- The end of a construction that is under way. -/
theorem ending?_finish (ht : d.cache.slot.Tells d.cache.builds) (hu : d.cache.isUnderWay g = true)
    (r : Except Fault Nat) :
    (d.step (.finish g r)).cache.ending? g = some (d.cache.verdict r) := by
  obtain ⟨-, -, -, -, -, hs⟩ := ht.of_isUnderWay hu
  obtain ⟨c, hc, heq⟩ := Cache.exists_finish_eq_note hu hs r
  have hu' : c.isUnderWay g = true := by
    rwa [Cache.isUnderWay, Cache.build?_congr hc]
  rw [step, onCache, heq, Cache.ending?_note_self hu']

/-- A construction stays, with the settings it is made with. -/
theorem Rule.build? {b : Build} (h : Rule d e d') (hb : d.cache.build? g = some b) :
    ∃ b', d'.cache.build? g = some b' ∧ b'.settings = b.settings := by
  have note {c : Cache} {k : Nat} (o : BuildOutcome) (hu : d.cache.isUnderWay k = true)
      (hc : c.builds = d.cache.builds) :
      ∃ b', (c.note k o).build? g = some b' ∧ b'.settings = b.settings := by
    rw [Cache.build?_note (Cache.one_le_of_isUnderWay hu), Cache.build?_congr hc, hb]
    split
    · exact ⟨b.finish o, rfl, rfl⟩
    · exact ⟨b, rfl, rfl⟩
  cases h with
  | stay | refuse | allow | meet | turnAway | join | leave | deliver | cancel | vacate | dispose =>
      exact ⟨b, hb, rfl⟩
  | start => exact ⟨b, Cache.build?_append hb rfl, rfl⟩
  | install hu | orphan hu | fail hu | failLate hu => exact note _ hu rfl

/-- A session in the hands of its construction came too late. -/
theorem Rule.held (h : Rule d e d')
    (hd : ∀ g s, (.construction g, s) ∈ d.cache.discarded → d.cache.ending? g = some (.orphaned s)) :
    ∀ g s, (.construction g, s) ∈ d'.cache.discarded → d'.cache.ending? g = some (.orphaned s) := by
  intro g s hs
  cases h with
  | stay | refuse | allow | meet | turnAway | join | leave | deliver | cancel => exact hd g s hs
  | start hi hc => exact Rule.ending? (.start hi hc) (hd g s hs)
  | install hu hc => exact Rule.ending? (.install hu hc) (hd g s hs)
  | fail hu hc => exact Rule.ending? (.fail hu hc) (hd g s hs)
  | failLate hu hc => exact Rule.ending? (.failLate hu hc) (hd g s hs)
  | orphan hu hc =>
      rcases List.mem_append.mp hs with hs | hs
      · exact Rule.ending? (.orphan hu hc) (hd g s hs)
      · cases List.mem_singleton.mp hs
        exact Cache.ending?_note_self (by rwa [Cache.isUnderWay, Cache.build?_congr rfl])
  | vacate =>
      rcases List.mem_append.mp hs with hs | hs
      · exact hd g s hs
      · simp at hs
  | dispose => exact hd g s (List.mem_of_mem_erase hs)

/-! ## Every run -/

/-- What a construction came to never changes. -/
theorem ending?_mono {earlier : List Event} {o : BuildOutcome} (hp : earlier <+: events)
    (ho : (after kind earlier).cache.ending? g = some o) :
    (after kind events).cache.ending? g = some o :=
  after_mono (P := fun d => d.cache.ending? g = some o) (fun h ho => h.ending? ho) hp ho

theorem after_concat (kind : Kind) (events : List Event) (e : Event) :
    after kind (events ++ [e]) = (after kind events).step e :=
  after_append kind events [e]

theorem held_after {s : Nat} (hs : (.construction g, s) ∈ (after kind events).cache.discarded) :
    (after kind events).cache.ending? g = some (.orphaned s) :=
  after_induction
    (P := fun d => ∀ g s, (.construction g, s) ∈ d.cache.discarded →
      d.cache.ending? g = some (.orphaned s))
    (fun _ _ hs => absurd hs List.not_mem_nil) (fun h hd => h.held hd) events g s hs

/-- A construction that has ended is over, unless it has yet to close a session that came too late. -/
theorem outcome?_of_installed {s : Nat}
    (ho : (after kind events).cache.ending? g = some (.installed s)) :
    (after kind events).cache.outcome? g = some (.installed s) := by
  refine Cache.outcome?_eq_some.mpr ⟨?_, ho⟩
  by_contra hn
  have hh : (after kind events).cache.isHolding (.construction g) = true := by simpa using hn
  obtain ⟨⟨h, t⟩, ht, heq⟩ := List.any_eq_true.mp hh
  obtain rfl : h = .construction g := by simpa using heq
  have hlate := held_after ht
  rw [ho] at hlate
  cases hlate

/-- Who waits for a construction that has come to an end is given what it came to. -/
theorem deliver_of_outcome {o : BuildOutcome} (hi : d.getters[i]? = some (.waiting g))
    (ho : d.cache.outcome? g = some o) :
    (d.step (.deliver i)).result? i = some (o.result d.cache.kind) := by
  rw [result?_eq_some]
  simp only [step, deliver, hi, ho]
  exact List.getElem?_set_self (List.getElem?_eq_some_iff.mp hi).1

end Demand

end Swarmkeeper.Engine
