import Swarmkeeper.Proofs.Engine.Closing
import Swarmkeeper.Proofs.Engine.Getters

/-!
# Sessions at the end of a cache

Who asks after the end of the cache was announced is turned away. The session itself is withdrawn only
when the slot is emptied: until then it can be looked up, and who was admitted before the announcement may
still be given it. Who waits for a construction that installed its session is given it even afterwards.
-/

namespace Swarmkeeper.Engine

namespace Demand

variable {d d' d₀ : Demand} {e : Event} {kind : Kind} {events : List Event} {i g : Nat}

/-! ## After the announcement -/

/-- The announcement is not taken back. -/
theorem Rule.isCancelled_stays (h : Rule d e d') (hc : d.cache.isCancelled = true) :
    d'.cache.isCancelled = true := by
  cases h with
  | cancel => rfl
  | _ => exact hc

/-- No slot is emptied before the end was announced. -/
theorem isCancelled_of_closed (hs : (after kind events).cache.slot = .closed) :
    (after kind events).cache.isCancelled = true := by
  by_contra hn
  exact (intact_after (by simpa using hn)).slot hs

/-- All from this number on have been turned away. -/
def TurnsAway (d : Demand) (n : Nat) : Prop :=
  d.cache.isCancelled = true ∧
    ∀ i y, n ≤ i → d.getters[i]? = some y → y = .returned (.error (.closed d.cache.kind))

/-- A newcomer is turned away and stays so. -/
theorem Rule.turnsAway {n : Nat} (h : Rule d e d') (hd : d.TurnsAway n) : d'.TurnsAway n := by
  refine ⟨h.isCancelled_stays hd.1, fun i y hi hy => ?_⟩
  rw [h.kind_eq]
  cases hx : d.getters[i]? with
  | none =>
      rcases h.newcomer hx hy with ⟨hc, -⟩ | ⟨-, rfl⟩
      · rw [hd.1] at hc
        cases hc
      · rfl
  | some x =>
      obtain rfl := hd.2 i x hi hx
      obtain ⟨z, hz, hm⟩ := h.moves hx
      rw [hy] at hz
      cases hz
      cases hm
      rfl

/-! ## After the slot was emptied -/

/-- What one who asks can be after the slot was emptied, by what it was then. -/
inductive Remains (d₀ : Demand) (i : Nat) : Getter → Prop where
  | same {x : Getter} (hi : d₀.getters[i]? = some x) : Remains d₀ i x
  | admitted : Remains d₀ i .admitted
  | dropped : Remains d₀ i .dropped
  | refused (f : Fault) : Remains d₀ i (.returned (.error f))
  | served {g s : Nat} (hi : d₀.getters[i]? = some (.waiting g))
      (ho : d₀.cache.ending? g = some (.installed s)) : Remains d₀ i (.returned (.ok s))

theorem Remains.waiting (h : Remains d₀ i (.waiting g)) : d₀.getters[i]? = some (.waiting g) := by
  cases h with
  | same hi => exact hi

/-- The slot was emptied, nothing has been installed since, and nobody was served but those who waited for
what was installed before. -/
structure Withdraws (d₀ d : Demand) : Prop where
  slot : d.cache.slot = .closed
  isCancelled : d.cache.isCancelled = true
  installed : ∀ g s, d.cache.ending? g = some (.installed s) → d₀.cache.ending? g = some (.installed s)
  getters : ∀ i y, d.getters[i]? = some y → Remains d₀ i y

theorem Withdraws.refl (hs : d.cache.slot = .closed) (hc : d.cache.isCancelled = true) :
    d.Withdraws d :=
  ⟨hs, hc, fun _ _ h => h, fun _ _ h => .same h⟩

theorem Withdraws.moves {x y : Getter} (hd : d₀.Withdraws d) (hs' : d'.cache.slot = .closed)
    (hx : Remains d₀ i x) (hm : Getter.Moves d.cache d'.cache e i x y) : Remains d₀ i y := by
  cases hm with
  | stay => exact hx
  | meet hs =>
      rw [hd.slot] at hs
      cases hs
  | turnAway => exact .refused _
  | wait hs =>
      rw [hs'] at hs
      cases hs
  | leave => exact .dropped
  | @deliver g o ho =>
      cases o with
      | installed s => exact .served hx.waiting (hd.installed g s (Cache.outcome?_eq_some.mp ho).2)
      | orphaned _ | failed _ => exact .refused _

/-- After the slot was emptied no rule gives a session to anybody but those who wait for one that was
installed before. -/
theorem Rule.withdraws (h : Rule d e d') (ht : d.cache.slot.Tells d.cache.builds)
    (hd : d₀.Withdraws d) : d₀.Withdraws d' where
  slot := h.slot_closed hd.slot
  isCancelled := h.isCancelled_stays hd.isCancelled
  installed g s hs := by
    rcases h.ending?_new ht hs with hs | ⟨r, -, -, hr⟩
    · exact hd.installed g s hs
    · cases r <;> simp [Cache.verdict, hd.slot] at hr
  getters i y hy := by
    cases hx : d.getters[i]? with
    | none =>
        rcases h.newcomer hx hy with ⟨-, rfl⟩ | ⟨-, rfl⟩
        · exact .admitted
        · exact .refused _
    | some x =>
        obtain ⟨z, hz, hm⟩ := h.moves hx
        rw [hy] at hz
        cases hz
        exact hd.moves (h.slot_closed hd.slot) (hd.getters i x hx) hm

/-- What the end of a cache means for those who ask and look. -/
structure Withdrawal (kind : Kind) (events : List Event) : Prop where
  /-- Who comes after the announcement is turned away. -/
  turned_away : (after kind events).cache.isCancelled = true →
    ∀ more i r, (after kind events).getters.length ≤ i →
      (after kind (events ++ more)).result? i = some r → r = .error (.closed kind)
  emptied : (after kind events).cache.isCancelled = true →
    (after kind (events ++ [.vacate])).cache.slot = .closed
  /-- Once the slot was emptied there is nothing to be looked up, -/
  hidden : (after kind events).cache.slot = .closed →
    ∀ more, (after kind (events ++ more)).cache.peek = none
  /-- and nobody is given a session any more but who waits for a construction that had installed it. -/
  withheld : (after kind events).cache.slot = .closed →
    ∀ more i s, (after kind (events ++ more)).result? i = some (.ok s) →
      (after kind events).result? i = some (.ok s) ∨
        ∃ g, (after kind events).getters[i]? = some (.waiting g) ∧
          (after kind events).cache.ending? g = some (.installed s)
  served : ∀ i g s, (after kind events).getters[i]? = some (.waiting g) →
    (after kind events).cache.ending? g = some (.installed s) →
    (after kind (events ++ [.deliver i])).result? i = some (.ok s)

/-- Whoever asks after the token is cancelled is turned away, and once the slot is emptied a session comes
only to those who wait for a construction that had installed it. -/
theorem withdrawal (kind : Kind) (events : List Event) : Withdrawal kind events where
  turned_away hc more i r hi hr := by
    have hend : (after kind (events ++ more)).TurnsAway (after kind events).getters.length := by
      refine after_mono (P := (TurnsAway · _)) (fun h hd => h.turnsAway hd)
        (List.prefix_append events more) ⟨hc, fun i y hi hy => ?_⟩
      rw [List.getElem?_eq_none hi] at hy
      cases hy
    have hr := hend.2 i _ hi (result?_eq_some.mp hr)
    rw [kind_after] at hr
    exact Getter.returned.inj hr
  emptied hc := by
    rw [after_concat]
    simp [step, onCache, Cache.vacate, hc]
  hidden hs more := by
    have hs := slot_closed_after (List.prefix_append events more) hs
    simp [Cache.peek, hs]
  withheld hs more i s hr := by
    have hend := after_mono_tells (P := (after kind events).Withdraws)
      (fun h ht hd => h.withdraws ht hd) (List.prefix_append events more)
      (.refl hs (isCancelled_of_closed hs))
    have hrem := hend.getters i _ (result?_eq_some.mp hr)
    cases hrem with
    | same hi => exact .inl (result?_eq_some.mpr hi)
    | served hi ho => exact .inr ⟨_, hi, ho⟩
  served i g s hi ho := by
    rw [after_concat]
    exact deliver_of_outcome hi (outcome?_of_installed ho)

/-- Between the announcement and the emptying of the slot the session 7 is looked up, given to one who
waits for its construction, and given to one who had been admitted before. -/
theorem session_seen_after_announcement :
    let settings := Settings.ofKind .simulated
    let announced := after .simulated [.arrive, .enter 0 settings, .arrive, .cancel]
    let later := after .simulated
      [.arrive, .enter 0 settings, .arrive, .cancel, .finish 1 (.ok 7), .deliver 0, .enter 1 settings]
    announced.cache.isCancelled = true ∧ announced.result? 0 = none ∧ announced.result? 1 = none ∧
      later.cache.peek = some 7 ∧ later.result? 0 = some (.ok 7) ∧ later.result? 1 = some (.ok 7) :=
  ⟨rfl, rfl, rfl, rfl, rfl, rfl⟩

end Demand

end Swarmkeeper.Engine
