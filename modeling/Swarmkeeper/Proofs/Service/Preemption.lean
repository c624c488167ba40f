import Swarmkeeper.Proofs.Service.Agreement
import Swarmkeeper.Proofs.Service.Chronicle

/-!
# Disconnects and waiting callers

A disconnect that finds an attempt under way takes its success from all who wait. One that finds the
attempt connected comes too late for them: a caller that has not looked yet is still given the handle,
although it is no longer live.
-/

namespace Swarmkeeper.Service

variable {η : Type}

/-- A handle that was found is lost in the history unless it is the live one. -/
theorem Chronicle.lost_iff {n x ts} (h : Chronicle n x ts) {m : Nat}
    (hm : ⟨.connecting, .connected, m⟩ ∈ ts) :
    ⟨.connected, .disconnected, m⟩ ∈ ts ↔ ¬(x = .connected ∧ m = n) := by
  induction h with
  | blank => cases hm
  | @set_out n x ts h hx ih =>
      have hne : x ≠ .connected := by
        rintro rfl
        cases hx
      have hts : ⟨.connecting, .connected, m⟩ ∈ ts := by simpa using hm
      simpa [hne] using ih hts
  | @arrive n y ts h hy ih =>
      rcases List.mem_cons.mp hm with heq | hts
      · obtain ⟨-, rfl, rfl⟩ := Transition.mk.inj heq
        have hno : ⟨.connected, .disconnected, m⟩ ∉ ts := by
          intro hmem
          cases h.target_eq_connecting rfl _ hmem rfl
        simpa using hno
      · have hlt : m ≠ n := by
          rintro rfl
          cases h.target_eq_connecting rfl _ hts rfl
        simpa [hlt] using ih hts
  | @part n ts h ih =>
      have hts : ⟨.connecting, .connected, m⟩ ∈ ts := by simpa using hm
      by_cases hmn : m = n
      · simp [hmn]
      · simpa [hmn] using ih hts

namespace Run

variable {r r' : Run η}

/-- A disconnect of an attempt: a signal while it is under way or connected, or the loss of its live
handle. -/
inductive Cuts (r : Run η) : Event η → Nat → Prop where
  | signal (h : r.connection.state.phase = .connecting ∨ r.connection.state.phase = .connected) :
      Cuts r .disconnect r.connection.attempt
  | loss (h : r.connection.state.phase = .connected) :
      Cuts r (.lose r.connection.attempt) r.connection.attempt

/-- A disconnect ends the attempt that is under way, and leaves alone the outcome of one that has
connected. -/
theorem Cuts.outcome? {e : Event η} {n : Nat} (h : Cuts r e n) (hc : r.connection.Consistent)
    (hl : r.Ledger) :
    (r.connection.state = .connecting ∧ (r.step e).outcome? n = some .disconnected) ∨
      ∃ a, r.connection.state = .connected a ∧ (r.step e).outcome? n = some (.connected a) := by
  have live {a : η} (hs : r.connection.state = .connected a)
      (hout : (r.step e).outcomes = r.outcomes) (hn : n = r.connection.attempt) :
      (r.step e).outcome? n = some (.connected a) := by
    rw [Run.outcome?, hout, hn]
    exact hl.connected a hs
  cases h with
  | signal h =>
      rcases h with h | h
      · have hs := State.phase_eq_connecting.mp h
        obtain ⟨w, hw⟩ := hc.pending_of_connecting hs
        refine .inl ⟨hs, ?_⟩
        simp only [step, disconnect, Connection.disconnect, hs, hw, Option.map_some]
        exact (outcome?_of_outcomes (r := r) rfl).trans (if_pos rfl)
      · obtain ⟨a, hs⟩ := State.phase_eq_connected.mp h
        have hp := hc.pending_eq_none (by simp [hs])
        refine .inr ⟨a, hs, live hs ?_ rfl⟩
        simp [step, disconnect, Connection.disconnect, hs, hp]
  | loss h =>
      obtain ⟨a, hs⟩ := State.phase_eq_connected.mp h
      exact .inr ⟨a, hs, live hs rfl rfl⟩

/-- Whatever comes later, an outcome stays. -/
theorem outcome?_foldl {n : Nat} {o : Outcome η} (hc : r.connection.Consistent) (hl : r.Ledger)
    (ho : r.outcome? n = some o) (more : List (Event η)) :
    (more.foldl step r).outcome? n = some o :=
  (foldl_step_induction (P := fun r => r.Ledger ∧ r.outcome? n = some o) hc ⟨hl, ho⟩
    (fun _ h ⟨hl, ho⟩ => ⟨hl.turn h.turn, hl.outcome?_turn h.turn ho⟩) more).2.2

/-- So a caller is given the outcome that the attempt has after the next event, whenever he looks. -/
theorem result_of_outcome {events more : List (Event η)} {i n : Nat} {o : Outcome η}
    {a : Option Nat} {res : Except Failure η} (e : Event η)
    (hi : (after events).callers[i]? = some (.waiting n))
    (ho : ((after events).step e).outcome? n = some o)
    (hres : (after (events ++ e :: more)).callers[i]? = some (.returned a res)) : res = o.result := by
  have hc := consistent_after events
  have hstep := step_rule hc e
  have hsame : (after (events ++ e :: more)).outcome? n = some o := by
    rw [after_append]
    exact outcome?_foldl (hstep.consistent hc) ((ledger_after events).turn hstep.turn) ho more
  rw [after_append] at hres
  obtain rfl : a = some n := attempt?_foldl hc hi _ hres
  rw [← after_append] at hres
  obtain ⟨o', ho', -, rfl⟩ := (attendance_after _).returned n res (List.mem_of_getElem? hres)
  rw [hsame] at ho'
  cases ho'
  rfl

/-- A handle is given only if it is the outcome. -/
theorem outcome?_of_delivered {i n : Nat} {a : Option Nat} {h : η}
    (hi : r.callers[i]? = some (.waiting n))
    (hres : (r.step (.deliver i)).callers[i]? = some (.returned a (.ok h))) :
    r.outcome? n = some (.connected h) := by
  rw [step] at hres
  cases ho : r.outcome? n with
  | none =>
      rw [deliver_of_outcome_none hi ho, hi] at hres
      cases hres
  | some o =>
      rw [deliver_of_outcome_some hi ho] at hres
      cases o with
      | connected h' =>
          cases hres
          rfl
      | failed _ | disconnected | abandoned => cases hres

/-- What a disconnect means for a caller that waits, after some events. -/
structure Preemption (events : List (Event η)) : Prop where
  /-- Before the attempt has connected, a disconnect takes the handle from the caller. -/
  preempted : ∀ (i n : Nat) e, (after events).callers[i]? = some (.waiting n) →
    Cuts (after events) e n → (after events).connection.state = .connecting →
    ∀ more a res, (after (events ++ e :: more)).callers[i]? = some (.returned a res) →
      res = .error .disconnected
  /-- Afterwards it does not. -/
  too_late : ∀ (i n : Nat) e, (after events).callers[i]? = some (.waiting n) →
    Cuts (after events) e n → ∀ h, (after events).connection.state = .connected h →
    ∀ more a res, (after (events ++ e :: more)).callers[i]? = some (.returned a res) → res = .ok h
  /-- A handle that is given is live exactly if no disconnect came in between. -/
  live_iff : ∀ (i n : Nat) h, (after events).callers[i]? = some (.waiting n) →
    ((after events).step (.deliver i)).callers[i]? = some (.returned (some n) (.ok h)) →
    (((after events).connection.state = .connected h ∧ (after events).connection.attempt = n) ↔
      ⟨.connected, .disconnected, n⟩ ∉ (after events).connection.history)

/-- A disconnection that cuts an attempt short decides what its callers are told; one that comes after
the outcome does not take it back. -/
theorem preemption_after (events : List (Event η)) : Preemption events where
  preempted i n e hi hcut hs more a res hres := by
    rcases hcut.outcome? (consistent_after events) (ledger_after events) with ⟨_, ho⟩ | ⟨b, hb, _⟩
    · exact result_of_outcome e hi ho hres
    · rw [hs] at hb
      cases hb
  too_late i n e hi hcut h hs more a res hres := by
    rcases hcut.outcome? (consistent_after events) (ledger_after events) with ⟨hb, _⟩ | ⟨b, hb, ho⟩
    · rw [hs] at hb
      cases hb
    · rw [hs] at hb
      cases hb
      exact result_of_outcome e hi ho hres
  live_iff i n h hi hres := by
    have hl := ledger_after events
    have ho := outcome?_of_delivered hi hres
    have hfound := (hl.departed_iff n .connected).mpr ⟨_, ho, rfl⟩
    have hlost := (chronicled_after events).lost_iff hfound
    rw [hlost, Decidable.not_not]
    constructor
    · rintro ⟨hs, hn⟩
      exact ⟨by rw [hs]; rfl, hn.symm⟩
    · rintro ⟨hp, rfl⟩
      obtain ⟨a, ha⟩ := State.phase_eq_connected.mp hp
      rw [hl.connected a ha] at ho
      cases ho
      exact ⟨ha, rfl⟩

/-- The handle 7 is given to a caller after its loss. -/
theorem handle_given_after_loss :
    let found : Run Nat := after [.acquire, .begin 1, .finish 1 (.returned (.ok 7))]
    let given := after [.acquire, .begin 1, .finish 1 (.returned (.ok 7)), .lose 1, .deliver 0]
    found.callers[0]? = some (.waiting 1) ∧ Cuts found (.lose 1) 1 ∧
      given.callers[0]? = some (.returned (some 1) (.ok 7)) ∧
      given.connection.state = .disconnected :=
  ⟨rfl, .loss rfl, rfl, rfl⟩

end Run

end Swarmkeeper.Service
