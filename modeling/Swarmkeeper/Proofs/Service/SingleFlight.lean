import Mathlib.Data.List.Nodup
import Swarmkeeper.Proofs.Service.Chronicle
import Swarmkeeper.Proofs.Service.Ledger

/-!
# One start call at a time

Every attempt has one start call, and only that of the attempt under way can still be of use. Whatever
comes for an attempt that is over finds nothing to change.
-/

namespace Swarmkeeper.Service

variable {η : Type}

/-- The call has neither ended nor been called off. -/
def StartCall.isLive : StartCall η → Bool
  | ⟨_, .ended _, _⟩ | ⟨_, _, true⟩ => false
  | ⟨_, .due, false⟩ | ⟨_, .begun, false⟩ => true

namespace StartCall

@[simp] theorem isLive_finish (e : Ending η) (c : StartCall η) : (c.finish e).isLive = false := rfl

@[simp] theorem isLive_callOff (c : StartCall η) : c.callOff.isLive = false := by
  rcases c with ⟨_, _ | _ | _, _⟩ <;> rfl

theorem isLive_begin {c : StartCall η} (h : c.canBegin = true) : c.begin.isLive = c.isLive := by
  rcases c with ⟨_, _ | _ | _, _ | _⟩ <;> first | rfl | cases h

end StartCall

namespace Run

variable {r r' : Run η} {e : Event η}

/-! ## The start calls of the attempts -/

/-- The start calls are those of the attempts 1, 2, 3 and so on, in order. -/
def Numbered (r : Run η) : Prop :=
  r.calls.map (·.attempt) = List.range' 1 r.connection.attempt

theorem map_attempt_changeCall {f : StartCall η → StartCall η} (hf : ∀ c, (f c).attempt = c.attempt)
    (n : Nat) : (r.changeCall n f).calls.map (·.attempt) = r.calls.map (·.attempt) := by
  rw [changeCall, List.map_map]
  refine List.map_congr_left fun c _ => ?_
  by_cases h : c.attempt = n <;> simp [h, hf]

theorem mem_changeCall {f : StartCall η → StartCall η} {n : Nat} {c : StartCall η}
    (hc : c ∈ (r.changeCall n f).calls) :
    (c ∈ r.calls ∧ c.attempt ≠ n) ∨ ∃ d ∈ r.calls, d.attempt = n ∧ c = f d := by
  obtain ⟨d, hd, hdc⟩ := List.mem_map.mp hc
  by_cases hn : d.attempt = n
  · rw [if_pos hn] at hdc
    exact .inr ⟨d, hd, hn, hdc.symm⟩
  · rw [if_neg hn] at hdc
    subst hdc
    exact .inl ⟨hd, hn⟩

/-- Every attempt has one start call, in the order of the attempts. -/
theorem Rule.numbered (h : Rule r e r') (hr : r.Numbered) : r'.Numbered := by
  unfold Numbered at hr ⊢
  cases h with
  | stay _ | meet _ | join _ _ | leave _ _ _ | leaveLate _ _ | deliver _ _ | part _ _ | clock => exact hr
  | begin _ => exact (map_attempt_changeCall (f := .begin) (fun _ => rfl) _).trans hr
  | finishLate _ _ => exact (map_attempt_changeCall (f := .finish _) (fun _ => rfl) _).trans hr
  | abandon _ _ _ | preempt _ =>
      exact (map_attempt_changeCall (f := .callOff) (fun _ => rfl) _).trans hr
  | succeed _ _ _ | fail _ _ _ =>
      refine (map_attempt_changeCall (f := .callOff) (fun _ => rfl) _).trans ?_
      exact (map_attempt_changeCall (f := .finish _) (fun _ => rfl) _).trans hr
  | start _ _ =>
      show _ = List.range' 1 (r.connection.attempt + 1)
      rw [List.map_append, hr, List.range'_1_concat, Nat.add_comm 1]
      rfl

theorem numbered_after (events : List (Event η)) : (after events).Numbered :=
  after_induction (P := Numbered) rfl (fun _ h hr => h.numbered hr) events

namespace Numbered

theorem nodup (hr : r.Numbered) : (r.calls.map (·.attempt)).Nodup := by
  rw [hr]
  exact List.nodup_range'

theorem attempt_le (hr : r.Numbered) {c : StartCall η} (hc : c ∈ r.calls) :
    c.attempt ≤ r.connection.attempt := by
  have h := List.mem_map_of_mem (f := (·.attempt)) hc
  rw [hr, List.mem_range'_1] at h
  omega

theorem length_calls (hr : r.Numbered) : r.calls.length = r.connection.attempt := by
  have h := congrArg List.length hr
  simpa using h

/-- There is no other start call of an attempt. -/
theorem call?_eq (hr : r.Numbered) {c : StartCall η} (hc : c ∈ r.calls) :
    r.call? c.attempt = some c := by
  have hnd := hr.nodup
  unfold call?
  generalize r.calls = calls at hc hnd
  induction calls with
  | nil => cases hc
  | cons d calls ih =>
      rw [List.map_cons, List.nodup_cons] at hnd
      rcases List.mem_cons.mp hc with rfl | hc
      · simp
      · have hne : d.attempt ≠ c.attempt := fun h => hnd.1 (h ▸ List.mem_map_of_mem hc)
        rw [List.find?_cons_of_neg (by simpa using hne)]
        exact ih hc hnd.2

end Numbered

/-! ## The live start call -/

/-- A start call is live if it is that of the attempt under way, and not otherwise. -/
def Manned (r : Run η) : Prop :=
  ∀ c ∈ r.calls, c.isLive = true ↔
    r.connection.state = .connecting ∧ c.attempt = r.connection.attempt

theorem Manned.settle (hr : r.Manned) (hcalls : ∀ c ∈ r'.calls, c.isLive = true →
      c ∈ r.calls ∧ c.attempt ≠ r.connection.attempt)
    (hs : r'.connection.state ≠ .connecting) : r'.Manned := by
  intro c hc
  refine iff_of_false (fun hlive => ?_) (fun h => hs h.1)
  obtain ⟨hold, hne⟩ := hcalls c hc hlive
  exact hne ((hr c hold).mp hlive).2

theorem mem_callOff {n : Nat} {c : StartCall η} (hc : c ∈ (r.changeCall n .callOff).calls)
    (hlive : c.isLive = true) : c ∈ r.calls ∧ c.attempt ≠ n := by
  rcases mem_changeCall hc with h | ⟨d, _, _, rfl⟩
  · exact h
  · rw [StartCall.isLive_callOff] at hlive
    cases hlive

theorem mem_finish_callOff {n : Nat} {x : Ending η} {c : StartCall η}
    (hc : c ∈ ((r.changeCall n (.finish x)).changeCall n .callOff).calls) (hlive : c.isLive = true) :
    c ∈ r.calls ∧ c.attempt ≠ n := by
  obtain ⟨hc, hne⟩ := mem_callOff hc hlive
  rcases mem_changeCall hc with h | ⟨d, _, hd, rfl⟩
  · exact h
  · exact absurd hd hne

/-- No rule leaves a start call live when its attempt has ended. -/
theorem Rule.manned (h : Rule r e r') (hc : r.connection.Consistent) (hn : r.Numbered)
    (hr : r.Manned) : r'.Manned := by
  cases h with
  | stay _ | meet _ | join _ _ | leave _ _ _ | leaveLate _ _ | deliver _ _ | clock => exact hr
  | part _ hs => exact hr.settle (fun c hc hlive => absurd ((hr c hc).mp hlive).1 (by simp [hs])) nofun
  | abandon _ _ _ | preempt _ => exact hr.settle (fun c hc hlive => mem_callOff hc hlive) nofun
  | succeed _ _ _ | fail _ _ _ =>
      exact hr.settle (fun c hc hlive => mem_finish_callOff hc hlive) nofun
  | start hs _ =>
      intro c hc
      have hnot : r.connection.state ≠ .connecting := by
        intro h
        rw [h] at hs
        cases hs
      rcases List.mem_append.mp hc with hc | hc
      · refine iff_of_false (fun hlive => hnot ((hr c hc).mp hlive).1) (fun h => ?_)
        have := hn.attempt_le hc
        have : c.attempt = r.connection.attempt + 1 := h.2
        omega
      · rw [List.mem_singleton.mp hc]
        exact iff_of_true rfl ⟨rfl, rfl⟩
  | begin hb =>
      intro c hc
      rcases mem_changeCall hc with ⟨hc, _⟩ | ⟨d, hd, rfl, rfl⟩
      · exact hr c hc
      · have hbegin : d.canBegin = true := by
          simpa [canBegin, hn.call?_eq hd] using hb
        rw [StartCall.isLive_begin hbegin]
        exact hr d hd
  | finishLate _ hp =>
      intro c hc'
      rcases mem_changeCall hc' with ⟨hc', _⟩ | ⟨d, hd, rfl, rfl⟩
      · exact hr c hc'
      · refine iff_of_false (by simp) ?_
        rintro ⟨hs, hd'⟩
        rw [show d.attempt = r.connection.attempt from hd', hc.isPending_attempt hs] at hp
        cases hp

theorem manned_after (events : List (Event η)) : (after events).Manned :=
  (after_induction (P := fun r => r.Numbered ∧ r.Manned) ⟨rfl, by simp [Manned, empty]⟩
    (fun hc h ⟨hn, hr⟩ => ⟨h.numbered hn, h.manned hc hn hr⟩) events).2

/-- One start call is live in the connecting phase, and none in any other. -/
theorem Manned.countP_isLive (hr : r.Manned) (hn : r.Numbered) (hl : r.Ledger) :
    r.calls.countP (·.isLive) = if r.connection.state.phase = .connecting then 1 else 0 := by
  split
  · rename_i hp
    have hs := State.phase_eq_connecting.mp hp
    have hone := hl.one_le hs
    have heq : r.calls.countP (·.isLive) =
        (r.calls.map (·.attempt)).countP (· == r.connection.attempt) := by
      rw [List.countP_map]
      refine List.countP_congr fun c hc => ?_
      simpa [hs] using hr c hc
    rw [heq, ← List.count, List.count_eq_one_of_mem hn.nodup]
    rw [hn, List.mem_range'_1]
    omega
  · rename_i hp
    rw [List.countP_eq_zero]
    intro c hc hlive
    exact hp (State.phase_eq_connecting.mpr ((hr c hc).mp hlive).1)

/-! ## Attempts that are over -/

/-- The attempt is not the last one, or has ended. -/
def Over (r : Run η) (n : Nat) : Prop := n ≠ r.connection.attempt ∨ (r.outcome? n).isSome

/-- An attempt that is over is not the one under way. -/
theorem Over.isPending_eq_false {n : Nat} (h : r.Over n) (hc : r.connection.Consistent)
    (hl : r.Ledger) : r.connection.isPending n = false := by
  rw [Bool.eq_false_iff]
  intro hp
  obtain ⟨hs, rfl⟩ := hc.state_of_isPending hp
  rcases h with h | h
  · exact h rfl
  · exact ((hl.isSome_iff _).mp h).2.2 ⟨hs, rfl⟩

end Run

namespace Connection

variable {c : Connection η} {n : Nat}

/-- The result of an attempt that is not under way comes to nothing. -/
theorem complete_of_not_pending (h : c.isPending n = false) (res : Except Failure η) :
    c.complete n res = (none, c) := by
  simp [complete, h]

/-- A departure from an attempt that is not under way comes to nothing. -/
theorem release_of_not_pending (h : c.isPending n = false) : c.release n = (none, c) := by
  unfold release
  split
  · rename_i p hp
    have hne : p.attempt ≠ n := by simpa [isPending, hp] using h
    rw [if_pos hne]
  · rfl

/-- The loss of a handle that is not in use comes to nothing. -/
theorem lose_of_not_connected (h : ¬(c.state.phase = .connected ∧ n = c.attempt)) : c.lose n = c := by
  unfold lose
  split
  · rename_i hs
    rw [if_neg]
    rintro rfl
    exact h ⟨by rw [hs]; rfl, rfl⟩
  · rfl

end Connection

namespace Run

variable {r : Run η} {n : Nat}

theorem finish_of_not_pending (h : r.connection.isPending n = false) (x : Ending η) :
    r.finish n x = if r.canEnd n then r.changeCall n (.finish x) else r := by
  simp only [finish, Connection.complete_of_not_pending h, settle?]

theorem drop_of_not_pending {i : Nat} (hi : r.callers[i]? = some (.waiting n))
    (h : r.connection.isPending n = false) :
    r.drop i = { r with callers := r.callers.set i (.dropped n) } := by
  unfold drop
  rw [hi]
  simp only [Connection.release_of_not_pending h, settle?]

/-- Nobody starts a second call, and nothing that comes late changes the connection. -/
structure SingleFlight (events : List (Event η)) : Prop where
  /-- One start call is live while an attempt is under way, and none otherwise. -/
  live_calls : (after events).calls.countP (·.isLive) =
    if (after events).connection.state.phase = .connecting then 1 else 0
  /-- No more start calls are made than there are attempts. -/
  begun_le : (after events).begun ≤
    (after events).connection.history.countP (·.target = .connecting)
  /-- Who finds an attempt under way or a handle makes no attempt. -/
  shares : (after events).connection.state.phase = .connecting ∨
      (after events).connection.state.phase = .connected →
    ((after events).step .acquire).connection.attempt = (after events).connection.attempt ∧
    ((after events).step .acquire).connection.history = (after events).connection.history ∧
    ((after events).step .acquire).calls = (after events).calls
  late_result : ∀ n, (after events).Over n → ∀ x : Ending η,
    (after events).connection.complete n x.result = (none, (after events).connection) ∧
    (after events).step (.finish n x) =
      if (after events).canEnd n then (after events).changeCall n (.finish x) else after events
  late_departure : ∀ n, (after events).Over n →
    (after events).connection.release n = (none, (after events).connection) ∧
    ∀ i, (after events).callers[i]? = some (.waiting n) → (after events).step (.drop i) =
      { after events with callers := (after events).callers.set i (.dropped n) }
  late_loss : ∀ n, ¬((after events).connection.state.phase = .connected ∧
      n = (after events).connection.attempt) → (after events).step (.lose n) = after events

/-- However many callers there are, one start call is under way at most, and what becomes of attempts
that are over leaves the connection as it is. -/
theorem single_flight (events : List (Event η)) : SingleFlight events where
  live_calls := (manned_after events).countP_isLive (numbered_after events) (ledger_after events)
  begun_le := by
    have hchron : Chronicle _ _ _ := chronicled_after events
    rw [hchron.countP_target_connecting, ← (numbered_after events).length_calls]
    exact List.countP_le_length
  shares hs := by
    have h := acquire_rule (consistent_after events)
    rw [step]
    generalize (after events).acquire = r' at h
    cases h with
    | stay he => cases he
    | meet _ | join _ _ => exact ⟨rfl, rfl, rfl⟩
    | start hphase _ =>
        rcases hs with hs | hs <;> rw [hs] at hphase <;> cases hphase
    | part he _ => rcases he with he | he <;> cases he
  late_result n hn x := by
    have hp := hn.isPending_eq_false (consistent_after events) (ledger_after events)
    exact ⟨Connection.complete_of_not_pending hp _, finish_of_not_pending hp x⟩
  late_departure n hn := by
    have hp := hn.isPending_eq_false (consistent_after events) (ledger_after events)
    exact ⟨Connection.release_of_not_pending hp, fun i hi => drop_of_not_pending hi hp⟩
  late_loss n hn := by
    rw [step, Connection.lose_of_not_connected hn]

end Run

end Swarmkeeper.Service
