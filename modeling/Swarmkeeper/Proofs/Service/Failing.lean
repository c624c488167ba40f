import Swarmkeeper.Proofs.Service.Ledger

/-!
# A service that fails each time

When start calls only begin and fail, an attempt that is under way stays so until it has failed, and after
that nothing happens before the next caller asks. So the failures are as many as the attempts that have
ended.
-/

namespace Swarmkeeper.Service

variable {η : Type}

/-- A start call goes on, and fails with an error after which one may try again; or the clock goes on. -/
inductive Event.Fails : Event η → Prop where
  | begin (attempt : Nat) : Fails (.begin attempt)
  | finish (attempt : Nat) {ending : Ending η} {f : Failure} (failed : ending.result = .error f)
      (again : f.isRetryable = true) : Fails (.finish attempt ending)
  | clock (moment : Int) : Fails (.clock moment)

/-- So many attempts have ended, all of them in failure, and none is under way. -/
structure Run.Quiet (r : Run η) (n : Nat) : Prop where
  phase : r.connection.state.phase.canBecome .connecting = true
  attempt : r.connection.attempt = n
  failures : r.connection.failures = n

/-- So many attempts have failed, and one more is under way. -/
structure Run.Busy (r : Run η) (n : Nat) : Prop where
  state : r.connection.state = .connecting
  attempt : r.connection.attempt = n + 1
  failures : r.connection.failures = n

namespace Run

variable {r r' : Run η} {e : Event η} {n : Nat}

theorem Quiet.not_connecting (h : r.Quiet n) : r.connection.state ≠ .connecting := by
  intro hs
  have := h.phase
  rw [hs] at this
  cases this

/-- What a failing service does disturbs no connection at rest. -/
theorem Rule.quiet (h : Rule r e r') (he : e.Fails) (hq : r.Quiet n) : r'.Quiet n := by
  cases h with
  | stay _ | begin _ | finishLate _ _ | clock => exact ⟨hq.phase, hq.attempt, hq.failures⟩
  | succeed _ hs _ | fail _ hs _ => exact absurd hs hq.not_connecting
  | meet _ | join _ _ | start _ _ | leave _ _ _ | abandon _ _ _ | leaveLate _ _ | deliver _ _
  | preempt _ => cases he
  | part h _ => rcases h with rfl | rfl <;> cases he

/-- The attempt goes on, or has failed with an error after which one may try again. -/
theorem Rule.busy (h : Rule r e r') (he : e.Fails) (hb : r.Busy n) :
    r'.Busy n ∨ (r'.Quiet (n + 1) ∧
      ∃ f, r'.outcome? (n + 1) = some (.failed f) ∧ f.isRetryable = true) := by
  cases h with
  | stay _ | begin _ | finishLate _ _ | clock => exact .inl ⟨hb.state, hb.attempt, hb.failures⟩
  | succeed _ _ hres =>
      cases he with
      | finish _ failed _ => simp [hres] at failed
  | fail _ hs hres =>
      cases he with
      | finish _ failed again =>
          rw [hres] at failed
          cases failed
          refine .inr ⟨⟨rfl, hb.attempt, congrArg (· + 1) hb.failures⟩, _, ?_, again⟩
          rw [← hb.attempt]
          exact (outcome?_of_outcomes (r := r) rfl).trans (if_pos rfl)
  | meet _ | join _ _ | start _ _ | leave _ _ _ | abandon _ _ _ | leaveLate _ _ | deliver _ _
  | preempt _ => cases he
  | part h _ => rcases h with rfl | rfl <;> cases he

/-- Neither does a caller who learns what became of his attempt. -/
theorem Quiet.deliver (hq : r.Quiet n) (i : Nat) : (r.step (.deliver i)).Quiet n := by
  have h := deliver_rule (r := r) i
  rw [step]
  generalize r.deliver i = r' at h ⊢
  cases h with
  | stay _ | deliver _ _ => exact ⟨hq.phase, hq.attempt, hq.failures⟩
  | part h _ => rcases h with h | h <;> cases h

/-- A caller that asks when no attempt is under way starts one. -/
theorem Quiet.acquire (hq : r.Quiet n) (hc : r.connection.Consistent) :
    (r.step .acquire).Busy n ∧
      (r.step .acquire).callers[r.callers.length]? = some (.waiting (n + 1)) := by
  have h := acquire_rule hc
  rw [step]
  generalize r.acquire = r' at h ⊢
  cases h with
  | stay he => cases he
  | meet hs =>
      have := hq.phase
      rw [hs] at this
      cases this
  | join hs _ => exact absurd hs hq.not_connecting
  | start _ _ =>
      refine ⟨⟨rfl, congrArg (· + 1) hq.attempt, hq.failures⟩, ?_⟩
      rw [← hq.attempt]
      exact List.getElem?_concat_length
  | part he _ => rcases he with he | he <;> cases he

end Run

end Swarmkeeper.Service
