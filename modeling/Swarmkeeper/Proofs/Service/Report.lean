import Mathlib.Data.List.Induction
import Swarmkeeper.Proofs.Service.Chronicle
import Swarmkeeper.Proofs.Service.Ledger

/-!
# What a status tells of the past

The counters of a status, the reason it gives and the moment of that are read off the states that the
connection has entered and what the clock showed then. An event that enters no state leaves them alone,
whatever it is.
-/

namespace Swarmkeeper.Service

variable {η : Type}

/-! ## Counting the states entered -/

namespace State

/-- The reason that a failed state gives. -/
def reason? : State η → Option String
  | failed reason => some reason
  | _ => none

/-- The failure that entering a state at this moment is, if it is one. -/
def mishap? (s : State η) (moment : Int) : Option Mishap := s.reason?.map (⟨·, moment⟩)

theorem reason_mishap? (s : State η) (moment : Int) :
    (s.mishap? moment).map (·.reason) = s.reason? := by
  cases s <;> rfl

/-- The number of failures in a row when this state is entered after `n` of them. -/
def countFailures (s : State η) (n : Nat) : Nat :=
  match s with
  | connected _ => 0
  | failed _ => n + 1
  | _ => n

end State

namespace Run

variable {r r' : Run η} {e : Event η}

/-- What a step does to state, history and counters. -/
inductive Tally (r r' : Run η) : Prop where
  | quiet (state : r'.connection.state = r.connection.state)
      (history : r'.connection.history = r.connection.history)
      (failures : r'.connection.failures = r.connection.failures)
      (mishap : r'.connection.mishap = r.connection.mishap)
  | enter {t : Transition} (target : t.target = r'.connection.state.phase)
      (history : r'.connection.history = t :: r.connection.history)
      (failures : r'.connection.failures = r'.connection.state.countFailures r.connection.failures)
      (mishap : r'.connection.mishap =
        (r'.connection.state.mishap? r'.connection.now).or r.connection.mishap)

/-- A rule adds the state that it enters to the counters, or leaves them alone. -/
theorem Rule.tally (h : Rule r e r') : Tally r r' := by
  cases h with
  | stay _ | meet _ | join _ _ | leave _ _ _ | leaveLate _ _ | deliver _ _ | begin _ | finishLate _ _
  | clock => exact .quiet rfl rfl rfl rfl
  | start _ _ | abandon _ _ _ | succeed _ _ _ | fail _ _ _ | preempt _ | part _ _ =>
      exact .enter rfl rfl rfl rfl

/-- The states that the run enters in these events, in order; the history grows with each. -/
def entered (r : Run η) : List (Event η) → List (State η)
  | [] => []
  | e :: events =>
      if (r.step e).connection.history = r.connection.history then (r.step e).entered events
      else (r.step e).connection.state :: (r.step e).entered events

/-- The states that the run enters in these events, each with what the clock shows then. -/
def dated (r : Run η) : List (Event η) → List (State η × Int)
  | [] => []
  | e :: events =>
      if (r.step e).connection.history = r.connection.history then (r.step e).dated events
      else ((r.step e).connection.state, (r.step e).connection.now) :: (r.step e).dated events

theorem map_fst_dated (events : List (Event η)) (r : Run η) :
    (r.dated events).map Prod.fst = r.entered events := by
  induction events generalizing r with
  | nil => rfl
  | cons e events ih =>
      unfold dated entered
      split
      · exact ih _
      · exact congrArg (List.cons _) (ih _)

/-- The states that one more event enters stand at the end. -/
theorem dated_concat (events : List (Event η)) (r : Run η) (e : Event η) :
    r.dated (events ++ [e]) = r.dated events ++ (events.foldl step r).dated [e] := by
  induction events generalizing r with
  | nil => rfl
  | cons d events ih =>
      simp only [List.cons_append, dated, List.foldl_cons, ih]
      split <;> rfl

/-- The failures among these phases, latest first, that come after the last success. -/
def failuresSince (phases : List Phase) : Nat :=
  (phases.takeWhile (· ≠ .connected)).countP (· = .failed)

theorem failuresSince_cons (s : State η) (phases : List Phase) :
    failuresSince (s.phase :: phases) = s.countFailures (failuresSince phases) := by
  cases s <;> simp [failuresSince, State.countFailures, State.phase]

/-- State, history, counters and last failure as the states tell that were entered, latest first. -/
structure Told (c : Connection η) (dated : List (State η × Int)) : Prop where
  state : c.state = (dated.map Prod.fst).head?.getD .idle
  history : c.history.map (·.target) = (dated.map Prod.fst).map State.phase
  failures : c.failures = failuresSince (c.history.map (·.target))
  mishap : c.mishap = dated.findSome? fun entry => entry.1.mishap? entry.2

theorem Tally.told {dated : List (State η × Int)} (h : Tally r (r.step e)) (hr : Told r.connection dated) :
    Told (r.step e).connection ((r.dated [e]).reverse ++ dated) := by
  cases h with
  | quiet state history failures mishap =>
      rw [Run.dated, if_pos history]
      exact ⟨state.trans hr.state, history ▸ hr.history, history ▸ failures.trans hr.failures,
        mishap.trans hr.mishap⟩
  | enter target history failures mishap =>
      have hne : (r.step e).connection.history ≠ r.connection.history := by simp [history]
      rw [Run.dated, if_neg hne]
      refine ⟨rfl, ?_, ?_, ?_⟩
      · simp [history, target, hr.history, Run.dated]
      · rw [failures, hr.failures, history, List.map_cons, target, failuresSince_cons]
      · rw [mishap, hr.mishap]
        simp only [Run.dated, List.reverse_cons, List.reverse_nil, List.nil_append,
          List.singleton_append, List.findSome?_cons]
        cases (r.step e).connection.state.mishap? (r.step e).connection.now <;> rfl

/-- What the counters tell is true of the states that were entered. -/
theorem told_after (events : List (Event η)) :
    Told (after events).connection (empty.dated events).reverse := by
  induction events using List.reverseRecOn with
  | nil => exact ⟨rfl, rfl, rfl, rfl⟩
  | append_singleton events e ih =>
      have h := (step_rule (consistent_after events) e).tally.told ih
      rw [dated_concat, List.reverse_append, after_append]
      exact h

/-- What the clock shows after these events, if it has shown zero before. -/
def clockAfter (events : List (Event η)) : Int := events.foldl (fun now e => e.clock?.getD now) 0

/-- The clock of the connection shows what it was last set to. -/
theorem now_after (events : List (Event η)) : (after events).connection.now = clockAfter events := by
  induction events using List.reverseRecOn with
  | nil => rfl
  | append_singleton events e ih =>
      rw [after_append, clockAfter, List.foldl_append]
      refine (step_rule (consistent_after events) e).now.trans ?_
      rw [ih]
      rfl

/-! ## Reasons -/

/-- The last reason is that of an attempt that has failed. -/
def Reasoned (r : Run η) : Prop :=
  ∀ reason, r.connection.lastFailure = some reason →
    ∃ n f, r.outcome? n = some (.failed f) ∧ f.message = reason

/-- The last reason is that of an attempt that failed, and stays so. -/
theorem Rule.reasoned (h : Rule r e r') (hl : r.Ledger) (hr : r.Reasoned) : r'.Reasoned := by
  have old (hf : r'.connection.lastFailure = r.connection.lastFailure) : r'.Reasoned := by
    intro reason hreason
    obtain ⟨n, f, ho, hm⟩ := hr reason (hf ▸ hreason)
    exact ⟨n, f, hl.outcome?_turn h.turn ho, hm⟩
  cases h with
  | fail _ _ _ =>
      intro reason hreason
      exact ⟨_, _, (outcome?_of_outcomes rfl).trans (if_pos rfl), Option.some.inj hreason⟩
  | stay _ | meet _ | join _ _ | start _ _ | leave _ _ _ | leaveLate _ _ | deliver _ _ | begin _
  | finishLate _ _ | abandon _ _ _ | succeed _ _ _ | preempt _ | part _ _ | clock => exact old rfl

theorem reasoned_after (events : List (Event η)) : (after events).Reasoned := by
  have h : (after events).Ledger ∧ (after events).Reasoned :=
    after_induction (P := fun r => r.Ledger ∧ r.Reasoned) ⟨.empty, nofun⟩
      (fun _ h hr => ⟨hr.1.turn h.turn, h.reasoned hr.1 hr.2⟩) events
  exact h.2

/-! ## The status -/

/-- Nothing but the end of the start call of the attempt under way changes what is counted. -/
theorem Rule.count_eq (h : Rule r e r') (hc : r.connection.Consistent)
    (he : ∀ n x, e = .finish n x → r.connection.isPending n = false) :
    r'.connection.failures = r.connection.failures ∧ r'.connection.mishap = r.connection.mishap := by
  cases h with
  | succeed _ hs _ | fail _ hs _ =>
      have := he _ _ rfl
      rw [hc.isPending_attempt hs] at this
      cases this
  | stay _ | meet _ | join _ _ | start _ _ | leave _ _ _ | leaveLate _ _ | deliver _ _ | begin _
  | finishLate _ _ | abandon _ _ _ | preempt _ | part _ _ | clock => exact ⟨rfl, rfl⟩

/-- What the status of a run says, and the steps of the run. -/
structure Truthful (events : List (Event η)) : Prop where
  /-- The states entered are those that the history records. -/
  entered : (empty.entered events).map State.phase =
    (after events).connection.history.reverse.map (·.target)
  attempt : (after events).connection.status.attempt =
    (after events).connection.history.countP (·.target = .connecting)
  /-- The history has its latest step first. -/
  failures : (after events).connection.status.failures =
    failuresSince ((after events).connection.history.map (·.target))
  lastFailure : (after events).connection.status.lastFailure =
    (empty.entered events).reverse.findSome? State.reason?
  /-- The moment is what the clock showed when the last failure was entered. -/
  lastFailureAt : (after events).connection.status.lastFailureAt =
    ((empty.dated events).reverse.findSome? fun entry => entry.1.mishap? entry.2).map (·.moment)
  dated : (empty.dated events).map Prod.fst = empty.entered events
  now : (after events).connection.now = clockAfter events
  absent : (after events).connection.status.lastFailure = none ↔
    ∀ t ∈ (after events).connection.history, t.target ≠ .failed
  /-- The reason is the wording of what the start call of a failed attempt came to. -/
  reason : ∀ reason, (after events).connection.status.lastFailure = some reason →
    ∃ n x f, ⟨.connecting, .failed, n⟩ ∈ (after events).connection.history ∧
      (after events).ending? n = some x ∧ x.result = .error f ∧ f.message = reason
  untouched : ∀ e, (∀ n x, e = .finish n x → (after events).connection.isPending n = false) →
    (after (events ++ [e])).connection.status.failures = (after events).connection.status.failures ∧
      (after (events ++ [e])).connection.status.lastFailure =
        (after events).connection.status.lastFailure ∧
      (after (events ++ [e])).connection.status.lastFailureAt =
        (after events).connection.status.lastFailureAt
  failed : ∀ reason, (after events).connection.state = .failed reason →
    (after events).connection.status.lastFailure = some reason ∧
      1 ≤ (after events).connection.status.failures ∧
      (after events).connection.status.describe = "failed: " ++ reason

namespace Told

variable {c : Connection η} {dated : List (State η × Int)}

/-- The last reason is that of the last state with a reason. -/
theorem lastFailure_eq (h : Told c dated) :
    c.lastFailure = (dated.map Prod.fst).findSome? State.reason? := by
  rw [Connection.lastFailure, h.mishap, List.map_findSome?, List.findSome?_map]
  exact congrArg (List.findSome? · dated) (funext fun entry => entry.1.reason_mishap? entry.2)

/-- There is none as long as no attempt has failed. -/
theorem lastFailure_eq_none (h : Told c dated) :
    c.lastFailure = none ↔ ∀ t ∈ c.history, t.target ≠ .failed := by
  have hreason (s : State η) : s.reason? = none ↔ s.phase ≠ .failed := by
    cases s <;> simp [State.reason?, State.phase]
  have hphases : (∀ t ∈ c.history, t.target ≠ .failed) ↔ .failed ∉ c.history.map (·.target) := by simp
  rw [h.lastFailure_eq, List.findSome?_eq_none_iff, hphases, h.history]
  simp [hreason]

theorem failed {reason : String} (h : Told c dated) (hs : c.state = .failed reason) :
    c.lastFailure = some reason ∧ 1 ≤ c.failures := by
  cases dated with
  | nil =>
      rw [h.state] at hs
      cases hs
  | cons entry dated =>
      obtain ⟨s, moment⟩ := entry
      obtain rfl : s = .failed reason := h.state.symm.trans hs
      rw [h.lastFailure_eq, h.failures, h.history, List.map_cons, List.map_cons, failuresSince_cons]
      exact ⟨rfl, Nat.le_add_left _ _⟩

end Told

/-- After any events a status says how often the connection has been connecting, how often it has failed
since it was last connected, and why and when it last failed. -/
theorem status_truthful (events : List (Event η)) : Truthful events where
  entered := by
    rw [List.map_reverse, (told_after events).history, List.map_reverse, List.map_reverse,
      List.reverse_reverse, map_fst_dated]
  attempt := (chronicled_after events).countP_target_connecting.symm
  failures := (told_after events).failures
  lastFailure := by
    rw [← map_fst_dated, ← List.map_reverse]
    exact (told_after events).lastFailure_eq
  lastFailureAt := congrArg (Option.map Mishap.moment) (told_after events).mishap
  dated := map_fst_dated events empty
  now := now_after events
  absent := (told_after events).lastFailure_eq_none
  reason reason h := by
    obtain ⟨n, f, ho, hm⟩ := reasoned_after events reason h
    obtain ⟨x, hx, hres⟩ := answered_after events n _ ho (.inr rfl)
    exact ⟨n, x, f, ((ledger_after events).departed_iff n .failed).mpr ⟨_, ho, rfl⟩, hx, hres, hm⟩
  untouched e he := by
    rw [after_append]
    obtain ⟨hf, hm⟩ := (step_rule (consistent_after events) e).count_eq (consistent_after events) he
    exact ⟨hf, congrArg (Option.map Mishap.reason) hm, congrArg (Option.map Mishap.moment) hm⟩
  failed reason hs := by
    obtain ⟨hl, hf⟩ := (told_after events).failed hs
    refine ⟨hl, hf, ?_⟩
    simp only [Status.describe, Connection.status, hs, hl, State.phase]
    rfl

end Run

end Swarmkeeper.Service
