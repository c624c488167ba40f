import Swarmkeeper.Proofs.Service.Turn

/-!
# How attempts end

Every attempt that is not under way has exactly one outcome, which never changes, and the history tells
it. An outcome that gives a handle or a failure is what the start call came to, and what a start call
came to never changes either.
-/

namespace Swarmkeeper.Service

variable {η : Type}

namespace Run

variable {r r' : Run η} {e : Event η}

/-! ## Outcomes -/

/-- Outcomes, attempts and history fit together. -/
structure Ledger (r : Run η) : Prop where
  one_le : r.connection.state = .connecting → 1 ≤ r.connection.attempt
  isSome_iff : ∀ n, (r.outcome? n).isSome ↔
    1 ≤ n ∧ n ≤ r.connection.attempt ∧ ¬(r.connection.state = .connecting ∧ n = r.connection.attempt)
  departed_iff : ∀ n y, ⟨.connecting, y, n⟩ ∈ r.connection.history ↔
    ∃ o, r.outcome? n = some o ∧ o.state.phase = y
  connected : ∀ h, r.connection.state = .connected h →
    r.outcome? r.connection.attempt = some (.connected h)

theorem outcome?_congr (h : r'.outcomes = r.outcomes) {n : Nat} : r'.outcome? n = r.outcome? n := by
  rw [outcome?, h, outcome?]

theorem outcome?_of_outcomes {n m : Nat} {o : Outcome η} (h : r'.outcomes = (n, o) :: r.outcomes) :
    r'.outcome? m = if m = n then some o else r.outcome? m := by
  rw [outcome?, h, List.lookup_cons, outcome?]
  by_cases hm : m = n
  · simp [hm]
  · simp [hm, beq_eq_false_iff_ne.mpr hm]

namespace Ledger

theorem empty : (empty : Run η).Ledger := by
  constructor <;> simp [Run.empty, Connection.idle, outcome?]
  omega

theorem outcome?_attempt (hl : r.Ledger) (hs : r.connection.state = .connecting) :
    r.outcome? r.connection.attempt = none := by
  cases ho : r.outcome? r.connection.attempt with
  | none => rfl
  | some o => exact absurd ⟨hs, rfl⟩ ((hl.isSome_iff _).mp (by simp [ho])).2.2

/-- A step from elsewhere into a phase is not the end of an attempt. -/
theorem departed_cons (hl : r.Ledger) {t : Transition} (ht : t.source ≠ .connecting)
    (history : r'.connection.history = t :: r.connection.history) (outcomes : r'.outcomes = r.outcomes)
    (n : Nat) (y : Phase) :
    ⟨.connecting, y, n⟩ ∈ r'.connection.history ↔
      ∃ o, r'.outcome? n = some o ∧ o.state.phase = y := by
  have hne : (⟨.connecting, y, n⟩ : Transition) ≠ t := by
    rintro rfl
    exact ht rfl
  rw [outcome?_congr outcomes, ← hl.departed_iff, history, List.mem_cons, or_iff_right hne]

/-- A new attempt has no outcome yet, and those before it keep theirs. -/
theorem start (hl : r.Ledger) (phase : r.connection.state.phase.canBecome .connecting = true)
    (state : r'.connection.state = .connecting)
    (attempt : r'.connection.attempt = r.connection.attempt + 1)
    (history : r'.connection.history =
      ⟨r.connection.state.phase, .connecting, r.connection.attempt + 1⟩ :: r.connection.history)
    (outcomes : r'.outcomes = r.outcomes) : r'.Ledger := by
  have hp : r.connection.state.phase ≠ .connecting := by
    intro h
    rw [h] at phase
    cases phase
  have hs : r.connection.state ≠ .connecting := mt State.phase_eq_connecting.mpr hp
  constructor
  · intro _
    omega
  · intro n
    rw [outcome?_congr outcomes, hl.isSome_iff, state, attempt]
    simp only [hs, false_and, not_false_eq_true, and_true, true_and]
    omega
  · exact hl.departed_cons hp history outcomes
  · intro h hh
    rw [state] at hh
    cases hh

/-- The end of the attempt under way is its outcome. -/
theorem settle (hl : r.Ledger) (o : Outcome η) (connecting : r.connection.state = .connecting)
    (state : r'.connection.state = o.state) (attempt : r'.connection.attempt = r.connection.attempt)
    (history : r'.connection.history =
      ⟨.connecting, o.state.phase, r.connection.attempt⟩ :: r.connection.history)
    (outcomes : r'.outcomes = (r.connection.attempt, o) :: r.outcomes) : r'.Ledger := by
  have hs : r'.connection.state ≠ .connecting := by
    rw [state]
    cases o <;> nofun
  constructor
  · intro h
    exact absurd h hs
  · intro n
    have hpos := hl.one_le connecting
    rw [outcome?_of_outcomes outcomes, attempt]
    by_cases hn : n = r.connection.attempt
    · simp [hn, hs, hpos]
    · simp [hn, hs, hl.isSome_iff]
  · intro n y
    rw [outcome?_of_outcomes outcomes, history, List.mem_cons, hl.departed_iff]
    by_cases hn : n = r.connection.attempt
    · simp [hn, hl.outcome?_attempt connecting, eq_comm]
    · simp [hn]
  · intro h hh
    rw [state] at hh
    cases o with
    | connected _ =>
        cases hh
        rw [outcome?_of_outcomes outcomes, if_pos attempt]
    | failed _ | disconnected | abandoned => cases hh

/-- The loss of a handle is the outcome of no attempt. -/
theorem part (hl : r.Ledger) {h : η} (connected : r.connection.state = .connected h)
    (state : r'.connection.state = .disconnected)
    (attempt : r'.connection.attempt = r.connection.attempt)
    (history : r'.connection.history =
      ⟨.connected, .disconnected, r.connection.attempt⟩ :: r.connection.history)
    (outcomes : r'.outcomes = r.outcomes) : r'.Ledger := by
  constructor
  · intro h
    rw [state] at h
    cases h
  · intro n
    rw [outcome?_congr outcomes, hl.isSome_iff, state, attempt, connected]
    simp
  · refine hl.departed_cons ?_ history outcomes
    intro h
    cases h
  · intro h hh
    rw [state] at hh
    cases hh

theorem turn (hl : r.Ledger) (ht : Turn r r') : r'.Ledger := by
  cases ht with
  | quiet state attempt history outcomes =>
      constructor <;> simp only [outcome?, state, attempt, history, outcomes]
      · exact hl.one_le
      · exact hl.isSome_iff
      · exact hl.departed_iff
      · exact hl.connected
  | start phase state attempt history outcomes =>
      exact hl.start phase state attempt history outcomes
  | settle o connecting state attempt history outcomes =>
      exact hl.settle o connecting state attempt history outcomes
  | part connected state attempt history outcomes =>
      exact hl.part connected state attempt history outcomes

/-- An outcome never changes. -/
theorem outcome?_turn (hl : r.Ledger) (ht : Turn r r') {n : Nat} {o : Outcome η}
    (h : r.outcome? n = some o) : r'.outcome? n = some o := by
  cases ht with
  | quiet _ _ _ outcomes | start _ _ _ _ outcomes | part _ _ _ _ outcomes =>
      rw [outcome?_congr outcomes, h]
  | settle o' connecting _ _ _ outcomes =>
      have hn : n ≠ r.connection.attempt := by
        intro hn
        rw [hn, hl.outcome?_attempt connecting] at h
        cases h
      rw [outcome?_of_outcomes outcomes, if_neg hn]
      exact h

end Ledger

/-- After any events the attempts that are not under way have one outcome each. -/
theorem ledger_after (events : List (Event η)) : (after events).Ledger :=
  after_induction .empty (fun _ h hl => hl.turn h.turn) events

/-! ## Start calls -/

theorem call?_changeCall {f : StartCall η → StartCall η} (hf : ∀ c, (f c).attempt = c.attempt)
    (n m : Nat) :
    (r.changeCall n f).call? m = if m = n then (r.call? m).map f else r.call? m := by
  have key : ((fun c : StartCall η => c.attempt == m) ∘ fun c => if c.attempt = n then f c else c) =
      fun c => c.attempt == m := by
    funext c
    by_cases h : c.attempt = n <;> simp [h, hf]
  rw [call?, changeCall, List.find?_map, key, call?]
  cases hc : r.calls.find? (fun c => c.attempt == m) with
  | none => simp
  | some c =>
      have hm : c.attempt = m := by simpa using List.find?_some hc
      by_cases h : m = n <;> simp [hm, h]

theorem ending?_changeCall {f : StartCall η → StartCall η} (hf : ∀ c, (f c).attempt = c.attempt)
    (n m : Nat) :
    (r.changeCall n f).ending? m =
      if m = n then (r.call? m).bind fun c => (f c).ending? else r.ending? m := by
  rw [ending?, call?_changeCall hf]
  split
  · rw [Option.bind_map]
    rfl
  · rfl

/-- To call off a start call that has ended comes too late. -/
@[simp] theorem ending?_settle (n m : Nat) (o : Outcome η) :
    (r.settle n o).ending? m = r.ending? m := by
  have h : ∀ c : StartCall η, c.callOff.ending? = c.ending? := by
    rintro ⟨_, _ | _ | _, _⟩ <;> rfl
  rw [settle, ending?_changeCall (f := StartCall.callOff) fun _ => rfl]
  simp only [h]
  split <;> rfl

theorem ending?_begin {n : Nat} (hn : r.canBegin n = true) (m : Nat) :
    (r.changeCall n .begin).ending? m = r.ending? m := by
  rw [ending?_changeCall (f := StartCall.begin) fun _ => rfl]
  split
  · rename_i hm
    subst hm
    obtain ⟨c, hc, hb⟩ := (Option.any_eq_true _ _).mp hn
    rw [ending?, hc]
    rcases c with ⟨_, _ | _ | _, _⟩ <;>
      simp_all [StartCall.canBegin, StartCall.begin, StartCall.ending?]
  · rfl

theorem ending?_finish {n : Nat} (hn : r.canEnd n = true) (e : Ending η) (m : Nat) :
    (r.changeCall n (.finish e)).ending? m = if m = n then some e else r.ending? m := by
  rw [ending?_changeCall (f := StartCall.finish e) fun _ => rfl]
  split
  · rename_i hm
    subst hm
    obtain ⟨c, hc, _⟩ := (Option.any_eq_true _ _).mp hn
    rw [hc]
    rfl
  · rfl

theorem ending?_of_canEnd {n : Nat} (hn : r.canEnd n = true) : r.ending? n = none := by
  obtain ⟨c, hc, he⟩ := (Option.any_eq_true _ _).mp hn
  rw [ending?, hc]
  rcases c with ⟨_, _ | _ | _, _⟩ <;> simp_all [StartCall.canEnd, StartCall.ending?]

/-- What a start call came to never changes. -/
theorem Rule.ending? (h : Rule r e r') {n : Nat} {x : Ending η} (hn : r.ending? n = some x) :
    r'.ending? n = some x := by
  have other {m : Nat} (hm : r.canEnd m = true) (y : Ending η) :
      (r.changeCall m (.finish y)).ending? n = some x := by
    rw [ending?_finish hm, if_neg, hn]
    intro h
    subst h
    rw [ending?_of_canEnd hm] at hn
    cases hn
  cases h with
  | stay _ | meet _ | join _ _ | leave _ _ _ | leaveLate _ _ | deliver _ _ | part _ _ | clock => exact hn
  | abandon _ _ _ | preempt _ => rw [ending?_settle]; exact hn
  | begin hb => rw [ending?_begin hb]; exact hn
  | finishLate hm _ => exact other hm _
  | succeed hm _ _ | fail hm _ _ => rw [ending?_settle]; exact other hm _
  | start _ _ =>
      obtain ⟨c, hc, hx⟩ := Option.bind_eq_some_iff.mp hn
      rw [Run.ending?, call?, List.find?_append, show r.calls.find? _ = some c from hc]
      exact hx

/-- An outcome that gives a handle or a failure is what the start call came to. -/
def Answered (r : Run η) : Prop :=
  ∀ n o, r.outcome? n = some o → o.state.phase = .connected ∨ o.state.phase = .failed →
    ∃ x, r.ending? n = some x ∧ x.result = o.result

/-- A rule that settles an attempt with an answer has it from the start call. -/
theorem Rule.answered (h : Rule r e r') (ha : r.Answered) : r'.Answered := by
  have old {n : Nat} {o : Outcome η} (ho : r.outcome? n = some o)
      (hp : o.state.phase = .connected ∨ o.state.phase = .failed) :
      ∃ x, r'.ending? n = some x ∧ x.result = o.result := by
    obtain ⟨x, hx, hr⟩ := ha n o ho hp
    exact ⟨x, h.ending? hx, hr⟩
  have new {m : Nat} {o : Outcome η} (hm : r'.outcomes = (m, o) :: r.outcomes)
      (hnew : o.state.phase = .connected ∨ o.state.phase = .failed →
        ∃ x, r'.ending? m = some x ∧ x.result = o.result) : r'.Answered := by
    intro n p hp hph
    rw [outcome?_of_outcomes hm] at hp
    split at hp
    · rename_i hn
      cases hp
      subst hn
      exact hnew hph
    · exact old hp hph
  cases h with
  | stay _ | meet _ | join _ _ | start _ _ | leave _ _ _ | leaveLate _ _ | deliver _ _ | begin _
  | finishLate _ _ | part _ _ | clock => exact fun _ _ ho hp => old ho hp
  | abandon _ _ _ | preempt _ => exact new rfl (by simp [Outcome.state, State.phase])
  | succeed hn _ he | fail hn _ he =>
      refine new rfl fun _ => ⟨_, ?_, he⟩
      rw [ending?_settle]
      exact (ending?_finish hn _ _).trans (if_pos rfl)

/-- A live handle is what the start call of its attempt returned. -/
theorem Answered.ending?_of_connected (ha : r.Answered) (hl : r.Ledger) {h : η}
    (hs : r.connection.state = .connected h) :
    r.ending? r.connection.attempt = some (.returned (.ok h)) := by
  obtain ⟨x, hx, hres⟩ := ha _ _ (hl.connected h hs) (.inl rfl)
  rw [hx, Ending.result_eq_ok.mp hres]

theorem answered_after (events : List (Event η)) : (after events).Answered :=
  after_induction (by simp [Answered, empty, outcome?]) (fun _ h ha => h.answered ha) events

end Run

end Swarmkeeper.Service
