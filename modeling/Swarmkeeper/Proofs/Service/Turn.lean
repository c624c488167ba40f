import Swarmkeeper.Proofs.Service.Rules

/-!
# What a step means for the attempts

Most rules leave the attempts alone. Of the others one begins an attempt, four end the attempt that is
under way, and one takes a live handle away.
-/

namespace Swarmkeeper.Service

variable {η : Type}

/-! ## Consistency is kept -/

namespace Connection.Consistent

variable {c : Connection η}

theorem idle : (Connection.idle (η := η)).Consistent := by
  constructor <;> simp [Connection.idle, State.phase, Setting.ofValue]

/-- A state without an attempt and without a handle needs nothing beside it. -/
theorem enter_rest {s : State η} (hp : c.pending = none) (hw : c.watched = none)
    (hs : s.phase ≠ .connecting) (hs' : s.phase ≠ .connected) : (c.enter s).Consistent where
  pending_of_connecting h := by
    rw [Connection.enter_state] at h
    subst h
    exact absurd rfl hs
  pending_eq_none _ := hp
  watched_of_connected h hh := by
    rw [Connection.enter_state] at hh
    subst hh
    exact absurd rfl hs'
  watched_eq_none _ := hw
  published_eq := rfl

theorem start (hc : c.Consistent) (hs : c.state.phase.canBecome .connecting = true) :
    c.start.Consistent where
  pending_of_connecting _ := ⟨0, rfl⟩
  pending_eq_none h := absurd rfl h
  watched_of_connected _ h := by cases h
  watched_eq_none _ := by
    refine hc.watched_eq_none ?_
    intro h
    rw [h] at hs
    cases hs
  published_eq := rfl

theorem watched_of_connecting (hc : c.Consistent) (hs : c.state = .connecting) : c.watched = none :=
  hc.watched_eq_none (by simp [hs, State.phase])

theorem setWaiters (hc : c.Consistent) (hs : c.state = .connecting) (w : Nat) :
    { c with pending := some ⟨c.attempt, w + 1⟩ : Connection η }.Consistent where
  pending_of_connecting _ := ⟨w, rfl⟩
  pending_eq_none h := absurd hs h
  watched_of_connected := hc.watched_of_connected
  watched_eq_none := hc.watched_eq_none
  published_eq := hc.published_eq

theorem atMoment (hc : c.Consistent) (moment : Int) : (c.atMoment moment).Consistent where
  pending_of_connecting := hc.pending_of_connecting
  pending_eq_none := hc.pending_eq_none
  watched_of_connected := hc.watched_of_connected
  watched_eq_none := hc.watched_eq_none
  published_eq := hc.published_eq

end Connection.Consistent

namespace Run

variable {r r' : Run η} {e : Event η}

/-- Every rule keeps the parts of a connection in agreement. -/
theorem Rule.consistent (h : Rule r e r') (hc : r.connection.Consistent) :
    r'.connection.Consistent := by
  cases h with
  | stay _ | meet _ | leaveLate _ _ | deliver _ _ | begin _ | finishLate _ _ => exact hc
  | clock => exact hc.atMoment _
  | join hs _ => exact hc.setWaiters hs _
  | leave _ hs _ => exact hc.setWaiters hs _
  | start hs _ => exact hc.start hs
  | abandon _ hs _ | fail _ hs _ => exact .enter_rest rfl (hc.watched_of_connecting hs) nofun nofun
  | preempt _ | part _ _ => exact .enter_rest rfl rfl nofun nofun
  | succeed _ _ _ =>
      exact ⟨fun h => (by cases h), fun _ => rfl, fun _ _ => rfl, fun h => absurd rfl h, rfl⟩

end Run

/-! ## Turns -/

/-- The state that an attempt leaves behind which ends in this way. -/
def Outcome.state : Outcome η → State η
  | connected h => .connected h
  | failed f => .failed f.message
  | disconnected => .disconnected
  | abandoned => .idle

namespace Run

/-- What can happen to the attempts in a step, and how state, history and outcomes tell. -/
inductive Turn (r r' : Run η) : Prop where
  | quiet (state : r'.connection.state = r.connection.state)
      (attempt : r'.connection.attempt = r.connection.attempt)
      (history : r'.connection.history = r.connection.history) (outcomes : r'.outcomes = r.outcomes)
  | start (phase : r.connection.state.phase.canBecome .connecting = true)
      (state : r'.connection.state = .connecting)
      (attempt : r'.connection.attempt = r.connection.attempt + 1)
      (history : r'.connection.history =
        ⟨r.connection.state.phase, .connecting, r.connection.attempt + 1⟩ :: r.connection.history)
      (outcomes : r'.outcomes = r.outcomes)
  | settle (o : Outcome η) (connecting : r.connection.state = .connecting)
      (state : r'.connection.state = o.state)
      (attempt : r'.connection.attempt = r.connection.attempt)
      (history : r'.connection.history =
        ⟨.connecting, o.state.phase, r.connection.attempt⟩ :: r.connection.history)
      (outcomes : r'.outcomes = (r.connection.attempt, o) :: r.outcomes)
  | part {h : η} (connected : r.connection.state = .connected h)
      (state : r'.connection.state = .disconnected)
      (attempt : r'.connection.attempt = r.connection.attempt)
      (history : r'.connection.history =
        ⟨.connected, .disconnected, r.connection.attempt⟩ :: r.connection.history)
      (outcomes : r'.outcomes = r.outcomes)

/-- To the attempts a rule is one of the turns. -/
theorem Rule.turn (h : Rule r e r') : Turn r r' := by
  cases h with
  | stay _ | meet _ | join _ _ | leave _ _ _ | leaveLate _ _ | deliver _ _ | begin _ | finishLate _ _
  | clock => exact .quiet rfl rfl rfl rfl
  | start hs _ => exact .start hs rfl rfl rfl rfl
  | abandon _ hs _ => exact .settle .abandoned hs rfl rfl (by simp [hs, State.phase, Outcome.state]) rfl
  | succeed _ hs _ =>
      exact .settle (.connected _) hs rfl rfl (by simp [hs, State.phase, Outcome.state]) rfl
  | fail _ hs _ => exact .settle (.failed _) hs rfl rfl (by simp [hs, State.phase, Outcome.state]) rfl
  | preempt hs => exact .settle .disconnected hs rfl rfl (by simp [hs, State.phase, Outcome.state]) rfl
  | part _ hs => exact .part hs rfl rfl (by simp [hs, State.phase]) rfl

/-! ## Runs -/

/-- What every rule keeps is kept by any number of further events. -/
theorem foldl_step_induction {P : Run η → Prop} (hc : r.connection.Consistent) (hr : P r)
    (step : ∀ {r e r'}, r.connection.Consistent → Rule r e r' → P r → P r') (events : List (Event η)) :
    (events.foldl Run.step r).connection.Consistent ∧ P (events.foldl Run.step r) := by
  induction events generalizing r with
  | nil => exact ⟨hc, hr⟩
  | cons e events ih =>
      have h := step_rule hc e
      exact ih (h.consistent hc) (step hc h hr)

/-- What holds before the first event and is kept by every rule holds after any events. -/
theorem after_induction {P : Run η → Prop} (init : P empty)
    (step : ∀ {r e r'}, r.connection.Consistent → Rule r e r' → P r → P r') (events : List (Event η)) :
    P (after events) :=
  (foldl_step_induction .idle init step events).2

/-- The parts of a connection agree after any events. -/
theorem consistent_after (events : List (Event η)) : (after events).connection.Consistent :=
  (foldl_step_induction .idle trivial (fun _ _ _ => trivial) events).1

theorem after_append (events more : List (Event η)) :
    after (events ++ more) = more.foldl step (after events) :=
  List.foldl_append

end Run

end Swarmkeeper.Service
