import Swarmkeeper.Service.Run

/-!
# The rules of a run

In a run that starts from nothing the state of the connection tells whether an attempt is under way and
whose handle is watched. Every step of such a run follows one of the rules below, and what holds of all
runs is shown rule by rule.
-/

namespace Swarmkeeper.Service

variable {η : Type}

/-! ## Consistent connections -/

/-- An attempt is under way exactly in the connecting phase, and it is the last one; a handle is watched
exactly in the connected phase; those who follow the connection see its state. -/
structure Connection.Consistent (c : Connection η) : Prop where
  pending_of_connecting : c.state = .connecting → ∃ n, c.pending = some ⟨c.attempt, n + 1⟩
  pending_eq_none : c.state ≠ .connecting → c.pending = none
  watched_of_connected : ∀ h, c.state = .connected h → c.watched = some c.attempt
  watched_eq_none : c.state.phase ≠ .connected → c.watched = none
  published_eq : c.published.value = c.state

namespace Connection.Consistent

variable {c : Connection η}

theorem state_of_pending (hc : c.Consistent) {p : Pending} (hp : c.pending = some p) :
    c.state = .connecting := by
  by_cases h : c.state = .connecting
  · exact h
  · rw [hc.pending_eq_none h] at hp
    cases hp

theorem attempt_of_pending (hc : c.Consistent) {p : Pending} (hp : c.pending = some p) :
    p.attempt = c.attempt := by
  obtain ⟨n, hn⟩ := hc.pending_of_connecting (hc.state_of_pending hp)
  rw [hp] at hn
  cases hn
  rfl

theorem state_of_isPending (hc : c.Consistent) {n : Nat} (hn : c.isPending n = true) :
    c.state = .connecting ∧ n = c.attempt := by
  obtain ⟨w, hw⟩ := Connection.isPending_iff.mp hn
  exact ⟨hc.state_of_pending hw, hc.attempt_of_pending hw⟩

/-- An attempt is under way exactly in the connecting phase. -/
theorem isSome_pending_iff (hc : c.Consistent) : c.pending.isSome ↔ c.state = .connecting := by
  constructor
  · intro h
    obtain ⟨p, hp⟩ := Option.isSome_iff_exists.mp h
    exact hc.state_of_pending hp
  · intro hs
    obtain ⟨n, hn⟩ := hc.pending_of_connecting hs
    simp [hn]

theorem one_le_waiters (hc : c.Consistent) {p : Pending} (hp : c.pending = some p) :
    1 ≤ p.waiters := by
  obtain ⟨n, hn⟩ := hc.pending_of_connecting (hc.state_of_pending hp)
  rw [hp] at hn
  cases hn
  exact Nat.le_add_left 1 n

theorem state_of_watched (hc : c.Consistent) {n : Nat} (hn : c.watched = some n) :
    n = c.attempt ∧ ∃ h, c.state = .connected h := by
  by_cases hs : c.state.phase = .connected
  · obtain ⟨h, hh⟩ := State.phase_eq_connected.mp hs
    rw [hc.watched_of_connected h hh] at hn
    exact ⟨(Option.some.inj hn).symm, h, hh⟩
  · rw [hc.watched_eq_none hs] at hn
    cases hn

/-- A handle is watched exactly in the connected phase. -/
theorem isSome_watched_iff (hc : c.Consistent) :
    c.watched.isSome ↔ c.state.phase = .connected := by
  rw [State.phase_eq_connected]
  constructor
  · intro h
    obtain ⟨n, hn⟩ := Option.isSome_iff_exists.mp h
    exact (hc.state_of_watched hn).2
  · rintro ⟨h, hh⟩
    simp [hc.watched_of_connected h hh]

theorem isPending_attempt (hc : c.Consistent) (hs : c.state = .connecting) :
    c.isPending c.attempt = true := by
  obtain ⟨n, hn⟩ := hc.pending_of_connecting hs
  exact Connection.isPending_iff.mpr ⟨_, hn⟩

end Connection.Consistent

/-! ## Rules -/

/-- The event may come when there is nothing for it to act on. -/
def Event.mayIdle : Event η → Bool
  | .acquire | .clock _ => false
  | _ => true

/-- What the clock shows from now on, if the event is one of the clock. -/
def Event.clock? : Event η → Option Int
  | .clock moment => some moment
  | _ => none

namespace Run

/-- What one event can do to a run whose connection is consistent. -/
inductive Rule (r : Run η) : Event η → Run η → Prop where
  /-- The event cannot happen any more, or has nothing to act on. -/
  | stay {e : Event η} (he : e.mayIdle = true) : Rule r e r
  | meet {h : η} (hs : r.connection.state = .connected h) :
      Rule r .acquire { r with callers := r.callers ++ [.returned none (.ok h)] }
  | join {w : Nat} (hs : r.connection.state = .connecting)
      (hp : r.connection.pending = some ⟨r.connection.attempt, w + 1⟩) :
      Rule r .acquire { r with
        connection := { r.connection with pending := some ⟨r.connection.attempt, w + 2⟩ }
        callers := r.callers ++ [.waiting r.connection.attempt] }
  | start (hs : r.connection.state.phase.canBecome .connecting = true)
      (hp : r.connection.pending = none) :
      Rule r .acquire { r with
        connection := r.connection.start
        callers := r.callers ++ [.waiting (r.connection.attempt + 1)]
        calls := r.calls ++ [.ofAttempt (r.connection.attempt + 1)] }
  | leave {i w : Nat} (hi : r.callers[i]? = some (.waiting r.connection.attempt))
      (hs : r.connection.state = .connecting)
      (hp : r.connection.pending = some ⟨r.connection.attempt, w + 2⟩) :
      Rule r (.drop i) { r with
        connection := { r.connection with pending := some ⟨r.connection.attempt, w + 1⟩ }
        callers := r.callers.set i (.dropped r.connection.attempt) }
  | abandon {i : Nat} (hi : r.callers[i]? = some (.waiting r.connection.attempt))
      (hs : r.connection.state = .connecting)
      (hp : r.connection.pending = some ⟨r.connection.attempt, 1⟩) :
      Rule r (.drop i) ({ r with
        connection := { r.connection with pending := none }.enter .idle
        callers := r.callers.set i (.dropped r.connection.attempt) }.settle
          r.connection.attempt .abandoned)
  /-- A caller leaves an attempt that has ended, before it has looked. -/
  | leaveLate {i n : Nat} (hi : r.callers[i]? = some (.waiting n))
      (hp : r.connection.isPending n = false) :
      Rule r (.drop i) { r with callers := r.callers.set i (.dropped n) }
  | deliver {i n : Nat} {o : Outcome η} (hi : r.callers[i]? = some (.waiting n))
      (ho : r.outcome? n = some o) :
      Rule r (.deliver i) { r with callers := r.callers.set i (.returned (some n) o.result) }
  | begin {n : Nat} (hn : r.canBegin n = true) : Rule r (.begin n) (r.changeCall n .begin)
  /-- The start call of an attempt that has ended returns all the same. -/
  | finishLate {n : Nat} {e : Ending η} (hn : r.canEnd n = true)
      (hp : r.connection.isPending n = false) :
      Rule r (.finish n e) (r.changeCall n (.finish e))
  | succeed {e : Ending η} {h : η} (hn : r.canEnd r.connection.attempt = true)
      (hs : r.connection.state = .connecting) (he : e.result = .ok h) :
      Rule r (.finish r.connection.attempt e) (({ r with
        connection := { { r.connection with pending := none, failures := 0 }.enter (.connected h) with
          watched := some r.connection.attempt } }.changeCall r.connection.attempt (.finish e)).settle
            r.connection.attempt (.connected h))
  | fail {e : Ending η} {f : Failure} (hn : r.canEnd r.connection.attempt = true)
      (hs : r.connection.state = .connecting) (he : e.result = .error f) :
      Rule r (.finish r.connection.attempt e) (({ r with
        connection := { r.connection with
          pending := none
          failures := r.connection.failures + 1
          mishap := some ⟨f.message, r.connection.now⟩ }.enter (.failed f.message) }.changeCall
            r.connection.attempt (.finish e)).settle r.connection.attempt (.failed f))
  /-- A disconnect comes before the attempt has ended. -/
  | preempt (hs : r.connection.state = .connecting) :
      Rule r .disconnect ({ r with
        connection := { r.connection with pending := none, watched := none }.enter .disconnected
        }.settle r.connection.attempt .disconnected)
  /-- The service goes while its handle is live, as a signal or the handle itself tells. -/
  | part {e : Event η} {h : η} (he : e = .disconnect ∨ e = .lose r.connection.attempt)
      (hs : r.connection.state = .connected h) :
      Rule r e { r with
        connection := { r.connection with pending := none, watched := none }.enter .disconnected }
  | clock {moment : Int} : Rule r (.clock moment) { r with connection := r.connection.atMoment moment }

variable {r : Run η}

theorem acquire_rule (hc : r.connection.Consistent) : Rule r .acquire r.acquire := by
  have idle (hs : r.connection.state.phase.canBecome .connecting = true)
      (ha : r.connection.acquire = (.started (r.connection.attempt + 1), r.connection.start)) :
      Rule r .acquire r.acquire := by
    have hp : r.connection.pending = none := by
      apply hc.pending_eq_none
      intro h
      rw [h] at hs
      cases hs
    simpa [acquire, ha, forsake, hp] using Rule.start hs hp
  cases hs : r.connection.state with
  | connected h => simpa [acquire, Connection.acquire, hs] using Rule.meet hs
  | connecting =>
      obtain ⟨w, hw⟩ := hc.pending_of_connecting hs
      simpa [acquire, Connection.acquire, hs, hw] using Rule.join hs hw
  | idle | disconnected | failed _ =>
      exact idle (by rw [hs]; rfl) (by simp [Connection.acquire, hs])

theorem drop_rule (hc : r.connection.Consistent) (i : Nat) : Rule r (.drop i) (r.drop i) := by
  unfold drop
  split
  · rename_i n hi
    cases hn : r.connection.isPending n with
    | false =>
        have hr : r.connection.release n = (none, r.connection) := by
          unfold Connection.release
          split
          · rename_i p hp
            have : p.attempt ≠ n := by simpa [Connection.isPending, hp] using hn
            simp [this]
          · rfl
        simpa [hr, settle?] using Rule.leaveLate hi hn
    | true =>
        obtain ⟨hs, rfl⟩ := hc.state_of_isPending hn
        obtain ⟨w, hw⟩ := hc.pending_of_connecting hs
        cases w with
        | zero => simpa [Connection.release, hw, settle?] using Rule.abandon hi hs hw
        | succ w => simpa [Connection.release, hw, settle?] using Rule.leave hi hs hw
  · exact .stay rfl

theorem deliver_rule (i : Nat) : Rule r (.deliver i) (r.deliver i) := by
  unfold deliver
  split
  · rename_i hi
    split
    · rename_i ho
      exact .deliver hi ho
    · exact .stay rfl
  · exact .stay rfl

theorem begin_rule (n : Nat) : Rule r (.begin n) (r.begin n) := by
  unfold begin
  split
  · rename_i hn
    exact .begin hn
  · exact .stay rfl

theorem finish_rule (hc : r.connection.Consistent) (n : Nat) (e : Ending η) :
    Rule r (.finish n e) (r.finish n e) := by
  unfold finish
  split
  · rename_i hn
    cases hp : r.connection.isPending n with
    | false => simpa [Connection.complete, hp, settle?] using Rule.finishLate hn hp
    | true =>
        obtain ⟨hs, rfl⟩ := hc.state_of_isPending hp
        cases he : e.result with
        | ok h => simpa [Connection.complete, hp, settle?] using Rule.succeed hn hs he
        | error f => simpa [Connection.complete, hp, settle?] using Rule.fail hn hs he
  · exact .stay rfl

theorem disconnect_rule (hc : r.connection.Consistent) : Rule r .disconnect r.disconnect := by
  cases hs : r.connection.state with
  | connecting =>
      obtain ⟨w, hw⟩ := hc.pending_of_connecting hs
      simpa [disconnect, Connection.disconnect, hs, hw] using Rule.preempt hs
  | connected h =>
      have hp := hc.pending_eq_none (by simp [hs])
      simpa [disconnect, Connection.disconnect, hs, hp] using Rule.part (.inl rfl) hs
  | idle | disconnected | failed _ =>
      simpa [disconnect, Connection.disconnect, hs] using Rule.stay (r := r) (e := .disconnect) rfl

/-- The loss of a handle that is not, or no longer, the one in use changes nothing. -/
theorem lose_rule (hc : r.connection.Consistent) (n : Nat) :
    Rule r (.lose n) { r with connection := r.connection.lose n } := by
  cases hs : r.connection.state with
  | connected h =>
      by_cases hn : r.connection.attempt = n
      · subst hn
        have hp := hc.pending_eq_none (by simp [hs])
        have := Rule.part (r := r) (.inr rfl) hs
        simpa [Connection.lose, hs, hp] using this
      · simpa [Connection.lose, hs, hn] using Rule.stay (r := r) (e := .lose n) rfl
  | idle | connecting | disconnected | failed _ =>
      simpa [Connection.lose, hs] using Rule.stay (r := r) (e := .lose n) rfl

/-- Every step from a consistent connection follows a rule. -/
theorem step_rule (hc : r.connection.Consistent) (e : Event η) : Rule r e (r.step e) := by
  cases e with
  | acquire => exact acquire_rule hc
  | drop i => exact drop_rule hc i
  | deliver i => exact deliver_rule i
  | begin n => exact begin_rule n
  | finish n e => exact finish_rule hc n e
  | disconnect => exact disconnect_rule hc
  | lose n => exact lose_rule hc n
  | clock moment => exact .clock

/-- Nothing but the clock itself changes what it shows. -/
theorem Rule.now {r' : Run η} {e : Event η} (h : Rule r e r') :
    r'.connection.now = e.clock?.getD r.connection.now := by
  cases h with
  | stay he => cases e <;> first | rfl | cases he
  | part he _ => rcases he with rfl | rfl <;> rfl
  | meet _ | join _ _ | start _ _ | leave _ _ _ | abandon _ _ _ | leaveLate _ _ | deliver _ _ | begin _
  | finishLate _ _ | succeed _ _ _ | fail _ _ _ | preempt _ | clock => rfl

end Run

end Swarmkeeper.Service
