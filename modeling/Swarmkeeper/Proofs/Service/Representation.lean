import Swarmkeeper.Proofs.Service.Attendance

/-!
# The representation of a run

In every run the parts of a connection agree with each other, with its callers and with the start calls
of its attempts, whatever the order of the events.
-/

namespace Swarmkeeper.Service

variable {η : Type}

namespace Run

variable {r r' : Run η}

def Legal (r : Run η) : Prop := ∀ t ∈ r.connection.history, t.source.canBecome t.target = true

/-- A turn takes a step that the phases allow. -/
theorem Turn.legal (h : Turn r r') (hr : r.Legal) : r'.Legal := by
  have cons {t : Transition} (ht : t.source.canBecome t.target = true)
      (hh : r'.connection.history = t :: r.connection.history) : r'.Legal := by
    intro u hu
    rw [hh] at hu
    rcases List.mem_cons.mp hu with rfl | hu
    · exact ht
    · exact hr u hu
  cases h with
  | quiet _ _ history _ =>
      intro t ht
      rw [history] at ht
      exact hr t ht
  | start phase _ _ history _ => exact cons phase history
  | settle o _ _ _ history _ => exact cons (by cases o <;> rfl) history
  | part _ _ _ history _ => exact cons rfl history

/-- So every step of a history is one that the phases allow. -/
theorem legal_after (events : List (Event η)) : (after events).Legal :=
  after_induction (by simp [Legal, empty, Connection.idle]) (fun _ h hr => h.turn.legal hr) events

/-- How the parts of a run belong together. -/
structure Represented (r : Run η) : Prop where
  pending_iff : r.connection.pending.isSome ↔ r.connection.state = .connecting
  pending_attempt : ∀ p, r.connection.pending = some p → p.attempt = r.connection.attempt
  /-- The callers that have joined the attempt under way and have neither returned nor gone. -/
  pending_waiters : ∀ p, r.connection.pending = some p →
    p.waiters = (r.waiting p.attempt).length ∧ 1 ≤ p.waiters
  watched_iff : r.connection.watched.isSome ↔ r.connection.state.phase = .connected
  /-- The handle that is watched is what the start call of the last attempt returned. -/
  watched_handle : ∀ n, r.connection.watched = some n → n = r.connection.attempt ∧
    ∃ h, r.connection.state = .connected h ∧ r.ending? n = some (.returned (.ok h))
  published_eq : r.connection.published.value = r.connection.state
  legal : ∀ t ∈ r.connection.history, t.source.canBecome t.target = true
  /-- While an attempt is under way nobody starts another. -/
  acquire_joins : ∀ p, r.connection.pending = some p → r.connection.acquire.1 = .joined p.attempt

/-- After any events there is a pending attempt exactly while the state is that of connecting, its
waiters are those callers who have not left, and the watcher is that of the handle in use. -/
theorem represented_after (events : List (Event η)) : (after events).Represented where
  pending_iff := (consistent_after events).isSome_pending_iff
  pending_attempt _ hp := (consistent_after events).attempt_of_pending hp
  pending_waiters p hp := by
    refine ⟨?_, (consistent_after events).one_le_waiters hp⟩
    rw [length_waiting, (attendance_after events).count p hp]
  watched_iff := (consistent_after events).isSome_watched_iff
  watched_handle n hn := by
    obtain ⟨rfl, h, hh⟩ := (consistent_after events).state_of_watched hn
    exact ⟨rfl, h, hh, (answered_after events).ending?_of_connected (ledger_after events) hh⟩
  published_eq := (consistent_after events).published_eq
  legal := legal_after events
  acquire_joins p hp := by
    simp [Connection.acquire, (consistent_after events).state_of_pending hp, hp]

end Run

end Swarmkeeper.Service
