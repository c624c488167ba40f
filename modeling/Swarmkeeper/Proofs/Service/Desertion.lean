import Mathlib.Data.List.Induction
import Swarmkeeper.Proofs.Service.Agreement
import Swarmkeeper.Proofs.Service.SingleFlight

/-!
# Attempts that everybody leaves

An attempt goes back to idle exactly if all who ever joined it have gone in time, that is before it was
completed or preempted. Its start call is called off then.
-/

namespace Swarmkeeper.Service

variable {η : Type}

namespace Run

variable {r r' : Run η} {e : Event η} {i n : Nat}

/-! ## What stays as it is -/

/-- The caller has started or joined the attempt, whatever has become of it. -/
def Joined (r : Run η) (i n : Nat) : Prop := ∃ c, r.callers[i]? = some c ∧ c.attempt? = some n

/-- The attempt has been completed or preempted. -/
def Concluded (r : Run η) (n : Nat) : Prop :=
  ∃ y, y ≠ .idle ∧ ⟨.connecting, y, n⟩ ∈ r.connection.history

theorem Rule.joined (h : Rule r e r') (hj : r.Joined i n) : r'.Joined i n := by
  obtain ⟨c, hi, hn⟩ := hj
  rcases h.callers_get hi with h | ⟨m, rfl, h | ⟨_, h⟩⟩
  · exact ⟨c, h, hn⟩
  · exact ⟨_, h, hn⟩
  · exact ⟨_, h, hn⟩

theorem Turn.mem_history (h : Turn r r') {t : Transition} (ht : t ∈ r.connection.history) :
    t ∈ r'.connection.history := by
  cases h with
  | quiet _ _ history _ => rwa [history]
  | start _ _ _ history _ | settle _ _ _ _ history _ | part _ _ _ history _ =>
      rw [history]
      exact List.mem_cons_of_mem _ ht

/-- Only the attempt under way can come to an end in a step. -/
theorem Turn.mem_history_or (h : Turn r r') {y : Phase}
    (ht : ⟨.connecting, y, n⟩ ∈ r'.connection.history) :
    ⟨.connecting, y, n⟩ ∈ r.connection.history ∨
      (r.connection.state = .connecting ∧ n = r.connection.attempt) := by
  cases h with
  | quiet _ _ history _ =>
      rw [history] at ht
      exact .inl ht
  | start phase _ _ history _ =>
      rw [history] at ht
      rcases List.mem_cons.mp ht with heq | ht
      · rw [← (Transition.mk.inj heq).1] at phase
        cases phase
      · exact .inl ht
  | settle _ connecting _ _ history _ =>
      rw [history] at ht
      rcases List.mem_cons.mp ht with heq | ht
      · exact .inr ⟨connecting, (Transition.mk.inj heq).2.2⟩
      · exact .inl ht
  | part _ _ _ history _ =>
      rw [history] at ht
      rcases List.mem_cons.mp ht with heq | ht
      · cases (Transition.mk.inj heq).1
      · exact .inl ht

theorem joined_mono {earlier events : List (Event η)} (hp : earlier <+: events)
    (hj : (after earlier).Joined i n) : (after events).Joined i n := by
  obtain ⟨more, rfl⟩ := hp
  rw [after_append]
  exact (foldl_step_induction (P := fun r => r.Joined i n) (consistent_after earlier) hj
    (fun _ h hj => h.joined hj) more).2

theorem history_mono {earlier events : List (Event η)} (hp : earlier <+: events) {t : Transition}
    (ht : t ∈ (after earlier).connection.history) : t ∈ (after events).connection.history := by
  obtain ⟨more, rfl⟩ := hp
  rw [after_append]
  exact (foldl_step_induction (P := fun r => t ∈ r.connection.history) (consistent_after earlier) ht
    (fun _ h ht => h.turn.mem_history ht) more).2

/-- What has been concluded stays concluded. -/
theorem concluded_mono {earlier events : List (Event η)} (hp : earlier <+: events)
    (hn : (after earlier).Concluded n) : (after events).Concluded n := by
  obtain ⟨y, hy, ht⟩ := hn
  exact ⟨y, hy, history_mono hp ht⟩

theorem dropped_mono {earlier events : List (Event η)} (hp : earlier <+: events)
    (hi : (after earlier).callers[i]? = some (.dropped n)) :
    (after events).callers[i]? = some (.dropped n) := by
  obtain ⟨more, rfl⟩ := hp
  rw [after_append]
  exact callers_foldl (consistent_after earlier) hi nofun more

/-- Who has gone does not come back. -/
theorem not_waiting_of_dropped {earlier events : List (Event η)} (hp : earlier <+: events)
    (hi : (after earlier).callers[i]? = some (.dropped n)) :
    (after events).callers[i]? ≠ some (.waiting n) := by
  rw [dropped_mono hp hi]
  nofun

/-! ## The moment of the end -/

/-- An attempt that has been completed or preempted was so by one step, before which it was under way. -/
theorem exists_conclusion {events : List (Event η)} (h : (after events).Concluded n) :
    ∃ earlier e, earlier ++ [e] <+: events ∧ (after earlier).connection.isPending n = true ∧
      (after (earlier ++ [e])).Concluded n := by
  induction events using List.reverseRecOn with
  | nil =>
      obtain ⟨y, _, hy⟩ := h
      cases hy
  | append_singleton events e ih =>
      by_cases hbefore : (after events).Concluded n
      · obtain ⟨earlier, e', hp, hpending, hn⟩ := ih hbefore
        exact ⟨earlier, e', hp.trans (List.prefix_append _ _), hpending, hn⟩
      · refine ⟨events, e, List.prefix_rfl, ?_, h⟩
        have hc := consistent_after events
        obtain ⟨y, hy, ht⟩ := h
        rw [after_append] at ht
        rcases (step_rule hc e).turn.mem_history_or ht with hold | ⟨hs, rfl⟩
        · exact absurd ⟨y, hy, hold⟩ hbefore
        · exact hc.isPending_attempt hs

/-- Somebody waits for the attempt that is under way. -/
theorem exists_waiting (events : List (Event η)) (hn : (after events).connection.isPending n = true) :
    ∃ i : Nat, (after events).callers[i]? = some (.waiting n) := by
  obtain ⟨w, hw⟩ := Connection.isPending_iff.mp hn
  have hpos := (consistent_after events).one_le_waiters hw
  rw [← (attendance_after events).count _ hw] at hpos
  obtain ⟨c, hc, hcn⟩ := List.countP_pos_iff.mp hpos
  cases c with
  | waiting m =>
      obtain rfl : m = n := by simpa [Caller.waitsFor] using hcn
      exact List.mem_iff_getElem?.mp hc
  | returned _ _ | dropped _ => cases hcn

/-! ## Who has gone in time -/

/-- The caller has gone before the attempt was completed or preempted. -/
def GoneInTime (events : List (Event η)) (i n : Nat) : Prop :=
  ∃ earlier, earlier <+: events ∧ (after earlier).callers[i]? = some (.dropped n) ∧
    ¬(after earlier).Concluded n

/-- When an attempt is completed or preempted, somebody has not gone in time. -/
theorem exists_late_of_concluded {events : List (Event η)} (h : (after events).Concluded n) :
    ∃ i, (after events).Joined i n ∧ ¬GoneInTime events i n := by
  obtain ⟨before, e, hp, hpending, hn⟩ := exists_conclusion h
  obtain ⟨i, hi⟩ := exists_waiting before hpending
  have hbefore := (List.prefix_append before [e]).trans hp
  refine ⟨i, joined_mono hbefore ⟨_, hi, rfl⟩, ?_⟩
  rintro ⟨earlier, hearlier, hgone, hnot⟩
  rcases List.prefix_or_prefix_of_prefix hearlier hp with hle | hle
  · rcases List.prefix_concat_iff.mp hle with rfl | hle
    · exact hnot hn
    · exact not_waiting_of_dropped hle hgone hi
  · exact hnot (concluded_mono hle hn)

/-- As long as an attempt is under way somebody waits for it. -/
theorem exists_late_of_pending {events : List (Event η)}
    (h : (after events).connection.isPending n = true) :
    ∃ i, (after events).Joined i n ∧ ¬GoneInTime events i n := by
  obtain ⟨i, hi⟩ := exists_waiting events h
  refine ⟨i, ⟨_, hi, rfl⟩, ?_⟩
  rintro ⟨earlier, hearlier, hgone, _⟩
  exact not_waiting_of_dropped hearlier hgone hi

/-- To go back to idle is to be abandoned. -/
theorem abandoned_iff (events : List (Event η)) (n : Nat) :
    ⟨.connecting, .idle, n⟩ ∈ (after events).connection.history ↔
      (after events).outcome? n = some .abandoned := by
  rw [(ledger_after events).departed_iff]
  constructor
  · rintro ⟨o, ho, hidle⟩
    cases o with
    | abandoned => exact ho
    | connected _ | failed _ | disconnected => cases hidle
  · exact fun ho => ⟨_, ho, rfl⟩

/-- Of an abandoned attempt everybody has gone in time. -/
theorem goneInTime_of_abandoned {events : List (Event η)}
    (h : ⟨.connecting, .idle, n⟩ ∈ (after events).connection.history)
    (hj : (after events).Joined i n) : GoneInTime events i n := by
  have hl := ledger_after events
  have ho := (abandoned_iff events n).mp h
  refine ⟨events, List.prefix_rfl, ?_, ?_⟩
  · obtain ⟨c, hi, hn⟩ := hj
    have hmem := List.mem_of_getElem? hi
    cases c with
    | waiting m =>
        cases hn
        exact absurd hmem ((attendance_after events).abandoned n ho)
    | returned a res =>
        obtain rfl : a = some n := hn
        obtain ⟨o, ho', hne, _⟩ := (attendance_after events).returned n res hmem
        rw [ho] at ho'
        cases ho'
        exact absurd rfl hne
    | dropped m =>
        cases hn
        exact hi
  · rintro ⟨y, hy, hmem⟩
    exact hy (hl.exit_unique hmem h)

/-- An attempt goes back to idle exactly if all who joined it have gone in time. -/
theorem idle_mem_history_iff {events : List (Event η)} (hn : 1 ≤ n)
    (hle : n ≤ (after events).connection.attempt) :
    ⟨.connecting, .idle, n⟩ ∈ (after events).connection.history ↔
      ∀ i, (after events).Joined i n → GoneInTime events i n := by
  refine ⟨fun h i hj => goneInTime_of_abandoned h hj, fun hall => ?_⟩
  have hl := ledger_after events
  cases ho : (after events).outcome? n with
  | none =>
      have hcur : (after events).connection.state = .connecting ∧
          n = (after events).connection.attempt := by
        by_contra hnot
        have hsome := (hl.isSome_iff n).mpr ⟨hn, hle, hnot⟩
        rw [ho] at hsome
        cases hsome
      have hpending := (consistent_after events).isPending_attempt hcur.1
      rw [← hcur.2] at hpending
      obtain ⟨i, hj, hlate⟩ := exists_late_of_pending hpending
      exact absurd (hall i hj) hlate
  | some o =>
      have hexit := (hl.departed_iff n o.state.phase).mpr ⟨o, ho, rfl⟩
      by_cases hidle : o.state.phase = .idle
      · rwa [hidle] at hexit
      · obtain ⟨i, hj, hlate⟩ := exists_late_of_concluded ⟨_, hidle, hexit⟩
        exact absurd (hall i hj) hlate

/-! ## Start calls that are called off -/

/-- The start call of an attempt that has ended is called off. -/
def CallsOff (r : Run η) : Prop :=
  ∀ c ∈ r.calls, (r.outcome? c.attempt).isSome = true → c.isCalledOff = true

theorem CallsOff.changeCall {f : StartCall η → StartCall η} {m : Nat} (hr : r.CallsOff)
    (hf : ∀ c, (f c).attempt = c.attempt) (hoff : ∀ c, c.isCalledOff = true → (f c).isCalledOff = true) :
    (r.changeCall m f).CallsOff := by
  intro c hc hsome
  rcases mem_changeCall hc with ⟨hc, _⟩ | ⟨d, hd, _, rfl⟩
  · exact hr c hc hsome
  · rw [hf] at hsome
    exact hoff d (hr d hd hsome)

theorem CallsOff.settle {o : Outcome η} {m : Nat} (hr : r.CallsOff) : (r.settle m o).CallsOff := by
  intro c hc hsome
  rcases mem_changeCall hc with ⟨hc, hne⟩ | ⟨d, _, _, rfl⟩
  · refine hr c hc ?_
    rwa [outcome?_of_outcomes (r := r) rfl, if_neg hne] at hsome
  · rfl

/-- The rule that abandons an attempt calls off its start call, and no rule puts it on again. -/
theorem Rule.callsOff (h : Rule r e r') (hl : r.Ledger) (hr : r.CallsOff) : r'.CallsOff := by
  cases h with
  | stay _ | meet _ | join _ _ | leave _ _ _ | leaveLate _ _ | deliver _ _ | part _ _ | clock => exact hr
  | begin _ | finishLate _ _ => exact hr.changeCall (fun _ => rfl) fun _ h => h
  | abandon _ _ _ | preempt _ => exact CallsOff.settle hr
  | succeed _ _ _ | fail _ _ _ =>
      exact (hr.changeCall (f := .finish _) (fun _ => rfl) fun _ h => h).settle
  | start _ _ =>
      intro c hc hsome
      rcases List.mem_append.mp hc with hc | hc
      · exact hr c hc hsome
      · rw [List.mem_singleton.mp hc] at hsome
        have hle := ((hl.isSome_iff _).mp hsome).2.1
        exact absurd hle (Nat.not_succ_le_self _)

theorem callsOff_after (events : List (Event η)) : (after events).CallsOff :=
  (after_induction (P := fun r => r.Ledger ∧ r.CallsOff) ⟨.empty, by simp [CallsOff, empty]⟩
    (fun _ h ⟨hl, hr⟩ => ⟨hl.turn h.turn, h.callsOff hl hr⟩) events).2

end Run

end Swarmkeeper.Service
