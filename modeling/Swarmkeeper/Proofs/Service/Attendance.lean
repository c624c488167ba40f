import Swarmkeeper.Proofs.Service.Ledger

/-!
# Callers and attempts

A caller that has returned was given the outcome of the attempt that it had joined, an attempt is
abandoned only when nobody waits for it, and the attempt under way counts those who wait.
-/

namespace Swarmkeeper.Service

variable {η : Type}

namespace Run

variable {r r' : Run η} {e : Event η}

/-! ## Where callers come from -/

theorem Turn.attempt_le (h : Turn r r') : r.connection.attempt ≤ r'.connection.attempt := by
  cases h <;> omega

/-- A caller after a step was there before, or has just come, gone or returned. -/
theorem Rule.mem_callers (h : Rule r e r') {c : Caller η} (hc : c ∈ r'.callers) :
    c ∈ r.callers ∨
    (c = .waiting r'.connection.attempt ∧ r'.connection.state = .connecting) ∨
    (∃ a, c = .returned none (.ok a)) ∨
    (∃ n, .waiting n ∈ r.callers ∧ c = .dropped n) ∨
    ∃ n o, .waiting n ∈ r.callers ∧ r.outcome? n = some o ∧ c = .returned (some n) o.result := by
  have gone {i n : Nat} {d : Caller η} (hi : r.callers[i]? = some (.waiting n))
      (hd : c ∈ r.callers.set i d) : c ∈ r.callers ∨ (.waiting n ∈ r.callers ∧ c = d) :=
    (List.mem_or_eq_of_mem_set hd).imp_right fun h => ⟨List.mem_of_getElem? hi, h⟩
  cases h with
  | stay _ | begin _ | finishLate _ _ | succeed _ _ _ | fail _ _ _ | preempt _ | part _ _
  | clock => exact .inl hc
  | meet _ =>
      rcases List.mem_append.mp hc with hc | hc
      · exact .inl hc
      · exact .inr (.inr (.inl ⟨_, List.mem_singleton.mp hc⟩))
  | join hs _ =>
      rcases List.mem_append.mp hc with hc | hc
      · exact .inl hc
      · exact .inr (.inl ⟨List.mem_singleton.mp hc, hs⟩)
  | start _ _ =>
      rcases List.mem_append.mp hc with hc | hc
      · exact .inl hc
      · exact .inr (.inl ⟨List.mem_singleton.mp hc, rfl⟩)
  | leave hi _ _ | abandon hi _ _ | leaveLate hi _ =>
      rcases gone hi hc with hc | ⟨hn, hc⟩
      · exact .inl hc
      · exact .inr (.inr (.inr (.inl ⟨_, hn, hc⟩)))
  | deliver hi ho =>
      rcases gone hi hc with hc | ⟨hn, hc⟩
      · exact .inl hc
      · exact .inr (.inr (.inr (.inr ⟨_, _, hn, ho, hc⟩)))

/-! ## Attendance -/

/-- Callers, outcomes and the attempt under way fit together. -/
structure Attendance (r : Run η) : Prop where
  joined : ∀ c ∈ r.callers, ∀ n, c.attempt? = some n → 1 ≤ n ∧ n ≤ r.connection.attempt
  met : ∀ res, .returned none res ∈ r.callers → ∃ h, res = .ok h
  returned : ∀ n res, .returned (some n) res ∈ r.callers →
    ∃ o, r.outcome? n = some o ∧ o ≠ .abandoned ∧ o.result = res
  abandoned : ∀ n, r.outcome? n = some .abandoned → .waiting n ∉ r.callers
  count : ∀ p, r.connection.pending = some p → r.callers.countP (·.waitsFor p.attempt) = p.waiters

theorem countP_waitsFor_set {i n m : Nat} {c : Caller η} (hi : r.callers[i]? = some (.waiting n))
    (hc : c.waitsFor m = false) :
    (r.callers.set i c).countP (·.waitsFor m) =
      r.callers.countP (·.waitsFor m) - if n = m then 1 else 0 := by
  obtain ⟨hlt, hget⟩ := List.getElem?_eq_some_iff.mp hi
  rw [List.countP_set hlt, hget, hc]
  simp [Caller.waitsFor]

/-- Those who wait for an attempt, counted. -/
theorem length_waiting (r : Run η) (n : Nat) :
    (r.waiting n).length = r.callers.countP (·.waitsFor n) := by
  rw [waiting]
  generalize r.callers = cs
  induction cs with
  | nil => rfl
  | cons c cs ih =>
      have shift : (fun i => ((c :: cs)[i]?).any (·.waitsFor n)) ∘ Nat.succ =
          fun i => (cs[i]?).any (·.waitsFor n) := by
        funext i
        simp
      rw [List.length_cons, List.range_succ_eq_map, List.filter_cons, List.filter_map, shift,
        List.countP_cons, ← ih]
      by_cases hc : c.waitsFor n = true <;> simp [hc]

theorem waiting_not_mem {n : Nat} (h : r.callers.countP (·.waitsFor n) = 0) :
    .waiting n ∉ r.callers := by
  intro hw
  exact absurd (List.countP_eq_zero.mp h _ hw) (by simp [Caller.waitsFor])

/-- An attempt is abandoned when the only caller that is counted leaves. -/
theorem Rule.abandoned (h : Rule r e r') {n : Nat} (ho : r'.outcome? n = some .abandoned) :
    r.outcome? n = some .abandoned ∨
    (r.connection.pending = some ⟨n, 1⟩ ∧
      ∃ i : Nat, r.callers[i]? = some (.waiting n) ∧ r'.callers = r.callers.set i (.dropped n)) := by
  have settled {m : Nat} {o : Outcome η} (hm : r'.outcomes = (m, o) :: r.outcomes) :
      r.outcome? n = some .abandoned ∨ (n = m ∧ o = .abandoned) := by
    rw [outcome?_of_outcomes hm] at ho
    split at ho
    · exact .inr ⟨‹_›, Option.some.inj ho⟩
    · exact .inl ho
  cases h with
  | stay _ | meet _ | join _ _ | start _ _ | leave _ _ _ | leaveLate _ _ | deliver _ _ | begin _
  | finishLate _ _ | part _ _ | clock => exact .inl ho
  | abandon hi _ hp =>
      rcases settled rfl with ho | ⟨rfl, _⟩
      · exact .inl ho
      · exact .inr ⟨hp, _, hi, rfl⟩
  | succeed _ _ _ | fail _ _ _ | preempt _ =>
      rcases settled rfl with ho | ⟨_, ho⟩
      · exact .inl ho
      · cases ho

namespace Attendance

theorem empty : (empty : Run η).Attendance := by
  constructor <;> simp [Run.empty, Connection.idle, outcome?]

/-- Nobody waits for an attempt that has not begun. -/
theorem countP_eq_zero (ha : r.Attendance) {n : Nat} (hn : r.connection.attempt < n) :
    r.callers.countP (·.waitsFor n) = 0 := by
  rw [List.countP_eq_zero]
  intro c hc hw
  cases c with
  | waiting m =>
      have hm : m = n := by simpa [Caller.waitsFor] using hw
      have := ha.joined _ hc m rfl
      omega
  | returned _ _ | dropped _ => cases hw

theorem joined_rule (ha : r.Attendance) (hl : r'.Ledger) (h : Rule r e r') (c : Caller η)
    (hc : c ∈ r'.callers) (n : Nat) (hn : c.attempt? = some n) :
    1 ≤ n ∧ n ≤ r'.connection.attempt := by
  have mono := h.turn.attempt_le
  rcases h.mem_callers hc with hc | ⟨rfl, hs⟩ | ⟨_, rfl⟩ | ⟨m, hm, rfl⟩ | ⟨m, _, hm, _, rfl⟩
  · have := ha.joined c hc n hn
    omega
  · cases hn
    exact ⟨hl.one_le hs, Nat.le_refl _⟩
  · cases hn
  · have := ha.joined _ hm n hn
    omega
  · have := ha.joined _ hm n hn
    omega

theorem met_rule (ha : r.Attendance) (h : Rule r e r') (res : Except Failure η)
    (hc : .returned none res ∈ r'.callers) : ∃ h, res = .ok h := by
  rcases h.mem_callers hc with hc | ⟨hc, _⟩ | ⟨a, hc⟩ | ⟨_, _, hc⟩ | ⟨_, _, _, _, hc⟩
  · exact ha.met res hc
  · cases hc
  · cases hc
    exact ⟨a, rfl⟩
  · cases hc
  · cases hc

/-- Who returns was given the outcome of the attempt that he had joined. -/
theorem returned_rule (ha : r.Attendance) (hl : r.Ledger) (h : Rule r e r') (n : Nat)
    (res : Except Failure η) (hc : .returned (some n) res ∈ r'.callers) :
    ∃ o, r'.outcome? n = some o ∧ o ≠ .abandoned ∧ o.result = res := by
  rcases h.mem_callers hc with hc | ⟨hc, _⟩ | ⟨_, hc⟩ | ⟨_, _, hc⟩ | ⟨m, o, hm, ho, hc⟩
  · obtain ⟨o, ho, hne, hres⟩ := ha.returned n res hc
    exact ⟨o, hl.outcome?_turn h.turn ho, hne, hres⟩
  · cases hc
  · cases hc
  · cases hc
  · cases hc
    refine ⟨o, hl.outcome?_turn h.turn ho, ?_, rfl⟩
    intro hab
    exact ha.abandoned n (hab ▸ ho) hm

/-- Nobody waits for an attempt that was abandoned. -/
theorem abandoned_rule (ha : r.Attendance) (hl' : r'.Ledger) (h : Rule r e r') (n : Nat)
    (ho : r'.outcome? n = some .abandoned) : .waiting n ∉ r'.callers := by
  rcases h.abandoned ho with hold | ⟨hp, i, hi, hcallers⟩
  · intro hw
    rcases h.mem_callers hw with hw | ⟨hw, hs⟩ | ⟨_, hw⟩ | ⟨_, _, hw⟩ | ⟨_, _, _, _, hw⟩
    · exact ha.abandoned n hold hw
    · cases hw
      rw [hl'.outcome?_attempt hs] at ho
      cases ho
    · cases hw
    · cases hw
    · cases hw
  · apply waiting_not_mem
    rw [hcallers, countP_waitsFor_set hi rfl, ha.count _ hp]
    simp

/-- The attempt under way counts those who wait for it. -/
theorem count_rule (ha : r.Attendance) (hc : r.connection.Consistent) (hl : r.Ledger) (h : Rule r e r')
    (p : Pending) (hp : r'.connection.pending = some p) :
    r'.callers.countP (·.waitsFor p.attempt) = p.waiters := by
  -- A caller that goes or returns without the attempt under way was not counted for it.
  have other {i n : Nat} {c : Caller η} (hi : r.callers[i]? = some (.waiting n))
      (hcw : c.waitsFor p.attempt = false) (hn : n ≠ p.attempt) :
      r.connection.pending = some p →
      (r.callers.set i c).countP (·.waitsFor p.attempt) = p.waiters := by
    intro hp
    rw [countP_waitsFor_set hi hcw, if_neg hn, ha.count p hp, Nat.sub_zero]
  cases h with
  | stay _ | begin _ | finishLate _ _ | clock => exact ha.count p hp
  | meet _ =>
      rw [List.countP_append, ha.count p hp]
      rfl
  | join _ hp' =>
      cases hp
      rw [List.countP_append, ha.count _ hp']
      simp [Caller.waitsFor]
  | start _ _ =>
      cases hp
      rw [List.countP_append, ha.countP_eq_zero (Nat.lt_succ_self _)]
      simp [Caller.waitsFor]
  | leave hi _ hp' =>
      cases hp
      rw [countP_waitsFor_set hi rfl, ha.count _ hp']
      simp
  | leaveLate hi hn =>
      refine other hi rfl ?_ hp
      rintro rfl
      rw [Connection.isPending_iff.mpr ⟨_, hp⟩] at hn
      cases hn
  | deliver hi ho =>
      refine other hi rfl ?_ hp
      rintro rfl
      rw [hc.attempt_of_pending hp, hl.outcome?_attempt (hc.state_of_pending hp)] at ho
      cases ho
  | abandon _ _ _ | succeed _ _ _ | fail _ _ _ | preempt _ | part _ _ => cases hp

end Attendance

/-- All of this is kept by every rule. -/
theorem Rule.attendance (h : Rule r e r') (hc : r.connection.Consistent) (hl : r.Ledger)
    (ha : r.Attendance) : r'.Attendance where
  joined := ha.joined_rule (hl.turn h.turn) h
  met := ha.met_rule h
  returned := ha.returned_rule hl h
  abandoned := ha.abandoned_rule (hl.turn h.turn) h
  count := ha.count_rule hc hl h

/-- So it holds after any events. -/
theorem attendance_after (events : List (Event η)) : (after events).Attendance :=
  (after_induction (P := fun r => r.Ledger ∧ r.Attendance) ⟨.empty, .empty⟩
    (fun hc h ⟨hl, ha⟩ => ⟨hl.turn h.turn, h.attendance hc hl ha⟩) events).2

end Run

end Swarmkeeper.Service
