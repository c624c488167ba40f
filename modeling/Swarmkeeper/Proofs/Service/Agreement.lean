import Swarmkeeper.Proofs.Service.Attendance

/-!
# What callers are given

All callers of an attempt that return are given the same: what the way out of the connecting phase says
that this attempt took. Who has returned has returned for good.
-/

namespace Swarmkeeper.Service

variable {η : Type}

namespace Run

variable {r r' : Run η} {e : Event η}

/-! ## Callers in the course of a run -/

/-- A caller stays what it is, unless it waits and then goes away or returns. -/
theorem Rule.callers_get (h : Rule r e r') {i : Nat} {c : Caller η} (hi : r.callers[i]? = some c) :
    r'.callers[i]? = some c ∨ ∃ n, c = .waiting n ∧
      (r'.callers[i]? = some (.dropped n) ∨ ∃ res, r'.callers[i]? = some (.returned (some n) res)) := by
  have hlt : i < r.callers.length := (List.getElem?_eq_some_iff.mp hi).1
  have come (d : Caller η) : (r.callers ++ [d])[i]? = some c := by
    rw [List.getElem?_append_left hlt, hi]
  have change {j n : Nat} {d : Caller η} (hj : r.callers[j]? = some (.waiting n)) :
      (r.callers.set j d)[i]? = some c ∨ (c = .waiting n ∧ (r.callers.set j d)[i]? = some d) := by
    by_cases hij : j = i
    · subst hij
      rw [hi] at hj
      exact .inr ⟨Option.some.inj hj, List.getElem?_set_self hlt⟩
    · exact .inl (by rw [List.getElem?_set_ne hij, hi])
  cases h with
  | stay _ | begin _ | finishLate _ _ | succeed _ _ _ | fail _ _ _ | preempt _ | part _ _
  | clock => exact .inl hi
  | meet _ | join _ _ | start _ _ => exact .inl (come _)
  | leave hj _ _ | abandon hj _ _ | leaveLate hj _ =>
      rcases change hj with h | ⟨hc, h⟩
      · exact .inl h
      · exact .inr ⟨_, hc, .inl h⟩
  | deliver hj _ =>
      rcases change hj with h | ⟨hc, h⟩
      · exact .inl h
      · exact .inr ⟨_, hc, .inr ⟨_, h⟩⟩

/-- Who has returned or gone stays so. -/
theorem callers_foldl {i : Nat} {c : Caller η} (hc : r.connection.Consistent)
    (hi : r.callers[i]? = some c) (hw : ∀ n, c ≠ .waiting n) (more : List (Event η)) :
    (more.foldl step r).callers[i]? = some c := by
  refine (foldl_step_induction (P := fun r => r.callers[i]? = some c) hc hi ?_ more).2
  intro r e r' _ h hi
  rcases h.callers_get hi with h | ⟨n, hn, _⟩
  · exact h
  · exact absurd hn (hw n)

/-- What a caller was given he keeps. -/
theorem returned_foldl {i : Nat} {a : Option Nat} {res : Except Failure η}
    (hc : r.connection.Consistent) (hi : r.callers[i]? = some (.returned a res))
    (more : List (Event η)) : (more.foldl step r).callers[i]? = some (.returned a res) :=
  callers_foldl hc hi nofun more

/-- A caller stays with the attempt that he joined. -/
theorem attempt?_foldl {i : Nat} {c d : Caller η} (hc : r.connection.Consistent)
    (hi : r.callers[i]? = some c) (more : List (Event η))
    (hd : (more.foldl step r).callers[i]? = some d) : d.attempt? = c.attempt? := by
  have keep := (foldl_step_induction
    (P := fun r => ∃ d, r.callers[i]? = some d ∧ d.attempt? = c.attempt?) hc ⟨c, hi, rfl⟩ ?_ more).2
  · obtain ⟨d', hd', ha⟩ := keep
    rw [hd] at hd'
    cases hd'
    exact ha
  · rintro r e r' _ h ⟨d, hd, ha⟩
    rcases h.callers_get hd with h | ⟨n, rfl, h | ⟨_, h⟩⟩
    · exact ⟨d, h, ha⟩
    · exact ⟨_, h, ha⟩
    · exact ⟨_, h, ha⟩

/-! ## The way out -/

/-- How an attempt left the connecting phase, and what its callers are given for that. -/
inductive Left (r : Run η) (n : Nat) : Except Failure η → Prop where
  | connected {h : η} (call : r.ending? n = some (.returned (.ok h)))
      (exit : ⟨.connecting, .connected, n⟩ ∈ r.connection.history) : Left r n (.ok h)
  | failed {f : Failure} (call : r.ending? n = some (.returned (.error f)))
      (exit : ⟨.connecting, .failed, n⟩ ∈ r.connection.history) : Left r n (.error f)
  | panicked {p : Panic} (call : r.ending? n = some (.panicked p))
      (exit : ⟨.connecting, .failed, n⟩ ∈ r.connection.history) :
      Left r n (.error (.startFailed s!"starter panicked: {p.reason}"))
  | disconnected (exit : ⟨.connecting, .disconnected, n⟩ ∈ r.connection.history) :
      Left r n (.error .disconnected)

/-- An attempt leaves the connecting phase by one way only. -/
theorem Ledger.exit_unique (hl : r.Ledger) {n : Nat} {x y : Phase}
    (hx : ⟨.connecting, x, n⟩ ∈ r.connection.history)
    (hy : ⟨.connecting, y, n⟩ ∈ r.connection.history) : x = y := by
  obtain ⟨o, ho, rfl⟩ := (hl.departed_iff n x).mp hx
  obtain ⟨o', ho', rfl⟩ := (hl.departed_iff n y).mp hy
  rw [ho] at ho'
  cases ho'
  rfl

/-- The way out is a disconnect, or what the start call came to. -/
theorem Left.exists_exit {n : Nat} {a : Except Failure η} (h : r.Left n a) :
    ∃ y, ⟨.connecting, y, n⟩ ∈ r.connection.history ∧
      ((y = .disconnected ∧ a = .error .disconnected) ∨
        (y ≠ .disconnected ∧ ∃ x, r.ending? n = some x ∧ x.result = a)) := by
  cases h with
  | connected call exit | failed call exit | panicked call exit =>
      exact ⟨_, exit, .inr ⟨nofun, _, call, rfl⟩⟩
  | disconnected exit => exact ⟨_, exit, .inl ⟨rfl, rfl⟩⟩

/-- So there is one answer for all its callers. -/
theorem Ledger.left_unique (hl : r.Ledger) {n : Nat} {a b : Except Failure η} (ha : r.Left n a)
    (hb : r.Left n b) : a = b := by
  obtain ⟨y, ey, hy⟩ := ha.exists_exit
  obtain ⟨z, ez, hz⟩ := hb.exists_exit
  obtain rfl := hl.exit_unique ey ez
  rcases hy with ⟨hy, rfl⟩ | ⟨hy, x, hx, rfl⟩
  · rcases hz with ⟨_, rfl⟩ | ⟨hne, _⟩
    · rfl
    · exact absurd hy hne
  · rcases hz with ⟨heq, _⟩ | ⟨_, x', hx', rfl⟩
    · exact absurd heq hy
    · rw [hx] at hx'
      cases hx'
      rfl

/-- The outcome of an attempt that was not abandoned is the way that it took. -/
theorem Ledger.left_of_outcome (hl : r.Ledger) (ha : r.Answered) {n : Nat} {o : Outcome η}
    (ho : r.outcome? n = some o) (hne : o ≠ .abandoned) : r.Left n o.result := by
  have exit := (hl.departed_iff n o.state.phase).mpr ⟨o, ho, rfl⟩
  cases o with
  | connected h =>
      obtain ⟨x, hx, hres⟩ := ha n _ ho (.inl rfl)
      rw [Ending.result_eq_ok.mp hres] at hx
      exact .connected hx exit
  | failed f =>
      obtain ⟨x, hx, hres⟩ := ha n _ ho (.inr rfl)
      cases x with
      | returned res =>
          obtain rfl : res = .error f := hres
          exact .failed hx exit
      | panicked p =>
          cases hres
          exact .panicked hx exit
  | disconnected => exact .disconnected exit
  | abandoned => exact absurd rfl hne

/-! ## Waiting callers -/

/-- A caller waits for the attempt under way, or for one that has ended and was not abandoned. -/
theorem Attendance.waiting_cases (ha : r.Attendance) (hc : r.connection.Consistent) (hl : r.Ledger)
    {n : Nat} (hw : .waiting n ∈ r.callers) :
    (r.connection.isPending n = true ∧ r.outcome? n = none) ∨
      ∃ o, r.outcome? n = some o ∧ o ≠ .abandoned := by
  cases ho : r.outcome? n with
  | some o =>
      right
      refine ⟨o, rfl, ?_⟩
      rintro rfl
      exact ha.abandoned n ho hw
  | none =>
      left
      have hn := ha.joined _ hw n rfl
      have hcur : r.connection.state = .connecting ∧ n = r.connection.attempt := by
        by_cases h : r.connection.state = .connecting ∧ n = r.connection.attempt
        · exact h
        · have := (hl.isSome_iff n).mpr ⟨hn.1, hn.2, h⟩
          rw [ho] at this
          cases this
      rw [hcur.2]
      exact ⟨hc.isPending_attempt hcur.1, rfl⟩

/-- A caller whose attempt has no outcome goes on waiting. -/
theorem deliver_of_outcome_none {i n : Nat} (hi : r.callers[i]? = some (.waiting n))
    (ho : r.outcome? n = none) : r.deliver i = r := by
  unfold deliver
  rw [hi]
  simp only [ho]

/-- One whose attempt has an outcome is given it. -/
theorem deliver_of_outcome_some {i n : Nat} {o : Outcome η} (hi : r.callers[i]? = some (.waiting n))
    (ho : r.outcome? n = some o) :
    (r.deliver i).callers[i]? = some (.returned (some n) o.result) := by
  unfold deliver
  rw [hi]
  simp only [ho]
  exact List.getElem?_set_self (List.getElem?_eq_some_iff.mp hi).1

/-- Who asks while there is no connection waits for the attempt that is then under way. -/
theorem acquire_joins (hc : r.connection.Consistent) (hs : ∀ h, r.connection.state ≠ .connected h) :
    ∃ n, r.acquire.callers = r.callers ++ [.waiting n] ∧ r.acquire.connection.isPending n = true := by
  have hrule := acquire_rule hc
  generalize r.acquire = r' at hrule
  cases hrule with
  | stay he => cases he
  | meet hh => exact absurd hh (hs _)
  | join _ _ | start _ _ => exact ⟨_, rfl, Connection.isPending_iff.mpr ⟨_, rfl⟩⟩
  | part he _ => rcases he with he | he <;> cases he

/-! ## Agreement -/

theorem left_of_returned (events : List (Event η)) {n : Nat} {res : Except Failure η}
    (hi : .returned (some n) res ∈ (after events).callers) : (after events).Left n res := by
  obtain ⟨o, ho, hne, rfl⟩ := (attendance_after events).returned n res hi
  exact (ledger_after events).left_of_outcome (answered_after events) ho hne

/-- What callers are given after some events and, if they have to wait, after more. -/
structure Agreement (events : List (Event η)) : Prop where
  /-- Who meets a handle has it at once and leaves no trace. -/
  meets : ∀ h, (after events).connection.state = .connected h →
    (after events).step .acquire =
      { after events with callers := (after events).callers ++ [.returned none (.ok h)] }
  /-- Who meets none joins the attempt that is then under way. -/
  joins : (∀ h, (after events).connection.state ≠ .connected h) →
    ∃ n, ((after events).step .acquire).callers = (after events).callers ++ [.waiting n] ∧
      ((after events).step .acquire).connection.isPending n = true
  /-- Who has joined an attempt is given the way out of it, or nothing. -/
  given : ∀ (i n : Nat), (after events).callers[i]? = some (.waiting n) →
    ∀ more a res, (after (events ++ more)).callers[i]? = some (.returned a res) →
      a = some n ∧ (after (events ++ more)).Left n res
  /-- It is given as soon as the attempt is no longer under way. -/
  prompt : ∀ (i n : Nat), (after events).callers[i]? = some (.waiting n) →
    ((after events).connection.isPending n = true ∧
      (after events).step (.deliver i) = after events) ∨
    ∃ res, (after events).Left n res ∧
      ((after events).step (.deliver i)).callers[i]? = some (.returned (some n) res)
  /-- Who has returned has returned for good. -/
  once : ∀ (i : Nat) a res, (after events).callers[i]? = some (.returned a res) →
    ∀ more, (after (events ++ more)).callers[i]? = some (.returned a res)
  /-- There is one way out. -/
  unique : ∀ n res res', (after events).Left n res → (after events).Left n res' → res = res'
  same : ∀ (i j n : Nat) res res', (after events).callers[i]? = some (.returned (some n) res) →
    (after events).callers[j]? = some (.returned (some n) res') → res = res'
  /-- Nobody is told that the attempt was abandoned, unless the start call says so. -/
  abandoned : ∀ (i : Nat) a, (after events).callers[i]? = some (.returned a (.error .abandoned)) →
    ∃ n, a = some n ∧ (after events).ending? n = some (.returned (.error .abandoned))

/-- All callers of an attempt are told the one outcome that it had, each of them once, and who asks
while there is a connection is told its handle at once. -/
theorem callers_agree (events : List (Event η)) : Agreement events where
  meets h hs := by simp [step, acquire, Connection.acquire, hs]
  joins := acquire_joins (consistent_after events)
  given i n hi more a res hres := by
    rw [after_append] at hres
    obtain rfl : a = some n := attempt?_foldl (consistent_after events) hi more hres
    rw [← after_append] at hres
    exact ⟨rfl, left_of_returned _ (List.mem_of_getElem? hres)⟩
  prompt i n hi := by
    have hl := ledger_after events
    have hw := (attendance_after events).waiting_cases (consistent_after events) hl
      (List.mem_of_getElem? hi)
    rcases hw with ⟨hp, ho⟩ | ⟨o, ho, hne⟩
    · exact .inl ⟨hp, deliver_of_outcome_none hi ho⟩
    · exact .inr ⟨o.result, hl.left_of_outcome (answered_after events) ho hne,
        deliver_of_outcome_some hi ho⟩
  once i a res hi more := by
    rw [after_append]
    exact returned_foldl (consistent_after events) hi more
  unique n res res' := (ledger_after events).left_unique
  same i j n res res' hi hj :=
    (ledger_after events).left_unique (left_of_returned events (List.mem_of_getElem? hi))
      (left_of_returned events (List.mem_of_getElem? hj))
  abandoned i a hi := by
    cases a with
    | none =>
        obtain ⟨h, hh⟩ := (attendance_after events).met _ (List.mem_of_getElem? hi)
        cases hh
    | some n =>
        refine ⟨n, rfl, ?_⟩
        have hleft := left_of_returned events (List.mem_of_getElem? hi)
        generalize hx : (Except.error Failure.abandoned : Except Failure η) = x at hleft
        cases hleft with
        | failed call _ =>
            cases hx
            exact call
        | connected _ _ | panicked _ _ | disconnected _ => cases hx

end Run

end Swarmkeeper.Service
