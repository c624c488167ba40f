import Swarmkeeper.Proofs.Service.Desertion

/-!
# Callers that are not missed

Of an attempt that one caller waits for to its end the others may go at any time: but for the number of
those who wait, the connection goes the same way as if they had stayed, and so do the start calls and
all remaining callers.
-/

namespace Swarmkeeper.Service

variable {η : Type}

/-! ## Connections that differ in the number of waiting callers -/

namespace Connection

/-- The connections differ at most in how many callers wait. -/
structure Matches (c d : Connection η) : Prop where
  rest : { c with pending := none } = { d with pending := none }
  attempt : c.pending.map (·.attempt) = d.pending.map (·.attempt)

variable {c d : Connection η}

theorem isPending_eq (c : Connection η) (n : Nat) :
    c.isPending n = (c.pending.map (·.attempt) == some n) := by
  unfold isPending
  cases c.pending <;> simp

theorem release_of_pending {n w : Nat} (h : c.pending = some ⟨n, w⟩) :
    c.release n =
      if 1 < w then (none, { c with pending := some ⟨n, w - 1⟩ })
      else (some .abandoned, { c with pending := none }.enter .idle) := by
  simp [release, h]

namespace Matches

theorem refl (c : Connection η) : c.Matches c := ⟨rfl, rfl⟩

theorem eq_with (h : c.Matches d) :
    ∃ p, c = { d with pending := p } ∧ p.map (·.attempt) = d.pending.map (·.attempt) :=
  ⟨c.pending, congrArg (fun x => { x with pending := c.pending }) h.rest, h.attempt⟩

theorem isPending (h : c.Matches d) (n : Nat) : c.isPending n = d.isPending n := by
  rw [isPending_eq, isPending_eq, h.attempt]

theorem recount (h : c.Matches d) {p q : Option Pending}
    (hpq : p.map (·.attempt) = q.map (·.attempt)) :
    { c with pending := p }.Matches { d with pending := q } :=
  ⟨h.rest, hpq⟩

theorem enter (h : c.Matches d) (state : State η) : (c.enter state).Matches (d.enter state) := by
  obtain ⟨p, rfl, hp⟩ := h.eq_with
  exact ⟨rfl, hp⟩

theorem release (h : c.Matches d) {n w v : Nat} (hw : c.pending = some ⟨n, w⟩)
    (hv : d.pending = some ⟨n, v⟩) (hwv : 1 < w ↔ 1 < v) :
    (c.release n).1 = (d.release n).1 ∧ (c.release n).2.Matches (d.release n).2 := by
  rw [release_of_pending hw, release_of_pending hv]
  by_cases hlt : 1 < w
  · rw [if_pos hlt, if_pos (hwv.mp hlt)]
    exact ⟨rfl, h.recount rfl⟩
  · rw [if_neg hlt, if_neg (mt hwv.mpr hlt)]
    exact ⟨rfl, (h.recount rfl).enter _⟩

theorem acquire (h : c.Matches d) :
    c.acquire.1 = d.acquire.1 ∧ c.acquire.2.Matches d.acquire.2 := by
  obtain ⟨state, _, q, _, _, _, _, _, _⟩ := d
  obtain ⟨p, rfl, hp⟩ := h.eq_with
  cases state with
  | connected _ => exact ⟨rfl, rfl, hp⟩
  | idle | disconnected | failed _ => exact ⟨rfl, refl _⟩
  | connecting =>
      cases p <;> cases q
      case none.none => exact ⟨rfl, refl _⟩
      case some.some p q =>
        have hpq : p.attempt = q.attempt := by simpa using hp
        exact ⟨congrArg Answer.joined hpq, rfl, congrArg some hpq⟩
      all_goals cases hp

/-- Both make the same of what a start call comes to. -/
theorem complete (h : c.Matches d) (n : Nat) (res : Except Failure η) :
    (c.complete n res).1 = (d.complete n res).1 ∧ (c.complete n res).2.Matches (d.complete n res).2 := by
  have hpending := h.isPending n
  cases hn : d.isPending n with
  | false =>
      rw [complete_of_not_pending hn, complete_of_not_pending (hpending.trans hn)]
      exact ⟨rfl, h⟩
  | true =>
      obtain ⟨p, rfl, -⟩ := h.eq_with
      rw [hn] at hpending
      rw [Connection.complete, Connection.complete, if_pos hn, if_pos hpending]
      cases res <;> exact ⟨rfl, refl _⟩

theorem disconnect (h : c.Matches d) :
    c.disconnect.1 = d.disconnect.1 ∧ c.disconnect.2.Matches d.disconnect.2 := by
  obtain ⟨state, _, q, _, _, _, _, _, _⟩ := d
  obtain ⟨p, rfl, hp⟩ := h.eq_with
  cases state with
  | connected _ | connecting =>
      refine ⟨?_, refl _⟩
      cases p <;> cases q
      case none.none => rfl
      case some.some p q =>
        have hpq : p.attempt = q.attempt := by simpa using hp
        exact congrArg (fun n => some (n, Outcome.disconnected)) hpq
      all_goals cases hp
  | idle | disconnected | failed _ => exact ⟨rfl, rfl, hp⟩

theorem lose (h : c.Matches d) (n : Nat) : (c.lose n).Matches (d.lose n) := by
  obtain ⟨state, attempt, q, _, _, _, _, _, _⟩ := d
  obtain ⟨p, rfl, hp⟩ := h.eq_with
  cases state with
  | connected _ =>
      by_cases hn : attempt = n
      · simp only [Connection.lose, hn, if_true]
        exact ⟨rfl, hp⟩
      · simp only [Connection.lose, hn, if_false]
        exact ⟨rfl, hp⟩
  | idle | connecting | disconnected | failed _ => exact ⟨rfl, hp⟩

theorem atMoment (h : c.Matches d) (moment : Int) : (c.atMoment moment).Matches (d.atMoment moment) := by
  obtain ⟨p, rfl, hp⟩ := h.eq_with
  exact ⟨rfl, hp⟩

end Matches

end Connection

/-! ## Lists of callers of which some have gone -/

/-- The lists differ at most in callers of this set that have gone in the first and not in the second. -/
structure Thinned (gone : Nat → Bool) (cs ds : List (Caller η)) : Prop where
  length_eq : cs.length = ds.length
  get : ∀ i : Nat, cs[i]? = ds[i]? ∨
    gone i = true ∧ ∃ n d, cs[i]? = some (.dropped n) ∧ ds[i]? = some d ∧ d.attempt? = some n

namespace Thinned

variable {gone : Nat → Bool} {cs ds : List (Caller η)} {i n : Nat}

/-- Of the remaining callers none is changed. -/
theorem others (h : Thinned gone cs ds) (hi : gone i = false) : cs[i]? = ds[i]? := by
  rcases h.get i with heq | ⟨hg, _⟩
  · exact heq
  · rw [hi] at hg
    cases hg

theorem waiting (h : Thinned gone cs ds) (hi : cs[i]? = some (.waiting n)) :
    ds[i]? = some (.waiting n) := by
  rcases h.get i with heq | ⟨_, m, _, hm, _, _⟩
  · rw [← heq, hi]
  · rw [hi] at hm
    cases hm

theorem append (h : Thinned gone cs ds) (c : Caller η) : Thinned gone (cs ++ [c]) (ds ++ [c]) := by
  refine ⟨by simp [h.length_eq], fun i => ?_⟩
  rw [List.getElem?_append, List.getElem?_append, h.length_eq]
  split
  · exact h.get i
  · exact .inl rfl

theorem set (h : Thinned gone cs ds) (i : Nat) (c : Caller η) :
    Thinned gone (cs.set i c) (ds.set i c) := by
  refine ⟨by simp [h.length_eq], fun j => ?_⟩
  rw [List.getElem?_set, List.getElem?_set, h.length_eq]
  split
  · exact .inl rfl
  · exact h.get j

/-- A caller of the set goes. -/
theorem set_dropped (h : Thinned gone cs ds) (hg : gone i = true) (hi : cs[i]? = some (.waiting n)) :
    Thinned gone (cs.set i (.dropped n)) ds := by
  refine ⟨by simp [h.length_eq], fun j => ?_⟩
  by_cases hij : i = j
  · subst hij
    have hlt := (List.getElem?_eq_some_iff.mp hi).1
    exact .inr ⟨hg, n, _, List.getElem?_set_self hlt, h.waiting hi, rfl⟩
  · rw [List.getElem?_set_ne hij]
    exact h.get j

/-- One that has gone in the first list returns in the second. -/
theorem set_returned (h : Thinned gone cs ds) (hg : gone i = true) (hi : cs[i]? = some (.dropped n))
    (res : Except Failure η) : Thinned gone cs (ds.set i (.returned (some n) res)) := by
  refine ⟨by simp [h.length_eq], fun j => ?_⟩
  by_cases hij : i = j
  · subst hij
    have hlt := (List.getElem?_eq_some_iff.mp hi).1
    rw [h.length_eq] at hlt
    exact .inr ⟨hg, n, _, hi, List.getElem?_set_self hlt, rfl⟩
  · rw [List.getElem?_set_ne hij]
    exact h.get j

end Thinned

namespace Run

/-! ## Runs that differ in who has gone -/

/-- The runs differ at most in the callers of this set, some of whom have gone in the first only. -/
structure AlikeBut (gone : Nat → Bool) (r s : Run η) : Prop where
  connection : r.connection.Matches s.connection
  callers : Thinned gone r.callers s.callers
  calls : r.calls = s.calls
  outcomes : r.outcomes = s.outcomes

variable {gone : Nat → Bool} {r s : Run η} {i n : Nat}

/-- With some gone no more can be waiting. -/
theorem countP_waitsFor_le (hlen : r.callers.length = s.callers.length)
    (h : ∀ i : Nat, r.callers[i]? = some (.waiting n) → s.callers[i]? = some (.waiting n)) :
    r.callers.countP (·.waitsFor n) ≤ s.callers.countP (·.waitsFor n) := by
  rw [← length_waiting, ← length_waiting, waiting, waiting, hlen, ← List.countP_eq_length_filter,
    ← List.countP_eq_length_filter]
  refine List.countP_mono_left fun i _ hi => ?_
  obtain ⟨c, hc, hcn⟩ := (Option.any_eq_true _ _).mp hi
  cases c with
  | waiting m =>
      obtain rfl : m = n := by simpa [Caller.waitsFor] using hcn
      rw [h i hc]
      exact hcn
  | returned _ _ | dropped _ => cases hcn

theorem drop_of_waiting (hi : r.callers[i]? = some (.waiting n)) :
    r.drop i =
      { r with
        connection := (r.connection.release n).2
        callers := r.callers.set i (.dropped n) }.settle? n (r.connection.release n).1 := by
  simp only [drop, hi]

namespace AlikeBut

theorem refl (gone : Nat → Bool) (r : Run η) : AlikeBut gone r r :=
  ⟨.refl _, ⟨rfl, fun _ => .inl rfl⟩, rfl, rfl⟩

theorem outcome?_eq (h : AlikeBut gone r s) (n : Nat) : r.outcome? n = s.outcome? n :=
  outcome?_congr h.outcomes

/-- Who has joined an attempt in the thinner run has done so in the fuller one. -/
theorem joined (h : AlikeBut gone r s) (hj : s.Joined i n) : r.Joined i n := by
  obtain ⟨c, hc, hcn⟩ := hj
  rcases h.callers.get i with heq | ⟨_, m, d, hm, hd, hdm⟩
  · exact ⟨c, heq.trans hc, hcn⟩
  · rw [hc] at hd
    cases hd
    rw [hcn] at hdm
    cases hdm
    exact ⟨_, hm, rfl⟩

theorem changeCall (h : AlikeBut gone r s) (n : Nat) (f : StartCall η → StartCall η) :
    AlikeBut gone (r.changeCall n f) (s.changeCall n f) :=
  ⟨h.connection, h.callers, congrArg (List.map _) h.calls, h.outcomes⟩

theorem settle (h : AlikeBut gone r s) (n : Nat) (o : Outcome η) :
    AlikeBut gone (r.settle n o) (s.settle n o) :=
  changeCall (r := { r with outcomes := (n, o) :: r.outcomes })
    (s := { s with outcomes := (n, o) :: s.outcomes })
    ⟨h.connection, h.callers, h.calls, congrArg (List.cons (n, o)) h.outcomes⟩ n .callOff

theorem settle? (h : AlikeBut gone r s) (n : Nat) (o : Option (Outcome η)) :
    AlikeBut gone (r.settle? n o) (s.settle? n o) := by
  cases o with
  | none => exact h
  | some o => exact h.settle n o

theorem forsake_outcomes (h : AlikeBut gone r s) : r.forsake.outcomes = s.forsake.outcomes := by
  have hp := h.connection.attempt
  unfold forsake
  cases hr : r.connection.pending <;> cases hs : s.connection.pending
  case none.none => exact h.outcomes
  case some.some p q =>
    have hpq : p.attempt = q.attempt := by simpa [hr, hs] using hp
    simp [hpq, h.outcomes]
  all_goals simp [hr, hs] at hp

theorem acquire (h : AlikeBut gone r s) : AlikeBut gone r.acquire s.acquire := by
  obtain ⟨hanswer, hconn⟩ := h.connection.acquire
  unfold Run.acquire
  generalize r.connection.acquire = x at hanswer hconn
  generalize s.connection.acquire = y at hanswer hconn
  obtain ⟨a, c⟩ := x
  obtain ⟨b, d⟩ := y
  obtain rfl : a = b := hanswer
  cases a with
  | present a => exact ⟨hconn, h.callers.append _, h.calls, h.outcomes⟩
  | joined n => exact ⟨hconn, h.callers.append _, h.calls, h.outcomes⟩
  | started n =>
      exact ⟨hconn, h.callers.append _, congrArg (· ++ [StartCall.ofAttempt n]) h.calls,
        h.forsake_outcomes⟩

theorem deliver (h : AlikeBut gone r s) (i : Nat) : AlikeBut gone (r.deliver i) (s.deliver i) := by
  rcases h.callers.get i with heq | ⟨hg, n, d, hi, hd, hdn⟩
  · unfold Run.deliver
    rw [heq]
    cases s.callers[i]? with
    | none => exact h
    | some c =>
        cases c with
        | returned _ _ | dropped _ => exact h
        | waiting n =>
            simp only [h.outcome?_eq n]
            cases s.outcome? n with
            | none => exact h
            | some o => exact ⟨h.connection, h.callers.set i _, h.calls, h.outcomes⟩
  · have hr : r.deliver i = r := by simp [Run.deliver, hi]
    rw [hr, Run.deliver, hd]
    cases d with
    | returned _ _ | dropped _ => exact h
    | waiting m =>
        cases hdn
        cases ho : s.outcome? n with
        | none => simpa only [ho] using h
        | some o =>
            simp only [ho]
            exact ⟨h.connection, h.callers.set_returned hg hi _, h.calls, h.outcomes⟩

theorem begin (h : AlikeBut gone r s) (n : Nat) : AlikeBut gone (r.begin n) (s.begin n) := by
  have hcan : r.canBegin n = s.canBegin n := by simp [canBegin, call?, h.calls]
  unfold Run.begin
  rw [hcan]
  split
  · exact h.changeCall n _
  · exact h

theorem finish (h : AlikeBut gone r s) (n : Nat) (x : Ending η) :
    AlikeBut gone (r.finish n x) (s.finish n x) := by
  have hcan : r.canEnd n = s.canEnd n := by simp [canEnd, call?, h.calls]
  obtain ⟨hout, hconn⟩ := h.connection.complete n x.result
  unfold Run.finish
  rw [hcan]
  split
  · simp only [hout]
    refine settle? ?_ n _
    exact changeCall (r := { r with connection := _ }) (s := { s with connection := _ })
      ⟨hconn, h.callers, h.calls, h.outcomes⟩ n _
  · exact h

theorem disconnect (h : AlikeBut gone r s) : AlikeBut gone r.disconnect s.disconnect := by
  obtain ⟨hout, hconn⟩ := h.connection.disconnect
  unfold Run.disconnect
  generalize r.connection.disconnect = x at hout hconn
  generalize s.connection.disconnect = y at hout hconn
  obtain ⟨a, c⟩ := x
  obtain ⟨b, d⟩ := y
  obtain rfl : a = b := hout
  cases a with
  | none => exact ⟨hconn, h.callers, h.calls, h.outcomes⟩
  | some a =>
      exact settle (r := { r with connection := c }) (s := { s with connection := d })
        ⟨hconn, h.callers, h.calls, h.outcomes⟩ a.1 a.2

theorem lose (h : AlikeBut gone r s) (n : Nat) :
    AlikeBut gone (r.step (.lose n)) (s.step (.lose n)) :=
  ⟨h.connection.lose n, h.callers, h.calls, h.outcomes⟩

theorem clock (h : AlikeBut gone r s) (moment : Int) :
    AlikeBut gone (r.step (.clock moment)) (s.step (.clock moment)) :=
  ⟨h.connection.atMoment moment, h.callers, h.calls, h.outcomes⟩

/-- A caller of the set goes while others wait. -/
theorem drop_gone (h : AlikeBut gone r s) (hc : r.connection.Consistent) (hg : gone i = true)
    (hkept : ∀ n, (r.drop i).Joined i n → (r.drop i).outcome? n ≠ some .abandoned) :
    AlikeBut gone (r.drop i) s := by
  have hrule := drop_rule hc i
  generalize r.drop i = r' at hrule hkept
  cases hrule with
  | stay _ => exact h
  | leave hi _ hp =>
      refine ⟨h.connection.recount (q := s.connection.pending) ?_, h.callers.set_dropped hg hi,
        h.calls, h.outcomes⟩
      rw [← h.connection.attempt, hp]
      rfl
  | leaveLate hi _ => exact ⟨h.connection, h.callers.set_dropped hg hi, h.calls, h.outcomes⟩
  | abandon hi _ _ =>
      have hlt := (List.getElem?_eq_some_iff.mp hi).1
      have hjoined := hkept r.connection.attempt ⟨_, List.getElem?_set_self hlt, rfl⟩
      exact absurd ((outcome?_of_outcomes (r := r) rfl).trans (if_pos rfl)) hjoined
  | part he _ => rcases he with he | he <;> cases he

/-- Of an attempt that no caller of the set has joined the same callers wait. -/
theorem waiting_of_not_joined (h : AlikeBut gone r s)
    (hnone : ∀ j, gone j = true → ¬r.Joined j n) (hi : s.callers[i]? = some (.waiting n)) :
    r.callers[i]? = some (.waiting n) := by
  cases hg : gone i with
  | false => rw [h.callers.others hg, hi]
  | true => exact absurd (h.joined ⟨_, hi, rfl⟩) (hnone i hg)

theorem release (h : AlikeBut gone r s) (hr : r.Attendance) (hs : s.Attendance)
    (hkept : ∀ j, gone j = true → r.Joined j n → (r.connection.release n).1 ≠ some .abandoned) :
    (r.connection.release n).1 = (s.connection.release n).1 ∧
      (r.connection.release n).2.Matches (s.connection.release n).2 := by
  have hpending := h.connection.isPending n
  cases hn : r.connection.isPending n with
  | false =>
      rw [Connection.release_of_not_pending hn,
        Connection.release_of_not_pending (hpending.symm.trans hn)]
      exact ⟨rfl, h.connection⟩
  | true =>
      obtain ⟨w, hw⟩ := Connection.isPending_iff.mp hn
      obtain ⟨v, hv⟩ := Connection.isPending_iff.mp (hpending.symm.trans hn)
      refine h.connection.release hw hv ⟨fun hlt => ?_, fun hlt => ?_⟩
      · have hle := countP_waitsFor_le h.callers.length_eq fun _ => h.callers.waiting (n := n)
        rw [hr.count _ hw, hs.count _ hv] at hle
        exact Nat.lt_of_lt_of_le hlt hle
      · by_contra hone
        -- The attempt would be given up, so that no caller of the set can have joined it.
        have hnone (j : Nat) (hj : gone j = true) : ¬r.Joined j n := by
          intro hjoined
          apply hkept j hj hjoined
          rw [Connection.release_of_pending hw, if_neg hone]
        have hle := countP_waitsFor_le h.callers.length_eq.symm
          fun _ => h.waiting_of_not_joined hnone (n := n)
        rw [hr.count _ hw, hs.count _ hv] at hle
        exact hone (Nat.lt_of_lt_of_le hlt hle)

/-- Another caller goes. -/
theorem drop_other (h : AlikeBut gone r s) (hr : r.Attendance) (hs : s.Attendance)
    (hg : gone i = false)
    (hkept : ∀ j n, gone j = true → r.Joined j n → (r.drop i).outcome? n ≠ some .abandoned) :
    AlikeBut gone (r.drop i) (s.drop i) := by
  have heq := h.callers.others hg
  cases hi : r.callers[i]? with
  | none => simpa [Run.drop, hi, ← heq] using h
  | some c =>
      cases c with
      | returned _ _ | dropped _ => simpa [Run.drop, hi, ← heq] using h
      | waiting n =>
          have hdrop := drop_of_waiting hi
          obtain ⟨hout, hconn⟩ := h.release hr hs (n := n) <| by
            intro j hj hjoined hgiven
            apply hkept j n hj hjoined
            rw [hdrop, hgiven]
            exact (outcome?_of_outcomes (r := r) rfl).trans (if_pos rfl)
          rw [hdrop, drop_of_waiting (heq.symm.trans hi), hout]
          exact settle? (r := { r with connection := _, callers := _ })
            (s := { s with connection := _, callers := _ })
            ⟨hconn, h.callers.set i _, h.calls, h.outcomes⟩ n _

end AlikeBut

/-! ## Runs in which nobody of a set goes -/

/-- The events without those in which a caller of this set goes. -/
def without (gone : Nat → Bool) (events : List (Event η)) : List (Event η) :=
  events.filter fun
    | .drop i => !gone i
    | _ => true

/-- An event that concerns somebody who is gone happens in one run only, any other in both, and the runs
stay alike. -/
theorem AlikeBut.step (h : AlikeBut gone r s) (hc : r.connection.Consistent) (hr : r.Attendance)
    (hs : s.Attendance) (e : Event η)
    (hkept : ∀ i n, gone i = true → (r.step e).Joined i n → (r.step e).outcome? n ≠ some .abandoned) :
    AlikeBut gone (r.step e) ((without gone [e]).foldl Run.step s) := by
  cases e with
  | acquire => exact h.acquire
  | deliver i => exact h.deliver i
  | begin n => exact h.begin n
  | finish n x => exact h.finish n x
  | disconnect => exact h.disconnect
  | lose n => exact h.lose n
  | clock moment => exact h.clock moment
  | drop i =>
      cases hg : gone i with
      | true =>
          have hwithout : without gone [(.drop i : Event η)] = [] := by simp [without, hg]
          rw [hwithout]
          exact h.drop_gone hc hg fun n => hkept i n hg
      | false =>
          have hwithout : without gone [(.drop i : Event η)] = [.drop i] := by simp [without, hg]
          rw [hwithout]
          exact h.drop_other hr hs hg fun j n hj hjoined =>
            hkept j n hj ((drop_rule hc i).joined hjoined)

/-- As long as no attempt is given up that one of the set has joined, the set is not missed. -/
theorem alikeBut_after (gone : Nat → Bool) (events : List (Event η))
    (hkept : ∀ i n, gone i = true → (after events).Joined i n →
      (after events).outcome? n ≠ some .abandoned) :
    AlikeBut gone (after events) (after (without gone events)) := by
  induction events using List.reverseRecOn with
  | nil => exact .refl gone empty
  | append_singleton events e ih =>
      have hc := consistent_after events
      have hrule := step_rule hc e
      have hstep : after (events ++ [e]) = (after events).step e := after_append events [e]
      rw [hstep] at hkept ⊢
      have hbefore := ih fun i n hg hjoined ho =>
        hkept i n hg (hrule.joined hjoined) ((ledger_after events).outcome?_turn hrule.turn ho)
      rw [without, List.filter_append, after_append]
      exact hbefore.step hc (attendance_after events) (attendance_after _) e hkept

/-- The caller has joined the attempt and waits for its end. -/
def StaysFor (events : List (Event η)) (i n : Nat) : Prop :=
  (after events).Joined i n ∧ ¬GoneInTime events i n

/-- Who can go, and what that changes. -/
structure Cancellation (events : List (Event η)) : Prop where
  deserted_iff : ∀ n, 1 ≤ n → n ≤ (after events).connection.attempt →
    (⟨.connecting, .idle, n⟩ ∈ (after events).connection.history ↔
      ∀ i, (after events).Joined i n → GoneInTime events i n)
  called_off : ∀ n, ⟨.connecting, .idle, n⟩ ∈ (after events).connection.history →
    ∃ c, (after events).call? n = some c ∧ c.isCalledOff = true
  /-- Of attempts for which somebody else stays others may go at any time. -/
  not_missed : ∀ gone : Nat → Bool,
    (∀ i n, gone i = true → (after events).Joined i n → ∃ j, gone j = false ∧ StaysFor events j n) →
    ∀ earlier, earlier <+: events →
      (after earlier).connection.Matches (after (without gone earlier)).connection ∧
      (after earlier).calls = (after (without gone earlier)).calls ∧
      ∀ i : Nat, gone i = false →
        (after earlier).callers[i]? = (after (without gone earlier)).callers[i]?

theorem call?_of_attempt_le (events : List (Event η)) (hn : 1 ≤ n)
    (hle : n ≤ (after events).connection.attempt) : ∃ c, (after events).call? n = some c := by
  have hnum := numbered_after events
  have hmem : n ∈ (after events).calls.map (·.attempt) := by
    rw [hnum, List.mem_range'_1]
    omega
  obtain ⟨c, hc, rfl⟩ := List.mem_map.mp hmem
  exact ⟨c, hnum.call?_eq hc⟩

/-- An attempt is given up if and only if everybody who waited for it has left before it ended, and those
who leave an attempt that somebody else stays for make no difference to anyone. -/
theorem cancellation (events : List (Event η)) : Cancellation events where
  deserted_iff n hn hle := idle_mem_history_iff hn hle
  called_off n hidle := by
    have ho := (abandoned_iff events n).mp hidle
    have hsome : ((after events).outcome? n).isSome = true := by rw [ho]; rfl
    obtain ⟨hn, hle, _⟩ := ((ledger_after events).isSome_iff n).mp hsome
    obtain ⟨c, hc⟩ := call?_of_attempt_le events hn hle
    have hcn : c.attempt = n := by simpa using List.find?_some hc
    refine ⟨c, hc, callsOff_after events c (List.mem_of_find?_eq_some hc) ?_⟩
    rwa [hcn]
  not_missed gone hstays earlier hp := by
    have halike : AlikeBut gone (after earlier) (after (without gone earlier)) := by
      refine alikeBut_after gone earlier fun i n hg hjoined ho => ?_
      have hidle := (abandoned_iff earlier n).mpr ho
      obtain ⟨j, _, hj, hlate⟩ := hstays i n hg (joined_mono hp hjoined)
      exact hlate (goneInTime_of_abandoned (history_mono hp hidle) hj)
    exact ⟨halike.connection, halike.calls, fun i hi => halike.callers.others hi⟩

end Run

end Swarmkeeper.Service
