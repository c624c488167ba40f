import Swarmkeeper.Proofs.Service.Pursuit
import Swarmkeeper.Proofs.Service.SingleFlight
import Swarmkeeper.Service.Persistence

/-!
# Attempts that all fail

When every start call fails with one and the same error after which one may try again, a caller that is
alone with its connection can be in few places, and where it is says what the history is.
-/

namespace Swarmkeeper.Service

variable {η : Type}

/-! ## The history -/

/-- The phase that so many failures, one after the other, leave behind. -/
def Phase.afterFailures : Nat → Phase
  | 0 => idle
  | _ + 1 => failed

/-- The first step of the attempt that comes after so many failures. -/
def setOut (n : Nat) : Transition := ⟨.afterFailures n, .connecting, n + 1⟩

/-- The steps of so many attempts that fail, in order. -/
def refusals : Nat → List Transition
  | 0 => []
  | n + 1 => refusals n ++ [setOut n, ⟨.connecting, .failed, n + 1⟩]

theorem length_refusals (n : Nat) : (refusals n).length = 2 * n := by
  induction n with
  | zero => rfl
  | succ n ih =>
      simp only [refusals, List.length_append, ih, List.length_cons, List.length_nil]
      omega

theorem refusals_prefix_of_le {n m : Nat} (h : n ≤ m) : refusals n <+: refusals m := by
  induction h with
  | refl => exact List.prefix_refl _
  | step _ ih => exact ih.trans (List.prefix_append _ _)

theorem setOut_prefix_of_lt {n m : Nat} (h : n < m) : refusals n ++ [setOut n] <+: refusals m := by
  refine List.IsPrefix.trans ?_ (refusals_prefix_of_le h)
  exact ⟨[⟨.connecting, .failed, n + 1⟩], by simp [refusals]⟩

/-! ## The connection -/

namespace Connection

variable {c : Connection η} {n : Nat}

/-- So many attempts have failed, and none is under way. -/
structure Stalled (c : Connection η) (n : Nat) : Prop where
  phase : c.state.phase = .afterFailures n
  attempt : c.attempt = n
  pending : c.pending = none
  history : c.history.reverse = refusals n

/-- So many attempts have failed, and one more is under way. -/
structure Trying (c : Connection η) (n : Nat) : Prop where
  state : c.state = .connecting
  attempt : c.attempt = n + 1
  pending : ∃ waiters, c.pending = some ⟨n + 1, waiters⟩
  history : c.history.reverse = refusals n ++ [setOut n]

theorem Stalled.length (h : c.Stalled n) : c.history.length = 2 * n := by
  rw [← List.length_reverse, h.history, length_refusals]

theorem Trying.length (h : c.Trying n) : c.history.length = 2 * n + 1 := by
  rw [← List.length_reverse, h.history, List.length_append, length_refusals]
  rfl

theorem stalled_idle : (idle : Connection η).Stalled 0 := ⟨rfl, rfl, rfl, rfl⟩

theorem Stalled.acquire (h : c.Stalled n) : c.acquire = (.started (n + 1), c.start) := by
  cases hs : c.state with
  | connected handle =>
      have hp := h.phase
      rw [hs] at hp
      cases n <;> cases hp
  | _ => simp [Connection.acquire, hs, h.pending, h.attempt]

theorem Stalled.start (h : c.Stalled n) : c.start.Trying n where
  state := rfl
  attempt := congrArg (· + 1) h.attempt
  pending := ⟨1, by simp [Connection.start, enter, h.attempt]⟩
  history := by
    have hp : (State.connecting : State η).phase = .connecting := rfl
    simp [Connection.start, h.history, h.phase, h.attempt, hp, setOut]

theorem Trying.complete (h : c.Trying n) (f : Failure) :
    (c.complete (n + 1) (.error f)).1 = some (.failed f) ∧
      (c.complete (n + 1) (.error f)).2.Stalled (n + 1) := by
  have hp : c.isPending (n + 1) = true := isPending_iff.mpr h.pending
  rw [Connection.complete, if_pos hp]
  refine ⟨rfl, rfl, h.attempt, rfl, ?_⟩
  simp [h.history, h.state, h.attempt, State.phase, refusals]

theorem Stalled.ask (h : c.Stalled n) (f : Failure) :
    ∃ d : Connection η, (c.ask fun _ => .error f) = (.error f, d) ∧ d.Stalled (n + 1) := by
  refine ⟨(c.start.complete (n + 1) (.error f)).2, ?_, (h.start.complete f).2⟩
  rw [Connection.ask, h.acquire]

end Connection

namespace RetryPolicy

variable {p : RetryPolicy} {c d : Connection η} {start : Nat → Except Failure η} {asked delay : Nat}
  {given result : Except Failure η} {f : Failure}

theorem persist_finish (ha : c.ask start = (given, d))
    (hr : p.respond (asked + 1) given = .finish result) :
    p.persist start asked c = (result, d) := by
  rw [persist, ha]
  dsimp only
  split
  · rename_i h
    rw [hr] at h
    cases h
    rfl
  · rename_i h
    rw [hr] at h
    cases h

theorem persist_again (ha : c.ask start = (given, d)) (hr : p.respond (asked + 1) given = .again delay) :
    p.persist start asked c = p.persist start (asked + 1) d := by
  rw [persist, ha]
  dsimp only
  split
  · rename_i h
    rw [hr] at h
    cases h
  · rfl

/-- One who asks on his own is refused as often as his policy lets him ask. -/
theorem persist_refused (hf : f.isRetryable = true) (more : asked < p.most) (hc : c.Stalled asked) :
    ∃ d : Connection η, d.Stalled p.most ∧ p.persist (fun _ => .error f) asked c =
      (.error (.retriesExhausted p.most f.message), d) := by
  induction hk : p.most - asked generalizing asked c with
  | zero => omega
  | succ k ih =>
      obtain ⟨d, hask, hd⟩ := hc.ask f
      rcases p.respond_cases (Nat.le_add_left 1 asked) more (Except.error f : Except Failure η) with
        ⟨_, _, _, again, hr⟩ | ⟨result, verdict, hr⟩
      · rw [persist_again hask hr]
        exact ih again hd (by omega)
      · rw [persist_finish hask hr]
        cases verdict with
        | refused hn => simp [hf] at hn
        | exhausted _ all => exact ⟨d, all ▸ hd, rfl⟩

end RetryPolicy

/-! ## The start call -/

namespace Run

variable {r : Run η} {n : Nat} {f : Failure}

theorem acquire_stalled (h : r.connection.Stalled n) :
    r.step .acquire = { r with
      connection := r.connection.start
      callers := r.callers ++ [.waiting (n + 1)]
      calls := r.calls ++ [.ofAttempt (n + 1)] } := by
  simp only [step, acquire, h.acquire, forsake, h.pending]

theorem canBegin_acquire (h : r.connection.Stalled n) (hn : (r.step .acquire).Numbered) :
    (r.step .acquire).canBegin (n + 1) = true := by
  have hmem : StartCall.ofAttempt (n + 1) ∈ (r.step .acquire).calls := by
    rw [acquire_stalled h]
    exact List.mem_append_right _ List.mem_cons_self
  have hcall := hn.call?_eq hmem
  rw [StartCall.ofAttempt] at hcall
  simp [canBegin, hcall, StartCall.canBegin]

theorem begin_of_canBegin (h : r.canBegin n = true) :
    r.step (.begin n) = r.changeCall n .begin ∧ (r.step (.begin n)).canEnd n = true := by
  have hstep : r.step (.begin n) = r.changeCall n .begin := by rw [step, begin, if_pos h]
  refine ⟨hstep, ?_⟩
  obtain ⟨c, hc, -⟩ := (Option.any_eq_true _ _).mp h
  rw [hstep, canEnd, call?_changeCall (f := StartCall.begin) (fun _ => rfl), if_pos rfl, hc]
  rfl

theorem call?_settle (n : Nat) (o : Outcome η) :
    (r.settle n o).call? n = (r.call? n).map StartCall.callOff :=
  (call?_changeCall (r := { r with outcomes := (n, o) :: r.outcomes }) (f := StartCall.callOff)
    (fun _ => rfl) n n).trans (if_pos rfl)

theorem call?_finish (n : Nat) (e : Ending η) :
    (r.changeCall n (.finish e)).call? n = (r.call? n).map (.finish e) :=
  (call?_changeCall (f := StartCall.finish e) (fun _ => rfl) n n).trans (if_pos rfl)

theorem finish_of_canEnd (h : r.canEnd (n + 1) = true) (hc : r.connection.Trying n) (f : Failure) :
    let s := r.step (.finish (n + 1) (.returned (.error f)))
    s.connection.Stalled (n + 1) ∧ s.callers = r.callers ∧ s.outcome? (n + 1) = some (.failed f) ∧
      s.canBegin (n + 1) = false ∧ s.canEnd (n + 1) = false := by
  obtain ⟨ho, hs⟩ := hc.complete f
  obtain ⟨c, hcall, -⟩ := (Option.any_eq_true _ _).mp h
  let s : Run η := { r with connection := (r.connection.complete (n + 1) (.error f)).2 }
  let e : Ending η := .returned (.error f)
  have hstep : r.step (.finish (n + 1) e) =
      (s.changeCall (n + 1) (.finish e)).settle (n + 1) (.failed f) := by
    simp only [step, finish, if_pos h, e, s, Ending.result, ho, settle?]
  have hcall : (r.step (.finish (n + 1) e)).call? (n + 1) = some (c.finish e).callOff := by
    have hs : s.call? (n + 1) = some c := hcall
    rw [hstep, call?_settle, call?_finish, hs]
    rfl
  refine ⟨?_, by rw [hstep]; rfl, ?_, by rw [canBegin, hcall]; rfl, by rw [canEnd, hcall]; rfl⟩
  · rw [hstep]
    exact hs
  · rw [hstep]
    exact (outcome?_of_outcomes rfl).trans (if_pos rfl)

/-- So many attempts have failed, and nothing is left of their start calls. -/
structure Halted (r : Run η) (n : Nat) : Prop where
  stalled : r.connection.Stalled n
  over_begin : r.canBegin n = false
  over_end : r.canEnd n = false

theorem Halted.deliver (h : r.Halted n) (i : Nat) : (r.step (.deliver i)).Halted n := by
  have hrule := deliver_rule (r := r) i
  rw [step]
  generalize r.deliver i = s at hrule ⊢
  cases hrule with
  | stay _ | deliver _ _ => exact ⟨h.stalled, h.over_begin, h.over_end⟩
  | part he _ => rcases he with he | he <;> cases he

theorem canBegin_of_canEnd (h : r.canEnd n = true) : r.canBegin n = false := by
  obtain ⟨c, hc, he⟩ := (Option.any_eq_true _ _).mp h
  rw [canBegin, hc]
  rcases c with ⟨_, _ | _ | _, _ | _⟩ <;> first | rfl | cases he

end Run

/-! ## The caller -/

namespace Pursuit

variable {p : RetryPolicy} {x : Pursuit η} {f : Failure}

/-- Where a caller can be whose start calls all fail in this way. -/
inductive Refused (p : RetryPolicy) (f : Failure) : Pursuit η → Prop where
  | due {r : Run η} {now time : Nat} {past : List Inquiry} (more : past.length < p.most)
      (halted : r.Halted past.length) :
      Refused p f ⟨r, now, .due time ⟨some p, past.length, .asking⟩, past.length, past⟩
  | called {r : Run η} {now since caller : Nat} {past : List Inquiry} (more : past.length < p.most)
      (trying : r.connection.Trying past.length)
      (waits : r.callers[caller]? = some (.waiting (past.length + 1)))
      (call : r.canBegin (past.length + 1) = true) :
      Refused p f
        ⟨r, now, .waiting since ⟨some p, past.length + 1, .waiting caller⟩, past.length + 1, past⟩
  | probing {r : Run η} {now since caller : Nat} {past : List Inquiry} (more : past.length < p.most)
      (trying : r.connection.Trying past.length)
      (waits : r.callers[caller]? = some (.waiting (past.length + 1)))
      (call : r.canEnd (past.length + 1) = true) :
      Refused p f
        ⟨r, now, .waiting since ⟨some p, past.length + 1, .waiting caller⟩, past.length + 1, past⟩
  /-- The attempt has failed, and the caller has yet to see it. -/
  | told {r : Run η} {now since caller : Nat} {past : List Inquiry} (more : past.length < p.most)
      (halted : r.Halted (past.length + 1))
      (waits : r.callers[caller]? = some (.waiting (past.length + 1)))
      (outcome : r.outcome? (past.length + 1) = some (.failed f)) :
      Refused p f
        ⟨r, now, .waiting since ⟨some p, past.length + 1, .waiting caller⟩, past.length + 1, past⟩
  | done {r : Run η} {now : Nat} {past : List Inquiry} (all : past.length = p.most)
      (halted : r.Halted past.length) :
      Refused p f ⟨r, now, .done (.error (.retriesExhausted p.most f.message)), past.length, past⟩

/-- The number of steps that the caller knows of: it has begun an attempt each time that it asked, and seen
its end each time that it was given something. -/
def known (x : Pursuit η) : Nat := x.asked + x.inquiries.length

/-- A turn gets the caller on. -/
def Ready (x : Pursuit η) : Prop :=
  match x.standing with
  | .due time _ => time ≤ x.now
  | .waiting _ _ => x.run.connection.state ≠ .connecting
  | .done _ | .gone => False

/-- How much is still to be done for the caller, if a start call makes so many probes. -/
def effort (p : RetryPolicy) (limit probes : Nat) (x : Pursuit η) : Nat :=
  match x.standing with
  | .due _ _ => (p.most - x.inquiries.length) * (limit + 3)
  | .waiting _ _ => (p.most - x.inquiries.length - 1) * (limit + 3) +
      if x.run.canBegin x.run.connection.attempt then limit + 2
      else if x.run.canEnd x.run.connection.attempt then limit - probes + 1
      else 1
  | .done _ | .gone => 0

namespace Refused

theorem start (p : RetryPolicy) (f : Failure) : Refused p f (start p (Run.empty (η := η)) 0) :=
  @due η p f .empty 0 0 [] p.one_le_most ⟨Connection.stalled_idle, rfl, rfl⟩

/-- The history is always the beginning of the one that there will be. -/
theorem history_prefix_refusals (h : Refused p f x) :
    x.run.connection.history.reverse <+: refusals p.most := by
  cases h with
  | due more halted => exact halted.stalled.history ▸ refusals_prefix_of_le (Nat.le_of_lt more)
  | called more trying | probing more trying => exact trying.history ▸ setOut_prefix_of_lt more
  | told more halted => exact halted.stalled.history ▸ refusals_prefix_of_le more
  | done all halted => exact halted.stalled.history ▸ refusals_prefix_of_le (Nat.le_of_eq all)

/-- In the end the history is the whole, and the caller is told that all attempts failed. -/
theorem of_done (h : Refused p f x) {result : Except Failure η} (hx : x.standing = .done result) :
    result = .error (.retriesExhausted p.most f.message) ∧
      x.run.connection.history.reverse = refusals p.most := by
  cases h with
  | due | called | probing | told => cases hx
  | done all halted =>
      cases hx
      exact ⟨rfl, all ▸ halted.stalled.history⟩

/-- The caller knows of every step, but maybe the last. -/
theorem length_history (h : Refused p f x) :
    x.known ≤ x.run.connection.history.length ∧ x.run.connection.history.length ≤ x.known + 1 := by
  cases h with
  | due _ halted | told _ halted | done _ halted =>
      have hl := halted.stalled.length
      simp only [known, hl]
      omega
  | called _ trying | probing _ trying =>
      have hl := trying.length
      simp only [known, hl]
      omega

/-! ### Turns -/

/-- What a turn does to such a caller. -/
inductive Turned (p : RetryPolicy) (f : Failure) (x : Pursuit η) : Pursuit η → Prop where
  | stay (idle : ¬x.Ready) : Turned p f x x
  | goOn {y : Pursuit η} (refused : Refused p f y) (known : y.known = x.known + 1)
      (less : ∀ limit probes, y.effort p limit probes < x.effort p limit probes) : Turned p f x y

theorem look_waiting {r : Run η} {caller n : Nat} (waits : r.callers[caller]? = some (.waiting n))
    (q : Request) : q.look r caller = .wait { q with stage := .waiting caller } := by
  simp only [Request.look, Run.result?, waits]

theorem mul_sub_one {m n : Nat} (h : n < m) (k : Nat) : (m - n) * k = (m - n - 1) * k + k := by
  obtain ⟨j, rfl⟩ := Nat.exists_eq_add_of_lt h
  rw [show n + j + 1 - n = j + 1 by omega, Nat.add_sub_cancel, Nat.succ_mul]

theorem ask {r : Run η} {now time : Nat} {past : List Inquiry} (more : past.length < p.most)
    (halted : r.Halted past.length) (hn : (r.step .acquire).Numbered) (hnow : time ≤ now) :
    let x : Pursuit η := ⟨r, now, .due time ⟨some p, past.length, .asking⟩, past.length, past⟩
    Turned p f x (x.step .turn) := by
  have hacq := Run.acquire_stalled halted.stalled
  have waits : (r.step .acquire).callers[r.callers.length]? = some (.waiting (past.length + 1)) := by
    rw [hacq]
    exact List.getElem?_concat_length
  have trying : (r.step .acquire).connection.Trying past.length := hacq ▸ halted.stalled.start
  have call := Run.canBegin_acquire halted.stalled hn
  intro x
  rw [turn_due rfl hnow, look_waiting waits]
  refine .goOn (.called more trying waits call) ?_ fun limit probes => ?_
  · simp only [come, known, x]
    omega
  · have hmul := mul_sub_one more (limit + 3)
    simp only [come, effort, x, trying.attempt, call, if_true]
    omega

theorem react {r : Run η} {s : Standing η} {past : List Inquiry} {stage : Stage}
    (hf : f.isRetryable = true) (more : past.length < p.most) (halted : r.Halted (past.length + 1))
    (now caller since : Nat) {y : Pursuit η}
    (hy : y = Pursuit.come ⟨r, now, s, past.length + 1, past⟩ caller since
      (Request.react ⟨some p, past.length + 1, stage⟩ (.error f))) :
    Refused p f y ∧ y.known = 2 * past.length + 2 ∧
      ∀ limit probes, y.effort p limit probes ≤ (p.most - past.length - 1) * (limit + 3) := by
  have length_concat (c : Inquiry) : (past ++ [c]).length = past.length + 1 := List.length_append
  rcases p.respond_cases (Nat.le_add_left 1 _) more (Except.error f : Except Failure η) with
    ⟨_, _, _, again, hr⟩ | ⟨result, verdict, hr⟩
  · simp only [Request.react, hr, come] at hy
    subst hy
    refine ⟨?_, by simp only [known, length_concat]; omega, fun limit probes => ?_⟩
    · have hdue := @due η p f r now (now + p.delayFor (past.length + 1))
        (past ++ [⟨caller, since, now, some (p.delayFor (past.length + 1))⟩])
      rw [length_concat] at hdue
      exact hdue again halted
    · simp only [effort, length_concat, Nat.sub_sub]
      exact Nat.le_refl _
  · simp only [Request.react, hr, come] at hy
    subst hy
    cases verdict with
    | refused hn => simp [hf] at hn
    | exhausted _ all =>
        refine ⟨?_, by simp only [known, length_concat]; omega, fun _ _ => Nat.zero_le _⟩
        have hdone := @done η p f r now (past ++ [⟨caller, since, now, none⟩])
        rw [length_concat] at hdone
        exact hdone all halted

theorem wait (hl : x.run.Ledger) {since n caller : Nat} {policy : Option RetryPolicy}
    (hx : x.standing = .waiting since ⟨policy, n, .waiting caller⟩)
    (hs : x.run.connection.state = .connecting)
    (waits : x.run.callers[caller]? = some (.waiting x.run.connection.attempt)) :
    x.step .turn = x := by
  have hdel : x.run.step (.deliver caller) = x.run :=
    Run.deliver_of_outcome_none waits (hl.outcome?_attempt hs)
  rw [turn_waiting hx, hdel, look_waiting waits]
  simp only [come, ← hx]

theorem turned (h : Refused p f x) (hx : Faithful p x) (hf : f.isRetryable = true) :
    Turned p f x (x.step .turn) := by
  cases h with
  | @due r now time past more halted =>
      by_cases hnow : time ≤ now
      · refine ask more halted ?_ hnow
        obtain ⟨events, hr⟩ := hx.reached
        have hn := Run.numbered_after (events ++ [.acquire])
        rwa [Run.after_append, ← hr] at hn
      · rw [turn_sleeping rfl hnow]
        exact .stay hnow
  | called more trying waits _ | probing more trying waits _ =>
      rw [wait hx.ledger rfl trying.state (trying.attempt ▸ waits)]
      exact .stay fun h => h trying.state
  | @told r now since caller past more halted waits outcome =>
      have given : (r.step (.deliver caller)).result? caller = some (.error f) :=
        Run.result?_eq_some.mpr ⟨_, Run.deliver_of_outcome_some waits outcome⟩
      obtain ⟨refused, known_eq, effort_le⟩ := react (s := .waiting since _) hf more
        (halted.deliver caller) now caller since rfl
      rw [turn_waiting rfl]
      simp only [Request.look, given]
      refine .goOn refused (known_eq.trans ?_) fun limit probes =>
        Nat.lt_of_le_of_lt (effort_le limit probes) ?_
      · simp only [known]
        omega
      · simp [effort, halted.stalled.attempt, halted.over_begin, halted.over_end]
  | done all halted => exact .stay id

/-! ### What happens meanwhile -/

theorem step_event (x : Pursuit η) {e : Event η} (he : e.caller? = none) :
    x.step (.event e) = { x with run := x.run.step e } := by
  simp [step, owns, he]

/-- A caller whose start call is there is not done. -/
theorem going (h : Refused p f x) (hc : x.run.canBegin x.run.connection.attempt = true ∨
    x.run.canEnd x.run.connection.attempt = true) (result : Except Failure η) :
    x.standing ≠ .done result := by
  cases h with
  | due | called | probing | told => nofun
  | done _ halted =>
      rw [halted.stalled.attempt, halted.over_begin, halted.over_end] at hc
      rcases hc with hc | hc <;> cases hc

theorem begin (h : Refused p f x) (hb : x.run.canBegin x.run.connection.attempt = true)
    {y : Pursuit η} (hy : y = x.step (.event (.begin x.run.connection.attempt))) :
    Refused p f y ∧ y.known = x.known ∧ y.standing = x.standing ∧
      y.run.connection.history = x.run.connection.history ∧
      ∀ limit probes, y.effort p limit 0 < x.effort p limit probes := by
  rw [step_event x rfl] at hy
  subst hy
  cases h with
  | due _ halted | told _ halted | done _ halted =>
      rw [halted.stalled.attempt, halted.over_begin] at hb
      cases hb
  | probing _ trying _ call =>
      rw [trying.attempt, Run.canBegin_of_canEnd call] at hb
      cases hb
  | called more trying waits call =>
      obtain ⟨hstep, hend⟩ := Run.begin_of_canBegin call
      have hover := Run.canBegin_of_canEnd hend
      rw [hstep] at hend hover
      simp only [trying.attempt, hstep]
      refine ⟨.probing more trying waits hend, rfl, trivial, rfl, fun limit probes => ?_⟩
      simp only [effort, Run.changeCall_connection, trying.attempt, call, hend, hover]
      simp

theorem finish (h : Refused p f x) (he : x.run.canEnd x.run.connection.attempt = true)
    {y : Pursuit η}
    (hy : y = x.step (.event (.finish x.run.connection.attempt (.returned (.error f))))) :
    Refused p f y ∧ y.known = x.known ∧ y.standing = x.standing ∧
      x.run.connection.history.length ≤ y.run.connection.history.length ∧
      ∀ limit probes, probes < limit → y.effort p limit probes < x.effort p limit probes := by
  rw [step_event x rfl] at hy
  subst hy
  cases h with
  | due _ halted | told _ halted | done _ halted =>
      rw [halted.stalled.attempt, halted.over_end] at he
      cases he
  | called _ trying _ call =>
      rw [trying.attempt] at he
      rw [Run.canBegin_of_canEnd he] at call
      cases call
  | probing more trying waits call =>
      obtain ⟨hs, hcallers, ho, hb, he⟩ := Run.finish_of_canEnd call trying f
      simp only [trying.attempt]
      refine ⟨.told more ⟨hs, hb, he⟩ (hcallers ▸ waits) ho, rfl, trivial, ?_, fun limit probes hp => ?_⟩
      · rw [trying.length, hs.length]
        omega
      · simp only [effort, hs.attempt, trying.attempt, hb, he, call, Run.canBegin_of_canEnd call]
        simp
        omega

theorem effort_probe (h : Refused p f x) (he : x.run.canEnd x.run.connection.attempt = true)
    {limit probes : Nat} (hp : probes + 1 < limit) :
    x.effort p limit (probes + 1) < x.effort p limit probes := by
  cases h with
  | due _ halted | told _ halted | done _ halted =>
      rw [halted.stalled.attempt, halted.over_end] at he
      cases he
  | called _ trying _ call | probing _ trying _ call =>
      simp only [effort, he, Run.canBegin_of_canEnd he]
      simp
      omega

theorem tick (h : Refused p f x) (amount : Nat) : Refused p f (x.step (.tick amount)) := by
  cases h with
  | due more halted => exact .due more halted
  | called more trying waits call => exact .called more trying waits call
  | probing more trying waits call => exact .probing more trying waits call
  | told more halted waits outcome => exact .told more halted waits outcome
  | done all halted => exact .done all halted

theorem lose (h : Refused p f x) (n : Nat) : x.step (.event (.lose n)) = x := by
  have hs : ∀ handle, x.run.connection.state ≠ .connected handle := by
    intro handle hc
    cases h with
    | due _ halted | told _ halted | done _ halted =>
        have hp := halted.stalled.phase
        rw [hc] at hp
        generalize List.length _ = k at hp
        cases k <;> cases hp
    | called _ trying | probing _ trying =>
        have := trying.state
        rw [hc] at this
        cases this
  have hl : x.run.connection.lose n = x.run.connection := by
    unfold Connection.lose
    split
    · exact absurd ‹_› (hs _)
    · rfl
  rw [step_event x rfl, Run.step, hl]

/-! ### What comes next -/

/-- What a caller waits for. -/
inductive Awaits (x : Pursuit η) : Prop where
  | turn (time : Nat) (ready : ∀ y : Pursuit η, y.run = x.run → y.standing = x.standing →
      time ≤ y.now → y.Ready)
  | begin (call : x.run.canBegin x.run.connection.attempt = true)
  | probe (call : x.run.canEnd x.run.connection.attempt = true)
  | nothing (result : Except Failure η) (done : x.standing = .done result)

theorem awaits (h : Refused p f x) : Awaits x := by
  cases h with
  | @due r now time past more halted =>
      refine .turn time fun y _ hs hnow => ?_
      rw [Ready, hs]
      exact hnow
  | called more trying waits call => exact .begin (trying.attempt.symm ▸ call)
  | probing more trying waits call => exact .probe (trying.attempt.symm ▸ call)
  | told more halted waits outcome =>
      refine .turn 0 fun y hrun hs _ => ?_
      rw [Ready, hs]
      simp only [hrun]
      intro hc
      have hp := halted.stalled.phase
      rw [hc] at hp
      cases hp
  | done all halted => exact .nothing _ rfl

end Refused

end Pursuit

end Swarmkeeper.Service
