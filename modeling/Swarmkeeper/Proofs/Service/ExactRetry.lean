import Swarmkeeper.Proofs.Service.Failing
import Swarmkeeper.Proofs.Service.Pursuit

/-!
# Bounded retry

A caller with a policy asks at most so many times as the policy allows, and never fewer: it stops early
only with a handle or an error that it may not try again after. If each time that it asks it is given
something then it comes to an end, and if it is alone with a service that fails each time then every time
that it asked was an attempt.
-/

namespace Swarmkeeper.Service

variable {η : Type}

/-! ## Verdicts -/

theorem Failure.length_lt_message (n : Nat) (s : String) :
    s.length < (message (.retriesExhausted n s)).length := by
  have h : message (.retriesExhausted n s) =
      "Service unavailable after " ++ toString n ++ " attempts: " ++ s := rfl
  have pos : 0 < " attempts: ".length := by decide
  rw [h, String.length_append, String.length_append]
  omega

/-- An error does not tell of itself that it was the last. -/
theorem Failure.ne_retriesExhausted (f : Failure) (n : Nat) : f ≠ .retriesExhausted n f.message := by
  intro h
  have hlen := length_lt_message n f.message
  rw [← h] at hlen
  exact Nat.lt_irrefl _ hlen

/-- The caller was given an error after which one may try again. -/
def Inquiry.Told (r : Run η) (c : Inquiry) : Prop :=
  ∃ f, r.result? c.caller = some (.error f) ∧ f.isRetryable = true

/-- A caller returns that it has used up all its times exactly if it has, and might try again. -/
theorem Verdict.exhausted_iff {p : RetryPolicy} {asked : Nat} {given result : Except Failure η}
    (h : Verdict p asked given result) :
    (∃ f, given = .error f ∧ result = .error (.retriesExhausted p.most f.message)) ↔
      asked = p.most ∧ ∃ f, given = .error f ∧ f.isRetryable = true := by
  constructor
  · rintro ⟨f, rfl, rfl⟩
    generalize hr : Except.error (Failure.retriesExhausted p.most f.message) = result at h
    cases h with
    -- An error that is handed on may say `retriesExhausted` itself, but not with its own wording in it.
    | refused _ => exact absurd (Except.error.inj hr).symm (f.ne_retriesExhausted _)
    | exhausted hf all => exact ⟨all, f, rfl, hf⟩
  · rintro ⟨all, f, rfl, hf⟩
    cases h with
    | refused hr => simp [hf] at hr
    | exhausted _ _ => exact ⟨f, rfl, rfl⟩

theorem Inquiry.Told.step {r : Run η} {c : Inquiry} (h : c.Told r) (hc : r.connection.Consistent)
    (e : Event η) : c.Told (r.step e) := by
  obtain ⟨f, given, hf⟩ := h
  exact ⟨f, Run.result?_step hc given e, hf⟩

/-- Every inquiry that is over was given an error. -/
theorem Story.told {p : RetryPolicy} {r : Run η} {past : List Inquiry} (h : Story p r past) :
    ∀ c ∈ past, c.Told r := by
  intro c hc
  obtain ⟨i, hi⟩ := List.mem_iff_getElem?.mp hc
  obtain ⟨f, given, hf, -⟩ := h.retried i c hi
  exact ⟨f, given, hf⟩

theorem Story.exhausted_iff {p : RetryPolicy} {r : Run η} {past : List Inquiry} {c : Inquiry}
    {given result : Except Failure η} (h : Story p r past) (told : r.result? c.caller = some given)
    (verdict : Verdict p (past ++ [c]).length given result) :
    (∃ d f, (past ++ [c]).getLast? = some d ∧ r.result? d.caller = some (.error f) ∧
      Standing.done result = .done (.error (.retriesExhausted p.most f.message))) ↔
        (past ++ [c]).length = p.most ∧ ∀ d ∈ past ++ [c], d.Told r := by
  constructor
  · rintro ⟨d, f, hd, hf, hres⟩
    obtain rfl : c = d := by simpa using hd
    rw [told] at hf
    obtain ⟨all, hagain⟩ := verdict.exhausted_iff.mp ⟨f, Option.some.inj hf, Standing.done.inj hres⟩
    refine ⟨all, fun d hd => ?_⟩
    rcases List.mem_append.mp hd with hd | hd
    · exact h.told d hd
    · obtain rfl := List.mem_singleton.mp hd
      obtain ⟨f, rfl, again⟩ := hagain
      exact ⟨f, told, again⟩
  · rintro ⟨all, htold⟩
    obtain ⟨f, hf, hagain⟩ := htold c (by simp)
    rw [told] at hf
    obtain ⟨f, rfl, hres⟩ := verdict.exhausted_iff.mpr ⟨all, f, Option.some.inj hf, hagain⟩
    exact ⟨c, f, by simp, told, congrArg Standing.done hres⟩

theorem not_exhausted_iff {p : RetryPolicy} {r : Run η} {s : Standing η} {past : List Inquiry}
    (more : past.length < p.most) (going : ∀ result, s ≠ .done result) :
    (∃ c f, past.getLast? = some c ∧ r.result? c.caller = some (.error f) ∧
      s = .done (.error (.retriesExhausted p.most f.message))) ↔
        past.length = p.most ∧ ∀ c ∈ past, c.Told r := by
  refine iff_of_false ?_ fun h => Nat.ne_of_lt more h.1
  rintro ⟨_, f, _, _, h⟩
  exact going _ h

namespace Pursuit

variable {p : RetryPolicy} {x : Pursuit η}

/-! ## Bounds -/

/-- What a caller has done so far, and what it returns. -/
structure Bounded (p : RetryPolicy) (x : Pursuit η) : Prop where
  asked_le : x.asked ≤ p.most
  /-- The counter fits into 32 bits. -/
  counter : x.asked < UInt32.size ∧
    ∀ time q, x.standing = .due time q ∨ x.standing = .waiting time q → q.asked = x.asked
  /-- It asks once more only when it was given something. -/
  answered : x.inquiries.length ≤ x.asked ∧ x.asked ≤ x.inquiries.length + 1
  /-- Unless it is done, each time it was given an error after which it may try again, and it sleeps then
  as long as the policy says. -/
  retried : ∀ i c, x.inquiries[i]? = some c →
    (i + 1 = x.inquiries.length → ∀ result, x.standing ≠ .done result) → c.Retried p x.run i
  spaced : ∀ i a b, x.inquiries[i]? = some a → x.inquiries[i + 1]? = some b →
    a.answeredAt + p.delayFor (i + 1) ≤ b.askedAt
  sleeps : ∀ time q, x.standing = .due time q →
    (∀ c, x.inquiries.getLast? = some c → time = c.answeredAt + p.delayFor x.inquiries.length) ∧
      (x.step .turn).asked = if time ≤ x.now then x.asked + 1 else x.asked
  /-- It does not sleep after the last time, and returns what that comes to. -/
  ends : ∀ result, x.standing = .done result → ∃ past c given, x.inquiries = past ++ [c] ∧
    c.rest = none ∧ x.run.result? c.caller = some given ∧ Verdict p x.inquiries.length given result
  exhausted_iff : (∃ c f, x.inquiries.getLast? = some c ∧ x.run.result? c.caller = some (.error f) ∧
      x.standing = .done (.error (.retriesExhausted p.most f.message))) ↔
    x.inquiries.length = p.most ∧ ∀ c ∈ x.inquiries, c.Told x.run

/-- A caller that has kept to its policy has asked so many times at most, with the rests between. -/
theorem Keeps.bounded (h : Keeps p x) : Bounded p x := by
  cases h with
  | @due r now time past story more time_eq =>
      exact {
        asked_le := Nat.le_of_lt more
        counter := ⟨Nat.lt_trans more p.most_lt, by
          rintro _ _ (h | h) <;> cases h
          rfl⟩
        answered := ⟨Nat.le_refl _, Nat.le_succ _⟩
        retried := fun i c hi _ => story.retried i c hi
        spaced := story.spaced
        sleeps := by
          rintro _ _ h
          cases h
          exact ⟨time_eq, asked_turn rfl⟩
        ends := nofun
        exhausted_iff := not_exhausted_iff more nofun }
  | waiting story more rested waits =>
      exact {
        asked_le := more
        counter := ⟨Nat.lt_of_le_of_lt more p.most_lt, by
          rintro _ _ (h | h) <;> cases h
          rfl⟩
        answered := ⟨Nat.le_succ _, Nat.le_refl _⟩
        retried := fun i c hi _ => story.retried i c hi
        spaced := story.spaced
        sleeps := nofun
        ends := nofun
        exhausted_iff := not_exhausted_iff more nofun }
  | @done r now past c given result story more rested last told verdict =>
      have hlen : (past ++ [c]).length = past.length + 1 := List.length_append
      exact {
        asked_le := more
        counter := ⟨Nat.lt_of_le_of_lt more p.most_lt, by rintro _ _ (h | h) <;> cases h⟩
        answered := by simp
        retried := fun i d hi going => by
          rcases getElem?_concat_cases hi with hi | ⟨rfl, -⟩
          · exact story.retried i d hi
          · exact absurd rfl (going hlen.symm _)
        spaced := story.spaced_concat rested
        sleeps := nofun
        ends := by
          rintro _ h
          cases h
          exact ⟨past, c, given, rfl, last, told, hlen ▸ verdict⟩
        exhausted_iff := story.exhausted_iff told (hlen ▸ verdict) }
  | gone story more le le_succ =>
      exact {
        asked_le := Nat.le_trans le_succ more
        counter := ⟨Nat.lt_of_le_of_lt (Nat.le_trans le_succ more) p.most_lt, by rintro _ _ (h | h) <;> cases h⟩
        answered := ⟨le, le_succ⟩
        retried := fun i c hi _ => story.retried i c hi
        spaced := story.spaced
        sleeps := nofun
        ends := nofun
        exhausted_iff := not_exhausted_iff more nofun }

/-! ## The end -/

/-- How many things a caller can still do: ask, or be given something. -/
def rank (p : RetryPolicy) (x : Pursuit η) : Nat :=
  match x.standing with
  | .due _ _ => 2 * (p.most - x.inquiries.length)
  | .waiting _ _ => 2 * (p.most - x.inquiries.length) - 1
  | .done _ | .gone => 0

theorem rank_congr {y : Pursuit η} (hs : y.standing = x.standing) (hi : y.inquiries = x.inquiries) :
    y.rank p = x.rank p := by
  simp only [rank, hs, hi]

/-- A caller that looks either waits on or has come nearer to its end. -/
theorem come_look (x : Pursuit η) (more : x.inquiries.length < p.most) (q : Request) (r : Run η)
    (caller since : Nat) :
    ((x.come caller since (q.look r caller)).standing = .waiting since { q with stage := .waiting caller } ∧
      (x.come caller since (q.look r caller)).inquiries = x.inquiries) ∨
    (x.come caller since (q.look r caller)).rank p < 2 * (p.most - x.inquiries.length) - 1 := by
  unfold Request.look
  cases r.result? caller with
  | none => exact .inl ⟨rfl, rfl⟩
  | some given =>
      right
      have rest (delay : Nat) (q : Request) : (x.come caller since (.sleep delay q)).rank p
          < 2 * (p.most - x.inquiries.length) - 1 := by
        simp only [come, rank, List.length_append, List.length_singleton]
        omega
      have finish (result : Except Failure η) : (x.come caller since (.done result)).rank p
          < 2 * (p.most - x.inquiries.length) - 1 := by
        simp only [come, rank]
        omega
      simp only [Request.react]
      split
      · exact finish _
      · split
        · exact finish _
        · exact rest _ _

theorem rank_come_look (x : Pursuit η) (more : x.inquiries.length < p.most) (q : Request) (r : Run η)
    (caller since : Nat) :
    (x.come caller since (q.look r caller)).rank p ≤ 2 * (p.most - x.inquiries.length) - 1 := by
  rcases x.come_look more q r caller since with ⟨hs, hi⟩ | hlt
  · simp only [rank, hs, hi]
    exact Nat.le_refl _
  · exact Nat.le_of_lt hlt

/-- To ask brings the end nearer. -/
theorem Keeps.rank_turn_due (h : Keeps p x) {time : Nat} {q : Request} (hx : x.standing = .due time q)
    (hnow : time ≤ x.now) : (x.step .turn).rank p < x.rank p := by
  cases h with
  | due story more time_eq =>
      cases hx
      rw [turn_due rfl hnow]
      refine Nat.lt_of_le_of_lt (rank_come_look _ more _ _ _ _) ?_
      simp only [rank]
      omega
  | waiting _ _ _ _ | done _ _ _ _ _ _ | gone _ _ _ _ => cases hx

/-- Who does not stay where it is comes nearer to its end. -/
theorem Keeps.rank_step (h : Keeps p x) (m : Move η) :
    (x.step m).rank p < x.rank p ∨
      ((x.step m).standing = x.standing ∧ (x.step m).inquiries = x.inquiries) := by
  cases m with
  | event e =>
      right
      unfold step
      dsimp only
      split <;> exact ⟨rfl, rfl⟩
  | tick amount => exact .inr ⟨rfl, rfl⟩
  | leave =>
      cases h with
      | due _ more _ | waiting _ more _ _ =>
          left
          simp only [step, rank]
          omega
      | done _ _ _ _ _ _ | gone _ _ _ _ => exact .inr ⟨rfl, rfl⟩
  | turn =>
      cases h with
      | @due r now time past story more time_eq =>
          by_cases hnow : time ≤ now
          · exact .inl (rank_turn_due (.due story more time_eq) rfl hnow)
          · rw [turn_sleeping rfl hnow]
            exact .inr ⟨rfl, rfl⟩
      | waiting story more rested waits =>
          rw [turn_waiting rfl]
          exact (come_look _ more _ _ _ _).symm
      | done _ _ _ _ _ _ | gone _ _ _ _ => exact .inr ⟨rfl, rfl⟩

/-- The caller stays and has a turn again and again while time goes on, and each time that it asks it is
given something. -/
structure Served (x : Pursuit η) (σ : Nat → Move η) : Prop where
  stays : ∀ n, (x.trace σ n).standing ≠ .gone
  turns : ∀ n, ∃ m, n ≤ m ∧ σ m = .turn
  time : ∀ t, ∃ n, ∀ m, n ≤ m → t ≤ (x.trace σ m).now
  answered : ∀ n since q, (x.trace σ n).standing = .waiting since q →
    ∃ m, n ≤ m ∧ ∀ since q, (x.trace σ m).standing ≠ .waiting since q

/-- Along a sequence of moves the end comes nearer, or the caller stays where it is. -/
theorem Faithful.rank_trace (h : Faithful p x) (σ : Nat → Move η) {n m : Nat} (hm : n ≤ m) :
    (x.trace σ m).rank p < (x.trace σ n).rank p ∨
      ((x.trace σ m).standing = (x.trace σ n).standing ∧
        (x.trace σ m).inquiries = (x.trace σ n).inquiries) := by
  induction hm with
  | refl => exact .inr ⟨rfl, rfl⟩
  | @step m hm ih =>
      rcases (h.trace σ m).keeps.rank_step (σ m) with hlt' | ⟨hs', hi'⟩
      · left
        rcases ih with hlt | ⟨hs, hi⟩
        · exact Nat.lt_trans hlt' hlt
        · exact rank_congr hs hi ▸ hlt'
      · rcases ih with hlt | ⟨hs, hi⟩
        · exact .inl (rank_congr hs' hi' ▸ hlt)
        · exact .inr ⟨hs'.trans hs, hi'.trans hi⟩

/-- A caller that is served comes to an end. -/
theorem Faithful.terminates (h : Faithful p x) {σ : Nat → Move η} (hs : Served x σ) :
    ∃ n result, (x.trace σ n).standing = .done result := by
  have nearer (n : Nat) : (∃ result, (x.trace σ n).standing = .done result) ∨
      ∃ m, (x.trace σ m).rank p < (x.trace σ n).rank p := by
    cases hn : (x.trace σ n).standing with
    | done result => exact .inl ⟨result, rfl⟩
    | gone => exact absurd hn (hs.stays n)
    | waiting since q =>
        right
        obtain ⟨m, hm, hne⟩ := hs.answered n since q hn
        refine ⟨m, (h.rank_trace σ hm).resolve_right fun ⟨hsame, _⟩ => ?_⟩
        exact hne since q (hsame.trans hn)
    | due time q =>
        right
        -- It has a turn when its sleep is over, unless something has happened to it before.
        obtain ⟨k, hk⟩ := hs.time time
        obtain ⟨m, hm, hturn⟩ := hs.turns (max n k)
        rcases h.rank_trace σ (Nat.le_trans (Nat.le_max_left n k) hm) with hlt | ⟨hsame, hi⟩
        · exact ⟨m, hlt⟩
        · have hnow := hk m (Nat.le_trans (Nat.le_max_right n k) hm)
          have hlt := (h.trace σ m).keeps.rank_turn_due (hsame.trans hn) hnow
          rw [← hturn, rank_congr hsame hi] at hlt
          exact ⟨m + 1, hlt⟩
  -- Induction on the rank: what happens to a caller lowers it.
  have ends (k : Nat) : ∀ n, (x.trace σ n).rank p = k →
      ∃ n result, (x.trace σ n).standing = .done result := by
    induction k using Nat.strongRecOn with
    | _ k ih =>
        rintro n rfl
        rcases nearer n with ⟨result, hr⟩ | ⟨m, hlt⟩
        · exact ⟨n, result, hr⟩
        · exact ih _ hlt m rfl
  exact ends _ 0 rfl

/-! ## A caller that is alone -/

/-- Each time that the caller asked was an attempt, and all that have ended have failed. -/
inductive Alone : Pursuit η → Prop where
  | due {r : Run η} {now time asked : Nat} {q : Request} {past : List Inquiry}
      (quiet : r.Quiet past.length) : Alone ⟨r, now, .due time q, asked, past⟩
  | waiting {r : Run η} {now since n caller asked : Nat} {policy : Option RetryPolicy}
      {past : List Inquiry} (busy : r.Busy past.length)
      (waits : r.callers[caller]? = some (.waiting (past.length + 1))) :
      Alone ⟨r, now, .waiting since ⟨policy, n, .waiting caller⟩, asked, past⟩
  | told {r : Run η} {now since n caller asked : Nat} {policy : Option RetryPolicy}
      {past : List Inquiry} {f : Failure} (quiet : r.Quiet (past.length + 1))
      (waits : r.callers[caller]? = some (.waiting (past.length + 1)))
      (outcome : r.outcome? (past.length + 1) = some (.failed f)) (again : f.isRetryable = true) :
      Alone ⟨r, now, .waiting since ⟨policy, n, .waiting caller⟩, asked, past⟩
  | done {r : Run η} {now asked : Nat} {result : Except Failure η} {past : List Inquiry} {c : Inquiry}
      (quiet : r.Quiet (past.length + 1)) (last : c.Told r) :
      Alone ⟨r, now, .done result, asked, past ++ [c]⟩
  | gone {r : Run η} {now asked : Nat} {past : List Inquiry} : Alone ⟨r, now, .gone, asked, past⟩

namespace Alone

theorem start (p : RetryPolicy) (now : Nat) : Alone (start p (Run.empty (η := η)) now) :=
  .due ⟨rfl, rfl, rfl⟩

theorem event (h : Alone x) (hc : x.run.connection.Consistent) (hl : x.run.Ledger) {e : Event η}
    (he : e.Fails) : Alone (x.step (.event e)) := by
  have hrule := Run.step_rule hc e
  have hown : e.caller? = none := by cases he <;> rfl
  have hstep : x.step (.event e) = { x with run := x.run.step e } := by simp [step, owns, hown]
  rw [hstep]
  cases h with
  | due quiet => exact .due (hrule.quiet he quiet)
  | waiting busy waits =>
      have waits := hrule.waiting_get waits (by simp [hown])
      rcases hrule.busy he busy with busy | ⟨quiet, f, outcome, again⟩
      · exact .waiting busy waits
      · exact .told quiet waits outcome again
  | told quiet waits outcome again =>
      exact .told (hrule.quiet he quiet) (hrule.waiting_get waits (by simp [hown]))
        (hl.outcome?_turn hrule.turn outcome) again
  | done quiet last => exact .done (hrule.quiet he quiet) (last.step hc e)
  | gone => exact .gone

/-- One failure more, and the caller is alone with a connection at rest again. -/
theorem come_react {r : Run η} {s : Standing η} {now since caller asked : Nat} {past : List Inquiry}
    {f : Failure} (quiet : r.Quiet (past.length + 1)) (told : r.result? caller = some (.error f))
    (again : f.isRetryable = true) (q : Request) :
    Alone (Pursuit.come ⟨r, now, s, asked, past⟩ caller since (q.react (.error f))) := by
  have done (result : Except Failure η) :
      Alone (Pursuit.come ⟨r, now, s, asked, past⟩ caller since (.done result)) :=
    .done quiet ⟨f, told, again⟩
  unfold Request.react
  split
  · exact done _
  · split
    · exact done _
    · rename_i delay _
      have hlen : (past ++ [Inquiry.mk caller since now (some delay)]).length = past.length + 1 :=
        List.length_append
      exact .due (hlen ▸ quiet)

theorem turn (h : Alone x) (hx : Faithful p x) : Alone (x.step .turn) := by
  have hc := hx.consistent
  have hk := hx.keeps
  cases h with
  | @due r now time asked q past quiet =>
      by_cases hnow : time ≤ now
      · cases hk with
        | due story more time_eq =>
            rw [turn_due rfl hnow]
            obtain ⟨busy, waits⟩ := quiet.acquire hc
            simp only [Request.look, Run.result?, waits]
            exact .waiting busy waits
      · rw [turn_sleeping rfl hnow]
        exact .due quiet
  | @waiting r now since n caller asked policy past busy waits =>
      -- The attempt is under way, so there is nothing to be given yet.
      have none : r.outcome? (past.length + 1) = none := by
        rw [← busy.attempt]
        exact hx.ledger.outcome?_attempt busy.state
      rw [turn_waiting rfl]
      simp only [Run.step, Run.deliver_of_outcome_none waits none, Request.look, Run.result?, waits]
      exact .waiting busy waits
  | @told r now since n caller asked policy past f quiet waits outcome again =>
      have told : (r.step (.deliver caller)).result? caller = some (.error f) :=
        Run.result?_eq_some.mpr ⟨_, Run.deliver_of_outcome_some waits outcome⟩
      rw [turn_waiting rfl]
      simp only [Request.look, told]
      exact come_react (quiet.deliver caller) told again _
  | done quiet last => exact .done quiet last
  | gone => exact .gone

/-- With a failing service the caller stays alone. -/
theorem step (h : Alone x) (hx : Faithful p x) {m : Move η} (hm : ∀ e, m = .event e → e.Fails) :
    Alone (x.step m) := by
  cases m with
  | turn => exact h.turn hx
  | event e => exact h.event hx.consistent hx.ledger (hm e rfl)
  | tick amount =>
      cases h with
      | due quiet => exact .due quiet
      | waiting busy waits => exact .waiting busy waits
      | told quiet waits outcome again => exact .told quiet waits outcome again
      | done quiet last => exact .done quiet last
      | gone => exact .gone
  | leave =>
      cases h with
      | due _ | waiting _ _ | told _ _ _ _ | gone => exact .gone
      | done quiet last => exact .done quiet last

theorem after (h : Alone x) (hx : Faithful p x) (moves : List (Move η))
    (hm : ∀ e, .event e ∈ moves → e.Fails) : Alone (x.after moves) := by
  induction moves generalizing x with
  | nil => exact h
  | cons m moves ih =>
      refine ih (h.step hx ?_) (hx.step m) fun e he => hm e (List.mem_cons_of_mem m he)
      rintro e rfl
      exact hm e List.mem_cons_self

/-- When it is done it has used up all its times, and each was an attempt. -/
theorem ends (h : Alone x) (hb : Bounded p x) {result : Except Failure η}
    (hx : x.standing = .done result) :
    x.run.connection.attempt = p.most ∧ x.run.connection.failures = p.most ∧
      ∃ f : Failure, result = .error (.retriesExhausted p.most f.message) := by
  obtain ⟨past, c, given, hpast, -, told, verdict⟩ := hb.ends result hx
  cases h with
  | due _ | waiting _ _ | told _ _ _ _ | gone => cases hx
  | @done r now asked result past' c' quiet last =>
      cases hx
      obtain ⟨rfl, heq⟩ := List.append_inj' hpast rfl
      obtain rfl : c' = c := by simpa using heq
      obtain ⟨f, hf, again⟩ := last
      rw [told] at hf
      cases hf
      cases verdict with
      | refused hr => simp [again] at hr
      | exhausted _ all =>
          rw [List.length_append, List.length_singleton] at all
          exact ⟨quiet.attempt.trans all, quiet.failures.trans all, f, rfl⟩

end Alone

/-! ## Exact retry -/

/-- What a caller with this policy does that comes to a connection with any past. -/
structure ExactRetry (p : RetryPolicy) (before : List (Event η)) (now : Nat) : Prop where
  bounded : ∀ moves, Bounded p ((start p (Run.after before) now).after moves)
  terminates : ∀ σ, Served (start p (Run.after before) now) σ →
    ∃ n result, ((start p (Run.after before) now).trace σ n).standing = .done result
  /-- Alone with a fresh connection and a service that fails each time, it makes all the attempts. -/
  alone : before = [] → ∀ moves, (∀ e, .event e ∈ moves → e.Fails) → ∀ result,
    ((start p (Run.after before) now).after moves).standing = .done result →
    let status := ((start p (Run.after before) now).after moves).run.connection.status
    status.attempt = p.most ∧ status.failures = p.most ∧
      ∃ f : Failure, result = .error (.retriesExhausted p.most f.message)

/-- A caller who tries again inquires as often as his policy says with its delays between and ends for one of
the reasons there are; alone with a service that fails each time he makes all the attempts. -/
theorem exact_retry (p : RetryPolicy) (before : List (Event η)) (now : Nat) :
    ExactRetry p before now where
  bounded moves := ((Faithful.start p before now).after moves).keeps.bounded
  terminates _ := (Faithful.start p before now).terminates
  alone := by
    rintro rfl moves fails result hres
    have hx := Faithful.start p ([] : List (Event η)) now
    exact ((Alone.start p now).after hx moves fails).ends (hx.after moves).keeps.bounded hres

/-- Two attempts that fail, ten milliseconds apart. -/
example :
    let fails (attempt : Nat) : List (Move Nat) :=
      [.turn, .event (.begin attempt), .event (.finish attempt (.returned (.error .noHandle))), .turn]
    let x := (start ⟨10, 30, 2⟩ Run.empty 0).after (fails 1 ++ .turn :: .tick 10 :: fails 2)
    x.standing = .done (.error (.retriesExhausted 2 (Failure.message .noHandle))) ∧
      x.inquiries = [⟨0, 0, 0, some 10⟩, ⟨1, 10, 10, none⟩] ∧ x.run.connection.attempt = 2 :=
  ⟨rfl, rfl, rfl⟩

end Pursuit

end Swarmkeeper.Service
