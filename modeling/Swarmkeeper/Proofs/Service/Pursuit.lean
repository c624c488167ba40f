import Swarmkeeper.Proofs.Service.Agreement
import Swarmkeeper.Service.Pursuit

/-!
# A caller that asks again

Whatever happens to the connection meanwhile, a caller that keeps to its policy can tell one story: each
time before the last it was given an error after which one may try again, and it slept as long as its
policy says before it asked again.
-/

namespace Swarmkeeper.Service

variable {η : Type}

/-! ## Callers of a run -/

namespace Run

variable {r r' : Run η} {e : Event η}

/-- Nobody but itself makes a waiting caller return or go away. -/
theorem Rule.waiting_get (h : Rule r e r') {i n : Nat} (hi : r.callers[i]? = some (.waiting n))
    (he : e.caller? ≠ some i) : r'.callers[i]? = some (.waiting n) := by
  have hlt : i < r.callers.length := (List.getElem?_eq_some_iff.mp hi).1
  have come (d : Caller η) : (r.callers ++ [d])[i]? = some (.waiting n) := by
    rw [List.getElem?_append_left hlt, hi]
  have change {j : Nat} (d : Caller η) (hj : some j ≠ some i) :
      (r.callers.set j d)[i]? = some (.waiting n) := by
    rw [List.getElem?_set_ne (by simpa using hj), hi]
  cases h with
  | stay _ | begin _ | finishLate _ _ | succeed _ _ _ | fail _ _ _ | preempt _ | part _ _
  | clock => exact hi
  | meet _ | join _ _ | start _ _ => exact come _
  | leave _ _ _ | abandon _ _ _ | leaveLate _ _ | deliver _ _ => exact change _ he

theorem result?_eq_some {i : Nat} {res : Except Failure η} :
    r.result? i = some res ↔ ∃ a, r.callers[i]? = some (.returned a res) := by
  unfold result?
  split
  · rename_i a b hi
    simp [hi]
  · rename_i h
    constructor
    · nofun
    · rintro ⟨a, ha⟩
      exact absurd ha (h a res)

/-- What a caller was given stays what it was given. -/
theorem result?_step (hc : r.connection.Consistent) {i : Nat} {res : Except Failure η}
    (hi : r.result? i = some res) (e : Event η) : (r.step e).result? i = some res := by
  obtain ⟨a, ha⟩ := result?_eq_some.mp hi
  exact result?_eq_some.mpr ⟨a, returned_foldl hc ha [e]⟩

/-- A new caller is given something at once, or waits. -/
theorem result?_acquire (hc : r.connection.Consistent)
    (hi : (r.step .acquire).result? r.callers.length = none) :
    ∃ n, (r.step .acquire).callers[r.callers.length]? = some (.waiting n) := by
  have h := step_rule hc .acquire
  generalize r.step .acquire = r' at h hi ⊢
  cases h with
  | stay he => cases he
  | meet _ => simp [result?] at hi
  | join _ _ | start _ _ => exact ⟨_, List.getElem?_concat_length⟩
  | part he _ => rcases he with he | he <;> cases he

/-- A caller who is given nothing goes on waiting. -/
theorem result?_deliver {i n : Nat} (hi : r.callers[i]? = some (.waiting n))
    (hres : (r.step (.deliver i)).result? i = none) :
    (r.step (.deliver i)).callers[i]? = some (.waiting n) := by
  rw [step] at hres ⊢
  cases ho : r.outcome? n with
  | none => rw [deliver_of_outcome_none hi ho, hi]
  | some o => simp [result?, deliver_of_outcome_some hi ho] at hres

end Run

/-! ## What the policy says -/

/-- What a caller returns after so many times, when it was given this. -/
inductive Verdict (p : RetryPolicy) (asked : Nat) : Except Failure η → Except Failure η → Prop where
  | found (h : η) : Verdict p asked (.ok h) (.ok h)
  | refused {f : Failure} (hf : f.isRetryable = false) : Verdict p asked (.error f) (.error f)
  | exhausted {f : Failure} (hf : f.isRetryable = true) (all : asked = p.most) :
      Verdict p asked (.error f) (.error (.retriesExhausted p.most f.message))

namespace RetryPolicy

variable {p : RetryPolicy} {asked : Nat} {given : Except Failure η}

/-- Every policy allows one inquiry at least. -/
theorem one_le_most (p : RetryPolicy) : 1 ≤ p.most := Nat.le_max_left ..

theorem most_lt (p : RetryPolicy) : p.most < UInt32.size :=
  Nat.max_lt.mpr ⟨by decide, p.maxAttempts.toNat_lt_size⟩

/-- A caller that was given something goes on or returns. -/
theorem respond_cases (p : RetryPolicy) (pos : 1 ≤ asked) (le : asked ≤ p.most)
    (given : Except Failure η) :
    (∃ f, given = .error f ∧ f.isRetryable = true ∧ asked < p.most ∧
      p.respond asked given = .again (p.delayFor asked)) ∨
    ∃ result, Verdict p asked given result ∧ p.respond asked given = .finish result := by
  cases given with
  | ok h => exact .inr ⟨_, .found h, rfl⟩
  | error f =>
      cases hf : f.isRetryable with
      | false => exact .inr ⟨_, .refused hf, by simp [respond, hf]⟩
      | true =>
          by_cases more : asked < p.maxAttempts.toNat
          · exact .inl ⟨f, rfl, hf, by unfold most; omega, by simp [respond, hf, allowsAfter, more]⟩
          · obtain rfl : asked = p.most := by
              unfold most at *
              omega
            exact .inr ⟨_, .exhausted hf rfl, by simp [respond, hf, allowsAfter, more]⟩

end RetryPolicy

/-! ## The story of a caller -/

/-- The caller was given an error after which one may try again, and slept. -/
def Inquiry.Retried (p : RetryPolicy) (r : Run η) (i : Nat) (c : Inquiry) : Prop :=
  ∃ f, r.result? c.caller = some (.error f) ∧ f.isRetryable = true ∧ c.rest = some (p.delayFor (i + 1))

/-- The caller has slept after the last time, or sleeps, until this time. -/
def Rested (p : RetryPolicy) (past : List Inquiry) (time : Nat) : Prop :=
  ∀ c, past.getLast? = some c → c.answeredAt + p.delayFor past.length ≤ time

/-- Each time the caller was told to try again, and it slept before it did. -/
structure Story (p : RetryPolicy) (r : Run η) (past : List Inquiry) : Prop where
  retried : ∀ i (c : Inquiry), past[i]? = some c → c.Retried p r i
  spaced : ∀ i (a b : Inquiry), past[i]? = some a → past[i + 1]? = some b →
    a.answeredAt + p.delayFor (i + 1) ≤ b.askedAt

theorem getElem?_concat_cases {α : Type} {xs : List α} {x y : α} {i : Nat}
    (h : (xs ++ [x])[i]? = some y) : xs[i]? = some y ∨ (i = xs.length ∧ x = y) := by
  rw [List.getElem?_append] at h
  split at h
  · exact .inl h
  · obtain ⟨hi, rfl⟩ := List.getElem?_eq_some_iff.mp h
    simp only [List.length_singleton] at hi
    exact .inr ⟨by omega, by simp⟩

namespace Story

variable {p : RetryPolicy} {r : Run η} {past : List Inquiry}

theorem nil (p : RetryPolicy) (r : Run η) : Story p r [] := ⟨by simp, by simp⟩

theorem step (h : Story p r past) (hc : r.connection.Consistent) (e : Event η) :
    Story p (r.step e) past where
  retried i c hi := by
    obtain ⟨f, given, hf, rest⟩ := h.retried i c hi
    exact ⟨f, Run.result?_step hc given e, hf, rest⟩
  spaced := h.spaced

/-- A further inquiry that comes after its rest keeps the inquiries apart. -/
theorem spaced_concat (h : Story p r past) {c : Inquiry} (rested : Rested p past c.askedAt) (i : Nat)
    (a b : Inquiry) (ha : (past ++ [c])[i]? = some a) (hb : (past ++ [c])[i + 1]? = some b) :
    a.answeredAt + p.delayFor (i + 1) ≤ b.askedAt := by
  rcases getElem?_concat_cases ha with ha | ⟨rfl, -⟩
  · rcases getElem?_concat_cases hb with hb | ⟨hlen, rfl⟩
    · exact h.spaced i a b ha hb
    · rw [hlen]
      refine rested a ?_
      rw [List.getLast?_eq_getElem?, ← hlen, Nat.add_sub_cancel, ha]
  · simp at hb

/-- It goes on with one more time. -/
theorem concat (h : Story p r past) {c : Inquiry} (rested : Rested p past c.askedAt)
    (hc : c.Retried p r past.length) : Story p r (past ++ [c]) where
  retried i d hi := by
    rcases getElem?_concat_cases hi with hi | ⟨rfl, rfl⟩
    · exact h.retried i d hi
    · exact hc
  spaced := h.spaced_concat rested

end Story

/-! ## Turns of a caller -/

namespace Pursuit

/-- A caller whose sleep is over asks, and looks at once. -/
theorem turn_due {x : Pursuit η} {time n : Nat} {policy : Option RetryPolicy}
    (hx : x.standing = .due time ⟨policy, n, .asking⟩) (hnow : time ≤ x.now) :
    x.step .turn = { x with run := x.run.step .acquire, asked := x.asked + 1 }.come
      x.run.callers.length x.now
      (Request.look ⟨policy, n + 1, .asking⟩ (x.run.step .acquire) x.run.callers.length) := by
  simp only [step, hx, if_pos hnow]
  rfl

/-- Before its time comes a caller that sleeps does nothing. -/
theorem turn_sleeping {x : Pursuit η} {time : Nat} {q : Request} (hx : x.standing = .due time q)
    (hnow : ¬time ≤ x.now) : x.step .turn = x := by
  simp only [step, hx, if_neg hnow]

theorem turn_waiting {x : Pursuit η} {since n caller : Nat} {policy : Option RetryPolicy}
    (hx : x.standing = .waiting since ⟨policy, n, .waiting caller⟩) :
    x.step .turn = { x with run := x.run.step (.deliver caller) }.come caller since
      (Request.look ⟨policy, n, .waiting caller⟩ (x.run.step (.deliver caller)) caller) := by
  simp only [step, hx]
  rfl

/-! ## What stays true of a caller -/

/-- How far a caller can have come that keeps to its policy. -/
inductive Keeps (p : RetryPolicy) : Pursuit η → Prop where
  | due {r : Run η} {now time : Nat} {past : List Inquiry} (story : Story p r past)
      (more : past.length < p.most)
      (time_eq : ∀ c, past.getLast? = some c → time = c.answeredAt + p.delayFor past.length) :
      Keeps p ⟨r, now, .due time ⟨some p, past.length, .asking⟩, past.length, past⟩
  | waiting {r : Run η} {now since caller n : Nat} {past : List Inquiry} (story : Story p r past)
      (more : past.length < p.most) (rested : Rested p past since)
      (waits : r.callers[caller]? = some (.waiting n)) :
      Keeps p ⟨r, now, .waiting since ⟨some p, past.length + 1, .waiting caller⟩, past.length + 1, past⟩
  | done {r : Run η} {now : Nat} {past : List Inquiry} {c : Inquiry} {given result : Except Failure η}
      (story : Story p r past) (more : past.length < p.most) (rested : Rested p past c.askedAt)
      (last : c.rest = none) (told : r.result? c.caller = some given)
      (verdict : Verdict p (past.length + 1) given result) :
      Keeps p ⟨r, now, .done result, past.length + 1, past ++ [c]⟩
  | gone {r : Run η} {now asked : Nat} {past : List Inquiry} (story : Story p r past)
      (more : past.length < p.most) (le : past.length ≤ asked) (le_succ : asked ≤ past.length + 1) :
      Keeps p ⟨r, now, .gone, asked, past⟩

namespace Keeps

variable {p : RetryPolicy} {x : Pursuit η}

theorem start (p : RetryPolicy) (r : Run η) (now : Nat) : Keeps p (start p r now) :=
  @due _ p r now now [] (.nil p r) p.one_le_most nofun

theorem tick (h : Keeps p x) (amount : Nat) : Keeps p (x.step (.tick amount)) := by
  cases h with
  | due story more time_eq => exact .due story more time_eq
  | waiting story more rested waits => exact .waiting story more rested waits
  | done story more rested last told verdict => exact .done story more rested last told verdict
  | gone story more le le_succ => exact .gone story more le le_succ

theorem event (h : Keeps p x) (hc : x.run.connection.Consistent) (e : Event η) :
    Keeps p (x.step (.event e)) := by
  unfold Pursuit.step
  dsimp only
  split
  · exact h
  rename_i howns
  cases h with
  | due story more time_eq => exact .due (story.step hc e) more time_eq
  | waiting story more rested waits =>
      refine .waiting (story.step hc e) more rested ((Run.step_rule hc e).waiting_get waits ?_)
      -- What only the caller itself can do has been ruled out above.
      intro he
      simp [owns, Standing.caller?, he] at howns
  | done story more rested last told verdict =>
      exact .done (story.step hc e) more rested last (Run.result?_step hc told e) verdict
  | gone story more le le_succ => exact .gone (story.step hc e) more le le_succ

/-- A caller that goes away has kept to its policy until then. -/
theorem leave (h : Keeps p x) (hc : x.run.connection.Consistent) : Keeps p (x.step .leave) := by
  cases h with
  | due story more _ => exact .gone story more (Nat.le_refl _) (Nat.le_succ _)
  | waiting story more _ _ =>
      exact .gone (story.step hc (.drop _)) more (Nat.le_succ _) (Nat.le_refl _)
  | done story more rested last told verdict => exact .done story more rested last told verdict
  | gone story more le le_succ => exact .gone story more le le_succ

/-- What becomes of a caller that has asked and looks for what it was given. -/
theorem come {r : Run η} {s : Standing η} {now since caller : Nat} {past : List Inquiry} {stage : Stage}
    (story : Story p r past) (more : past.length < p.most) (rested : Rested p past since)
    (waits : r.result? caller = none → ∃ n, r.callers[caller]? = some (.waiting n)) :
    Keeps p (Pursuit.come ⟨r, now, s, past.length + 1, past⟩ caller since
      (Request.look ⟨some p, past.length + 1, stage⟩ r caller)) := by
  unfold Request.look
  cases told : r.result? caller with
  | none =>
      obtain ⟨n, hn⟩ := waits told
      exact .waiting story more rested hn
  | some given =>
      rcases p.respond_cases (Nat.le_add_left 1 _) more given with
        ⟨f, rfl, hf, again, hr⟩ | ⟨result, verdict, hr⟩
      · simp only [Request.react, hr, Pursuit.come]
        generalize hd : p.delayFor (past.length + 1) = delay
        have told : Inquiry.Retried p r past.length ⟨caller, since, now, some delay⟩ :=
          ⟨f, told, hf, by rw [hd]⟩
        have hlen : (past ++ [Inquiry.mk caller since now (some delay)]).length = past.length + 1 :=
          List.length_append
        simpa only [hlen] using @due η p r now (now + delay) _ (story.concat rested told)
          (by rwa [hlen]) (by simp [hd])
      · simp only [Request.react, hr, Pursuit.come]
        exact .done story more rested rfl told verdict

/-- At its turn a caller asks or looks, and does with the answer what its policy says. -/
theorem turn (h : Keeps p x) (hc : x.run.connection.Consistent) : Keeps p (x.step .turn) := by
  cases h with
  | @due r now time past story more time_eq =>
      by_cases hnow : time ≤ now
      · rw [turn_due rfl hnow]
        refine come (story.step hc .acquire) more ?_ (Run.result?_acquire hc)
        intro c hlast
        rw [← time_eq c hlast]
        exact hnow
      · rw [turn_sleeping rfl hnow]
        exact .due story more time_eq
  | waiting story more rested waits =>
      rw [turn_waiting rfl]
      exact come (story.step hc _) more rested fun told => ⟨_, Run.result?_deliver waits told⟩
  | done story more rested last told verdict => exact .done story more rested last told verdict
  | gone story more le le_succ => exact .gone story more le le_succ

end Keeps

/-! ## Moves -/

variable {p : RetryPolicy} {x : Pursuit η}

@[simp] theorem come_run (x : Pursuit η) (caller since : Nat) (g : Request.Progress η) :
    (x.come caller since g).run = x.run := by
  cases g <;> rfl

/-- To the connection every turn of the caller is one of the events. -/
theorem proceed_run (x : Pursuit η) (since : Nat) (q : Request) :
    ∃ e, (x.proceed since q).run = x.run.step e := by
  obtain ⟨policy, asked, stage⟩ := q
  cases stage with
  | asking => exact ⟨.acquire, come_run ..⟩
  | waiting caller => exact ⟨.deliver caller, come_run ..⟩

/-- A move is at most one event for the connection. -/
theorem step_run (x : Pursuit η) (m : Move η) :
    (x.step m).run = x.run ∨ ∃ e, (x.step m).run = x.run.step e := by
  cases m with
  | turn =>
      unfold step
      dsimp only
      split
      · split
        · exact .inr (proceed_run ..)
        · exact .inl rfl
      · exact .inr (proceed_run ..)
      · exact .inl rfl
  | event e =>
      unfold step
      dsimp only
      split
      · exact .inl rfl
      · exact .inr ⟨e, rfl⟩
  | tick amount => exact .inl rfl
  | leave =>
      have drop (q : Request) : q.drop x.run = x.run ∨ ∃ e, q.drop x.run = x.run.step e := by
        unfold Request.drop
        split
        · exact .inl rfl
        · exact .inr ⟨_, rfl⟩
      unfold step
      dsimp only
      split
      · exact drop _
      · exact drop _
      · exact .inl rfl

@[simp] theorem come_asked (x : Pursuit η) (caller since : Nat) (g : Request.Progress η) :
    (x.come caller since g).asked = x.asked := by
  cases g <;> rfl

theorem asked_turn {time n : Nat} {policy : Option RetryPolicy}
    (hx : x.standing = .due time ⟨policy, n, .asking⟩) :
    (x.step .turn).asked = if time ≤ x.now then x.asked + 1 else x.asked := by
  split
  · rename_i hnow
    rw [turn_due hx hnow, come_asked]
  · rename_i hnow
    rw [turn_sleeping hx hnow]

/-- A caller with this policy and a connection in any state, some moves after its start. -/
structure Faithful (p : RetryPolicy) (x : Pursuit η) : Prop where
  reached : ∃ events, x.run = Run.after events
  keeps : Keeps p x

namespace Faithful

theorem start (p : RetryPolicy) (before : List (Event η)) (now : Nat) :
    Faithful p (start p (Run.after before) now) := ⟨⟨before, rfl⟩, .start p _ now⟩

theorem consistent (h : Faithful p x) : x.run.connection.Consistent := by
  obtain ⟨events, hr⟩ := h.reached
  rw [hr]
  exact Run.consistent_after events

theorem ledger (h : Faithful p x) : x.run.Ledger := by
  obtain ⟨events, hr⟩ := h.reached
  rw [hr]
  exact Run.ledger_after events

theorem step (h : Faithful p x) (m : Move η) : Faithful p (x.step m) where
  reached := by
    obtain ⟨events, hr⟩ := h.reached
    rcases x.step_run m with hm | ⟨e, hm⟩
    · exact ⟨events, hm.trans hr⟩
    · exact ⟨events ++ [e], by rw [hm, hr, Run.after_append]; rfl⟩
  keeps :=
    match m with
    | .turn => h.keeps.turn h.consistent
    | .event e => h.keeps.event h.consistent e
    | .tick amount => h.keeps.tick amount
    | .leave => h.keeps.leave h.consistent

/-- The run and the caller keep in agreement, whatever moves there are. -/
theorem after (h : Faithful p x) (moves : List (Move η)) : Faithful p (x.after moves) := by
  induction moves generalizing x with
  | nil => exact h
  | cons m moves ih => exact ih (h.step m)

theorem trace (h : Faithful p x) (σ : Nat → Move η) (n : Nat) : Faithful p (x.trace σ n) := by
  induction n with
  | zero => exact h
  | succ n ih => exact ih.step (σ n)

end Faithful

end Pursuit

end Swarmkeeper.Service
