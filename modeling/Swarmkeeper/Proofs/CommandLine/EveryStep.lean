import Mathlib.Order.WellFounded
import Swarmkeeper.Proofs.CommandLine.Following

/-!
# Every step is told

A service command whose start calls all fail tells every step of every attempt once and in order, and then
why it failed. It comes to that whenever everything is done again and again, in whichever order.
-/

namespace Swarmkeeper.Service.Pursuit

variable {η : Type}

theorem now_come (x : Pursuit η) (caller since : Nat) (progress : Request.Progress η) :
    (x.come caller since progress).now = x.now := by
  cases progress <;> rfl

theorem now_turn (x : Pursuit η) : (x.step .turn).now = x.now := by
  rw [step]
  split
  · split
    · exact now_come _ _ _ _
    · rfl
  · exact now_come _ _ _ _
  · rfl

theorem now_event (x : Pursuit η) (e : Event η) : (x.step (.event e)).now = x.now := by
  rw [step]
  split <;> rfl

end Swarmkeeper.Service.Pursuit

namespace Swarmkeeper.CommandLine.Follower

open Swarmkeeper.Service

variable {settings : Config.Service} {machine : Machine} {f : Failure} {x y : Follower}

/-! ## The end -/

/-- Everything is done again and again, and time goes on. -/
structure Fair (settings : Config.Service) (machine : Machine) (σ : Nat → Happening) : Prop where
  recurs : ∀ (a : Act) (n : Nat), ∃ m, n ≤ m ∧ σ m = .act a
  time : ∀ t, ∃ n, ∀ m, n ≤ m → t ≤ (trace settings machine σ m).pursuit.now

/-- The command may look at its caller. -/
def IsOpen (x : Follower) : Prop := x.watch ≠ .waiting (some .caller)

theorem isOpen_look_feed (x : Follower) : (x.look .feed).IsOpen := by
  unfold Follower.look
  split
  · rename_i looked hw
    split
    · rename_i hl
      rw [IsOpen, hw, hl]
      rintro ⟨⟩
    · simp only [lookAtFeed]
      split
      · intro h
        simp [inVain] at h
      · rintro ⟨⟩
      · rintro ⟨⟩
  · rename_i hw
    exact hw _

theorem IsOpen.step (h : x.IsOpen) {e : Happening} (he : e ≠ .act (.look .caller)) :
    (x.step settings machine e).IsOpen := by
  cases e with
  | tick | lose => exact h
  | act a =>
      cases a with
      | look side =>
          cases side with
          | caller => exact absurd rfl he
          | feed => exact isOpen_look_feed x
      | drain =>
          simp only [Follower.step, perform, Follower.drain]
          split
          · split
            · exact h
            · rintro ⟨⟩
          · exact h
      | begin =>
          simp only [Follower.step, perform, Follower.begin]
          split <;> exact h
      | probe =>
          simp only [Follower.step, perform, Follower.probe]
          split
          · split <;> exact h
          · exact h

namespace Fair

variable {σ : Nat → Happening}

/-- Once the command may look at its caller it may until it does. -/
theorem open_until {n d : Nat} (hopen : (trace settings machine σ n).IsOpen)
    (hlook : σ (n + d) = .act (.look .caller)) :
    ∃ m, n ≤ m ∧ σ m = .act (.look .caller) ∧ (trace settings machine σ m).IsOpen := by
  -- Induction on how far the look is ahead.
  induction d generalizing n with
  | zero => exact ⟨n, Nat.le_refl _, hlook, hopen⟩
  | succ d ih =>
      by_cases he : σ n = .act (.look .caller)
      · exact ⟨n, Nat.le_refl _, he, hopen⟩
      · rw [show n + (d + 1) = n + 1 + d by omega] at hlook
        have hnext : (trace settings machine σ (n + 1)).IsOpen := hopen.step he
        obtain ⟨m, hm, h⟩ := ih hnext hlook
        exact ⟨m, Nat.le_of_succ_le hm, h⟩

theorem looks (h : Fair settings machine σ) (n : Nat) :
    ∃ m, n ≤ m ∧ σ m = .act (.look .caller) ∧ (trace settings machine σ m).IsOpen := by
  obtain ⟨k, hk, hfeed⟩ := h.recurs (.look .feed) n
  obtain ⟨l, hl, hcaller⟩ := h.recurs (.look .caller) (k + 1)
  obtain ⟨d, rfl⟩ := Nat.exists_eq_add_of_le hl
  have hopen : (trace settings machine σ (k + 1)).IsOpen := by
    rw [trace, hfeed]
    exact isOpen_look_feed _
  obtain ⟨m, hm, h⟩ := open_until hopen hcaller
  exact ⟨m, by omega, h⟩

theorem recurs_open (h : Fair settings machine σ) (a : Act) (n : Nat) :
    ∃ m, n ≤ m ∧ σ m = .act a ∧ (a = .look .caller → (trace settings machine σ m).IsOpen) := by
  by_cases ha : a = .look .caller
  · obtain ⟨m, hm, he, hopen⟩ := h.looks n
    exact ⟨m, hm, ha ▸ he, fun _ => hopen⟩
  · obtain ⟨m, hm, he⟩ := h.recurs a n
    exact ⟨m, hm, he, (absurd · ha)⟩

end Fair

/-! ### A fair sequence -/

def acts : List Act := [.look .caller, .look .feed, .drain, .begin, .probe]

/-- One thing after the other, and then a millisecond. -/
def inTurn (n : Nat) : Happening :=
  match acts[n % 6]? with
  | some a => .act a
  | none => .tick 1

theorem now_perform (settings : Config.Service) (machine : Machine) (x : Follower) (a : Act) :
    (x.perform settings machine a).pursuit.now = x.pursuit.now := by
  cases a with
  | look side =>
      simp only [perform, Follower.look]
      split
      · split
        · rfl
        · cases side with
          | caller =>
              simp only [lookAtCaller]
              split <;> exact Pursuit.now_turn _
          | feed =>
              simp only [lookAtFeed]
              split <;> rfl
      · rfl
  | drain =>
      simp only [perform, Follower.drain]
      split
      · split <;> rfl
      · rfl
  | begin =>
      simp only [perform, Follower.begin]
      split
      · exact Pursuit.now_event _ _
      · rfl
  | probe =>
      simp only [perform, Follower.probe]
      split
      · split
        · rfl
        · exact Pursuit.now_event _ _
      · rfl

theorem now_inTurn (settings : Config.Service) (machine : Machine) (n : Nat) :
    (trace settings machine inTurn n).pursuit.now = n / 6 := by
  induction n with
  | zero => rfl
  | succ n ih =>
      rw [trace, inTurn]
      cases ha : acts[n % 6]? with
      | some a =>
          have hlt : n % 6 < 5 := (List.getElem?_eq_some_iff.mp ha).1
          have hnow := now_perform settings machine (trace settings machine inTurn n) a
          have hdiv : (n + 1) / 6 = n / 6 := by omega
          rw [step, hnow, ih, hdiv]
      | none =>
          have hle : 5 ≤ n % 6 := List.getElem?_eq_none_iff.mp ha
          have hnow : (trace settings machine inTurn n).pursuit.now + 1 = (n + 1) / 6 := by omega
          exact hnow

/-- It is fair that everything has its turn. -/
theorem fair_inTurn (settings : Config.Service) (machine : Machine) : Fair settings machine inTurn where
  recurs a n := by
    obtain ⟨i, hi⟩ : ∃ i : Fin 5, acts[i.val]? = some a := by
      cases a with
      | look side =>
          cases side with
          | caller => exact ⟨0, rfl⟩
          | feed => exact ⟨1, rfl⟩
      | drain => exact ⟨2, rfl⟩
      | begin => exact ⟨3, rfl⟩
      | probe => exact ⟨4, rfl⟩
    have hmod : (6 * n + i.val) % 6 = i.val := by omega
    exact ⟨6 * n + i.val, by omega, by rw [inTurn, hmod, hi]⟩
  time t := by
    refine ⟨6 * t, fun m hm => ?_⟩
    rw [now_inTurn]
    omega

/-! ### What the command waits for -/

/-- Unless the command has ended, there is something that brings it nearer to its end from the place where
it is, if it happens from some time on, and the command may look at its caller if it is that. -/
theorem Follows.next (h : Follows settings f x) (hstart : machine.start settings = .error f) :
    (∃ report, x.watch = .ended report) ∨ ∃ a time, ∀ y, Follows settings f y → y.place = x.place →
      time ≤ y.pursuit.now → (a = .look .caller → y.IsOpen) →
        (y.perform settings machine a).rank settings < y.rank settings := by
  cases hw : x.watch with
  | ended report => exact .inl ⟨report, rfl⟩
  | draining result =>
      refine .inr ⟨.drain, 0, fun y hy hsame _ _ => ?_⟩
      obtain ⟨result, hwy⟩ := draining_of_place hsame hw
      exact hy.drain.2 result hwy
  | waiting looked =>
      right
      cases h.refused.awaits with
      | turn time ready =>
          refine ⟨.look .caller, time, fun y hy hsame hnow hopen => ?_⟩
          obtain ⟨looked, hwy⟩ := waiting_of_place hsame hw
          have hne : looked ≠ some .caller := by
            rintro rfl
            exact hopen rfl hwy
          have hlook : y.look .caller = y.lookAtCaller looked := by
            unfold Follower.look
            simp only [hwy, if_neg hne]
          have hless := (hy.lookAtCaller (Machine.isRetryable_of_start hstart) hwy hne).2
          rw [Follower.perform, hlook]
          exact hless (ready y.pursuit (run_of_place hsame) (standing_of_place hsame) hnow)
      | begin call =>
          refine ⟨.begin, 0, fun y hy hsame _ _ => hy.begin.2 ?_⟩
          rw [connection, run_of_place hsame]
          exact call
      | probe call =>
          refine ⟨.probe, 0, fun y hy hsame _ _ => (hy.probe hstart).2 ?_⟩
          rw [connection, run_of_place hsame]
          exact call
      | nothing result done =>
          have hr := h.reach
          simp only [InReach, hw] at hr
          exact absurd done (hr.1 result)

section

variable {σ : Nat → Happening} {n m : Nat}

/-- Along a sequence the end comes nearer, or the place stays the same. -/
theorem rank_trace (hstart : machine.start settings = .error f) (σ : Nat → Happening) (h : n ≤ m) :
    (trace settings machine σ m).rank settings < (trace settings machine σ n).rank settings ∨
      (trace settings machine σ m).place = (trace settings machine σ n).place := by
  induction h with
  | refl => exact .inr rfl
  | @step m _ ih =>
      have hnext : (trace settings machine σ (m + 1)).rank settings <
          (trace settings machine σ m).rank settings ∨
            (trace settings machine σ (m + 1)).place = (trace settings machine σ m).place :=
        ((Follows.trace settings hstart σ m).step hstart (σ m)).nearer
      rcases hnext with hlt | hsame
      · rcases ih with ih | ih
        · exact .inl (Nat.lt_trans hlt ih)
        · exact .inl (rank_congr ih ▸ hlt)
      · rcases ih with ih | ih
        · exact .inl (rank_congr hsame ▸ ih)
        · exact .inr (hsame.trans ih)

/-- What brings the command nearer to its end from the place where it is, and happens later, has done so
by then. -/
theorem nearer_of_step (hstart : machine.start settings = .error f) (h : n ≤ m)
    (hstep : (trace settings machine σ m).place = (trace settings machine σ n).place →
      ((trace settings machine σ m).step settings machine (σ m)).rank settings <
        (trace settings machine σ m).rank settings) :
    ∃ k, (trace settings machine σ k).rank settings < (trace settings machine σ n).rank settings := by
  rcases rank_trace hstart σ h with hlt | hsame
  · exact ⟨m, hlt⟩
  · have hnext : (trace settings machine σ (m + 1)).rank settings <
        (trace settings machine σ m).rank settings := hstep hsame
    exact ⟨m + 1, rank_congr hsame ▸ hnext⟩

/-- A fair sequence brings the end nearer from wherever the command is. -/
theorem Fair.nearer (h : Fair settings machine σ) (hstart : machine.start settings = .error f) (n : Nat) :
    (∃ report, (trace settings machine σ n).watch = .ended report) ∨
      ∃ k, (trace settings machine σ k).rank settings < (trace settings machine σ n).rank settings := by
  rcases (Follows.trace settings hstart σ n).next hstart with hended | ⟨a, time, hnext⟩
  · exact .inl hended
  · obtain ⟨k, hk⟩ := h.time time
    obtain ⟨m, hm, he, hopen⟩ := h.recurs_open a (max n k)
    refine .inr (nearer_of_step hstart (Nat.le_trans (Nat.le_max_left n k) hm) fun hsame => ?_)
    rw [he]
    have hnow := hk m (Nat.le_trans (Nat.le_max_right n k) hm)
    exact hnext _ (Follows.trace settings hstart σ m) hsame hnow hopen

/-- So the command comes to its end. -/
theorem Fair.ends (h : Fair settings machine σ) (hstart : machine.start settings = .error f) :
    ∃ n report, (trace settings machine σ n).watch = .ended report := by
  -- Where the rank is least nothing brings the command nearer to its end.
  let rankAt (n : Nat) : Nat := (trace settings machine σ n).rank settings
  refine ⟨Function.argmin rankAt, (h.nearer hstart _).resolve_right ?_⟩
  rintro ⟨m, hlt⟩
  exact Function.not_lt_argmin rankAt m hlt

end

/-! ## What is told -/

/-- The lines on one attempt that fails. -/
def attemptLines (n : Nat) : List String :=
  let before := if n = 1 then "idle" else "failed"
  [s!"[attempt {n}] {before} -> connecting", s!"[attempt {n}] connecting -> failed"]

/-- The lines on so many attempts that fail. -/
def refusedLines (most : Nat) : List String :=
  (List.range most).flatMap fun i => attemptLines (i + 1)

/-- All the lines, and why the command failed. -/
def refusedReport (settings : Config.Service) : Report :=
  let failure := Failure.retriesExhausted settings.retry.most Failure.noHandle.message
  ⟨refusedLines settings.retry.most, some ⟨"Service is unavailable", some failure.message⟩⟩

theorem transition_attempt (n : Nat) :
    [setOut n, ⟨.connecting, .failed, n + 1⟩].map Report.transition = attemptLines (n + 1) := by
  cases n with
  | zero => rfl
  | succ n =>
      have hne : n + 1 + 1 ≠ 1 := by omega
      simp only [attemptLines, if_neg hne, List.map_cons, List.map_nil, setOut, Phase.afterFailures,
        Report.transition, Phase.name, String.append_assoc]
      rfl

theorem transition_refusals (n : Nat) : (refusals n).map Report.transition = refusedLines n := by
  induction n with
  | zero => rfl
  | succ n ih =>
      rw [refusals, List.map_append, ih, transition_attempt, refusedLines, refusedLines, List.range_succ,
        List.flatMap_append]
      simp

example : refusedLines 2 = ["[attempt 1] idle -> connecting", "[attempt 1] connecting -> failed",
    "[attempt 2] failed -> connecting", "[attempt 2] connecting -> failed"] := rfl

namespace Follows

theorem lines_prefix_refusedLines (h : Follows settings f x) :
    x.lines <+: refusedLines settings.retry.most := by
  rw [h.lines, ← transition_refusals]
  exact (List.take_prefix _ _).map _

theorem ended (h : Follows settings .noHandle x) {report : Report} (hw : x.watch = .ended report) :
    report = refusedReport settings ∧
      report.lines = x.connection.history.reverse.map Report.transition := by
  have hr := h.reach
  simp only [InReach, hw] at hr
  obtain ⟨result, hs, hpast, rfl⟩ := hr
  obtain ⟨rfl, history⟩ := h.refused.of_done hs
  have hall : (refusals settings.retry.most).length ≤ x.past := by
    rw [← history, List.length_reverse]
    exact hpast
  have hlines : x.lines = (refusals settings.retry.most).map Report.transition := by
    rw [h.lines, List.take_of_length_le hall]
  refine ⟨?_, hlines.trans (congrArg _ history.symm)⟩
  rw [Follower.report, refusedReport, hlines, transition_refusals]

end Follows

/-- What the command tells if nobody answers at the address. -/
structure TellsEveryStep (settings : Config.Service) (machine : Machine) : Prop where
  in_order : ∀ events, (after settings machine events).lines <+: refusedLines settings.retry.most
  ended : ∀ events report, (after settings machine events).watch = .ended report →
    report = refusedReport settings ∧
      report.lines = (after settings machine events).connection.history.reverse.map Report.transition
  ends : ∀ σ, Fair settings machine σ →
    ∃ n, (trace settings machine σ n).watch = .ended (refusedReport settings)
  /-- The command as it runs when it tells its steps all at once. -/
  at_once : Report.service settings machine = refusedReport settings

/-- Where there is no program to start and no service to reach, the command tells every step of the
attempts in order, leaves none out, and comes to its report under every fair sequence of turns. -/
theorem every_step_told (settings : Config.Service) (machine : Machine) (hp : settings.program = none)
    (hc : machine.connect settings.address = none) : TellsEveryStep settings machine := by
  have hstart : machine.start settings = .error .noHandle := by
    simp only [Machine.start, Machine.launch, hp, hc]
  refine ⟨fun events => ?_, fun events report hw => ?_, fun σ hfair => ?_, ?_⟩
  · exact (Follows.after settings hstart events).lines_prefix_refusedLines
  · exact (Follows.after settings hstart events).ended hw
  · obtain ⟨n, report, hw⟩ := hfair.ends hstart
    exact ⟨n, ((Follows.trace settings hstart σ n).ended hw).1 ▸ hw⟩
  · obtain ⟨d, hd, hpersist⟩ := RetryPolicy.persist_refused (f := .noHandle) rfl settings.retry.one_le_most
      (Connection.stalled_idle (η := Endpoint))
    simp only [Report.service, hstart, hpersist, hd.history, transition_refusals, refusedReport]

/-- It does so with the settings that hold unless others are given, when everybody has his turn. -/
theorem every_step_told_standard :
    let machine : Machine := ⟨fun _ _ => .error "", fun _ => none⟩
    Config.Service.standard.program = none ∧ machine.connect Config.Service.standard.address = none ∧
      TellsEveryStep .standard machine ∧
        ∃ n, (trace .standard machine inTurn n).watch = .ended (refusedReport .standard) := by
  intro machine
  have told := every_step_told .standard machine rfl rfl
  exact ⟨rfl, rfl, told, told.ends inTurn (fair_inTurn .standard machine)⟩

end Swarmkeeper.CommandLine.Follower
