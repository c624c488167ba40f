import Mathlib.Data.List.Chain
import Swarmkeeper.Proofs.Blocklist.Freshness

/-!
# The pace of the refreshes

However short the interval of the policy is and whatever the fetches come to, the routine does not spin.
From the end of one refresh to the beginning of the next a second passes, unless the policy was published
since the routine last took notice of it. So the refreshes are counted by the seconds and the
publications, and there is no further one once the routine has ended.
-/

namespace Swarmkeeper.Blocklist

open Swarmkeeper.Admission

/-- No policy makes the interval shorter than a second. -/
theorem Routine.second_le_interval (policy : Policy) : 1000 ≤ Routine.interval policy := Nat.le_max_right ..

section Matcher

variable [Pattern.Matcher]

/-- A refresh has begun and is not over. -/
inductive Stage.IsRefreshing : Stage → Prop where
  | fetching : IsRefreshing .fetching
  | building : IsRefreshing .building
  | installing (chain : Chain) : IsRefreshing (.installing chain)

namespace Routine

/-! ## A run with its clock -/

/-- What happens during a run. -/
inductive Incident where
  /-- So many milliseconds pass. -/
  | pass (ms : Nat)
  | event (e : Event)
  /-- Others, who may refresh on their own, do this to the chain and the fetched addresses. -/
  | others (work : Updater → Updater)

/-- A refresh that the routine has begun. -/
structure Round where
  begun : Nat
  /-- When it was over. -/
  ended : Option Nat
  /-- How often the policy had been published since the routine last took notice of it, at the moment
  when it stopped waiting and went on to this refresh. -/
  news : Nat

/-- What is noted of a run. -/
structure Notes where
  /-- When the routine had its first turn. -/
  began : Nat
  /-- The publications since then. -/
  published : Nat
  /-- The publications since the routine last took notice of the policy. -/
  news : Nat
  /-- How many these were when it last stopped waiting. -/
  noticed : Nat
  /-- The refreshes, latest first. -/
  rounds : List Round

/-- A routine at a moment, with what is noted of its run. -/
structure Watch where
  routine : Routine
  now : Nat
  notes : Notes

/-- The latest refresh is over at this moment. -/
def Notes.close (n : Notes) (now : Nat) : Notes :=
  { n with rounds := n.rounds.modifyHead ({ · with ended := some now }) }

namespace Watch

/-- Before the first turn of an updater's routine. -/
def ofUpdater (u : Updater) : Watch := ⟨.ofUpdater u, 0, ⟨0, 0, 0, 0, []⟩⟩

/-- Notes what an event means. -/
def noted (w : Watch) : Event → Notes
  | .subscribe =>
      if w.routine.stage = .starting then { w.notes with began := w.now, published := 0, news := 0 }
      else w.notes
  | .publish _ =>
      { w.notes with published := w.notes.published + 1, news := w.notes.news + 1 }
  | .look =>
      if w.routine.stage = .looking then
        { w.notes with rounds := ⟨w.now, none, w.notes.noticed⟩ :: w.notes.rounds }
      else w.notes
  | .receive (.error _) => if w.routine.stage = .fetching then w.notes.close w.now else w.notes
  | .install =>
      match w.routine.stage with
      | .installing _ => w.notes.close w.now
      | _ => w.notes
  | .heed =>
      if w.routine.mayFollow then { w.notes with noticed := w.notes.news, news := 0 } else w.notes
  | .wake => if w.routine.mayRepeat w.now then { w.notes with noticed := w.notes.news } else w.notes
  | _ => w.notes

def step (w : Watch) : Incident → Watch
  | .pass ms => { w with now := w.now + ms }
  | .event e => { w with routine := w.routine.step w.now e, notes := w.noted e }
  | .others work =>
      { w with routine := w.routine.onUpdater fun u => { work u with policy := u.policy } }

/-- The routine of an updater after these incidents. -/
def after (u : Updater) (run : List Incident) : Watch := run.foldl step (ofUpdater u)

end Watch

/-- One refresh follows on another: a second has passed since that was over, or the policy was published
since the routine last took notice of it. -/
def Round.Follows (next previous : Round) : Prop :=
  ∃ ended, previous.ended = some ended ∧ (ended + 1000 ≤ next.begun ∨ 1 ≤ next.news)

/-! ## What every step keeps -/

namespace Watch

variable {w : Watch} {r : Routine} {u : Updater} {run : List Incident}

/-- So many refreshes may have begun by this moment: one, one for each publication that was noticed, and
one a second. -/
def Affords (w : Watch) (refreshes now : Nat) : Prop :=
  w.notes.began + 1000 * (refreshes + w.notes.news) ≤ now + 1000 * (1 + w.notes.published)

/-- How many refreshes may have begun, by where the routine is. -/
def InBudget (w : Watch) : Prop :=
  match w.routine.stage with
  | .starting => w.routine.refreshes = 0 ∧ w.Affords 0 w.now
  | .looking => w.Affords (w.routine.refreshes + 1) w.now
  | .waiting due => w.Affords w.routine.refreshes w.now ∧ w.Affords (w.routine.refreshes + 1) due
  | .fetching | .building | .installing _ | .resting | .ended => w.Affords w.routine.refreshes w.now

/-- What is noted of the latest refresh, by where the routine is. -/
def InTime (w : Watch) : Prop :=
  match w.routine.stage with
  | .starting => w.notes.rounds = []
  | .looking => ∀ last ∈ w.notes.rounds.head?, Round.Follows ⟨w.now, none, w.notes.noticed⟩ last
  | .fetching | .building | .installing _ => w.notes.rounds ≠ []
  | .resting => ∃ last older ended,
      w.notes.rounds = last :: older ∧ last.ended = some ended ∧ ended ≤ w.now
  | .waiting due => ∃ last older ended,
      w.notes.rounds = last :: older ∧ last.ended = some ended ∧ ended + 1000 ≤ due
  | .ended => True

/-- The notes are true, and the refreshes are neither too many nor too close. -/
structure Steady (w : Watch) : Prop where
  version : w.routine.stage ≠ .starting →
    w.routine.updater.policy.version = w.routine.reader.seen + w.notes.news
  count : w.notes.rounds.length = w.routine.refreshes
  spaced : w.notes.rounds.IsChain Round.Follows
  budget : w.InBudget
  time : w.InTime
  stopping : w.routine.stage = .ended → w.routine.isStopping = true

theorem after_concat (u : Updater) (run : List Incident) (i : Incident) :
    after u (run ++ [i]) = (after u run).step i := by
  simp [after, List.foldl_append]

theorem Steady.affords (h : w.Steady) : w.Affords w.routine.refreshes w.now := by
  have hb := h.budget
  unfold InBudget at hb
  split at hb
  · rw [hb.1]
    exact hb.2
  · unfold Affords at *
    omega
  · exact hb.1
  all_goals exact hb

/-! ### As time passes, and while others work -/

/-- Time that passes affords more. -/
theorem Affords.later {refreshes now : Nat} (h : w.Affords refreshes now) (ms : Nat) :
    w.Affords refreshes (now + ms) := by
  unfold Affords at *
  omega

theorem Steady.pass (h : w.Steady) (ms : Nat) : (w.step (.pass ms)).Steady where
  version := h.version
  count := h.count
  spaced := h.spaced
  stopping := h.stopping
  budget := by
    have hb := h.budget
    cases hs : w.routine.stage <;> simp only [InBudget, step, hs] at hb ⊢
    case starting => exact hb.imp_right (·.later ms)
    case waiting => exact hb.imp_left (·.later ms)
    all_goals exact hb.later ms
  time := by
    have ht := h.time
    cases hs : w.routine.stage <;> simp only [InTime, step, hs] at ht ⊢
    case looking =>
      intro last hl
      obtain ⟨ended, ho, ht⟩ := ht last hl
      exact ⟨ended, ho, ht.imp_left (Nat.le_add_right_of_le ·)⟩
    case resting =>
      obtain ⟨last, older, ended, hr, ho, ht⟩ := ht
      exact ⟨last, older, ended, hr, ho, Nat.le_add_right_of_le ht⟩
    all_goals exact ht

/-- Only the policy matters of the updater, and of that only how often it was published. -/
theorem Steady.onUpdater (h : w.Steady) {f : Updater → Updater}
    (hf : (f w.routine.updater).policy.version = w.routine.updater.policy.version) :
    { w with routine := w.routine.onUpdater f }.Steady where
  version hs := hf.trans (h.version hs)
  count := h.count
  spaced := h.spaced
  budget := h.budget
  time := h.time
  stopping := h.stopping

/-- A publication makes room for one refresh more. -/
theorem Steady.publish (h : w.Steady) (policy : Policy) : (w.step (.event (.publish policy))).Steady where
  version hs := congrArg (· + 1) (h.version hs)
  count := h.count
  spaced := h.spaced
  stopping := h.stopping
  time := h.time
  budget := by
    have hb := h.budget
    show InBudget ⟨w.routine.onUpdater (·.publish policy), w.now,
      { w.notes with published := w.notes.published + 1, news := w.notes.news + 1 }⟩
    cases hs : w.routine.stage <;>
      simp only [InBudget, Affords, Routine.onUpdater, hs] at hb ⊢ <;>
      omega

/-! ### While the routine refreshes -/

theorem inBudget_iff (hs : w.routine.stage.IsRefreshing) :
    w.InBudget ↔ w.Affords w.routine.refreshes w.now := by
  unfold InBudget
  generalize w.routine.stage = stage at hs
  cases hs <;> exact Iff.rfl

theorem inTime_iff (hs : w.routine.stage.IsRefreshing) : w.InTime ↔ w.notes.rounds ≠ [] := by
  unfold InTime
  generalize w.routine.stage = stage at hs
  cases hs <;> exact Iff.rfl

/-- A refresh that begins is paid for by the second before it or by the publication. -/
theorem Steady.begin (h : w.Steady) (hs : w.routine.stage = .looking)
    (hr : r.updater.policy = w.routine.updater.policy ∧ r.reader = w.routine.reader)
    (hn : r.refreshes = w.routine.refreshes + 1) (hs' : r.stage.IsRefreshing) :
    Steady ⟨r, w.now, { w.notes with rounds := ⟨w.now, none, w.notes.noticed⟩ :: w.notes.rounds }⟩ where
  version _ := by
    rw [hr.1, hr.2]
    exact h.version (by simp [hs])
  count := by rw [List.length_cons, h.count, hn]
  spaced := by
    have ht := h.time
    simp only [InTime, hs] at ht
    exact h.spaced.cons ht
  stopping he := by
    rw [he] at hs'
    nomatch hs'
  budget := by
    have hb := h.budget
    simp only [InBudget, hs] at hb
    refine (inBudget_iff hs').2 ?_
    rw [hn]
    exact hb
  time := (inTime_iff hs').2 (List.cons_ne_nil _ _)

theorem Steady.goOn (h : w.Steady) (hs : w.routine.stage.IsRefreshing)
    (hr : r.updater.policy = w.routine.updater.policy ∧ r.reader = w.routine.reader)
    (hn : r.refreshes = w.routine.refreshes) (hs' : r.stage.IsRefreshing) :
    { w with routine := r }.Steady where
  version _ := by
    rw [hr.1, hr.2]
    refine h.version fun he => ?_
    rw [he] at hs
    nomatch hs
  count := h.count.trans hn.symm
  spaced := h.spaced
  stopping he := by
    rw [he] at hs'
    nomatch hs'
  budget := by
    have hb := (inBudget_iff hs).1 h.budget
    refine (inBudget_iff hs').2 ?_
    rw [hn]
    exact hb
  time := (inTime_iff hs').2 ((inTime_iff hs).1 h.time)

theorem Steady.close (h : w.Steady) (hs : w.routine.stage.IsRefreshing)
    (hr : r.updater.policy = w.routine.updater.policy ∧ r.reader = w.routine.reader)
    (hn : r.refreshes = w.routine.refreshes) (hs' : r.stage = .resting) :
    Steady ⟨r, w.now, w.notes.close w.now⟩ := by
  obtain ⟨last, older, hl⟩ := List.exists_cons_of_ne_nil ((inTime_iff hs).1 h.time)
  have hspaced := h.spaced
  rw [hl, List.isChain_cons] at hspaced
  refine ⟨fun _ => ?_, ?_, ?_, ?_, ?_, ?_⟩
  · rw [hr.1, hr.2]
    refine h.version fun he => ?_
    rw [he] at hs
    nomatch hs
  · rw [hn, ← h.count]
    exact List.length_modifyHead
  · -- when it was begun stays as it was
    simp only [Notes.close, hl, List.modifyHead_cons]
    exact hspaced.2.cons hspaced.1
  · simp only [InBudget, hs', hn]
    exact (inBudget_iff hs).1 h.budget
  · simp only [InTime, hs', Notes.close, hl, List.modifyHead_cons]
    exact ⟨_, older, w.now, rfl, rfl, Nat.le_refl _⟩
  · simp [hs']

theorem Steady.look (h : w.Steady) : (w.step (.event .look)).Steady := by
  show Steady ⟨w.routine.look.2, w.now, if w.routine.stage = .looking then
    { w.notes with rounds := ⟨w.now, none, w.notes.noticed⟩ :: w.notes.rounds } else w.notes⟩
  by_cases hs : w.routine.stage = .looking
  · rw [if_pos hs]
    cases hu : w.routine.updater.policy.value.listUrl with
    | none =>
        have hlook : w.routine.look.2 = { w.routine.onUpdater ({ · with fetched := [] }) with
            refreshes := w.routine.refreshes + 1, stage := .building } := by
          simp [Routine.look, hs, hu, Routine.onUpdater]
        rw [hlook]
        exact h.begin hs ⟨rfl, rfl⟩ rfl .building
    | some url =>
        have hlook : w.routine.look.2 =
            { w.routine with refreshes := w.routine.refreshes + 1, stage := .fetching } := by
          simp [Routine.look, hs, hu]
        rw [hlook]
        exact h.begin hs ⟨rfl, rfl⟩ rfl .fetching
  · rw [if_neg hs]
    unfold Routine.look
    split
    · exact absurd ‹_› hs
    · exact h

theorem Steady.receive (h : w.Steady) (body : Body) : (w.step (.event (.receive body))).Steady := by
  cases body with
  | ok bytes =>
      show Steady ⟨w.routine.receive (.ok bytes), w.now, w.notes⟩
      unfold Routine.receive
      split
      next hs => exact h.goOn (hs ▸ .fetching) ⟨rfl, rfl⟩ rfl .building
      next => exact h
  | error f =>
      show Steady ⟨w.routine.receive (.error f), w.now,
        if w.routine.stage = .fetching then w.notes.close w.now else w.notes⟩
      unfold Routine.receive
      split
      next hs =>
        rw [if_pos hs]
        exact h.close (hs ▸ .fetching) ⟨rfl, rfl⟩ rfl rfl
      next hs =>
        rw [if_neg hs]
        exact h

theorem Steady.build (h : w.Steady) : (w.step (.event .build)).Steady := by
  show Steady ⟨w.routine.build, w.now, w.notes⟩
  unfold Routine.build
  split
  next hs => exact h.goOn (hs ▸ .building) ⟨rfl, rfl⟩ rfl (.installing _)
  next => exact h

theorem Steady.install (h : w.Steady) : (w.step (.event .install)).Steady := by
  show Steady ⟨w.routine.install, w.now, match w.routine.stage with
    | .installing _ => w.notes.close w.now
    | _ => w.notes⟩
  cases hs : w.routine.stage with
  | installing chain =>
      simp only [Routine.install, hs]
      exact h.close (hs ▸ .installing chain) ⟨rfl, rfl⟩ rfl rfl
  | _ =>
      simp only [Routine.install, hs]
      exact h

/-! ### Before and after a refresh -/

theorem Steady.subscribe (h : w.Steady) : (w.step (.event .subscribe)).Steady := by
  show Steady ⟨w.routine.subscribe, w.now, if w.routine.stage = .starting then
    { w.notes with began := w.now, published := 0, news := 0 } else w.notes⟩
  by_cases hs : w.routine.stage = .starting
  · simp only [Routine.subscribe, hs, if_true]
    have hb := h.budget
    have ht := h.time
    simp only [InBudget, hs] at hb
    simp only [InTime, hs] at ht
    refine ⟨fun _ => rfl, h.count, h.spaced, ?_, ?_, by rintro ⟨⟩⟩
    · simp only [InBudget, Affords, hb.1]
      omega
    · simp [InTime, ht]
  · rw [if_neg hs]
    unfold Routine.subscribe
    split
    · exact absurd ‹_› hs
    · exact h

theorem Steady.rest (h : w.Steady) : (w.step (.event .rest)).Steady := by
  show Steady ⟨w.routine.rest w.now, w.now, w.notes⟩
  unfold Routine.rest
  split
  next hs =>
    have hb := h.budget
    have ht := h.time
    simp only [InBudget, Affords, hs] at hb
    simp only [InTime, hs] at ht
    obtain ⟨last, older, ended, hl, ho, hle⟩ := ht
    have hi := second_le_interval w.routine.updater.policy.value
    refine ⟨fun _ => h.version (by simp [hs]), h.count, h.spaced, ?_, ?_, by rintro ⟨⟩⟩
    · simp only [InBudget, Affords]
      omega
    · exact ⟨last, older, ended, hl, ho, by omega⟩
  next => exact h

theorem Steady.finish (h : w.Steady) : (w.step (.event .finish)).Steady := by
  show Steady ⟨w.routine.finish, w.now, w.notes⟩
  unfold Routine.finish
  split
  next hm =>
    obtain ⟨due, hs⟩ := exists_waiting w.now (.inl hm)
    have hb := h.budget
    simp only [InBudget, hs] at hb
    refine ⟨fun _ => h.version (by simp [hs]), h.count, h.spaced, hb.1, trivial, fun _ => ?_⟩
    simpa only [mayEnd, hs] using hm
  next => exact h

theorem Steady.heed (h : w.Steady) : (w.step (.event .heed)).Steady := by
  show Steady ⟨w.routine.heed, w.now,
    if w.routine.mayFollow then { w.notes with noticed := w.notes.news, news := 0 } else w.notes⟩
  unfold Routine.heed
  split
  next hm =>
    obtain ⟨due, hs⟩ := exists_waiting w.now (.inr (.inl hm))
    have hb := h.budget
    have ht := h.time
    simp only [InBudget, Affords, hs] at hb
    simp only [InTime, hs] at ht
    obtain ⟨last, older, ended, hl, ho, -⟩ := ht
    -- the version is not the one that was seen
    have hnews : 1 ≤ w.notes.news := by
      have hv := h.version (by simp [hs])
      simp only [mayFollow, hs, Receiver.isBehind, decide_eq_true_eq] at hm
      omega
    refine ⟨fun _ => rfl, h.count, h.spaced, ?_, ?_, by rintro ⟨⟩⟩
    · simp only [InBudget, Affords]
      omega
    · simp only [InTime, hl]
      rintro _ ⟨⟩
      exact ⟨ended, ho, .inr hnews⟩
  next => exact h

theorem Steady.wake (h : w.Steady) : (w.step (.event .wake)).Steady := by
  show Steady ⟨w.routine.wake w.now, w.now,
    if w.routine.mayRepeat w.now then { w.notes with noticed := w.notes.news } else w.notes⟩
  unfold Routine.wake
  split
  next hm =>
    obtain ⟨due, hs⟩ := exists_waiting w.now (.inr (.inr hm))
    have hb := h.budget
    have ht := h.time
    simp only [InBudget, Affords, hs] at hb
    simp only [InTime, hs] at ht
    obtain ⟨last, older, ended, hl, ho, hle⟩ := ht
    have hdue : due ≤ w.now := by simpa only [mayRepeat, hs, decide_eq_true_eq] using hm
    refine ⟨fun _ => h.version (by simp [hs]), h.count, h.spaced, ?_, ?_, by rintro ⟨⟩⟩
    · simp only [InBudget, Affords]
      omega
    · simp only [InTime, hl]
      rintro _ ⟨⟩
      exact ⟨ended, ho, .inl (hle.trans hdue)⟩
  next => exact h

/-! ## Every run -/

/-- No event makes the routine unsteady. -/
theorem Steady.event (h : w.Steady) (e : Event) : (w.step (.event e)).Steady := by
  cases e with
  | publish policy => exact h.publish policy
  | rebuild => exact h.onUpdater (f := (·.rebuild)) rfl
  | evaluate peer => exact h.onUpdater (f := fun u => (u.evaluate peer).2) rfl
  | stop => exact ⟨h.version, h.count, h.spaced, h.budget, h.time, fun _ => rfl⟩
  | subscribe => exact h.subscribe
  | look => exact h.look
  | receive body => exact h.receive body
  | build => exact h.build
  | install => exact h.install
  | rest => exact h.rest
  | finish => exact h.finish
  | heed => exact h.heed
  | wake => exact h.wake

/-- So the routine is steady at any time. -/
theorem steady_after (u : Updater) (run : List Incident) : (after u run).Steady := by
  induction run using List.reverseRecOn with
  | nil => exact ⟨fun h => absurd rfl h, rfl, .nil, ⟨rfl, Nat.le_add_left _ _⟩, rfl, nofun⟩
  | append_singleton run i ih =>
      rw [after_concat]
      cases i with
      | pass ms => exact ih.pass ms
      | event e => exact ih.event e
      | others work => exact ih.onUpdater (f := fun u => { work u with policy := u.policy }) rfl

theorem step_of_ended (hs : r.stage = .ended) (now : Nat) (e : Event) :
    (r.step now e).stage = .ended ∧ (r.step now e).refreshes = r.refreshes := by
  have hrule := step_rule r none now e
  generalize r.step now e = r', r.noted none e = last' at hrule
  cases hrule with
  | stay | publish | rebuild | evaluate | stop => exact ⟨hs, rfl⟩
  | subscribe h | fetch h | giveUp h | accept h | fail h | build h | install h | rest h | finish h
  | heed h | wake h =>
      rw [hs] at h
      nomatch h

/-- A routine that has ended refreshes no more. -/
theorem ended_append (he : (after u run).routine.stage = .ended) (more : List Incident) :
    (after u (run ++ more)).routine.stage = .ended ∧
      (after u (run ++ more)).routine.refreshes = (after u run).routine.refreshes := by
  induction more using List.reverseRecOn with
  | nil => simpa using he
  | append_singleton more i ih =>
      rw [← List.append_assoc, after_concat]
      cases i with
      | pass | others => exact ih
      | event e =>
          obtain ⟨hs, hn⟩ := step_of_ended ih.1 (after u (run ++ more)).now e
          exact ⟨hs, hn.trans ih.2⟩

end Watch

/-- The routine does not spin. -/
structure KeepsPace (u : Updater) (run : List Incident) : Prop where
  /-- Every refresh that has begun is noted. -/
  noted : (Watch.after u run).notes.rounds.length = (Watch.after u run).routine.refreshes
  /-- From the end of one to the beginning of the next a second passes, unless there was news. -/
  spaced : (Watch.after u run).notes.rounds.IsChain Round.Follows
  /-- There is one, at most one more for each publication, and at most one more for each second. -/
  counted : (Watch.after u run).routine.refreshes ≤ 1 + (Watch.after u run).notes.published +
    ((Watch.after u run).now - (Watch.after u run).notes.began) / 1000
  /-- When it has ended, as it was told to, it begins no further refresh and asks for no list. -/
  ended : (Watch.after u run).routine.stage = .ended → (Watch.after u run).routine.isStopping = true ∧
    ∀ more, (Watch.after u (run ++ more)).routine.refreshes = (Watch.after u run).routine.refreshes ∧
      (Watch.after u (run ++ more)).routine.look.1 = none

/-- Whatever the policies are that are published, when they are, and whatever the fetches come to. -/
theorem keeps_pace (u : Updater) (run : List Incident) : KeepsPace u run where
  noted := (Watch.steady_after u run).count
  spaced := (Watch.steady_after u run).spaced
  counted := by
    have hb := (Watch.steady_after u run).affords
    unfold Watch.Affords at hb
    omega
  ended he := by
    refine ⟨(Watch.steady_after u run).stopping he, fun more => ?_⟩
    obtain ⟨hs, hn⟩ := Watch.ended_append he more
    exact ⟨hn, by simp [look, hs]⟩

end Routine

end Matcher

namespace Routine

-- With an interval of nothing a second passes all the same, and a publication is followed at once.
example :
    let policy := { Policy.disabled with refresh := .ofSeconds 0 }
    let again : List Incident := [.event .look, .event .build, .event .install, .event .rest]
    let waits : List Incident := [.pass 999, .event .wake, .pass 1, .event .wake]
    let hears : List Incident := [.event (.publish policy), .event .heed]
    let run := List.flatten [[.event .subscribe], again, waits, again, hears, again]
    (Watch.after (.ofPolicy policy) run).notes.rounds =
      [⟨1000, some 1000, 1⟩, ⟨1000, some 1000, 0⟩, ⟨0, some 0, 0⟩] := rfl

end Routine

end Swarmkeeper.Blocklist
