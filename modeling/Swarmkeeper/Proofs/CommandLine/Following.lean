import Mathlib.Data.List.Induction
import Swarmkeeper.CommandLine.Follower
import Swarmkeeper.Proofs.CommandLine.Refusal

/-!
# A command that keeps up

The service command follows its connection through a feed that keeps only the latest steps, while the
attempts may be many more. If the start calls all fail it misses none all the same, in whichever order it
looks at its caller and at the feed: the caller gets on by one step at a turn, and has no second turn before
the command has looked at the feed. So at most three steps wait to be told. With every step the command
comes nearer to its end, or stays where it is.
-/

namespace Swarmkeeper.Service

/-! ## The feed -/

namespace Feed

variable {history : List Transition} {past : Nat}

theorem read_of_lt (h : past < history.length) (near : history.length ≤ past + capacity) :
    ∃ t, history.reverse[past]? = some t ∧ read history past = (.step t, past + 1) := by
  have hlt : past < history.reverse.length := by rwa [List.length_reverse]
  have ht := List.getElem?_eq_getElem hlt
  refine ⟨_, ht, ?_⟩
  rw [read, if_neg (Nat.not_lt.mpr near), ht]

theorem read_of_le (h : history.length ≤ past) : read history past = (.nothing, past) := by
  have hlt : ¬past + capacity < history.length := by omega
  have hnone : history.reverse[past]? = none := List.getElem?_eq_none (by rwa [List.length_reverse])
  rw [read, if_neg hlt, hnone]

end Feed

/-! ## The start call -/

namespace Machine

variable {m : Machine} {c : Config.Service} {f : Failure}

theorem isRetryable_of_start (h : m.start c = .error f) : f.isRetryable = true := by
  unfold start launch at h
  split at h
  · rename_i hl
    split at hl
    · cases hl
    · split at hl
      · cases hl
      · cases hl
        cases h
        rfl
  · split at h
    · cases h
    · cases h
      rfl

/-- A start call that comes to nothing makes probes up to its limit, or ends before that. -/
theorem probe_of_start (h : m.start c = .error f) (made : Nat) :
    m.probe c made = some (.error f) ∨ (m.probe c made = none ∧ made + 1 < probeLimit c) := by
  unfold start at h
  unfold probe
  cases hl : m.launch c.program c.args with
  | error g =>
      rw [hl] at h
      cases h
      exact .inl rfl
  | ok process =>
      rw [hl] at h
      cases hc : m.connect c.address with
      | some socket =>
          simp only [hc] at h
          cases h
      | none =>
          simp only [hc] at h ⊢
          cases h
          split
          · exact .inr ⟨rfl, ‹_›⟩
          · exact .inl rfl

end Machine

theorem probeLimit_pos (c : Config.Service) : 0 < probeLimit c :=
  Nat.lt_of_lt_of_le Nat.one_pos (Nat.le_max_right _ _)

end Swarmkeeper.Service

namespace Swarmkeeper.CommandLine.Follower

open Swarmkeeper.Service

variable {settings : Config.Service} {machine : Machine} {f : Failure} {x y : Follower}

/-! ## How far the command is behind -/

/-- How many of the steps that its caller knows of the command may have yet to tell, when it has looked at
this side. -/
def allowance : Option Side → Nat
  | none => 1
  | some .caller => 2
  | some .feed => 0

/-- How far the command is behind its caller, by where it is. -/
def InReach (x : Follower) : Prop :=
  match x.watch with
  | .waiting looked => (∀ result, x.pursuit.standing ≠ .done result) ∧
      x.pursuit.known ≤ x.past + allowance looked
  | .draining result => x.pursuit.standing = .done result ∧ x.pursuit.known ≤ x.past + 2
  | .ended report => ∃ result, x.pursuit.standing = .done result ∧
      x.connection.history.length ≤ x.past ∧ report = x.report result

/-- The command has told the first steps of attempts that all fail, and none waits too long. -/
structure Follows (settings : Config.Service) (f : Failure) (x : Follower) : Prop where
  faithful : Pursuit.Faithful settings.retry x.pursuit
  refused : Pursuit.Refused settings.retry f x.pursuit
  probes_lt : x.probes < probeLimit settings
  lines : x.lines = ((refusals settings.retry.most).take x.past).map Report.transition
  past_le : x.past ≤ x.connection.history.length
  reach : x.InReach

/-- How many times the command has yet to change what it does. -/
def changes : Watch → Nat
  | .waiting _ => 2
  | .draining _ => 1
  | .ended _ => 0

/-- How much is still to be done for the command. -/
def rank (settings : Config.Service) (x : Follower) : Nat :=
  x.pursuit.effort settings.retry (probeLimit settings) x.probes +
    (2 * settings.retry.most - x.past) + changes x.watch

/-- Where the command is, apart from the time and from what it has looked at. -/
def place (x : Follower) : Run Endpoint × Standing Endpoint × List Inquiry × Nat × Nat × Nat :=
  (x.pursuit.run, x.pursuit.standing, x.pursuit.inquiries, x.probes, x.past, changes x.watch)

theorem rank_congr (h : y.place = x.place) : y.rank settings = x.rank settings := by
  simp only [place, Prod.mk.injEq] at h
  obtain ⟨hrun, hstanding, hinquiries, hprobes, hpast, hchanges⟩ := h
  simp only [rank, Pursuit.effort, hrun, hstanding, hinquiries, hprobes, hpast, hchanges]

theorem run_of_place (h : y.place = x.place) : y.pursuit.run = x.pursuit.run := congrArg (·.1) h

theorem standing_of_place (h : y.place = x.place) : y.pursuit.standing = x.pursuit.standing :=
  congrArg (·.2.1) h

theorem draining_of_place (h : y.place = x.place) {result : Except Failure Endpoint}
    (hw : x.watch = .draining result) : ∃ result, y.watch = .draining result := by
  have hc : changes y.watch = changes x.watch := congrArg (·.2.2.2.2.2) h
  rw [hw] at hc
  cases hy : y.watch with
  | draining result => exact ⟨result, rfl⟩
  | waiting | ended => simp [changes, hy] at hc

theorem waiting_of_place (h : y.place = x.place) {looked : Option Side}
    (hw : x.watch = .waiting looked) : ∃ looked, y.watch = .waiting looked := by
  have hc : changes y.watch = changes x.watch := congrArg (·.2.2.2.2.2) h
  rw [hw] at hc
  cases hy : y.watch with
  | waiting looked => exact ⟨looked, rfl⟩
  | draining | ended => simp [changes, hy] at hc

/-- The command goes on as it should: it comes nearer to its end, or stays where it is. -/
structure Follows.To (settings : Config.Service) (f : Failure) (x y : Follower) : Prop where
  follows : Follows settings f y
  nearer : y.rank settings < x.rank settings ∨ y.place = x.place

theorem changes_le (w : Watch) : changes w ≤ 2 := by
  cases w <;> simp [changes]

namespace Follows

theorem start (settings : Config.Service) (f : Failure) : Follows settings f (start settings) where
  faithful := .start settings.retry [] 0
  refused := .start settings.retry f
  probes_lt := probeLimit_pos settings
  lines := rfl
  past_le := Nat.le_refl _
  reach := ⟨nofun, Nat.zero_le _⟩

theorem stay (h : Follows settings f x) : To settings f x x := ⟨h, .inr rfl⟩

/-! ### The caller -/

/-- The caller or its connection have gone on, and the command has told nothing more. -/
theorem goOn (h : Follows settings f x) {z : Pursuit Endpoint} {probes : Nat} {w : Watch}
    (faithful : Pursuit.Faithful settings.retry z) (refused : Pursuit.Refused settings.retry f z)
    (more : x.connection.history.length ≤ z.run.connection.history.length)
    (few : probes < probeLimit settings) (reach : InReach ⟨z, probes, x.past, x.lines, w⟩) :
    Follows settings f ⟨z, probes, x.past, x.lines, w⟩ :=
  ⟨faithful, refused, few, h.lines, Nat.le_trans h.past_le more, reach⟩

theorem inVain_caller {looked : Option Side} (hl : looked ≠ some .caller) :
    ∃ l, inVain looked .caller = .waiting l ∧ allowance looked + 1 ≤ allowance l ∧
      allowance looked ≤ 1 := by
  match looked, hl with
  | none, _ => exact ⟨some .caller, rfl, Nat.le_refl _, Nat.le_refl _⟩
  | some .feed, _ => exact ⟨none, rfl, Nat.le_refl _, Nat.zero_le _⟩

theorem lookAtCaller (h : Follows settings f x) (hf : f.isRetryable = true) {looked : Option Side}
    (hw : x.watch = .waiting looked) (hl : looked ≠ some .caller) :
    To settings f x (x.lookAtCaller looked) ∧
      (x.pursuit.Ready → (x.lookAtCaller looked).rank settings < x.rank settings) := by
  have hr := h.reach
  simp only [InReach, hw] at hr
  obtain ⟨going, near⟩ := hr
  obtain ⟨l, hvain, hallow, hone⟩ := inVain_caller hl
  have hz := h.faithful.step .turn
  have ht := h.refused.turned h.faithful hf
  unfold Follower.lookAtCaller
  generalize x.pursuit.step .turn = z at hz ht ⊢
  rw [hvain]
  dsimp only
  cases ht with
  | stay idle =>
      split
      · exact absurd ‹_› (going _)
      · refine ⟨⟨h.goOn hz h.refused (Nat.le_refl _) h.probes_lt ⟨going, ?_⟩, .inr ?_⟩, (absurd · idle)⟩
        · exact Nat.le_trans near (Nat.add_le_add_left (Nat.le_of_succ_le hallow) _)
        · simp [place, hw, changes]
  | goOn refused known less =>
      have more : x.connection.history.length ≤ z.run.connection.history.length :=
        Nat.le_trans h.refused.length_history.2 (known ▸ refused.length_history.1)
      have nearer (w : Watch) : rank settings ⟨z, x.probes, x.past, x.lines, w⟩ < x.rank settings := by
        have := less (probeLimit settings) x.probes
        have := changes_le w
        have hx : changes x.watch = 2 := by rw [hw]; rfl
        simp only [rank, hx]
        omega
      split
      · rename_i result hs
        refine ⟨⟨h.goOn hz refused more h.probes_lt ⟨hs, ?_⟩, .inl (nearer _)⟩, fun _ => nearer _⟩
        simp only [known]
        omega
      · rename_i hs
        refine ⟨⟨h.goOn hz refused more h.probes_lt ⟨hs, ?_⟩, .inl (nearer _)⟩, fun _ => nearer _⟩
        simp only [known]
        omega

/-! ### The feed -/

theorem allowance_le (looked : Option Side) : allowance looked ≤ 2 := by
  rcases looked with _ | _ | _ <;> decide

/-- The command is never so far behind that the feed has dropped a step. -/
theorem near (h : Follows settings f x) (hk : x.pursuit.known ≤ x.past + 2) :
    x.connection.history.length ≤ x.past + Feed.capacity := by
  -- there is at most one step that the caller does not know of
  have hl : x.connection.history.length ≤ x.pursuit.known + 1 := h.refused.length_history.2
  have hc : 3 ≤ Feed.capacity := by decide
  omega

theorem tell (h : Follows settings f x) {t : Transition}
    (ht : x.connection.history.reverse[x.past]? = some t) {w : Watch} (hw : changes w = changes x.watch)
    (reach : InReach ⟨x.pursuit, x.probes, x.past + 1, x.lines ++ [Report.transition t], w⟩)
    (hy : y = ⟨x.pursuit, x.probes, x.past + 1, x.lines ++ [Report.transition t], w⟩) :
    Follows settings f y ∧ y.rank settings < x.rank settings := by
  subst hy
  obtain ⟨rest, hrest⟩ := h.refused.history_prefix_refusals
  have hlt : x.past < x.connection.history.length := by
    have := (List.getElem?_eq_some_iff.mp ht).1
    rwa [List.length_reverse] at this
  have hget : (refusals settings.retry.most)[x.past]? = some t := by
    rw [← hrest]
    exact (List.getElem?_append_left (by rwa [List.length_reverse])).trans ht
  refine ⟨⟨h.faithful, h.refused, h.probes_lt, ?_, hlt, reach⟩, ?_⟩
  · rw [h.lines, List.take_add_one, hget, List.map_append]
    rfl
  · have hmost : x.past < 2 * settings.retry.most := by
      have := h.refused.history_prefix_refusals.length_le
      rw [List.length_reverse, length_refusals] at this
      exact Nat.lt_of_lt_of_le hlt this
    simp only [rank, hw]
    omega

theorem lookAtFeed (h : Follows settings f x) {looked : Option Side}
    (hw : x.watch = .waiting looked) : To settings f x (x.lookAtFeed looked) := by
  have hr := h.reach
  simp only [InReach, hw] at hr
  obtain ⟨going, hk⟩ := hr
  have hle := allowance_le looked
  have hnear := h.near (by omega)
  unfold Follower.lookAtFeed
  by_cases hp : x.past < x.connection.history.length
  · obtain ⟨t, ht, hread⟩ := Feed.read_of_lt hp hnear
    rw [hread]
    obtain ⟨follows, nearer⟩ := h.tell ht (w := .waiting none) (by rw [hw]; rfl)
      ⟨going, by simp only [allowance]; omega⟩ rfl
    exact ⟨follows, .inl nearer⟩
  · rw [Feed.read_of_le (Nat.le_of_not_lt hp)]
    have known_le : x.pursuit.known ≤ x.past :=
      Nat.le_trans h.refused.length_history.1 (Nat.le_of_not_lt hp)
    refine ⟨h.goOn h.faithful h.refused (Nat.le_refl _) h.probes_lt
      ⟨going, Nat.le_trans known_le (Nat.le_add_right _ _)⟩, .inr ?_⟩
    simp [place, hw, inVain, changes]

theorem look (h : Follows settings f x) (hf : f.isRetryable = true) (side : Side) :
    To settings f x (x.look side) := by
  unfold Follower.look
  split
  · rename_i looked hw
    split
    · exact h.stay
    · rename_i hne
      cases side with
      | caller => exact (h.lookAtCaller hf hw hne).1
      | feed => exact h.lookAtFeed hw
  · exact h.stay

theorem drain (h : Follows settings f x) : To settings f x x.drain ∧
    ∀ result, x.watch = .draining result → x.drain.rank settings < x.rank settings := by
  unfold Follower.drain
  split
  · rename_i result hw
    have hr := h.reach
    simp only [InReach, hw] at hr
    obtain ⟨done, hk⟩ := hr
    have hnear := h.near hk
    by_cases hp : x.past < x.connection.history.length
    · obtain ⟨t, ht, hread⟩ := Feed.read_of_lt hp hnear
      rw [hread]
      obtain ⟨follows, nearer⟩ := h.tell ht (w := x.watch) rfl
        (by simp only [InReach, hw]; exact ⟨done, by omega⟩) rfl
      exact ⟨⟨follows, .inl nearer⟩, fun _ _ => nearer⟩
    · rw [Feed.read_of_le (Nat.le_of_not_lt hp)]
      have nearer : rank settings { x with watch := .ended (x.report result) } < x.rank settings := by
        have hx : changes x.watch = 1 := by rw [hw]; rfl
        simp only [rank, hx]
        exact Nat.lt_succ_self _
      exact ⟨⟨h.goOn h.faithful h.refused (Nat.le_refl _) h.probes_lt
        ⟨result, done, Nat.le_of_not_lt hp, rfl⟩, .inl nearer⟩, fun _ _ => nearer⟩
  · rename_i hne
    exact ⟨h.stay, fun result hw => absurd hw (hne result)⟩

/-! ### The start call -/

theorem waiting_of_going (h : Follows settings f x) (hs : ∀ result, x.pursuit.standing ≠ .done result) :
    ∃ looked, x.watch = .waiting looked ∧ x.pursuit.known ≤ x.past + allowance looked := by
  have hr := h.reach
  unfold InReach at hr
  split at hr
  · exact ⟨_, ‹_›, hr.2⟩
  · exact absurd hr.1 (hs _)
  · obtain ⟨_, done, -⟩ := hr
    exact absurd done (hs _)

/-- The start call goes on, and the caller has yet to see anything of it. -/
theorem call (h : Follows settings f x) (hs : ∀ result, x.pursuit.standing ≠ .done result)
    {z : Pursuit Endpoint} {probes : Nat} (faithful : Pursuit.Faithful settings.retry z)
    (refused : Pursuit.Refused settings.retry f z) (known : z.known = x.pursuit.known)
    (standing : z.standing = x.pursuit.standing)
    (more : x.connection.history.length ≤ z.run.connection.history.length)
    (few : probes < probeLimit settings)
    (less : z.effort settings.retry (probeLimit settings) probes <
      x.pursuit.effort settings.retry (probeLimit settings) x.probes)
    (hy : y = ⟨z, probes, x.past, x.lines, x.watch⟩) :
    Follows settings f y ∧ y.rank settings < x.rank settings := by
  subst hy
  obtain ⟨looked, hw, hk⟩ := h.waiting_of_going hs
  refine ⟨h.goOn faithful refused more few ?_, ?_⟩
  · simp only [InReach, hw, known, standing]
    exact ⟨hs, hk⟩
  · exact Nat.add_lt_add_right (Nat.add_lt_add_right less _) _

theorem begin (h : Follows settings f x) : To settings f x x.begin ∧
    (x.pursuit.run.canBegin x.connection.attempt = true → x.begin.rank settings < x.rank settings) := by
  unfold Follower.begin
  split
  · rename_i hb
    obtain ⟨refused, known, standing, history, less⟩ := h.refused.begin hb rfl
    obtain ⟨follows, nearer⟩ := h.call (h.refused.going (.inl hb)) (h.faithful.step _) refused known standing
      (Nat.le_of_eq (congrArg List.length history.symm)) (probeLimit_pos settings) (less _ _) rfl
    exact ⟨⟨follows, .inl nearer⟩, fun _ => nearer⟩
  · rename_i hb
    exact ⟨h.stay, (absurd · hb)⟩

theorem probe (h : Follows settings f x) (hstart : machine.start settings = .error f) :
    To settings f x (x.probe settings machine) ∧
      (x.pursuit.run.canEnd x.connection.attempt = true →
        (x.probe settings machine).rank settings < x.rank settings) := by
  unfold Follower.probe
  split
  · rename_i he
    have hs := h.refused.going (.inr he)
    rcases Machine.probe_of_start hstart x.probes with hprobe | ⟨hprobe, more⟩
    · rw [hprobe]
      obtain ⟨refused, known, standing, length, less⟩ := h.refused.finish he rfl
      obtain ⟨follows, nearer⟩ := h.call hs (h.faithful.step _) refused known standing length h.probes_lt
        (less _ _ h.probes_lt) rfl
      exact ⟨⟨follows, .inl nearer⟩, fun _ => nearer⟩
    · rw [hprobe]
      obtain ⟨follows, nearer⟩ := h.call hs h.faithful h.refused rfl rfl (Nat.le_refl _) more
        (h.refused.effort_probe he more) rfl
      exact ⟨⟨follows, .inl nearer⟩, fun _ => nearer⟩
  · rename_i he
    exact ⟨h.stay, (absurd · he)⟩

/-! ### One happening -/

/-- Whatever is done, the command keeps up, and comes nearer to its end or stays in its place. -/
theorem perform (h : Follows settings f x) (hstart : machine.start settings = .error f) (a : Act) :
    To settings f x (x.perform settings machine a) := by
  cases a with
  | look side => exact h.look (Machine.isRetryable_of_start hstart) side
  | drain => exact h.drain.1
  | begin => exact h.begin.1
  | probe => exact (h.probe hstart).1

theorem step (h : Follows settings f x) (hstart : machine.start settings = .error f) (e : Happening) :
    To settings f x (x.step settings machine e) := by
  cases e with
  | act a => exact h.perform hstart a
  | tick amount =>
      have refused := h.refused.tick amount
      exact ⟨h.goOn (h.faithful.step _) refused (Nat.le_refl _) h.probes_lt h.reach, .inr rfl⟩
  | lose =>
      -- there is no handle to be lost
      have hl := h.refused.lose x.connection.attempt
      simp only [Follower.step, hl]
      exact h.stay

theorem after (settings : Config.Service) (hstart : machine.start settings = .error f)
    (events : List Happening) : Follows settings f (after settings machine events) := by
  induction events using List.reverseRecOn with
  | nil => exact .start settings f
  | append_singleton events e ih =>
      rw [Follower.after, List.foldl_append]
      exact (ih.step hstart e).follows

theorem trace (settings : Config.Service) (hstart : machine.start settings = .error f)
    (σ : Nat → Happening) (n : Nat) : Follows settings f (trace settings machine σ n) := by
  induction n with
  | zero => exact .start settings f
  | succ n ih => exact (ih.step hstart (σ n)).follows

end Follows

end Swarmkeeper.CommandLine.Follower
