import Swarmkeeper.Proofs.Service.Turn

/-!
# The shape of a history

A history is a sequence of chapters, one for each attempt. A chapter begins with the step into the
connecting phase and goes on with the way out of it; only a handle that was found can be lost
afterwards. No chapter but the last is unfinished.
-/

namespace Swarmkeeper.Service

variable {η : Type}

/-! ## Chapters -/

theorem Phase.canBecome_connecting {x : Phase} :
    x.canBecome .connecting = true ↔ x = .idle ∨ x = .failed ∨ x = .disconnected := by
  cases x <;> simp [canBecome]

/-- How far an attempt has come. -/
inductive Course where
  | underWay
  | abandoned
  | failed
  | preempted
  | connected
  /-- The attempt gave a handle, which was lost. -/
  | parted
deriving DecidableEq, Repr

namespace Course

/-- The steps of an attempt after its first one. -/
def steps (n : Nat) : Course → List Transition
  | underWay => []
  | abandoned => [⟨.connecting, .idle, n⟩]
  | failed => [⟨.connecting, .failed, n⟩]
  | preempted => [⟨.connecting, .disconnected, n⟩]
  | connected => [⟨.connecting, .connected, n⟩]
  | parted => [⟨.connecting, .connected, n⟩, ⟨.connected, .disconnected, n⟩]

/-- Where an attempt leaves the connection. -/
def phase : Course → Phase
  | underWay => .connecting
  | abandoned => .idle
  | failed => .failed
  | preempted | parted => .disconnected
  | connected => .connected

def isOver : Course → Bool
  | underWay | connected => false
  | abandoned | failed | preempted | parted => true

theorem eq_underWay {c : Course} (h : c.phase = .connecting) : c = underWay := by
  cases c <;> first | rfl | cases h

theorem eq_connected {c : Course} (h : c.phase = .connected) : c = connected := by
  cases c <;> first | rfl | cases h

theorem isOver_of_canBecome {c : Course} (h : c.phase.canBecome .connecting = true) :
    c.isOver = true := by
  cases c <;> first | rfl | cases h

/-- Every way out of the connecting phase is a course that an attempt can take. -/
theorem exists_of_canBecome {y : Phase} (h : Phase.connecting.canBecome y = true) (n : Nat) :
    ∃ c : Course, c.phase = y ∧ c.steps n = [⟨.connecting, y, n⟩] := by
  cases y with
  | idle => exact ⟨abandoned, rfl, rfl⟩
  | connecting => cases h
  | connected => exact ⟨connected, rfl, rfl⟩
  | disconnected => exact ⟨preempted, rfl, rfl⟩
  | failed => exact ⟨failed, rfl, rfl⟩

end Course

/-- An attempt, and where the connection was before it. -/
structure Chapter where
  origin : Phase
  course : Course
deriving DecidableEq, Repr

namespace Chapter

/-- The steps of the attempt of this number. -/
def steps (n : Nat) (c : Chapter) : List Transition :=
  ⟨c.origin, .connecting, n⟩ :: c.course.steps n

/-- The steps of the first attempt, the second, and so on. -/
def story (cs : List Chapter) : List Transition := (cs.mapIdx fun i c => c.steps (i + 1)).flatten

/-- The last chapter is told at the end. -/
theorem story_concat (cs : List Chapter) (c : Chapter) :
    story (cs ++ [c]) = story cs ++ c.steps (cs.length + 1) := by
  simp [story]

/-- What happens in the open chapter is told at the end as well. -/
theorem story_go_on {cs : List Chapter} {origin : Phase} {c d : Course} {t : Transition}
    (h : d.steps (cs.length + 1) = c.steps (cs.length + 1) ++ [t]) :
    story (cs ++ [⟨origin, d⟩]) = story (cs ++ [⟨origin, c⟩]) ++ [t] := by
  rw [story_concat, story_concat, List.append_assoc, steps, steps, h, List.cons_append]

end Chapter

/-- Steps that lead from one phase to another, each from where the one before it has ended. -/
def Leads : Phase → List Transition → Phase → Prop
  | x, [], y => x = y
  | x, t :: ts, y => t.source = x ∧ Leads t.target ts y

theorem leads_concat {x y : Phase} {ts : List Transition} {t : Transition} :
    Leads x (ts ++ [t]) y ↔ Leads x ts t.source ∧ t.target = y := by
  induction ts generalizing x with
  | nil => simp [Leads, eq_comm]
  | cons u ts ih => simp [Leads, ih, and_assoc]

/-! ## Chronicles -/

/-- The histories that lead to a number of attempts and a phase, latest step first. -/
inductive Chronicle : Nat → Phase → List Transition → Prop where
  | blank : Chronicle 0 .idle []
  | set_out {n x ts} (h : Chronicle n x ts) (hx : x.canBecome .connecting = true) :
      Chronicle (n + 1) .connecting (⟨x, .connecting, n + 1⟩ :: ts)
  | arrive {n y ts} (h : Chronicle n .connecting ts) (hy : Phase.connecting.canBecome y = true) :
      Chronicle n y (⟨.connecting, y, n⟩ :: ts)
  | part {n ts} (h : Chronicle n .connected ts) :
      Chronicle n .disconnected (⟨.connected, .disconnected, n⟩ :: ts)

namespace Chronicle

/-- No step of a chronicle belongs to an attempt that is still to come. -/
theorem attempt_le {n x ts} (h : Chronicle n x ts) : ∀ t ∈ ts, t.attempt ≤ n := by
  induction h with
  | blank => simp
  | set_out _ _ ih =>
      intro t ht
      rcases List.mem_cons.mp ht with rfl | ht
      · exact Nat.le_refl _
      · exact Nat.le_succ_of_le (ih t ht)
  | arrive _ _ ih | part _ ih =>
      intro t ht
      rcases List.mem_cons.mp ht with rfl | ht
      · exact Nat.le_refl _
      · exact ih t ht

theorem leads {n x ts} (h : Chronicle n x ts) : Leads .idle ts.reverse x := by
  induction h with
  | blank => rfl
  | set_out _ _ ih | arrive _ _ ih | part _ ih =>
      rw [List.reverse_cons, leads_concat]
      exact ⟨ih, rfl⟩

/-- Chapters that tell a chronicle, with the last one apart: it says where the connection is. -/
theorem exists_chapters {n x ts} (h : Chronicle n x ts) :
    (n = 0 ∧ x = .idle ∧ ts = []) ∨
    ∃ (cs : List Chapter) (c : Chapter), n = cs.length + 1 ∧ c.course.phase = x ∧
      ts.reverse = Chapter.story (cs ++ [c]) ∧ c.origin.canBecome .connecting = true ∧
      ∀ d ∈ cs, d.origin.canBecome .connecting = true ∧ d.course.isOver = true := by
  induction h with
  | blank => exact .inl ⟨rfl, rfl, rfl⟩
  | set_out h hx ih =>
      right
      rcases ih with ⟨rfl, rfl, rfl⟩ | ⟨cs, c, rfl, rfl, hts, hc, hcs⟩
      · exact ⟨[], ⟨.idle, .underWay⟩, rfl, rfl, rfl, rfl, by simp⟩
      · refine ⟨cs ++ [c], ⟨c.course.phase, .underWay⟩, by simp, rfl, ?_, hx, ?_⟩
        · rw [List.reverse_cons, hts, Chapter.story_concat (cs ++ [c]), List.length_append]
          rfl
        · intro d hd
          rcases List.mem_append.mp hd with hd | hd
          · exact hcs d hd
          · rw [List.mem_singleton.mp hd]
            exact ⟨hc, Course.isOver_of_canBecome hx⟩
  | arrive h hy ih =>
      right
      rcases ih with ⟨_, hx, _⟩ | ⟨cs, ⟨origin, c⟩, rfl, hphase, hts, hc, hcs⟩
      · cases hx
      · obtain rfl := Course.eq_underWay hphase
        obtain ⟨d, hd, hsteps⟩ := Course.exists_of_canBecome hy (cs.length + 1)
        refine ⟨cs, ⟨origin, d⟩, rfl, hd, ?_, hc, hcs⟩
        rw [List.reverse_cons, hts]
        exact (Chapter.story_go_on hsteps).symm
  | part h ih =>
      right
      rcases ih with ⟨_, hx, _⟩ | ⟨cs, ⟨origin, c⟩, rfl, hphase, hts, hc, hcs⟩
      · cases hx
      · obtain rfl := Course.eq_connected hphase
        refine ⟨cs, ⟨origin, .parted⟩, rfl, rfl, ?_, hc, hcs⟩
        rw [List.reverse_cons, hts]
        exact (Chapter.story_go_on rfl).symm

theorem source_eq_connecting {n x ts} (h : Chronicle n x ts) :
    ∀ t ∈ ts, t.target = .connected ∨ t.target = .failed → t.source = .connecting := by
  induction h with
  | blank => simp
  | set_out _ _ ih | arrive _ _ ih | part _ ih =>
      intro t ht
      rcases List.mem_cons.mp ht with rfl | ht
      · simp
      · exact ih t ht

theorem target_eq_connecting {n x ts} (h : Chronicle n x ts) (hx : x = .connecting) :
    ∀ t ∈ ts, t.attempt = n → t.target = .connecting := by
  cases h with
  | blank => cases hx
  | set_out h _ =>
      intro t ht htn
      rcases List.mem_cons.mp ht with rfl | ht
      · rfl
      · have := h.attempt_le t ht
        omega
  | arrive _ hy =>
      subst hx
      cases hy
  | part _ => cases hx

/-- An attempt connects or fails once at most. -/
theorem countP_le_one {n x ts} (h : Chronicle n x ts) (m : Nat) :
    ts.countP (fun t => t.attempt = m ∧ (t.target = .connected ∨ t.target = .failed)) ≤ 1 := by
  induction h with
  | blank => simp
  | set_out _ _ ih | part _ ih => simpa using ih
  | @arrive n y ts h _ ih =>
      by_cases hm : n = m
      · subst hm
        have hzero : ts.countP
            (fun t => t.attempt = n ∧ (t.target = .connected ∨ t.target = .failed)) = 0 := by
          rw [List.countP_eq_zero]
          intro t ht htn
          simp only [decide_eq_true_eq] at htn
          have := h.target_eq_connecting rfl t ht htn.1
          simp [this] at htn
        rw [List.countP_cons, hzero]
        split <;> omega
      · simpa [hm] using ih

/-- Each attempt begins with one step into the connecting phase. -/
theorem countP_target_connecting {n x ts} (h : Chronicle n x ts) :
    ts.countP (·.target = .connecting) = n := by
  induction h with
  | blank => rfl
  | set_out _ _ ih => simp [ih]
  | @arrive n y ts _ hy ih =>
      have hne : y ≠ .connecting := by
        rintro rfl
        cases hy
      simpa [hne] using ih
  | part _ ih => simpa using ih

end Chronicle

/-! ## Runs -/

namespace Run

variable {r r' : Run η}

def Chronicled (r : Run η) : Prop :=
  Chronicle r.connection.attempt r.connection.state.phase r.connection.history

/-- A turn begins a chapter, or goes on with the last one. -/
theorem Turn.chronicled (h : Turn r r') (hr : r.Chronicled) : r'.Chronicled := by
  unfold Chronicled at hr ⊢
  cases h with
  | quiet state attempt history _ =>
      rw [state, attempt, history]
      exact hr
  | start phase state attempt history _ =>
      rw [state, attempt, history]
      exact .set_out hr phase
  | settle o connecting state attempt history _ =>
      rw [state, attempt, history]
      rw [connecting] at hr
      exact .arrive hr (by cases o <;> rfl)
  | part connected state attempt history _ =>
      rw [state, attempt, history]
      rw [connected] at hr
      exact .part hr

/-- The history of a run is a chronicle. -/
theorem chronicled_after (events : List (Event η)) : (after events).Chronicled :=
  after_induction .blank (fun _ h hr => h.turn.chronicled hr) events

/-- The history of a run is a chain from idle to where the connection is, and falls into chapters for
the attempts 1, 2, 3 and so on; all but the last are over. -/
theorem history_eq_story (events : List (Event η)) :
    let c := (after events).connection
    Leads .idle c.history.reverse c.state.phase ∧
    (∃ chapters : List Chapter, c.history.reverse = Chapter.story chapters ∧
      chapters.length = c.attempt ∧
      (∀ d ∈ chapters, d.origin = .idle ∨ d.origin = .failed ∨ d.origin = .disconnected) ∧
      (∀ d ∈ chapters.dropLast, d.course.isOver = true) ∧
      ∀ d ∈ chapters.getLast?, d.course.phase = c.state.phase) ∧
    (∀ t ∈ c.history, t.target = .connected ∨ t.target = .failed → t.source = .connecting) ∧
    ∀ n, c.history.countP
      (fun t => t.attempt = n ∧ (t.target = .connected ∨ t.target = .failed)) ≤ 1 := by
  intro c
  have h : Chronicle c.attempt c.state.phase c.history := chronicled_after events
  refine ⟨h.leads, ?_, h.source_eq_connecting, h.countP_le_one⟩
  rcases h.exists_chapters with ⟨hn, _, hts⟩ | ⟨cs, d, hn, hphase, hts, hd, hcs⟩
  · exact ⟨[], by rw [hts]; rfl, hn.symm, by simp, by simp, by simp⟩
  · refine ⟨cs ++ [d], hts, by simp [hn], ?_, ?_, ?_⟩
    · intro e he
      rcases List.mem_append.mp he with he | he
      · exact Phase.canBecome_connecting.mp (hcs e he).1
      · rw [List.mem_singleton.mp he]
        exact Phase.canBecome_connecting.mp hd
    · rw [List.dropLast_concat]
      exact fun e he => (hcs e he).2
    · simp [hphase]

end Run

end Swarmkeeper.Service
