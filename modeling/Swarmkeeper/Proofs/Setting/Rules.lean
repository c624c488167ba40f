import Mathlib.Data.List.Induction
import Swarmkeeper.Setting.Circulation

/-!
# What an event can do to a setting in circulation

An event publishes a value, adds a reader, lets a reader see the current value, or changes nothing that
readers could notice. A reader is lent to one task at a time.
-/

namespace Swarmkeeper

theorem Wait.hasReader_iff {α : Type} {w : Wait α} {n : Nat} :
    w.hasReader n = true ↔ w = .pending (some n) := by
  cases w with
  | pending reader => cases reader <;> simp [hasReader]
  | done x => simp [hasReader]

namespace Circulation

variable {α : Type} {c c' : Circulation α} {e : Event α} {j k n : Nat} {r : Receiver} {x : α}

/-! ## Readers at hand -/

theorem lt_of_getElem? {β : Type} {l : List β} {b : β} (h : l[n]? = some b) : n < l.length :=
  (List.getElem?_eq_some_iff.mp h).1

/-- A reader can be used unless it is lent to a task that waits. -/
theorem free?_eq_some_iff :
    c.free? n = some r ↔ (∀ w ∈ c.waits, w ≠ .pending (some n)) ∧ c.readers[n]? = some r := by
  have hany : c.waits.any (·.hasReader n) = true ↔ ∃ w ∈ c.waits, w = .pending (some n) := by
    simp only [List.any_eq_true, Wait.hasReader_iff]
  unfold free?
  split
  · rename_i h
    obtain ⟨w, hw, he⟩ := hany.mp h
    exact ⟨nofun, fun hr => absurd he (hr.1 w hw)⟩
  · rename_i h
    exact ⟨fun hr => ⟨fun w hw he => h (hany.mpr ⟨w, hw, he⟩), hr⟩, And.right⟩

theorem free?_of_lent (h : c.waits[k]? = some (.pending (some n))) : c.free? n = none := by
  refine Option.eq_none_iff_forall_ne_some.mpr fun r hf => ?_
  exact (free?_eq_some_iff.mp hf).1 _ (List.mem_of_getElem? h) rfl

/-- The reader is behind the setting. -/
def IsBehind (c : Circulation α) (n : Nat) : Prop :=
  ∃ r, c.readers[n]? = some r ∧ r.isBehind c.setting = true

theorem isBehind_iff_any : c.IsBehind n ↔ (c.readers[n]?).any (·.isBehind c.setting) = true := by
  cases h : c.readers[n]? <;> simp [IsBehind, h]

/-- A task that finds its reader behind takes the value. -/
theorem turn_of_isBehind (hw : c.waits[k]? = some (.pending (some n))) (hb : c.IsBehind n) :
    c.turn k = { c.mark n with waits := c.waits.set k (.done c.setting.value) } := by
  simp only [turn, hw, isBehind_iff_any.mp hb, if_true]

/-- A task whose reader is up to date goes on waiting. -/
theorem turn_of_not_isBehind (hw : c.waits[k]? = some (.pending (some n))) (hb : ¬ c.IsBehind n) :
    c.turn k = c := by
  simp only [turn, hw, Bool.eq_false_iff.mpr (mt isBehind_iff_any.mpr hb), Bool.false_eq_true, if_false]

theorem turn_of_not_waiting (h : ∀ n, c.waits[k]? ≠ some (.pending (some n))) : c.turn k = c := by
  unfold turn
  split
  · exact absurd ‹_› (h _)
  · rfl

/-- What is lent is there, and to one task only. -/
structure Lent (c : Circulation α) : Prop where
  there : ∀ k n : Nat, c.waits[k]? = some (.pending (some n)) → n < c.readers.length
  once : ∀ j k n : Nat, c.waits[j]? = some (.pending (some n)) →
    c.waits[k]? = some (.pending (some n)) → j = k

/-! ## Publications and marks -/

variable [BEq α]

/-- What a request publishes when this is the current value: `set` and `update` always something, be it equal
to the current value, and `setIfChanged` only what differs from it. -/
def Request.published? (current : α) : Request α → Option α
  | .set x => some x
  | .update f => some (f current)
  | .setIfChanged x => if current == x then none else some x
  | .clone | .sample | .subscribe => none

/-- What an event publishes. -/
def published? (c : Circulation α) : Event α → Option α
  | .ask h request => if h < c.holders then request.published? c.setting.value else none
  | _ => none

theorem published?_ask {h : Nat} (hh : h < c.holders) (request : Request α) :
    c.published? (.ask h request) = request.published? c.setting.value :=
  if_pos hh

/-- A request that is refused publishes nothing. -/
theorem published?_ask_of_none {request : Request α} (h : Nat)
    (hr : request.published? c.setting.value = none) : c.published? (.ask h request) = none := by
  rw [published?, hr, ite_self]

/-- Who has the reader has seen the current value, by a look at it or because a task that waits with the
reader had a turn. -/
inductive Marks (c : Circulation α) : Event α → Nat → Prop where
  | read {n : Nat} (h : (c.free? n).isSome = true) : Marks c (.read n) n
  | turn {k n : Nat} (h : c.waits[k]? = some (.pending (some n))) : Marks c (.turn k) n

/-! ## Rules -/

/-- What an event can do. -/
inductive Rule (c : Circulation α) : Event α → Circulation α → Prop where
  /-- Nobody can notice the event. -/
  | stay {e : Event α} (hp : c.published? e = none) (hm : ∀ n, c.Marks e n → ¬ c.IsBehind n)
      (hc : ∀ n, e = .clone n → c.free? n = none) : Rule c e c
  | share {h : Nat} : Rule c (.ask h .clone) { c with holders := c.holders + 1 }
  | publish {h : Nat} {request : Request α} {x : α} (hp : c.published? (.ask h request) = some x) :
      Rule c (.ask h request) { c with setting := c.setting.set x }
  | subscribe {h : Nat} :
      Rule c (.ask h .subscribe) { c with readers := c.readers ++ [.ofSetting c.setting] }
  | read {n : Nat} {r : Receiver} (hf : c.free? n = some r) : Rule c (.read n) (c.mark n)
  | clone {n : Nat} {r : Receiver} (hf : c.free? n = some r) :
      Rule c (.clone n) { c with readers := c.readers ++ [r] }
  | wait {n : Nat} {r : Receiver} (hf : c.free? n = some r) :
      Rule c (.wait n) { c with waits := c.waits ++ [.pending (some n)] }
  | giveUp {k : Nat} : Rule c (.giveUp k) { c with waits := c.waits.modify k Wait.givenUp }
  | find {k n : Nat} (hw : c.waits[k]? = some (.pending (some n))) (hb : c.IsBehind n) :
      Rule c (.turn k) { c.mark n with waits := c.waits.set k (.done c.setting.value) }

/-- A request publishes a value, adds a holder or a reader, or changes nothing. -/
theorem ask_rule (c : Circulation α) {h : Nat} (hh : h < c.holders) (request : Request α) :
    Rule c (.ask h request) (c.ask request).2 := by
  have hp (x : α) (hx : request.published? c.setting.value = some x) :
      c.published? (.ask h request) = some x := (published?_ask hh request).trans hx
  cases request with
  | clone => exact .share
  | sample => exact .stay (published?_ask_of_none h rfl) nofun nofun
  | set x => exact .publish (hp x rfl)
  | update f => exact .publish (hp (f c.setting.value) rfl)
  | setIfChanged x =>
      by_cases hx : (c.setting.value == x) = true
      · have hn : c.published? (.ask h (.setIfChanged x)) = none :=
          published?_ask_of_none h (if_pos hx)
        simpa [ask, Setting.setIfChanged, hx] using Rule.stay hn nofun nofun
      · simpa [ask, Setting.setIfChanged, hx] using
          Rule.publish (hp x (if_neg hx))
  | subscribe => exact .subscribe

/-- A reader that is not at hand cannot be used. -/
theorem use_rule (c : Circulation α) {f : Receiver → Answer α × Circulation α}
    (hp : c.published? e = none) (hm : ∀ m, c.Marks e m → m = n ∧ (c.free? m).isSome = true)
    (hc : ∀ m, e = .clone m → m = n) (hf : ∀ r, c.free? n = some r → Rule c e (f r).2) :
    Rule c e (c.use n f).2 := by
  unfold use
  split
  · exact hf _ ‹_›
  · rename_i hn
    refine .stay hp (fun m hmark => ?_) fun m hclone => hc m hclone ▸ hn
    obtain ⟨rfl, hsome⟩ := hm m hmark
    rw [hn] at hsome
    cases hsome

/-- Every event follows one of the rules. -/
theorem step_rule (c : Circulation α) (e : Event α) : Rule c e (c.step e).2 := by
  cases e with
  | ask h request =>
      simp only [step]
      split
      · exact ask_rule c ‹_› request
      · rename_i hh
        exact .stay (by rw [published?, if_neg hh]) nofun nofun
  | hasChanged n => exact use_rule c rfl nofun nofun fun r _ => .stay rfl nofun nofun
  | peek n => exact use_rule c rfl nofun nofun fun r _ => .stay rfl nofun nofun
  | read n =>
      refine use_rule c rfl (fun m hm => ?_) nofun fun r hf => .read hf
      cases hm with
      | read h => exact ⟨rfl, h⟩
  | clone n => exact use_rule c rfl nofun (fun m hm => by cases hm; rfl) fun r hf => .clone hf
  | wait n => exact use_rule c rfl nofun nofun fun r hf => .wait hf
  | giveUp k => exact .giveUp
  | turn k =>
      simp only [step]
      by_cases hw : ∃ n, c.waits[k]? = some (.pending (some n))
      · obtain ⟨n, hw⟩ := hw
        by_cases hb : c.IsBehind n
        · rw [turn_of_isBehind hw hb]
          exact .find hw hb
        · rw [turn_of_not_isBehind hw hb]
          refine .stay rfl (fun m hm => ?_) nofun
          cases hm with
          | turn h =>
              cases hw.symm.trans h
              exact hb
      · rw [turn_of_not_waiting fun n hn => hw ⟨n, hn⟩]
        refine .stay rfl (fun m hm => ?_) nofun
        cases hm with
        | turn h => exact absurd ⟨m, h⟩ hw

/-! ## Tasks -/

/-- A task waits until it has a turn or is given up. -/
theorem Rule.pending (h : Rule c e c') (ht : e ≠ .turn k) (hg : e ≠ .giveUp k)
    (hw : c.waits[k]? = some (.pending (some n))) : c'.waits[k]? = some (.pending (some n)) := by
  cases h with
  | wait hf => exact (List.getElem?_append_left (lt_of_getElem? hw)).trans hw
  | giveUp =>
      rename_i j
      have hj : j ≠ k := fun hj => hg (hj ▸ rfl)
      simp [hj, hw]
  | find =>
      rename_i j m _ _
      have hj : j ≠ k := fun hj => ht (hj ▸ rfl)
      simp [hj, hw]
  | _ => exact hw

/-- What a task has found stays. -/
theorem Rule.done (h : Rule c e c') (hw : c.waits[k]? = some (.done x)) :
    c'.waits[k]? = some (.done x) := by
  cases h with
  | wait hf => exact (List.getElem?_append_left (lt_of_getElem? hw)).trans hw
  | giveUp =>
      rename_i j
      rw [List.getElem?_modify, hw]
      split <;> rfl
  | find hj =>
      rename_i j m _
      have hne : j ≠ k := by
        rintro rfl
        cases hj.symm.trans hw
      simp [hne, hw]
  | _ => exact hw

/-- Readers never go away. -/
theorem Rule.length_readers_le (h : Rule c e c') : c.readers.length ≤ c'.readers.length := by
  cases h <;> simp [mark]

/-- A task that waits after an event waited before it, or the event has lent it a free reader. -/
theorem Rule.waited (h : Rule c e c') (hw : c'.waits[k]? = some (.pending (some n))) :
    c.waits[k]? = some (.pending (some n)) ∨ (k = c.waits.length ∧ (c.free? n).isSome = true) := by
  cases h with
  | wait hf =>
      rename_i m r
      rcases Nat.lt_or_ge k c.waits.length with hk | hk
      · exact .inl ((List.getElem?_append_left hk).symm.trans hw)
      · have hlast : k = c.waits.length := by
          have hlt := lt_of_getElem? hw
          rw [List.length_append, List.length_singleton] at hlt
          omega
        subst hlast
        rw [List.getElem?_concat_length] at hw
        cases hw
        exact .inr ⟨rfl, by rw [hf]; rfl⟩
  | giveUp =>
      rename_i j
      refine .inl ?_
      rw [List.getElem?_modify] at hw
      split at hw
      · cases hk : c.waits[k]? with
        | none => rw [hk] at hw; cases hw
        | some w => rw [hk] at hw; cases w <;> cases hw
      · simpa using hw
  | find hj =>
      rename_i j m _
      refine .inl ?_
      rw [List.getElem?_set] at hw
      split at hw
      · split at hw <;> cases hw
      · exact hw
  | _ => exact .inl hw

/-- No reader is lent twice. -/
theorem Rule.lent (h : Rule c e c') (hc : c.Lent) : c'.Lent := by
  constructor
  · intro k n hw
    refine Nat.lt_of_lt_of_le ?_ h.length_readers_le
    rcases h.waited hw with hw | ⟨-, hf⟩
    · exact hc.there k n hw
    · obtain ⟨r, hf⟩ := Option.isSome_iff_exists.mp hf
      exact lt_of_getElem? (free?_eq_some_iff.mp hf).2
  · intro j k n hj hk
    rcases h.waited hj with hj | ⟨rfl, hjf⟩ <;> rcases h.waited hk with hk | ⟨rfl, hkf⟩
    · exact hc.once j k n hj hk
    · rw [free?_of_lent hj] at hkf
      cases hkf
    · rw [free?_of_lent hk] at hjf
      cases hjf
    · rfl

/-! ## Runs -/

variable {past events : List (Event α)}

theorem run_append (c : Circulation α) (past events : List (Event α)) :
    c.run (past ++ events) = (c.run past).run events :=
  List.foldl_append ..

theorem run_concat (c : Circulation α) (past : List (Event α)) (e : Event α) :
    c.run (past ++ [e]) = ((c.run past).step e).2 :=
  run_append c past [e]

/-- So in every run each reader is lent to one task at most. -/
theorem lent_run (x : α) (events : List (Event α)) : ((ofValue x).run events).Lent := by
  induction events using List.reverseRecOn with
  | nil => exact ⟨nofun, nofun⟩
  | append_singleton past e ih =>
      rw [run_concat]
      exact (step_rule _ e).lent ih

end Circulation

end Swarmkeeper
