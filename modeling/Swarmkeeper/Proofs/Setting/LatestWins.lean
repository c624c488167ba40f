import Swarmkeeper.Proofs.Setting.Rules

/-!
# The latest value wins

Whoever looks at a setting is shown the value of the last publication. A reader is behind exactly if there
was a publication since it had last seen the value, so that it misses no change and is told of none twice. A
task that waits with such a reader is done when it next has a turn.
-/

namespace Swarmkeeper.Circulation

variable {α : Type}

/-! ## Readers and tasks at one moment -/

section

variable {c : Circulation α} {m n : Nat} {r : Receiver} {x : α}

theorem not_isBehind_ofSetting (s : Setting α) : (Receiver.ofSetting s).isBehind s = false := by
  simp [Receiver.isBehind, Receiver.ofSetting]

/-- A reader that looks is no longer behind, and the others are not concerned. -/
theorem isBehind_mark : (c.mark n).IsBehind m ↔ c.IsBehind m ∧ m ≠ n := by
  by_cases hm : m = n
  · subst hm
    refine ⟨?_, fun h => absurd rfl h.2⟩
    rintro ⟨r, hr, hb⟩
    rw [mark, List.getElem?_set_self'] at hr
    obtain ⟨_, _, rfl⟩ := Option.map_eq_some_iff.mp hr
    exact absurd hb (by simp [mark, not_isBehind_ofSetting])
  · simp [IsBehind, mark, Ne.symm hm, hm]

theorem isBehind_concat : ({ c with readers := c.readers ++ [r] } : Circulation α).IsBehind m ↔
    c.IsBehind m ∨ (m = c.readers.length ∧ r.isBehind c.setting = true) := by
  rcases Nat.lt_trichotomy m c.readers.length with hm | rfl | hm
  · simp [IsBehind, List.getElem?_append_left hm, Nat.ne_of_lt hm]
  · simp [IsBehind]
  · have hnone : c.readers[m]? = none := List.getElem?_eq_none (Nat.le_of_lt hm)
    have hnone' : (c.readers ++ [r])[m]? = none := List.getElem?_eq_none (by simp; omega)
    simp [IsBehind, hnone, hnone', Nat.ne_of_gt hm]

/-- A publication is news to everybody. -/
theorem isBehind_set (h : ∀ r ∈ c.readers, r.seen ≤ c.setting.version) :
    ({ c with setting := c.setting.set x } : Circulation α).IsBehind n ↔ n < c.readers.length := by
  constructor
  · rintro ⟨r, hr, -⟩
    exact lt_of_getElem? hr
  · intro hn
    exact ⟨_, List.getElem?_eq_getElem hn,
      decide_eq_true (Nat.lt_succ_of_le (h _ (List.getElem_mem hn)))⟩

/-- No event of these is a turn of the task or gives it up. -/
def Spares (k : Nat) (events : List (Event α)) : Prop := ∀ e ∈ events, e ≠ .turn k ∧ e ≠ .giveUp k

theorem spares_turns {k : Nat} {ks : List Nat} (h : k ∉ ks) :
    Spares k (ks.map .turn : List (Event α)) := by
  intro e he
  obtain ⟨j, hj, rfl⟩ := List.mem_map.mp he
  exact ⟨fun hjk => h (by cases hjk; exact hj), nofun⟩

end

variable [BEq α]

/-! ## What a run has published -/

/-- What these events publish, the newest value last. -/
def publications (c : Circulation α) : List (Event α) → List α
  | [] => []
  | e :: events => (c.published? e).toList ++ (c.step e).2.publications events

/-- A setting that began with this value, after these events. -/
def after (x : α) (events : List (Event α)) : Circulation α := (ofValue x).run events

/-- The value of the last publication, or the first value if there was none. -/
def latest (x : α) (events : List (Event α)) : α := ((ofValue x).publications events).getLastD x

/-- Something was published since the reader was last marked. What is news to a reader is news to its
clone. -/
inductive Unseen (x : α) : List (Event α) → Nat → Prop where
  | publish {past : List (Event α)} {e : Event α} {n : Nat} (hn : n < (after x past).readers.length)
      (hp : ((after x past).published? e).isSome = true) : Unseen x (past ++ [e]) n
  | keep {past : List (Event α)} {e : Event α} {n : Nat} (h : Unseen x past n)
      (hm : ¬ (after x past).Marks e n) : Unseen x (past ++ [e]) n
  | clone {past : List (Event α)} {m : Nat} (h : Unseen x past m)
      (hf : ((after x past).free? m).isSome = true) :
      Unseen x (past ++ [.clone m]) (after x past).readers.length

variable {c c' : Circulation α} {e : Event α} {x y : α} {past events later : List (Event α)} {k m n : Nat}

theorem publications_append (c : Circulation α) (past events : List (Event α)) :
    c.publications (past ++ events) = c.publications past ++ (c.run past).publications events := by
  induction past generalizing c with
  | nil => rfl
  | cons e past ih =>
      rw [List.cons_append, publications, publications, ih, List.append_assoc]
      rfl

theorem after_append (x : α) (past events : List (Event α)) :
    after x (past ++ events) = (after x past).run events :=
  run_append ..

theorem after_concat (x : α) (past : List (Event α)) (e : Event α) :
    after x (past ++ [e]) = ((after x past).step e).2 :=
  run_concat ..

/-- The latest value is that of the last publication, if there was one. -/
theorem latest_concat (x : α) (past : List (Event α)) (e : Event α) :
    latest x (past ++ [e]) = ((after x past).published? e).getD (latest x past) := by
  have hlast : (ofValue x).publications (past ++ [e]) =
      (ofValue x).publications past ++ ((after x past).published? e).toList := by
    rw [publications_append, publications, publications, List.append_nil, after]
  rw [latest, hlast]
  cases (after x past).published? e with
  | none => simp [latest]
  | some y => simp

/-- What is news to whom after an event, if this was news to whom before. -/
def Spread (c : Circulation α) (e : Event α) (news : Nat → Prop) (n : Nat) : Prop :=
  ((c.published? e).isSome = true ∧ n < c.readers.length) ∨ (news n ∧ ¬ c.Marks e n) ∨
    ∃ m, e = .clone m ∧ (c.free? m).isSome = true ∧ news m ∧ n = c.readers.length

/-- What is news to a reader after one more event. -/
theorem unseen_concat : Unseen x (past ++ [e]) n ↔ (after x past).Spread e (Unseen x past) n := by
  constructor
  · intro h
    generalize hl : past ++ [e] = events at h
    cases h with
    | publish hn hp =>
        obtain ⟨rfl, he⟩ := List.append_inj' hl rfl
        cases he
        exact .inl ⟨hp, hn⟩
    | keep h hm =>
        obtain ⟨rfl, he⟩ := List.append_inj' hl rfl
        cases he
        exact .inr (.inl ⟨h, hm⟩)
    | clone h hf =>
        obtain ⟨rfl, he⟩ := List.append_inj' hl rfl
        cases he
        exact .inr (.inr ⟨_, rfl, hf, h, rfl⟩)
  · rintro (⟨hp, hn⟩ | ⟨h, hm⟩ | ⟨m, rfl, hf, h, rfl⟩)
    · exact .publish hn hp
    · exact .keep h hm
    · exact .clone h hf

theorem spread_of_quiet {news : Nat → Prop} (hp : c.published? e = none)
    (hm : news n → ¬ c.Marks e n) (hc : ∀ m, e = .clone m → c.free? m = none) :
    c.Spread e news n ↔ news n := by
  constructor
  · rintro (⟨h, -⟩ | ⟨h, -⟩ | ⟨m, he, h, -⟩)
    · rw [hp] at h
      cases h
    · exact h
    · rw [hc m he] at h
      cases h
  · exact fun h => .inr (.inl ⟨h, hm h⟩)

/-- What is asked of a setting is seen by no reader. -/
theorem spread_ask {news : Nat → Prop} {h : Nat} {request : Request α}
    (hr : request.published? c.setting.value = none) :
    c.Spread (.ask h request) news n ↔ news n := by
  refine spread_of_quiet (published?_ask_of_none h hr) (fun _ hm => ?_) fun m he => ?_
  · cases hm
  · cases he

/-! ## Readers against publications -/

/-- The value changes by publication only. -/
theorem Rule.value_eq (h : Rule c e c') :
    c'.setting.value = (c.published? e).getD c.setting.value := by
  cases h with
  | stay hp => rw [hp]; rfl
  | publish hp => rw [hp]; rfl
  | share | subscribe => rw [published?_ask_of_none _ rfl]; rfl
  | _ => rfl

/-- Nobody has seen a version that is still to come. -/
theorem Rule.seen_le (h : Rule c e c') (hc : ∀ r ∈ c.readers, r.seen ≤ c.setting.version) :
    ∀ r ∈ c'.readers, r.seen ≤ c'.setting.version := by
  have hmark (n : Nat) : ∀ r ∈ (c.mark n).readers, r.seen ≤ c.setting.version := by
    intro r hr
    rcases List.mem_or_eq_of_mem_set hr with hr | rfl
    · exact hc r hr
    · exact Nat.le_refl _
  have hadd {s : Receiver} (hs : s.seen ≤ c.setting.version) :
      ∀ r ∈ c.readers ++ [s], r.seen ≤ c.setting.version := by
    intro r hr
    rcases List.mem_append.mp hr with hr | hr
    · exact hc r hr
    · rwa [List.mem_singleton.mp hr]
  cases h with
  | publish => exact fun r hr => Nat.le_succ_of_le (hc r hr)
  | subscribe => exact hadd (Nat.le_refl _)
  | clone hf => exact hadd (hc _ (List.mem_of_getElem? (free?_eq_some_iff.mp hf).2))
  | read => exact hmark _
  | find => exact hmark _
  | _ => exact hc

/-- Being behind spreads with an event as news does. -/
theorem Rule.isBehind_iff (h : Rule c e c') (hc : ∀ r ∈ c.readers, r.seen ≤ c.setting.version) :
    c'.IsBehind n ↔ c.Spread e c.IsBehind n := by
  -- A look and a found change are alike: one reader is marked, and there is no other news.
  have marked {j : Nat} (hb : c'.IsBehind n ↔ c.IsBehind n ∧ n ≠ j) (hp : c.published? e = none)
      (hm : c.Marks e n ↔ n = j) (he : ∀ m, e ≠ .clone m) : c'.IsBehind n ↔ c.Spread e c.IsBehind n := by
    rw [hb, Spread, hp, hm]
    simp [he]
  cases h with
  | stay hp hm hf => exact (spread_of_quiet hp (fun hb h => hm n h hb) hf).symm
  | share => exact (spread_ask rfl).symm
  | publish hp =>
      rw [isBehind_set hc, Spread, hp]
      constructor
      · exact fun hn => .inl ⟨rfl, hn⟩
      · rintro (⟨-, hn⟩ | ⟨⟨r, hr, -⟩, -⟩ | ⟨m, he, -⟩)
        · exact hn
        · exact lt_of_getElem? hr
        · cases he
  | subscribe =>
      rw [isBehind_concat, spread_ask rfl]
      simp [not_isBehind_ofSetting]
  | @read j r hf =>
      refine marked isBehind_mark rfl ⟨fun h => ?_, ?_⟩ fun m he => ?_
      · cases h
        rfl
      · rintro rfl
        exact .read (by rw [hf]; rfl)
      · cases he
  | @clone j r hf =>
      have hj : c.IsBehind j ↔ r.isBehind c.setting = true := by
        simp [IsBehind, (free?_eq_some_iff.mp hf).2]
      rw [isBehind_concat, Spread]
      constructor
      · rintro (h | ⟨hn, h⟩)
        · refine .inr (.inl ⟨h, fun hm => ?_⟩)
          cases hm
        · exact .inr (.inr ⟨j, rfl, by rw [hf]; rfl, hj.mpr h, hn⟩)
      · rintro (⟨h, -⟩ | ⟨h, -⟩ | ⟨m, he, -, h, hn⟩)
        · cases h
        · exact .inl h
        · cases he
          exact .inr ⟨hn, hj.mp h⟩
  | wait | giveUp =>
      refine (spread_of_quiet rfl (fun _ hm => ?_) fun m he => ?_).symm
      · cases hm
      · cases he
  | @find k j hw hb =>
      refine marked isBehind_mark rfl ⟨fun h => ?_, ?_⟩ fun m he => ?_
      · cases h with
        | turn h =>
            cases hw.symm.trans h
            rfl
      · rintro rfl
        exact .turn hw
      · cases he

/-- What holds of the setting and its readers after a run. -/
structure Sound (x : α) (events : List (Event α)) : Prop where
  value : (after x events).setting.value = latest x events
  seen_le : ∀ r ∈ (after x events).readers, r.seen ≤ (after x events).setting.version
  behind : ∀ n, (after x events).IsBehind n ↔ Unseen x events n

theorem unseen_nil (x : α) (n : Nat) : ¬ Unseen x [] n := by
  intro h
  generalize hl : ([] : List (Event α)) = events at h
  cases h <;> simp at hl

/-- After any events the versions tell what the events say: the latest value, and who has not seen it. -/
theorem sound (x : α) (events : List (Event α)) : Sound x events := by
  induction events using List.reverseRecOn with
  | nil => exact ⟨rfl, nofun, fun n => iff_of_false nofun (unseen_nil x n)⟩
  | append_singleton past e ih =>
      have h := step_rule (after x past) e
      constructor
      · rw [after_concat, latest_concat, h.value_eq, ih.value]
      · rw [after_concat]
        exact h.seen_le ih.seen_le
      · intro n
        rw [after_concat, h.isBehind_iff ih.seen_le, unseen_concat, funext fun m => propext (ih.behind m)]

/-! ## Waiting tasks -/

/-- A task that is given no turn waits on. -/
theorem pending_later (hw : (after x events).waits[k]? = some (.pending (some n)))
    (hk : Spares k later) : (after x (events ++ later)).waits[k]? = some (.pending (some n)) := by
  induction later using List.reverseRecOn with
  | nil => rwa [List.append_nil]
  | append_singleton later e ih =>
      obtain ⟨ht, hg⟩ := hk e (by simp)
      rw [← List.append_assoc, after_concat]
      exact (step_rule _ e).pending ht hg (ih fun e he => hk e (by simp [he]))

/-- A reader that is lent is marked by its own task only. -/
theorem not_marks (hw : (after x events).waits[k]? = some (.pending (some n))) (ht : e ≠ .turn k) :
    ¬ (after x events).Marks e n := by
  intro hm
  cases hm with
  | read h =>
      rw [free?_of_lent hw] at h
      cases h
  | @turn j _ hj => exact ht (by rw [(lent_run x events).once j k n hj hw])

/-- News stays news until the reader looks. -/
theorem unseen_later (hw : (after x events).waits[k]? = some (.pending (some n)))
    (hk : Spares k later) (h : Unseen x events n) : Unseen x (events ++ later) n := by
  induction later using List.reverseRecOn with
  | nil => rwa [List.append_nil]
  | append_singleton later e ih =>
      have hk' : Spares k later := fun e he => hk e (by simp [he])
      rw [← List.append_assoc]
      exact .keep (ih hk') (not_marks (pending_later hw hk') (hk e (by simp)).1)

/-- A publication is news to every reader that waits. -/
theorem unseen_of_published (hw : (after x events).waits[k]? = some (.pending (some n)))
    (hk : Spares k later) (hp : (after x events).publications later ≠ []) :
    Unseen x (events ++ later) n := by
  induction later using List.reverseRecOn with
  | nil => exact absurd rfl hp
  | append_singleton later e ih =>
      have hk' : Spares k later := fun e he => hk e (by simp [he])
      have hthere := (lent_run x (events ++ later)).there k n (pending_later hw hk')
      rw [← List.append_assoc, unseen_concat]
      -- The last event publishes something itself, or the task has its news from one before.
      by_cases he : (after x (events ++ later)).published? e = none
      · have hlater : (after x events).publications later ≠ [] := by
          rwa [publications_append, ← after_append, publications, publications, he,
            Option.toList_none, List.append_nil, List.append_nil] at hp
        exact .inr (.inl ⟨ih hk' hlater, not_marks (pending_later hw hk') (hk e (by simp)).1⟩)
      · exact .inl ⟨Option.isSome_iff_ne_none.mpr he, hthere⟩

/-- A task that is done stays done, with the value that it had seen. -/
theorem done_later (hw : (after x events).waits[k]? = some (.done y)) (later : List (Event α)) :
    (after x (events ++ later)).waits[k]? = some (.done y) := by
  induction later using List.reverseRecOn with
  | nil => rwa [List.append_nil]
  | append_singleton later e ih =>
      rw [← List.append_assoc, after_concat]
      exact (step_rule _ e).done ih

/-! ## A turn for every task -/

/-- A turn ends the wait exactly if there is news. -/
theorem waits_after_turn (hw : (after x events).waits[k]? = some (.pending (some n))) :
    (Unseen x events n → (after x (events ++ [.turn k])).waits[k]? = some (.done (latest x events))) ∧
    (¬ Unseen x events n → (after x (events ++ [.turn k])).waits[k]? = some (.pending (some n))) := by
  have hs := sound x events
  have hstep : after x (events ++ [.turn k]) = (after x events).turn k := after_concat ..
  constructor
  · intro h
    have hk := lt_of_getElem? hw
    rw [hstep, turn_of_isBehind hw ((hs.behind n).mpr h), ← hs.value]
    simp [hk]
  · intro h
    rw [hstep, turn_of_not_isBehind hw (mt (hs.behind n).mp h), hw]

theorem unseen_of_turns (ks : List Nat) (h : Unseen x (events ++ ks.map .turn) n) : Unseen x events n := by
  induction ks using List.reverseRecOn with
  | nil => rwa [List.map_nil, List.append_nil] at h
  | append_singleton ks k ih =>
      rw [List.map_append, ← List.append_assoc] at h
      rcases unseen_concat.mp h with ⟨hp, -⟩ | ⟨h, -⟩ | ⟨m, he, -⟩
      · cases hp
      · exact ih h
      · cases he

theorem latest_turns (x : α) (events : List (Event α)) (ks : List Nat) :
    latest x (events ++ ks.map .turn) = latest x events := by
  induction ks using List.reverseRecOn with
  | nil => rw [List.map_nil, List.append_nil]
  | append_singleton ks k ih =>
      rw [List.map_append, ← List.append_assoc]
      exact (latest_concat ..).trans ih

/-- These events and then a turn for every task. -/
def settled (x : α) (events : List (Event α)) : Circulation α :=
  after x (events ++ (after x events).settling)

/-- After a turn for everybody, just those tasks are done for which there was something new. -/
theorem waits_settled (hw : (after x events).waits[k]? = some (.pending (some n))) :
    (Unseen x events n → (settled x events).waits[k]? = some (.done (latest x events))) ∧
    (¬ Unseen x events n → (settled x events).waits[k]? = some (.pending (some n))) := by
  -- The task has one turn; those before it leave it as it is, and those after it undo nothing.
  have hmem : k ∈ List.range (after x events).waits.length := List.mem_range.mpr (lt_of_getElem? hw)
  obtain ⟨before, rest, hks⟩ := List.append_of_mem hmem
  have hnodup := List.nodup_range (n := (after x events).waits.length)
  rw [hks] at hnodup
  obtain ⟨hrest, hbefore⟩ : k ∉ rest ∧ k ∉ before := by
    rw [List.nodup_append, List.nodup_cons] at hnodup
    exact ⟨hnodup.2.1.1, fun hk => hnodup.2.2 k hk k List.mem_cons_self rfl⟩
  have hsettling : events ++ (after x events).settling =
      events ++ before.map .turn ++ [.turn k] ++ rest.map .turn := by
    simp [settling, hks]
  rw [settled, hsettling]
  have hwait := pending_later hw (spares_turns hbefore)
  obtain ⟨hnew, hold⟩ := waits_after_turn hwait
  rw [latest_turns] at hnew
  constructor
  · intro h
    exact done_later (hnew (unseen_later hw (spares_turns hbefore) h)) _
  · intro h
    exact pending_later (hold (mt (unseen_of_turns before) h)) (spares_turns hrest)

/-! ## Main statement -/

/-- The event publishes this value: it is the latest one from then on, and every reader is behind. -/
def Publishes (x : α) (events : List (Event α)) (e : Event α) (y : α) : Prop :=
  latest x (events ++ [e]) = y ∧
    ∀ n, n < (after x events).readers.length → (after x (events ++ [e])).IsBehind n

theorem publishes_of_published? (h : (after x events).published? e = some y) : Publishes x events e y := by
  refine ⟨by rw [latest_concat, h]; rfl, fun n hn => ?_⟩
  exact ((sound x (events ++ [e])).behind n).mpr (.publish hn (by rw [h]; rfl))

/-- What holders, readers and tasks of a setting can rely on after these events. -/
structure LatestWins (x : α) (events : List (Event α)) : Prop where
  /-- Whoever holds a clone and whoever has a reader is shown the last publication. -/
  sample : ∀ h, h < (after x events).holders →
    ((after x events).step (.ask h .sample)).1 = .value (latest x events)
  look : ∀ n r, (after x events).free? n = some r →
    ((after x events).step (.peek n)).1 = .value (latest x events) ∧
      ((after x events).step (.read n)).1 = .value (latest x events)
  behind : ∀ n, (after x events).IsBehind n ↔ Unseen x events n
  hasChanged : ∀ n r, (after x events).free? n = some r →
    ∃ b, ((after x events).step (.hasChanged n)).1 = .flag b ∧ (b = true ↔ Unseen x events n)
  marked : ∀ e n, (after x events).Marks e n → ¬ (after x (events ++ [e])).IsBehind n
  subscribe : ∀ h, h < (after x events).holders →
    (after x (events ++ [.ask h .subscribe])).readers.length = (after x events).readers.length + 1 ∧
      ¬ (after x (events ++ [.ask h .subscribe])).IsBehind (after x events).readers.length
  clone : ∀ n r, (after x events).free? n = some r →
    ((after x (events ++ [.clone n])).IsBehind (after x events).readers.length ↔ Unseen x events n)
  set : ∀ h y, h < (after x events).holders → Publishes x events (.ask h (.set y)) y
  update : ∀ h f, h < (after x events).holders →
    Publishes x events (.ask h (.update f)) (f (latest x events))
  setIfChanged : ∀ h y, h < (after x events).holders →
    if latest x events == y then
      ((after x events).step (.ask h (.setIfChanged y))).1 = .flag false ∧
        after x (events ++ [.ask h (.setIfChanged y)]) = after x events
    else
      ((after x events).step (.ask h (.setIfChanged y))).1 = .flag true ∧
        Publishes x events (.ask h (.setIfChanged y)) y
  wait : ∀ n r, (after x events).free? n = some r →
    (after x (events ++ [.wait n])).waits[(after x events).waits.length]? = some (.pending (some n))
  /-- When every task has a turn, just those are done for whose reader there was something new. -/
  settle : ∀ k n : Nat, (after x events).waits[k]? = some (.pending (some n)) →
    (Unseen x events n → (settled x events).waits[k]? = some (.done (latest x events))) ∧
      (¬ Unseen x events n → (settled x events).waits[k]? = some (.pending (some n)))
  /-- A publication before or during the wait is enough, whatever else happens until then. -/
  first : ∀ (k n : Nat) (later : List (Event α)),
    (after x events).waits[k]? = some (.pending (some n)) → Spares k later →
    Unseen x events n ∨ (after x events).publications later ≠ [] →
    (settled x (events ++ later)).waits[k]? = some (.done (latest x (events ++ later)))
  found : ∀ (k : Nat) (y : α) (later : List (Event α)), (after x events).waits[k]? = some (.done y) →
    (after x (events ++ later)).waits[k]? = some (.done y)

/-- After any requests of writers, receivers and waiters everybody sees the last value that was published,
and is behind exactly if it was published after he last looked. -/
theorem latest_wins (x : α) (events : List (Event α)) : LatestWins x events := by
  have hs := sound x events
  have hpublished {h : Nat} {request : Request α} {y : α} (hh : h < (after x events).holders)
      (hy : request.published? (latest x events) = some y) :
      Publishes x events (.ask h request) y :=
    publishes_of_published? (by rw [published?_ask hh, hs.value, hy])
  have hbehind (e : Event α) (n : Nat) :
      (after x (events ++ [e])).IsBehind n ↔ (after x events).Spread e (Unseen x events) n :=
    ((sound x (events ++ [e])).behind n).trans unseen_concat
  have hthere {n : Nat} (h : Unseen x events n) : n < (after x events).readers.length := by
    obtain ⟨r, hr, -⟩ := (hs.behind n).mpr h
    exact lt_of_getElem? hr
  constructor
  case sample =>
    intro h hh
    simp only [step, if_pos hh, ask, hs.value]
  case look =>
    intro n r hf
    simp only [step, use, hf, hs.value, and_self]
  case behind => exact hs.behind
  case hasChanged =>
    intro n r hf
    refine ⟨r.isBehind (after x events).setting, by simp only [step, use, hf], ?_⟩
    rw [← hs.behind n, IsBehind, (free?_eq_some_iff.mp hf).2]
    simp
  case marked =>
    intro e n hm hb
    rcases (hbehind e n).mp hb with ⟨hp, -⟩ | ⟨-, h⟩ | ⟨m, rfl, -⟩
    · cases hm <;> cases hp
    · exact h hm
    · cases hm
  case subscribe =>
    intro h hh
    refine ⟨by simp [after_concat, step, hh, ask], fun hb => ?_⟩
    rcases (hbehind _ _).mp hb with ⟨hp, -⟩ | ⟨h, -⟩ | ⟨m, he, -⟩
    · rw [published?_ask_of_none h rfl] at hp
      cases hp
    · exact absurd (hthere h) (Nat.lt_irrefl _)
    · cases he
  case clone =>
    intro n r hf
    rw [hbehind]
    constructor
    · rintro (⟨hp, -⟩ | ⟨h, -⟩ | ⟨m, he, -, h, -⟩)
      · cases hp
      · exact absurd (hthere h) (Nat.lt_irrefl _)
      · cases he
        exact h
    · exact fun h => .inr (.inr ⟨n, rfl, by rw [hf]; rfl, h, rfl⟩)
  case set => exact fun h y hh => hpublished hh rfl
  case update => exact fun h f hh => hpublished hh rfl
  case setIfChanged =>
    intro h y hh
    split
    · rename_i hy
      simp [after_concat, step, hh, ask, Setting.setIfChanged, hs.value, hy]
    · rename_i hy
      exact ⟨by simp [step, hh, ask, Setting.setIfChanged, hs.value, hy],
        hpublished hh (by rw [Request.published?, if_neg hy])⟩
  case wait =>
    intro n r hf
    simp [after_concat, step, use, hf]
  case settle => exact fun k n hw => waits_settled hw
  case first =>
    intro k n later hw hk hnews
    refine (waits_settled (pending_later hw hk)).1 ?_
    exact hnews.elim (unseen_later hw hk) (unseen_of_published hw hk)
  case found => exact fun k y later hw => done_later hw later

/-- A value that has changed and changed back is something new. -/
example : (settled 0 [.ask 0 .subscribe, .wait 0, .ask 0 (.set 1), .ask 0 (.set 0)]).waits = [.done 0] := by
  decide

end Swarmkeeper.Circulation
