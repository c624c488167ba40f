import Swarmkeeper.Proofs.Engine.Closing
import Swarmkeeper.Proofs.Engine.Departures

/-!
# What those who wait are given

Who waits for a construction is given what that construction came to, and nothing else. A construction that
fails leaves nothing behind: the next one who asks starts another, with the settings of that moment.
-/

namespace Swarmkeeper.Engine

namespace Cache

variable {c : Cache} {g : Nat}

/-- The construction that the slot speaks of exists. -/
theorem exists_build?_of_building (ht : c.slot.Tells c.builds)
    (hs : c.slot = .building g) : ∃ b, c.build? g = some b := by
  rw [hs] at ht
  generalize hc : c.builds = builds at ht
  cases ht with
  | @building bs b =>
      refine ⟨b, build?_eq_some.mpr ⟨by omega, ?_⟩⟩
      simp [hc]

theorem isAtWork_of_ending? {o : BuildOutcome} (ho : c.ending? g = some o)
    (hd : c.discarded = []) : c.isAtWork g = false := by
  have hu : c.isUnderWay g = false := by
    by_contra hn
    rw [ending?_of_isUnderWay (by simpa using hn)] at ho
    cases ho
  simp [isAtWork, hu, isHolding, hd]

end Cache

namespace Demand

variable {d d' : Demand} {e : Event} {kind : Kind} {events : List Event} {i g : Nat}

/-! ## The end of a construction -/

/-- After these first events the constructor of a construction that was under way gave this. -/
structure EndsWith (kind : Kind) (events : List Event) (g : Nat) (earlier : List Event)
    (r : Except Fault Nat) : Prop where
  happened : earlier ++ [.finish g r] <+: events
  isUnderWay : (after kind earlier).cache.isUnderWay g = true

/-- What a construction has come to for those who wait for it. -/
inductive Concluded (kind : Kind) (events : List Event) (g : Nat) : Except Fault Nat → Prop where
  | installed {earlier : List Event} {s : Nat} (he : EndsWith kind events g earlier (.ok s))
      (hs : (after kind earlier).cache.slot ≠ .closed) : Concluded kind events g (.ok s)
  /-- The slot had been emptied. -/
  | orphaned {earlier : List Event} {s : Nat} (he : EndsWith kind events g earlier (.ok s))
      (hs : (after kind earlier).cache.slot = .closed) : Concluded kind events g (.error (.closed kind))
  | failed {earlier : List Event} {f : Fault} (he : EndsWith kind events g earlier (.error f)) :
      Concluded kind events g (.error f)
  | panicked {earlier : List Event} {p : Panic}
      (he : EndsWith kind events g earlier (buildResult kind (.error p))) :
      Concluded kind events g (.error (.construction kind s!"constructor panicked: {p.reason}"))

theorem EndsWith.ending? {earlier : List Event} {r : Except Fault Nat}
    (h : EndsWith kind events g earlier r) :
    (after kind events).cache.ending? g = some ((after kind earlier).cache.verdict r) := by
  refine ending?_mono h.happened ?_
  rw [after_concat]
  exact ending?_finish (tells_after kind earlier) h.isUnderWay r

/-- An outcome is the verdict of the moment in which the construction ended. -/
theorem exists_endsWith {o : BuildOutcome} (ho : (after kind events).cache.ending? g = some o) :
    ∃ earlier r, EndsWith kind events g earlier r ∧ o = (after kind earlier).cache.verdict r := by
  induction events using List.reverseRecOn with
  | nil => simp [after, ofKind, Cache.ofKind, Cache.ending?, Cache.build?] at ho
  | append_singleton events e ih =>
      rw [after_concat] at ho
      rcases (step_rule _ e).ending?_new (tells_after kind events) ho with ho | ⟨r, rfl, hu, hr⟩
      · obtain ⟨earlier, r, he, hr⟩ := ih ho
        exact ⟨earlier, r, ⟨he.happened.trans (List.prefix_append _ _), he.isUnderWay⟩, hr⟩
      · exact ⟨events, r, ⟨List.prefix_refl _, hu⟩, hr⟩

/-- What the events say a construction came to is what the cache has noted. -/
theorem concluded_iff {r : Except Fault Nat} :
    Concluded kind events g r ↔
      ∃ o, (after kind events).cache.ending? g = some o ∧ o.result kind = r := by
  constructor
  · intro h
    cases h with
    | installed he hs => exact ⟨_, he.ending?, by simp [Cache.verdict, hs, BuildOutcome.result]⟩
    | orphaned he hs => exact ⟨_, he.ending?, by simp [Cache.verdict, hs, BuildOutcome.result]⟩
    | failed he | panicked he => exact ⟨_, he.ending?, rfl⟩
  · rintro ⟨o, ho, rfl⟩
    obtain ⟨earlier, r, he, rfl⟩ := exists_endsWith ho
    cases r with
    | error f => exact .failed he
    | ok s =>
        by_cases hs : (after kind earlier).cache.slot = .closed
        · simpa [Cache.verdict, hs, BuildOutcome.result] using Concluded.orphaned he hs
        · simpa [Cache.verdict, hs, BuildOutcome.result] using Concluded.installed he hs

/-- What a construction came to stays so. -/
theorem Concluded.mono {r : Except Fault Nat} (h : Concluded kind events g r) (more : List Event) :
    Concluded kind (events ++ more) g r := by
  obtain ⟨o, ho, hr⟩ := concluded_iff.mp h
  exact concluded_iff.mpr ⟨o, ending?_mono (List.prefix_append events more) ho, hr⟩

/-- A construction comes to one thing only. -/
theorem Concluded.unique {r t : Except Fault Nat} (hr : Concluded kind events g r)
    (ht : Concluded kind events g t) : r = t := by
  obtain ⟨o, ho, rfl⟩ := concluded_iff.mp hr
  obtain ⟨p, hp, rfl⟩ := concluded_iff.mp ht
  rw [ho] at hp
  rw [Option.some.inj hp]

/-! ## Those who wait -/

/-- Who waits, waits for a construction that there is. -/
def Awaits (d : Demand) : Prop :=
  ∀ i g : Nat, d.getters[i]? = some (.waiting g) → ∃ b, d.cache.build? g = some b

theorem Rule.awaits (h : Rule d e d') (ht : d.cache.slot.Tells d.cache.builds) (hd : d.Awaits) :
    d'.Awaits := by
  intro i g hy
  cases hx : d.getters[i]? with
  | none =>
      rcases h.newcomer hx hy with ⟨-, hy⟩ | ⟨-, hy⟩ <;> cases hy
  | some x =>
      obtain ⟨y, hy', hm⟩ := h.moves hx
      rw [hy] at hy'
      cases hy'
      cases hm with
      | stay =>
          obtain ⟨b, hb⟩ := hd i g hx
          obtain ⟨b', hb', -⟩ := h.build? hb
          exact ⟨b', hb'⟩
      | wait hs => exact Cache.exists_build?_of_building (h.tells ht) hs

/-- Whoever waits does so for a construction that was started. -/
theorem awaits_after (kind : Kind) (events : List Event) : (after kind events).Awaits :=
  after_induction_tells (fun i g hi => by simp [ofKind] at hi) (fun h ht hd => h.awaits ht hd) events

/-- Who waited for a construction waits still, has gone away, or was given what it came to. -/
theorem waiting_append (hi : (after kind events).getters[i]? = some (.waiting g)) (more : List Event) :
    (after kind (events ++ more)).getters[i]? = some (.waiting g) ∨
      (after kind (events ++ more)).getters[i]? = some .dropped ∧ .drop i ∈ more ∨
        ∃ r, (after kind (events ++ more)).result? i = some r ∧ Concluded kind (events ++ more) g r := by
  induction more using List.reverseRecOn with
  | nil => exact .inl (by rwa [List.append_nil])
  | append_singleton more e ih =>
      rw [← List.append_assoc, after_concat]
      have hrule := step_rule (after kind (events ++ more)) e
      rcases ih with hi | ⟨hi, he⟩ | ⟨r, hr, hc⟩
      · obtain ⟨y, hy, hm⟩ := hrule.moves hi
        cases hm with
        | stay => exact .inl hy
        | leave he => exact .inr (.inl ⟨hy, by simp [he]⟩)
        | @deliver _ o ho =>
            refine .inr (.inr ⟨_, result?_eq_some.mpr hy, Concluded.mono (concluded_iff.mpr ?_) [e]⟩)
            exact ⟨o, (Cache.outcome?_eq_some.mp ho).2, by rw [kind_after]⟩
      · obtain ⟨y, hy, hm⟩ := hrule.moves hi
        cases hm with
        | stay => exact .inr (.inl ⟨hy, List.mem_append_left _ he⟩)
      · exact .inr (.inr ⟨r, hrule.result? hr, hc.mono [e]⟩)

/-- Who waits is given what the construction came to as soon as it is no longer at work. -/
theorem deliver_waiting (hi : (after kind events).getters[i]? = some (.waiting g)) :
    (after kind events).cache.isAtWork g = true ∨
      ∃ r, Concluded kind events g r ∧ (after kind (events ++ [.deliver i])).result? i = some r := by
  cases ho : (after kind events).cache.outcome? g with
  | some o =>
      refine .inr ⟨o.result kind, concluded_iff.mpr ⟨o, (Cache.outcome?_eq_some.mp ho).2, rfl⟩, ?_⟩
      rw [after_concat, deliver_of_outcome hi ho, kind_after]
  | none =>
      refine .inl ?_
      obtain ⟨b, hb⟩ := awaits_after kind events i g hi
      cases hh : (after kind events).cache.isHolding (.construction g) with
      | true => simp [Cache.isAtWork, hh]
      | false =>
          have hbo : b.outcome = none := by simpa [Cache.outcome?, hh, hb] using ho
          simp [Cache.isAtWork, Cache.isUnderWay_iff.mpr ⟨b, hb, hbo⟩]

/-- A construction is over when its constructor has given something, but for closing a session that came
too late. -/
theorem over_of_finish (hu : (after kind events).cache.isUnderWay g = true) (r : Except Fault Nat) :
    (after kind (events ++ [.finish g r])).cache.isAtWork g = false ∨
      ∃ s, r = .ok s ∧ (after kind events).cache.slot = .closed ∧
        (after kind (events ++ [.finish g r] ++ [.dispose (.construction g) s])).cache.isAtWork g =
          false := by
  have ht := tells_after kind events
  have hend := ending?_finish ht hu r
  obtain ⟨-, hd, -⟩ := Cache.places_of_isUnderWay ht (places_after kind events) hu
  obtain ⟨-, -, -, -, -, hs⟩ := ht.of_isUnderWay hu
  rw [after_concat]
  cases r with
  | error f =>
      refine .inl (Cache.isAtWork_of_ending? hend ?_)
      rcases hs with hs | hs <;> simp [step, onCache, Cache.finish, hu, Cache.settle, hs, hd]
  | ok s =>
      rcases hs with hs | hs
      · refine .inl (Cache.isAtWork_of_ending? hend ?_)
        simp [step, onCache, Cache.finish, hu, Cache.settle, hs, hd]
      · refine .inr ⟨s, rfl, hs, ?_⟩
        rw [after_concat, after_concat]
        refine Cache.isAtWork_of_ending? ((step_rule _ _).ending? hend) ?_
        simp [step, onCache, Cache.finish, hu, Cache.settle, hs, hd, Cache.dispose]

/-! ## After a failure -/

/-- Nobody who asks looks into the slot in the meantime, and it is not emptied. -/
def IsIdle (more : List Event) : Prop :=
  ∀ e ∈ more, e ≠ .vacate ∧ ∀ i settings, e ≠ .enter i settings

theorem Rule.vacant (h : Rule d e d') (he : e ≠ .vacate) (hn : ∀ i settings, e ≠ .enter i settings)
    (hs : d.cache.slot = .empty) :
    d'.cache.slot = .empty ∧ d'.cache.builds.length = d.cache.builds.length := by
  cases h with
  | stay | refuse | allow | leave | deliver | cancel | dispose => exact ⟨hs, rfl⟩
  | meet | turnAway | join | start => exact absurd rfl (hn _ _)
  | install _ hc | fail _ hc => simp [hs] at hc
  | orphan | failLate => exact ⟨hs, by simp⟩
  | vacate => exact absurd rfl he

/-- An empty slot stays empty until somebody gets at it or the cache comes to its end. -/
theorem vacant_append {more : List Event} (hm : IsIdle more)
    (hs : (after kind events).cache.slot = .empty) :
    (after kind (events ++ more)).cache.slot = .empty ∧
      (after kind (events ++ more)).cache.builds.length = (after kind events).cache.builds.length := by
  induction more using List.reverseRecOn with
  | nil => exact ⟨by rwa [List.append_nil], by rw [List.append_nil]⟩
  | append_singleton more e ih =>
      obtain ⟨hs', hl⟩ := ih fun e he => hm e (List.mem_append_left _ he)
      obtain ⟨hv, hn⟩ := hm e (by simp)
      rw [← List.append_assoc, after_concat]
      obtain ⟨hs', hl'⟩ := (step_rule _ e).vacant hv hn hs'
      exact ⟨hs', hl'.trans hl⟩

/-- A failure leaves the slot empty. -/
theorem vacant_of_failed (hu : (after kind events).cache.isUnderWay g = true)
    (hs : (after kind events).cache.slot ≠ .closed) (f : Fault) :
    (after kind (events ++ [.finish g (.error f)])).cache.slot = .empty ∧
      (after kind (events ++ [.finish g (.error f)])).cache.builds.length = g := by
  obtain ⟨bs, b, he, -, rfl, hc⟩ := (tells_after kind events).of_isUnderWay hu
  have hc := hc.resolve_right hs
  rw [after_concat]
  simp [step, onCache, Cache.finish, hu, Cache.settle, hc, he.builds]

/-- Who finds the slot empty starts a construction with the settings of that moment. -/
theorem start_of_vacant (hi : (after kind events).getters[i]? = some .admitted)
    (hs : (after kind events).cache.slot = .empty) (settings : Settings) :
    (after kind (events ++ [.enter i settings])).getters[i]? =
        some (.waiting ((after kind events).cache.builds.length + 1)) ∧
      (after kind (events ++ [.enter i settings])).cache.build?
        ((after kind events).cache.builds.length + 1) = some ⟨settings, none⟩ := by
  have hlt := (List.getElem?_eq_some_iff.mp hi).1
  rw [after_concat]
  simp only [step, enter, hi, Cache.supply, hs]
  simp [Cache.build?, hlt]

/-! ## The settings of a construction -/

/-- A construction that is there was there before, or is started by one who finds the slot empty. -/
theorem Rule.build?_new {b : Build} (h : Rule d e d') (hb : d'.cache.build? g = some b) :
    (∃ b', d.cache.build? g = some b' ∧ b'.settings = b.settings) ∨
      ∃ i, e = .enter i b.settings ∧ d.getters[i]? = some .admitted ∧ d.cache.slot = .empty ∧
        d.cache.builds.length + 1 = g := by
  have note {c : Cache} {k : Nat} {o : BuildOutcome} (hu : d.cache.isUnderWay k = true)
      (hc : c.builds = d.cache.builds) (hb : (c.note k o).build? g = some b) :
      ∃ b', d.cache.build? g = some b' ∧ b'.settings = b.settings := by
    rw [Cache.build?_note (Cache.one_le_of_isUnderWay hu), Cache.build?_congr hc] at hb
    split at hb
    · obtain ⟨b', hb', rfl⟩ := Option.map_eq_some_iff.mp hb
      exact ⟨b', hb', rfl⟩
    · exact ⟨b, hb, rfl⟩
  cases h with
  | stay | refuse | allow | meet | turnAway | join | leave | deliver | cancel | vacate | dispose =>
      exact .inl ⟨b, hb, rfl⟩
  | start hi hs =>
      obtain ⟨hg, hb⟩ := Cache.build?_eq_some.mp hb
      rcases Nat.lt_or_ge (g - 1) d.cache.builds.length with hlt | hge
      · rw [List.getElem?_append_left hlt] at hb
        exact .inl ⟨b, Cache.build?_eq_some.mpr ⟨hg, hb⟩, rfl⟩
      · rw [List.getElem?_append_right hge] at hb
        obtain ⟨hl, rfl⟩ : g - 1 - d.cache.builds.length = 0 ∧ _ = b := by
          simpa [List.getElem?_singleton] using hb
        exact .inr ⟨_, rfl, hi, hs, by omega⟩
  | install hu | orphan hu | fail hu | failLate hu => exact .inl (note hu rfl hb)

/-- The constructions are made with the settings of the moment at which somebody found the slot empty. -/
theorem exists_start {b : Build} (hb : (after kind events).cache.build? g = some b) :
    ∃ earlier i, earlier ++ [.enter i b.settings] <+: events ∧
      (after kind earlier).getters[i]? = some .admitted ∧ (after kind earlier).cache.slot = .empty ∧
      (after kind earlier).cache.builds.length + 1 = g := by
  induction events using List.reverseRecOn generalizing b with
  | nil => simp [after, ofKind, Cache.ofKind, Cache.build?] at hb
  | append_singleton events e ih =>
      rw [after_concat] at hb
      rcases (step_rule _ e).build?_new hb with ⟨b', hb', hs⟩ | ⟨i, rfl, hi, hs, hl⟩
      · obtain ⟨earlier, i, hp, hrest⟩ := ih hb'
        exact ⟨earlier, i, hs ▸ hp.trans (List.prefix_append _ _), hrest⟩
      · exact ⟨events, i, List.prefix_refl _, hi, hs, hl⟩

/-! ## Every run -/

/-- Everybody is given the result of the construction that they waited for, and a failure is forgotten. -/
structure OwnResults (kind : Kind) (events : List Event) : Prop where
  /-- Until it goes away, who waits for a construction waits on or has been given what it came to, -/
  given : ∀ i g more, (after kind events).getters[i]? = some (.waiting g) →
    (after kind (events ++ more)).getters[i]? = some (.waiting g) ∨
      (after kind (events ++ more)).getters[i]? = some .dropped ∧ .drop i ∈ more ∨
        ∃ r, (after kind (events ++ more)).result? i = some r ∧ Concluded kind (events ++ more) g r
  /-- which is one result for all, -/
  common : ∀ g r t, Concluded kind events g r → Concluded kind events g t → r = t
  /-- and is given as soon as the construction is no longer at work. -/
  prompt : ∀ i g, (after kind events).getters[i]? = some (.waiting g) →
    (after kind events).cache.isAtWork g = true ∨
      ∃ r, Concluded kind events g r ∧ (after kind (events ++ [.deliver i])).result? i = some r
  /-- It is at work until its constructor gives something, or until the session that came too late is
  closed. -/
  ends : ∀ g r, (after kind events).cache.isUnderWay g = true →
    (after kind (events ++ [.finish g r])).cache.isAtWork g = false ∨
      ∃ s, r = .ok s ∧ (after kind events).cache.slot = .closed ∧
        (after kind (events ++ [.finish g r] ++ [.dispose (.construction g) s])).cache.isAtWork g = false
  /-- Whoever goes away, the cache and all the others go the same way as if they had not. -/
  not_missed : ∀ gone,
    (after kind events).cache = (after kind (without gone events)).cache ∧
      ∀ i, gone i = false →
        (after kind events).getters[i]? = (after kind (without gone events)).getters[i]?
  /-- A construction that fails before the slot was emptied leaves it empty; the next one who looks into
  it starts the next construction. -/
  forgotten : ∀ g f more, (after kind events).cache.isUnderWay g = true →
    (after kind events).cache.slot ≠ .closed → IsIdle more →
      let later := events ++ [.finish g (.error f)] ++ more
      (after kind later).cache.slot = .empty ∧
        ∀ i settings, (after kind later).getters[i]? = some .admitted →
          (after kind (later ++ [.enter i settings])).getters[i]? = some (.waiting (g + 1)) ∧
            (after kind (later ++ [.enter i settings])).cache.build? (g + 1) = some ⟨settings, none⟩
  /-- A construction is made with the settings that the one who started it met. -/
  made_with : ∀ g b, (after kind events).cache.build? g = some b →
    ∃ earlier i, earlier ++ [.enter i b.settings] <+: events ∧
      (after kind earlier).getters[i]? = some .admitted ∧ (after kind earlier).cache.slot = .empty ∧
      (after kind earlier).cache.builds.length + 1 = g

/-- Every caller is given the result of the construction that he waited for, whoever else goes away; after a
failure the slot is empty, and the next caller starts a construction of his own. -/
theorem own_results (kind : Kind) (events : List Event) : OwnResults kind events where
  given _ _ more hi := waiting_append hi more
  common _ _ _ hr ht := hr.unique ht
  prompt _ _ hi := deliver_waiting hi
  ends _ r hu := over_of_finish hu r
  not_missed gone := by
    have h := thins_without kind gone events
    refine ⟨h.cache, fun i hi => ?_⟩
    have hs := h.getters i
    generalize (after kind events).getters[i]? = x, (after kind (without gone events)).getters[i]? = y at hs
    cases hs with
    | same => rfl
    | away hi' => simp [hi] at hi'
  forgotten g f more hu hs hm := by
    obtain ⟨he, hl⟩ := vacant_of_failed hu hs f
    obtain ⟨he', hl'⟩ := vacant_append hm he
    refine ⟨he', fun i settings hi => ?_⟩
    have hstart := start_of_vacant hi he' settings
    rwa [hl', hl] at hstart
  made_with _ _ hb := exists_start hb

-- The constructor panics after one of two who wait has gone away; a third then starts another construction.
example :
    let settings := Settings.ofKind .simulated
    let d := after .simulated
      [.arrive, .arrive, .enter 0 settings, .enter 1 settings, .drop 0,
        .finish 1 (buildResult .simulated (.error ⟨"out of paper"⟩)), .arrive, .enter 2 settings,
        .deliver 1, .finish 2 (.ok 7), .deliver 2]
    d.result? 0 = none ∧
      d.result? 1 = some (.error (.construction .simulated "constructor panicked: out of paper")) ∧
      d.result? 2 = some (.ok 7) :=
  ⟨rfl, rfl, rfl⟩

end Demand

end Swarmkeeper.Engine
