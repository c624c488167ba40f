import Swarmkeeper.Proofs.Engine.Rules

/-!
# One session

Only a construction that has failed is followed by another. So none but the last can be under way or have
given a session, and whoever is given a session by the cache is given that one.
-/

namespace Swarmkeeper.Engine

/-! ## What the slot tells -/

/-- What a slot tells about the constructions so far. -/
inductive Slot.Tells : Slot → List Build → Prop
  | empty {bs : List Build} (hf : ∀ b ∈ bs, b.HasFailed) : Tells .empty bs
  | building {bs : List Build} {b : Build} (hf : ∀ b ∈ bs, b.HasFailed) (hb : b.outcome = none) :
      Tells (.building (bs.length + 1)) (bs ++ [b])
  | ready {bs : List Build} {b : Build} {s : Nat} (hf : ∀ b ∈ bs, b.HasFailed)
      (hb : b.outcome = some (.installed s)) : Tells (.ready s) (bs ++ [b])
  | closed {bs : List Build} (hf : ∀ b ∈ bs.dropLast, b.HasFailed) : Tells .closed bs

namespace Cache

variable {c : Cache}

/-- The last of the constructions is this one, and the others have failed. -/
structure Ends (c : Cache) (bs : List Build) (b : Build) : Prop where
  builds : c.builds = bs ++ [b]
  failed : ∀ b ∈ bs, b.HasFailed

theorem filterMap_session? {bs : List Build} (b : Build) (hf : ∀ b ∈ bs, b.HasFailed) :
    (bs ++ [b]).filterMap Build.session? = b.session?.toList := by
  have hbs : bs.filterMap Build.session? = [] :=
    List.filterMap_eq_nil_iff.mpr fun b hb => (hf b hb).session?
  rw [List.filterMap_append, hbs]
  cases hb : b.session? <;> simp [hb]

theorem Ends.sessions {bs : List Build} {b : Build} (h : c.Ends bs b) :
    c.sessions = b.session?.toList := by
  rw [Cache.sessions, h.builds, filterMap_session? b h.failed]

theorem Ends.finish {bs : List Build} {b : Build} (h : c.Ends bs b) (o : BuildOutcome) :
    c.builds.modify (bs.length + 1 - 1) (·.finish o) = bs ++ [b.finish o] := by
  simp [h.builds, List.modify_eq_take_drop]

/-- Before the last construction all have failed. -/
theorem nil_or_ends (hf : ∀ b ∈ c.builds.dropLast, b.HasFailed) :
    c.builds = [] ∨ ∃ bs b, c.Ends bs b := by
  rcases List.eq_nil_or_concat c.builds with hc | ⟨bs, b, hc⟩
  · exact .inl hc
  · rw [List.concat_eq_append] at hc
    rw [hc, List.dropLast_concat] at hf
    exact .inr ⟨bs, b, hc, hf⟩

/-- A construction that has not failed is the last. -/
theorem ends_of_getElem? {i : Nat} {b : Build} (hf : ∀ b ∈ c.builds.dropLast, b.HasFailed)
    (hi : c.builds[i]? = some b) (hb : ¬ b.HasFailed) : ∃ bs, c.Ends bs b ∧ i = bs.length := by
  rcases nil_or_ends hf with hc | ⟨bs, l, he⟩
  · simp [hc] at hi
  · rw [he.builds] at hi
    rcases Nat.lt_or_ge i bs.length with hlt | hge
    · rw [List.getElem?_append_left hlt] at hi
      exact absurd (he.failed b (List.mem_of_getElem? hi)) hb
    · rw [List.getElem?_append_right hge] at hi
      obtain ⟨hi, rfl⟩ : i - bs.length = 0 ∧ l = b := by simpa [List.getElem?_singleton] using hi
      exact ⟨bs, he, by omega⟩

end Cache

namespace Slot.Tells

variable {c : Cache} {g : Nat}

theorem dropLast_failed {slot : Slot} {bs : List Build} (h : slot.Tells bs) :
    ∀ b ∈ bs.dropLast, b.HasFailed := by
  cases h with
  | empty hf => exact fun b hb => hf b ((List.dropLast_sublist bs).mem hb)
  | building hf | ready hf => simpa using hf
  | closed hf => exact hf

/-- The construction that is under way is the last, and the slot is in its charge unless it was closed. -/
theorem of_isUnderWay (h : c.slot.Tells c.builds) (hu : c.isUnderWay g = true) :
    ∃ bs b, c.Ends bs b ∧ b.outcome = none ∧ g = bs.length + 1 ∧
      (c.slot = .building g ∨ c.slot = .closed) := by
  obtain ⟨b, hg, hb⟩ := Cache.isUnderWay_iff.mp hu
  obtain ⟨hg, hi⟩ := Cache.build?_eq_some.mp hg
  have hnf : ¬ b.HasFailed := fun ⟨f, hf⟩ => by simp [hb] at hf
  obtain ⟨bs, he, hlen⟩ := Cache.ends_of_getElem? h.dropLast_failed hi hnf
  refine ⟨bs, b, he, hb, by omega, ?_⟩
  have hl := he.builds
  generalize c.slot = slot, c.builds = builds at h hl
  cases h with
  | empty hf => exact absurd (hf b (by simp [hl])) hnf
  | building =>
      have hn := congrArg List.length hl
      simp only [List.length_append, List.length_singleton] at hn
      have hg : bs.length + 1 = g := by omega
      exact .inl (by rw [← hg, Nat.add_right_cancel hn])
  | ready _ hs =>
      obtain rfl := List.singleton_inj.mp (List.append_inj' hl rfl).2
      simp [hb] at hs
  | closed => exact .inr rfl

/-- The end of the construction that is under way settles what sessions there are. -/
theorem sessions_finish (h : c.slot.Tells c.builds) (hu : c.isUnderWay g = true) (o : BuildOutcome) :
    (c.builds.modify (g - 1) (·.finish o)).filterMap Build.session? = o.session?.toList := by
  obtain ⟨bs, b, he, -, rfl, -⟩ := h.of_isUnderWay hu
  rw [he.finish, Cache.filterMap_session? _ he.failed, Build.session?_finish]

/-- While a construction is under way no other has given a session. -/
theorem sessions_of_isUnderWay (h : c.slot.Tells c.builds) (hu : c.isUnderWay g = true) :
    c.sessions = [] := by
  obtain ⟨bs, b, he, hb, -⟩ := h.of_isUnderWay hu
  simp [he.sessions, Build.session?, hb]

theorem sessions_of_empty (h : c.slot.Tells c.builds) (hs : c.slot = .empty) : c.sessions = [] := by
  rw [hs] at h
  cases h with
  | empty hf => exact List.filterMap_eq_nil_iff.mpr fun b hb => (hf b hb).session?

/-- There is one session at most. -/
theorem length_sessions_le_one (h : c.slot.Tells c.builds) : c.sessions.length ≤ 1 := by
  rcases Cache.nil_or_ends h.dropLast_failed with hc | ⟨bs, b, he⟩
  · simp [Cache.sessions, hc]
  · rw [he.sessions]
    cases b.session? <;> simp

/-- One construction at most is under way. -/
theorem countP_isNone_le_one (h : c.slot.Tells c.builds) :
    c.builds.countP (·.outcome.isNone) ≤ 1 := by
  rcases Cache.nil_or_ends h.dropLast_failed with hc | ⟨bs, b, he⟩
  · simp [hc]
  · have hbs : bs.countP (·.outcome.isNone) = 0 := by
      refine List.countP_eq_zero.mpr fun b hb => ?_
      obtain ⟨f, hb⟩ := he.failed b hb
      simp [hb]
    rw [he.builds, List.countP_append, hbs, Nat.zero_add]
    exact List.countP_le_length

/-- What is in the slot is a session that was built. -/
theorem mem_sessions_of_ready {s : Nat} (h : c.slot.Tells c.builds) (hs : c.slot = .ready s) :
    s ∈ c.sessions := by
  rw [hs] at h
  generalize hc : c.builds = builds at h
  cases h with
  | ready hf hb => simp [Cache.Ends.sessions ⟨hc, hf⟩, Build.session?, hb, BuildOutcome.session?]

end Slot.Tells

namespace Demand

variable {d d' : Demand} {e : Event} {kind : Kind} {events : List Event}

/-! ## Every rule keeps it -/

/-- Every rule keeps the slot in agreement with the constructions. -/
theorem Rule.tells (h : Rule d e d') (ht : d.cache.slot.Tells d.cache.builds) :
    d'.cache.slot.Tells d'.cache.builds := by
  cases h with
  | stay | refuse | allow | meet | turnAway | join | leave | deliver | cancel | dispose => exact ht
  | start _ hs =>
      rw [hs] at ht
      cases ht with
      | empty hf => exact .building hf rfl
  | install hu =>
      obtain ⟨bs, b, he, -, rfl, -⟩ := ht.of_isUnderWay hu
      rw [Cache.note_builds, he.finish]
      exact .ready he.failed rfl
  | fail hu =>
      obtain ⟨bs, b, he, -, rfl, -⟩ := ht.of_isUnderWay hu
      rw [Cache.note_builds, he.finish]
      refine .empty fun b' hb' => ?_
      rcases List.mem_append.mp hb' with hb' | hb'
      · exact he.failed b' hb'
      · rw [List.mem_singleton.mp hb']
        exact ⟨_, rfl⟩
  | orphan hu hs | failLate hu hs =>
      obtain ⟨bs, b, he, -, rfl, hc⟩ := ht.of_isUnderWay hu
      rw [Cache.note_builds, he.finish, Cache.note_slot, hc.resolve_left hs]
      exact .closed (by simpa using he.failed)
  | vacate => exact .closed ht.dropLast_failed

/-- The constructions are what they are once one of them has given a session. -/
theorem Rule.builds_eq (h : Rule d e d') (ht : d.cache.slot.Tells d.cache.builds)
    (hs : d.cache.sessions ≠ []) : d'.cache.builds = d.cache.builds := by
  cases h with
  | stay | refuse | allow | meet | turnAway | join | leave | deliver | cancel | vacate | dispose => rfl
  | start _ hc => exact absurd (ht.sessions_of_empty hc) hs
  | install hu | orphan hu | fail hu | failLate hu => exact absurd (ht.sessions_of_isUnderWay hu) hs

/-- A session that was built stays so. -/
theorem Rule.mem_sessions {s : Nat} (h : Rule d e d') (ht : d.cache.slot.Tells d.cache.builds)
    (hs : s ∈ d.cache.sessions) : s ∈ d'.cache.sessions := by
  rwa [Cache.sessions, h.builds_eq ht (List.ne_nil_of_mem hs)]

/-- Whoever is newly given a session met it in the slot, or waited for the construction that installed
it. -/
theorem Rule.returned_ok {s : Nat} (h : Rule d e d') (hs : .returned (.ok s) ∈ d'.getters) :
    .returned (.ok s) ∈ d.getters ∨ d.cache.slot = .ready s ∨
      ∃ g, d.cache.outcome? g = some (.installed s) := by
  cases h with
  | stay | install | orphan | fail | failLate | cancel | vacate | dispose => exact .inl hs
  | refuse | allow => exact .inl (by simpa using hs)
  | turnAway | join | start | leave =>
      rcases List.mem_or_eq_of_mem_set hs with hs | hs
      · exact .inl hs
      · cases hs
  | meet _ hslot =>
      rcases List.mem_or_eq_of_mem_set hs with hs | hs
      · exact .inl hs
      · cases hs
        exact .inr (.inl hslot)
  | @deliver i g o _ ho =>
      rcases List.mem_or_eq_of_mem_set hs with hs | hs
      · exact .inl hs
      · injection hs with hs
        have ho' := BuildOutcome.result_eq_ok.mp hs.symm
        exact .inr (.inr ⟨g, ho' ▸ ho⟩)

/-- Whoever is given a session is given one that was built. -/
theorem Rule.given (h : Rule d e d') (ht : d.cache.slot.Tells d.cache.builds)
    (hd : ∀ s, .returned (.ok s) ∈ d.getters → s ∈ d.cache.sessions) :
    ∀ s, .returned (.ok s) ∈ d'.getters → s ∈ d'.cache.sessions := by
  intro s hs
  refine h.mem_sessions ht ?_
  rcases h.returned_ok hs with hs | hs | ⟨g, hg⟩
  · exact hd s hs
  · exact ht.mem_sessions_of_ready hs
  · obtain ⟨b, hb, ho⟩ := Cache.exists_of_outcome? hg
    exact Cache.mem_sessions.mpr ⟨b, hb, by simp [Build.session?, ho, BuildOutcome.session?]⟩

/-! ## Every run -/

theorem tells_ofKind (kind : Kind) :
    (ofKind kind).cache.slot.Tells (ofKind kind).cache.builds :=
  .empty fun _ hb => absurd hb List.not_mem_nil

/-- After any events the slot tells what the constructions came to. -/
theorem tells_after (kind : Kind) (events : List Event) :
    (after kind events).cache.slot.Tells (after kind events).cache.builds :=
  after_induction (P := fun d => d.cache.slot.Tells d.cache.builds) (tells_ofKind kind)
    (fun h ht => h.tells ht) events

/-- What every rule keeps where the slot tells of the constructions holds after any events. -/
theorem after_induction_tells {P : Demand → Prop} (init : P (ofKind kind))
    (step : ∀ {d e d'}, Rule d e d' → d.cache.slot.Tells d.cache.builds → P d → P d')
    (events : List Event) : P (after kind events) :=
  (after_induction (P := fun d => d.cache.slot.Tells d.cache.builds ∧ P d) ⟨tells_ofKind kind, init⟩
    (fun h ⟨ht, hd⟩ => ⟨h.tells ht, step h ht hd⟩) events).2

theorem after_mono_tells {P : Demand → Prop} {earlier : List Event}
    (step : ∀ {d e d'}, Rule d e d' → d.cache.slot.Tells d.cache.builds → P d → P d')
    (hp : earlier <+: events) (h : P (after kind earlier)) : P (after kind events) :=
  (after_mono (P := fun d => d.cache.slot.Tells d.cache.builds ∧ P d)
    (fun h ⟨ht, hd⟩ => ⟨h.tells ht, step h ht hd⟩) hp ⟨tells_after kind earlier, h⟩).2

theorem given_after {s : Nat} (h : .returned (.ok s) ∈ (after kind events).getters) :
    s ∈ (after kind events).cache.sessions :=
  after_induction_tells (P := fun d => ∀ s, .returned (.ok s) ∈ d.getters → s ∈ d.cache.sessions)
    (fun _ hs => absurd hs List.not_mem_nil) (fun h ht hd => h.given ht hd) events s h

/-- Once there is a session nothing more is built. -/
theorem builds_after {earlier : List Event} (hp : earlier <+: events)
    (hs : (after kind earlier).cache.sessions ≠ []) :
    (after kind events).cache.builds = (after kind earlier).cache.builds := by
  refine after_mono_tells (P := fun d => d.cache.builds = (after kind earlier).cache.builds)
    (fun h ht hb => (h.builds_eq ht ?_).trans hb) hp rfl
  rwa [Cache.sessions, hb]

/-- Somebody has seen this session by now: it was looked up, or a call returned with it. -/
def HasSeen (kind : Kind) (events : List Event) (s : Nat) : Prop :=
  ∃ earlier, earlier <+: events ∧
    ((after kind earlier).cache.peek = some s ∨ ∃ i, (after kind earlier).result? i = some (.ok s))

theorem HasSeen.mem_sessions {s : Nat} (h : HasSeen kind events s) :
    s ∈ (after kind events).cache.sessions := by
  obtain ⟨earlier, hp, h⟩ := h
  have hs : s ∈ (after kind earlier).cache.sessions := by
    rcases h with h | ⟨i, h⟩
    · exact (tells_after kind earlier).mem_sessions_of_ready (Cache.peek_eq_some.mp h)
    · exact given_after (returned_of_result? h)
  rwa [Cache.sessions, builds_after hp (List.ne_nil_of_mem hs)]

/-- A cache has one session at most. -/
structure OneSession (kind : Kind) (events : List Event) : Prop where
  one_build : (after kind events).cache.builds.countP (·.outcome.isNone) ≤ 1
  one_given : (after kind events).cache.sessions.length ≤ 1
  /-- Once a construction has given a session, in whatever state the cache is by then, none is started
  any more. -/
  last_build : ∀ earlier, earlier <+: events → (after kind earlier).cache.sessions ≠ [] →
    (after kind events).cache.builds = (after kind earlier).cache.builds
  one_seen : ∀ s t, HasSeen kind events s → HasSeen kind events t → s = t
  /-- Nobody sees a session that no construction has given. -/
  seen_given : ∀ s, HasSeen kind events s → s ∈ (after kind events).cache.sessions
  /-- Who settles a construction finds the slot in its charge, or closed. -/
  in_charge : ∀ g, (after kind events).cache.isUnderWay g = true →
    (after kind events).cache.slot = .building g ∨ (after kind events).cache.slot = .closed

/-- Whatever those who ask, the constructions and those who close the cache do, and in whatever order, the
cache has one session at most. -/
theorem one_session (kind : Kind) (events : List Event) : OneSession kind events := by
  have ht := tells_after kind events
  refine {
    one_build := ht.countP_isNone_le_one
    one_given := ht.length_sessions_le_one
    last_build := fun earlier hp hs => builds_after hp hs
    one_seen := fun s t hs ht' => ?_
    seen_given := fun s hs => hs.mem_sessions
    in_charge := fun g hu => ?_ }
  · have hs := hs.mem_sessions
    have ht' := ht'.mem_sessions
    obtain ⟨u, hu⟩ := List.length_eq_one_iff.mp
      (Nat.le_antisymm ht.length_sessions_le_one (List.length_pos_of_mem hs))
    rw [hu, List.mem_singleton] at hs ht'
    rw [hs, ht']
  · obtain ⟨bs, b, -, -, -, hc⟩ := ht.of_isUnderWay hu
    exact hc

end Demand

end Swarmkeeper.Engine
