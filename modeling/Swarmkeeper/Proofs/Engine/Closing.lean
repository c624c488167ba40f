import Swarmkeeper.Proofs.Engine.OneSession

/-!
# Every session is closed once

A session that a construction gave is in one place: in the slot, in the hands of somebody who is about to
close it, or among the closed. It is taken out of the slot, or comes too late for it, only after the end of
the cache was announced.
-/

namespace Swarmkeeper.Engine

namespace Cache

variable {c : Cache} {g : Nat}

/-- Where the sessions are: in the slot, in somebody's hands, or closed. -/
def places (c : Cache) : List Nat := c.peek.toList ++ c.discarded.map Prod.snd ++ c.closings

/-- The construction is not over: it has not ended, or has yet to close a session that came too late. -/
def isAtWork (c : Cache) (g : Nat) : Bool := c.isUnderWay g || c.isHolding (.construction g)

/-- Nothing has been taken out of the slot, and nothing was closed. -/
structure IsIntact (c : Cache) : Prop where
  slot : c.slot ≠ .closed
  discarded : c.discarded = []
  closings : c.closings = []

theorem isHolding_of_mem {h : Holder} {s : Nat} (hs : (h, s) ∈ c.discarded) : c.isHolding h = true :=
  List.any_eq_true.mpr ⟨_, hs, by simp⟩

/-- When nobody is at work any more nothing is left to be closed. -/
theorem discarded_eq_nil (hc : c.isHolding .closer = false) (hw : ∀ g, c.isAtWork g = false) :
    c.discarded = [] := by
  refine List.eq_nil_iff_forall_not_mem.mpr fun ⟨h, s⟩ hs => ?_
  have hh := isHolding_of_mem hs
  cases h with
  | closer => simp [hc] at hh
  | construction g => simpa [isAtWork, hh] using hw g

/-- While a construction is under way there is no session anywhere. -/
theorem places_of_isUnderWay (ht : c.slot.Tells c.builds) (hp : c.places.Perm c.sessions)
    (hu : c.isUnderWay g = true) : c.peek = none ∧ c.discarded = [] ∧ c.closings = [] := by
  rw [ht.sessions_of_isUnderWay hu] at hp
  simpa [places, and_assoc] using hp.eq_nil

end Cache

namespace Demand

variable {d d' : Demand} {e : Event} {kind : Kind} {events : List Event}

/-! ## The place of a session -/

/-- No rule loses a session or has it in two places. -/
theorem Rule.places_perm (h : Rule d e d') (ht : d.cache.slot.Tells d.cache.builds)
    (hp : d.cache.places.Perm d.cache.sessions) : d'.cache.places.Perm d'.cache.sessions := by
  cases h with
  | stay | refuse | allow | meet | turnAway | join | leave | deliver | cancel => exact hp
  | start _ hs =>
      simpa [Cache.places, Cache.peek, hs, Cache.sessions, List.filterMap_cons] using hp
  | install hu | fail hu =>
      obtain ⟨-, hd, hc⟩ := Cache.places_of_isUnderWay ht hp hu
      rw [Cache.sessions, Cache.note_builds, ht.sessions_finish hu]
      simp [Cache.places, Cache.peek, hd, hc, BuildOutcome.session?]
  | orphan hu | failLate hu =>
      obtain ⟨hn, hd, hc⟩ := Cache.places_of_isUnderWay ht hp hu
      rw [Cache.sessions, Cache.note_builds, ht.sessions_finish hu]
      rw [Cache.peek] at hn
      simp [Cache.places, Cache.peek, hn, hd, hc, BuildOutcome.session?]
  | vacate =>
      refine List.Perm.trans ?_ hp
      simpa [Cache.places, Cache.peek, Function.comp_def] using
        List.perm_append_comm.append_right _
  | @dispose h s hs =>
      -- the session moves from its holder's hands to the closed
      have hd := (List.perm_cons_erase hs).map Prod.snd
      refine List.Perm.trans (List.perm_iff_count.mpr fun t => ?_) hp
      have hd := hd.count_eq t
      simp only [List.map_cons, List.count_cons] at hd
      simp only [Cache.places, Cache.peek, List.count_append, List.count_singleton]
      omega

/-! ## Before and after the cache is closed -/

/-- Until the end of the cache is announced nothing is taken out of the slot. -/
theorem Rule.intact (h : Rule d e d') (ht : d.cache.slot.Tells d.cache.builds)
    (hi : d.cache.isCancelled = false → d.cache.IsIntact) :
    d'.cache.isCancelled = false → d'.cache.IsIntact := by
  intro hc
  cases h with
  | stay | refuse | allow | meet | turnAway | join | leave | deliver => exact hi hc
  | start | install | fail => exact ⟨nofun, (hi hc).discarded, (hi hc).closings⟩
  | failLate => exact ⟨(hi hc).slot, (hi hc).discarded, (hi hc).closings⟩
  | orphan hu hs =>
      obtain ⟨-, -, -, -, -, hs'⟩ := ht.of_isUnderWay hu
      exact absurd (hs'.resolve_left hs) (hi hc).slot
  | cancel => cases hc
  | vacate hc' => simp [hc'] at hc
  | dispose hs => simp [(hi hc).discarded] at hs

/-- The end is announced by one event only. -/
theorem Rule.isCancelled (h : Rule d e d') (hc : d'.cache.isCancelled = true) :
    d.cache.isCancelled = true ∨ e = .cancel := by
  cases h with
  | cancel => exact .inr rfl
  | _ => exact .inl hc

/-- A closed slot stays closed. -/
theorem Rule.slot_closed (h : Rule d e d') (hs : d.cache.slot = .closed) :
    d'.cache.slot = .closed := by
  cases h with
  | vacate => rfl
  | start _ hs' | install _ hs' | fail _ hs' => simp [hs] at hs'
  | _ => exact hs

/-- No construction that ends after the slot was closed puts its session there. -/
theorem Rule.installed {b : Build} {s : Nat} (h : Rule d e d')
    (ht : d.cache.slot.Tells d.cache.builds) (hs : d.cache.slot = .closed)
    (hb : b ∈ d'.cache.builds) (ho : b.outcome = some (.installed s)) : b ∈ d.cache.builds := by
  cases h with
  | start _ hs' | install _ hs' | fail _ hs' => simp [hs] at hs'
  | orphan hu | failLate hu =>
      obtain ⟨bs, l, he, -, rfl, -⟩ := ht.of_isUnderWay hu
      rw [Cache.note_builds, he.finish] at hb
      rcases List.mem_append.mp hb with hb | hb
      · exact he.builds ▸ List.mem_append_left _ hb
      · rw [List.mem_singleton.mp hb] at ho
        cases ho
  | _ => exact hb

/-! ## Every run -/

/-- After any events the sessions are where the cache says, each in one place. -/
theorem places_after (kind : Kind) (events : List Event) :
    (after kind events).cache.places.Perm (after kind events).cache.sessions :=
  after_induction_tells (P := fun d => d.cache.places.Perm d.cache.sessions) (List.Perm.refl [])
    (fun h ht hp => h.places_perm ht hp) events

/-- Before the announcement no session is taken away. -/
theorem intact_after (h : (after kind events).cache.isCancelled = false) :
    (after kind events).cache.IsIntact :=
  after_induction_tells (P := fun d => d.cache.isCancelled = false → d.cache.IsIntact)
    (fun _ => ⟨Slot.noConfusion, rfl, rfl⟩) (fun h ht hi => h.intact ht hi) events h

theorem cancel_mem (h : (after kind events).cache.isCancelled = true) : .cancel ∈ events := by
  induction events using List.reverseRecOn with
  | nil => cases h
  | append_singleton events e ih =>
      rw [after_append] at h
      rcases (step_rule _ e).isCancelled h with h | rfl
      · exact List.mem_append_left _ (ih h)
      · simp

theorem slot_closed_after {earlier : List Event} (hp : earlier <+: events)
    (hs : (after kind earlier).cache.slot = .closed) : (after kind events).cache.slot = .closed :=
  after_mono (P := fun d => d.cache.slot = .closed) (fun h hs => h.slot_closed hs) hp hs

/-- Nothing is put into a closed slot. -/
theorem installed_after {earlier : List Event} (hp : earlier <+: events)
    (hs : (after kind earlier).cache.slot = .closed) {b : Build} {s : Nat}
    (hb : b ∈ (after kind events).cache.builds) (ho : b.outcome = some (.installed s)) :
    b ∈ (after kind earlier).cache.builds := by
  have hall := after_mono_tells (P := fun d => d.cache.slot = .closed ∧
      (b ∈ d.cache.builds → b ∈ (after kind earlier).cache.builds))
    (fun h ht ⟨hs, hd⟩ => ⟨h.slot_closed hs, fun hb => hd (h.installed ht hs hb ho)⟩) hp ⟨hs, id⟩
  exact hall.2 hb

/-- The sessions of a cache are closed once each, and not before the end of the cache. -/
structure ClosedOnce (kind : Kind) (events : List Event) : Prop where
  at_most_once : ∀ s, (after kind events).cache.closings.count s ≤ 1
  given : ∀ s ∈ (after kind events).cache.closings, s ∈ (after kind events).cache.sessions
  announced : (after kind events).cache.closings ≠ [] → .cancel ∈ events
  /-- Once the slot was emptied, by one who is done with it, and no construction is at work, every session
  that a construction gave is closed. -/
  exactly_once : (after kind events).cache.slot = .closed →
    (after kind events).cache.isHolding .closer = false →
    (∀ g, (after kind events).cache.isAtWork g = false) →
    ∀ s ∈ (after kind events).cache.sessions, (after kind events).cache.closings.count s = 1
  /-- The session of a construction that was under way when the slot was closed is never installed. -/
  never_installed : ∀ earlier, earlier <+: events → (after kind earlier).cache.slot = .closed →
    (∃ g, (after kind earlier).cache.isUnderWay g = true) →
    ∀ s, ∀ b ∈ (after kind events).cache.builds, b.outcome ≠ some (.installed s)
  stays_closed : ∀ earlier, earlier <+: events → (after kind earlier).cache.slot = .closed →
    (after kind events).cache.peek = none

/-- Whoever closes the cache, and whenever, each of its sessions is closed once. -/
theorem closed_once (kind : Kind) (events : List Event) : ClosedOnce kind events := by
  have ht := tells_after kind events
  have hp := places_after kind events
  have hle (s : Nat) : (after kind events).cache.sessions.count s ≤ 1 :=
    Nat.le_trans List.count_le_length ht.length_sessions_le_one
  refine {
    at_most_once := fun s => ?_
    given := fun s hs => hp.mem_iff.mp (List.mem_append_right _ hs)
    announced := fun hc => ?_
    exactly_once := fun hs hc hw s hm => ?_
    never_installed := fun earlier hp hs ⟨g, hu⟩ s b hb ho => ?_
    stays_closed := fun earlier hp hs => ?_ }
  · calc (after kind events).cache.closings.count s
        ≤ (after kind events).cache.places.count s :=
          (List.sublist_append_right _ _).count_le s
      _ = (after kind events).cache.sessions.count s := hp.count_eq s
      _ ≤ 1 := hle s
  · have hcc : (after kind events).cache.isCancelled = true := by
      by_contra hn
      exact hc (intact_after (by simpa using hn)).closings
    exact cancel_mem hcc
  · have hn : (after kind events).cache.peek = none := by simp [Cache.peek, hs]
    have hd := Cache.discarded_eq_nil hc hw
    have hcount : (after kind events).cache.closings.count s =
        (after kind events).cache.sessions.count s := by
      simpa [Cache.places, hn, hd] using hp.count_eq s
    exact hcount.trans (Nat.le_antisymm (hle s) (List.count_pos_iff.mpr hm))
  · have hm : s ∈ (after kind earlier).cache.sessions :=
      Cache.mem_sessions.mpr ⟨b, installed_after hp hs hb ho, by
        simp [Build.session?, ho, BuildOutcome.session?]⟩
    simp [(tells_after kind earlier).sessions_of_isUnderWay hu] at hm
  · simp [Cache.peek, slot_closed_after hp hs]

-- Two shutdowns while the session is being built; it comes too late, and is closed by its construction.
example (settings : Settings) :
    ((after .simulated [.arrive, .enter 0 settings, .cancel, .vacate, .cancel, .vacate,
      .finish 1 (.ok 7), .dispose .closer 7, .dispose (.construction 1) 7]).cache.closings) = [7] := by
  rfl

end Demand

end Swarmkeeper.Engine
