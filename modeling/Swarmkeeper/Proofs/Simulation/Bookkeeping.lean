import Mathlib.Data.List.Induction
import Swarmkeeper.Pattern.Basic
import Swarmkeeper.Proofs.Simulation.GateRules
import Swarmkeeper.Simulation.EngineScene

/-!
# Counting while chains are replaced

An evaluation is decided by the chain that it took hold of, and counted on that chain and no other, however
many chains are installed meanwhile. So no evaluation is lost or counted twice, and each session has counted
the verdicts that it was given.
-/

namespace Swarmkeeper.Simulation.Gate

open Swarmkeeper.Admission

section Matcher

variable [Pattern.Matcher] {g g' : Gate} {ev : Event} {e : Evaluation} {n id : Nat} {start : Chain} {events : List Event}

/-! ## Runs -/

/-- The chains that have been installed, as they were then, in order. -/
def installed (c : Chain) (events : List Event) : List Chain := c :: events.filterMap Event.chain?

theorem after_append (start : Chain) (events more : List Event) :
    after start (events ++ more) = more.foldl step (after start events) := List.foldl_append ..

theorem after_concat (start : Chain) (events : List Event) (ev : Event) :
    after start (events ++ [ev]) = (after start events).step ev := after_append start events [ev]

theorem installed_append (start : Chain) (events later : List Event) :
    installed start (events ++ later) = installed start events ++ later.filterMap Event.chain? := by
  rw [installed, List.filterMap_append]
  rfl

theorem placed_after (start : Chain) (events : List Event) : Placed (after start events) := by
  induction events using List.reverseRecOn with
  | nil => exact ⟨by simp [after, ofChain], by simp [after, ofChain], by simp [after, ofChain]⟩
  | append_singleton events ev ih =>
      rw [after_concat]
      exact (step_rule _ ev).placed ih

/-- After any events the books are those of the evaluations. -/
theorem balanced_after (start : Chain) (events : List Event) :
    Balanced (installed start events) (after start events) := by
  induction events using List.reverseRecOn with
  | nil =>
      refine ⟨rfl, fun id was now hwas hnow => ?_, rfl, by simp [after, ofChain], by simp [after, ofChain]⟩
      obtain rfl : was = now := Option.some.inj (hwas.symm.trans hnow)
      exact .fresh (by simp [after, ofChain])
  | append_singleton events ev ih =>
      have hb := (step_rule _ ev).balanced (placed_after start events) ih
      rw [after_concat, installed_append]
      cases ev <;> exact hb

/-! ## What becomes of an evaluation -/

/-- The evaluation with this number goes on. -/
def Event.isAdvance (n : Nat) : Event → Bool
  | .advance m => m = n
  | _ => false

/-- An evaluation keeps its chain, and comes nearer to its end where it goes on. -/
theorem Rule.evaluation (h : Rule g ev g') (hg : Placed g) (he : g.evaluations[n]? = some e) :
    ∃ p, g'.evaluations[n]? = some { e with progress := p } ∧
      p.left = e.progress.left - (ev.isAdvance n).toNat := by
  have hset {m : Nat} {x : Evaluation} {p : Progress} (hx : g.evaluations[m]? = some x)
      (hp : p.left = x.progress.left - 1) :
      ∃ q, (g.evaluations.set m { x with progress := p })[n]? = some { e with progress := q } ∧
        q.left = e.progress.left - (Event.isAdvance n (.advance m)).toNat := by
    rw [getElem?_set_progress he hx]
    by_cases hmn : m = n
    · subst hmn
      cases he.symm.trans hx
      exact ⟨p, by simp, by simpa [Event.isAdvance] using hp⟩
    · exact ⟨e.progress, by simp [hmn], by simp [Event.isAdvance, hmn]⟩
  cases h with
  | refuse | keep | replace | join => exact ⟨e.progress, he, rfl⟩
  | begin =>
      refine ⟨e.progress, ?_, rfl⟩
      rw [List.getElem?_append_left (List.getElem?_eq_some_iff.mp he).1]
      exact he
  | @rest m hm =>
      refine ⟨e.progress, he, ?_⟩
      by_cases hmn : m = n
      · subst hmn
        rcases hm e he with ⟨v, hv⟩ | hc
        · rw [hv]
          exact (Nat.zero_sub _).symm
        · obtain ⟨c, hc'⟩ := SharedChain.get?_isSome (hg.chain e (List.mem_of_getElem? he))
          rw [hc] at hc'
          cases hc'
      · simp [Event.isAdvance, hmn]
  | count hx hp => exact hset hx (by rw [hp]; rfl)
  | decide hx hp => exact hset hx (by rw [hp]; rfl)
  | give hx hp => exact hset hx (by rw [hp]; rfl)

theorem evaluation_after (start : Chain) (events later : List Event)
    (he : (after start events).evaluations[n]? = some e) :
    ∃ p, (after start (events ++ later)).evaluations[n]? = some { e with progress := p } ∧
      p.left = e.progress.left - later.countP (·.isAdvance n) := by
  induction later using List.reverseRecOn with
  | nil => exact ⟨e.progress, by rwa [List.append_nil], rfl⟩
  | append_singleton later ev ih =>
      obtain ⟨p, hp, hleft⟩ := ih
      obtain ⟨q, hq, hq'⟩ := (step_rule _ ev).evaluation (placed_after start (events ++ later)) hp
      refine ⟨q, ?_, ?_⟩
      · rw [← List.append_assoc, after_concat]
        exact hq
      · rw [hq', hleft, List.countP_append, Nat.sub_sub]
        cases h : ev.isAdvance n <;> simp [h]

theorem Rule.kept (h : Rule g ev g') : g.kept <+: g'.kept := by
  cases h with
  | keep | replace => exact List.prefix_append ..
  | refuse | rest | join | begin | count | decide | give => exact List.prefix_rfl

/-- Chains that were taken out of use are kept for good. -/
theorem kept_after (start : Chain) (events later : List Event) :
    (after start events).kept <+: (after start (events ++ later)).kept := by
  induction later using List.reverseRecOn with
  | nil => exact (List.append_nil events).symm ▸ List.prefix_rfl
  | append_singleton later ev ih =>
      rw [← List.append_assoc, after_concat]
      exact ih.trans (step_rule _ ev).kept

/-! ## Where an evaluation comes from -/

/-- The evaluation with this number is the one that was begun at this point of a run. -/
def BegunAt (start : Chain) (events : List Event) (n : Nat) (access : Access) (peer : Peer)
    (id : Nat) : Prop :=
  ∃ earlier later, events = earlier ++ .begin access peer :: later ∧
    n = (after start earlier).evaluations.length ∧ (after start earlier).reach? access = some id

theorem BegunAt.append {access : Access} {peer : Peer} (h : BegunAt start events n access peer id)
    (more : List Event) : BegunAt start (events ++ more) n access peer id := by
  obtain ⟨earlier, later, rfl, hn, hr⟩ := h
  exact ⟨earlier, later ++ more, by simp, hn, hr⟩

/-- Evaluations begin in no other way than by one who comes. -/
theorem Rule.evaluation_old_or_new (h : Rule g ev g') (he : g'.evaluations[n]? = some e) :
    (∃ p, g.evaluations[n]? = some { e with progress := p }) ∨
      n = g.evaluations.length ∧ ev = .begin e.access e.peer ∧ g.reach? e.access = some e.chain := by
  have hset {m : Nat} {x : Evaluation} {p : Progress} (hx : g.evaluations[m]? = some x)
      (he : (g.evaluations.set m { x with progress := p })[n]? = some e) :
      ∃ q, g.evaluations[n]? = some { e with progress := q } := by
    by_cases hmn : m = n
    · subst hmn
      rw [List.getElem?_set_self (List.getElem?_eq_some_iff.mp hx).1] at he
      cases he
      exact ⟨x.progress, hx⟩
    · rw [List.getElem?_set_ne hmn] at he
      exact ⟨e.progress, he⟩
  cases h with
  | refuse | rest | keep | replace | join => exact .inl ⟨e.progress, he⟩
  | begin hr =>
      rcases Nat.lt_or_ge n g.evaluations.length with hn | hn
      · rw [List.getElem?_append_left hn] at he
        exact .inl ⟨e.progress, he⟩
      · rw [List.getElem?_append_right hn] at he
        obtain ⟨hlt, rfl⟩ := List.getElem?_eq_some_iff.mp he
        exact .inr ⟨Nat.le_antisymm (Nat.le_of_sub_eq_zero (Nat.lt_one_iff.mp hlt)) hn, by simp, by simpa⟩
  | count hx | decide hx | give hx => exact .inl (hset hx he)

theorem begunAt_after (start : Chain) (events : List Event)
    (he : (after start events).evaluations[n]? = some e) :
    BegunAt start events n e.access e.peer e.chain := by
  induction events using List.reverseRecOn generalizing e with
  | nil => cases he
  | append_singleton events ev ih =>
      rw [after_concat] at he
      rcases (step_rule _ ev).evaluation_old_or_new he with ⟨p, hp⟩ | ⟨hn, rfl, hr⟩
      · exact (ih hp).append [ev]
      · exact ⟨events, [], rfl, hn, hr⟩

/-! ## By which chain an evaluation is decided -/

/-- This evaluation has hold of the chain with this number, and if it has a verdict, it is that of this
chain. -/
def Decides (g : Gate) (n : Nat) (access : Access) (peer : Peer) (id : Nat) (c : Chain) : Prop :=
  ∃ e, g.evaluations[n]? = some e ∧ e.access = access ∧ e.peer = peer ∧ e.chain = id ∧
    ∀ v, e.verdict? = some v → v = c.verdict peer

/-- The rules of a chain are the same as long as anybody has hold of it. -/
theorem filters_after (start : Chain) (events later : List Event) {c c' : Chain}
    (hc : (after start events).chain.get? id = some c)
    (hc' : (after start (events ++ later)).chain.get? id = some c') : c'.filters = c.filters := by
  have hb := balanced_after start events
  have hid : id < (installed start events).length := hb.length ▸ SharedChain.lt_length_of_get? hc
  have hwas := List.getElem?_eq_getElem hid
  have hlater : (installed start (events ++ later))[id]? = some (installed start events)[id] := by
    rw [installed_append, List.getElem?_append_left hid, hwas]
  rw [(hb.chain id _ c hwas hc).filters, ((balanced_after start _).chain id _ c' hlater hc').filters]

theorem decides_after (start : Chain) (earlier later : List Event) {access : Access} {c : Chain}
    (peer : Peer) (hr : (after start earlier).reach? access = some id)
    (hc : (after start earlier).chain.get? id = some c) :
    Decides (after start (earlier ++ .begin access peer :: later))
      (after start earlier).evaluations.length access peer id c := by
  have hnew : (after start (earlier ++ [.begin access peer])).evaluations[
      (after start earlier).evaluations.length]? = some ⟨access, peer, id, .begun⟩ := by
    rw [after_concat]
    simp [step, Gate.begin, hr]
  have hsplit : earlier ++ .begin access peer :: later = earlier ++ [.begin access peer] ++ later := by simp
  obtain ⟨p, hp, -⟩ := evaluation_after start _ later hnew
  rw [← hsplit] at hp
  refine ⟨_, hp, rfl, rfl, rfl, fun v hv => ?_⟩
  obtain ⟨c', hc', rfl⟩ := (balanced_after start _).told _ (List.mem_of_getElem? hp) v hv
  exact Chain.verdict_congr (filters_after start earlier _ hc hc') peer

/-! ## Without a pause -/

/-- An evaluation by which nobody comes in between is one step of the shared chain. -/
theorem evaluate_eq (hg : Placed g) {access : Access} (hr : g.reach? access = some id) (peer : Peer) :
    g.evaluate access peer =
      { g with
        chain := (g.chain.evaluateAt id peer).2
        sessions := access.note g.sessions (g.chain.evaluateAt id peer).1
        evaluations := g.evaluations ++ [⟨access, peer, id, .over (g.chain.evaluateAt id peer).1⟩] } := by
  have hid := hg.reach hr
  obtain ⟨c, hc⟩ := SharedChain.get?_isSome hid
  have hcounted : (g.chain.modify id Chain.count).get? id = some c.count := by
    rw [SharedChain.get?_modify hid, if_pos rfl, hc]
    rfl
  have hv : c.count.verdict peer = c.verdict peer := Chain.verdict_congr rfl peer
  have hchain : (g.chain.modify id Chain.count).modify id (·.charge (c.verdict peer)) =
      g.chain.modify id fun c => (c.evaluate peer).2 := by
    refine SharedChain.eq_of_toList (List.ext_getElem? fun j => ?_)
    rw [← SharedChain.get?_eq, ← SharedChain.get?_eq, SharedChain.get?_modify hid,
      SharedChain.get?_modify ((SharedChain.length_toList_modify ..).symm ▸ hid),
      SharedChain.get?_modify hid]
    split
    · subst_vars
      rw [hc]
      rfl
    · rfl
  simp [evaluate, step, Gate.begin, hr, advance, count, hcounted, decide, give, hv, hchain,
    SharedChain.evaluateAt, hc]

/-- So is an evaluation for a session one step of a scene with that chain and those sessions. -/
theorem evaluate_session (hg : Placed g) (hn : n < g.sessions.length) (peer : Peer) {s : EngineScene}
    (hs : s.chain = g.chain) (hs' : s.sessions = g.sessions) :
    (g.evaluate (.session n) peer).evaluations =
        g.evaluations ++ [⟨.session n, peer, g.chain.currentId, .over (s.meetOne n peer).1⟩] ∧
      (g.evaluate (.session n) peer).chain = (s.meetOne n peer).2.chain ∧
      (g.evaluate (.session n) peer).sessions = (s.meetOne n peer).2.sessions := by
  have hr : g.reach? (.session n) = some g.chain.currentId := if_pos hn
  rw [evaluate_eq hg hr peer]
  simp [EngineScene.meetOne, EngineScene.setSession, SharedChain.evaluate, hs, hs', Access.note,
    Session.note]

/-! ## The result -/

/-- The books of a gate that had this chain at first, after these events. -/
structure BooksKept (start : Chain) (events : List Event) (g : Gate) : Prop where
  /-- Whoever comes to the shared chain, or to a session, is judged by the chain that is installed then. -/
  shared : ∀ earlier later access peer, events = earlier ++ .begin access peer :: later →
    (access = .shared ∨ ∃ n < (after start earlier).sessions.length, access = .session n) →
      Decides g (after start earlier).evaluations.length access peer
        (after start earlier).chain.currentId (after start earlier).chain.current
  /-- A chain that was kept judges those who come to it. -/
  kept : ∀ earlier later k id peer, events = earlier ++ .begin (.kept k) peer :: later →
    (after start earlier).kept[k]? = some id → ∃ c, (after start earlier).chain.get? id = some c ∧
      Decides g (after start earlier).evaluations.length (.kept k) peer id c
  /-- There are no other evaluations. -/
  begun : ∀ n e, g.evaluations[n]? = some e → BegunAt start events n e.access e.peer e.chain
  /-- An evaluation has ended once it has made its steps, and nothing else delays it. -/
  ends : ∀ n e, g.evaluations[n]? = some e → ∀ later, ∃ p,
    (after start (events ++ later)).evaluations[n]? = some { e with progress := p } ∧
      p.left = e.progress.left - later.countP (·.isAdvance n)
  /-- Who keeps the chain that is installed has that chain from then on. -/
  loaded : ∀ earlier later, events = earlier ++ .keep :: later →
    g.kept[(after start earlier).kept.length]? = some (after start earlier).chain.currentId
  /-- Who installs a chain is given the one that was installed, with what it has counted; the others are
  as they were. -/
  replaced : ∀ earlier later c, events = earlier ++ .replace c :: later →
    g.kept[(after start earlier).kept.length]? = some (after start earlier).chain.currentId ∧
    (after start (earlier ++ [.replace c])).chain.get? (after start earlier).chain.currentId =
      some (after start earlier).chain.current ∧
    (after start (earlier ++ [.replace c])).chain.current = c ∧
    ∀ id ≤ (after start earlier).chain.currentId,
      (after start (earlier ++ [.replace c])).chain.get? id = (after start earlier).chain.get? id
  length : g.chain.toList.length = (installed start events).length
  /-- Each chain has counted the evaluations that took hold of it, and no others. -/
  counted : ∀ id was now, (installed start events)[id]? = some was → g.chain.get? id = some now →
    Accounts g.evaluations id was now
  total : (g.chain.toList.map (·.evaluated)).sum =
    ((installed start events).map (·.evaluated)).sum + g.evaluations.countP (·.isCounted)
  sessions : ∀ n x, g.sessions[n]? = some x → Tallies g.evaluations n x
  /-- Once all evaluations have ended, what the chains have counted adds up to their number, and what a
  session has counted to the number of those for it. -/
  settled : (∀ e ∈ g.evaluations, ∃ v, e.progress = .over v) →
    (g.chain.toList.map (·.evaluated)).sum =
        ((installed start events).map (·.evaluated)).sum + g.evaluations.length ∧
      ∀ n x, g.sessions[n]? = some x →
        x.admitted + x.rejected = g.evaluations.countP (·.access == .session n)
  /-- Where nobody comes in between, an evaluation is a single step of the shared chain, -/
  evaluate : ∀ access id peer, g.reach? access = some id →
    (g.evaluate access peer).evaluations =
        g.evaluations ++ [⟨access, peer, id, .over (g.chain.evaluateAt id peer).1⟩] ∧
      (g.evaluate access peer).chain = (g.chain.evaluateAt id peer).2
  /-- also that of a session. -/
  meetOne : ∀ n peer (s : EngineScene), n < g.sessions.length → s.chain = g.chain →
    s.sessions = g.sessions →
      (g.evaluate (.session n) peer).evaluations =
          g.evaluations ++ [⟨.session n, peer, g.chain.currentId, .over (s.meetOne n peer).1⟩] ∧
        (g.evaluate (.session n) peer).chain = (s.meetOne n peer).2.chain ∧
        (g.evaluate (.session n) peer).sessions = (s.meetOne n peer).2.sessions

theorem kept_of_step (start : Chain) (earlier later : List Event) {ev : Event}
    (hev : ((after start earlier).step ev).kept =
      (after start earlier).kept ++ [(after start earlier).chain.currentId]) :
    (after start (earlier ++ ev :: later)).kept[(after start earlier).kept.length]? =
      some (after start earlier).chain.currentId := by
  have hpre := kept_after start (earlier ++ [ev]) later
  rw [List.append_assoc, List.singleton_append, after_concat, hev] at hpre
  exact List.prefix_iff_getElem?.mp hpre _ (by simp) |>.trans (by simp)

/-- When all evaluations are over, the chains have counted them all, and each session those that it met. -/
theorem settled_of_over (hb : Balanced (installed start events) g)
    (hover : ∀ e ∈ g.evaluations, ∃ v, e.progress = .over v) :
    (g.chain.toList.map (·.evaluated)).sum =
        ((installed start events).map (·.evaluated)).sum + g.evaluations.length ∧
      ∀ n x, g.sessions[n]? = some x →
        x.admitted + x.rejected = g.evaluations.countP (·.access == .session n) := by
  refine ⟨?_, fun n x hx => ?_⟩
  · rw [hb.total, List.countP_eq_length.mpr fun e he => ?_]
    obtain ⟨v, hv⟩ := hover e he
    simp [Evaluation.isCounted, hv]
  · rw [(hb.session n x hx).met]
    refine List.countP_congr fun e he => ?_
    obtain ⟨v, hv⟩ := hover e he
    simp [Evaluation.isMetBy, Evaluation.given?, hv]

/-- However evaluations and replacements fall between each other. -/
theorem books_kept (start : Chain) (events : List Event) :
    BooksKept start events (after start events) where
  shared earlier later access peer hevents haccess := by
    subst hevents
    refine decides_after start earlier later peer ?_ (SharedChain.get?_currentId _)
    rcases haccess with rfl | ⟨n, hn, rfl⟩
    · rfl
    · exact if_pos hn
  kept earlier later k id peer hevents hk := by
    subst hevents
    obtain ⟨c, hc⟩ := SharedChain.get?_isSome
      ((placed_after start earlier).kept id (List.mem_of_getElem? hk))
    exact ⟨c, hc, decides_after start earlier later peer hk hc⟩
  begun n e he := begunAt_after start events he
  ends n e he later := evaluation_after start events later he
  loaded earlier later hevents := by
    subst hevents
    exact kept_of_step start earlier later rfl
  replaced earlier later c hevents := by
    subst hevents
    refine ⟨kept_of_step start earlier later rfl, ?_, ?_, fun id hid => ?_⟩
    · rw [after_concat]
      exact (SharedChain.get?_replace_of_lt (SharedChain.currentId_lt _)).trans
        (SharedChain.get?_currentId _)
    · rw [after_concat]
      rfl
    · rw [after_concat]
      exact SharedChain.get?_replace_of_lt (Nat.lt_of_le_of_lt hid (SharedChain.currentId_lt _))
  length := (balanced_after start events).length
  counted := (balanced_after start events).chain
  total := (balanced_after start events).total
  sessions := (balanced_after start events).session
  settled := settled_of_over (balanced_after start events)
  evaluate access id peer hr := by
    rw [evaluate_eq (placed_after start events) hr peer]
    exact ⟨rfl, rfl⟩
  meetOne n peer s hn hs hs' := evaluate_session (placed_after start events) hn peer hs hs'

end Matcher

-- The chain that was installed when the peer came decides, although another one has replaced it.
example :
    let g := after (.ofFilters [.ofAddresses ["1.1.1.1"]])
      [.begin .shared ⟨[], "", "1.1.1.1"⟩, .replace .admitAll, .advance 0, .advance 0, .advance 0]
    g.evaluations.map (·.progress) = [.over (.block 0)] ∧ g.chain.toList.map (·.evaluated) = [1, 0] := by
  decide +kernel

end Swarmkeeper.Simulation.Gate
