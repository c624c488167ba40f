import Swarmkeeper.Proofs.Simulation.Evaluations

/-!
# What can happen at a gate

The rules by which a gate changes, and what each of them preserves: evaluations have hold of chains that
were installed, and the chains and the sessions have counted what was decided.
-/

namespace Swarmkeeper.Simulation.Gate

open Swarmkeeper.Admission

variable [Pattern.Matcher] {g g' : Gate} {ev : Event} {e : Evaluation} {n id : Nat}

/-! ## Rules -/

/-- What an event can do at a gate. -/
inductive Rule (g : Gate) : Event → Gate → Prop where
  /-- There is no such chain or no such session. -/
  | refuse {access : Access} (hr : g.reach? access = none) (peer : Peer) : Rule g (.begin access peer) g
  /-- There is no such evaluation, or it is over. -/
  | rest {n : Nat} (hn : ∀ e, g.evaluations[n]? = some e →
      (∃ v, e.progress = .over v) ∨ g.chain.get? e.chain = none) : Rule g (.advance n) g
  | keep : Rule g .keep { g with kept := g.kept ++ [g.chain.currentId] }
  | replace (c : Chain) :
      Rule g (.replace c) { g with kept := g.kept ++ [g.chain.currentId], chain := g.chain.replace c }
  | join (plan : Engine.Plan) (isObserved : Bool) :
      Rule g (.join plan isObserved) { g with sessions := g.sessions ++ [⟨plan, 0, 0, false, isObserved⟩] }
  | begin {access : Access} {peer : Peer} {id : Nat} (hr : g.reach? access = some id) :
      Rule g (.begin access peer)
        { g with evaluations := g.evaluations ++ [⟨access, peer, id, .begun⟩] }
  | count {n : Nat} {e : Evaluation} (he : g.evaluations[n]? = some e) (hp : e.progress = .begun) :
      Rule g (.advance n)
        { g with
          chain := g.chain.modify e.chain Chain.count
          evaluations := g.evaluations.set n { e with progress := .counted } }
  | decide {n : Nat} {e : Evaluation} {c : Chain} (he : g.evaluations[n]? = some e)
      (hp : e.progress = .counted) (hc : g.chain.get? e.chain = some c) :
      Rule g (.advance n)
        { g with
          chain := g.chain.modify e.chain (·.charge (c.verdict e.peer))
          evaluations := g.evaluations.set n { e with progress := .decided (c.verdict e.peer) } }
  | give {n : Nat} {e : Evaluation} {v : Verdict} (he : g.evaluations[n]? = some e)
      (hp : e.progress = .decided v) :
      Rule g (.advance n)
        { g with
          sessions := e.access.note g.sessions v
          evaluations := g.evaluations.set n { e with progress := .over v } }

theorem begin_rule (g : Gate) (access : Access) (peer : Peer) :
    Rule g (.begin access peer) (g.begin access peer) := by
  unfold Gate.begin
  split
  · exact .begin ‹_›
  · exact .refuse ‹_› peer

theorem advance_rule (g : Gate) (n : Nat) : Rule g (.advance n) (g.advance n) := by
  unfold advance
  split
  · exact .rest (by simp [*])
  · rename_i e he
    split
    · exact .count he ‹_›
    · unfold decide
      split
      · exact .decide he ‹_› ‹_›
      · exact .rest fun e' he' => .inr (by simp_all)
    · exact .give he ‹_›
    · exact .rest fun e' he' => .inl (by simp_all)

/-- Every event follows one of the rules. -/
theorem step_rule (g : Gate) (ev : Event) : Rule g ev (g.step ev) := by
  cases ev with
  | keep => exact .keep
  | replace c => exact .replace c
  | join plan isObserved => exact .join plan isObserved
  | begin access peer => exact begin_rule g access peer
  | advance n => exact advance_rule g n

/-- The chain that an event installs. -/
def Event.chain? : Event → Option Chain
  | .replace c => some c
  | _ => none

/-! ## Everything is in its place -/

/-- Evaluations have hold of chains that were installed, and belong to sessions that are there. -/
structure Placed (g : Gate) : Prop where
  chain : ∀ e ∈ g.evaluations, e.chain < g.chain.toList.length
  kept : ∀ id ∈ g.kept, id < g.chain.toList.length
  session : ∀ e ∈ g.evaluations, ∀ n, e.access = .session n → n < g.sessions.length

theorem Placed.reach (hg : Placed g) {access : Access} (hr : g.reach? access = some id) :
    id < g.chain.toList.length := by
  cases access with
  | shared =>
      cases hr
      exact g.chain.currentId_lt
  | kept n => exact hg.kept id (List.mem_of_getElem? hr)
  | session n =>
      simp only [reach?] at hr
      split at hr
      · cases hr
        exact g.chain.currentId_lt
      · cases hr

theorem Placed.setProgress (hg : Placed g) {p : Progress} {chain : SharedChain} {sessions : List Session}
    (he : g.evaluations[n]? = some e) (hc : chain.toList.length = g.chain.toList.length)
    (hs : sessions.length = g.sessions.length) :
    Placed ⟨chain, g.kept, sessions, g.evaluations.set n { e with progress := p }⟩ := by
  refine ⟨fun x hx => ?_, fun id hid => ?_, fun x hx m hm => ?_⟩
  · rw [hc]
    rcases mem_set_progress he hx with hx | ⟨rfl, he⟩
    · exact hg.chain x hx
    · exact hg.chain e he
  · rw [hc]
    exact hg.kept id hid
  · rw [hs]
    rcases mem_set_progress he hx with hx | ⟨rfl, he⟩
    · exact hg.session x hx m hm
    · exact hg.session e he m hm

/-- Evaluations keep hold of chains that were installed. -/
theorem Rule.placed (h : Rule g ev g') (hg : Placed g) : Placed g' := by
  have hlt := g.chain.currentId_lt
  cases h with
  | refuse | rest => exact hg
  | keep =>
      refine ⟨hg.chain, fun id hid => ?_, hg.session⟩
      rcases List.mem_append.mp hid with hid | hid
      · exact hg.kept id hid
      · exact List.mem_singleton.mp hid ▸ hlt
  | replace c =>
      have hlen : (g.chain.replace c).toList.length = g.chain.toList.length + 1 := by simp
      refine ⟨fun e he => ?_, fun id hid => ?_, hg.session⟩
      · exact hlen ▸ Nat.lt_succ_of_lt (hg.chain e he)
      · rw [hlen]
        rcases List.mem_append.mp hid with hid | hid
        · exact Nat.lt_succ_of_lt (hg.kept id hid)
        · exact Nat.lt_succ_of_lt (List.mem_singleton.mp hid ▸ hlt)
  | join =>
      refine ⟨hg.chain, hg.kept, fun e he n hn => ?_⟩
      rw [List.length_append]
      exact Nat.lt_add_right _ (hg.session e he n hn)
  | @begin access peer id hr =>
      refine ⟨fun e he => ?_, hg.kept, fun e he n hn => ?_⟩
      · rcases List.mem_append.mp he with he | he
        · exact hg.chain e he
        · cases List.mem_singleton.mp he
          exact hg.reach hr
      · rcases List.mem_append.mp he with he | he
        · exact hg.session e he n hn
        · cases List.mem_singleton.mp he
          cases hn
          simp only [reach?] at hr
          split at hr
          · assumption
          · cases hr
  | @count n e he => exact hg.setProgress he (SharedChain.length_toList_modify ..) rfl
  | @decide n e c he => exact hg.setProgress he (SharedChain.length_toList_modify ..) rfl
  | @give n e v he =>
      refine hg.setProgress he rfl ?_
      cases e.access <;> simp [Access.note]

/-! ## The books -/

/-- What was counted at a gate at which these chains were installed. -/
structure Balanced (chains : List Chain) (g : Gate) : Prop where
  length : g.chain.toList.length = chains.length
  chain : ∀ id was now, chains[id]? = some was → g.chain.get? id = some now →
    Accounts g.evaluations id was now
  total : (g.chain.toList.map (·.evaluated)).sum =
    (chains.map (·.evaluated)).sum + g.evaluations.countP (·.isCounted)
  session : ∀ n x, g.sessions[n]? = some x → Tallies g.evaluations n x
  /-- A verdict is that of the chain that the evaluation has hold of. -/
  told : ∀ e ∈ g.evaluations, ∀ v, e.verdict? = some v →
    ∃ c, g.chain.get? e.chain = some c ∧ v = c.verdict e.peer

/-! ## Every rule keeps the books -/

variable {chains : List Chain}

theorem Balanced.replace (h : Balanced chains g) (hg : Placed g) (c : Chain) :
    Balanced (chains ++ [c])
      { g with kept := g.kept ++ [g.chain.currentId], chain := g.chain.replace c } where
  length := by
    rw [SharedChain.toList_replace, List.length_append, List.length_append, h.length]
  chain id was now hwas hnow := by
    rcases Nat.lt_or_ge id chains.length with hid | hid
    · rw [List.getElem?_append_left hid] at hwas
      rw [SharedChain.get?_replace_of_lt (h.length ▸ hid)] at hnow
      exact h.chain id was now hwas hnow
    · -- the new chain has counted nothing, as nobody can have taken hold of it
      have hnone : ∀ e ∈ g.evaluations, e.chain ≠ id := fun e he =>
        Nat.ne_of_lt (Nat.lt_of_lt_of_le (hg.chain e he) (h.length ▸ hid))
      have heq : was = now := by
        rw [SharedChain.get?_eq, SharedChain.toList_replace,
          List.getElem?_append_right (h.length ▸ hid), h.length] at hnow
        rw [List.getElem?_append_right hid, hnow] at hwas
        exact (Option.some.inj hwas).symm
      exact heq ▸ .fresh hnone
  total := by
    have ht := h.total
    simp only [SharedChain.toList_replace, List.map_append, List.sum_append, ht]
    exact Nat.add_right_comm ..
  session := h.session
  told e he v hv := by
    obtain ⟨c', hc', rfl⟩ := h.told e he v hv
    exact ⟨c', by rw [SharedChain.get?_replace_of_lt (hg.chain e he), hc'], rfl⟩

theorem Balanced.join (h : Balanced chains g) (hg : Placed g) (plan : Engine.Plan) (isObserved : Bool) :
    Balanced chains { g with sessions := g.sessions ++ [⟨plan, 0, 0, false, isObserved⟩] } where
  length := h.length
  chain := h.chain
  total := h.total
  session n x hx := by
    rcases Nat.lt_or_ge n g.sessions.length with hn | hn
    · rw [List.getElem?_append_left hn] at hx
      exact h.session n x hx
    · -- nobody can have met a peer in the name of the new session
      have hnone : ∀ e ∈ g.evaluations, e.access ≠ .session n := fun e he ha =>
        Nat.not_lt.mpr hn (hg.session e he n ha)
      rw [List.getElem?_append_right hn] at hx
      obtain rfl := List.mem_singleton.mp (List.mem_of_getElem? hx)
      exact .fresh hnone rfl rfl
  told := h.told

theorem Balanced.begin (h : Balanced chains g) (access : Access) (peer : Peer) (id : Nat) :
    Balanced chains { g with evaluations := g.evaluations ++ [⟨access, peer, id, .begun⟩] } where
  length := h.length
  chain k was now hwas hnow :=
    (h.chain k was now hwas hnow).congr
      (by simp [Evaluation.isCountedOn, Evaluation.isCounted])
      fun i => by simp [Evaluation.isChargedTo, Evaluation.verdict?]
  total := by
    rw [List.countP_append]
    exact h.total
  session n x hx :=
    (h.session n x hx).congr (by simp [Evaluation.isMetBy, Evaluation.given?])
      (by simp [Evaluation.isRejectedBy, Evaluation.given?])
  told e he v hv := by
    rcases List.mem_append.mp he with he | he
    · exact h.told e he v hv
    · cases List.mem_singleton.mp he
      cases hv

theorem Balanced.count (h : Balanced chains g) (hg : Placed g) (he : g.evaluations[n]? = some e)
    (hp : e.progress = .begun) :
    Balanced chains
      { g with
        chain := g.chain.modify e.chain Chain.count
        evaluations := g.evaluations.set n { e with progress := .counted } } where
  length := (SharedChain.length_toList_modify ..).trans h.length
  chain :=
    have hid := hg.chain e (List.mem_of_getElem? he)
    accounts_modify hid h.chain
      (fun was now hwas hnow => (h.chain _ was now hwas hnow).count he hp rfl)
      fun k was now hk ha => ha.elsewhere he hk
  total := by
    rw [sum_evaluated_count (hg.chain e (List.mem_of_getElem? he)),
      countP_set_of_new he (by simp [Evaluation.isCounted, hp]) (by simp [Evaluation.isCounted]), h.total]
    exact Nat.add_assoc ..
  session k x hx := (h.session k x hx).silent he (by simp [Evaluation.given?, hp]) rfl
  told x hx v hv := by
    rcases mem_set_progress he hx with hx | ⟨rfl, -⟩
    · exact verdict_modify Chain.filters_count (hg.chain e (List.mem_of_getElem? he)) (h.told x hx v hv)
    · cases hv

theorem Balanced.decide (h : Balanced chains g) (hg : Placed g) {c : Chain}
    (he : g.evaluations[n]? = some e) (hp : e.progress = .counted) (hc : g.chain.get? e.chain = some c) :
    Balanced chains
      { g with
        chain := g.chain.modify e.chain (·.charge (c.verdict e.peer))
        evaluations := g.evaluations.set n { e with progress := .decided (c.verdict e.peer) } } where
  length := (SharedChain.length_toList_modify ..).trans h.length
  chain :=
    have hid := hg.chain e (List.mem_of_getElem? he)
    accounts_modify hid h.chain
      (fun was now hwas hnow => (h.chain _ was now hwas hnow).charge he hp rfl _)
      fun k was now hk ha => ha.elsewhere he hk
  total := by
    rw [sum_evaluated_charge (hg.chain e (List.mem_of_getElem? he)),
      countP_set_of_eq he (by simp [Evaluation.isCounted, hp]), h.total]
  session k x hx := (h.session k x hx).silent he (by simp [Evaluation.given?, hp]) rfl
  told x hx v hv := by
    refine verdict_modify (fun c' => Chain.filters_charge c' _) (hg.chain e (List.mem_of_getElem? he)) ?_
    rcases mem_set_progress he hx with hx | ⟨rfl, -⟩
    · exact h.told x hx v hv
    · exact ⟨c, hc, (Option.some.inj hv).symm⟩

theorem Balanced.give (h : Balanced chains g) {v : Verdict} (he : g.evaluations[n]? = some e)
    (hp : e.progress = .decided v) :
    Balanced chains
      { g with
        sessions := e.access.note g.sessions v
        evaluations := g.evaluations.set n { e with progress := .over v } } where
  length := h.length
  chain k was now hwas hnow := (h.chain k was now hwas hnow).give he hp
  total := by
    rw [countP_set_of_eq he (by simp [Evaluation.isCounted, hp])]
    exact h.total
  session := tallies_give h.session he hp
  told x hx u hu := by
    rcases mem_set_progress he hx with hx | ⟨rfl, hmem⟩
    · exact h.told x hx u hu
    · exact h.told e hmem u (by simpa [Evaluation.verdict?, hp] using hu)

/-- What the chains and sessions have counted agrees with the evaluations, whatever happens at the gate. -/
theorem Rule.balanced (h : Rule g ev g') (hg : Placed g) (hb : Balanced chains g) :
    Balanced (chains ++ ev.chain?.toList) g' := by
  have hsame {g' : Gate} (h : Balanced chains g') : Balanced (chains ++ []) g' := by
    rwa [List.append_nil]
  cases h with
  | refuse | rest => exact hsame hb
  | keep => exact hsame ⟨hb.length, hb.chain, hb.total, hb.session, hb.told⟩
  | replace c => exact hb.replace hg c
  | join plan isObserved => exact hsame (hb.join hg plan isObserved)
  | @begin access peer id => exact hsame (hb.begin access peer id)
  | count he hp => exact hsame (hb.count hg he hp)
  | decide he hp hc => exact hsame (hb.decide hg he hp hc)
  | give he hp => exact hsame (hb.give he hp)

end Swarmkeeper.Simulation.Gate
