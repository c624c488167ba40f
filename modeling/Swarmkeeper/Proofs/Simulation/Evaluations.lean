import Swarmkeeper.Proofs.Admission.Counting
import Swarmkeeper.Proofs.Admission.Replacement
import Swarmkeeper.Simulation.Gate

/-!
# Evaluations and what is counted for them

How many of the evaluations at a gate have come how far, and what a chain and a session must have counted
for them. Each lemma is about one evaluation that goes on while the others do not.
-/

namespace Swarmkeeper.Simulation

open Swarmkeeper.Admission

/-! ## What an evaluation has done -/

/-- How many steps an evaluation has still to make. -/
def Progress.left : Progress → Nat
  | .begun => 3
  | .counted => 2
  | .decided _ => 1
  | .over _ => 0

namespace Evaluation

/-- The chain has counted the peer. -/
def isCounted (e : Evaluation) : Bool :=
  match e.progress with
  | .begun => false
  | _ => true

/-- The verdict, once there is one. -/
def verdict? (e : Evaluation) : Option Verdict :=
  match e.progress with
  | .decided v | .over v => some v
  | .begun | .counted => none

/-- The verdict, once it has been given. -/
def given? (e : Evaluation) : Option Verdict :=
  match e.progress with
  | .over v => some v
  | _ => none

/-- The chain with this number has counted the peer. -/
def isCountedOn (id : Nat) (e : Evaluation) : Bool := e.chain == id && e.isCounted

/-- The verdict was charged to this rule of the chain with this number. -/
def isChargedTo (id i : Nat) (e : Evaluation) : Bool := e.chain == id && e.verdict? == some (.block i)

/-- The session with this number was given a verdict. -/
def isMetBy (n : Nat) (e : Evaluation) : Bool := e.access == .session n && e.given?.isSome

/-- The session with this number was told not to admit the peer. -/
def isRejectedBy (n : Nat) (e : Evaluation) : Bool := e.access == .session n && e.given?.any (·.isBlock)

end Evaluation

/-! ## One evaluation goes on -/

section Set

variable {es : List Evaluation} {n : Nat} {e x : Evaluation}

theorem countP_set (he : es[n]? = some e) (p : Evaluation → Bool) :
    (es.set n x).countP p + (p e).toNat = es.countP p + (p x).toNat := by
  obtain ⟨hlt, rfl⟩ := List.getElem?_eq_some_iff.mp he
  have hpos : p es[n] = true → 0 < es.countP p := fun h =>
    List.countP_pos_iff.mpr ⟨_, List.getElem_mem hlt, h⟩
  rw [List.countP_set hlt]
  generalize es.countP p = k at hpos ⊢
  cases h : p es[n] with
  | false => cases p x <;> rfl
  | true =>
      have hk := Nat.sub_add_cancel (hpos h)
      cases p x with
      | false => exact hk
      | true => exact congrArg (· + 1) hk

theorem countP_set_of_eq (he : es[n]? = some e) {p : Evaluation → Bool} (hp : p x = p e) :
    (es.set n x).countP p = es.countP p := by
  have h := countP_set (x := x) he p
  rw [hp] at h
  exact Nat.add_right_cancel h

theorem countP_set_of_new (he : es[n]? = some e) {p : Evaluation → Bool} (hp : p e = false)
    (hp' : p x = true) : (es.set n x).countP p = es.countP p + 1 := by
  simpa [hp, hp'] using countP_set (x := x) he p

theorem mem_set_progress {p : Progress} (he : es[n]? = some e)
    (hx : x ∈ es.set n { e with progress := p }) :
    x ∈ es ∨ x = { e with progress := p } ∧ e ∈ es := by
  rcases List.mem_or_eq_of_mem_set hx with hx | hx
  · exact .inl hx
  · exact .inr ⟨hx, List.mem_of_getElem? he⟩

theorem getElem?_set_progress {m : Nat} {p : Progress}
    (he : es[n]? = some e) (hx : es[m]? = some x) :
    (es.set m { x with progress := p })[n]? = some (if m = n then { e with progress := p } else e) := by
  by_cases hmn : m = n
  · subst hmn
    cases he.symm.trans hx
    rw [if_pos rfl, List.getElem?_set_self (List.getElem?_eq_some_iff.mp he).1]
  · rw [if_neg hmn, List.getElem?_set_ne hmn, he]

end Set

variable {es es' : List Evaluation} {e : Evaluation} {n id : Nat} {p : Progress} {v : Verdict}

/-! ## The books -/

/-- What a session has counted. -/
structure Tallies (es : List Evaluation) (n : Nat) (x : Session) : Prop where
  met : x.admitted + x.rejected = es.countP (·.isMetBy n)
  rejected : x.rejected = es.countP (·.isRejectedBy n)

section Accounts

variable [Pattern.Matcher] {was now : Chain}

/-- What a chain has counted since it was installed. -/
structure Accounts (es : List Evaluation) (id : Nat) (was now : Chain) : Prop where
  filters : now.filters = was.filters
  evaluated : now.evaluated = was.evaluated + es.countP (·.isCountedOn id)
  counts : ∀ i, now.counts[i]? = was.counts[i]?.map (· + es.countP (·.isChargedTo id i))

theorem Accounts.congr (h : Accounts es id was now)
    (hn : es'.countP (·.isCountedOn id) = es.countP (·.isCountedOn id))
    (hi : ∀ i, es'.countP (·.isChargedTo id i) = es.countP (·.isChargedTo id i)) :
    Accounts es' id was now :=
  ⟨h.filters, hn ▸ h.evaluated, fun i => hi i ▸ h.counts i⟩

/-- A chain that nobody has taken hold of has counted nothing. -/
theorem Accounts.fresh (h : ∀ e ∈ es, e.chain ≠ id) : Accounts es id was was := by
  refine ⟨rfl, ?_, fun i => ?_⟩
  · rw [List.countP_eq_zero.mpr fun e he => by simp [Evaluation.isCountedOn, h e he]]
    rfl
  · rw [List.countP_eq_zero.mpr fun e he => by simp [Evaluation.isChargedTo, h e he]]
    cases was.counts[i]? <;> rfl

/-- What happens to the evaluations of other chains does not matter. -/
theorem Accounts.elsewhere (h : Accounts es id was now) (he : es[n]? = some e) (hid : e.chain ≠ id) :
    Accounts (es.set n { e with progress := p }) id was now :=
  have hne : (e.chain == id) = false := beq_eq_false_iff_ne.mpr hid
  h.congr (countP_set_of_eq he (by simp [Evaluation.isCountedOn, hne]))
    fun i => countP_set_of_eq he (by simp [Evaluation.isChargedTo, hne])

/-- An evaluation that begins is counted on its chain. -/
theorem Accounts.count (h : Accounts es id was now) (he : es[n]? = some e) (hp : e.progress = .begun)
    (hid : e.chain = id) : Accounts (es.set n { e with progress := .counted }) id was now.count where
  filters := h.filters
  evaluated := by
    rw [countP_set_of_new he (by simp [Evaluation.isCountedOn, Evaluation.isCounted, hp])
      (by simp [Evaluation.isCountedOn, Evaluation.isCounted, hid])]
    exact congrArg (· + 1) h.evaluated
  counts i := by
    rw [countP_set_of_eq he (by simp [Evaluation.isChargedTo, Evaluation.verdict?, hp])]
    exact h.counts i

/-- An evaluation that is decided is charged to its rule. -/
theorem Accounts.charge (h : Accounts es id was now) (he : es[n]? = some e) (hp : e.progress = .counted)
    (hid : e.chain = id) (v : Verdict) :
    Accounts (es.set n { e with progress := .decided v }) id was (now.charge v) where
  filters := (Chain.filters_charge now v).trans h.filters
  evaluated := by
    rw [countP_set_of_eq he (by simp [Evaluation.isCountedOn, Evaluation.isCounted, hp])]
    exact h.evaluated
  counts i := by
    have hold : e.isChargedTo id i = false := by simp [Evaluation.isChargedTo, Evaluation.verdict?, hp]
    have hi := h.counts i
    rw [Chain.counts_charge]
    cases v with
    | allow =>
        rw [countP_set_of_eq he]
        · exact hi
        · rw [hold]
          simp [Evaluation.isChargedTo, Evaluation.verdict?]
    | block j =>
        rw [List.getElem?_modify, hi]
        by_cases hj : j = i
        · subst hj
          rw [countP_set_of_new he hold (by simp [Evaluation.isChargedTo, Evaluation.verdict?, hid])]
          cases was.counts[j]? <;> simp [Nat.add_assoc]
        · rw [countP_set_of_eq he]
          · simp [hj]
          · rw [hold]
            simp [Evaluation.isChargedTo, Evaluation.verdict?, hj]

theorem Accounts.give (h : Accounts es id was now) (he : es[n]? = some e) (hp : e.progress = .decided v) :
    Accounts (es.set n { e with progress := .over v }) id was now :=
  h.congr
    (countP_set_of_eq he (by simp [Evaluation.isCountedOn, Evaluation.isCounted, hp]))
    fun i => countP_set_of_eq he (by simp [Evaluation.isChargedTo, Evaluation.verdict?, hp])

end Accounts

section Tallies

variable {x : Session}

theorem Tallies.congr (h : Tallies es n x)
    (hm : es'.countP (·.isMetBy n) = es.countP (·.isMetBy n))
    (hr : es'.countP (·.isRejectedBy n) = es.countP (·.isRejectedBy n)) : Tallies es' n x :=
  ⟨hm ▸ h.met, hr ▸ h.rejected⟩

theorem Tallies.fresh (h : ∀ e ∈ es, e.access ≠ .session n) (hadmitted : x.admitted = 0)
    (hrejected : x.rejected = 0) : Tallies es n x := by
  constructor
  · rw [List.countP_eq_zero.mpr fun e he => by simp [Evaluation.isMetBy, h e he], hadmitted, hrejected]
  · rw [List.countP_eq_zero.mpr fun e he => by simp [Evaluation.isRejectedBy, h e he], hrejected]

/-- Nothing is counted before the verdict is given. -/
theorem Tallies.silent (h : Tallies es n x) {k : Nat} (he : es[k]? = some e) (hold : e.given? = none)
    (hnew : Evaluation.given? { e with progress := p } = none) :
    Tallies (es.set k { e with progress := p }) n x :=
  h.congr (countP_set_of_eq he (by simp [Evaluation.isMetBy, hold, hnew]))
    (countP_set_of_eq he (by simp [Evaluation.isRejectedBy, hold, hnew]))

theorem Tallies.elsewhere (h : Tallies es n x) {k : Nat} (he : es[k]? = some e)
    (hn : e.access ≠ .session n) : Tallies (es.set k { e with progress := p }) n x :=
  have hne : (e.access == .session n) = false := beq_eq_false_iff_ne.mpr hn
  h.congr (countP_set_of_eq he (by simp [Evaluation.isMetBy, hne]))
    (countP_set_of_eq he (by simp [Evaluation.isRejectedBy, hne]))

/-- A session notes the verdict that it is given. -/
theorem Tallies.note (h : Tallies es n x) {k : Nat} (he : es[k]? = some e) (hp : e.progress = .decided v)
    (hn : e.access = .session n) : Tallies (es.set k { e with progress := .over v }) n (x.note v) := by
  have hmet := h.met
  have hrej := h.rejected
  have hm : (es.set k { e with progress := .over v }).countP (·.isMetBy n) =
      es.countP (·.isMetBy n) + 1 :=
    countP_set_of_new he (by simp [Evaluation.isMetBy, Evaluation.given?, hp])
      (by simp [Evaluation.isMetBy, Evaluation.given?, hn])
  have hold : e.isRejectedBy n = false := by simp [Evaluation.isRejectedBy, Evaluation.given?, hp]
  cases v with
  | allow =>
      have hr := countP_set_of_eq (x := { e with progress := .over .allow }) he
        (p := (·.isRejectedBy n))
        (by rw [hold]; simp [Evaluation.isRejectedBy, Evaluation.given?, Verdict.isBlock])
      refine ⟨?_, ?_⟩
      · rw [hm, ← hmet]
        exact Nat.succ_add ..
      · rw [hr]
        exact hrej
  | block i =>
      have hr := countP_set_of_new (x := { e with progress := .over (.block i) }) he
        (p := (·.isRejectedBy n)) hold
        (by simp [hn, Evaluation.isRejectedBy, Evaluation.given?, Verdict.isBlock])
      refine ⟨?_, ?_⟩
      · rw [hm, ← hmet]
        rfl
      · rw [hr, ← hrej]
        rfl

/-- The verdict is counted by the session that asked for it, if a session did. -/
theorem tallies_give {sessions : List Session} (h : ∀ k x, sessions[k]? = some x → Tallies es k x)
    (he : es[n]? = some e) (hp : e.progress = .decided v) (k : Nat) (x : Session)
    (hx : (e.access.note sessions v)[k]? = some x) :
    Tallies (es.set n { e with progress := .over v }) k x := by
  cases ha : e.access with
  | shared | kept =>
      rw [ha, Access.note] at hx
      rw [← ha]
      exact (h k x hx).elsewhere he (by simp [ha])
  | session i =>
      rw [ha, Access.note, List.getElem?_modify] at hx
      rw [← ha]
      by_cases hik : i = k
      · subst hik
        cases hy : sessions[i]? with
        | none => simp [hy] at hx
        | some y =>
            simp only [hy, if_true, Option.map_eq_map, Option.map_some, Option.some_inj] at hx
            exact hx ▸ (h i y hy).note he hp ha
      · simp only [hik, if_false, id_map'] at hx
        exact (h k x hx).elsewhere he (by simpa [ha] using hik)

end Tallies

/-! ## What is done to a chain -/

section Chains

variable [Pattern.Matcher] {chain : SharedChain} {chains : List Chain} {f : Chain → Chain}

/-- Where one chain is changed, it is enough to look at that one. -/
theorem accounts_modify (hid : id < chain.toList.length)
    (h : ∀ k was now, chains[k]? = some was → chain.get? k = some now → Accounts es k was now)
    (hf : ∀ was now, chains[id]? = some was → chain.get? id = some now → Accounts es' id was (f now))
    (hne : ∀ k was now, id ≠ k → Accounts es k was now → Accounts es' k was now) :
    ∀ k was now, chains[k]? = some was → (chain.modify id f).get? k = some now →
      Accounts es' k was now := by
  intro k was now hwas hnow
  rw [SharedChain.get?_modify hid] at hnow
  split at hnow
  · subst_vars
    obtain ⟨c, hc, rfl⟩ := Option.map_eq_some_iff.mp hnow
    exact hf was c hwas hc
  · exact hne k was now ‹_› (h k was now hwas hnow)

theorem verdict_modify (hf : ∀ c, (f c).filters = c.filters) (hid : id < chain.toList.length) {k : Nat}
    {peer : Peer} {v : Verdict} (h : ∃ c, chain.get? k = some c ∧ v = c.verdict peer) :
    ∃ c, (chain.modify id f).get? k = some c ∧ v = c.verdict peer := by
  obtain ⟨c, hc, rfl⟩ := h
  rw [SharedChain.get?_modify hid, hc]
  split
  · exact ⟨f c, rfl, (Chain.verdict_congr (hf c) peer).symm⟩
  · exact ⟨c, rfl, rfl⟩

theorem sum_evaluated_count (hid : id < chain.toList.length) :
    ((chain.modify id Chain.count).toList.map (·.evaluated)).sum =
      (chain.toList.map (·.evaluated)).sum + 1 := by
  rw [SharedChain.toList_modify _ hid, map_modify (h := (· + 1)) fun _ => rfl]
  exact sum_modify_succ (by simpa using hid)

theorem sum_evaluated_charge {k : Nat} (hk : k < chain.toList.length) (v : Verdict) :
    ((chain.modify k (·.charge v)).toList.map (·.evaluated)).sum =
      (chain.toList.map (·.evaluated)).sum := by
  have hm := map_modify (f := (·.charge v)) (g := Chain.evaluated) (h := id) (fun _ => rfl)
  rw [SharedChain.toList_modify _ hk, hm, List.modify_id]

end Chains

end Swarmkeeper.Simulation
