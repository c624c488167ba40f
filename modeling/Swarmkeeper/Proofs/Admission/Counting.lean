import Mathlib.Algebra.GroupWithZero.Nat
import Swarmkeeper.Proofs.Admission.Decision

/-!
# What a chain has counted

A chain decides on each peer by its rules alone, whatever it has seen before, and the first rule that
blocks the peer is the one that is charged. So its counters say how often each verdict was given. Whether a
peer is blocked does not depend on the order of the rules, nor on rules that could not be read.
-/

namespace Swarmkeeper.Admission

/-! ## A list that changes at one place -/

theorem map_modify {α β : Type*} {f : α → α} {g : α → β} {h : β → β} (hf : ∀ a, g (f a) = h (g a))
    (l : List α) (i : Nat) : (l.modify i f).map g = (l.map g).modify i h := by
  refine List.ext_getElem? fun j => ?_
  rw [List.getElem?_map, List.getElem?_modify, List.getElem?_modify, List.getElem?_map]
  cases l[j]? with
  | none => split <;> rfl
  | some a =>
      split
      · exact congrArg some (hf a)
      · rfl

theorem sum_modify_succ {counts : List Nat} {i : Nat} (h : i < counts.length) :
    (counts.modify i (· + 1)).sum = counts.sum + 1 := by
  induction counts generalizing i with
  | nil => exact absurd h (Nat.not_lt_zero i)
  | cons n counts ih =>
      cases i with
      | zero =>
          rw [List.modify_zero_cons, List.sum_cons, List.sum_cons]
          omega
      | succ i =>
          rw [List.modify_succ_cons, List.sum_cons, List.sum_cons, ih (Nat.lt_of_succ_lt_succ h)]
          omega

/-! ## Rules that do not matter -/

section Matcher

variable [Pattern.Matcher]

/-- The pattern of the rule could not be read. -/
inductive Filter.Unreadable : Filter → Prop where
  | range (pattern : String) : Unreadable (.range pattern none)
  | clientName (source : String) : Unreadable (.clientName source none)
  | peerId (source : String) : Unreadable (.peerId source none)

/-- One list of rules is made of another by exchanging rules, and by putting in or taking out rules that
could not be read. -/
inductive Rearranged : List Filter → List Filter → Prop where
  | exchange {fs gs : List Filter} (h : fs.Perm gs) : Rearranged fs gs
  | putIn {f : Filter} (hf : f.Unreadable) (fs gs : List Filter) : Rearranged (fs ++ gs) (fs ++ f :: gs)
  | takeOut {f : Filter} (hf : f.Unreadable) (fs gs : List Filter) : Rearranged (fs ++ f :: gs) (fs ++ gs)
  | trans {fs gs hs : List Filter} (h : Rearranged fs gs) (h' : Rearranged gs hs) : Rearranged fs hs

variable {f : Filter} {fs gs filters : List Filter} {peer : Peer} {peers : List Peer}

theorem unreadable_ofRange {pattern : String} :
    (Filter.ofRange pattern).Unreadable ↔ ∃ fault, Range.ofText pattern = .error fault := by
  cases h : Range.ofText pattern with
  | error fault => simpa [Filter.ofRange, h, Except.toOption] using Filter.Unreadable.range pattern
  | ok r =>
      simp only [Filter.ofRange, h, Except.toOption, reduceCtorEq, exists_false, iff_false]
      rintro ⟨⟩

theorem unreadable_ofClientName {source : String} :
    (Filter.ofClientName source).Unreadable ↔ Pattern.Matcher.compile? .text source = none := by
  cases h : Pattern.Matcher.compile? .text source with
  | none => simpa [Filter.ofClientName, h] using Filter.Unreadable.clientName source
  | some p =>
      simp only [Filter.ofClientName, h, reduceCtorEq, iff_false]
      rintro ⟨⟩

theorem unreadable_ofPeerId {source : String} :
    (Filter.ofPeerId source).Unreadable ↔ Pattern.Matcher.compile? .bytes source = none := by
  cases h : Pattern.Matcher.compile? .bytes source with
  | none => simpa [Filter.ofPeerId, h] using Filter.Unreadable.peerId source
  | some p =>
      simp only [Filter.ofPeerId, h, reduceCtorEq, iff_false]
      rintro ⟨⟩

/-- A rule that could not be read blocks nobody. -/
theorem Filter.Unreadable.blocks_eq_false (hf : f.Unreadable) (peer : Peer) : f.blocks peer = false := by
  cases hf <;> rfl

/-- Whether some rule blocks a peer does not depend on their order. -/
theorem Rearranged.any_blocks (h : Rearranged fs gs) (peer : Peer) :
    fs.any (·.blocks peer) = gs.any (·.blocks peer) := by
  induction h with
  | exchange h => exact h.any_eq
  | putIn hf fs gs => simp [hf.blocks_eq_false peer]
  | takeOut hf fs gs => simp [hf.blocks_eq_false peer]
  | trans _ _ ih ih' => exact ih.trans ih'

/-! ## One verdict -/

/-- The rule at this position blocks the peer, and none before it does. -/
def FirstBlocks (filters : List Filter) (peer : Peer) (i : Nat) : Prop :=
  ∃ f, filters[i]? = some f ∧ f.blocks peer = true ∧
    ∀ j < i, ∀ g, filters[j]? = some g → g.blocks peer = false

namespace Chain

variable {c c' : Chain}

/-- How many peers each rule has blocked. -/
def counts (c : Chain) : List Nat := c.rules.map (·.blocked)

theorem length_counts (c : Chain) : c.counts.length = c.filters.length := by simp [counts, filters]

theorem counts_ofFilters (filters : List Filter) :
    (ofFilters filters).counts = List.replicate filters.length 0 := by
  simp [counts, ofFilters, Function.comp_def]

@[simp] theorem filters_count (c : Chain) : c.count.filters = c.filters := rfl

@[simp] theorem filters_charge (c : Chain) (v : Verdict) : (c.charge v).filters = c.filters :=
  filters_record c v

theorem counts_charge (c : Chain) (v : Verdict) :
    (c.charge v).counts = match v with
      | .allow => c.counts
      | .block i => c.counts.modify i (· + 1) := by
  cases v with
  | allow => rfl
  | block i => exact map_modify (g := Rule.blocked) (h := (· + 1)) (fun _ => rfl) c.rules i

theorem evaluated_record (c : Chain) (v : Verdict) : (c.record v).evaluated = c.evaluated + 1 := rfl

theorem counts_record (c : Chain) (v : Verdict) : (c.record v).counts = (c.charge v).counts := by
  rw [record_eq]
  rfl

/-- A chain decides by its rules alone. -/
theorem verdict_congr (h : c.filters = c'.filters) (peer : Peer) : c.verdict peer = c'.verdict peer := by
  cases hv : c'.verdict peer with
  | block i => rwa [verdict_eq_block, h, ← verdict_eq_block]
  | allow =>
      cases hv' : c.verdict peer with
      | allow => rfl
      | block i =>
          rw [verdict_eq_block, h, ← verdict_eq_block, hv] at hv'
          cases hv'

/-- What a chain has seen does not change its verdict. -/
@[simp] theorem verdict_record (c : Chain) (v : Verdict) (peer : Peer) :
    (c.record v).verdict peer = c.verdict peer := verdict_congr (filters_record c v) peer

/-- The rule that is named is the first that blocks the peer. -/
theorem verdict_eq_block_iff {i : Nat} : c.verdict peer = .block i ↔ FirstBlocks c.filters peer i := by
  rw [verdict_eq_block, List.findIdx?_eq_some_iff_getElem]
  constructor
  · rintro ⟨hi, hb, hn⟩
    refine ⟨_, List.getElem?_eq_getElem hi, hb, fun j hj g hg => ?_⟩
    obtain ⟨-, rfl⟩ := List.getElem?_eq_some_iff.mp hg
    simpa using hn j hj
  · rintro ⟨f, hf, hb, hn⟩
    obtain ⟨hi, rfl⟩ := List.getElem?_eq_some_iff.mp hf
    exact ⟨hi, hb, fun j hj => by simp [hn j hj _ (List.getElem?_eq_getElem (hj.trans hi))]⟩

theorem verdict_eq_allow_iff : c.verdict peer = .allow ↔ ∀ f ∈ c.filters, f.blocks peer = false := by
  have h := isBlock_verdict c peer
  cases hv : c.verdict peer with
  | allow => simpa [hv, Verdict.isBlock, List.any_eq_false] using h.symm
  | block i =>
      rw [hv, Verdict.isBlock, eq_comm, List.any_eq_true] at h
      obtain ⟨f, hf, hb⟩ := h
      simp only [reduceCtorEq, false_iff, not_forall]
      exact ⟨f, hf, by simp [hb]⟩

/-- The position in a verdict is that of a rule, so that there is a counter for it. -/
theorem lt_length_counts {i : Nat} (h : c.verdict peer = .block i) : i < c.counts.length := by
  obtain ⟨f, hf, -⟩ := verdict_eq_block_iff.mp h
  rw [length_counts]
  exact (List.getElem?_eq_some_iff.mp hf).1

/-! ## Many verdicts -/

/-- The verdicts on these peers, one after the other. -/
def verdicts (c : Chain) : List Peer → List Verdict
  | [] => []
  | peer :: peers => (c.evaluate peer).1 :: (c.evaluate peer).2.verdicts peers

/-- So each peer is decided on by itself. -/
theorem verdicts_eq_map (c : Chain) (peers : List Peer) : c.verdicts peers = peers.map c.verdict := by
  induction peers generalizing c with
  | nil => rfl
  | cons peer peers ih =>
      rw [verdicts, ih, List.map_cons]
      simp [evaluate]

theorem after_cons (c : Chain) (peer : Peer) (peers : List Peer) :
    c.after (peer :: peers) = (c.record (c.verdict peer)).after peers := rfl

theorem verdicts_cons (c : Chain) (peer : Peer) (peers : List Peer) :
    c.verdicts (peer :: peers) = c.verdict peer :: (c.record (c.verdict peer)).verdicts peers := rfl

/-- Every peer is counted. -/
theorem evaluated_after (c : Chain) (peers : List Peer) :
    (c.after peers).evaluated = c.evaluated + peers.length := by
  induction peers generalizing c with
  | nil => rfl
  | cons peer peers ih => rw [after_cons, ih, List.length_cons, evaluated_record, Nat.succ_add_eq_add_succ]

/-- Each rule is charged with the verdicts that name it. -/
theorem getElem?_counts_after (c : Chain) (peers : List Peer) (i : Nat) :
    (c.after peers).counts[i]? = c.counts[i]?.map (· + (c.verdicts peers).count (.block i)) := by
  induction peers generalizing c with
  | nil => simp [after, verdicts]
  | cons peer peers ih =>
      rw [after_cons, verdicts_cons, ih, counts_record, counts_charge, List.count_cons]
      cases c.verdict peer with
      | allow => simp
      | block j =>
          rw [List.getElem?_modify]
          by_cases hj : j = i
          · subst hj
            cases c.counts[j]? <;> simp [Nat.add_assoc, Nat.add_comm]
          · simp [hj]

/-- Every peer that was seen was either charged to a rule or admitted. -/
theorem sum_counts_after (c : Chain) (peers : List Peer) :
    (c.after peers).counts.sum + (c.verdicts peers).count .allow = c.counts.sum + peers.length := by
  induction peers generalizing c with
  | nil => rfl
  | cons peer peers ih =>
      have h := ih (c.record (c.verdict peer))
      rw [after_cons, verdicts_cons, List.count_cons, List.length_cons]
      rw [counts_record, counts_charge] at h
      cases hv : c.verdict peer with
      | allow =>
          simp only [hv, beq_self_eq_true, if_true] at h ⊢
          omega
      | block i =>
          simp only [hv, sum_modify_succ (lt_length_counts hv)] at h
          simp only [reduceCtorEq, beq_iff_eq, if_false]
          omega

end Chain

/-- A chain of these rules gave these verdicts on these peers in turn, and has become this one. -/
structure Counted (filters : List Filter) (peers : List Peer) (vs : List Verdict) (c : Chain) : Prop where
  length : vs.length = peers.length
  /-- Each verdict names the first rule that blocks the peer, -/
  blocked : ∀ (n : Nat) (peer : Peer), peers[n]? = some peer → ∀ i,
    (vs[n]? = some (.block i) ↔ FirstBlocks filters peer i)
  /-- or admits a peer whom no rule blocks. -/
  allowed : ∀ (n : Nat) (peer : Peer), peers[n]? = some peer →
    (vs[n]? = some .allow ↔ ∀ f ∈ filters, f.blocks peer = false)
  /-- The order of the rules is of no account for whether a peer is blocked, nor are rules that could not be
  read, -/
  rearranged : ∀ filters', Rearranged filters filters' →
    ((Chain.ofFilters filters').verdicts peers).map (·.isBlock) = vs.map (·.isBlock)
  /-- which are those with malformed patterns. -/
  unreadable : ∀ pattern,
    ((Filter.ofRange pattern).Unreadable ↔ ∃ fault, Range.ofText pattern = .error fault) ∧
      ((Filter.ofClientName pattern).Unreadable ↔ Pattern.Matcher.compile? .text pattern = none) ∧
      ((Filter.ofPeerId pattern).Unreadable ↔ Pattern.Matcher.compile? .bytes pattern = none)
  evaluated : c.evaluated = peers.length
  /-- There is a counter for each rule, -/
  rules : c.filters = filters
  /-- a verdict names one of them, -/
  charged : ∀ i, .block i ∈ vs → i < c.rules.length
  /-- and each of them counts the verdicts that name it. -/
  counters : ∀ (i : Nat) (r : Rule), c.rules[i]? = some r → r.blocked = vs.count (.block i)
  /-- No counter gets beyond the number of peers: where a word holds that, it holds them all. -/
  bounded : ∀ r ∈ c.rules, r.blocked ≤ peers.length
  total : c.evaluated = (c.rules.map (·.blocked)).sum + vs.count .allow

theorem count_of_getElem?_rules {i : Nat} {r : Rule}
    (hr : ((Chain.ofFilters filters).after peers).rules[i]? = some r) :
    r.blocked = ((Chain.ofFilters filters).verdicts peers).count (.block i) := by
  have hc := Chain.getElem?_counts_after (.ofFilters filters) peers i
  rw [Chain.counts, List.getElem?_map, hr, Chain.counts_ofFilters, List.getElem?_replicate] at hc
  split at hc
  · rw [Option.map_some, Option.map_some, Nat.zero_add] at hc
    exact Option.some.inj hc
  · cases hc

/-- Whatever the rules are, and whoever comes. -/
theorem counted (filters : List Filter) (peers : List Peer) :
    Counted filters peers ((Chain.ofFilters filters).verdicts peers)
      ((Chain.ofFilters filters).after peers) where
  length := by rw [Chain.verdicts_eq_map, List.length_map]
  blocked n peer hp i := by
    rw [Chain.verdicts_eq_map, List.getElem?_map, hp, Option.map_some, Option.some_inj,
      Chain.verdict_eq_block_iff, Chain.filters_ofFilters]
  allowed n peer hp := by
    rw [Chain.verdicts_eq_map, List.getElem?_map, hp, Option.map_some, Option.some_inj,
      Chain.verdict_eq_allow_iff, Chain.filters_ofFilters]
  rearranged filters' h := by
    rw [Chain.verdicts_eq_map, Chain.verdicts_eq_map, List.map_map, List.map_map]
    refine List.map_congr_left fun peer _ => ?_
    simp only [Function.comp_apply, Chain.isBlock_verdict, Chain.filters_ofFilters]
    exact (h.any_blocks peer).symm
  unreadable pattern := ⟨unreadable_ofRange, unreadable_ofClientName, unreadable_ofPeerId⟩
  evaluated := by
    rw [Chain.evaluated_after]
    exact Nat.zero_add _
  rules := by rw [Chain.filters_after, Chain.filters_ofFilters]
  charged i hi := by
    rw [Chain.verdicts_eq_map] at hi
    obtain ⟨peer, -, hv⟩ := List.mem_map.mp hi
    have hlt := Chain.lt_length_counts hv
    rw [Chain.length_counts, Chain.filters_ofFilters] at hlt
    have hl := congrArg List.length (Chain.filters_after (.ofFilters filters) peers)
    rw [Chain.filters_ofFilters, Chain.filters, List.length_map] at hl
    rwa [hl]
  counters i r hr := count_of_getElem?_rules hr
  bounded r hr := by
    obtain ⟨i, hi⟩ := List.mem_iff_getElem?.mp hr
    rw [count_of_getElem?_rules hi, Chain.verdicts_eq_map, ← List.length_map (f := Chain.verdict _)]
    exact List.count_le_length
  total := by
    have hs := Chain.sum_counts_after (.ofFilters filters) peers
    rw [Chain.counts_ofFilters, List.sum_replicate_nat, Nat.mul_zero] at hs
    rw [Chain.evaluated_after]
    exact hs.symm

end Matcher

-- The first rule could not be read, but it has its place.
example :
    let chain := Chain.ofFilters [.ofRange "nowhere", .ofAddresses ["1.1.1.1"], .malformedId]
    let seen := chain.after [⟨[], "", "1.1.1.1"⟩, ⟨[], "", "2.2.2.2"⟩, ⟨[], "", "1.1.1.1"⟩]
    seen.evaluated = 3 ∧ seen.rules.map (·.blocked) = [0, 2, 1] := by
  decide +kernel

end Swarmkeeper.Admission
