import Swarmkeeper.Admission.Policy
import Swarmkeeper.Pattern.Basic
import Swarmkeeper.Proofs.Text.Cutting

/-!
# What a policy refuses

A policy is read as a list of clauses, each of which says outright which peers it refuses. The chain built
from the policy has one rule for each clause, decides as the clauses say, and names the first that refuses.
The notation of the patterns for ids and clients is left open: the law holds for any matcher.
-/

namespace Swarmkeeper

namespace Admission

open Swarmkeeper.Text

/-! ## Clauses -/

/-- What a policy asks about a peer. -/
inductive Clause where
  | listed
  | malformedId
  | range (entry : String)
  | idPattern (entry : String)
  | clientPattern (entry : String)

/-- The entries that are not blank. -/
def filled (entries : List String) : List String := entries.filter (trim · ≠ "")

/-- What a policy asks about each peer, in order. All addresses are one clause; other entries are one each,
whether or not they can be read. -/
def Policy.clauses (p : Policy) (further : List String) : List Clause :=
  (if filled (p.addresses ++ further) = [] then [] else [.listed]) ++
    (if p.blockMalformedIds then [.malformedId] else []) ++
    (filled p.ranges).map .range ++
    (filled p.idPatterns).map .idPattern ++
    (filled p.clientPatterns).map .clientPattern

theorem cleanEntries_eq (entries : List String) :
    Filter.cleanEntries entries = (filled entries).map trim := by
  simp only [Filter.cleanEntries, filled, List.filter_map]
  rfl

/-- What is left of a list are its entries that are not blank, without their margins. -/
theorem mem_cleanEntries {entries : List String} {s : String} :
    s ∈ Filter.cleanEntries entries ↔ ∃ e ∈ entries, trim e ≠ "" ∧ s = trim e := by
  constructor
  · intro hs
    obtain ⟨hs, hne⟩ := List.mem_filter.mp hs
    obtain ⟨e, he, rfl⟩ := List.mem_map.mp hs
    exact ⟨e, he, by simpa using hne, rfl⟩
  · rintro ⟨e, he, hne, rfl⟩
    exact List.mem_filter.mpr ⟨List.mem_map_of_mem he, by simpa using hne⟩

theorem mem_cleanEntries_cleanEntries {entries : List String} {s : String} :
    s ∈ Filter.cleanEntries (Filter.cleanEntries entries) ↔ s ∈ Filter.cleanEntries entries := by
  constructor
  · intro hs
    obtain ⟨e, he, -, rfl⟩ := mem_cleanEntries.mp hs
    obtain ⟨e', -, -, rfl⟩ := mem_cleanEntries.mp he
    simpa only [trim_trim] using he
  · intro hs
    obtain ⟨e, -, hne, rfl⟩ := mem_cleanEntries.mp hs
    exact mem_cleanEntries.mpr ⟨_, hs, by simpa only [trim_trim] using hne, (trim_trim e).symm⟩

/-- A peer id is well-formed if it begins with a delimiter that comes again. -/
theorem isMalformed_iff {id : List UInt8} :
    Identity.isMalformed id = true ↔
      ¬ ∃ rest, id = Identity.delimiter :: rest ∧ Identity.delimiter ∈ rest := by
  cases id with
  | nil => simp [Identity.isMalformed]
  | cons b rest =>
      by_cases hb : b = Identity.delimiter
      · subst hb
        simp [Identity.isMalformed]
      · simp [Identity.isMalformed, hb]

theorem mem_clauses {p : Policy} {further : List String} {c : Clause} : c ∈ p.clauses further ↔
    match c with
    | .listed => ∃ e ∈ p.addresses ++ further, trim e ≠ ""
    | .malformedId => p.blockMalformedIds = true
    | .range e => e ∈ p.ranges ∧ trim e ≠ ""
    | .idPattern e => e ∈ p.idPatterns ∧ trim e ≠ ""
    | .clientPattern e => e ∈ p.clientPatterns ∧ trim e ≠ "" := by
  have hnil {entries : List String} : filled entries = [] ↔ ¬ ∃ e ∈ entries, trim e ≠ "" := by
    simp [filled]
  cases c with
  | listed => simp [Policy.clauses, hnil]
  | _ => simp [Policy.clauses, filled]

section Matcher

variable [Pattern.Matcher] {p : Policy} {further : List String} {peer : Peer}

/-- A clause refuses a peer. -/
def Clause.Refuses (p : Policy) (further : List String) (peer : Peer) : Clause → Prop
  | listed => ∃ e ∈ p.addresses ++ further, trim e ≠ "" ∧ peer.ip = trim e
  | malformedId => ¬ ∃ rest, peer.id = Identity.delimiter :: rest ∧ Identity.delimiter ∈ rest
  | range e => ∃ r a, Range.ofText (trim e) = .ok r ∧ Address.ofText? peer.ip = some a ∧ r.Contains a
  | idPattern e => ∃ q, Pattern.Matcher.compile? .bytes (trim e) = some q ∧ Pattern.Matcher.occursIn q peer.id = true
  | clientPattern e =>
      ∃ q, Pattern.Matcher.compile? .text (trim e) = some q ∧
        Pattern.Matcher.occursIn q (Utf8.encode peer.client) = true

/-- The rule that stands for a clause. -/
def Clause.filter (p : Policy) (further : List String) : Clause → Filter
  | listed => .ofAddresses (Filter.cleanEntries (p.addresses ++ further))
  | malformedId => .malformedId
  | range e => .ofRange (trim e)
  | idPattern e => .ofPeerId (trim e)
  | clientPattern e => .ofClientName (trim e)

/-- The rule that stands for a clause blocks whom the clause refuses. -/
theorem Clause.blocks_iff (c : Clause) :
    (c.filter p further).blocks peer = true ↔ c.Refuses p further peer := by
  cases c with
  | listed =>
      simp only [Clause.filter, Filter.ofAddresses, Filter.blocks, List.contains_iff_mem,
        List.mem_eraseDups, mem_cleanEntries_cleanEntries]
      exact mem_cleanEntries
  | malformedId => exact isMalformed_iff
  | range e =>
      cases hr : Range.ofText (trim e) with
      | error f => simp [Clause.filter, Filter.ofRange, Filter.blocks, Clause.Refuses, hr, Except.toOption]
      | ok r =>
          cases ha : Address.ofText? peer.ip <;>
            simp [Clause.filter, Filter.ofRange, Filter.blocks, Clause.Refuses, hr, ha, Except.toOption]
  | idPattern e =>
      cases hq : Pattern.Matcher.compile? .bytes (trim e) <;>
        simp [Clause.filter, Filter.ofPeerId, Filter.blocks, Clause.Refuses, hq]
  | clientPattern e =>
      cases hq : Pattern.Matcher.compile? .text (trim e) <;>
        simp [Clause.filter, Filter.ofClientName, Filter.blocks, Clause.Refuses, hq]

/-- A chain has one rule for each clause, in the order of the clauses. -/
theorem filters_eq (he : p.enabled = true) :
    p.filters further = (p.clauses further).map (Clause.filter p further) := by
  have hnil : Filter.cleanEntries (p.addresses ++ further) = [] ↔
      filled (p.addresses ++ further) = [] := by
    simp [cleanEntries_eq]
  simp only [Policy.filters, he, if_true, Policy.clauses, List.map_append, List.map_map,
    apply_ite (List.map _), hnil, cleanEntries_eq p.ranges, cleanEntries_eq p.idPatterns,
    cleanEntries_eq p.clientPatterns]
  rfl

/-! ## Chains -/

namespace Chain

variable {c : Chain}

@[simp] theorem filters_ofFilters (fs : List Filter) : (ofFilters fs).filters = fs := by
  simp [filters, ofFilters, Function.comp_def]

/-- Counting leaves the rules as they are. -/
@[simp] theorem filters_record (c : Chain) (v : Verdict) : (c.record v).filters = c.filters := by
  cases v with
  | allow => rfl
  | block i =>
      refine List.ext_getElem? fun j => ?_
      simp only [filters, record, List.getElem?_map, List.getElem?_modify]
      split <;> simp [Function.comp_def]

/-- The chain after these peers. -/
def after (c : Chain) (peers : List Peer) : Chain := peers.foldl (fun c q => (c.evaluate q).2) c

@[simp] theorem filters_after (c : Chain) (peers : List Peer) : (c.after peers).filters = c.filters := by
  induction peers generalizing c with
  | nil => rfl
  | cons q peers ih => exact (ih _).trans (filters_record c _)

/-- The verdict names the first rule that blocks. -/
theorem verdict_eq_block {peer : Peer} {i : Nat} :
    c.verdict peer = .block i ↔ c.filters.findIdx? (·.blocks peer) = some i := by
  rw [verdict, filters, List.findIdx?_map, Function.comp_def]
  cases c.rules.findIdx? fun r => r.filter.blocks peer <;> simp

theorem isBlock_verdict (c : Chain) (peer : Peer) :
    (c.verdict peer).isBlock = c.filters.any (·.blocks peer) := by
  rw [verdict, filters, List.any_map, Function.comp_def, ← List.findIdx?_isSome]
  cases c.rules.findIdx? fun r => r.filter.blocks peer <;> rfl

end Chain

/-! ## Decisions -/

/-- A policy that is enabled refuses the peer. -/
inductive Policy.Refuses (p : Policy) (further : List String) (peer : Peer) : Prop where
  | listed {e : String} (he : e ∈ p.addresses ++ further) (hb : trim e ≠ "") (hip : peer.ip = trim e)
  | malformedId (hp : p.blockMalformedIds = true)
      (hid : ¬ ∃ rest, peer.id = Identity.delimiter :: rest ∧ Identity.delimiter ∈ rest)
  | range {e : String} {r : Range} {a : Address} (he : e ∈ p.ranges) (hb : trim e ≠ "")
      (hr : Range.ofText (trim e) = .ok r) (ha : Address.ofText? peer.ip = some a)
      (hc : r.Contains a)
  | idPattern {e : String} {q : Pattern.Matcher.Compiled} (he : e ∈ p.idPatterns) (hb : trim e ≠ "")
      (hq : Pattern.Matcher.compile? .bytes (trim e) = some q)
      (ho : Pattern.Matcher.occursIn q peer.id = true)
  | clientPattern {e : String} {q : Pattern.Matcher.Compiled} (he : e ∈ p.clientPatterns) (hb : trim e ≠ "")
      (hq : Pattern.Matcher.compile? .text (trim e) = some q)
      (ho : Pattern.Matcher.occursIn q (Utf8.encode peer.client) = true)

theorem refuses_iff :
    p.Refuses further peer ↔ ∃ c ∈ p.clauses further, c.Refuses p further peer := by
  constructor
  · intro h
    cases h with
    | @listed e he hb hip => exact ⟨.listed, mem_clauses.mpr ⟨e, he, hb⟩, e, he, hb, hip⟩
    | malformedId hp hid => exact ⟨.malformedId, mem_clauses.mpr hp, hid⟩
    | @range e r a he hb hr ha hc => exact ⟨.range e, mem_clauses.mpr ⟨he, hb⟩, r, a, hr, ha, hc⟩
    | @idPattern e q he hb hq ho => exact ⟨.idPattern e, mem_clauses.mpr ⟨he, hb⟩, q, hq, ho⟩
    | @clientPattern e q he hb hq ho => exact ⟨.clientPattern e, mem_clauses.mpr ⟨he, hb⟩, q, hq, ho⟩
  · rintro ⟨c, hc, hr⟩
    have hc := mem_clauses.mp hc
    cases c with
    | listed =>
        obtain ⟨e, he, hb, hip⟩ := hr
        exact .listed he hb hip
    | malformedId => exact .malformedId hc hr
    | range e =>
        obtain ⟨r, a, hr, ha, hm⟩ := hr
        exact .range hc.1 hc.2 hr ha hm
    | idPattern e =>
        obtain ⟨q, hq, ho⟩ := hr
        exact .idPattern hc.1 hc.2 hq ho
    | clientPattern e =>
        obtain ⟨q, hq, ho⟩ := hr
        exact .clientPattern hc.1 hc.2 hq ho

theorem filters_chain_after (p : Policy) (further : List String) (peers : List Peer) :
    ((p.chain further).after peers).filters = p.filters further := by
  simp [Policy.chain]

/-- So it names the first clause that refuses the peer. -/
theorem verdict_chain_after {peers : List Peer} {i : Nat} :
    ((p.chain further).after peers).verdict peer = .block i ↔
      p.enabled = true ∧ ∃ c, (p.clauses further)[i]? = some c ∧ c.Refuses p further peer ∧
        ∀ j < i, ∀ c', (p.clauses further)[j]? = some c' → ¬ c'.Refuses p further peer := by
  rw [Chain.verdict_eq_block, filters_chain_after]
  cases he : p.enabled with
  | false => simp [Policy.filters, he]
  | true =>
      rw [filters_eq he, List.findIdx?_map, List.findIdx?_eq_some_iff_getElem]
      simp only [Function.comp_apply, Clause.blocks_iff, true_and]
      constructor
      · rintro ⟨hi, hr, hn⟩
        refine ⟨_, List.getElem?_eq_getElem hi, hr, fun j hj c' hc' => ?_⟩
        obtain ⟨-, rfl⟩ := List.getElem?_eq_some_iff.mp hc'
        exact hn j hj
      · rintro ⟨c, hc, hr, hn⟩
        obtain ⟨hi, rfl⟩ := List.getElem?_eq_some_iff.mp hc
        exact ⟨hi, hr, fun j hj => hn j hj _ (List.getElem?_eq_getElem (hj.trans hi))⟩

/-- A peer is blocked exactly if the policy is on and refuses him. -/
theorem isBlock_chain_after (p : Policy) (further : List String) (peers : List Peer) (peer : Peer) :
    (((p.chain further).after peers).verdict peer).isBlock = true ↔
      p.enabled = true ∧ p.Refuses further peer := by
  rw [Chain.isBlock_verdict, filters_chain_after]
  cases he : p.enabled with
  | false => simp [Policy.filters, he]
  | true => simp [filters_eq he, refuses_iff, Clause.blocks_iff]

/-- The decision on a peer by the chain of a policy, which has seen other peers before. -/
structure Decision (p : Policy) (further : List String) (peers : List Peer) (peer : Peer) : Prop where
  refused : (((p.chain further).after peers).evaluate peer).1.isBlock = true ↔
    p.enabled = true ∧ p.Refuses further peer
  /-- The position is that of the first clause that refuses the peer. -/
  position : ∀ i, (((p.chain further).after peers).evaluate peer).1 = .block i ↔
    p.enabled = true ∧ ∃ c, (p.clauses further)[i]? = some c ∧ c.Refuses p further peer ∧
      ∀ j < i, ∀ c', (p.clauses further)[j]? = some c' → ¬ c'.Refuses p further peer
  /-- Each clause has a position, even one whose entry cannot be read. -/
  positions : ((p.chain further).after peers).rules.length =
    if p.enabled then (p.clauses further).length else 0

/-- The chain that is built from a policy refuses a peer for exactly the reasons that the policy and the
further entries give, at the place of the first of them. -/
theorem decision (p : Policy) (further : List String) (peers : List Peer) (peer : Peer) :
    Decision p further peers peer where
  refused := isBlock_chain_after p further peers peer
  position _ := verdict_chain_after
  positions := by
    have hl := congrArg List.length (filters_chain_after p further peers)
    rw [Chain.filters, List.length_map] at hl
    rw [hl]
    cases he : p.enabled with
    | false => simp [Policy.filters, he]
    | true => simp [filters_eq he]

end Matcher

-- A blank range has no position; one that cannot be read has one and blocks nobody.
example :
    let ranges := [" ", "nowhere", "10.0.0.0/8"]
    let chain := { Policy.standard with ranges, idPatterns := [] }.chain ["", " 1.1.1.1 "]
    (chain.evaluate ⟨[], "", "10.1.2.3"⟩).1 = .block 2 := by
  decide +kernel

end Admission

end Swarmkeeper
