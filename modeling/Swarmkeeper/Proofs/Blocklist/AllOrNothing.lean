import Swarmkeeper.Blocklist.Refresh
import Swarmkeeper.Proofs.Admission.Replacement
import Swarmkeeper.Proofs.Blocklist.Removal

/-!
# A refresh is all or nothing

If a list comes, its addresses are stored and the chain of the policy of that moment is installed with them;
if none comes, everything is as it would be without the refresh. Either way the addresses that are stored
then are those of later chains.
-/

namespace Swarmkeeper

open Swarmkeeper.Text

/-! ## Addresses of a list -/

namespace Blocklist

theorem trim_of_mem_parse {text e : String} (he : e ∈ parse text) : trim e = e ∧ e ≠ "" := by
  obtain ⟨cs, hcs, rfl⟩ := List.mem_map.mp he
  obtain ⟨hcs, hne⟩ := List.mem_filter.mp hcs
  obtain ⟨line, -, rfl⟩ := List.mem_map.mp hcs
  refine ⟨?_, fun h => ?_⟩
  · rw [trim, String.toList_ofList, entryOfLine, trimChars_trimChars]
  · rw [← String.toList_inj, String.toList_ofList] at h
    simp [h] at hne

/-- The addresses of a list are compared as they stand there. -/
theorem cleanEntries_addresses (bytes : List UInt8) :
    Admission.Filter.cleanEntries (addresses bytes) = addresses bytes := by
  have htrim : (addresses bytes).map trim = addresses bytes :=
    (List.map_congr_left fun e he => (trim_of_mem_parse he).1).trans (List.map_id _)
  rw [Admission.Filter.cleanEntries, htrim, List.filter_eq_self]
  intro e he
  simpa using (trim_of_mem_parse he).2

end Blocklist

/-! ## Chains with further addresses -/

namespace Admission

variable [Pattern.Matcher] {p : Policy} {list : List String} {peer : Peer}

/-- A peer is refused by the policy itself or because of the list. -/
theorem refuses_iff_own_or_listed :
    p.Refuses list peer ↔ p.Refuses [] peer ∨ peer.ip ∈ Filter.cleanEntries list := by
  constructor
  · intro h
    cases h with
    | @listed e he hb hip =>
        rcases List.mem_append.mp he with he | he
        · exact .inl (.listed (List.mem_append_left [] he) hb hip)
        · exact .inr (mem_cleanEntries.mpr ⟨e, he, hb, hip⟩)
    | malformedId hp hid => exact .inl (.malformedId hp hid)
    | range he hb hr ha hc => exact .inl (.range he hb hr ha hc)
    | idPattern he hb hq ho => exact .inl (.idPattern he hb hq ho)
    | clientPattern he hb hq ho => exact .inl (.clientPattern he hb hq ho)
  · rintro (h | h)
    · cases h with
      | listed he hb hip =>
          rw [List.append_nil] at he
          exact .listed (List.mem_append_left list he) hb hip
      | malformedId hp hid => exact .malformedId hp hid
      | range he hb hr ha hc => exact .range he hb hr ha hc
      | idPattern he hb hq ho => exact .idPattern he hb hq ho
      | clientPattern he hb hq ho => exact .clientPattern he hb hq ho
    · obtain ⟨e, he, hb, hip⟩ := mem_cleanEntries.mp h
      exact .listed (List.mem_append_right p.addresses he) hb hip

/-- Further addresses are refused besides whom the policy refuses on its own. -/
theorem isBlock_evaluate_after (p : Policy) (list : List String) (peers : List Peer) (peer : Peer) :
    (((p.chain list).after peers).evaluate peer).1.isBlock = true ↔
      p.enabled = true ∧ (((p.chain []).evaluate peer).1.isBlock = true ∨
        peer.ip ∈ Filter.cleanEntries list) := by
  have hall := isBlock_chain_after p list peers peer
  have hown := isBlock_chain_after p [] [] peer
  rw [refuses_iff_own_or_listed] at hall
  refine hall.trans ⟨?_, ?_⟩
  · rintro ⟨he, h | h⟩
    · exact ⟨he, .inl (hown.mpr ⟨he, h⟩)⟩
    · exact ⟨he, .inr h⟩
  · rintro ⟨he, h | h⟩
    · exact ⟨he, .inl (hown.mp h).2⟩
    · exact ⟨he, .inr h⟩

end Admission

namespace Blocklist

open Swarmkeeper.Admission

variable [Pattern.Matcher] {u : Updater}

/-! ## What is installed -/

/-- A chain has been installed that blocks, besides whom the policy blocks on its own, these addresses; they
are those of this list, which is stored. -/
structure Installed (u u' : Updater) (list blocked : List String) : Prop where
  fetched : u'.fetched = list
  policy : u'.policy = u.policy
  number : u'.chain.currentId = u.chain.currentId + 1
  /-- The chains that were installed before are as they were. -/
  others : ∀ id ≤ u.chain.currentId, u'.chain.get? id = u.chain.get? id
  /-- The chain has not decided on anybody yet. -/
  fresh : u'.chain.current.evaluated = 0 ∧ ∀ r ∈ u'.chain.current.rules, r.blocked = 0
  blocks : ∀ peers peer, ((u'.chain.current.after peers).evaluate peer).1.isBlock = true ↔
    u.policy.value.enabled = true ∧
      (((u.policy.value.chain []).evaluate peer).1.isBlock = true ∨ peer.ip ∈ blocked)

/-- After a list was installed the chain is that of the policy with it. -/
theorem installed_install (u : Updater) (list : List String) :
    Installed u (u.install list) list (Filter.cleanEntries list) where
  fetched := rfl
  policy := rfl
  number := rfl
  others id hid := SharedChain.get?_replace_of_lt
    (Nat.lt_of_le_of_lt hid (SharedChain.currentId_lt u.chain))
  fresh := by
    refine ⟨rfl, fun r hr => ?_⟩
    obtain ⟨f, -, rfl⟩ := List.mem_map.mp hr
    rfl
  blocks peers peer := isBlock_evaluate_after u.policy.value list peers peer

theorem installed_rebuild (u : Updater) :
    Installed u u.rebuild u.fetched (Filter.cleanEntries u.fetched) := installed_install u u.fetched

/-! ## Changes besides -/

namespace Updater

theorem fetched_change (u : Updater) (c : Change) : (u.change c).fetched = u.fetched := by
  cases c <;> rfl

/-- Nothing but a refresh changes the addresses that are stored. -/
theorem fetched_changed (u : Updater) (changes : List Change) :
    (u.changed changes).fetched = u.fetched := by
  induction changes generalizing u with
  | nil => rfl
  | cons c changes ih => exact (ih (u.change c)).trans (fetched_change u c)

theorem beginRefresh_of_url {url : String} (hurl : u.policy.value.listUrl = some url) :
    u.beginRefresh = (some url, u) := by
  rw [beginRefresh, hurl]

theorem beginRefresh_of_none (hurl : u.policy.value.listUrl = none) :
    u.beginRefresh = (none, u.install []) := by
  rw [beginRefresh, hurl]

theorem refresh_of_url {url : String} (hurl : u.policy.value.listUrl = some url) (meanwhile : List Change)
    (body : Body) : u.refresh meanwhile body = (u.changed meanwhile).endRefresh body := by
  rw [refresh, beginRefresh_of_url hurl]

theorem refresh_of_none (hurl : u.policy.value.listUrl = none) (meanwhile : List Change) (body : Body) :
    u.refresh meanwhile body = (.ok 0, u.install []) := by
  rw [refresh, beginRefresh_of_none hurl]

end Updater

/-! ## The result -/

/-- What a refresh makes of an updater. -/
structure AllOrNothing (u : Updater) : Prop where
  /-- While it waits for a list the refresh has not done anything yet. -/
  asks : ∀ url, u.policy.value.listUrl = some url → u.beginRefresh = (some url, u)
  /-- The list that comes is installed whole, with the policy of the moment. -/
  list : ∀ url meanwhile bytes, u.policy.value.listUrl = some url →
    (u.refresh meanwhile (.ok bytes)).1 = .ok (addresses bytes).length ∧
      Installed (u.changed meanwhile) (u.refresh meanwhile (.ok bytes)).2 (addresses bytes) (addresses bytes)
  /-- The same addresses are blocked by what is built later, with the policy of that moment. -/
  stored : ∀ url meanwhile bytes later, u.policy.value.listUrl = some url →
    let u' := (u.refresh meanwhile (.ok bytes)).2.changed later
    Installed u' u'.rebuild (addresses bytes) (addresses bytes)
  /-- Where the fetch fails the fault is told, and nothing has been done: the chain that is installed is the
  one that would be without the refresh, with what it has counted. -/
  fault : ∀ url meanwhile f, u.policy.value.listUrl = some url →
    u.refresh meanwhile (.error f) = (.error f, u.changed meanwhile)
  /-- The addresses that were stored before are blocked by what is built later. -/
  kept : ∀ url meanwhile f later, u.policy.value.listUrl = some url →
    let u' := (u.refresh meanwhile (.error f)).2.changed later
    Installed u' u'.rebuild u.fetched (Filter.cleanEntries u.fetched)
  /-- If they were fetched, they are compared as they stood in the list. -/
  compared : ∀ bytes, u.fetched = addresses bytes → Filter.cleanEntries u.fetched = u.fetched
  /-- Without a URL nothing is fetched, and no addresses are left. -/
  noUrl : u.policy.value.listUrl = none → u.beginRefresh.1 = none ∧ ∀ meanwhile body,
    (u.refresh meanwhile body).1 = .ok 0 ∧ Installed u (u.refresh meanwhile body).2 [] []
  /-- The routine refreshes like everyone, -/
  routine : ∀ (r : Routine) (now : Nat), r.updater = u →
    (r.stage = .looking → (r.refresh now).1 = u.beginRefresh.1 ∧
      (r.refresh now).2.updater = u.beginRefresh.2) ∧
    (r.stage = .fetching → ∀ body, (r.answer now body).updater = (u.endRefresh body).2)
  /-- and where others come in between the steps with which it ends, the policy is the one that it looks up
  once the addresses are stored. -/
  apart : ∀ (r : Routine) (bytes : List UInt8) (first second : List Change),
    r.updater = u → r.stage = .fetching →
      let looked := ({ u with fetched := addresses bytes } : Updater).changed first
      ((((r.receive (.ok bytes)).onUpdater (·.changed first)).build.onUpdater
          (·.changed second)).install).updater =
        { looked.changed second with
          chain := (looked.changed second).chain.replace (looked.policy.value.chain (addresses bytes)) }

/-- Whatever state an updater is in. -/
theorem all_or_nothing (u : Updater) : AllOrNothing u where
  asks url hurl := Updater.beginRefresh_of_url hurl
  list url meanwhile bytes hurl := by
    rw [Updater.refresh_of_url hurl]
    have h := installed_install (u.changed meanwhile) (addresses bytes)
    rw [cleanEntries_addresses] at h
    exact ⟨rfl, h⟩
  stored url meanwhile bytes later hurl := by
    rw [Updater.refresh_of_url hurl]
    intro u'
    have hfetched : u'.fetched = addresses bytes := Updater.fetched_changed _ later
    have h := installed_rebuild u'
    rwa [hfetched, cleanEntries_addresses] at h
  fault url meanwhile f hurl := Updater.refresh_of_url hurl meanwhile (.error f)
  kept url meanwhile f later hurl := by
    rw [Updater.refresh_of_url hurl]
    intro u'
    have hfetched : u'.fetched = u.fetched :=
      (Updater.fetched_changed _ later).trans (Updater.fetched_changed u meanwhile)
    have h := installed_rebuild u'
    rwa [hfetched] at h
  compared bytes h := by rw [h, cleanEntries_addresses]
  noUrl hurl := by
    refine ⟨by rw [Updater.beginRefresh_of_none hurl], fun meanwhile body => ?_⟩
    rw [Updater.refresh_of_none hurl]
    exact ⟨rfl, installed_install u []⟩
  routine r now hr := by
    subst hr
    refine ⟨fun hs => ?_, fun hs body => ?_⟩
    · cases hurl : r.updater.policy.value.listUrl with
      | none =>
          rw [Routine.refresh_of_none hs hurl, Updater.beginRefresh_of_none hurl]
          exact ⟨rfl, rfl⟩
      | some url =>
          rw [Routine.refresh_of_url hs hurl, Updater.beginRefresh_of_url hurl]
          exact ⟨rfl, rfl⟩
    · cases body with
      | ok bytes => rw [Routine.answer_ok bytes hs]; rfl
      | error f => rw [Routine.answer_error f hs]; rfl
  apart r bytes first second hr hs := by
    subst hr
    intro looked
    have hfetched : looked.fetched = addresses bytes := Updater.fetched_changed _ first
    rw [← hfetched]
    simp [Routine.receive, hs, Routine.onUpdater, Routine.build, Routine.install, looked]

end Blocklist

end Swarmkeeper
