import Swarmkeeper.Proofs.Blocklist.Freshness

/-!
# What is in force after a fault

A refresh that fails leaves the chain and the addresses as they are, whatever the policy has become. So the
addresses are always those that the last refresh to succeed came to, but the policy in force is the one of
the moment when the chain was made. It is the current one if the chain was made since the policy changed.
-/

namespace Swarmkeeper.Blocklist

open Swarmkeeper.Admission

/-- What a chain is made of. -/
structure Origin where
  policy : Setting Policy
  list : List String

def Origin.chain [Pattern.Matcher] (o : Origin) : Chain := o.policy.value.chain o.list

/-- What a chain would be made of at this moment. -/
def Updater.origin [Pattern.Matcher] (u : Updater) : Origin := ⟨u.policy, u.fetched⟩

/-- What the chain was made of that is installed, and the one that was last made to be installed. -/
structure Origins where
  installed : Option Origin
  made : Option Origin

theorem Refresh.list?_none : (⟨none, none⟩ : Refresh).list? = some [] := rfl

theorem Refresh.list?_waiting (url : String) : (⟨some url, none⟩ : Refresh).list? = none := rfl

theorem Refresh.list?_ok (url : String) (bytes : List UInt8) :
    (⟨some url, some (.ok bytes)⟩ : Refresh).list? = some (addresses bytes) := rfl

theorem Refresh.list?_error (url : String) (f : Web.Fault) :
    (⟨some url, some (.error f)⟩ : Refresh).list? = none := rfl

namespace Routine

section Matcher

variable [Pattern.Matcher]

/-! ## Records of a run -/

/-- What is on record after these events, if each of them adds to it. -/
def recorded {α : Type} (note : Routine → α → Event → α) (a : α) (u : Updater)
    (events : List (Nat × Event)) : α :=
  (events.foldl (fun (r, a) (now, e) => (r.step now e, note r a e)) (ofUpdater u, a)).2

/-- Notes the refreshes, latest first. -/
def listed (r : Routine) (refreshes : List Refresh) : Event → List Refresh
  | .look =>
      if r.stage = .looking then ⟨r.updater.policy.value.listUrl, none⟩ :: refreshes else refreshes
  | .receive body =>
      if r.stage = .fetching then refreshes.modifyHead ({ · with answer := some body }) else refreshes
  | _ => refreshes

/-- The addresses that the last refresh to succeed came to; those from the start if none has. -/
def lastList (u : Updater) (events : List (Nat × Event)) : List String :=
  (recorded listed [] u events).foldr (fun f list => f.list?.getD list) u.fetched

/-- Notes what chains are made of. -/
def traced (r : Routine) (o : Origins) : Event → Origins
  | .rebuild => { o with installed := some r.updater.origin }
  | .build => if r.stage = .building then { o with made := some r.updater.origin } else o
  | .install =>
      match r.stage with
      | .installing _ => { o with installed := o.made }
      | _ => o
  | _ => o

/-- What the chains of a run are made of. -/
def origins (u : Updater) (events : List (Nat × Event)) : Origins :=
  recorded traced ⟨none, none⟩ u events

/-- What the chain that is installed was made of; nothing if it is still the one from the start. -/
def origin (u : Updater) (events : List (Nat × Event)) : Option Origin := (origins u events).installed

variable {u : Updater} {r r' : Routine} {o : Origins} {last last' : Option Refresh} {e : Event}
  {refreshes : List Refresh} {events : List (Nat × Event)}

theorem recorded_concat {α : Type} (note : Routine → α → Event → α) (a : α) (u : Updater)
    (events : List (Nat × Event)) (now : Nat) (e : Event) :
    recorded note a u (events ++ [(now, e)]) = note (after u events) (recorded note a u events) e := by
  -- the run that is kept beside the record is the run itself
  have hfst : (events.foldl (fun (r, a) (now, e) => (r.step now e, note r a e)) (ofUpdater u, a)).1 =
      after u events := by
    induction events using List.reverseRecOn with
    | nil => rfl
    | append_singleton events e ih =>
        rw [List.foldl_append, after_concat, ← ih]
        rfl
  rw [recorded, List.foldl_append, ← hfst]
  rfl

theorem recorded_append_induction {α : Type} {note : Routine → α → Event → α} {a : α}
    {P : Routine → α → Prop} {Q : Event → Prop} (events : List (Nat × Event))
    (hstep : ∀ r a now e, Q e → P r a → P (r.step now e) (note r a e))
    {more : List (Nat × Event)} (hmore : ∀ x ∈ more, Q x.2)
    (h : P (after u events) (recorded note a u events)) :
    P (after u (events ++ more)) (recorded note a u (events ++ more)) := by
  induction more using List.reverseRecOn with
  | nil => rwa [List.append_nil]
  | append_singleton more e ih =>
      rw [← List.append_assoc, after_concat, recorded_concat]
      exact hstep _ _ _ _ (hmore e (by simp)) (ih fun x hx => hmore x (List.mem_append_left _ hx))

/-- What holds of the routine and the record at the beginning, and is kept by every event, holds in the end.
-/
theorem recorded_induction {α : Type} {note : Routine → α → Event → α} {a : α} {P : Routine → α → Prop}
    (hstart : P (ofUpdater u) a) (hstep : ∀ r a now e, P r a → P (r.step now e) (note r a e))
    (events : List (Nat × Event)) : P (after u events) (recorded note a u events) :=
  recorded_append_induction [] (Q := fun _ => True) (fun r a now e _ => hstep r a now e)
    (fun _ _ => trivial) hstart

/-! ## Events that find the routine elsewhere -/

theorem look_of_ne (hs : r.stage ≠ .looking) : r.look = (none, r) := by
  unfold look
  split
  · exact absurd ‹_› hs
  · rfl

theorem receive_of_ne (body : Body) (hs : r.stage ≠ .fetching) : r.receive body = r := by
  unfold receive
  split
  · exact absurd ‹_› hs
  · rfl

theorem build_of_ne (hs : r.stage ≠ .building) : r.build = r := by
  unfold build
  split
  · exact absurd ‹_› hs
  · rfl

theorem install_of_ne (hs : ∀ c, r.stage ≠ .installing c) : r.install = r := by
  unfold install
  split
  · exact absurd ‹_› (hs _)
  · rfl

theorem traced_install_of_ne (o : Origins) (hs : ∀ c, r.stage ≠ .installing c) :
    r.traced o .install = o := by
  cases hc : r.stage with
  | installing c => exact absurd hc (hs c)
  | _ => simp only [traced, hc]

/-! ## The addresses -/

theorem Rule.fetched_eq (h : Rule r last e r' last') (hlook : e ≠ .look) (hrec : ∀ b, e ≠ .receive b) :
    r'.updater.fetched = r.updater.fetched ∧ (r'.stage = .fetching → r.stage = .fetching) := by
  cases h with
  | stay | stop | publish | rebuild | evaluate => exact ⟨rfl, id⟩
  | subscribe | build | install | rest | finish | heed | wake => exact ⟨rfl, nofun⟩
  | fetch | giveUp => exact absurd rfl hlook
  | accept | fail => exact absurd rfl (hrec _)

/-- The addresses are those of the last refresh to succeed; the one that waits for an answer is the
latest. -/
structure Listed (base : List String) (r : Routine) (refreshes : List Refresh) : Prop where
  fetched : r.updater.fetched = refreshes.foldr (fun f list => f.list?.getD list) base
  fetching : r.stage = .fetching → ∃ url rest, refreshes = ⟨some url, none⟩ :: rest

theorem listed_look {base : List String} (h : Listed base r refreshes) :
    Listed base r.look.2 (r.listed refreshes .look) := by
  by_cases hs : r.stage = .looking
  · rw [listed, if_pos hs]
    cases hu : r.updater.policy.value.listUrl with
    | none => exact ⟨by simp [look, hs, hu, onUpdater, Refresh.list?_none], by simp [look, hs, hu]⟩
    | some url =>
        exact ⟨by simpa [look, hs, hu, Refresh.list?_waiting] using h.fetched, fun _ => ⟨url, refreshes, rfl⟩⟩
  · rw [listed, if_neg hs, look_of_ne hs]
    exact h

theorem listed_receive {base : List String} (h : Listed base r refreshes) (body : Body) :
    Listed base (r.receive body) (r.listed refreshes (.receive body)) := by
  by_cases hs : r.stage = .fetching
  · obtain ⟨url, rest, rfl⟩ := h.fetching hs
    rw [listed, if_pos hs, List.modifyHead_cons]
    cases body with
    | ok bytes => exact ⟨by simp [receive, hs, onUpdater, Refresh.list?_ok], by simp [receive, hs]⟩
    | error f =>
        have hf := h.fetched
        rw [List.foldr_cons, Refresh.list?_waiting] at hf
        exact ⟨by simpa [receive, hs, Refresh.list?_error] using hf, by simp [receive, hs]⟩
  · rw [listed, if_neg hs, receive_of_ne body hs]
    exact h

theorem listed_step {base : List String} (h : Listed base r refreshes) (now : Nat) (e : Event) :
    Listed base (r.step now e) (r.listed refreshes e) := by
  have hother : (∀ b, e ≠ .receive b) → e ≠ .look → Listed base (r.step now e) refreshes := by
    intro hrec hlook
    obtain ⟨hfetched, hfetching⟩ := (step_rule r none now e).fetched_eq hlook hrec
    exact ⟨hfetched.trans h.fetched, fun hs => h.fetching (hfetching hs)⟩
  cases e with
  | look => exact listed_look h
  | receive body => exact listed_receive h body
  | _ => exact hother nofun nofun

/-- The addresses at hand are those of the last refresh that came to something. -/
theorem fetched_eq_lastList (u : Updater) (events : List (Nat × Event)) :
    (after u events).updater.fetched = lastList u events :=
  (recorded_induction (P := Listed u.fetched) ⟨rfl, nofun⟩ (fun _ _ now e h => listed_step h now e)
    events).fetched

/-! ## The chain -/

/-- The chain that is installed is the one that was made of its origin, and the one that is to be installed
was made of what is fetched. Before it is made the chain that is installed has what is fetched. -/
structure Traced (base : Chain) (r : Routine) (o : Origins) : Prop where
  installed : ∃ peers, r.updater.chain.current = ((o.installed.map Origin.chain).getD base).after peers
  made : ∀ c, r.stage = .installing c → ∃ m, o.made = some m ∧ c = m.chain ∧ m.list = r.updater.fetched
  list : r.stage ≠ .building → (∀ c, r.stage ≠ .installing c) →
    ∀ m, o.installed = some m → m.list = r.updater.fetched

theorem Rule.traced {base : Chain} (h : Rule r last e r' last') (ht : Traced base r o)
    (hrebuild : e ≠ .rebuild) (hbuild : e ≠ .build) (hinstall : e ≠ .install) : Traced base r' o := by
  cases h with
  | stay => exact ht
  | stop | publish => exact ⟨ht.installed, ht.made, ht.list⟩
  | rebuild => exact absurd rfl hrebuild
  | build => exact absurd rfl hbuild
  | install => exact absurd rfl hinstall
  | evaluate peer =>
      obtain ⟨peers, hp⟩ := ht.installed
      refine ⟨⟨peers ++ [peer], ?_⟩, ht.made, ht.list⟩
      rw [Chain.after_concat, ← hp]
      exact SharedChain.current_evaluate _ _
  | giveUp | accept => exact ⟨ht.installed, nofun, fun hn => absurd rfl hn⟩
  | subscribe hs | fetch hs | fail hs | rest hs | finish hs | heed hs | wake hs =>
      exact ⟨ht.installed, nofun, fun _ _ => ht.list (by simp [hs]) (by simp [hs])⟩

theorem traced_build {base : Chain} (ht : Traced base r o) :
    Traced base r.build (r.traced o .build) := by
  by_cases hs : r.stage = .building
  · simp only [build, Routine.traced, hs]
    refine ⟨ht.installed, fun c hc => ⟨_, rfl, ?_, rfl⟩, fun _ hn => absurd rfl (hn _)⟩
    cases hc
    rfl
  · rw [Routine.traced, build_of_ne hs, if_neg hs]
    exact ht

theorem traced_install {base : Chain} (ht : Traced base r o) :
    Traced base r.install (r.traced o .install) := by
  cases hs : r.stage with
  | installing c =>
      obtain ⟨m, hm, hc, hl⟩ := ht.made c hs
      simp only [install, Routine.traced, hs, hm]
      refine ⟨⟨[], hc⟩, (fun _ h => by cases h), fun _ _ m' hm' => ?_⟩
      cases hm'
      exact hl
  | _ =>
      simp only [install, Routine.traced, hs]
      exact ht

theorem traced_step {base : Chain} (ht : Traced base r o) (now : Nat) (e : Event) :
    Traced base (r.step now e) (r.traced o e) := by
  have hother : e ≠ .rebuild → e ≠ .build → e ≠ .install → Traced base (r.step now e) o :=
    (step_rule r none now e).traced ht
  cases e with
  | rebuild =>
      refine ⟨⟨[], rfl⟩, ht.made, fun _ _ m hm => ?_⟩
      cases Option.some.inj hm
      rfl
  | build => exact traced_build ht
  | install => exact traced_install ht
  | _ => exact hother nofun nofun nofun

/-- The chain in force was made where the record says. -/
theorem traced_after (u : Updater) (events : List (Nat × Event)) :
    Traced u.chain.current (after u events) (origins u events) :=
  recorded_induction (P := Traced u.chain.current) ⟨⟨[], rfl⟩, nofun, fun _ _ _ hm => by cases hm⟩
    (fun _ _ now e h => traced_step h now e) events

/-! ## What a fault leaves -/

/-- Nothing is being made or installed, and addresses and chains are what they were. -/
structure Untouched (list : List String) (o₀ : Origins) (r : Routine) (o : Origins) : Prop where
  not_building : r.stage ≠ .building
  not_installing : ∀ c, r.stage ≠ .installing c
  fetched : r.updater.fetched = list
  origins : o = o₀

theorem Rule.untouched {list : List String} {o₀ : Origins} (h : Rule r last e r' last')
    (hu : Untouched list o₀ r o) (hlook : e ≠ .look) (hok : ∀ bytes, e ≠ .receive (.ok bytes)) :
    Untouched list o₀ r' o := by
  cases h with
  | stay => exact hu
  | stop | publish | rebuild | evaluate =>
      exact ⟨hu.not_building, hu.not_installing, hu.fetched, hu.origins⟩
  | fetch | giveUp => exact absurd rfl hlook
  | accept => exact absurd rfl (hok _)
  | build hs => exact absurd hs hu.not_building
  | install hs => exact absurd hs (hu.not_installing _)
  | subscribe | fail | rest | finish | heed | wake => exact ⟨nofun, nofun, hu.fetched, hu.origins⟩

theorem untouched_step {list : List String} {o₀ : Origins} (hu : Untouched list o₀ r o) (now : Nat)
    (hlook : e ≠ .look) (hok : ∀ bytes, e ≠ .receive (.ok bytes)) (hrebuild : e ≠ .rebuild) :
    Untouched list o₀ (r.step now e) (r.traced o e) := by
  have ho : r.traced o e = o := by
    cases e with
    | build => exact if_neg hu.not_building
    | install => exact traced_install_of_ne o hu.not_installing
    | rebuild => exact absurd rfl hrebuild
    | _ => rfl
  rw [ho]
  exact (step_rule r none now e).untouched hu hlook hok

/-! ## Chains of the current policy -/

/-- Once it has finished what it is about, the routine serves a chain that was made of the current policy. -/
inductive Follows (r : Routine) (o : Origins) : Prop where
  | building (hs : r.stage = .building)
  | installing {c : Chain} {m : Origin} (hs : r.stage = .installing c) (hm : o.made = some m)
      (hp : m.policy = r.updater.policy)
  | installed {m : Origin} (hs : ∀ c, r.stage ≠ .installing c) (hm : o.installed = some m)
      (hp : m.policy = r.updater.policy)

theorem Rule.follows (h : Rule r last e r' last') (hf : Follows r o) (hpublish : ∀ p, e ≠ .publish p)
    (hbuild : e ≠ .build) (hinstall : e ≠ .install) : Follows r' o := by
  cases h with
  | stay => exact hf
  | publish policy => exact absurd rfl (hpublish policy)
  | build => exact absurd rfl hbuild
  | install => exact absurd rfl hinstall
  | stop | rebuild | evaluate =>
      cases hf with
      | building hs => exact .building hs
      | installing hs hm hp => exact .installing hs hm hp
      | installed hs hm hp => exact .installed hs hm hp
  | giveUp | accept => exact .building rfl
  | subscribe hs | fetch hs | fail hs | rest hs | finish hs | heed hs | wake hs =>
      cases hf with
      | building hs' | installing hs' => rw [hs] at hs'; cases hs'
      | installed _ hm hp => exact .installed nofun hm hp

theorem follows_step (hf : Follows r o) (now : Nat) (hpublish : ∀ p, e ≠ .publish p) :
    Follows (r.step now e) (r.traced o e) := by
  have hother : e ≠ .build → e ≠ .install → Follows (r.step now e) o :=
    (step_rule r none now e).follows hf hpublish
  cases e with
  | rebuild =>
      cases hf with
      | building hs => exact .building hs
      | installing hs hm hp => exact .installing hs hm hp
      | installed hs _ _ => exact .installed hs rfl rfl
  | build =>
      by_cases hs : r.stage = .building
      · rw [step, build, hs, traced, if_pos hs]
        exact .installing rfl rfl rfl
      · rw [step, build_of_ne hs, traced, if_neg hs]
        exact hf
  | install =>
      cases hf with
      | building hs =>
          have hne : ∀ c, r.stage ≠ .installing c := by simp [hs]
          rw [step, install_of_ne hne, traced_install_of_ne o hne]
          exact .building hs
      | installing hs hm hp =>
          rw [step, install, hs, traced, hs]
          exact .installed (fun _ h => by cases h) hm hp
      | installed hs hm hp =>
          rw [step, install_of_ne hs, traced_install_of_ne o hs]
          exact .installed hs hm hp
  | _ => exact hother (by simp) (by simp)

/-! ## Chains of an older policy -/

/-- No chain was made of a policy later than this one. -/
def UpTo (version : Nat) (o : Origins) : Prop :=
  ∀ m, o.installed = some m ∨ o.made = some m → m.policy.version ≤ version

/-- Versions of the policy only grow. -/
theorem Rule.version_le (h : Rule r last e r' last') :
    r.updater.policy.version ≤ r'.updater.policy.version := by
  cases h with
  | publish => exact Nat.le_succ _
  | _ => exact Nat.le_refl _

theorem UpTo.traced {version : Nat} (h : UpTo version o) (r : Routine) (hbuild : e ≠ .build)
    (hrebuild : e ≠ .rebuild) : UpTo version (r.traced o e) := by
  cases e with
  | build => exact absurd rfl hbuild
  | rebuild => exact absurd rfl hrebuild
  | install =>
      simp only [Routine.traced]
      split
      · exact fun m hm => h m (.inr (hm.elim id id))
      · exact h
  | _ => exact h

theorem upTo_step (h : UpTo r.updater.policy.version o) (now : Nat) (e : Event) :
    UpTo (r.step now e).updater.policy.version (r.traced o e) := by
  have hle := (step_rule r none now e).version_le
  have hmono : UpTo (r.step now e).updater.policy.version o := fun m hm => (h m hm).trans hle
  cases e with
  | build =>
      simp only [Routine.traced]
      split
      · rintro m (hm | hm)
        · exact hmono m (.inl hm)
        · cases hm
          exact hle
      · exact hmono
  | rebuild =>
      rintro m (hm | hm)
      · cases hm
        exact Nat.le_refl _
      · exact hmono m (.inr hm)
  | _ => exact hmono.traced r nofun nofun

/-- No chain was made of a policy that is still to come. -/
theorem upTo_after (u : Updater) (events : List (Nat × Event)) :
    UpTo (after u events).updater.policy.version (origins u events) :=
  recorded_induction (P := fun r o => UpTo r.updater.policy.version o)
    (fun m hm => by rcases hm with hm | hm <;> cases hm) (fun _ _ now e h => upTo_step h now e) events

/-! ## Every run -/

/-- What a run leaves in force, whatever its refreshes come to. -/
structure InForce (u : Updater) (events : List (Nat × Event)) : Prop where
  /-- The addresses are those of the last refresh to succeed. -/
  list : (after u events).updater.fetched = lastList u events
  /-- The chain that is installed is the one that was made of its origin, -/
  chain : ∃ peers, (after u events).updater.chain.current =
    (((origin u events).map Origin.chain).getD u.chain.current).after peers
  /-- with just these addresses when the routine waits. -/
  waiting : ∀ due m, (after u events).stage = .waiting due → origin u events = some m →
    m.list = lastList u events
  /-- If it was made of the policy as it is, then it is the chain of the policy with the addresses of the
  last refresh to succeed, even if the last refresh failed. -/
  served : ∀ due m, (after u events).stage = .waiting due → origin u events = some m →
    m.policy = (after u events).updater.policy → (after u events).Serves (lastList u events)
  /-- It was made of the policy as it is if since the last change a list has come, -/
  refreshed : (after u events).stage = .building → ∀ more due,
    (∀ x ∈ more, ∀ policy, x.2 ≠ .publish policy) → (after u (events ++ more)).stage = .waiting due →
      ∃ m, origin u (events ++ more) = some m ∧ m.policy = (after u (events ++ more)).updater.policy
  /-- or somebody else has rebuilt the chain while the routine was not about to install one, -/
  rebuilt : (∀ c, (after u events).stage ≠ .installing c) → ∀ now more due,
    (∀ x ∈ more, ∀ policy, x.2 ≠ .publish policy) →
      let all := events ++ (now, .rebuild) :: more
      (after u all).stage = .waiting due →
        ∃ m, origin u all = some m ∧ m.policy = (after u all).updater.policy
  /-- but as long as no chain is made after a change, the one that is installed is of an older policy. -/
  outdated : ∀ now policy more, (∀ x ∈ more, x.2 ≠ .build ∧ x.2 ≠ .rebuild) →
    let all := events ++ (now, .publish policy) :: more
    ∀ m, origin u all = some m → m.policy.version < (after u all).updater.policy.version
  /-- A refresh that fails leaves chain and addresses as they are. -/
  fault : (after u events).stage = .fetching → ∀ more,
    (∀ x ∈ more, x.2 ≠ .look ∧ x.2 ≠ .rebuild ∧ ∀ bytes, x.2 ≠ .receive (.ok bytes)) →
      origin u (events ++ more) = origin u events ∧ lastList u (events ++ more) = lastList u events

/-- A routine that waits, with a chain made since the last publication, has the current policy in force. -/
theorem origin_of_follows (hf : Follows (after u events) (origins u events)) {due : Nat}
    (hs : (after u events).stage = .waiting due) :
    ∃ m, origin u events = some m ∧ m.policy = (after u events).updater.policy := by
  cases hf with
  | building hs' | installing hs' => rw [hs] at hs'; cases hs'
  | installed _ hm hp => exact ⟨_, hm, hp⟩

theorem follows_append {more : List (Nat × Event)} (hmore : ∀ x ∈ more, ∀ policy, x.2 ≠ .publish policy)
    (hf : Follows (after u events) (origins u events)) :
    Follows (after u (events ++ more)) (origins u (events ++ more)) :=
  recorded_append_induction events (P := Follows) (Q := fun e => ∀ policy, e ≠ .publish policy)
    (fun _ _ now _ he hf => follows_step hf now he) hmore hf

/-- Whatever comes of its refreshes, the routine serves the addresses that it has with the policy of which
it made its last chain. -/
theorem in_force (u : Updater) (events : List (Nat × Event)) : InForce u events where
  list := fetched_eq_lastList u events
  chain := (traced_after u events).installed
  waiting due m hs hm := by
    rw [← fetched_eq_lastList]
    exact (traced_after u events).list (by simp [hs]) (by simp [hs]) m hm
  served due m hs hm hp := by
    have ht := traced_after u events
    obtain ⟨peers, hc⟩ := ht.installed
    have hl := ht.list (by simp [hs]) (by simp [hs]) m hm
    refine ⟨peers, ?_⟩
    rw [hc, show (origins u events).installed = some m from hm, Option.map_some, Option.getD_some,
      Origin.chain, hp, hl, fetched_eq_lastList]
  refreshed hs more due hmore hw := origin_of_follows (follows_append hmore (.building hs)) hw
  rebuilt hs now more due hmore := by
    intro all hw
    -- a rebuild puts a chain of the current policy in place, which only another change makes outdated
    have hf : Follows (after u (events ++ [(now, .rebuild)])) (origins u (events ++ [(now, .rebuild)])) := by
      rw [after_concat, origins, recorded_concat]
      exact .installed hs rfl rfl
    have hall : all = (events ++ [(now, .rebuild)]) ++ more := List.append_cons ..
    rw [hall] at hw ⊢
    exact origin_of_follows (follows_append hmore hf) hw
  outdated now policy more hmore := by
    intro all m hm
    have hstart : UpTo (after u events).updater.policy.version (origins u (events ++ [(now, .publish policy)])) ∧
        (after u events).updater.policy.version <
          (after u (events ++ [(now, .publish policy)])).updater.policy.version := by
      rw [after_concat, origins, recorded_concat]
      exact ⟨upTo_after u events, Nat.lt_succ_self _⟩
    have hall : all = (events ++ [(now, .publish policy)]) ++ more := List.append_cons ..
    have hend := recorded_append_induction _
      (P := fun r o => UpTo (after u events).updater.policy.version o ∧
        (after u events).updater.policy.version < r.updater.policy.version)
      (Q := fun e => e ≠ .build ∧ e ≠ .rebuild)
      (fun r _ now e he h => ⟨h.1.traced r he.1 he.2, h.2.trans_le (step_rule r none now e).version_le⟩)
      hmore hstart
    rw [hall] at hm ⊢
    exact (hend.1 m (.inl hm)).trans_lt hend.2
  fault hs more hmore := by
    have hend := recorded_append_induction _
      (P := Untouched (after u events).updater.fetched (origins u events))
      (Q := fun e => e ≠ .look ∧ e ≠ .rebuild ∧ ∀ bytes, e ≠ .receive (.ok bytes))
      (fun _ _ now _ he h => untouched_step h now he.1 he.2.2 he.2.1) hmore
      ⟨by simp [hs], by simp [hs], rfl, rfl⟩
    rw [← fetched_eq_lastList, ← fetched_eq_lastList]
    exact ⟨congrArg Origins.installed hend.origins, hend.fetched⟩

end Matcher

/-- The list cannot be fetched when the policy comes to refuse the address 5.6.7.8. The routine has noticed
the change and waits again, and the chain of the earlier policy still admits the address. -/
theorem policy_ignored_after_fault :
    let earlier := { Policy.standard with listUrl := some "list", clientPatterns := [], idPatterns := [] }
    let later := { earlier with addresses := ["5.6.7.8"] }
    let u := Updater.ofPolicy earlier
    let events := [(0, Event.subscribe), (0, .look), (5, .receive (.ok "1.2.3.4".toUTF8.toList)), (5, .build),
      (5, .install), (5, .rest), (9, .publish later), (9, .heed), (9, .look),
      (20, .receive (.error (.status "list" 503))), (20, .rest)]
    let r := after u events
    let peer : Peer := ⟨[], "", "5.6.7.8"⟩
    (r.stage = .waiting 21600020 ∧ r.IsCurrent ∧
      lastRefresh u events = some ⟨some "list", some (.error (.status "list" 503))⟩) ∧
      (r.updater.policy.value = later ∧ lastList u events = ["1.2.3.4"]) ∧
      (later.chain ["1.2.3.4"]).verdict peer = .block 0 ∧
      r.updater.chain.current.verdict peer = .allow ∧ ¬ r.Serves ["1.2.3.4"] := by
  intro earlier later u events r peer
  have hpolicy : r.updater.policy.value = later := by decide +kernel
  have hblock : (later.chain ["1.2.3.4"]).verdict peer = .block 0 := by decide +kernel
  have hallow : r.updater.chain.current.verdict peer = .allow := by decide +kernel
  refine ⟨⟨by decide +kernel, rfl, rfl⟩, ⟨hpolicy, by decide +kernel⟩, hblock, hallow, ?_⟩
  rintro ⟨peers, hc⟩
  -- peers that were seen before do not change what a chain decides
  have hafter : ((later.chain ["1.2.3.4"]).after peers).verdict peer = .block 0 := by
    rw [Chain.verdict_eq_block, Chain.filters_after]
    exact Chain.verdict_eq_block.mp hblock
  rw [hpolicy] at hc
  rw [hc, hafter] at hallow
  cases hallow

end Routine

end Swarmkeeper.Blocklist
