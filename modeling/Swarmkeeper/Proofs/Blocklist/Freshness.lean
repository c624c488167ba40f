import Swarmkeeper.Blocklist.Routine
import Swarmkeeper.Pattern.Basic
import Swarmkeeper.Proofs.Admission.Decision

/-!
# A chain in step with its policy

The routine notices every change of the policy that comes after its first turn, however late. When it
waits and has noticed all of them, and its last refresh succeeded, the chain that is installed is that of
the policy with the addresses of that refresh.
-/

namespace Swarmkeeper

/-! ## The chain that is installed -/

namespace Admission

variable [Pattern.Matcher]

theorem Chain.after_concat (c : Chain) (peers : List Peer) (peer : Peer) :
    c.after (peers ++ [peer]) = ((c.after peers).evaluate peer).2 := by
  simp [after, List.foldl_append]

namespace SharedChain

theorem current_evaluate (s : SharedChain) (peer : Peer) :
    (s.evaluate peer).2.current = (s.current.evaluate peer).2 := by
  obtain ⟨newer, oldest⟩ := s
  cases newer with
  | nil => rfl
  | cons c newer => simp [evaluate, evaluateAt, get?, currentId, modify, current]

end SharedChain

end Admission

namespace Blocklist

open Swarmkeeper.Admission

/-! ## Refreshes -/

/-- A refresh of the routine: the URL that it looked up, and the answer, if it has come. -/
structure Refresh where
  url : Option String
  answer : Option Body

namespace Refresh

/-- There was nothing to fetch, or the answer has come. -/
def IsOver (f : Refresh) : Prop := f.url = none ∨ f.answer.isSome = true

/-- The addresses that the refresh came to, if it succeeded. -/
def list? (f : Refresh) : Option (List String) :=
  match f.url, f.answer with
  | none, _ => some []
  | some _, some (.ok bytes) => some (addresses bytes)
  | some _, _ => none

end Refresh

namespace Routine

section Matcher

variable [Pattern.Matcher]

/-- Notes what an event means for the last refresh. -/
def noted (r : Routine) (last : Option Refresh) : Event → Option Refresh
  | .look => if r.stage = .looking then some ⟨r.updater.policy.value.listUrl, none⟩ else last
  | .receive body => if r.stage = .fetching then last.map ({ · with answer := some body }) else last
  | _ => last

/-- The routine after these events, and the last refresh that it has begun. -/
def logged (u : Updater) (events : List (Nat × Event)) : Routine × Option Refresh :=
  events.foldl (fun (r, last) (now, e) => (r.step now e, r.noted last e)) (ofUpdater u, none)

/-- The last refresh that the routine has begun. -/
def lastRefresh (u : Updater) (events : List (Nat × Event)) : Option Refresh := (logged u events).2

variable {u : Updater} {r : Routine} {last : Option Refresh} {events : List (Nat × Event)}

theorem after_concat (u : Updater) (events : List (Nat × Event)) (now : Nat) (e : Event) :
    after u (events ++ [(now, e)]) = (after u events).step now e := by
  simp [after, List.foldl_append]

theorem logged_concat (u : Updater) (events : List (Nat × Event)) (now : Nat) (e : Event) :
    logged u (events ++ [(now, e)]) =
      ((logged u events).1.step now e, (logged u events).1.noted (logged u events).2 e) := by
  simp [logged, List.foldl_append]

theorem logged_fst (u : Updater) (events : List (Nat × Event)) : (logged u events).1 = after u events := by
  induction events using List.reverseRecOn with
  | nil => rfl
  | append_singleton events e ih => rw [logged_concat, after_concat, ih]

theorem lastRefresh_concat (u : Updater) (events : List (Nat × Event)) (now : Nat) (e : Event) :
    lastRefresh u (events ++ [(now, e)]) = (after u events).noted (lastRefresh u events) e := by
  rw [lastRefresh, logged_concat, logged_fst, lastRefresh]

/-! ## Rules -/

/-- What an event can do to a routine and to what is noted of its last refresh. -/
inductive Rule (r : Routine) (last : Option Refresh) : Event → Routine → Option Refresh → Prop where
  /-- The event cannot happen where the routine is. -/
  | stay {e : Event} : Rule r last e r last
  | publish (policy : Policy) :
      Rule r last (.publish policy) (r.onUpdater (·.publish policy)) last
  | rebuild : Rule r last .rebuild (r.onUpdater (·.rebuild)) last
  | evaluate (peer : Peer) :
      Rule r last (.evaluate peer) (r.onUpdater fun u => (u.evaluate peer).2) last
  | stop : Rule r last .stop { r with isStopping := true } last
  | subscribe (hs : r.stage = .starting) :
      Rule r last .subscribe { r with reader := .ofSetting r.updater.policy, stage := .looking } last
  | fetch {url : String} (hs : r.stage = .looking) (hu : r.updater.policy.value.listUrl = some url) :
      Rule r last .look { r with refreshes := r.refreshes + 1, stage := .fetching } (some ⟨some url, none⟩)
  | giveUp (hs : r.stage = .looking) (hu : r.updater.policy.value.listUrl = none) :
      Rule r last .look
        { r.onUpdater ({ · with fetched := [] }) with refreshes := r.refreshes + 1, stage := .building }
        (some ⟨none, none⟩)
  | accept {bytes : List UInt8} (hs : r.stage = .fetching) :
      Rule r last (.receive (.ok bytes))
        { r.onUpdater ({ · with fetched := addresses bytes }) with stage := .building }
        (last.map ({ · with answer := some (.ok bytes) }))
  | fail {f : Web.Fault} (hs : r.stage = .fetching) :
      Rule r last (.receive (.error f)) { r with stage := .resting }
        (last.map ({ · with answer := some (.error f) }))
  | build (hs : r.stage = .building) :
      Rule r last .build
        { r with stage := .installing (r.updater.policy.value.chain r.updater.fetched) } last
  | install {chain : Chain} (hs : r.stage = .installing chain) :
      Rule r last .install
        { r.onUpdater (fun u => { u with chain := u.chain.replace chain }) with stage := .resting } last
  | rest {due : Nat} (hs : r.stage = .resting) : Rule r last .rest { r with stage := .waiting due } last
  | finish {due : Nat} (hs : r.stage = .waiting due) : Rule r last .finish { r with stage := .ended } last
  | heed {due : Nat} (hs : r.stage = .waiting due) :
      Rule r last .heed { r with reader := .ofSetting r.updater.policy, stage := .looking } last
  | wake {due : Nat} (hs : r.stage = .waiting due) : Rule r last .wake { r with stage := .looking } last

theorem exists_waiting (now : Nat)
    (h : r.mayEnd = true ∨ r.mayFollow = true ∨ r.mayRepeat now = true) : ∃ due, r.stage = .waiting due := by
  cases hs : r.stage with
  | waiting due => exact ⟨due, rfl⟩
  | _ => simp [mayEnd, mayFollow, mayRepeat, hs] at h

theorem look_rule (r : Routine) (last : Option Refresh) :
    Rule r last .look r.look.2 (r.noted last .look) := by
  by_cases hs : r.stage = .looking
  · cases hu : r.updater.policy.value.listUrl with
    | none => simpa [look, noted, hs, hu, onUpdater] using Rule.giveUp hs hu
    | some url => simpa [look, noted, hs, hu] using Rule.fetch hs hu
  · rw [noted, if_neg hs]
    unfold look
    split
    · exact absurd ‹_› hs
    · exact .stay

theorem receive_rule (r : Routine) (last : Option Refresh) (body : Body) :
    Rule r last (.receive body) (r.receive body) (r.noted last (.receive body)) := by
  by_cases hs : r.stage = .fetching
  · cases body with
    | ok bytes => simpa [receive, noted, hs] using Rule.accept hs
    | error f => simpa [receive, noted, hs] using Rule.fail hs
  · rw [noted, if_neg hs]
    unfold receive
    split
    · exact absurd ‹_› hs
    · exact .stay

/-- Every event follows one of the rules. -/
theorem step_rule (r : Routine) (last : Option Refresh) (now : Nat) (e : Event) :
    Rule r last e (r.step now e) (r.noted last e) := by
  cases e with
  | publish policy => exact .publish policy
  | rebuild => exact .rebuild
  | evaluate peer => exact .evaluate peer
  | stop => exact .stop
  | subscribe =>
      simp only [step, subscribe]
      split
      · exact .subscribe ‹_›
      · exact .stay
  | look => exact look_rule r last
  | receive body => exact receive_rule r last body
  | build =>
      simp only [step, build]
      split
      · exact .build ‹_›
      · exact .stay
  | install =>
      simp only [step, install]
      split
      · exact .install ‹_›
      · exact .stay
  | rest =>
      simp only [step, rest]
      split
      · exact .rest ‹_›
      · exact .stay
  | finish =>
      simp only [step, finish]
      split
      · obtain ⟨due, hs⟩ := exists_waiting now (.inl ‹_›)
        exact .finish hs
      · exact .stay
  | heed =>
      simp only [step, heed]
      split
      · obtain ⟨due, hs⟩ := exists_waiting now (.inr (.inl ‹_›))
        exact .heed hs
      · exact .stay
  | wake =>
      simp only [step, wake]
      split
      · obtain ⟨due, hs⟩ := exists_waiting now (.inr (.inr ‹_›))
        exact .wake hs
      · exact .stay

/-! ## What the routine knows -/

/-- The routine has noticed every change of the policy. -/
def IsCurrent (r : Routine) : Prop := r.reader.isBehind r.updater.policy = false

/-- The chain that is installed is that of the policy with these addresses. -/
def Serves (r : Routine) (list : List String) : Prop :=
  ∃ peers, r.updater.chain.current = (r.updater.policy.value.chain list).after peers

/-- How far the last refresh has come, by where the routine is. -/
def Reaches (r : Routine) (last : Option Refresh) : Prop :=
  match r.stage with
  | .starting | .looking => True
  | .fetching => ∃ url, last = some ⟨some url, none⟩
  | .building | .installing _ => ∃ f, last = some f ∧ f.IsOver ∧ f.list? = some r.updater.fetched
  | .resting | .waiting _ | .ended =>
      ∃ f, last = some f ∧ f.IsOver ∧ ∀ list, f.list? = some list → list = r.updater.fetched

/-- What the refresh has to do with the policy, by where the routine is. -/
def Suits (r : Routine) (f : Refresh) : Prop :=
  match r.stage with
  | .starting | .looking => True
  | .fetching | .building => f.url = r.updater.policy.value.listUrl
  | .installing chain => f.url = r.updater.policy.value.listUrl ∧
      chain = r.updater.policy.value.chain r.updater.fetched
  | .resting | .waiting _ | .ended =>
      f.list?.isSome = true → f.url = r.updater.policy.value.listUrl ∧ r.Serves r.updater.fetched

/-- The routine has seen no later policy than there is, and if it has seen that, its last refresh suits the
policy. -/
structure Sound (r : Routine) (last : Option Refresh) : Prop where
  seen : r.stage ≠ .starting → r.reader.seen ≤ r.updater.policy.version
  reaches : r.Reaches last
  suits : r.IsCurrent → ∀ f, last = some f → r.Suits f

variable {r' : Routine} {last' : Option Refresh} {e : Event}

theorem Suits.onUpdater {f : Refresh} {g : Updater → Updater} (h : r.Suits f)
    (hp : (g r.updater).policy = r.updater.policy) (hf : (g r.updater).fetched = r.updater.fetched)
    (hserves : r.Serves r.updater.fetched → (r.onUpdater g).Serves r.updater.fetched) :
    (r.onUpdater g).Suits f := by
  cases hs : r.stage with
  | starting | looking => simp [Suits, Routine.onUpdater, hs]
  | fetching | building | installing => simpa [Suits, Routine.onUpdater, hs, hp, hf] using h
  | resting | waiting | ended =>
      simp only [Suits, hs] at h
      simp only [Suits, Routine.onUpdater, hs, hp, hf]
      exact fun hl => (h hl).imp_right hserves

theorem Rule.seen (h : Rule r last e r' last') (hr : r.Sound last) :
    r'.stage ≠ .starting → r'.reader.seen ≤ r'.updater.policy.version := by
  intro hn
  cases h with
  | subscribe | heed => exact Nat.le_refl _
  | publish => exact (hr.seen hn).trans (Nat.le_succ _)
  | stay | rebuild | evaluate | stop => exact hr.seen hn
  | fetch hs | giveUp hs | accept hs | fail hs | build hs | install hs | rest hs | finish hs | wake hs =>
      exact hr.seen (by simp [hs])

theorem Rule.reaches (h : Rule r last e r' last') (hr : r.Reaches last) : r'.Reaches last' := by
  cases h with
  | stay | stop | publish | rebuild | evaluate => exact hr
  | subscribe | heed | wake => trivial
  | fetch => exact ⟨_, rfl⟩
  | giveUp => exact ⟨_, rfl, .inl rfl, rfl⟩
  | accept hs =>
      rw [Reaches, hs] at hr
      obtain ⟨url, rfl⟩ := hr
      exact ⟨_, rfl, .inr rfl, rfl⟩
  | fail hs =>
      rw [Reaches, hs] at hr
      obtain ⟨url, rfl⟩ := hr
      exact ⟨_, rfl, .inr rfl, nofun⟩
  | build hs | rest hs | finish hs =>
      rw [Reaches, hs] at hr
      exact hr
  | install hs =>
      rw [Reaches, hs] at hr
      obtain ⟨f, hl, ho, hf⟩ := hr
      refine ⟨f, hl, ho, fun list hlist => ?_⟩
      rw [hf] at hlist
      exact (Option.some.inj hlist).symm

theorem Rule.suits (h : Rule r last e r' last') (hr : r.Sound last) (hc : r'.IsCurrent) :
    ∀ f, last' = some f → r'.Suits f := by
  intro f hl
  cases h with
  | stay | stop => exact hr.suits hc f hl
  | subscribe | heed | wake => trivial
  | publish policy =>
      by_cases hs : r.stage = .starting
      · simp [Suits, onUpdater, hs]
      · -- the routine has yet to notice this change
        have hlt : ¬ r.reader.seen < r.updater.policy.version + 1 := of_decide_eq_false hc
        exact absurd (Nat.lt_succ_of_le (hr.seen hs)) hlt
  | rebuild => exact (hr.suits hc f hl).onUpdater rfl rfl fun _ => ⟨[], rfl⟩
  | evaluate peer =>
      refine (hr.suits hc f hl).onUpdater rfl rfl fun ⟨peers, hp⟩ => ⟨peers ++ [peer], ?_⟩
      rw [Chain.after_concat]
      exact (SharedChain.current_evaluate _ _).trans (congrArg (fun c => (c.evaluate peer).2) hp)
  | fetch hs hu | giveUp hs hu =>
      cases hl
      exact hu.symm
  | accept hs =>
      have ht := hr.reaches
      rw [Reaches, hs] at ht
      obtain ⟨url, rfl⟩ := ht
      cases hl
      have hu := hr.suits hc _ rfl
      rw [Suits, hs] at hu
      exact hu
  | fail hs =>
      have ht := hr.reaches
      rw [Reaches, hs] at ht
      obtain ⟨url, rfl⟩ := ht
      cases hl
      exact nofun
  | build hs =>
      have hu := hr.suits hc f hl
      rw [Suits, hs] at hu
      exact ⟨hu, rfl⟩
  | install hs =>
      have hu := hr.suits hc f hl
      rw [Suits, hs] at hu
      exact fun _ => ⟨hu.1, [], hu.2⟩
  | rest hs | finish hs =>
      have hu := hr.suits hc f hl
      rw [Suits, hs] at hu
      exact hu

/-- The routine, its last refresh and what is installed stay in agreement. -/
theorem Rule.sound (h : Rule r last e r' last') (hr : r.Sound last) : r'.Sound last' :=
  ⟨h.seen hr, h.reaches hr.reaches, h.suits hr⟩

/-- A change of the policy that the routine has not noticed stays unnoticed until it is heeded. -/
theorem Rule.isBehind (h : Rule r last e r' last') (he : e ≠ .heed) (hs : r.stage ≠ .starting)
    (hb : r.reader.isBehind r.updater.policy = true) :
    r'.stage ≠ .starting ∧ r'.reader.isBehind r'.updater.policy = true := by
  cases h with
  | stay | rebuild | evaluate | stop => exact ⟨hs, hb⟩
  | publish policy =>
      have hlt : r.reader.seen < r.updater.policy.version := of_decide_eq_true hb
      exact ⟨hs, decide_eq_true (Nat.lt_succ_of_lt hlt)⟩
  | subscribe hs' => exact absurd hs' hs
  | heed => exact absurd rfl he
  | fetch | giveUp | accept | fail | build | install | rest | finish | wake => exact ⟨nofun, hb⟩

/-! ## Every run -/

/-- They agree after any events. -/
theorem sound_after (u : Updater) (events : List (Nat × Event)) :
    (after u events).Sound (lastRefresh u events) := by
  induction events using List.reverseRecOn with
  | nil => exact ⟨fun h => absurd rfl h, trivial, fun _ _ _ => trivial⟩
  | append_singleton events e ih =>
      rw [after_concat, lastRefresh_concat]
      exact (step_rule _ _ _ _).sound ih

/-- A change that was not noticed stays to be noticed. -/
theorem isBehind_append {later : List (Nat × Event)} (hl : ∀ now, (now, Event.heed) ∉ later)
    (hs : (after u events).stage ≠ .starting)
    (hb : (after u events).reader.isBehind (after u events).updater.policy = true) :
    (after u (events ++ later)).stage ≠ .starting ∧
      (after u (events ++ later)).reader.isBehind (after u (events ++ later)).updater.policy = true := by
  induction later using List.reverseRecOn with
  | nil => exact ⟨by rwa [List.append_nil], by rwa [List.append_nil]⟩
  | append_singleton later e ih =>
      obtain ⟨hs, hb⟩ := ih fun now h => hl now (List.mem_append_left _ h)
      rw [← List.append_assoc, after_concat]
      refine (step_rule _ (lastRefresh u (events ++ later)) _ _).isBehind ?_ hs hb
      intro he
      exact hl e.1 (by simp [← he])

/-- The routine keeps the chain in step with the policy. -/
structure InStep (u : Updater) (events : List (Nat × Event)) : Prop where
  /-- When it waits, its last refresh is over. -/
  refreshed : ∀ due, (after u events).stage = .waiting due →
    ∃ f, lastRefresh u events = some f ∧ f.IsOver
  /-- If it has noticed every change of the policy and that refresh succeeded, it was for the URL that the
  policy names, and the chain is that of the policy with what the refresh came to. -/
  served : ∀ due f list, (after u events).stage = .waiting due →
    (after u events).reader.isBehind (after u events).updater.policy = false →
    lastRefresh u events = some f → f.list? = some list →
      f.url = (after u events).updater.policy.value.listUrl ∧
        ∃ peers, (after u events).updater.chain.current =
          ((after u events).updater.policy.value.chain list).after peers
  /-- A change that comes after its first turn, whenever that is, waits to be noticed. -/
  noticed : ∀ now policy later, (after u events).stage ≠ .starting →
    (∀ now, (now, Event.heed) ∉ later) →
      let after := after u (events ++ (now, .publish policy) :: later)
      after.reader.isBehind after.updater.policy = true

/-- However the policy changes, the lists come and the interval passes, the routine keeps the chain in step
with the policy. -/
theorem in_step (u : Updater) (events : List (Nat × Event)) : InStep u events where
  refreshed due hs := by
    have ht := (sound_after u events).reaches
    rw [Reaches, hs] at ht
    obtain ⟨f, hl, ho, -⟩ := ht
    exact ⟨f, hl, ho⟩
  served due f list hs hc hl hf := by
    have ht := (sound_after u events).reaches
    rw [Reaches, hs, hl] at ht
    obtain ⟨_, hl', -, hfetched⟩ := ht
    cases hl'
    have hu := (sound_after u events).suits hc f hl
    rw [Suits, hs] at hu
    obtain ⟨hu, hserves⟩ := hu (by rw [hf]; rfl)
    exact ⟨hu, by rw [hfetched list hf]; exact hserves⟩
  noticed now policy later hs hl := by
    have hlt := (sound_after u events).seen hs
    rw [List.append_cons]
    refine (isBehind_append hl ?_ ?_).2
    · rw [after_concat]
      exact hs
    · rw [after_concat]
      exact decide_eq_true (Nat.lt_succ_of_le hlt)

end Matcher

-- The policy changes while the list at the old URL is fetched; the routine waits, and notices.
example :
    let policy url := { Policy.disabled with listUrl := some url }
    let u := Updater.ofPolicy (policy "old")
    let events := [(0, Event.subscribe), (0, .look), (5, .publish (policy "new")), (9, .receive (.ok [])),
      (9, .build), (9, .install), (9, .rest)]
    let more := [(9, Event.heed), (9, .look), (12, .receive (.ok [])), (12, .build), (12, .install),
      (12, .rest)]
    (after u events).mayFollow = true ∧
      (after u (events ++ more)).stage = .waiting 21600012 ∧
      (after u (events ++ more)).mayFollow = false ∧
      lastRefresh u (events ++ more) = some ⟨some "new", some (.ok [])⟩ :=
  ⟨rfl, rfl, rfl, rfl⟩

end Routine

end Blocklist

end Swarmkeeper
