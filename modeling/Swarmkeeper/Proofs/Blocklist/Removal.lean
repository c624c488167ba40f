import Swarmkeeper.Blocklist.Traffic
import Swarmkeeper.Proofs.Blocklist.Freshness

/-!
# A list that was given up

A refresh that finds no URL gives up the addresses. As long as the policy names no URL, only a refresh
that was waiting for its answer at that moment can bring addresses back; if one gets a list, it does.
-/

namespace Swarmkeeper.Blocklist

open Swarmkeeper.Admission

section Matcher

variable [Pattern.Matcher]

/-! ## The routine from pause to pause -/

namespace Routine

variable {r : Routine} {now : Nat}

/-- The routine is where it lets others work. -/
def IsPaused (r : Routine) : Prop :=
  r.stage = .starting ∨ r.stage = .fetching ∨ (∃ due, r.stage = .waiting due) ∨ r.stage = .ended

/-- An event is the beginning of a refresh of the routine. -/
def Begins (r : Routine) (now : Nat) : Traffic.Event → Prop
  | .start => r.stage = .starting
  | .follow => r.mayFollow = true
  | .again => r.mayRepeat now = true
  | _ => False

/-- A refresh that finds a URL waits for its answer. -/
theorem refresh_of_url {url : String} (hs : r.stage = .looking)
    (hu : r.updater.policy.value.listUrl = some url) :
    r.refresh now = (some url, { r with refreshes := r.refreshes + 1, stage := .fetching }) := by
  simp [refresh, look, hs, hu, build, install, rest]

/-- Where there is nothing to fetch the routine does what everyone does. -/
theorem refresh_of_none (hs : r.stage = .looking) (hu : r.updater.policy.value.listUrl = none) :
    r.refresh now = (none, { r.onUpdater (·.install []) with
      refreshes := r.refreshes + 1, stage := .waiting (now + interval r.updater.policy.value) }) := by
  simp [refresh, look, hs, hu, build, install, rest, onUpdater, Updater.install, Updater.rebuild]

theorem refresh_of_isPaused (hp : r.IsPaused) : r.refresh now = (none, r) := by
  rcases hp with hs | hs | ⟨due, hs⟩ | hs <;> simp [refresh, look, hs, build, install, rest]

theorem answer_ok (bytes : List UInt8) (hs : r.stage = .fetching) :
    r.answer now (.ok bytes) = { r.onUpdater (·.install (addresses bytes)) with
      stage := .waiting (now + interval r.updater.policy.value) } := by
  simp [answer, receive, hs, build, install, rest, onUpdater, Updater.install, Updater.rebuild]

theorem answer_error (f : Web.Fault) (hs : r.stage = .fetching) :
    r.answer now (.error f) = { r with stage := .waiting (now + interval r.updater.policy.value) } := by
  simp [answer, receive, hs, build, install, rest]

theorem answer_of_isPaused (body : Body) (hp : r.IsPaused) (hs : r.stage ≠ .fetching) :
    r.answer now body = r := by
  rcases hp with hs' | hs' | ⟨due, hs'⟩ | hs'
  · simp [answer, receive, hs', build, install, rest]
  · exact absurd hs' hs
  · simp [answer, receive, hs', build, install, rest]
  · simp [answer, receive, hs', build, install, rest]

end Routine

namespace Traffic

variable {t t' : Traffic} {now : Nat} {e : Event}

/-! ## Rules -/

/-- An event is the beginning of a refresh. -/
def Begins (t : Traffic) (now : Nat) : Event → Prop
  | .call => True
  | e => t.routine.Begins now e

/-- An event is the answer for which a refresh waits. -/
def Awaits (t : Traffic) : Event → Prop
  | .reply n _ => ∃ url, t.calls[n]? = some (.waiting url)
  | .receive _ => t.routine.stage = .fetching
  | _ => False

/-- The addresses that come with an event, if a list comes. -/
def Event.list? : Event → Option (List String)
  | .reply _ (.ok bytes) | .receive (.ok bytes) => some (addresses bytes)
  | _ => none

/-- What an event can do. Of what it does to the refreshes under way only this is told: none is added unless
one begins at a URL. -/
inductive Rule (t : Traffic) (now : Nat) (e : Event) (t' : Traffic) : Prop where
  | publish (policy : Policy) (he : e = .publish policy) (hu : t'.updater = t.updater.publish policy)
      (hw : ∀ e, t'.Awaits e → t.Awaits e)
  | evaluate (peer : Peer) (he : e = .evaluate peer) (hu : t'.updater = (t.updater.evaluate peer).2)
      (hw : ∀ e, t'.Awaits e → t.Awaits e)
  /-- The chain is made of what is there. -/
  | rebuild (he : e = .rebuild) (hu : t'.updater = t.updater.rebuild) (hw : ∀ e, t'.Awaits e → t.Awaits e)
  /-- Nothing is done to the updater: no refresh begins, and no list comes. -/
  | keep (hb : ¬ t.Begins now e) (ha : t.Awaits e → e.list? = none) (hu : t'.updater = t.updater)
      (hw : ∀ e, t'.Awaits e → t.Awaits e)
  /-- A list is to be fetched. -/
  | ask {url : String} (hb : t.Begins now e) (hl : t.updater.policy.value.listUrl = some url)
      (hu : t'.updater = t.updater)
  /-- There is nothing to fetch. -/
  | giveUp (hb : t.Begins now e) (hl : t.updater.policy.value.listUrl = none)
      (hu : t'.updater = t.updater.install []) (hw : ∀ e, t'.Awaits e → t.Awaits e)
  /-- A list has come. -/
  | accept {list : List String} (ha : t.Awaits e) (hl : e.list? = some list)
      (hu : t'.updater = t.updater.install list) (hw : ∀ e, t'.Awaits e → t.Awaits e)

theorem awaits_append {c : Call} (hc : ∀ url, c ≠ .waiting url) (hs : t'.routine.stage = t.routine.stage)
    (hcalls : t'.calls = t.calls ++ [c]) : ∀ e, t'.Awaits e → t.Awaits e := by
  intro e ha
  cases e with
  | reply n body =>
      obtain ⟨url, hn⟩ := ha
      rw [hcalls, List.getElem?_append] at hn
      split at hn
      · exact ⟨url, hn⟩
      · exact absurd (List.mem_singleton.mp (List.mem_of_getElem? hn)).symm (hc url)
  | receive body => exact hs.symm.trans ha
  | _ => exact ha

theorem awaits_set {n : Nat} {c : Call} (hc : ∀ url, c ≠ .waiting url)
    (hs : t'.routine.stage = t.routine.stage) (hcalls : t'.calls = t.calls.set n c) :
    ∀ e, t'.Awaits e → t.Awaits e := by
  intro e ha
  cases e with
  | reply m body =>
      obtain ⟨url, hm⟩ := ha
      rw [hcalls, List.getElem?_set] at hm
      split at hm
      · split at hm
        · exact absurd (Option.some.inj hm) (hc url)
        · cases hm
      · exact ⟨url, hm⟩
  | receive body => exact hs.symm.trans ha
  | _ => exact ha

theorem awaits_of_routine {r : Routine} (hs : r.stage = .fetching → t.routine.stage = .fetching) :
    ∀ e, (⟨r, t.calls⟩ : Traffic).Awaits e → t.Awaits e := by
  intro e ha
  cases e with
  | reply n body => exact ha
  | receive body => exact hs ha
  | _ => exact ha

theorem call_rule (t : Traffic) (now : Nat) : Rule t now .call t.call := by
  cases hl : t.updater.policy.value.listUrl with
  | none =>
      have hcall : t.call = { t.onUpdater fun _ => t.updater.install [] with
          calls := t.calls ++ [.over (.ok 0)] } := by
        simp [call, Updater.beginRefresh, hl]
      rw [hcall]
      exact .giveUp trivial hl rfl (awaits_append (by simp) rfl rfl)
  | some url =>
      have hcall : t.call = { t.onUpdater fun _ => t.updater with calls := t.calls ++ [.waiting url] } := by
        simp [call, Updater.beginRefresh, hl]
      rw [hcall]
      exact .ask trivial hl rfl

theorem reply_rule (t : Traffic) (now n : Nat) (body : Body) : Rule t now (.reply n body) (t.reply n body) := by
  unfold reply
  split
  · rename_i url hn
    cases body with
    | ok bytes => exact .accept ⟨url, hn⟩ rfl rfl (awaits_set (by simp) rfl rfl)
    | error f => exact .keep id (fun _ => rfl) rfl (awaits_set (by simp) rfl rfl)
  · rename_i hno
    exact .keep id (fun ⟨url, hn⟩ => (hno url hn).elim) rfl fun _ => id

theorem refresh_rule {r : Routine} (hb : t.Begins now e) (hs : r.stage = .looking)
    (hu : r.updater = t.updater) : Rule t now e { t with routine := (r.refresh now).2 } := by
  cases hl : t.updater.policy.value.listUrl with
  | none =>
      rw [Routine.refresh_of_none hs (by rw [hu, hl])]
      exact .giveUp hb hl (by rw [← hu]; rfl) (awaits_of_routine nofun)
  | some url =>
      rw [Routine.refresh_of_url hs (by rw [hu, hl])]
      exact .ask hb hl hu

theorem receive_rule (hp : t.routine.IsPaused) (body : Body) :
    Rule t now (.receive body) { t with routine := t.routine.answer now body } := by
  by_cases hs : t.routine.stage = .fetching
  · cases body with
    | ok bytes =>
        rw [Routine.answer_ok bytes hs]
        exact .accept hs rfl rfl (awaits_of_routine nofun)
    | error f =>
        rw [Routine.answer_error f hs]
        exact .keep id (fun _ => rfl) rfl (awaits_of_routine nofun)
  · rw [Routine.answer_of_isPaused body hp hs]
    exact .keep id (fun hs' => absurd hs' hs) rfl fun _ => id

/-- Every event follows one of the rules. -/
theorem step_rule (hp : t.routine.IsPaused) (now : Nat) (e : Event) : Rule t now e (t.step now e) := by
  have hidle (hb : ¬ t.Begins now e) (ha : ¬ t.Awaits e) :
      Rule t now e { t with routine := (t.routine.refresh now).2 } := by
    rw [Routine.refresh_of_isPaused hp]
    exact .keep hb (fun h => absurd h ha) rfl fun _ => id
  cases e with
  | publish policy => exact .publish policy rfl rfl fun _ => id
  | rebuild => exact .rebuild rfl rfl fun _ => id
  | evaluate peer => exact .evaluate peer rfl rfl fun _ => id
  | stop => exact .keep id (fun h => h.elim) rfl fun _ => id
  | call => exact call_rule t now
  | reply n body => exact reply_rule t now n body
  | start =>
      simp only [step, Routine.start, Routine.subscribe]
      split
      · exact refresh_rule ‹_› rfl rfl
      · exact hidle ‹_› id
  | receive body => exact receive_rule hp body
  | follow =>
      simp only [step, Routine.follow, Routine.heed]
      split
      · exact refresh_rule ‹_› rfl rfl
      · exact hidle ‹_› id
  | again =>
      simp only [step, Routine.again, Routine.wake]
      split
      · exact refresh_rule ‹_› rfl rfl
      · exact hidle ‹_› id
  | finish =>
      simp only [step, Routine.finish]
      split
      · exact .keep id (fun h => h.elim) rfl (awaits_of_routine fun h => by cases h)
      · exact .keep id (fun h => h.elim) rfl fun _ => id

/-! ## Every run -/

theorem isPaused_refresh {r : Routine} (hp : r.IsPaused ∨ r.stage = .looking) :
    (r.refresh now).2.IsPaused := by
  rcases hp with hp | hs
  · rw [Routine.refresh_of_isPaused hp]
    exact hp
  · cases hl : r.updater.policy.value.listUrl with
    | none =>
        rw [Routine.refresh_of_none hs hl]
        exact .inr (.inr (.inl ⟨_, rfl⟩))
    | some url =>
        rw [Routine.refresh_of_url hs hl]
        exact .inr (.inl rfl)

theorem isPaused_answer {r : Routine} (hp : r.IsPaused) (body : Body) : (r.answer now body).IsPaused := by
  by_cases hs : r.stage = .fetching
  · cases body with
    | ok bytes =>
        rw [Routine.answer_ok bytes hs]
        exact .inr (.inr (.inl ⟨_, rfl⟩))
    | error f =>
        rw [Routine.answer_error f hs]
        exact .inr (.inr (.inl ⟨_, rfl⟩))
  · rw [Routine.answer_of_isPaused body hp hs]
    exact hp

theorem isPaused_step (hp : t.routine.IsPaused) (now : Nat) (e : Event) :
    (t.step now e).routine.IsPaused := by
  cases e with
  | publish | rebuild | evaluate | stop => exact hp
  | call =>
      simp only [step, call]
      split <;> exact hp
  | reply n body =>
      simp only [step, reply]
      split <;> exact hp
  | start =>
      simp only [step, Routine.start, Routine.subscribe]
      split
      · exact isPaused_refresh (.inr rfl)
      · exact isPaused_refresh (.inl hp)
  | receive body => exact isPaused_answer hp body
  | follow =>
      simp only [step, Routine.follow, Routine.heed]
      split
      · exact isPaused_refresh (.inr rfl)
      · exact isPaused_refresh (.inl hp)
  | again =>
      simp only [step, Routine.again, Routine.wake]
      split
      · exact isPaused_refresh (.inr rfl)
      · exact isPaused_refresh (.inl hp)
  | finish =>
      simp only [step, Routine.finish]
      split
      · exact .inr (.inr (.inr rfl))
      · exact hp

variable {u : Updater} {events : List (Nat × Event)}

theorem after_concat (u : Updater) (events : List (Nat × Event)) (now : Nat) (e : Event) :
    after u (events ++ [(now, e)]) = (after u events).step now e := by
  simp [after, List.foldl_append]

/-- Between two events the routine rests somewhere. -/
theorem isPaused_after (u : Updater) (events : List (Nat × Event)) : (after u events).routine.IsPaused := by
  induction events using List.reverseRecOn with
  | nil => exact .inl rfl
  | append_singleton events e ih =>
      rw [after_concat]
      exact isPaused_step ih e.1 e.2

/-- What a run whose last refresh at a URL was under way at `t` has come to: the policy names no URL, and the
addresses, and those of the chain, came with one of the answers `later` for which `t` waits, or there are
none. -/
structure Since (t : Traffic) (later : List (Nat × Event)) (t' : Traffic) : Prop where
  listUrl : t'.updater.policy.value.listUrl = none
  awaits : ∀ e, t'.Awaits e → t.Awaits e
  fetched : t'.updater.fetched = [] ∨
    ∃ x ∈ later, t.Awaits x.2 ∧ x.2.list? = some t'.updater.fetched
  chain : ∃ (p : Policy) (list : List String) (peers : List Peer), p.listUrl = none ∧
    t'.updater.chain.current = (p.chain list).after peers ∧
      (list = [] ∨ ∃ x ∈ later, t.Awaits x.2 ∧ x.2.list? = some list)

theorem Since.step {t₀ : Traffic} {later : List (Nat × Event)} (h : Since t₀ later t)
    (hr : Rule t now e t') (hpublish : ∀ p, e = .publish p → p.listUrl = none) :
    Since t₀ (later ++ [(now, e)]) t' := by
  have hmem {list : List String} : (∃ x ∈ later, t₀.Awaits x.2 ∧ x.2.list? = some list) →
      ∃ x ∈ later ++ [(now, e)], t₀.Awaits x.2 ∧ x.2.list? = some list :=
    fun ⟨x, hx, hl⟩ => ⟨x, List.mem_append_left _ hx, hl⟩
  have hfetched := h.fetched.imp_right hmem
  obtain ⟨p, list, peers, hp, hc, hl⟩ := h.chain
  have hchain : ∃ (p : Policy) (list : List String) (peers : List Peer), p.listUrl = none ∧
      t.updater.chain.current = (p.chain list).after peers ∧
        (list = [] ∨ ∃ x ∈ later ++ [(now, e)], t₀.Awaits x.2 ∧ x.2.list? = some list) :=
    ⟨p, list, peers, hp, hc, hl.imp_right hmem⟩
  cases hr with
  | publish policy he hu hw =>
      refine ⟨?_, fun e ha => h.awaits e (hw e ha), ?_, ?_⟩ <;> rw [hu]
      · exact hpublish policy he
      · exact hfetched
      · exact hchain
  | evaluate peer _ hu hw =>
      refine ⟨?_, fun e ha => h.awaits e (hw e ha), ?_, ?_⟩ <;> rw [hu]
      · exact h.listUrl
      · exact hfetched
      · refine ⟨p, list, peers ++ [peer], hp, ?_, hl.imp_right hmem⟩
        rw [Chain.after_concat, ← hc]
        exact SharedChain.current_evaluate _ _
  | rebuild _ hu hw =>
      refine ⟨?_, fun e ha => h.awaits e (hw e ha), ?_, ?_⟩ <;> rw [hu]
      · exact h.listUrl
      · exact hfetched
      · exact ⟨_, _, [], h.listUrl, rfl, hfetched⟩
  | keep _ _ hu hw =>
      refine ⟨?_, fun e ha => h.awaits e (hw e ha), ?_, ?_⟩ <;> rw [hu]
      · exact h.listUrl
      · exact hfetched
      · exact hchain
  | ask hb hl' hu =>
      rw [h.listUrl] at hl'
      cases hl'
  | giveUp hb hl' hu hw =>
      refine ⟨?_, fun e ha => h.awaits e (hw e ha), ?_, ?_⟩ <;> rw [hu]
      · exact h.listUrl
      · exact .inl rfl
      · exact ⟨_, [], [], h.listUrl, rfl, .inl rfl⟩
  | @accept list' ha hl' hu hw =>
      -- who waits now has waited since the URL was removed, as nobody has begun to wait after that
      have hcame : ∃ x ∈ later ++ [(now, e)], t₀.Awaits x.2 ∧ x.2.list? = some list' :=
        ⟨(now, e), by simp, h.awaits e ha, hl'⟩
      refine ⟨?_, fun e ha => h.awaits e (hw e ha), ?_, ?_⟩ <;> rw [hu]
      · exact h.listUrl
      · exact .inr hcame
      · exact ⟨_, list', [], h.listUrl, rfl, .inr hcame⟩

theorem rule_after (u : Updater) (events : List (Nat × Event)) (now : Nat) (e : Event) :
    Rule (after u events) now e (after u (events ++ [(now, e)])) := by
  rw [after_concat]
  exact step_rule (isPaused_after u events) now e

/-- A refresh that finds no URL gives up the addresses, and nobody new waits for any. -/
theorem Rule.of_begins (h : Rule t now e t') (hb : t.Begins now e)
    (hl : t.updater.policy.value.listUrl = none) :
    t'.updater = t.updater.install [] ∧ ∀ e, t'.Awaits e → t.Awaits e := by
  cases h with
  | publish _ he | evaluate _ he | rebuild he => subst he; exact hb.elim
  | keep hn => exact absurd hb hn
  | ask _ hl' => rw [hl] at hl'; cases hl'
  | giveUp _ _ hu hw => exact ⟨hu, hw⟩
  | accept ha =>
      cases e with
      | reply | receive => exact hb.elim
      | _ => exact ha.elim

/-- An answer that somebody waited for is installed. -/
theorem Rule.of_awaits {list : List String} (h : Rule t now e t') (ha : t.Awaits e)
    (hl : e.list? = some list) : t'.updater = t.updater.install list := by
  cases h with
  | publish _ he | evaluate _ he | rebuild he => subst he; exact ha.elim
  | keep _ hn => rw [hn ha] at hl; cases hl
  | ask hb | giveUp hb =>
      cases e with
      | reply | receive => exact hb.elim
      | _ => exact ha.elim
  | accept _ hl' hu =>
      rw [hl] at hl'
      cases hl'
      exact hu

/-- As long as no URL is named, those who wait have waited since then. -/
theorem since_append (hb : (after u events).Begins now e)
    (hl : (after u events).updater.policy.value.listUrl = none) {later : List (Nat × Event)}
    (hpublish : ∀ x ∈ later, ∀ p, x.2 = .publish p → p.listUrl = none) :
    Since (after u (events ++ [(now, e)])) later (after u (events ++ (now, e) :: later)) := by
  induction later using List.reverseRecOn with
  | nil =>
      obtain ⟨hu, -⟩ := (rule_after u events now e).of_begins hb hl
      refine ⟨?_, fun _ => id, ?_, ?_⟩ <;> rw [hu]
      · exact hl
      · exact .inl rfl
      · exact ⟨_, [], [], hl, rfl, .inl rfl⟩
  | append_singleton later x ih =>
      have hstep := rule_after u (events ++ (now, e) :: later) x.1 x.2
      rw [List.append_assoc, List.cons_append] at hstep
      exact (ih fun x hx => hpublish x (List.mem_append_left _ hx)).step hstep (hpublish x (by simp))

/-- What a refresh that finds no URL means for the rest of a run. -/
structure Removal (u : Updater) (events : List (Nat × Event)) : Prop where
  /-- It gives up the addresses, and whoever called for it is told that there are none. -/
  given_up : ∀ now e, (after u events).Begins now e →
    (after u events).updater.policy.value.listUrl = none →
      let t := after u (events ++ [(now, e)])
      t.updater.fetched = [] ∧ t.updater.chain.current = t.updater.policy.value.chain [] ∧
        (e = .call → t.calls = (after u events).calls ++ [.over (.ok 0)])
  /-- As long as the policy names no URL and nobody who waited at that moment gets a list, there are no
  addresses, and no chain has any. -/
  stays : ∀ now e later, (after u events).Begins now e →
    (after u events).updater.policy.value.listUrl = none →
    (∀ x ∈ later, ∀ p, x.2 = .publish p → p.listUrl = none) →
    (∀ x ∈ later, (after u (events ++ [(now, e)])).Awaits x.2 → x.2.list? = none) →
      let t := after u (events ++ (now, e) :: later)
      t.updater.fetched = [] ∧ ∃ (p : Policy) (peers : List Peer), p.listUrl = none ∧
        t.updater.chain.current = (p.chain []).after peers
  /-- Without the second condition, addresses that are there came with an answer for which somebody waited at
  that moment. -/
  account : ∀ now e later, (after u events).Begins now e →
    (after u events).updater.policy.value.listUrl = none →
    (∀ x ∈ later, ∀ p, x.2 = .publish p → p.listUrl = none) →
      Since (after u (events ++ [(now, e)])) later (after u (events ++ (now, e) :: later))
  /-- A list for which somebody waits is taken over, whatever the policy has become. -/
  taken_over : ∀ now e list, (after u events).Awaits e → e.list? = some list →
    let t := after u (events ++ [(now, e)])
    t.updater.fetched = list ∧ t.updater.chain.current = t.updater.policy.value.chain list

theorem call_of_none (hl : t.updater.policy.value.listUrl = none) :
    t.call.calls = t.calls ++ [.over (.ok 0)] := by
  simp [call, Updater.beginRefresh, hl]

/-- The addresses that a refresh has given up come back only with a list for which somebody waited then. -/
theorem removal (u : Updater) (events : List (Nat × Event)) : Removal u events where
  given_up now e hb hl := by
    obtain ⟨hu, -⟩ := (rule_after u events now e).of_begins hb hl
    refine ⟨by rw [hu]; rfl, by rw [hu]; rfl, fun he => ?_⟩
    rw [he, after_concat]
    exact call_of_none hl
  stays now e later hb hl hpublish hno := by
    have hs := since_append hb hl hpublish
    have hnone {list : List String} : ¬ ∃ x ∈ later,
        (after u (events ++ [(now, e)])).Awaits x.2 ∧ x.2.list? = some list := by
      rintro ⟨x, hx, ha, hlist⟩
      rw [hno x hx ha] at hlist
      cases hlist
    obtain ⟨p, list, peers, hp, hc, rfl | hl⟩ := hs.chain
    · exact ⟨hs.fetched.resolve_right hnone, p, peers, hp, hc⟩
    · exact absurd hl hnone
  account now e later hb hl hpublish := since_append hb hl hpublish
  taken_over now e list ha hl := by
    have hu := (rule_after u events now e).of_awaits ha hl
    exact ⟨by rw [hu]; rfl, by rw [hu]; rfl⟩

end Traffic

end Matcher

namespace Traffic

/-- The routine waits for its list when the URL is removed. Somebody refreshes and is told that there are no
addresses; then the list comes, the routine has been told to stop, and the address 1.2.3.4 is refused for good. -/
theorem list_back_after_removal :
    let listed := { Policy.standard with listUrl := some "list", clientPatterns := [], idPatterns := [] }
    let unlisted := { listed with listUrl := none }
    let removed := after (.ofPolicy listed) [(0, .start), (0, .publish unlisted), (0, .call)]
    let later := after (.ofPolicy listed) [(0, .start), (0, .publish unlisted), (0, .call), (0, .stop),
      (50, .receive (.ok "1.2.3.4".toUTF8.toList)), (50, .finish)]
    let peer : Peer := ⟨[], "", "1.2.3.4"⟩
    (removed.calls = [.over (.ok 0)] ∧ removed.updater.fetched = []) ∧
      (later.routine.stage = .ended ∧ later.updater.policy.value = unlisted) ∧
      later.updater.fetched = ["1.2.3.4"] ∧ later.updater.chain.current.verdict peer = .block 0 := by
  intro listed unlisted removed later peer
  exact ⟨⟨rfl, rfl⟩, ⟨rfl, by decide +kernel⟩, by decide +kernel, by decide +kernel⟩

end Traffic

end Swarmkeeper.Blocklist
