import Swarmkeeper.Engine.Workshop
import Swarmkeeper.Proofs.Engine.Support
import Swarmkeeper.Proofs.Identity.OwnIds

/-!
# The stages in which a session is made

What is done for a session is done in one order, and the first thing that fails is the last. The constructor is
called at most once, with the settings that were asked for and with the client of the one proxy that was looked
up; what is published later is not looked at.
-/

namespace Swarmkeeper.Engine

/-- Whatever chance gives, a session shows peers an id with the fingerprint of its client that none of them takes
for one without a fingerprint. -/
theorem Host.presentable_plan {h : Host} {tag : String} (hf : Identity.Framed tag h.fingerprint) (kind : Kind)
    (settings : Settings) (client : Web.Client) (tail : Identity.Tail) :
    Identity.Presentable h.fingerprint (h.plan kind settings client tail).peerId :=
  hf.ids tail.bytes tail.length_eq tail.mem_alphabet

/-! ## What has been done at each stage -/

/-- The client that there is from now on. -/
def Deed.client? : Deed → Option Web.Client
  | .connect _ _ (.ok client) => some client
  | _ => none

/-- What a constructor is given, with the number of its engine. -/
def Deed.plan? : Deed → Option (Nat × Plan)
  | .construct engine plan => some (engine, plan)
  | _ => none

/-- What has been done for a session that has come to this stage. -/
inductive Told (h : Host) (o : Order) : List Deed → Stage → Prop where
  | asked : Told h o [] .asked
  | supported : Told h o [.load (.ok ())] .supported
  | unsupported (f : LibraryFault) :
      Told h o [.load (.error f)] (.over (.ok (.error (.unsupported o.kind f.message))))
  | routed (proxy : Web.Proxy) : Told h o [.load (.ok ()), .look proxy] (.routed proxy)
  | connected {proxy : Web.Proxy} {client : Web.Client}
      (hc : h.makeClient proxy h.fingerprint.userAgent = .ok client) :
      Told h o [.load (.ok ()), .look proxy, .connect proxy h.fingerprint.userAgent (.ok client)]
        (.connected client)
  | unreachable {proxy : Web.Proxy} {f : Web.Fault}
      (hc : h.makeClient proxy h.fingerprint.userAgent = .error f) :
      Told h o [.load (.ok ()), .look proxy, .connect proxy h.fingerprint.userAgent (.error f)]
        (.over (.ok (.error (.web f))))
  | housed {proxy : Web.Proxy} {client : Web.Client}
      (hc : h.makeClient proxy h.fingerprint.userAgent = .ok client) :
      Told h o [.load (.ok ()), .look proxy, .connect proxy h.fingerprint.userAgent (.ok client),
        .makeDirectory (.ok ())] (.housed (o.plan h client))
  | homeless {proxy : Web.Proxy} {client : Web.Client} (reason : String)
      (hc : h.makeClient proxy h.fingerprint.userAgent = .ok client) :
      Told h o [.load (.ok ()), .look proxy, .connect proxy h.fingerprint.userAgent (.ok client),
          .makeDirectory (.error (.saveDirectory h.saveDirectory reason))]
        (.over (.ok (.error (.saveDirectory h.saveDirectory reason))))
  | called {proxy : Web.Proxy} {client : Web.Client}
      (hc : h.makeClient proxy h.fingerprint.userAgent = .ok client) :
      Told h o [.load (.ok ()), .look proxy, .connect proxy h.fingerprint.userAgent (.ok client),
        .makeDirectory (.ok ()), .construct o.engine (o.plan h client)] (.called (o.plan h client))
  | over {proxy : Web.Proxy} {client : Web.Client} (result : Except Panic (Except Fault Nat))
      (hc : h.makeClient proxy h.fingerprint.userAgent = .ok client) :
      Told h o [.load (.ok ()), .look proxy, .connect proxy h.fingerprint.userAgent (.ok client),
        .makeDirectory (.ok ()), .construct o.engine (o.plan h client), .finish result] (.over result)

namespace Workshop

variable {start : Site} {w w' : Workshop} {m m' : Making} {d : Deed} {st : Stage} {site : Site} {n k : Nat}
  {ev : Event} {events : List Event}

/-! ## Rules -/

/-- What can be done next for a session, the stage to which that leads, and the site after it. -/
inductive Stride (w : Workshop) (m : Making) : Deed → Stage → Site → Prop where
  | load {e : Native} (hm : m.stage = .asked) (he : w.site.engine? m.order.engine = some e)
      (hv : e.verdict w.site.host.tree = .ok ()) :
      Stride w m (.load (.ok ())) .supported
        { w.site with registry := w.site.registry.setEngine m.order.engine (e.settled w.site.host.tree) }
  | refuse {e : Native} {f : LibraryFault} (hm : m.stage = .asked)
      (he : w.site.engine? m.order.engine = some e) (hv : e.verdict w.site.host.tree = .error f) :
      Stride w m (.load (.error f)) (.over (.ok (.error (.unsupported m.order.kind f.message))))
        { w.site with registry := w.site.registry.setEngine m.order.engine (e.settled w.site.host.tree) }
  | look (hm : m.stage = .supported) :
      Stride w m (.look w.site.host.proxy.value) (.routed w.site.host.proxy.value) w.site
  | connect {proxy : Web.Proxy} {client : Web.Client} (hm : m.stage = .routed proxy)
      (hc : w.site.host.makeClient proxy w.site.host.fingerprint.userAgent = .ok client) :
      Stride w m (.connect proxy w.site.host.fingerprint.userAgent (.ok client)) (.connected client)
        { w.site with host := { w.site.host with clients := w.site.host.clients ++ [client] } }
  | disconnect {proxy : Web.Proxy} {f : Web.Fault} (hm : m.stage = .routed proxy)
      (hc : w.site.host.makeClient proxy w.site.host.fingerprint.userAgent = .error f) :
      Stride w m (.connect proxy w.site.host.fingerprint.userAgent (.error f)) (.over (.ok (.error (.web f))))
        w.site
  | house {client : Web.Client} (hm : m.stage = .connected client)
      (hd : w.site.host.ensureSaveDirectory.1 = .ok ()) :
      Stride w m (.makeDirectory (.ok ())) (.housed (m.order.plan w.site.host client))
        { w.site with host := w.site.host.ensureSaveDirectory.2 }
  | evict {client : Web.Client} {f : Fault} (hm : m.stage = .connected client)
      (hd : w.site.host.ensureSaveDirectory.1 = .error f) :
      Stride w m (.makeDirectory (.error f)) (.over (.ok (.error f)))
        { w.site with host := w.site.host.ensureSaveDirectory.2 }
  | call {plan : Plan} (hm : m.stage = .housed plan) :
      Stride w m (.construct m.order.engine plan) (.called plan)
        { w.site with plans := w.site.plans ++ [(m.order.engine, plan)] }
  | finish {plan : Plan} {result : Except Panic (Except Fault Nat)} (hm : m.stage = .called plan) :
      Stride w m (.finish result) (.over result) w.site

/-- The event is that this is done for the session of this number. -/
def Event.Does (n : Nat) (d : Deed) : Event → Prop
  | .advance k => k = n ∧ ∀ result, d ≠ .finish result
  | .finish k result => k = n ∧ d = .finish result
  | _ => False

/-- What an event can do. -/
inductive Rule (w : Workshop) : Event → Workshop → Prop where
  | begin {i : Nat} {settings : Settings} {tail : Identity.Tail} {e : Native}
      (he : w.site.engine? i = some e) :
      Rule w (.begin i settings tail) { w with makings := w.makings ++ [⟨⟨i, e.kind, settings, tail⟩, .asked⟩] }
  | stride {ev : Event} {n : Nat} {m : Making} {d : Deed} {st : Stage} {site : Site}
      (hm : w.makings[n]? = some m) (h : Stride w m d st site) (hd : ev.Does n d) :
      Rule w ev (w.record n m d st site)
  | act (a : Site.Act) (h : ¬ Creates a) : Rule w (.act a h) { w with site := (w.site.step a).2 }
  /-- There is nothing to do: no engine, no session, or one whose constructor has been called or has not. -/
  | rest (ev : Event) (h : ∀ n m, ev = .advance n → w.makings[n]? = some m → (∃ plan, m.stage = .called plan) ∨
      (∃ result, m.stage = .over result) ∨ w.site.engine? m.order.engine = none) : Rule w ev w

theorem load_rule (hm : w.makings[n]? = some m) (hs : m.stage = .asked) : Rule w (.advance n) (w.load n m) := by
  unfold load
  cases he : w.site.engine? m.order.engine with
  | none =>
      rw [Site.ask, he]
      refine .rest _ fun n' m' hn hm' => ?_
      cases hn
      rw [hm, Option.some.injEq] at hm'
      exact .inr (.inr (hm' ▸ he))
  | some e =>
      rw [Site.ask_of_some _ he, Native.requireLibrary_eq]
      cases hv : e.verdict w.site.host.tree with
      | error f => exact .stride hm (.refuse hs he hv) ⟨rfl, by simp⟩
      | ok u => exact .stride hm (.load hs he hv) ⟨rfl, by simp⟩

theorem connect_rule {proxy : Web.Proxy} (hm : w.makings[n]? = some m) (hs : m.stage = .routed proxy) :
    Rule w (.advance n) (w.connect n m proxy) := by
  cases hc : w.site.host.makeClient proxy w.site.host.fingerprint.userAgent with
  | ok client =>
      simp only [connect, hc]
      exact .stride hm (.connect hs hc) ⟨rfl, by simp⟩
  | error f =>
      simp only [connect, hc]
      exact .stride hm (.disconnect hs hc) ⟨rfl, by simp⟩

theorem house_rule {client : Web.Client} (hm : w.makings[n]? = some m) (hs : m.stage = .connected client) :
    Rule w (.advance n) (w.house n m client) := by
  unfold house
  cases hd : w.site.host.ensureSaveDirectory with
  | mk outcome host =>
      have hhost : host = w.site.host.ensureSaveDirectory.2 := by rw [hd]
      subst hhost
      cases outcome with
      | ok u => exact .stride hm (.house hs (by rw [hd])) ⟨rfl, by simp⟩
      | error f => exact .stride hm (.evict hs (by rw [hd])) ⟨rfl, by simp⟩

/-- To go on with a session is one stride, or nothing. -/
theorem advance_rule (w : Workshop) (n : Nat) : Rule w (.advance n) (w.advance n) := by
  unfold advance
  split
  · rename_i hn
    refine .rest _ fun n' m' h hm' => ?_
    cases h
    rw [hn] at hm'
    cases hm'
  · rename_i m hm
    -- whoever is called or over has nothing to do
    have hrest (h : (∃ plan, m.stage = .called plan) ∨ ∃ result, m.stage = .over result) :
        Rule w (.advance n) w := by
      refine .rest _ fun n' m' hn hm' => ?_
      cases hn
      rw [hm, Option.some.injEq] at hm'
      rw [← hm']
      exact h.elim .inl fun h => .inr (.inl h)
    split
    · exact load_rule hm ‹_›
    · exact .stride hm (.look ‹_›) ⟨rfl, by simp⟩
    · exact connect_rule hm ‹_›
    · exact house_rule hm ‹_›
    · exact .stride hm (.call ‹_›) ⟨rfl, by simp⟩
    · exact hrest (.inl ⟨_, ‹_›⟩)
    · exact hrest (.inr ⟨_, ‹_›⟩)

/-- Every event follows one of the rules. -/
theorem step_rule (w : Workshop) (ev : Event) : Rule w ev (w.step ev) := by
  cases ev with
  | begin i settings tail =>
      show Rule w _ (w.begin i settings tail)
      unfold Workshop.begin
      split
      · exact .begin ‹_›
      · exact .rest _ fun _ _ h => nomatch h
  | advance n => exact advance_rule w n
  | finish n result =>
      show Rule w _ (w.finish n result)
      unfold Workshop.finish
      split
      · exact .stride ‹_› (.finish rfl) ⟨rfl, rfl⟩
      · exact .rest _ fun _ _ h => nomatch h
  | act a h => exact .act a h

/-! ## What a step leaves as it is -/

/-- What is the same of a host at all times. -/
structure Alike (h h' : Host) : Prop where
  makeClient : h'.makeClient = h.makeClient
  saveDirectory : h'.saveDirectory = h.saveDirectory
  fingerprint : h'.fingerprint = h.fingerprint

theorem Alike.rfl {h : Host} : Alike h h := ⟨Eq.refl _, Eq.refl _, Eq.refl _⟩

theorem Alike.trans {h₁ h₂ h₃ : Host} (h : Alike h₁ h₂) (h' : Alike h₂ h₃) : Alike h₁ h₃ :=
  ⟨h'.makeClient.trans h.makeClient, h'.saveDirectory.trans h.saveDirectory, h'.fingerprint.trans h.fingerprint⟩

theorem Alike.plan_eq {h h' : Host} (hh : Alike h h') (o : Order) (client : Web.Client) :
    o.plan h' client = o.plan h client := by
  rw [Order.plan, Order.plan, Host.plan, Host.plan, hh.saveDirectory, hh.fingerprint]

/-- No stride changes what plans are made of. -/
theorem Stride.alike (h : Stride w m d st site) : Alike w.site.host site.host := by
  cases h <;> exact ⟨rfl, rfl, rfl⟩

/-- A stride makes the client that its deed names. -/
theorem Stride.clients (h : Stride w m d st site) :
    site.host.clients = w.site.host.clients ++ d.client?.toList := by
  cases h with
  | connect => rfl
  | _ => exact (List.append_nil _).symm

/-- A stride hands out the plan that its deed names. -/
theorem Stride.plans (h : Stride w m d st site) : site.plans = w.site.plans ++ d.plan?.toList := by
  cases h with
  | call => rfl
  | _ => exact (List.append_nil _).symm

theorem Stride.proxy (h : Stride w m d st site) : site.host.proxy = w.site.host.proxy := by
  cases h <;> rfl

theorem Stride.tree (h : Stride w m d st site) : site.host.tree = w.site.host.tree ∨
    ∃ outcome, d = .makeDirectory outcome ∧
      ensureDirectory w.site.host.tree w.site.host.saveDirectory = (outcome, site.host.tree) := by
  cases h with
  | house _ hd => exact .inr ⟨_, rfl, Prod.ext hd rfl⟩
  | evict _ hd => exact .inr ⟨_, rfl, Prod.ext hd rfl⟩
  | _ => exact .inl rfl

theorem Stride.engine {e : Native} {i : Nat} (h : Stride w m d st site) (he : w.site.engine? i = some e) :
    ∃ e', site.engine? i = some e' ∧ e'.kind = e.kind := by
  -- loading settles one engine, and nothing else is done to any
  have hload (e₁ : Native) (he₁ : w.site.engine? m.order.engine = some e₁) :
      ∃ e', (w.site.registry.setEngine m.order.engine (e₁.settled w.site.host.tree)).engine? i = some e' ∧
        e'.kind = e.kind := by
    rw [Registry.engine?_setEngine, show w.site.registry.engine? i = some e from he]
    split
    · rename_i hi
      rw [hi, he, Option.some.injEq] at he₁
      exact ⟨_, rfl, he₁ ▸ rfl⟩
    · exact ⟨e, rfl, rfl⟩
  cases h with
  | load _ he₁ => exact hload _ he₁
  | refuse _ he₁ => exact hload _ he₁
  | _ => exact ⟨e, he, rfl⟩

theorem host_ask {α : Type} (s : Site) (i : Nat) (f : Native → α × Native) : (s.ask i f).2.host = s.host := by
  unfold Site.ask
  split <;> rfl

/-- What is done at a site besides changes its files or its proxy, or nothing of its host. -/
theorem act_host (s : Site) (a : Site.Act) (h : ¬ Creates a) :
    (s.step a).2.host = s.host ∨
      (∃ f, a = .onFiles f ∧ (s.step a).2.host = { s.host with tree := f s.host.tree }) ∨
        ∃ proxy, a = .setProxy proxy ∧
          (s.step a).2.host = { s.host with proxy := s.host.proxy.set proxy } := by
  cases a with
  | watch i => exact .inl (host_ask s i (·.isSupported s.host.tree))
  | test i => exact .inl (host_ask s i (·.testConnection s.host.tree))
  | create => exact absurd trivial h
  | configure i => exact .inl (host_ask s i _)
  | exchange i => exact .inl (host_ask s i _)
  | select => exact .inl rfl
  | onFiles f => exact .inr (.inl ⟨f, rfl, rfl⟩)
  | setProxy proxy => exact .inr (.inr ⟨proxy, rfl, rfl⟩)

theorem act_alike (s : Site) (a : Site.Act) (h : ¬ Creates a) : Alike s.host (s.step a).2.host := by
  rcases act_host s a h with hh | ⟨f, -, hh⟩ | ⟨proxy, -, hh⟩ <;> rw [hh] <;> exact ⟨rfl, rfl, rfl⟩

theorem act_clients (s : Site) (a : Site.Act) (h : ¬ Creates a) :
    (s.step a).2.host.clients = s.host.clients := by
  rcases act_host s a h with hh | ⟨f, -, hh⟩ | ⟨proxy, -, hh⟩ <;> rw [hh]

theorem act_plans (s : Site) (a : Site.Act) (h : ¬ Creates a) : (s.step a).2.plans = s.plans := by
  cases a with
  | watch i => exact Site.plans_ask s i (·.isSupported s.host.tree)
  | test i => exact Site.plans_ask s i (·.testConnection s.host.tree)
  | create => exact absurd trivial h
  | configure i => exact Site.plans_ask s i _
  | exchange i => exact Site.plans_ask s i _
  | select | onFiles | setProxy => rfl

/-! ## What has been done, step by step -/

theorem mem_deeds : d ∈ w.deeds n ↔ (n, d) ∈ w.log := by
  simp [deeds]

theorem deeds_record (w : Workshop) (n k : Nat) (m : Making) (d : Deed) (st : Stage) (site : Site) :
    (w.record n m d st site).deeds k = if n = k then w.deeds k ++ [d] else w.deeds k := by
  simp only [deeds, record, List.filter_append, List.map_append]
  split <;> simp [*]

theorem getElem?_record (h : w.makings[n]? = some m) (d : Deed) (st : Stage) (site : Site) (k : Nat) :
    (w.record n m d st site).makings[k]? = if n = k then some ⟨m.order, st⟩ else w.makings[k]? := by
  obtain ⟨hn, -⟩ := List.getElem?_eq_some_iff.mp h
  simp only [record, List.getElem?_set, hn, if_true]

theorem making_concat {makings : List Making} (h : (makings ++ [m'])[n]? = some m) :
    makings[n]? = some m ∨ n = makings.length ∧ m = m' := by
  rw [List.getElem?_append] at h
  split at h
  · exact .inl h
  · rw [List.getElem?_singleton] at h
    split at h
    · exact .inr ⟨by omega, (Option.some.inj h).symm⟩
    · cases h

theorem ensureSaveDirectory_fault {h : Host} {f : Fault} (hd : h.ensureSaveDirectory.1 = .error f) :
    ∃ reason, f = .saveDirectory h.saveDirectory reason := by
  simp only [Host.ensureSaveDirectory, ensureDirectory] at hd
  cases hm : (h.tree.makeDirectories h.saveDirectory).1 with
  | error g =>
      rw [hm] at hd
      cases hd
      exact ⟨_, rfl⟩
  | ok u =>
      rw [hm] at hd
      cases hd

/-- A stride adds to the deeds what its stage says. -/
theorem Stride.told {h : Host} {ds : List Deed} (hs : Stride w m d st site) (hh : Alike h w.site.host)
    (ht : Told h m.order ds m.stage) : Told h m.order (ds ++ [d]) st := by
  cases hs with
  | load hm => rw [hm] at ht; cases ht; exact .supported
  | refuse hm => rw [hm] at ht; cases ht; exact .unsupported _
  | look hm => rw [hm] at ht; cases ht; exact .routed _
  | connect hm hc =>
      rw [hm] at ht
      rw [hh.makeClient, hh.fingerprint] at hc
      rw [hh.fingerprint]
      cases ht
      exact .connected hc
  | disconnect hm hc =>
      rw [hm] at ht
      rw [hh.makeClient, hh.fingerprint] at hc
      rw [hh.fingerprint]
      cases ht
      exact .unreachable hc
  | house hm =>
      rw [hm] at ht
      rw [hh.plan_eq]
      cases ht with
      | connected hc => exact .housed hc
  | evict hm hd =>
      rw [hm] at ht
      obtain ⟨reason, rfl⟩ := ensureSaveDirectory_fault hd
      rw [hh.saveDirectory]
      cases ht with
      | connected hc => exact .homeless reason hc
  | call hm =>
      rw [hm] at ht
      cases ht with
      | housed hc => exact .called hc
  | finish hm =>
      rw [hm] at ht
      cases ht with
      | called hc => exact .over _ hc

/-- What has been done at a workshop fits the stages to which the sessions have come. -/
structure Sound (start : Site) (w : Workshop) : Prop where
  alike : Alike start.host w.site.host
  clients : w.site.host.clients = start.host.clients ++ w.log.filterMap (·.2.client?)
  plans : w.site.plans = start.plans ++ w.log.filterMap (·.2.plan?)
  engine : ∀ (n : Nat) (m : Making), w.makings[n]? = some m →
    ∃ e, w.site.engine? m.order.engine = some e ∧ e.kind = m.order.kind
  told : ∀ (n : Nat) (m : Making), w.makings[n]? = some m → Told start.host m.order (w.deeds n) m.stage
  number : ∀ n d, (n, d) ∈ w.log → n < w.makings.length

theorem sound_ofSite (s : Site) : Sound s (ofSite s) where
  alike := .rfl
  clients := (List.append_nil _).symm
  plans := (List.append_nil _).symm
  engine n m h := by simp [ofSite] at h
  told n m h := by simp [ofSite] at h
  number n d h := by simp [ofSite] at h

theorem Sound.record (h : Sound start w) (hm : w.makings[n]? = some m) (hs : Stride w m d st site) :
    Sound start (w.record n m d st site) where
  alike := h.alike.trans hs.alike
  clients := by
    simp only [Workshop.record, List.filterMap_append, ← List.append_assoc, ← h.clients, hs.clients]
    cases hc : d.client? <;> simp [hc]
  plans := by
    simp only [Workshop.record, List.filterMap_append, ← List.append_assoc, ← h.plans, hs.plans]
    cases hc : d.plan? <;> simp [hc]
  engine k m' hk := by
    obtain ⟨m₀, hm₀, ho⟩ : ∃ m₀, w.makings[k]? = some m₀ ∧ m₀.order = m'.order := by
      rw [getElem?_record hm] at hk
      split at hk
      · rename_i hnk
        cases hk
        exact ⟨m, hnk ▸ hm, rfl⟩
      · exact ⟨m', hk, rfl⟩
    obtain ⟨e, he, hkind⟩ := h.engine k m₀ hm₀
    obtain ⟨e', he', hkind'⟩ := hs.engine he
    exact ⟨e', ho ▸ he', hkind'.trans (ho ▸ hkind)⟩
  told k m' hk := by
    rw [getElem?_record hm] at hk
    rw [deeds_record]
    split at hk
    · rename_i hnk
      subst hnk
      cases hk
      rw [if_pos rfl]
      exact hs.told h.alike (h.told n m hm)
    · rename_i hnk
      rw [if_neg hnk]
      exact h.told k m' hk
  number k d' hk := by
    simp only [Workshop.record, List.mem_append, List.mem_singleton, List.length_set] at hk ⊢
    rcases hk with hk | hk
    · exact h.number k d' hk
    · cases hk
      exact (List.getElem?_eq_some_iff.mp hm).1

/-- A rule keeps the log, the sessions and the site in agreement. -/
theorem Sound.rule (h : Sound start w) (hr : Rule w ev w') : Sound start w' := by
  cases hr with
  | stride hm hs => exact h.record hm hs
  | rest => exact h
  | act a ha =>
      refine ⟨h.alike.trans (act_alike _ a ha), (act_clients _ a ha).trans h.clients,
        (act_plans _ a ha).trans h.plans, fun n m hm => ?_, h.told, h.number⟩
      obtain ⟨e, he, hk⟩ := h.engine n m hm
      obtain ⟨e', he', hr, -⟩ := Site.step_rule a he
      exact ⟨e', he', hr.kind.trans hk⟩
  | @begin i settings tail e he =>
      -- nothing has been done yet for the new session
      have hnew : w.deeds w.makings.length = [] :=
        List.eq_nil_iff_forall_not_mem.mpr fun d hd => Nat.lt_irrefl _ (h.number _ d (mem_deeds.mp hd))
      refine ⟨h.alike, h.clients, h.plans, fun n m hm => ?_, fun n m hm => ?_, fun n d hd => ?_⟩
      · rcases making_concat hm with hm | ⟨-, rfl⟩
        · exact h.engine n m hm
        · exact ⟨e, he, rfl⟩
      · rcases making_concat hm with hm | ⟨rfl, rfl⟩
        · exact h.told n m hm
        · show Told start.host _ (w.deeds w.makings.length) _
          rw [hnew]
          exact .asked
      · rw [List.length_append]
        exact Nat.lt_succ_of_lt (h.number n d hd)

/-! ## Runs -/

theorem after_append (w : Workshop) (events more : List Event) :
    w.after (events ++ more) = (w.after events).after more := List.foldl_append ..

theorem after_concat (w : Workshop) (events : List Event) (ev : Event) :
    w.after (events ++ [ev]) = (w.after events).step ev := after_append w events [ev]

/-- They agree after any events. -/
theorem sound_after (start : Site) (events : List Event) : Sound start ((ofSite start).after events) := by
  induction events using List.reverseRecOn with
  | nil => exact sound_ofSite start
  | append_singleton events ev ih =>
      rw [after_concat]
      exact ih.rule (step_rule _ ev)

theorem Rule.making (h : Rule w ev w') (hm : w'.makings[n]? = some m) :
    (∃ m₀, w.makings[n]? = some m₀ ∧ m₀.order = m.order) ∨
      n = w.makings.length ∧ ev = .begin m.order.engine m.order.settings m.order.tail ∧
        ∃ e, w.site.engine? m.order.engine = some e ∧ e.kind = m.order.kind := by
  cases h with
  | begin he =>
      rcases making_concat hm with hm | ⟨hn, rfl⟩
      · exact .inl ⟨m, hm, rfl⟩
      · exact .inr ⟨hn, rfl, _, he, rfl⟩
  | @stride _ _ m₀ _ _ _ hm₀ =>
      rw [getElem?_record hm₀] at hm
      split at hm
      · rename_i hn
        cases hm
        exact .inl ⟨m₀, hn ▸ hm₀, rfl⟩
      · exact .inl ⟨m, hm, rfl⟩
  | act | rest => exact .inl ⟨m, hm, rfl⟩

/-- What is done for a session is done when an event says so, with the proxy of that moment. -/
theorem Rule.entry (h : Rule w ev w') : w'.log = w.log ∨ ∃ n d, w'.log = w.log ++ [(n, d)] ∧ ev.Does n d ∧
    n < w.makings.length ∧ ∀ proxy, d = .look proxy → w.site.host.proxy.value = proxy := by
  cases h with
  | @stride _ n m d _ _ hm hs hd =>
      refine .inr ⟨n, d, rfl, hd, (List.getElem?_eq_some_iff.mp hm).1, fun proxy hp => ?_⟩
      subst hp
      cases hs
      rfl
  | begin | act | rest => exact .inl rfl

/-- The proxy is changed by publication only. -/
theorem Rule.proxy (h : Rule w ev w') : w'.site.host.proxy.value = w.site.host.proxy.value ∨
    ∃ hc, ev = .act (.setProxy w'.site.host.proxy.value) hc := by
  cases h with
  | stride _ hs => exact .inl (congrArg _ hs.proxy)
  | begin | rest => exact .inl rfl
  | act a ha =>
      rcases act_host w.site a ha with hh | ⟨f, -, hh⟩ | ⟨proxy, rfl, hh⟩
      · exact .inl (by rw [hh])
      · exact .inl (by rw [hh])
      · exact .inr ⟨ha, rfl⟩

theorem Rule.tree (h : Rule w ev w') : w'.site.host.tree = w.site.host.tree ∨
    (∃ f hc, ev = .act (.onFiles f) hc) ∨
      ∃ n outcome, ev = .advance n ∧ w'.log = w.log ++ [(n, .makeDirectory outcome)] ∧
        ensureDirectory w.site.host.tree w.site.host.saveDirectory = (outcome, w'.site.host.tree) := by
  cases h with
  | begin | rest => exact .inl rfl
  | act a ha =>
      rcases act_host w.site a ha with hh | ⟨f, rfl, hh⟩ | ⟨proxy, -, hh⟩
      · exact .inl (by rw [hh])
      · exact .inr (.inl ⟨f, ha, rfl⟩)
      · exact .inl (by rw [hh])
  | @stride ev n m d st site hm hs hd =>
      rcases hs.tree with ht | ⟨outcome, rfl, ht⟩
      · exact .inl ht
      · cases ev with
        | advance k =>
            obtain ⟨rfl, -⟩ := hd
            exact .inr (.inr ⟨k, outcome, rfl, rfl, ht⟩)
        | finish k result => exact nomatch hd.2
        | begin | act => exact hd.elim

/-- A session that is made has been asked for. -/
theorem begun (h : ((ofSite start).after events).makings[n]? = some m) :
    ∃ before later, events = before ++ .begin m.order.engine m.order.settings m.order.tail :: later ∧
      ((ofSite start).after before).makings.length = n ∧
      ∃ e, ((ofSite start).after before).site.engine? m.order.engine = some e ∧ e.kind = m.order.kind := by
  induction events using List.reverseRecOn generalizing m with
  | nil => cases h
  | append_singleton events ev ih =>
      rw [after_concat] at h
      rcases (step_rule _ ev).making h with ⟨m₀, hm₀, ho⟩ | ⟨hn, rfl, he⟩
      · obtain ⟨before, later, rfl, hlength, he⟩ := ih hm₀
        rw [ho] at he
        exact ⟨before, later ++ [ev], by simp [ho], hlength, he⟩
      · exact ⟨events, [], rfl, hn.symm, he⟩

/-- A deed in the log was done by an event at which its session was there; a proxy that was looked up was the
one in force. -/
theorem done (h : (n, d) ∈ ((ofSite start).after events).log) :
    ∃ earlier ev later, events = earlier ++ ev :: later ∧ ev.Does n d ∧
      n < ((ofSite start).after earlier).makings.length ∧
        ∀ proxy, d = .look proxy → ((ofSite start).after earlier).site.host.proxy.value = proxy := by
  induction events using List.reverseRecOn with
  | nil => cases h
  | append_singleton events ev ih =>
      rw [after_concat] at h
      have hnew : (n, d) ∈ ((ofSite start).after events).log ∨ ev.Does n d ∧
          n < ((ofSite start).after events).makings.length ∧
            ∀ proxy, d = .look proxy → ((ofSite start).after events).site.host.proxy.value = proxy := by
        rcases (step_rule _ ev).entry with hlog | ⟨k, d', hlog, hdone⟩
        · exact .inl (hlog ▸ h)
        · rw [hlog, List.mem_append, List.mem_singleton] at h
          rcases h with h | h
          · exact .inl h
          · cases h
            exact .inr hdone
      rcases hnew with hold | hdone
      · obtain ⟨earlier, ev', later, rfl, hdone⟩ := ih hold
        exact ⟨earlier, ev', later ++ [ev], by simp, hdone⟩
      · exact ⟨events, ev, [], rfl, hdone⟩

theorem proxy_after (w : Workshop) (events : List Event) :
    (w.after events).site.host.proxy.value = w.site.host.proxy.value ∨
      ∃ hc, .act (.setProxy (w.after events).site.host.proxy.value) hc ∈ events := by
  induction events using List.reverseRecOn with
  | nil => exact .inl rfl
  | append_singleton events ev ih =>
      rw [after_concat]
      rcases (step_rule (w.after events) ev).proxy with hp | ⟨hc, hev⟩
      · rw [hp]
        exact ih.imp_right fun ⟨hc, hmem⟩ => ⟨hc, List.mem_append_left _ hmem⟩
      · exact .inr ⟨hc, List.mem_append_right _ (List.mem_singleton.mpr hev.symm)⟩

/-- What is in the log stays there. -/
theorem log_after (w : Workshop) (events : List Event) : w.log <+: (w.after events).log := by
  induction events using List.reverseRecOn with
  | nil => exact List.prefix_rfl
  | append_singleton events ev ih =>
      rw [after_concat]
      rcases (step_rule (w.after events) ev).entry with hlog | ⟨n, d, hlog, -⟩
      · rwa [hlog]
      · rw [hlog]
        exact ih.trans (List.prefix_append ..)

/-! ## Without a pause -/

variable {o : Order} {plan : Plan} {client : Web.Client} {proxy : Web.Proxy}
  {construct : Plan → Except Panic (Except Fault Nat)} {result : Except Panic (Except Fault Nat)}

theorem making_record (hm : w.makings[n]? = some m) (d : Deed) (st : Stage) (site : Site) :
    (w.record n m d st site).makings[n]? = some ⟨m.order, st⟩ := by
  rw [getElem?_record hm, if_pos rfl]

theorem advance_over (hm : w.makings[n]? = some ⟨o, .over result⟩) : w.advance n = w := by
  rw [advance, hm]

/-- When the constructor has ended, the site is this, and this has come of the session. -/
structure Comes (w : Workshop) (n : Nat) (construct : Plan → Except Panic (Except Fault Nat)) (site : Site)
    (result : Except Panic (Except Fault Nat)) : Prop where
  site : (w.conclude n construct).site = site
  stage : ((w.conclude n construct).makings[n]?).map (·.stage) = some (.over result)

/-- A session that is over has come to its result. -/
theorem comes_over (hm : w.makings[n]? = some ⟨o, .over result⟩) : Comes w n construct w.site result := by
  have hc : w.conclude n construct = w := by rw [conclude, hm]
  exact ⟨by rw [hc], by rw [hc, hm]; rfl⟩

theorem comes_called (hm : w.makings[n]? = some ⟨o, .called plan⟩) :
    Comes w n construct w.site (construct plan) := by
  have hc : w.conclude n construct =
      w.record n ⟨o, .called plan⟩ (.finish (construct plan)) (.over (construct plan)) w.site := by
    rw [conclude, hm]
    show finish w n (construct plan) = _
    rw [finish, hm]
  exact ⟨by rw [hc]; rfl, by rw [hc, making_record hm]; rfl⟩

theorem comes_housed (hm : w.makings[n]? = some ⟨o, .housed plan⟩) :
    Comes (w.advance n) n construct { w.site with plans := w.site.plans ++ [(o.engine, plan)] }
      (construct plan) := by
  rw [show w.advance n = w.call n ⟨o, .housed plan⟩ plan by rw [advance, hm]]
  exact comes_called (making_record hm ..)

theorem comes_connected (hm : w.makings[n]? = some ⟨o, .connected client⟩) :
    Comes ((w.advance n).advance n) n construct
      { w.site with
        host := w.site.host.ensureSaveDirectory.2
        plans := Site.hand w.site.plans o.engine
          (w.site.host.ensureSaveDirectory.1.map fun _ => o.plan w.site.host client) }
      (Site.build construct (w.site.host.ensureSaveDirectory.1.map fun _ => o.plan w.site.host client)) := by
  rw [show w.advance n = w.house n ⟨o, .connected client⟩ client by rw [advance, hm], house]
  cases w.site.host.ensureSaveDirectory with
  | mk outcome host =>
      cases outcome with
      | ok u => exact comes_housed (making_record hm ..)
      | error f =>
          have hover := making_record hm (.makeDirectory (.error f)) (.over (.ok (.error f)))
            { w.site with host }
          show Comes (advance _ n) n construct _ _
          rw [advance_over hover]
          exact comes_over hover

theorem equip_of_client {h : Host} (o : Order)
    (hc : h.makeClient h.proxy.value h.fingerprint.userAgent = .ok client) :
    h.equip o.kind o.settings o.tail =
      let h' := { h with clients := h.clients ++ [client] }
      (h'.ensureSaveDirectory.1.map fun _ => o.plan h' client, h'.ensureSaveDirectory.2) := by
  simp only [Host.equip, Host.connect, hc, Host.ensureSaveDirectory]
  cases ensureDirectory h.tree h.saveDirectory with
  | mk outcome tree => cases outcome <;> rfl

theorem equip_of_fault {h : Host} {f : Web.Fault} (o : Order)
    (hc : h.makeClient h.proxy.value h.fingerprint.userAgent = .error f) :
    h.equip o.kind o.settings o.tail = (.error (.web f), h) := by
  simp only [Host.equip, Host.connect, hc]

theorem comes_supported (hm : w.makings[n]? = some ⟨o, .supported⟩) :
    Comes ((((w.advance n).advance n).advance n).advance n) n construct
      { w.site with
        host := (w.site.host.equip o.kind o.settings o.tail).2
        plans := Site.hand w.site.plans o.engine (w.site.host.equip o.kind o.settings o.tail).1 }
      (Site.build construct (w.site.host.equip o.kind o.settings o.tail).1) := by
  let routed := w.look n ⟨o, .supported⟩
  let proxy := w.site.host.proxy.value
  have hrouted : routed.makings[n]? = some ⟨o, .routed proxy⟩ := making_record hm ..
  rw [show w.advance n = routed by rw [advance, hm],
    show routed.advance n = routed.connect n ⟨o, .routed proxy⟩ proxy by rw [advance, hrouted]]
  cases hc : w.site.host.makeClient proxy w.site.host.fingerprint.userAgent with
  | ok client =>
      rw [equip_of_client o hc, connect, show routed.site = w.site from rfl, hc]
      exact comes_connected (making_record hrouted ..)
  | error f =>
      have hover := making_record hrouted (.connect proxy w.site.host.fingerprint.userAgent (.error f))
        (.over (.ok (.error (.web f)))) w.site
      rw [equip_of_fault o hc, connect, show routed.site = w.site from rfl, hc]
      show Comes ((advance _ n).advance n) n construct _ _
      rw [advance_over hover, advance_over hover]
      exact comes_over hover

/-- From the first stage on the strides come to what the one call comes to. -/
theorem comes_asked {e : Native} (hm : w.makings[n]? = some ⟨o, .asked⟩)
    (he : w.site.engine? o.engine = some e) (hk : e.kind = o.kind) :
    Comes (((((w.advance n).advance n).advance n).advance n).advance n) n construct
      (w.site.prepare o.engine o.settings o.tail).2
      (Site.build construct (e.prepare w.site.host o.settings o.tail).1) := by
  rw [show w.advance n = w.load n ⟨o, .asked⟩ by rw [advance, hm], load, Site.ask_of_some _ he,
    Native.requireLibrary_eq, Site.prepare_of_some _ _ he, Native.prepare_eq, hk]
  cases e.verdict w.site.host.tree with
  | ok u => exact comes_supported (making_record hm ..)
  | error f =>
      have hover := making_record hm (.load (.error f)) (.over (.ok (.error (.unsupported o.kind f.message))))
        { w.site with registry := w.site.registry.setEngine o.engine (e.settled w.site.host.tree) }
      show Comes ((((advance _ n).advance n).advance n).advance n) n construct _ _
      rw [advance_over hover, advance_over hover, advance_over hover, advance_over hover]
      exact comes_over hover

/-- A session that is made without a pause is made as by one act, and comes to the same. -/
theorem make_eq (w : Workshop) (i : Nat) (settings : Settings) (tail : Identity.Tail)
    (construct : Plan → Except Panic (Except Fault Nat)) :
    (w.make i settings tail construct).site = (w.site.create i settings tail construct).2 ∧
      ((w.make i settings tail construct).makings[w.makings.length]?).map (·.stage) =
        (w.site.create i settings tail construct).1.map .over := by
  cases he : w.site.engine? i with
  | none =>
      have hn : w.makings[w.makings.length]? = none := List.getElem?_eq_none (Nat.le_refl _)
      have hrest : w.advance w.makings.length = w := by rw [advance, hn]
      have hbegin : w.begin i settings tail = w := by rw [Workshop.begin, he]
      have hmake : w.make i settings tail construct = w := by
        simp only [make, after, List.foldl, step, hbegin, hrest, conclude, hn]
      rw [hmake, Site.create, Site.prepare, he, hn]
      exact ⟨rfl, rfl⟩
  | some e =>
      have hbegin : w.begin i settings tail =
          { w with makings := w.makings ++ [⟨⟨i, e.kind, settings, tail⟩, .asked⟩] } := by
        rw [Workshop.begin, he]
      have hm : (w.begin i settings tail).makings[w.makings.length]? = some ⟨⟨i, e.kind, settings, tail⟩, .asked⟩ := by
        rw [hbegin]
        simp
      have hsite : (w.begin i settings tail).site = w.site := by rw [hbegin]
      have hcomes : Comes _ _ construct _ _ := comes_asked hm (hsite ▸ he) rfl
      rw [hsite] at hcomes
      rw [Site.create, Site.prepare_of_some settings tail he]
      refine ⟨hcomes.site.trans ?_, hcomes.stage⟩
      rw [Site.prepare_of_some settings tail he]

/-! ## Every run -/

/-- The proxy that was looked up is the one that was published when the session was asked for, or one that has
been published since. -/
theorem looked (h : .look proxy ∈ ((ofSite start).after events).deeds n) :
    ∃ before i settings tail between later,
      events = before ++ .begin i settings tail :: (between ++ .advance n :: later) ∧
        ((ofSite start).after before).makings.length = n ∧
        ((ofSite start).after (before ++ .begin i settings tail :: between)).site.host.proxy.value = proxy ∧
        (((ofSite start).after before).site.host.proxy.value = proxy ∨
          ∃ hc, .act (.setProxy proxy) hc ∈ between) := by
  obtain ⟨earlier, ev, later, rfl, hdoes, hn, hproxy⟩ := done (mem_deeds.mp h)
  obtain rfl : ev = .advance n := by
    cases ev with
    | advance k => rw [hdoes.1]
    | finish k result => exact nomatch hdoes.2
    | begin | act => exact hdoes.elim
  obtain ⟨m, hm⟩ : ∃ m, ((ofSite start).after earlier).makings[n]? = some m := ⟨_, List.getElem?_eq_getElem hn⟩
  obtain ⟨before, between, rfl, hlength, -⟩ := begun hm
  have hlooked := hproxy proxy rfl
  refine ⟨before, _, _, _, between, later, by simp, hlength, hlooked, ?_⟩
  rw [after_append] at hlooked
  rcases proxy_after ((ofSite start).after before) (.begin _ _ _ :: between) with hp | ⟨hc, hmem⟩
  · exact .inl (hp.symm.trans hlooked)
  · -- asking for a session does not publish a proxy
    rw [hlooked] at hmem
    exact .inr ⟨hc, (List.mem_cons.mp hmem).resolve_left nofun⟩

/-- To go on with a session does one deed, as long as there is one to be done. -/
theorem Sound.advance (h : Sound start w) (hm : w.makings[n]? = some m) :
    (∃ plan, m.stage = .called plan) ∨ (∃ result, m.stage = .over result) ∨
      ∃ d, (w.advance n).log = w.log ++ [(n, d)] := by
  have hrule := advance_rule w n
  generalize hw' : w.advance n = w' at hrule ⊢
  cases hrule with
  | stride _ _ hd =>
      obtain ⟨rfl, -⟩ := hd
      exact .inr (.inr ⟨_, rfl⟩)
  | rest _ hrest =>
      obtain ⟨e, he, -⟩ := h.engine n m hm
      rcases hrest n m rfl hm with hcalled | hover | hnone
      · exact .inl hcalled
      · exact .inr (.inl hover)
      · rw [he] at hnone
        cases hnone

/-- A run during which sessions are made, however the events of one come between those of another. -/
structure Orderly (start : Site) (events : List Event) (w : Workshop) : Prop where
  /-- Each stage comes after all earlier ones, and the first failure ends it with the error. -/
  told : ∀ (n : Nat) (m : Making), w.makings[n]? = some m → Told start.host m.order (w.deeds n) m.stage
  asked : ∀ (n : Nat) (m : Making), w.makings[n]? = some m →
    ∃ before later, events = before ++ .begin m.order.engine m.order.settings m.order.tail :: later ∧
      ((ofSite start).after before).makings.length = n ∧
      ∃ e, ((ofSite start).after before).site.engine? m.order.engine = some e ∧ e.kind = m.order.kind
  /-- What is published before a session is asked for is seen, and what is published after the look is not. -/
  looked : ∀ n proxy, .look proxy ∈ w.deeds n →
    ∃ before i settings tail between later,
      events = before ++ .begin i settings tail :: (between ++ .advance n :: later) ∧
        ((ofSite start).after before).makings.length = n ∧
        ((ofSite start).after (before ++ .begin i settings tail :: between)).site.host.proxy.value = proxy ∧
        (((ofSite start).after before).site.host.proxy.value = proxy ∨
          ∃ hc, .act (.setProxy proxy) hc ∈ between)
  finished : ∀ n result, .finish result ∈ w.deeds n → .finish n result ∈ events
  /-- Nothing but the making of sessions makes clients or calls constructors. -/
  clients : w.site.host.clients = start.host.clients ++ w.log.filterMap (·.2.client?)
  plans : w.site.plans = start.plans ++ w.log.filterMap (·.2.plan?)
  /-- The making of sessions touches files only in order to make the directory. -/
  files : ∀ earlier ev later, events = earlier ++ ev :: later →
    let now := (ofSite start).after earlier
    let next := (ofSite start).after (earlier ++ [ev])
    next.site.host.tree = now.site.host.tree ∨ (∃ f hc, ev = .act (.onFiles f) hc) ∨
      ∃ n outcome, ev = .advance n ∧ next.log = now.log ++ [(n, .makeDirectory outcome)] ∧
        ensureDirectory now.site.host.tree start.host.saveDirectory = (outcome, next.site.host.tree)
  /-- What has been done is not done again or differently later. -/
  kept : ∀ earlier later, events = earlier ++ later →
    ∀ n, ((ofSite start).after earlier).deeds n <+: w.deeds n
  advances : ∀ (n : Nat) (m : Making), w.makings[n]? = some m → (∃ plan, m.stage = .called plan) ∨
    (∃ result, m.stage = .over result) ∨ ∃ d, (w.advance n).log = w.log ++ [(n, d)]
  /-- A session that is made without a pause is one that the site creates. -/
  unbroken : ∀ i settings tail construct,
    (w.make i settings tail construct).site = (w.site.create i settings tail construct).2 ∧
      ((w.make i settings tail construct).makings[w.makings.length]?).map (·.stage) =
        (w.site.create i settings tail construct).1.map .over

/-- Sessions are made in stages, in order, and the first that fails is the last. -/
theorem stages_in_order (start : Site) (events : List Event) :
    Orderly start events ((ofSite start).after events) where
  told := (sound_after start events).told
  asked _ _ := begun
  looked _ _ := looked
  finished n result h := by
    obtain ⟨earlier, ev, later, rfl, hdoes, -⟩ := done (mem_deeds.mp h)
    cases ev with
    | finish k result' =>
        obtain ⟨rfl, hresult⟩ := hdoes
        cases hresult
        exact List.mem_append_right _ (List.mem_cons_self ..)
    | advance k => exact absurd rfl (hdoes.2 result)
    | begin | act => exact hdoes.elim
  clients := (sound_after start events).clients
  plans := (sound_after start events).plans
  files := by
    rintro earlier ev later -
    rw [after_concat, ← (sound_after start earlier).alike.saveDirectory]
    exact (step_rule _ ev).tree
  kept := by
    rintro earlier later rfl n
    rw [after_append]
    exact ((log_after _ later).filter _).map _
  advances _ _ := (sound_after start events).advance
  unbroken := make_eq _

end Workshop

end Swarmkeeper.Engine
