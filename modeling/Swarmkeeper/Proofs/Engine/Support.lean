import Swarmkeeper.Proofs.Engine.Loading
import Mathlib.Data.List.Induction

/-!
# One load of a library

Whoever first needs to know whether an engine can be used loads its library. What that load came to is the
answer to everyone from then on, whatever becomes of the files: it is published once, and no constructor is
called unless the load succeeded.
-/

namespace Swarmkeeper.Engine

/-! ## One act -/

namespace Site

variable {s : Site} {e e' : Native} {i j : Nat} {a : Act}

/-- An act asks whether this engine can be used, whatever else it does. -/
def Act.Needs (i : Nat) : Act → Prop
  | .watch j | .test j | .create j _ _ _ => j = i
  | _ => False

theorem ask_of_some {α : Type} (f : Native → α × Native) (he : s.engine? i = some e) :
    s.ask i f = (some (f e).1, { s with registry := s.registry.setEngine i (f e).2 }) := by
  rw [ask, he]

theorem prepare_of_some (settings : Settings) (tail : Identity.Tail) (he : s.engine? i = some e) :
    s.prepare i settings tail = (some (e.prepare s.host settings tail).1,
      ⟨(e.prepare s.host settings tail).2.2, s.registry.setEngine i (e.prepare s.host settings tail).2.1,
        hand s.plans i (e.prepare s.host settings tail).1⟩) := by
  rw [prepare, he]

/-- Whatever an engine becomes, the others stay as they are. -/
theorem engine?_of_registry {s' : Site} {f : Native → Native}
    (hnone : s.engine? i = none → s'.registry = s.registry)
    (hsome : ∀ e, s.engine? i = some e → s'.registry = s.registry.setEngine i (f e))
    (he : s.engine? j = some e) : s'.engine? j = some (if i = j then f e else e) := by
  cases hi : s.engine? i with
  | none =>
      have hij : i ≠ j := by
        rintro rfl
        rw [he] at hi
        cases hi
      rw [engine?, hnone hi, if_neg hij]
      exact he
  | some e₀ =>
      rw [engine?, hsome e₀ hi, Registry.engine?_setEngine, show s.registry.engine? j = some e from he]
      split
      · rename_i hij
        obtain rfl : e = e₀ := Option.some.inj (he.symm.trans (hij ▸ hi))
        rfl
      · rfl

theorem engine?_ask {α : Type} (i : Nat) (f : Native → α × Native) (he : s.engine? j = some e) :
    (s.ask i f).2.engine? j = some (if i = j then (f e).2 else e) := by
  refine engine?_of_registry (f := fun e => (f e).2) (fun hi => ?_) (fun e hi => ?_) he
  · rw [ask, hi]
  · rw [ask_of_some f hi]

theorem engine?_prepare (i : Nat) (settings : Settings) (tail : Identity.Tail) (he : s.engine? j = some e) :
    (s.prepare i settings tail).2.engine? j = some (if i = j then e.settled s.host.tree else e) := by
  refine engine?_of_registry (f := (·.settled s.host.tree)) (fun hi => ?_) (fun e hi => ?_) he
  · rw [prepare, hi]
  · rw [prepare_of_some settings tail hi, Native.engine_prepare]

theorem engine?_onEngine (i : Nat) (f : Native → Native) (he : s.engine? j = some e) :
    (s.onEngine i f).engine? j = some (if i = j then f e else e) := engine?_ask i _ he

/-- An act follows a rule at every engine, and settles it if the act needs it. -/
theorem step_rule (a : Act) (he : s.engine? j = some e) :
    ∃ e', (s.step a).2.engine? j = some e' ∧ Native.Rule s.host.tree e e' ∧
      (a.Needs j → e' = e.settled s.host.tree) := by
  have hrule (i : Nat) {e' : Native} (h : Native.Rule s.host.tree e e') :
      Native.Rule s.host.tree e (if i = j then e' else e) := by
    split
    · exact h
    · exact .refl _ e
  cases a with
  | watch i => exact ⟨_, engine?_ask i (·.isSupported _) he, hrule i (.settle rfl), fun hij => if_pos hij⟩
  | test i => exact ⟨_, engine?_ask i (·.testConnection _) he, hrule i (.settle rfl), fun hij => if_pos hij⟩
  | create i settings tail construct =>
      exact ⟨_, engine?_prepare i settings tail he, hrule i (.settle rfl), fun hij => if_pos hij⟩
  | select isMetered =>
      -- a choice may ask this engine or not
      rcases (Registry.firstUsable_rule s.host.tree isMetered s.registry _).1 j with hj | hj
      · exact ⟨e, hj.trans he, .refl _ e, fun h => h.elim⟩
      · exact ⟨_, hj.trans (congrArg _ he), .settle rfl, fun h => h.elim⟩
  | configure i f =>
      exact ⟨_, engine?_onEngine i _ he, hrule i (.keep rfl rfl rfl rfl), fun h => h.elim⟩
  | exchange i library =>
      exact ⟨_, engine?_onEngine i _ he, hrule i (.keep rfl rfl rfl rfl), fun h => h.elim⟩
  | onFiles | setProxy => exact ⟨e, he, .refl _ e, fun h => h.elim⟩

/-! ### The plans -/

theorem plans_ask {α : Type} (s : Site) (i : Nat) (f : Native → α × Native) :
    (s.ask i f).2.plans = s.plans := by
  unfold ask
  split <;> rfl

/-- A constructor is given a plan only by an engine whose library can be loaded. -/
theorem plans_prepare (i : Nat) (settings : Settings) (tail : Identity.Tail) :
    (s.prepare i settings tail).2.plans = s.plans ∨
      ∃ e plan, s.engine? i = some e ∧ e.verdict s.host.tree = .ok () ∧
        (s.prepare i settings tail).2.plans = s.plans ++ [(i, plan)] := by
  cases hi : s.engine? i with
  | none =>
      rw [prepare, hi]
      exact .inl rfl
  | some e =>
      rw [prepare_of_some settings tail hi, Native.prepare_eq]
      cases hv : e.verdict s.host.tree with
      | error fault => exact .inl rfl
      | ok u =>
          cases hp : (s.host.equip e.kind settings tail).1 with
          | error fault => exact .inl rfl
          | ok plan => exact .inr ⟨e, plan, rfl, hv, rfl⟩

/-- A plan is handed out only for an engine whose library was loaded. -/
theorem plans_step (a : Act) : (s.step a).2.plans = s.plans ∨
    ∃ i e plan, a.Needs i ∧ s.engine? i = some e ∧ e.verdict s.host.tree = .ok () ∧
      (s.step a).2.plans = s.plans ++ [(i, plan)] := by
  cases a with
  | watch i => exact .inl (plans_ask s i (·.isSupported _))
  | test i => exact .inl (plans_ask s i (·.testConnection _))
  | configure | exchange => exact .inl (plans_ask ..)
  | select | onFiles | setProxy => exact .inl rfl
  | create i settings tail construct =>
      rcases plans_prepare (s := s) i settings tail with h | ⟨e, plan, he, hv, h⟩
      · exact .inl h
      · exact .inr ⟨i, e, plan, rfl, he, hv, h⟩

/-! ## Runs -/

variable {acts : List Act} {r : Except LibraryFault Unit}

theorem after_append (s : Site) (acts more : List Act) :
    s.after (acts ++ more) = (s.after acts).after more := List.foldl_append ..

theorem after_concat (s : Site) (acts : List Act) (a : Act) :
    s.after (acts ++ [a]) = ((s.after acts).step a).2 := after_append s acts [a]

/-- The engine with this number is this one, and what it was asked, has published and was built with it fits
together. -/
structure Sound (s : Site) (i : Nat) (e : Native) : Prop where
  engine : s.engine? i = some e
  coherent : e.Coherent
  plans : ∀ plan, (i, plan) ∈ s.plans → e.loader.outcome = some (.ok ())

/-- An engine is one engine. -/
theorem Sound.unique (h : s.Sound i e) (h' : s.Sound i e') : e = e' :=
  Option.some.inj (h.engine.symm.trans h'.engine)

/-- No act makes an engine unsound. -/
theorem Sound.step (h : s.Sound i e) (a : Act) :
    ∃ e', (s.step a).2.Sound i e' ∧ Native.Rule s.host.tree e e' ∧
      (a.Needs i → e' = e.settled s.host.tree) := by
  obtain ⟨e', he', hr, hn⟩ := step_rule a h.engine
  refine ⟨e', ⟨he', hr.coherent h.coherent, fun plan hp => ?_⟩, hr, hn⟩
  rcases plans_step (s := s) a with hs | ⟨j, f, given, hj, hf, hv, hs⟩
  · rw [hs] at hp
    exact hr.outcome (h.plans plan hp)
  · rw [hs, List.mem_append, List.mem_singleton] at hp
    rcases hp with hp | hp
    · exact hr.outcome (h.plans plan hp)
    · -- the plan is new, so that this act has settled the engine
      obtain ⟨rfl, -⟩ := Prod.mk.inj hp
      rw [h.engine, Option.some.injEq] at hf
      subst hf
      rw [hn hj, Native.outcome_settled, hv]

/-- The engines stay, and the outcomes of their loads are kept. -/
theorem Sound.after (h : s.Sound i e) (acts : List Act) :
    ∃ e', (s.after acts).Sound i e' ∧ e'.kind = e.kind ∧
      ∀ r, e.loader.outcome = some r → e'.loader.outcome = some r := by
  induction acts using List.reverseRecOn with
  | nil => exact ⟨e, h, rfl, fun _ => id⟩
  | append_singleton acts a ih =>
      obtain ⟨e', h', hk, hr⟩ := ih
      obtain ⟨e'', h'', hrule, -⟩ := h'.step a
      rw [after_concat]
      exact ⟨e'', h'', hrule.kind.trans hk, fun r he => hrule.outcome (hr r he)⟩

/-- An outcome is that of a load at some moment of the run, before which there was none. -/
theorem Sound.attempt (h : s.Sound i e) (hn : e.loader.outcome = none)
    (h' : (s.after acts).Sound i e') (hr : e'.loader.outcome = some r) :
    ∃ earlier a later e₁, acts = earlier ++ a :: later ∧ (s.after earlier).engine? i = some e₁ ∧
      e₁.loader.loads = 0 ∧ r = e₁.loader.library.attempt (s.after earlier).host.tree := by
  induction acts using List.reverseRecOn generalizing e' with
  | nil =>
      obtain rfl := h.unique h'
      rw [hn] at hr
      cases hr
  | append_singleton acts a ih =>
      obtain ⟨e₁, h₁, -⟩ := h.after acts
      obtain ⟨e₂, h₂, hrule, -⟩ := h₁.step a
      rw [after_concat] at h'
      obtain rfl := h₂.unique h'
      cases hr₁ : e₁.loader.outcome with
      | none =>
          exact ⟨acts, a, [], e₁, rfl, h₁.engine, (h₁.coherent.unloaded hr₁).1, hrule.attempt hr₁ hr⟩
      | some r₁ =>
          obtain rfl : r₁ = r := Option.some.inj ((hrule.outcome hr₁).symm.trans hr)
          obtain ⟨earlier, b, later, e₃, hacts, he₃⟩ := ih h₁ hr₁
          exact ⟨earlier, b, later ++ [a], e₃, by simp [hacts], he₃⟩

/-- Whoever needs to know is answered by what is the outcome at all times after that. -/
theorem Sound.needed (h : s.Sound i e) (earlier : List Act) (ha : a.Needs i) (later : List Act) :
    ∃ e₁ e₂, (s.after earlier).Sound i e₁ ∧ e₁.kind = e.kind ∧
      (s.after (earlier ++ a :: later)).Sound i e₂ ∧
        e₂.loader.outcome = some (e₁.verdict (s.after earlier).host.tree) := by
  obtain ⟨e₁, h₁, hk, -⟩ := h.after earlier
  obtain ⟨e', h', -, hn⟩ := h₁.step a
  obtain ⟨e₂, h₂, -, hr⟩ := h'.after later
  rw [after_append]
  refine ⟨e₁, e₂, h₁, hk, h₂, hr _ ?_⟩
  rw [hn ha, Native.outcome_settled]

/-! ## The answers -/

theorem answer_watch (h : (s.after acts).engine? i = some e) :
    s.answer acts (.watch i) = .reader (.ofSetting (e.settled (s.after acts).host.tree).support) := by
  simp only [answer, Site.step, watch, ask_of_some _ h]
  rfl

theorem answer_test (h : (s.after acts).engine? i = some e) :
    s.answer acts (.test i) = .flag (e.verdict (s.after acts).host.tree).isOk := by
  simp only [answer, Site.step, test, ask_of_some _ h, Native.testConnection_eq]
  rfl

theorem answer_create (settings : Settings) (tail : Identity.Tail)
    (construct : Plan → Except Panic (Except Fault Nat)) (h : (s.after acts).engine? i = some e) :
    s.answer acts (.create i settings tail construct) =
      .session (build construct (e.prepare (s.after acts).host settings tail).1) := by
  simp only [answer, Site.step, create, prepare_of_some _ _ h]
  rfl

/-- What comes of asking for a session if this is the outcome of the load: what would come of it without a
library, unless the load has failed. -/
structure Gated (r : Except LibraryFault Unit) (kind : Kind) (plan : Except Fault Plan)
    (construct : Plan → Except Panic (Except Fault Nat)) (result : Except Panic (Except Fault Nat)) :
    Prop where
  refused : ∀ f, r = .error f → result = .ok (.error (.unsupported kind f.message))
  passed : r = .ok () → result = build construct plan
  /-- Nothing but the load, and the constructor itself, says that the engine is not supported. -/
  unsupported : ∀ k reason, result = .ok (.error (.unsupported k reason)) ↔
    (∃ f, r = .error f ∧ k = kind ∧ reason = f.message) ∨
      r = .ok () ∧ ∃ p, plan = .ok p ∧ construct p = .ok (.error (.unsupported k reason))

/-- The constructor is reached only through the library. -/
theorem gated_prepare (e : Native) (h : Host) (settings : Settings) (tail : Identity.Tail)
    (construct : Plan → Except Panic (Except Fault Nat)) :
    Gated (e.verdict h.tree) e.kind (h.equip e.kind settings tail).1 construct
      (build construct (e.prepare h settings tail).1) := by
  rw [Native.prepare_eq]
  cases hv : e.verdict h.tree with
  | error f =>
      constructor
      · rintro _ ⟨⟩
        rfl
      · rintro ⟨⟩
      · intro k reason
        simp [build, eq_comm]
  | ok u =>
      constructor
      · rintro _ ⟨⟩
      · intro _
        rfl
      · intro k reason
        have hne := h.equip_ne_unsupported e.kind k settings tail reason
        cases hp : (h.equip e.kind settings tail).1 with
        | error f =>
            rw [hp] at hne
            simpa [build] using fun hf => hne (congrArg _ hf)
        | ok plan => simp [build]

/-- A run in which the load of the library of an engine came to this, or was not needed. -/
structure OneLoad (start : Site) (acts : List Act) (i : Nat) (kind : Kind)
    (r? : Option (Except LibraryFault Unit)) : Prop where
  loads : ∃ e, (start.after acts).engine? i = some e ∧ e.loader.loads = if r?.isSome then 1 else 0
  /-- It is what loading came to at some moment, before which there was no load. -/
  origin : ∀ r, r? = some r → ∃ earlier a later e, acts = earlier ++ a :: later ∧
    (start.after earlier).engine? i = some e ∧ e.loader.loads = 0 ∧
      r = e.loader.library.attempt (start.after earlier).host.tree
  /-- Every reader reads it at all later times, and has nothing new to read. -/
  watched : ∀ earlier between later, acts = earlier ++ .watch i :: (between ++ later) →
    ∃ r reader e, r? = some r ∧ start.answer earlier (.watch i) = .reader reader ∧
      (start.after (earlier ++ .watch i :: between)).engine? i = some e ∧
        e.support.value = r.isOk ∧ reader.isBehind e.support = false
  tested : ∀ earlier later, acts = earlier ++ .test i :: later →
    ∃ r, r? = some r ∧ start.answer earlier (.test i) = .flag r.isOk
  created : ∀ earlier settings tail construct later,
    acts = earlier ++ .create i settings tail construct :: later → ∃ r result, r? = some r ∧
      start.answer earlier (.create i settings tail construct) = .session result ∧
        Gated r kind ((start.after earlier).host.equip kind settings tail).1 construct result
  /-- No constructor is given anything unless the load has succeeded. -/
  constructed : ∀ plan, (i, plan) ∈ (start.after acts).plans → r? = some (.ok ())
  chosen : ∀ earlier isMetered later, acts = earlier ++ .select isMetered :: later →
    start.answer earlier (.select isMetered) = .engine (some i) → r? = some (.ok ())
  /-- What is published changes only from false to true, and only if the load has succeeded. -/
  published : ∀ earlier between later, acts = earlier ++ (between ++ later) → ∃ e e',
    (start.after earlier).engine? i = some e ∧ (start.after (earlier ++ between)).engine? i = some e' ∧
      (e'.support = e.support ∨
        e.support = ⟨false, 0⟩ ∧ e'.support = ⟨true, 1⟩ ∧ r? = some (.ok ()))

/-- An engine before anything is known of it. -/
structure Design where
  kind : Kind
  location : Location
  library : Library
  settings : Settings

/-- Engines that are made like this, before anything is asked of them. -/
def ofDesigns (host : Host) (designs : List Design) : Site :=
  ofEngines host (designs.map fun d => .ofLibrary d.kind d.location d.library d.settings)

/-- In the beginning every engine is sound. -/
theorem sound_ofDesigns (host : Host) (designs : List Design) (i : Fin designs.length) :
    (ofDesigns host designs).Sound i
      (.ofLibrary designs[i].kind designs[i].location designs[i].library designs[i].settings) where
  engine := by simp [ofDesigns, ofEngines, engine?, Registry.engine?, Registry.ofEngines]
  coherent := Native.coherent_ofLibrary ..
  plans plan h := by cases h

theorem Sound.oneLoad (h : s.Sound i e) (hn : e.loader.outcome = none) (h' : (s.after acts).Sound i e') :
    OneLoad s acts i e.kind e'.loader.outcome where
  loads := by
    refine ⟨e', h'.engine, ?_⟩
    cases hr : e'.loader.outcome with
    | none => exact (h'.coherent.unloaded hr).1
    | some r => exact (h'.coherent.loaded r hr).1
  origin r hr := h.attempt hn h' hr
  watched := by
    rintro earlier between later rfl
    obtain ⟨e₁, e₂, h₁, -, h₂, hr⟩ := h.needed earlier (a := .watch i) rfl between
    obtain ⟨e₃, h₃, -, hkept⟩ := h₂.after later
    rw [← after_append, List.append_assoc, List.cons_append] at h₃
    obtain rfl := h₃.unique h'
    refine ⟨_, _, e₂, hkept _ hr, answer_watch h₁.engine, h₂.engine, h₂.coherent.value_of_some hr, ?_⟩
    -- the outcome is the same at both moments, and with it what is published
    have hsame := (h₁.coherent.settled (s.after earlier).host.tree).support_eq h₂.coherent
      (Native.outcome_settled ..) hr
    rw [hsame, Receiver.isBehind, Receiver.ofSetting, decide_eq_false (Nat.lt_irrefl _)]
  tested := by
    rintro earlier later rfl
    obtain ⟨e₁, e₂, h₁, -, h₂, hr⟩ := h.needed earlier (a := .test i) rfl later
    obtain rfl := h₂.unique h'
    exact ⟨_, hr, answer_test h₁.engine⟩
  created := by
    rintro earlier settings tail construct later rfl
    obtain ⟨e₁, e₂, h₁, hk, h₂, hr⟩ := h.needed earlier (a := .create i settings tail construct) rfl later
    obtain rfl := h₂.unique h'
    refine ⟨_, _, hr, answer_create settings tail construct h₁.engine, ?_⟩
    rw [← hk]
    exact gated_prepare e₁ _ settings tail construct
  constructed := h'.plans
  chosen := by
    rintro earlier isMetered later rfl hc
    obtain ⟨e₁, h₁, -⟩ := h.after earlier
    obtain ⟨e₂, h₂, -⟩ := h₁.step (.select isMetered)
    obtain ⟨e₃, h₃, -, hkept⟩ := h₂.after later
    rw [after_append] at h'
    obtain rfl := h₃.unique h'
    obtain ⟨e₄, he₄, hok⟩ := (Registry.firstUsable_rule (s.after earlier).host.tree isMetered
      (s.after earlier).registry _).2 i (Answer.engine.inj hc)
    obtain rfl : e₄ = e₂ := Option.some.inj (he₄.symm.trans h₂.engine)
    exact hkept _ hok
  published := by
    rintro earlier between later rfl
    obtain ⟨e₁, h₁, -⟩ := h.after earlier
    obtain ⟨e₂, h₂, -, hr₂⟩ := h₁.after between
    obtain ⟨e₃, h₃, -, hr₃⟩ := h₂.after later
    rw [after_append, after_append] at h'
    obtain rfl := h₃.unique h'
    refine ⟨e₁, e₂, h₁.engine, by rw [after_append]; exact h₂.engine, ?_⟩
    rcases h₁.coherent.support_later h₂.coherent hr₂ with hs | ⟨hs, hs', hok⟩
    · exact .inl hs
    · exact .inr ⟨hs, hs', hr₃ _ hok⟩

/-- The first load of the library of an engine decides for good whether the engine can be used. -/
theorem one_load (host : Host) (designs : List Design) (acts : List Act) (i : Fin designs.length) :
    ∃ r?, OneLoad (ofDesigns host designs) acts i designs[i].kind r? := by
  have h := sound_ofDesigns host designs i
  obtain ⟨e', h', -⟩ := h.after acts
  exact ⟨_, h.oneLoad rfl h'⟩

end Site

end Swarmkeeper.Engine
