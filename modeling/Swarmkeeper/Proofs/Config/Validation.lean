import Swarmkeeper.Config.Environment
import Swarmkeeper.Proofs.Config.RoundTrip
import Swarmkeeper.Proofs.Identity.OwnIds
import Swarmkeeper.Web.Client
import Mathlib.Data.List.Nodup

/-!
# What a configuration that was accepted is good for

Whichever way a configuration was read, its tag makes a fingerprint, a client can be made for its proxy, and
every kind of engine has one entry at most, which is the one that is found. A configuration is refused only if
one of these fails, and then the first of them is named.
-/

namespace Swarmkeeper

open Swarmkeeper.Identity Swarmkeeper.Json

/-! ## Proxies that can be used -/

namespace Web.Proxy

/-- There is no proxy, or its address is a URL of the web. -/
def Usable : Proxy → Prop
  | disabled => True
  | http server =>
      ∃ url, Url.ofText server.url = .ok url ∧ (url.scheme = "http".toList ∨ url.scheme = "https".toList)

theorem fault?_eq_none_iff (p : Proxy) : p.fault? = none ↔ p.Usable := by
  cases p with
  | disabled => simp [fault?, Usable]
  | http server =>
      cases hurl : Url.ofText server.url with
      | error f => simp [fault?, Usable, hurl]
      | ok url => simp [fault?, Usable, hurl, isSupported, or_iff_not_imp_left]

end Web.Proxy

theorem Web.Client.ofProxy_of_usable {p : Proxy} (h : p.Usable) (userAgent : String) :
    ofProxy p userAgent =
      if userAgent.toList.all isHeaderChar then .ok ⟨p, userAgent⟩ else .error (.noClient "builder error") := by
  rw [ofProxy, p.fault?_eq_none_iff.mpr h]

namespace Config

variable {c c' : Config} {seen ks : List Engine.Kind} {k : Engine.Kind}

/-! ## Kinds that are listed twice -/

theorem repeated?_eq_none_iff : repeated? seen ks = none ↔ ks.Nodup ∧ ∀ k ∈ ks, k ∉ seen := by
  induction ks generalizing seen with
  | nil => simp [repeated?]
  | cons k ks ih =>
      rw [repeated?]
      split
      · simp_all
      · rw [ih]
        simp_all
        grind

/-- A kind stands at the first place that repeats an earlier one. -/
theorem repeated?_append_cons {earlier later : List Engine.Kind} (hn : earlier.Nodup)
    (hseen : ∀ e ∈ earlier, e ∉ seen) (hk : k ∈ earlier ∨ k ∈ seen) :
    repeated? seen (earlier ++ k :: later) = some k := by
  induction earlier generalizing seen with
  | nil => simp_all [repeated?]
  | cons e earlier ih =>
      rw [List.nodup_cons] at hn
      rw [List.cons_append, repeated?, if_neg (hseen e List.mem_cons_self)]
      refine ih hn.2 ?_ ?_
      · grind
      · grind

/-- The kinds of the engines that are listed. -/
def kinds (c : Config) : List Engine.Kind := c.engines.map (·.kind)

/-! ## The checks in their order -/

theorem fault?_eq_none_iff :
    c.fault? = none ↔ TwoAlphanumerics c.client.tag ∧ c.proxy.Usable ∧ c.kinds.Nodup := by
  rw [fault?, ← isTag_iff, ← c.proxy.fault?_eq_none_iff]
  cases isTag c.client.tag <;> cases c.proxy.fault? <;> simp [repeated?_eq_none_iff, kinds]

theorem fault?_of_tag (h : ¬ TwoAlphanumerics c.client.tag) :
    c.fault? = some (.invalid "client.fingerprint_tag" (tagReason c.client.tag)) := by
  rw [← isTag_iff, Bool.not_eq_true] at h
  simp [fault?, h]

theorem fault?_of_proxy {f : Web.Fault} (htag : TwoAlphanumerics c.client.tag) (h : c.proxy.fault? = some f) :
    c.fault? = some (.invalid "proxy" f.message) := by
  simp [fault?, isTag_iff.mpr htag, h]

theorem fault?_of_engines {earlier later : List Engine.Kind} (htag : TwoAlphanumerics c.client.tag)
    (hproxy : c.proxy.Usable) (hkinds : c.kinds = earlier ++ k :: later) (hn : earlier.Nodup) (hk : k ∈ earlier) :
    c.fault? = some (.invalid "engines" s!"engine {k.label} configured twice") := by
  have hrepeated : repeated? [] (c.engines.map (·.kind)) = some k := by
    rw [show c.engines.map (·.kind) = earlier ++ k :: later from hkinds]
    exact repeated?_append_cons hn (fun _ _ => List.not_mem_nil) (.inl hk)
  simp [fault?, isTag_iff.mpr htag, c.proxy.fault?_eq_none_iff.mpr hproxy, hrepeated]

/-- What is said of a configuration: nothing is wrong with it, or the first thing that is. -/
structure Judged (c : Config) : Prop where
  accepted : c.checked = .ok c ↔ TwoAlphanumerics c.client.tag ∧ c.proxy.Usable ∧ c.kinds.Nodup
  tag : ¬ TwoAlphanumerics c.client.tag →
    c.checked = .error (.invalid "client.fingerprint_tag" (tagReason c.client.tag))
  proxy : TwoAlphanumerics c.client.tag → ∀ f, c.proxy.fault? = some f →
    c.checked = .error (.invalid "proxy" f.message)
  /-- The kind at the first place that repeats an earlier one is named. -/
  engines : TwoAlphanumerics c.client.tag → c.proxy.Usable → ∀ earlier k later,
    c.kinds = earlier ++ k :: later → earlier.Nodup → k ∈ earlier →
      c.checked = .error (.invalid "engines" s!"engine {k.label} configured twice")

theorem judged (c : Config) : Judged c where
  accepted := by rw [checked_eq_ok_iff, and_iff_left rfl, fault?_eq_none_iff]
  tag h := checked_of_fault? (fault?_of_tag h)
  proxy htag _ h := checked_of_fault? (fault?_of_proxy htag h)
  engines htag hproxy _ _ _ hkinds hn hk := checked_of_fault? (fault?_of_engines htag hproxy hkinds hn hk)

/-! ## Ways to read a configuration -/

/-- The configuration was read from a text, from the bytes of a file or from variables. -/
inductive Loaded (c : Config) : Prop where
  | text (text : String) (h : ofText text = .ok c)
  | file (path : String) (bytes : List UInt8) (h : ofBytes path bytes = .ok c)
  | environment (env : Environment) (h : ofEnvironment env = .ok c)

theorem fault?_of_ofText {text : String} (h : ofText text = .ok c) : c.fault? = none := by
  unfold ofText at h
  split at h
  · cases h
  · obtain ⟨hfault, rfl⟩ := checked_eq_ok_iff.mp h
    exact hfault

theorem fault?_of_ofBytes {path : String} {bytes : List UInt8} (h : ofBytes path bytes = .ok c) :
    c.fault? = none := by
  unfold ofBytes at h
  split at h
  · cases h
  · exact fault?_of_ofText h

theorem fault?_of_ofEnvironment {env : Environment} (h : ofEnvironment env = .ok c) : c.fault? = none := by
  -- whatever the variables have set, the result is checked at the end
  obtain ⟨_, -, h⟩ := exists_of_bind h
  obtain ⟨_, -, h⟩ := exists_of_bind h
  obtain ⟨_, -, h⟩ := exists_of_bind h
  obtain ⟨_, -, h⟩ := exists_of_bind h
  obtain ⟨_, -, h⟩ := exists_of_bind h
  obtain ⟨_, -, h⟩ := exists_of_bind h
  obtain ⟨hfault, rfl⟩ := checked_eq_ok_iff.mp h
  exact hfault

/-- However a configuration was loaded, nothing is wrong with it. -/
theorem Loaded.fault? (h : Loaded c) : c.fault? = none := by
  cases h with
  | text _ h => exact fault?_of_ofText h
  | file _ _ h => exact fault?_of_ofBytes h
  | environment _ h => exact fault?_of_ofEnvironment h

/-! ## Use -/

/-- What the parts of the program need of a configuration. -/
structure Usable (c : Config) : Prop where
  fingerprint : ∃ f, c.client.fingerprint = .ok f
  proxy : c.proxy.Usable
  /-- No client fails for the proxy. -/
  client : ∀ userAgent, Web.Client.ofProxy c.proxy userAgent =
    if userAgent.toList.all Web.Client.isHeaderChar then .ok ⟨c.proxy, userAgent⟩
    else .error (.noClient "builder error")
  distinct : c.kinds.Nodup
  listed : ∀ s ∈ c.engines, c.engine s.kind = s
  unlisted : ∀ kind ∉ c.kinds, c.engine kind = .ofKind kind ∧ (c.engine kind).kind = kind

theorem engine_of_mem {s : Engine.Settings} (hn : c.kinds.Nodup) (hs : s ∈ c.engines) : c.engine s.kind = s := by
  obtain ⟨earlier, later, hengines⟩ := List.append_of_mem hs
  have hbefore : ∀ e ∈ earlier, e.kind ≠ s.kind := by
    intro e he hkind
    rw [kinds, hengines, List.map_append, List.nodup_append] at hn
    exact hn.2.2 _ (List.mem_map_of_mem he) _ (by simp) hkind
  have hfind : c.engines.find? (fun e => e.kind = s.kind) = some s := by
    rw [hengines, List.find?_append, List.find?_eq_none.mpr (by simpa using hbefore)]
    simp
  rw [engine, hfind, Option.getD_some]

theorem engine_of_not_mem {kind : Engine.Kind} (h : kind ∉ c.kinds) : c.engine kind = .ofKind kind := by
  have hfind : c.engines.find? (fun e => e.kind = kind) = none := by
    simpa [kinds] using h
  rw [engine, hfind, Option.getD_none]

theorem usable (h : c.fault? = none) : Usable c := by
  obtain ⟨htag, hproxy, hkinds⟩ := fault?_eq_none_iff.mp h
  constructor
  · rw [Client.fingerprint, derive?_of_twoAlphanumerics htag]
    exact ⟨_, rfl⟩
  · exact hproxy
  · exact Web.Client.ofProxy_of_usable hproxy
  · exact hkinds
  · exact fun s hs => engine_of_mem hkinds hs
  · intro kind hkind
    rw [engine_of_not_mem hkind]
    exact ⟨rfl, rfl⟩

/-- A configuration that was read can be used, and one is refused only for the first of the reasons why it
could not. -/
theorem loaded_usable (c : Config) : (Loaded c → Usable c) ∧ Judged c :=
  ⟨fun h => usable h.fault?, judged c⟩

end Config

end Swarmkeeper
