import Swarmkeeper.Engine.Site

/-!
# An engine that is asked whether it can be used

Asking settles the engine: the library is loaded unless that has been done, and what came of it is published.
After that asking changes nothing. A choice among engines settles some of them and chooses one that can be
used.
-/

namespace Swarmkeeper.Engine

/-! ## An engine that is asked -/

/-- To load a library that has been loaded changes nothing. -/
theorem Loader.ensure_ensure (l : Loader) (tree : Files.Tree) :
    (l.ensure tree).2.ensure tree = l.ensure tree := by
  cases h : l.outcome <;> simp [ensure, h]

namespace Native

variable {e e' : Native} {tree : Files.Tree} {r : Except LibraryFault Unit}

/-- What the load of the library came to, or would come to at this moment. -/
def verdict (e : Native) (tree : Files.Tree) : Except LibraryFault Unit := (e.loader.ensure tree).1

/-- The engine once somebody has needed to know whether it can be used. -/
def settled (e : Native) (tree : Files.Tree) : Native := (e.refreshSupport tree).2

theorem verdict_of_none (h : e.loader.outcome = none) : e.verdict tree = e.loader.library.attempt tree := by
  simp [verdict, Loader.ensure, h]

theorem verdict_of_some (h : e.loader.outcome = some r) : e.verdict tree = r := by
  simp [verdict, Loader.ensure, h]

theorem loader_settled (e : Native) (tree : Files.Tree) :
    (e.settled tree).loader = (e.loader.ensure tree).2 := rfl

theorem support_settled (e : Native) (tree : Files.Tree) :
    (e.settled tree).support = (e.support.setIfChanged (e.verdict tree).isOk).2 := rfl

theorem outcome_settled (e : Native) (tree : Files.Tree) :
    (e.settled tree).loader.outcome = some (e.verdict tree) := by
  rw [loader_settled, verdict, Loader.ensure]
  split
  · assumption
  · rfl

theorem value_settled (e : Native) (tree : Files.Tree) :
    (e.settled tree).support.value = (e.verdict tree).isOk := by
  rw [support_settled, Setting.setIfChanged]
  split
  · exact eq_of_beq ‹_›
  · rfl

/-- The test tells the verdict and settles the engine. -/
theorem testConnection_eq (e : Native) (tree : Files.Tree) :
    e.testConnection tree = ((e.verdict tree).isOk, e.settled tree) :=
  Prod.ext (value_settled e tree) rfl

/-- Whoever needs the library is told the verdict, and the engine is settled. -/
theorem requireLibrary_eq (e : Native) (tree : Files.Tree) :
    e.requireLibrary tree = (e.verdict tree, e.settled tree) := by
  simp [requireLibrary, verdict, settled, refreshSupport, Loader.isLoaded, Loader.ensure_ensure]

theorem settled_settled (e : Native) (tree : Files.Tree) :
    (e.settled tree).settled tree = e.settled tree := by
  have hv : (e.settled tree).verdict tree = e.verdict tree := verdict_of_some (outcome_settled e tree)
  have hs : ((e.settled tree).settled tree).support = (e.settled tree).support := by
    rw [support_settled (e.settled tree), hv, ← value_settled, Setting.setIfChanged,
      if_pos (beq_self_eq_true _)]
  have hl : ((e.settled tree).settled tree).loader = (e.settled tree).loader := by
    rw [loader_settled (e.settled tree), loader_settled e, Loader.ensure_ensure]
  calc (e.settled tree).settled tree
      = { e.settled tree with
          loader := ((e.settled tree).settled tree).loader
          support := ((e.settled tree).settled tree).support } := rfl
    _ = e.settled tree := by rw [hs, hl]

/-! ## What was loaded is what is published -/

/-- The loads, their outcome and what is published fit together. -/
structure Coherent (e : Native) : Prop where
  unloaded : e.loader.outcome = none → e.loader.loads = 0 ∧ e.support = ⟨false, 0⟩
  loaded : ∀ r, e.loader.outcome = some r →
    e.loader.loads = 1 ∧ e.support = if r.isOk then ⟨true, 1⟩ else ⟨false, 0⟩

theorem coherent_ofLibrary (kind : Kind) (location : Location) (library : Library) (settings : Settings) :
    (ofLibrary kind location library settings).Coherent where
  unloaded _ := ⟨rfl, rfl⟩
  loaded _ h := by cases h

theorem Coherent.value_of_some (h : e.Coherent) (hr : e.loader.outcome = some r) :
    e.support.value = r.isOk := by
  rw [(h.loaded r hr).2]
  cases r.isOk <;> rfl

theorem Coherent.support_eq (h : e.Coherent) (h' : e'.Coherent) (hr : e.loader.outcome = some r)
    (hr' : e'.loader.outcome = some r) : e.support = e'.support :=
  (h.loaded r hr).2.trans (h'.loaded r hr').2.symm

/-- What is published changes only from false to true, and only when the library has been loaded. -/
theorem Coherent.support_later (h : e.Coherent) (h' : e'.Coherent)
    (hkept : ∀ r, e.loader.outcome = some r → e'.loader.outcome = some r) :
    e'.support = e.support ∨
      e.support = ⟨false, 0⟩ ∧ e'.support = ⟨true, 1⟩ ∧ e'.loader.outcome = some (.ok ()) := by
  cases hr : e.loader.outcome with
  | some r => exact .inl (h'.support_eq h (hkept r hr) hr)
  | none =>
      obtain ⟨-, hs⟩ := h.unloaded hr
      match hr' : e'.loader.outcome with
      | none => exact .inl ((h'.unloaded hr').2.trans hs.symm)
      | some (.error f) => exact .inl ((h'.loaded _ hr').2.trans hs.symm)
      | some (.ok ()) => exact .inr ⟨hs, (h'.loaded _ hr').2, rfl⟩

/-- An engine whose library has been loaded is not changed by those who ask. -/
theorem Coherent.settled_of_some (h : e.Coherent) (hr : e.loader.outcome = some r) :
    e.settled tree = e := by
  have hl : (e.settled tree).loader = e.loader := by simp [loader_settled, Loader.ensure, hr]
  have hs : (e.settled tree).support = e.support := by
    rw [support_settled, verdict_of_some hr, (h.loaded r hr).2]
    cases r.isOk <;> rfl
  calc e.settled tree
      = { e with loader := (e.settled tree).loader, support := (e.settled tree).support } := rfl
    _ = e := by rw [hs, hl]

/-- The first to ask loads the library once and publishes what came of it. -/
theorem Coherent.settled_of_none (h : e.Coherent) (hn : e.loader.outcome = none) :
    (e.settled tree).loader.loads = 1 ∧
      (e.settled tree).support = if (e.verdict tree).isOk then ⟨true, 1⟩ else ⟨false, 0⟩ := by
  obtain ⟨hloads, hsupport⟩ := h.unloaded hn
  constructor
  · simp [loader_settled, Loader.ensure, hn, hloads]
  · rw [support_settled, hsupport]
    cases (e.verdict tree).isOk <;> rfl

/-- What is published agrees with what the load came to. -/
theorem Coherent.settled (h : e.Coherent) (tree : Files.Tree) : (e.settled tree).Coherent := by
  cases hr : e.loader.outcome with
  | none =>
      constructor
      · intro hn
        rw [outcome_settled] at hn
        cases hn
      · intro r hr'
        rw [outcome_settled, Option.some.injEq] at hr'
        exact hr' ▸ h.settled_of_none hr
  | some r =>
      rw [h.settled_of_some hr]
      exact h

/-- What an act can do to an engine. -/
inductive Rule (tree : Files.Tree) (e e' : Native) : Prop where
  /-- Neither the loads nor what is published of them changes. -/
  | keep (ho : e'.loader.outcome = e.loader.outcome) (hl : e'.loader.loads = e.loader.loads)
      (hs : e'.support = e.support) (hk : e'.kind = e.kind)
  /-- Somebody needed to know whether the engine can be used. -/
  | settle (h : e' = e.settled tree)

theorem Rule.refl (tree : Files.Tree) (e : Native) : Rule tree e e := .keep rfl rfl rfl rfl

theorem Rule.kind (h : Rule tree e e') : e'.kind = e.kind := by
  cases h with
  | keep _ _ _ hk => exact hk
  | settle h => rw [h]; rfl

theorem Rule.coherent (h : Rule tree e e') (hc : e.Coherent) : e'.Coherent := by
  cases h with
  | keep ho hl hs =>
      constructor
      · rw [ho, hl, hs]
        exact hc.unloaded
      · rw [ho, hl, hs]
        exact hc.loaded
  | settle h => exact h ▸ hc.settled tree

/-- What a load came to stays. -/
theorem Rule.outcome (h : Rule tree e e') (hr : e.loader.outcome = some r) :
    e'.loader.outcome = some r := by
  cases h with
  | keep ho => rw [ho, hr]
  | settle h => rw [h, outcome_settled, verdict_of_some hr]

/-- It is what the library came to with the files of that moment. -/
theorem Rule.attempt (h : Rule tree e e') (hn : e.loader.outcome = none)
    (hr : e'.loader.outcome = some r) : r = e.loader.library.attempt tree := by
  cases h with
  | keep ho =>
      rw [ho, hn] at hr
      cases hr
  | settle h =>
      rw [h, outcome_settled, verdict_of_none hn, Option.some.injEq] at hr
      exact hr.symm

/-- Nothing is prepared for an engine that cannot be used. -/
theorem prepare_eq (e : Native) (h : Host) (settings : Settings) (tail : Identity.Tail) :
    e.prepare h settings tail = match e.verdict h.tree with
      | .error fault => (.error (.unsupported e.kind fault.message), e.settled h.tree, h)
      | .ok () => ((h.equip e.kind settings tail).1, e.settled h.tree, (h.equip e.kind settings tail).2) := by
  rw [prepare, requireLibrary_eq]
  cases e.verdict h.tree <;> rfl

theorem engine_prepare (e : Native) (h : Host) (settings : Settings) (tail : Identity.Tail) :
    (e.prepare h settings tail).2.1 = e.settled h.tree := by
  rw [prepare_eq]
  split <;> rfl

end Native

/-- What is not there when a session is made is never a matter of support. -/
theorem Host.equip_ne_unsupported (h : Host) (kind k : Kind) (settings : Settings) (tail : Identity.Tail)
    (reason : String) : (h.equip kind settings tail).1 ≠ .error (.unsupported k reason) := by
  unfold Host.equip Host.connect
  cases h.makeClient h.proxy.value h.fingerprint.userAgent with
  | error fault => simp
  | ok client =>
      simp only [Host.ensureSaveDirectory, ensureDirectory]
      cases (h.tree.makeDirectories h.saveDirectory).1 with
      | error fault => rintro ⟨⟩
      | ok u => rintro ⟨⟩

/-! ## A choice among engines -/

namespace Registry

variable {r r' : Registry} {tree : Files.Tree}

theorem engine?_setEngine (r : Registry) (i j : Nat) (e : Native) :
    (r.setEngine i e).engine? j = if i = j then (r.engine? j).map fun _ => e else r.engine? j := by
  simp only [engine?, setEngine, List.getElem?_modify]
  split <;> cases r.members[j]? <;> rfl

/-- Some engines have been asked whether they can be used. -/
def Asked (tree : Files.Tree) (r r' : Registry) : Prop :=
  ∀ j, r'.engine? j = r.engine? j ∨ r'.engine? j = (r.engine? j).map (·.settled tree)

theorem Asked.trans {r'' : Registry} (h : Asked tree r r') (h' : Asked tree r' r'') :
    Asked tree r r'' := by
  intro j
  rcases h j with hj | hj <;> rcases h' j with hj' | hj' <;> rw [hj', hj]
  · exact .inl rfl
  · exact .inr rfl
  · exact .inr rfl
  · rw [Option.map_map]
    exact .inr (congrArg (Option.map · _) (funext fun e => e.settled_settled tree))

theorem asked_setEngine {i : Nat} {e : Native} (he : r.engine? i = some e) :
    Asked tree r (r.setEngine i (e.settled tree)) := by
  intro j
  rw [engine?_setEngine]
  split
  · rename_i hij
    subst hij
    rw [he]
    exact .inr rfl
  · exact .inl rfl

/-- The engines that are asked are settled, and the one that is chosen can be used. -/
theorem firstUsable_rule (tree : Files.Tree) (isMetered : Bool) (r : Registry) (is : List Nat) :
    Asked tree r (firstUsable tree isMetered r is).2 ∧
      ∀ i, (firstUsable tree isMetered r is).1 = some i →
        ∃ e, (firstUsable tree isMetered r is).2.engine? i = some e ∧
          e.loader.outcome = some (.ok ()) := by
  induction is generalizing r with
  | nil => exact ⟨fun _ => .inl rfl, fun i h => by cases h⟩
  | cons i rest ih =>
      simp only [firstUsable]
      split
      · exact ih r
      · rename_i e he
        simp only [Native.testConnection_eq]
        split
        · split
          · -- the first that can be used ends the search
            rename_i hok
            refine ⟨asked_setEngine he, fun j hj => ?_⟩
            cases hj
            refine ⟨e.settled tree, by simp [engine?_setEngine, he], ?_⟩
            rw [Native.outcome_settled]
            cases hv : e.verdict tree with
            | error f => rw [hv] at hok; cases hok
            | ok u => rfl
          · exact (ih _).imp_left (asked_setEngine he).trans
        · exact ih r

end Registry

end Swarmkeeper.Engine
