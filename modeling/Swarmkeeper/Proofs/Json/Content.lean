import Swarmkeeper.Proofs.Json.Codecs

/-!
# What a record is read from

A record that is read from an object depends on what the members say and not on where they stand: it is as if
its fields were read in the order in which they are declared, each from the member with its name. So its
members can be reordered, members that nobody asks for can come and go, and so can those that say what holds
without them.
-/

namespace Swarmkeeper.Json

/-! ## Fields that do not meet -/

namespace RecordField

variable {σ α β : Type} {f g : RecordField σ} {v w : Tree} {s s' : σ}

/-- The fields are read one after the other, in either order. -/
def Independent (f g : RecordField σ) : Prop := ∀ v w s s',
  (∃ s₁, f.read v s = .ok s₁ ∧ g.read w s₁ = .ok s') ↔ ∃ s₁, g.read w s = .ok s₁ ∧ f.read v s₁ = .ok s'

theorem Independent.symm (h : f.Independent g) : g.Independent f := fun v w s s' => (h w v s s').symm

/-- The value says of the field what holds of this record. -/
def IsDefault (f : RecordField σ) (s : σ) (v : Tree) : Prop := f.read v s = .ok s

/-- What a field says of a record holds of it after another field is read. -/
theorem Independent.keep (h : f.Independent g) (hf : f.IsDefault s v) (hg : g.read w s = .ok s') :
    f.IsDefault s' v := by
  obtain ⟨s₁, hg₁, hf₁⟩ := (h v w s s').mp ⟨s, hf, hg⟩
  rw [hg, Except.ok.injEq] at hg₁
  rw [← hg₁] at hf₁
  exact hf₁

theorem read_of {name : String} {c : Codec α} {get : σ → α} {set : α → σ → σ} :
    (of name c get set).read v s = .ok s' ↔ ∃ x, c.read v = .ok x ∧ set x s = s' := by
  show (do let x ← c.read v; Except.ok (set x s)) = .ok s' ↔ _
  cases c.read v <;> simp [bind, Except.bind]

theorem independent_of {name name' : String} {c : Codec α} {c' : Codec β} {get : σ → α} {get' : σ → β}
    {set : α → σ → σ} {set' : β → σ → σ} (h : ∀ x y s, set' y (set x s) = set x (set' y s)) :
    Independent (of name c get set) (of name' c' get' set') := by
  intro v w s s'
  simp only [read_of]
  constructor
  · rintro ⟨_, ⟨x, hx, rfl⟩, y, hy, rfl⟩
    exact ⟨_, ⟨y, hy, rfl⟩, x, hx, (h x y s).symm⟩
  · rintro ⟨_, ⟨y, hy, rfl⟩, x, hx, rfl⟩
    exact ⟨_, ⟨x, hx, rfl⟩, y, hy, h x y s⟩

end RecordField

namespace Record

variable {σ : Type} {fields fs : List (RecordField σ)} {f : RecordField σ} {base s s' : σ} {v : Tree}
  {given given' : String → Option Tree} {ms ms' : List (String × Tree)} {vs : List Tree}

/-- The fields have different names and do not meet. -/
structure Regular (fields : List (RecordField σ)) : Prop where
  names : (fields.map (·.name)).Nodup
  independent : fields.Pairwise RecordField.Independent

/-! ## Fields in the order of their declaration -/

/-- Read in order, each from what is given for it, these fields turn one record into another. -/
inductive Gathers (given : String → Option Tree) : List (RecordField σ) → σ → σ → Prop where
  | nil (s : σ) : Gathers given [] s s
  | skip {f : RecordField σ} {fs : List (RecordField σ)} {s s' : σ} (h : given f.name = none)
      (hr : Gathers given fs s s') : Gathers given (f :: fs) s s'
  | field {f : RecordField σ} {fs : List (RecordField σ)} {s s₁ s' : σ} {v : Tree}
      (h : given f.name = some v) (hv : f.read v s = .ok s₁) (hr : Gathers given fs s₁ s') :
      Gathers given (f :: fs) s s'

theorem gathers_nil : Gathers given [] s s' ↔ s = s' := by
  constructor
  · rintro ⟨⟩
    rfl
  · rintro rfl
    exact .nil s

theorem gathers_cons_none (h : given f.name = none) :
    Gathers given (f :: fs) s s' ↔ Gathers given fs s s' := by
  refine ⟨fun hg => ?_, .skip h⟩
  cases hg with
  | skip _ hr => exact hr
  | field hv => rw [h] at hv; cases hv

theorem gathers_cons_some (h : given f.name = some v) :
    Gathers given (f :: fs) s s' ↔ ∃ s₁, f.read v s = .ok s₁ ∧ Gathers given fs s₁ s' := by
  refine ⟨fun hg => ?_, fun ⟨s₁, hv, hr⟩ => .field h hv hr⟩
  cases hg with
  | skip hn => rw [h] at hn; cases hn
  | field hv hr =>
      rw [h, Option.some.injEq] at hv
      subst hv
      exact ⟨_, hr, ‹_›⟩

theorem gathers_congr (h : ∀ f ∈ fs, given f.name = given' f.name) :
    Gathers given fs s s' ↔ Gathers given' fs s s' := by
  induction fs generalizing s with
  | nil => rw [gathers_nil, gathers_nil]
  | cons f fs ih =>
      have ih := fun s => ih (s := s) fun g hg => h g (List.mem_cons_of_mem _ hg)
      have hf := h f List.mem_cons_self
      cases hn : given f.name with
      | none => rw [gathers_cons_none hn, gathers_cons_none (hf ▸ hn), ih]
      | some v => simp only [gathers_cons_some hn, gathers_cons_some (hf ▸ hn), ih]

theorem gathers_none : Gathers (fun _ => none) fs s s' ↔ s = s' := by
  induction fs with
  | nil => exact gathers_nil
  | cons f fs ih => rw [gathers_cons_none rfl, ih]

/-- What is given for one field can be read before all others. -/
theorem gathers_pull (hfs : Regular fs) (hf : f ∈ fs) (hn : given f.name = none)
    (hv : given' f.name = some v) (hsame : ∀ g ∈ fs, g.name ≠ f.name → given' g.name = given g.name) :
    Gathers given' fs s s' ↔ ∃ s₁, f.read v s = .ok s₁ ∧ Gathers given fs s₁ s' := by
  induction fs generalizing s with
  | nil => cases hf
  | cons g fs ih =>
      obtain ⟨hnames, hind⟩ := hfs
      rw [List.map_cons, List.nodup_cons] at hnames
      rw [List.pairwise_cons] at hind
      rcases List.mem_cons.mp hf with rfl | hf
      · -- the fields after it have other names
        have hrest : ∀ g ∈ fs, given' g.name = given g.name := fun g hg =>
          hsame g (List.mem_cons_of_mem _ hg) fun he => hnames.1 (he ▸ List.mem_map_of_mem hg)
        simp only [gathers_cons_some hv, gathers_cons_none hn, gathers_congr hrest]
      · have hne : g.name ≠ f.name := fun he => hnames.1 (he ▸ List.mem_map_of_mem hf)
        have hg := hsame g List.mem_cons_self hne
        have ih := fun s => ih (s := s) ⟨hnames.2, hind.2⟩ hf fun g hg => hsame g (List.mem_cons_of_mem _ hg)
        cases hw : given g.name with
        | none => simp only [gathers_cons_none hw, gathers_cons_none (hg.trans hw), ih]
        | some w =>
            simp only [gathers_cons_some hw, gathers_cons_some (hg.trans hw), ih]
            -- the two fields change places
            constructor
            · rintro ⟨s₁, hs₁, s₂, hs₂, hr⟩
              obtain ⟨s₃, hs₃, hs₄⟩ := (hind.1 f hf w v s s₂).mp ⟨s₁, hs₁, hs₂⟩
              exact ⟨s₃, hs₃, s₂, hs₄, hr⟩
            · rintro ⟨s₁, hs₁, s₂, hs₂, hr⟩
              obtain ⟨s₃, hs₃, hs₄⟩ := (hind.1 f hf w v s s₂).mpr ⟨s₁, hs₁, hs₂⟩
              exact ⟨s₃, hs₃, s₂, hs₄, hr⟩

/-! ## Objects -/

/-- The members with these names and values. -/
def named (ms : List (String × Tree)) : Members :=
  ms.foldr (fun (key, value) rest => .member (.ok key) value rest) .close

/-- What the members say under a name. -/
def content (ms : List (String × Tree)) (name : String) : Option Tree := ms.lookup name

theorem content_cons_self (name : String) (v : Tree) (ms : List (String × Tree)) :
    content ((name, v) :: ms) name = some v := by
  rw [content, List.lookup_cons_self]

theorem content_cons_of_ne {name key : String} (h : name ≠ key) (v : Tree) (ms : List (String × Tree)) :
    content ((key, v) :: ms) name = content ms name := by
  rw [content, List.lookup_cons, beq_false_of_ne h]
  rfl

theorem content_eq_none {name : String} (h : name ∉ ms.map (·.1)) : content ms name = none := by
  induction ms with
  | nil => rfl
  | cons m ms ih =>
      rw [List.map_cons, List.mem_cons, not_or] at h
      rw [content_cons_of_ne h.1, ih h.2]

/-- There is a field of this name. -/
def isKnown (fields : List (RecordField σ)) (name : String) : Bool := fields.any (·.name = name)

/-- The names of fields among those of the members. -/
def knownNames (fields : List (RecordField σ)) (ms : List (String × Tree)) : List String :=
  (ms.map (·.1)).filter (isKnown fields)

/-- The members can be those of a record: what they say of a field they say once, and what they say besides can
be skipped. -/
structure Fits (fields : List (RecordField σ)) (ms : List (String × Tree)) : Prop where
  once : (knownNames fields ms).Nodup
  other : ∀ m ∈ ms, isKnown fields m.1 = false → m.2.skip = .ok ()

theorem isKnown_of_mem (hf : f ∈ fields) : isKnown fields f.name = true :=
  List.any_eq_true.mpr ⟨f, hf, decide_eq_true rfl⟩

theorem mem_knownNames {name : String} :
    name ∈ knownNames fields ms ↔ name ∈ ms.map (·.1) ∧ isKnown fields name = true := List.mem_filter

theorem knownNames_cons_known {name : String} (hk : isKnown fields name = true) :
    knownNames fields ((name, v) :: ms) = name :: knownNames fields ms := by
  simp [knownNames, hk]

theorem knownNames_cons_other {name : String} (hk : isKnown fields name = false) :
    knownNames fields ((name, v) :: ms) = knownNames fields ms := by
  simp [knownNames, hk]

theorem fits_cons_known {name : String} (hk : isKnown fields name = true) :
    Fits fields ((name, v) :: ms) ↔ name ∉ knownNames fields ms ∧ Fits fields ms := by
  constructor
  · rintro ⟨hn, hother⟩
    rw [knownNames_cons_known hk, List.nodup_cons] at hn
    exact ⟨hn.1, hn.2, fun m hm => hother m (List.mem_cons_of_mem _ hm)⟩
  · rintro ⟨hn, h⟩
    refine ⟨knownNames_cons_known hk ▸ List.nodup_cons.mpr ⟨hn, h.once⟩, fun m hm hm' => ?_⟩
    rcases List.mem_cons.mp hm with rfl | hm
    · rw [hk] at hm'
      cases hm'
    · exact h.other m hm hm'

theorem fits_cons_other {name : String} (hk : isKnown fields name = false) :
    Fits fields ((name, v) :: ms) ↔ v.skip = .ok () ∧ Fits fields ms := by
  constructor
  · rintro ⟨hn, hother⟩
    exact ⟨hother _ List.mem_cons_self hk, knownNames_cons_other hk ▸ hn,
      fun m hm => hother m (List.mem_cons_of_mem _ hm)⟩
  · rintro ⟨hv, h⟩
    refine ⟨by rw [knownNames_cons_other hk]; exact h.once, fun m hm hm' => ?_⟩
    rcases List.mem_cons.mp hm with rfl | hm
    · exact hv
    · exact h.other m hm hm'

theorem readMembers_cons_known (hn : (fields.map (·.name)).Nodup) (hf : f ∈ fields) {seen : List String} :
    readMembers fields seen (named ((f.name, v) :: ms)) s = .ok s' ↔ f.name ∉ seen ∧
      ∃ s₁, f.read v s = .ok s₁ ∧ readMembers fields (f.name :: seen) (named ms) s₁ = .ok s' := by
  have hkey : malformed (.ok f.name) = .ok f.name := rfl
  show readMembers fields seen (.member (.ok f.name) v (named ms)) s = .ok s' ↔ _
  rw [readMembers, hkey]
  simp only [bind, Except.bind, find?_name hn hf]
  by_cases hseen : f.name ∈ seen
  · simp [hseen]
  · cases f.read v s <;> simp [hseen]

theorem readMembers_cons_other {name : String} (hk : isKnown fields name = false) {seen : List String} :
    readMembers fields seen (named ((name, v) :: ms)) s = .ok s' ↔
      v.skip = .ok () ∧ readMembers fields seen (named ms) s = .ok s' := by
  have hkey : malformed (.ok name) = .ok name := rfl
  have hnone : fields.find? (·.name = name) = none := by simpa [isKnown] using hk
  show readMembers fields seen (.member (.ok name) v (named ms)) s = .ok s' ↔ _
  rw [readMembers, hkey]
  simp only [bind, Except.bind, hnone]
  cases v.skip <;> simp [malformed, Except.mapError]

/-- An object is read as if its members stood in the order of the fields. -/
theorem readMembers_iff (hfields : Regular fields) (seen : List String) :
    readMembers fields seen (named ms) s = .ok s' ↔
      Fits fields ms ∧ (∀ name ∈ knownNames fields ms, name ∉ seen) ∧ Gathers (content ms) fields s s' := by
  induction ms generalizing seen s with
  | nil =>
      show Except.ok s = .ok s' ↔ _
      rw [Except.ok.injEq]
      exact ⟨fun h => ⟨⟨.nil, nofun⟩, nofun, gathers_none.mpr h⟩, fun h => gathers_none.mp h.2.2⟩
  | cons m ms ih =>
      obtain ⟨name, v⟩ := m
      cases hk : isKnown fields name with
      | false =>
          have hgiven : ∀ f ∈ fields, content ((name, v) :: ms) f.name = content ms f.name := fun f hf =>
            content_cons_of_ne (fun he => by rw [← he, isKnown_of_mem hf] at hk; cases hk) v ms
          rw [readMembers_cons_other hk, ih, fits_cons_other hk, knownNames_cons_other hk,
            gathers_congr hgiven, and_assoc]
      | true =>
          obtain ⟨f, hf, he⟩ := List.any_eq_true.mp hk
          obtain rfl := of_decide_eq_true he
          simp only [readMembers_cons_known hfields.names hf, ih, fits_cons_known hk, knownNames_cons_known hk,
            List.mem_cons, forall_eq_or_imp, not_or]
          by_cases hn : f.name ∈ knownNames fields ms
          · -- the name stands twice
            simp only [hn, not_true, false_and, iff_false, not_and, not_exists]
            exact fun _ _ _ _ hne => absurd rfl (hne _ hn).1
          · have hnone : content ms f.name = none :=
              content_eq_none fun hm => hn (mem_knownNames.mpr ⟨hm, hk⟩)
            rw [gathers_pull hfields hf hnone (content_cons_self f.name v ms)
              fun g _ hg => content_cons_of_ne hg v ms]
            constructor
            · rintro ⟨hseen, s₁, hs₁, hfits, hnew, hrest⟩
              exact ⟨⟨hn, hfits⟩, ⟨hseen, fun name hm => (hnew name hm).2⟩, s₁, hs₁, hrest⟩
            · rintro ⟨⟨-, hfits⟩, ⟨hseen, hnew⟩, s₁, hs₁, hrest⟩
              exact ⟨hseen, s₁, hs₁, hfits, fun name hm => ⟨fun he => hn (he ▸ hm), hnew name hm⟩, hrest⟩

/-- An object is read if its members fit and what they say can be read in the order of the fields. -/
theorem readMembers_nil_iff (hfields : Regular fields) :
    readMembers fields [] (named ms) s = .ok s' ↔ Fits fields ms ∧ Gathers (content ms) fields s s' := by
  simp [readMembers_iff hfields]

/-- An object that can be read does not break off, and its keys are proper. -/
theorem exists_named : (members : Members) → (seen : List String) → (s : σ) →
    readMembers fields seen members s = .ok s' → ∃ ms, members = named ms
  | .close, _, _, _ => ⟨[], rfl⟩
  | .member (.error _) _ _, _, _, h => by cases h
  | .member (.ok name) v rest, seen, s, h => by
      have hkey : malformed (.ok name) = .ok name := rfl
      rw [readMembers, hkey] at h
      simp only [bind, Except.bind] at h
      have hrest : ∃ seen s, readMembers fields seen rest s = .ok s' := by
        split at h
        · cases hv : malformed v.skip with
          | error f => simp [hv] at h
          | ok u =>
              rw [hv] at h
              exact ⟨seen, s, h⟩
        · rename_i f _
          split at h
          · cases h
          · cases hv : f.read v s with
            | error f => simp [hv] at h
            | ok s₁ =>
                rw [hv] at h
                exact ⟨name :: seen, s₁, h⟩
      obtain ⟨seen, s, hrest⟩ := hrest
      obtain ⟨ms, rfl⟩ := exists_named rest seen s hrest
      exact ⟨(name, v) :: ms, rfl⟩
  | .bare (.error _) _, _, _, h => by cases h
  | .bare (.ok name) f, seen, _, h => by
      have hkey : malformed (.ok name) = .ok name := rfl
      rw [readMembers, hkey] at h
      simp only [bind, Except.bind] at h
      split at h <;> cases h
  | .stray _, _, _, h => by cases h
  | .broken .., _, _, h => by cases h

/-! ## Members in another order -/

theorem content_eq_some_iff {name : String} (hfits : Fits fields ms) (hk : isKnown fields name = true) :
    content ms name = some v ↔ (name, v) ∈ ms := by
  induction ms with
  | nil => simp [content]
  | cons m ms ih =>
      obtain ⟨key, w⟩ := m
      by_cases hne : name = key
      · subst hne
        have hn := ((fits_cons_known hk).mp hfits).1
        rw [content_cons_self, List.mem_cons, Option.some.injEq, Prod.mk.injEq]
        constructor
        · rintro rfl
          exact .inl ⟨rfl, rfl⟩
        · rintro (⟨-, rfl⟩ | hm)
          · rfl
          · exact absurd (mem_knownNames.mpr ⟨List.mem_map_of_mem hm, hk⟩) hn
      · have hfits : Fits fields ms := by
          cases hkey : isKnown fields key with
          | true => exact ((fits_cons_known hkey).mp hfits).2
          | false => exact ((fits_cons_other hkey).mp hfits).2
        simp [content_cons_of_ne hne, ih hfits, hne]

theorem Fits.perm (hfits : Fits fields ms) (h : ms.Perm ms') : Fits fields ms' where
  once := (((h.map _).filter _).nodup_iff).mp hfits.once
  other m hm := hfits.other m (h.mem_iff.mpr hm)

theorem content_perm {name : String} (hfits : Fits fields ms) (h : ms.Perm ms')
    (hk : isKnown fields name = true) : content ms name = content ms' name :=
  Option.ext fun v => by
    rw [content_eq_some_iff hfits hk, content_eq_some_iff (hfits.perm h) hk, h.mem_iff]

theorem readMembers_perm (hfields : Regular fields) (h : ms.Perm ms')
    (hr : readMembers fields [] (named ms) s = .ok s') : readMembers fields [] (named ms') s = .ok s' := by
  rw [readMembers_nil_iff hfields] at hr ⊢
  obtain ⟨hfits, hg⟩ := hr
  exact ⟨hfits.perm h, (gathers_congr fun f hf => content_perm hfits h (isKnown_of_mem hf)).mp hg⟩

/-- A member may as well stand first. -/
theorem readMembers_middle (hfields : Regular fields) (m : String × Tree)
    (before after : List (String × Tree)) :
    readMembers fields [] (named (before ++ m :: after)) s = .ok s' ↔
      readMembers fields [] (named (m :: (before ++ after))) s = .ok s' :=
  ⟨readMembers_perm hfields List.perm_middle, readMembers_perm hfields List.perm_middle.symm⟩

/-! ## Members that say what holds without them -/

/-- The fields still have the values that they have in `base`. -/
def Fresh (base : σ) (fs : List (RecordField σ)) (s : σ) : Prop :=
  ∀ f ∈ fs, ∀ v, f.IsDefault base v → f.IsDefault s v

theorem Fresh.rest (h : Fresh base (f :: fs) s) (hind : (f :: fs).Pairwise RecordField.Independent)
    (hr : f.read v s = .ok s') : Fresh base fs s' := fun g hg w hw =>
  ((List.pairwise_cons.mp hind).1 g hg).symm.keep (h g (List.mem_cons_of_mem _ hg) w hw) hr

/-- A member that says what holds without it can be left out. -/
theorem readMembers_remove (hfields : Regular fields) (hf : f ∈ fields) (hv : f.IsDefault s v)
    (hr : readMembers fields [] (named ((f.name, v) :: ms)) s = .ok s') :
    readMembers fields [] (named ms) s = .ok s' := by
  obtain ⟨-, s₁, hs₁, hr⟩ := (readMembers_cons_known hfields.names hf).mp hr
  rw [show f.read v s = .ok s from hv, Except.ok.injEq] at hs₁
  rw [readMembers_iff hfields, ← hs₁] at hr
  exact (readMembers_nil_iff hfields).mpr ⟨hr.1, hr.2.2⟩

/-- It can be added where it is missing. -/
theorem readMembers_add (hfields : Regular fields) (hf : f ∈ fields) (hv : f.IsDefault s v)
    (hn : f.name ∉ ms.map (·.1)) (hr : readMembers fields [] (named ms) s = .ok s') :
    readMembers fields [] (named ((f.name, v) :: ms)) s = .ok s' := by
  have hnew : ∀ name ∈ knownNames fields ms, name ∉ [f.name] := fun name hm he =>
    hn (List.mem_singleton.mp he ▸ (mem_knownNames.mp hm).1)
  obtain ⟨hfits, hg⟩ := (readMembers_nil_iff hfields).mp hr
  exact (readMembers_cons_known hfields.names hf).mpr
    ⟨List.not_mem_nil, s, hv, (readMembers_iff hfields _).mpr ⟨hfits, hnew, hg⟩⟩

/-- The list of the values of the fields, up to a place after which all hold without being given. -/
inductive Listed (given : String → Option Tree) (base : σ) : List (RecordField σ) → List Tree → Prop where
  | cut {fs : List (RecordField σ)} (h : ∀ f ∈ fs, ∀ v, given f.name = some v → f.IsDefault base v) :
      Listed given base fs []
  | given {f : RecordField σ} {fs : List (RecordField σ)} {v : Tree} {vs : List Tree}
      (h : given f.name = some v) (hr : Listed given base fs vs) : Listed given base (f :: fs) (v :: vs)
  | default {f : RecordField σ} {fs : List (RecordField σ)} {v : Tree} {vs : List Tree}
      (h : given f.name = none) (hv : f.IsDefault base v) (hr : Listed given base fs vs) :
      Listed given base (f :: fs) (v :: vs)

theorem gathers_default (hind : fs.Pairwise RecordField.Independent) (hfresh : Fresh base fs s)
    (h : ∀ f ∈ fs, ∀ v, given f.name = some v → f.IsDefault base v) (hg : Gathers given fs s s') : s = s' := by
  induction hg with
  | nil => rfl
  | skip hn hr ih =>
      exact ih (List.pairwise_cons.mp hind).2 (fun g hg => hfresh g (List.mem_cons_of_mem _ hg))
        fun g hg => h g (List.mem_cons_of_mem _ hg)
  | @field f fs s s₁ s' v hn hv hr ih =>
      have hs : s = s₁ := by
        have hdefault := hfresh f List.mem_cons_self v (h f List.mem_cons_self v hn)
        rw [RecordField.IsDefault, hv, Except.ok.injEq] at hdefault
        exact hdefault.symm
      subst hs
      exact ih (List.pairwise_cons.mp hind).2 (hfresh.rest hind hv) fun g hg => h g (List.mem_cons_of_mem _ hg)

/-- The items of this list. -/
def itemsOf (vs : List Tree) : Items := vs.foldr .item .close

theorem readItems_nil : readItems fs (itemsOf []) s = .ok s := by
  cases fs <;> rfl

theorem readItems_cons : readItems (f :: fs) (itemsOf (v :: vs)) s = .ok s' ↔
    ∃ s₁, f.read v s = .ok s₁ ∧ readItems fs (itemsOf vs) s₁ = .ok s' := by
  show readItems (f :: fs) (.item v (itemsOf vs)) s = .ok s' ↔ _
  rw [readItems]
  cases f.read v s <;> simp [bind, Except.bind]

/-- A record is read from the list of its values as from what is given for its fields. -/
theorem Listed.read (h : Listed given base fs vs) (hind : fs.Pairwise RecordField.Independent)
    (hfresh : Fresh base fs s) (hg : Gathers given fs s s') : readItems fs (itemsOf vs) s = .ok s' := by
  induction h generalizing s with
  | cut h => rw [readItems_nil, gathers_default hind hfresh h hg]
  | given h _ ih =>
      obtain ⟨s₁, hv, hr⟩ := (gathers_cons_some h).mp hg
      exact readItems_cons.mpr ⟨s₁, hv, ih (List.pairwise_cons.mp hind).2 (hfresh.rest hind hv) hr⟩
  | default h hv _ ih =>
      have hv := hfresh _ List.mem_cons_self _ hv
      have hr := (gathers_cons_none h).mp hg
      exact readItems_cons.mpr ⟨s, hv, ih (List.pairwise_cons.mp hind).2 (hfresh.rest hind hv) hr⟩

/-- A field may be given another value in a list if nobody can tell the two apart. -/
theorem readItems_change {before after : List Tree} {v' : Tree} (hf : fs[before.length]? = some f)
    (hv : ∀ s s', f.read v s = .ok s' → f.read v' s = .ok s')
    (hr : readItems fs (itemsOf (before ++ v :: after)) s = .ok s') :
    readItems fs (itemsOf (before ++ v' :: after)) s = .ok s' := by
  induction before generalizing fs s with
  | nil =>
      cases fs with
      | nil => cases hf
      | cons g fs =>
          cases hf
          obtain ⟨s₁, hs₁, hr⟩ := readItems_cons.mp hr
          exact readItems_cons.mpr ⟨s₁, hv _ _ hs₁, hr⟩
  | cons w before ih =>
      cases fs with
      | nil => cases hf
      | cons g fs =>
          obtain ⟨s₁, hs₁, hr⟩ := readItems_cons.mp hr
          exact readItems_cons.mpr ⟨s₁, hs₁, ih (by simpa using hf) hr⟩

end Record

end Swarmkeeper.Json
