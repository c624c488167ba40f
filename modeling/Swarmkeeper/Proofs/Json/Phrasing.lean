import Swarmkeeper.Proofs.Json.Content

/-!
# Changes that make no difference

One thing may be said in several ways. A value that is skipped, or kept without being looked at, may be any
other that passes. A record may have its members in any order, besides members that nobody asks for, with or
without those that say what holds anyway, and it may be the list of the values of its fields.
-/

namespace Swarmkeeper.Json

/-! ## Values that nobody looks into -/

/-- The object of these members, whose keys may be faulty. -/
def Tree.ofLiterals (ms : List (Literal × Tree)) : Tree :=
  .object (ms.foldr (fun (key, value) rest => .member key value rest) .close)

/-- A change inside a value, `depth` levels above the deepest that may be there: members of an object are
reordered, or there is one more of those that may be there. -/
inductive Inside (may : Nat → Literal × Tree → Prop) : Nat → Tree → Tree → Prop where
  | reorder {depth : Nat} {ms ms' : List (Literal × Tree)} (h : ms.Perm ms') :
      Inside may depth (.ofLiterals ms) (.ofLiterals ms')
  | insert {depth : Nat} {before after : List (Literal × Tree)} {m : Literal × Tree} (h : may (depth - 1) m) :
      Inside may depth (.ofLiterals (before ++ after)) (.ofLiterals (before ++ m :: after))
  | member {depth : Nat} {before after : List (Literal × Tree)} {key : Literal} {v v' : Tree}
      (h : Inside may (depth - 1) v v') :
      Inside may depth (.ofLiterals (before ++ (key, v) :: after)) (.ofLiterals (before ++ (key, v') :: after))
  | item {depth : Nat} {before after : List Tree} {v v' : Tree} (h : Inside may (depth - 1) v v') :
      Inside may depth (.ofList (before ++ v :: after)) (.ofList (before ++ v' :: after))

/-- A value passes if there is room for it and all of its parts do. -/
structure Partwise (room : Nat → Prop) (may : Nat → Literal × Tree → Prop) (pass : Nat → Tree → Prop) :
    Prop where
  object : ∀ depth ms, pass depth (.ofLiterals ms) ↔ room depth ∧ ∀ m ∈ ms, may (depth - 1) m
  list : ∀ depth vs, pass depth (.ofList vs) ↔ room depth ∧ ∀ v ∈ vs, pass (depth - 1) v
  member : ∀ depth key v v', (pass depth v → pass depth v') → may depth (key, v) → may depth (key, v')

theorem Partwise.inside {room : Nat → Prop} {may : Nat → Literal × Tree → Prop} {pass : Nat → Tree → Prop}
    (hp : Partwise room may pass) {depth : Nat} {t t' : Tree} (h : Inside may depth t t')
    (ht : pass depth t) : pass depth t' := by
  induction h with
  | reorder h =>
      rw [hp.object] at ht ⊢
      exact ⟨ht.1, fun m hm => ht.2 m (h.mem_iff.mpr hm)⟩
  | insert h =>
      simp only [hp.object, List.forall_mem_append, List.forall_mem_cons] at ht ⊢
      exact ⟨ht.1, ht.2.1, h, ht.2.2⟩
  | member h ih =>
      simp only [hp.object, List.forall_mem_append, List.forall_mem_cons] at ht ⊢
      exact ⟨ht.1, ht.2.1, hp.member _ _ _ _ ih ht.2.2.1, ht.2.2.2⟩
  | item h ih =>
      simp only [hp.list, List.forall_mem_append, List.forall_mem_cons] at ht ⊢
      exact ⟨ht.1, ht.2.1, ih ht.2.2.1, ht.2.2.2⟩

theorem partwise_skip :
    Partwise (fun _ => True) (fun _ m => m.2.skip = .ok ()) (fun _ t => t.skip = .ok ()) where
  object _ ms := by
    show Members.skip (ms.foldr (fun (key, value) rest => .member key value rest) .close) = .ok () ↔ _
    induction ms with
    | nil => simp [Members.skip]
    | cons m ms ih =>
        simp only [List.foldr, Members.skip, List.forall_mem_cons]
        cases m.2.skip <;> simp [bind, Except.bind, ih]
  list _ vs := by
    show Items.skip (vs.foldr .item .close) = .ok () ↔ _
    induction vs with
    | nil => simp [Items.skip]
    | cons v vs ih =>
        simp only [List.foldr, Items.skip, List.forall_mem_cons]
        cases v.skip <;> simp [bind, Except.bind, ih]
  member _ _ _ _ h := h

theorem keep_ofLiterals (depth : Nat) (ms : List (Literal × Tree)) :
    Members.keep depth (ms.foldr (fun (key, value) rest => .member key value rest) .close) = .ok () ↔
      ∀ m ∈ ms, m.1.isOk ∧ m.2.keep depth = .ok () := by
  induction ms with
  | nil => simp [Members.keep]
  | cons m ms ih =>
      obtain ⟨key, v⟩ := m
      simp only [List.foldr, Members.keep, List.forall_mem_cons]
      cases key with
      | error f => simp [bind, Except.bind, Except.isOk, Except.toBool]
      | ok name => cases v.keep depth <;> simp [bind, Except.bind, Except.isOk, Except.toBool, ih]

theorem keep_ofList (depth : Nat) (vs : List Tree) :
    Items.keep depth (vs.foldr .item .close) = .ok () ↔ ∀ v ∈ vs, v.keep depth = .ok () := by
  induction vs with
  | nil => simp [Items.keep]
  | cons v vs ih =>
      simp only [List.foldr, Items.keep, List.forall_mem_cons]
      cases v.keep depth <;> simp [bind, Except.bind, ih]

theorem partwise_keep : Partwise (fun depth => 1 < depth)
    (fun depth m => m.1.isOk ∧ m.2.keep depth = .ok ()) (fun depth t => t.keep depth = .ok ()) where
  object depth ms := by
    rw [Tree.ofLiterals, Tree.keep]
    split
    · simp [Nat.not_lt.mpr ‹_›]
    · simp [keep_ofLiterals, Nat.not_le.mp ‹_›]
  list depth vs := by
    rw [Tree.ofList, Tree.keep]
    split
    · simp [Nat.not_lt.mpr ‹_›]
    · simp [keep_ofList, Nat.not_le.mp ‹_›]
  member _ _ _ _ h := And.imp_right h

mutual
/-- What can be kept can be skipped. -/
theorem Tree.skip_of_keep : (depth : Nat) → (t : Tree) → t.keep depth = .ok () → t.skip = .ok ()
  | _, .null, _ | _, .bool _, _ | _, .number _, _ | _, .string _, _ => rfl
  | depth, .list items, h => by
      rw [Tree.keep] at h
      split at h
      · cases h
      · exact Items.skip_of_keep _ items h
  | depth, .object members, h => by
      rw [Tree.keep] at h
      split at h
      · cases h
      · exact Members.skip_of_keep _ members h
  | _, .gap _, h => by cases h

theorem Items.skip_of_keep : (depth : Nat) → (items : Items) → items.keep depth = .ok () → items.skip = .ok ()
  | _, .close, _ => rfl
  | depth, .item value rest, h => by
      rw [Items.keep] at h
      cases hv : value.keep depth with
      | error f => simp [hv, bind, Except.bind] at h
      | ok u =>
          rw [hv] at h
          rw [Items.skip, Tree.skip_of_keep depth value hv]
          exact Items.skip_of_keep depth rest h
  | _, .broken .., h => by cases h

theorem Members.skip_of_keep :
    (depth : Nat) → (members : Members) → members.keep depth = .ok () → members.skip = .ok ()
  | _, .close, _ => rfl
  | depth, .member key value rest, h => by
      rw [Members.keep] at h
      cases key with
      | error f => cases h
      | ok name =>
          cases hv : value.keep depth with
          | error f => simp [hv, bind, Except.bind] at h
          | ok u =>
              rw [hv] at h
              rw [Members.skip, Tree.skip_of_keep depth value hv]
              exact Members.skip_of_keep depth rest h
  | _, .bare key _, h => by cases key <;> cases h
  | _, .stray _, h => by cases h
  | _, .broken .., h => by cases h
end

/-- A change inside a value that is skipped. -/
def Skipped (t t' : Tree) : Prop := Inside (fun _ m => m.2.skip = .ok ()) 0 t t'

/-- A change inside a value that is kept, `depth` levels above the deepest that can be. -/
def Kept (depth : Nat) (t t' : Tree) : Prop :=
  Inside (fun depth m => m.1.isOk ∧ m.2.keep depth = .ok ()) depth t t'

theorem Skipped.skip {t t' : Tree} (h : Skipped t t') (ht : t.skip = .ok ()) : t'.skip = .ok () :=
  partwise_skip.inside h ht

theorem Inside.object_or_list {may : Nat → Literal × Tree → Prop} {depth : Nat} {t t' : Tree}
    (h : Inside may depth t t') : (∃ members, t = .object members) ∨ ∃ items, t = .list items := by
  cases h with
  | reorder | insert | member => exact .inl ⟨_, rfl⟩
  | item => exact .inr ⟨_, rfl⟩

/-- What may be done inside a value that is kept may be done inside one that is skipped. -/
theorem Kept.skipped {depth : Nat} {t t' : Tree} (h : Kept depth t t') : Skipped t t' := by
  suffices ∀ depth', Inside (fun _ m => m.2.skip = .ok ()) depth' t t' from this 0
  induction h with
  | reorder h => exact fun _ => .reorder h
  | insert h => exact fun _ => .insert (Tree.skip_of_keep _ _ h.2)
  | member _ ih => exact fun _ => .member (ih _)
  | item _ ih => exact fun _ => .item (ih _)

theorem Kept.keep {depth : Nat} {t t' : Tree} (h : Kept depth t t') (ht : t.keep depth = .ok ()) :
    t'.keep depth = .ok () := partwise_keep.inside h ht

/-! ## Readers that cannot tell -/

section

variable {α σ : Type} {c : Codec α} {change : Tree → Tree → Prop}

/-- What is read is read from what it becomes by such a change, too. -/
def Codec.Respects (c : Codec α) (change : Tree → Tree → Prop) : Prop :=
  ∀ t t' x, change t t' → c.read t = .ok x → c.read t' = .ok x

/-- What is read of a field is read from what it becomes by such a change, too. -/
def RecordField.Respects (f : RecordField σ) (change : Tree → Tree → Prop) : Prop :=
  ∀ v v' s s', change v v' → f.read v s = .ok s' → f.read v' s = .ok s'

theorem RecordField.respects_of {name : String} {get : σ → α} {set : α → σ → σ} (h : c.Respects change) :
    (RecordField.of name c get set).Respects change := by
  intro v v' s s' hchange hr
  obtain ⟨x, hx, hs⟩ := read_of.mp hr
  exact read_of.mpr ⟨x, h v v' x hchange hx, hs⟩

/-- There is no change. -/
def Unchanged (_ _ : Tree) : Prop := False

theorem RecordField.respects_unchanged (f : RecordField σ) : f.Respects Unchanged := fun _ _ _ _ h => h.elim

/-- A change of one item of a list. -/
inductive OfItem (change : Tree → Tree → Prop) : Tree → Tree → Prop where
  | item {before after : List Tree} {v v' : Tree} (h : change v v') :
      OfItem change (.ofList (before ++ v :: after)) (.ofList (before ++ v' :: after))

theorem Codec.readItems_cons {v : Tree} {vs : List Tree} {xs : List α} :
    readItems c ((v :: vs).foldr .item .close) = .ok xs ↔
      ∃ y ys, c.read v = .ok y ∧ readItems c (vs.foldr .item .close) = .ok ys ∧ y :: ys = xs := by
  simp only [List.foldr, readItems]
  cases c.read v <;> cases readItems c (vs.foldr .item .close) <;> simp [bind, Except.bind]

theorem Codec.Respects.list (h : c.Respects change) : c.list.Respects (OfItem change) := by
  rintro _ _ xs ⟨hchange⟩ hr
  rename_i before after v v'
  change readItems c ((before ++ v :: after).foldr .item .close) = .ok xs at hr
  show readItems c ((before ++ v' :: after).foldr .item .close) = .ok xs
  induction before generalizing xs with
  | nil =>
      obtain ⟨y, ys, hy, hys, rfl⟩ := readItems_cons.mp hr
      exact readItems_cons.mpr ⟨y, ys, h v v' y hchange hy, hys, rfl⟩
  | cons w before ih =>
      obtain ⟨y, ys, hy, hys, rfl⟩ := readItems_cons.mp hr
      exact readItems_cons.mpr ⟨y, ys, hy, ih ys hys, rfl⟩

end

/-! ## Records -/

namespace Record

variable {σ : Type} {fields : List (RecordField σ)} {inner : String → Tree → Tree → Prop} {base : σ}

/-- A change of what a record is read from. Inside the value of a field such changes are made as are meant for
its name. -/
inductive Change (fields : List (RecordField σ)) (inner : String → Tree → Tree → Prop) (base : σ) :
    Tree → Tree → Prop where
  | reorder {ms ms' : List (String × Tree)} (h : ms.Perm ms') :
      Change fields inner base (.ofMembers ms) (.ofMembers ms')
  /-- There is a member of another name than the fields have. -/
  | insert {before after : List (String × Tree)} {name : String} {v : Tree}
      (hn : isKnown fields name = false) (hv : v.skip = .ok ()) :
      Change fields inner base (.ofMembers (before ++ after)) (.ofMembers (before ++ (name, v) :: after))
  | unread {before after : List (String × Tree)} {name : String} {v v' : Tree}
      (hn : isKnown fields name = false) (h : Skipped v v') :
      Change fields inner base (.ofMembers (before ++ (name, v) :: after))
        (.ofMembers (before ++ (name, v') :: after))
  | field {before after : List (String × Tree)} {f : RecordField σ} {v v' : Tree} (hf : f ∈ fields)
      (h : inner f.name v v') :
      Change fields inner base (.ofMembers (before ++ (f.name, v) :: after))
        (.ofMembers (before ++ (f.name, v') :: after))
  /-- A member that says what holds without it is removed. -/
  | remove {before after : List (String × Tree)} {f : RecordField σ} {v : Tree} (hf : f ∈ fields)
      (hv : f.IsDefault base v) :
      Change fields inner base (.ofMembers (before ++ (f.name, v) :: after)) (.ofMembers (before ++ after))
  /-- It is added where it is missing. -/
  | add {before after : List (String × Tree)} {f : RecordField σ} {v : Tree} (hf : f ∈ fields)
      (hv : f.IsDefault base v) (hn : f.name ∉ (before ++ after).map (·.1)) :
      Change fields inner base (.ofMembers (before ++ after)) (.ofMembers (before ++ (f.name, v) :: after))
  /-- The object becomes the list of the values. -/
  | list {ms : List (String × Tree)} {vs : List Tree} (h : Listed (content ms) base fields vs) :
      Change fields inner base (.ofMembers ms) (.ofList vs)
  | item {before after : List Tree} {f : RecordField σ} {v v' : Tree} (hf : fields[before.length]? = some f)
      (h : inner f.name v v') :
      Change fields inner base (.ofList (before ++ v :: after)) (.ofList (before ++ v' :: after))

theorem respects (name : String) (hfields : Regular fields)
    (hinner : ∀ f ∈ fields, f.Respects (inner f.name)) :
    (codec name fields base).Respects (Change fields inner base) := by
  intro t t' s h hr
  cases h with
  | reorder h => exact readMembers_perm hfields h hr
  | insert hn hv =>
      exact (readMembers_middle hfields _ _ _).mpr ((readMembers_cons_other hn).mpr ⟨hv, hr⟩)
  | unread hn h =>
      obtain ⟨hv, hr⟩ := (readMembers_cons_other hn).mp ((readMembers_middle hfields _ _ _).mp hr)
      exact (readMembers_middle hfields _ _ _).mpr ((readMembers_cons_other hn).mpr ⟨h.skip hv, hr⟩)
  | field hf h =>
      obtain ⟨hseen, s₁, hs₁, hr⟩ :=
        (readMembers_cons_known hfields.names hf).mp ((readMembers_middle hfields _ _ _).mp hr)
      exact (readMembers_middle hfields _ _ _).mpr ((readMembers_cons_known hfields.names hf).mpr
        ⟨hseen, s₁, hinner _ hf _ _ _ _ h hs₁, hr⟩)
  | remove hf hv => exact readMembers_remove hfields hf hv ((readMembers_middle hfields _ _ _).mp hr)
  | add hf hv hn => exact (readMembers_middle hfields _ _ _).mpr (readMembers_add hfields hf hv hn hr)
  | list h =>
      exact h.read hfields.independent (fun _ _ _ => id) ((readMembers_nil_iff hfields).mp hr).2
  | item hf h => exact readItems_change hf (fun s s' => hinner _ (List.mem_of_getElem? hf) _ _ s s' h) hr

end Record

end Swarmkeeper.Json
