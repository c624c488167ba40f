import Swarmkeeper.Proofs.Json.RoundTrip

/-!
# Codecs that keep values

A codec keeps a value if it writes a plain tree from which it reads that value. What is kept by the codecs of
the parts is kept by those of optional values, lists and records; of a record it is enough that its fields
have different names and together set everything. What every field preserves holds of any record that is read.
-/

namespace Swarmkeeper.Json

open Swarmkeeper.Text

namespace Codec

variable {α : Type} {c : Codec α} {x : α}

/-- A value is written as a plain tree, from which it is read again. -/
structure Keeps (c : Codec α) (x : α) : Prop where
  plain : (c.write x).IsPlain
  read : c.read (c.write x) = .ok x

/-- A value that is kept is read from the text that it is written as. -/
theorem Keeps.ofText (h : c.Keeps x) : c.ofText (c.toText x) = .ok x := by
  rw [Codec.ofText, toText, String.toList_ofList, ofChars, toChars, ofChars_toChars h.plain]
  simp only [h.read]
  rfl

/-! ## Single values -/

theorem keeps_bool (b : Bool) : bool.Keeps b := ⟨trivial, rfl⟩

theorem keeps_text (s : String) : text.Keeps s := ⟨⟨s, rfl⟩, rfl⟩

theorem keeps_path (s : String) : path.Keeps s := ⟨⟨s, rfl⟩, rfl⟩

theorem value_ofNat {n : Nat} (hn : n < 0x10000000000000000) :
    (Number.ofNat n).value = .ok (.natural n) := by
  have hv : digitsValue (Number.ofNat n).whole = n := digitsValue_decimal n
  rw [Number.value, hv, if_pos ⟨rfl, rfl⟩, if_pos ⟨rfl, hn⟩]

theorem readNatural_natural {n limit : Nat} (hn : n < limit) (hl : limit ≤ 0x10000000000000000)
    (expected : String) : readNatural limit expected (.natural n) = .ok n := by
  rw [Tree.natural, readNatural, value_ofNat (Nat.lt_of_lt_of_le hn hl)]
  exact if_pos hn

/-- Words of 64 bits are kept, whatever their type is called. -/
theorem keeps_natural64 (expected : String) (x : UInt64) :
    Keeps ⟨fun t => UInt64.ofNat <$> readNatural 0x10000000000000000 expected t,
      fun n => .natural n.toNat⟩ x where
  plain := ⟨x.toNat, rfl⟩
  read := by
    have h := readNatural_natural x.toNat_lt (Nat.le_refl _) expected
    exact (congrArg (UInt64.ofNat <$> ·) h).trans (congrArg Except.ok UInt64.ofNat_toNat)

theorem keeps_word64 (x : UInt64) : word64.Keeps x := keeps_natural64 "u64" x

theorem keeps_count (x : UInt64) : count.Keeps x := keeps_natural64 "usize" x

theorem keeps_word32 (x : UInt32) : word32.Keeps x where
  plain := ⟨x.toNat, rfl⟩
  read := by
    have h := readNatural_natural x.toNat_lt (by decide) "u32"
    exact (congrArg (UInt32.ofNat <$> ·) h).trans (congrArg Except.ok UInt32.ofNat_toNat)

theorem keeps_enumeration {variants : List (String × α)} {name : α → String}
    (h : variants.lookup (name x) = some x) : (enumeration variants name).Keeps x where
  plain := ⟨name x, rfl⟩
  read := by
    show variant variants (name x) = .ok x
    rw [variant, h]

/-! ## Optional values and lists -/

theorem keeps_none : c.optional.Keeps none := ⟨trivial, rfl⟩

/-- A value that is there is kept unless it is written as if it were not. -/
theorem Keeps.some (h : c.Keeps x) (hn : c.write x ≠ .null) : c.optional.Keeps (some x) where
  plain := h.plain
  read := by
    have hread (t : Tree) (ht : t ≠ .null) : c.optional.read t = Option.some <$> c.read t := by
      cases t with
      | null => exact absurd rfl ht
      | _ => rfl
    show c.optional.read (c.write x) = .ok (Option.some x)
    rw [hread _ hn, h.read]
    rfl

theorem keeps_optional (h : ∀ x, c.Keeps x) (hn : ∀ x, c.write x ≠ .null) (x : Option α) :
    c.optional.Keeps x := by
  cases x with
  | none => exact keeps_none
  | some x => exact (h x).some (hn x)

theorem keeps_optional_text (s : Option String) : text.optional.Keeps s :=
  keeps_optional keeps_text (by rintro _ ⟨⟩) s

theorem keeps_optional_path (s : Option String) : path.optional.Keeps s :=
  keeps_optional keeps_path (by rintro _ ⟨⟩) s

theorem keeps_optional_word64 (x : Option UInt64) : word64.optional.Keeps x :=
  keeps_optional keeps_word64 (by rintro _ ⟨⟩) x

theorem keeps_list {xs : List α} (h : ∀ x ∈ xs, c.Keeps x) : c.list.Keeps xs := by
  induction xs with
  | nil => exact ⟨trivial, rfl⟩
  | cons x xs ih =>
      have hx := h x List.mem_cons_self
      have hxs := ih fun y hy => h y (List.mem_cons_of_mem _ hy)
      refine ⟨⟨hx.plain, hxs.plain⟩, ?_⟩
      show readItems c (.item (c.write x) ((xs.map c.write).foldr .item .close)) = .ok (x :: xs)
      have hread : readItems c ((xs.map c.write).foldr .item .close) = .ok xs := hxs.read
      rw [readItems, hx.read, hread]
      rfl

end Codec

/-! ## Records -/

namespace Record

variable {σ : Type} {fields fs : List (RecordField σ)} {s b b' : σ}

/-- The members of a record. -/
def members (fields : List (RecordField σ)) (s : σ) : Members :=
  fields.foldr (fun f rest => .member (.ok f.name) (f.write s) rest) .close

theorem write_eq (fields : List (RecordField σ)) (s : σ) : write fields s = .object (members fields s) := by
  rw [write, Tree.ofMembers, members, List.foldr_map]

/-- Read from what `s` is written as, these fields turn one record into another. -/
inductive Carries (s : σ) : List (RecordField σ) → σ → σ → Prop where
  | nil (b : σ) : Carries s [] b b
  | cons {f : RecordField σ} {fs : List (RecordField σ)} {b b' b'' : σ} (hp : (f.write s).IsPlain)
      (hr : f.read (f.write s) b = .ok b') (h : Carries s fs b' b'') : Carries s (f :: fs) b b''

theorem Carries.of {α : Type} {name : String} {c : Codec α} {get : σ → α} {set : α → σ → σ}
    (hk : c.Keeps (get s)) (h : Carries s fs (set (get s) b) b') :
    Carries s (.of name c get set :: fs) b b' := by
  refine .cons hk.plain ?_ h
  show (do let x ← c.read (c.write (get s)); Except.ok (set x b)) = .ok (set (get s) b)
  rw [hk.read]
  rfl

theorem Carries.plain (h : Carries s fs b b') : (members fs s).IsPlain := by
  induction h with
  | nil => exact trivial
  | cons hp _ _ ih => exact ⟨⟨_, rfl⟩, hp, ih⟩

theorem find?_name (hn : (fields.map (·.name)).Nodup) {f : RecordField σ} (hf : f ∈ fields) :
    fields.find? (·.name = f.name) = some f := by
  induction fields with
  | nil => cases hf
  | cons g fields ih =>
      rw [List.map_cons, List.nodup_cons] at hn
      rcases List.mem_cons.mp hf with rfl | hf
      · simp
      · have hne : g.name ≠ f.name := fun h => hn.1 (h ▸ List.mem_map_of_mem hf)
        rw [List.find?_cons_of_neg (by simpa using hne), ih hn.2 hf]

theorem readMembers_members {seen : List String} (h : Carries s fs b b')
    (hfields : (fields.map (·.name)).Nodup) (hsub : ∀ f ∈ fs, f ∈ fields) (hn : (fs.map (·.name)).Nodup)
    (hseen : ∀ f ∈ fs, f.name ∉ seen) : readMembers fields seen (members fs s) b = .ok b' := by
  induction h generalizing seen with
  | nil => rfl
  | @cons f fs b b' b'' hp hr h ih =>
      rw [List.map_cons, List.nodup_cons] at hn
      -- the fields that are left are still unseen, as all names are different
      have hseen' : ∀ g ∈ fs, g.name ∉ f.name :: seen := fun g hg hgs => by
        rcases List.mem_cons.mp hgs with he | hgs
        · exact hn.1 (he ▸ List.mem_map_of_mem hg)
        · exact hseen g (List.mem_cons_of_mem _ hg) hgs
      have ih := ih (fun g hg => hsub g (List.mem_cons_of_mem _ hg)) hn.2 hseen'
      show readMembers fields seen (.member (.ok f.name) (f.write s) (members fs s)) b = .ok b''
      have hkey : malformed (.ok f.name) = .ok f.name := rfl
      rw [readMembers, hkey]
      simp only [bind, Except.bind, find?_name hfields (hsub f List.mem_cons_self),
        if_neg (hseen f List.mem_cons_self), hr]
      exact ih

/-- Records are kept if their fields have different names and together set everything. -/
theorem keeps {name : String} {base : σ} (hn : (fields.map (·.name)).Nodup)
    (h : Carries s fields base s) : (codec name fields base).Keeps s where
  plain := by
    show (write fields s).IsPlain
    rw [write_eq]
    exact h.plain
  read := by
    show (codec name fields base).read (write fields s) = .ok s
    rw [write_eq]
    exact readMembers_members h hn (fun _ => id) hn (fun _ _ => List.not_mem_nil)

end Record

/-! ## What is read -/

theorem exists_of_bind {ε α β : Type} {x : Except ε α} {f : α → Except ε β} {b : β} (h : x >>= f = .ok b) :
    ∃ a, x = .ok a ∧ f a = .ok b := by
  cases x with
  | error e => cases h
  | ok a => exact ⟨a, rfl, h⟩

section

variable {σ α : Type} {fields : List (RecordField σ)} {P : σ → Prop} {s s' : σ}

/-- Whatever the field is read from, what held of the record still holds. -/
def RecordField.Preserves (f : RecordField σ) (P : σ → Prop) : Prop :=
  ∀ v s s', P s → f.read v s = .ok s' → P s'

theorem RecordField.preserves_of {name : String} {c : Codec α} {get : σ → α} {set : α → σ → σ}
    (h : ∀ v x s, c.read v = .ok x → P s → P (set x s)) : (of name c get set).Preserves P := by
  intro v s s' hs hr
  obtain ⟨x, hx, hset⟩ := exists_of_bind hr
  cases hset
  exact h v x s hx hs

namespace Record

theorem holds_of_readMembers (hf : ∀ f ∈ fields, f.Preserves P) :
    (members : Members) → (seen : List String) → (s : σ) → P s →
      readMembers fields seen members s = .ok s' → P s'
  | .close, _, s, hs, h => by
      cases h
      exact hs
  | .member key value rest, seen, s, hs, h => by
      rw [readMembers] at h
      obtain ⟨name, -, h⟩ := exists_of_bind h
      split at h
      · obtain ⟨_, -, h⟩ := exists_of_bind h
        exact holds_of_readMembers hf rest seen s hs h
      · rename_i f hfind
        split at h
        · cases h
        · obtain ⟨s₁, hs₁, h⟩ := exists_of_bind h
          have hp := hf f (List.mem_of_find?_eq_some hfind) value s s₁ hs hs₁
          exact holds_of_readMembers hf rest (name :: seen) s₁ hp h
  | .bare key fault, seen, s, hs, h => by
      rw [readMembers] at h
      obtain ⟨_, -, h⟩ := exists_of_bind h
      split at h <;> cases h
  | .stray _, _, _, _, h => by cases h
  | .broken .., _, _, _, h => by cases h

theorem holds_of_readItems : (fields : List (RecordField σ)) → (∀ f ∈ fields, f.Preserves P) →
    (items : Items) → (s : σ) → P s → readItems fields items s = .ok s' → P s'
  | fields, _, .close, s, hs, h => by
      rw [readItems] at h
      cases h
      exact hs
  | f :: fields, hf, .item value rest, s, hs, h => by
      rw [readItems] at h
      obtain ⟨s₁, hs₁, h⟩ := exists_of_bind h
      exact holds_of_readItems fields (fun g hg => hf g (List.mem_cons_of_mem _ hg)) rest s₁
        (hf f List.mem_cons_self value s s₁ hs hs₁) h
  | _ :: _, _, .broken .., _, _, h => by cases h
  | [], _, .broken .., _, _, h => by cases h
  | [], _, .item .., _, _, h => by cases h

/-- What holds without any field, and is preserved by all of them, holds of every record that is read. -/
theorem holds_of_read {name : String} {base : σ} {t : Tree} (hf : ∀ f ∈ fields, f.Preserves P)
    (hbase : P base) (h : (codec name fields base).read t = .ok s) : P s := by
  cases t with
  | object members => exact holds_of_readMembers hf members [] base hbase h
  | list items => exact holds_of_readItems fields hf items base hbase h
  | string x => cases x <;> cases h
  | number n =>
      obtain ⟨_, -, h⟩ := exists_of_bind h
      cases h
  | null | bool _ | gap _ => cases h

end Record

end

end Swarmkeeper.Json
