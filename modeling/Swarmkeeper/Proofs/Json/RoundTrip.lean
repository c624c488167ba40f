import Swarmkeeper.Proofs.Json.Literal

/-!
# Trees are read as they are written

A tree that breaks off nowhere and whose numbers are natural is written as a text that is read as this tree
again. The induction is over the tree and its lists, for any text that may follow and any fuel that is worth
three steps a character.
-/

namespace Swarmkeeper.Json

open Swarmkeeper.Text

deriving instance DecidableEq for Tree, Items, Members

/-! ## Plain trees -/

mutual
/-- The tree breaks off nowhere, its literals can be read, and its numbers are natural. -/
def Tree.IsPlain : Tree → Prop
  | .null | .bool _ => True
  | .number n => ∃ k, n = .ofNat k
  | .string s => ∃ t, s = .ok t
  | .list items => items.IsPlain
  | .object members => members.IsPlain
  | .gap _ => False

/-- The list breaks off nowhere, and its items are plain. -/
def Items.IsPlain : Items → Prop
  | .close => True
  | .item value rest => value.IsPlain ∧ rest.IsPlain
  | .broken .. => False

/-- The object breaks off nowhere, and its members are plain. -/
def Members.IsPlain : Members → Prop
  | .close => True
  | .member key value rest => (∃ t, key = .ok t) ∧ value.IsPlain ∧ rest.IsPlain
  | .bare .. | .stray _ | .broken .. => False
end

namespace Reader

variable {rest : List Char}

/-! ## Where a value begins and ends -/

/-- A text that begins with neither space nor a closing bracket. -/
inductive Begins : List Char → Prop where
  | cons {c : Char} {cs : List Char} (hs : isSpace c = false) (hl : c ≠ ']') (ho : c ≠ '}') :
      Begins (c :: cs)

theorem Begins.append {cs : List Char} (h : Begins cs) (more : List Char) : Begins (cs ++ more) := by
  cases h with
  | cons hs hl ho => exact .cons hs hl ho

theorem Begins.ne_nil {cs : List Char} (h : Begins cs) : cs ≠ [] := by
  cases h with
  | cons => exact List.cons_ne_nil _ _

theorem Begins.skipSpace {cs : List Char} (h : Begins cs) : skipSpace cs = cs := by
  cases h with
  | cons hs => simp [Reader.skipSpace, hs]

/-- A digit is none of the characters that have a meaning of their own in front of a value. -/
theorem ne_of_isDigit {c : Char} (hc : (digitValue? c).isSome = true) {x : Char}
    (hx : (digitValue? x).isSome = false) : c ≠ x := by
  rintro rfl
  rw [hc] at hx
  cases hx

theorem exists_decimal (n : Nat) : ∃ c cs, decimal n = c :: cs ∧ (digitValue? c).isSome = true := by
  obtain ⟨c, cs, h⟩ := List.exists_cons_of_ne_nil (decimal_ne_nil n)
  exact ⟨c, cs, h, digitValue?_of_mem_decimal (h ▸ List.mem_cons_self)⟩

theorem begins_of_isDigit {c : Char} (hc : (digitValue? c).isSome = true) (cs : List Char) :
    Begins (c :: cs) := by
  have hne {x : Char} (hx : (digitValue? x).isSome = false) : c ≠ x := ne_of_isDigit hc hx
  refine .cons ?_ (hne rfl) (hne rfl)
  simp [isSpace, hne (x := ' ') rfl, hne (x := '\n') rfl, hne (x := '\t') rfl, hne (x := '\r') rfl]

theorem begins_toChars {t : Tree} (h : t.IsPlain) : Begins t.toChars := by
  match t, h with
  | .null, _ => exact .cons rfl (by decide) (by decide)
  | .bool true, _ | .bool false, _ => exact .cons rfl (by decide) (by decide)
  | .number _, ⟨n, rfl⟩ =>
      obtain ⟨c, cs, hd, hc⟩ := exists_decimal n
      rw [Tree.toChars, toChars_ofNat, hd]
      exact begins_of_isDigit hc cs
  | .string _, ⟨s, rfl⟩ => exact .cons rfl (by decide) (by decide)
  | .list _, _ | .object _, _ => exact .cons rfl (by decide) (by decide)

theorem ends_items {items : Items} (h : items.IsPlain) (rest : List Char) :
    Ends (items.toChars false ++ rest) := by
  cases items with
  | close => rintro _ ⟨⟩; exact .inr (.inl rfl)
  | item => rintro _ ⟨⟩; exact .inl rfl
  | broken => exact h.elim

theorem ends_members {members : Members} (h : members.IsPlain) (rest : List Char) :
    Ends (members.toChars false ++ rest) := by
  cases members with
  | close => rintro _ ⟨⟩; exact .inr (.inr rfl)
  | member => rintro _ ⟨⟩; exact .inl rfl
  | bare | stray | broken => exact h.elim

theorem length_items_pos {items : Items} (h : items.IsPlain) : 0 < (items.toChars false).length := by
  cases items with
  | close | item => simp [Items.toChars]
  | broken => exact h.elim

theorem length_members_pos {members : Members} (h : members.IsPlain) :
    0 < (members.toChars false).length := by
  cases members with
  | close | member => simp [Members.toChars]
  | bare | stray | broken => exact h.elim

theorem begins_literal (s : String) (cs : List Char) : Begins (literalChars s ++ cs) :=
  .cons rfl (by decide) (by decide)

/-! ## One step of the reader -/

theorem readTree_digit {c : Char} (hc : (digitValue? c).isSome = true) (fuel : Nat) (cs : List Char) :
    readTree (fuel + 1) (c :: cs) = readNumberTree false (c :: cs) := by
  rw [readTree, (begins_of_isDigit hc cs).skipSpace]
  split
  case h_1 h => cases h
  case h_9 h =>
    obtain ⟨rfl, rfl⟩ := List.cons.inj h
    rw [if_pos hc]
  -- every other case has a character in front that is no digit
  all_goals
    rename_i h
    obtain ⟨rfl, -⟩ := List.cons.inj h
    exact absurd hc (by decide)

theorem readTree_decimal (n fuel : Nat) (hr : Ends rest) :
    readTree (fuel + 1) (decimal n ++ rest) = (.natural n, rest) := by
  obtain ⟨c, cs, hd, hc⟩ := exists_decimal n
  rw [← readNumberTree_decimal n hr, hd, List.cons_append, readTree_digit hc]

theorem readItems_begins (first : Bool) (fuel : Nat) {cs : List Char} (h : Begins cs) :
    readItems (fuel + 1) first ((if first then [] else [',']) ++ cs) = readItem fuel cs := by
  cases h with
  | @cons c cs hs hl ho =>
    have hskip : skipSpace (c :: cs) = c :: cs := (Begins.cons hs hl ho).skipSpace
    cases first with
    | true =>
        rw [if_pos rfl, List.nil_append, readItems, hskip]
        split
        case h_1 h => cases h
        case h_2 h => exact absurd (List.cons.inj h).1 hl
        case h_3 h =>
          obtain ⟨rfl, rfl⟩ := List.cons.inj h
          rfl
    | false =>
        have hcomma : skipSpace (',' :: c :: cs) = ',' :: c :: cs := rfl
        rw [if_neg Bool.false_ne_true, List.singleton_append, readItems, hcomma]
        split
        case h_1 h => cases h
        case h_2 h => exact absurd (List.cons.inj h).1 (by decide)
        case h_3 h =>
          obtain ⟨rfl, rfl⟩ := List.cons.inj h
          rw [if_neg Bool.false_ne_true, if_pos rfl, hskip]
          split
          case h_1 h => cases h
          case h_2 h => exact absurd (List.cons.inj h).1 hl
          case h_3 => rfl

theorem readMembers_begins (first : Bool) (fuel : Nat) {cs : List Char} (h : Begins cs) :
    readMembers (fuel + 1) first ((if first then [] else [',']) ++ cs) = readMember fuel cs := by
  cases h with
  | @cons c cs hs hl ho =>
    have hskip : skipSpace (c :: cs) = c :: cs := (Begins.cons hs hl ho).skipSpace
    cases first with
    | true =>
        rw [if_pos rfl, List.nil_append, readMembers, hskip]
        split
        case h_1 h => cases h
        case h_2 h => exact absurd (List.cons.inj h).1 ho
        case h_3 h =>
          obtain ⟨rfl, rfl⟩ := List.cons.inj h
          rfl
    | false =>
        have hcomma : skipSpace (',' :: c :: cs) = ',' :: c :: cs := rfl
        rw [if_neg Bool.false_ne_true, List.singleton_append, readMembers, hcomma]
        split
        case h_1 h => cases h
        case h_2 h => exact absurd (List.cons.inj h).1 (by decide)
        case h_3 h =>
          obtain ⟨rfl, rfl⟩ := List.cons.inj h
          rw [if_neg Bool.false_ne_true, if_pos rfl, hskip]
          split
          case h_1 h => cases h
          case h_2 h => exact absurd (List.cons.inj h).1 ho
          case h_3 => rfl

theorem literalChars_append (s : String) (cs : List Char) :
    literalChars s ++ cs = '"' :: (s.toList.flatMap Json.escapeChar ++ '"' :: cs) := by
  simp [literalChars]

theorem readTree_literal (s : String) (fuel : Nat) (rest : List Char) :
    readTree (fuel + 1) (literalChars s ++ rest) = (.text s, rest) := by
  have hskip (cs : List Char) : skipSpace ('"' :: cs) = '"' :: cs := rfl
  rw [literalChars_append, readTree, hskip]
  simp only [readLiteral_flatMap]
  rfl

theorem readMember_literal (s : String) (fuel : Nat) (cs : List Char) :
    readMember (fuel + 1) (literalChars s ++ ':' :: cs) =
      (.member (.ok s) (readTree fuel cs).1 (readMembers fuel false (readTree fuel cs).2).1,
        (readMembers fuel false (readTree fuel cs).2).2) := by
  have hskip : skipSpace (':' :: cs) = ':' :: cs := rfl
  rw [literalChars_append, readMember, readLiteral_flatMap]
  simp only [hskip]

/-! ## Trees -/

mutual
/-- A plain tree is read as it is written, whatever follows. -/
theorem readTree_toChars : ∀ {t : Tree} (_ : t.IsPlain) {fuel : Nat} {rest : List Char}
    (_ : 3 * t.toChars.length ≤ fuel) (_ : Ends rest), readTree fuel (t.toChars ++ rest) = (t, rest)
  | t, ht, 0, rest, hf, hr => by
      cases (begins_toChars ht).ne_nil (List.length_eq_zero_iff.mp (by omega))
  | .null, _, fuel + 1, rest, _, _ => rfl
  | .bool true, _, fuel + 1, rest, _, _ => rfl
  | .bool false, _, fuel + 1, rest, _, _ => rfl
  | .number _, ⟨n, rfl⟩, fuel + 1, rest, _, hr => by
      rw [Tree.toChars, toChars_ofNat]
      exact readTree_decimal n fuel hr
  | .string _, ⟨s, rfl⟩, fuel + 1, rest, _, _ => readTree_literal s fuel rest
  | .list items, ht, fuel + 1, rest, hf, hr => by
      have hskip (cs : List Char) : skipSpace ('[' :: cs) = '[' :: cs := rfl
      rw [Tree.toChars, List.length_cons] at hf
      have hread : readItems fuel true (items.toChars true ++ rest) = (items, rest) :=
        readItems_toChars ht true (by omega)
      rw [Tree.toChars, List.cons_append, readTree, hskip]
      simp only [hread]
  | .object members, ht, fuel + 1, rest, hf, hr => by
      have hskip (cs : List Char) : skipSpace ('{' :: cs) = '{' :: cs := rfl
      rw [Tree.toChars, List.length_cons] at hf
      have hread : readMembers fuel true (members.toChars true ++ rest) = (members, rest) :=
        readMembers_toChars ht true (by omega)
      rw [Tree.toChars, List.cons_append, readTree, hskip]
      simp only [hread]

theorem readItems_toChars : ∀ {items : Items} (_ : items.IsPlain) (first : Bool) {fuel : Nat}
    {rest : List Char} (_ : 3 * (items.toChars first).length ≤ fuel),
    readItems fuel first (items.toChars first ++ rest) = (items, rest)
  | .close, _, first, 0, rest, hf => by simp [Items.toChars] at hf
  | .close, _, first, fuel + 1, rest, hf => rfl
  | .item value more, ⟨hv, hm⟩, first, fuel, rest, hf => by
      have hpos := List.length_pos_of_ne_nil (begins_toChars hv).ne_nil
      have hpos' := length_items_pos hm
      simp only [Items.toChars, List.length_append] at hf
      -- two steps lead to the value, and it has a character at least
      obtain ⟨fuel, rfl⟩ : ∃ n, fuel = n + 2 := ⟨fuel - 2, by omega⟩
      have hvalue : readTree fuel (value.toChars ++ (more.toChars false ++ rest)) =
          (value, more.toChars false ++ rest) := readTree_toChars hv (by omega) (ends_items hm rest)
      have hmore : readItems fuel false (more.toChars false ++ rest) = (more, rest) :=
        readItems_toChars hm false (by omega)
      rw [Items.toChars, List.append_assoc, List.append_assoc,
        readItems_begins first _ ((begins_toChars hv).append _), readItem, hvalue]
      simp only [hmore]

theorem readMembers_toChars : ∀ {members : Members} (_ : members.IsPlain) (first : Bool) {fuel : Nat}
    {rest : List Char} (_ : 3 * (members.toChars first).length ≤ fuel),
    readMembers fuel first (members.toChars first ++ rest) = (members, rest)
  | .close, _, first, 0, rest, hf => by simp [Members.toChars] at hf
  | .close, _, first, fuel + 1, rest, hf => rfl
  | .member _ value more, ⟨⟨key, rfl⟩, hv, hm⟩, first, fuel, rest, hf => by
      have hpos := List.length_pos_of_ne_nil (begins_toChars hv).ne_nil
      have hpos' := length_members_pos hm
      simp only [Members.toChars, List.length_append, List.length_cons] at hf
      obtain ⟨fuel, rfl⟩ : ∃ n, fuel = n + 2 := ⟨fuel - 2, by omega⟩
      -- the key, its colon and the value in the order in which they are read
      have hwritten : Members.toChars first (.member (.ok key) value more) ++ rest =
          (if first then [] else [',']) ++
            (literalChars key ++ ':' :: (value.toChars ++ (more.toChars false ++ rest))) := by
        simp [Members.toChars, Literal.toChars]
      have hvalue : readTree fuel (value.toChars ++ (more.toChars false ++ rest)) =
          (value, more.toChars false ++ rest) := readTree_toChars hv (by omega) (ends_members hm rest)
      have hmore : readMembers fuel false (more.toChars false ++ rest) = (more, rest) :=
        readMembers_toChars hm false (by omega)
      rw [hwritten, readMembers_begins first _ (begins_literal key _), readMember_literal, hvalue]
      simp only [hmore]
end

end Reader

/-- A document is the tree that it was written from. -/
theorem ofChars_toChars {t : Tree} (h : t.IsPlain) : Document.ofChars t.toChars = ⟨t, false⟩ := by
  have hr : Reader.readTree (3 * t.toChars.length + 3) (t.toChars ++ []) = (t, []) :=
    Reader.readTree_toChars h (by omega) nofun
  rw [List.append_nil] at hr
  simp [Document.ofChars, hr, Reader.skipSpace]

end Swarmkeeper.Json
