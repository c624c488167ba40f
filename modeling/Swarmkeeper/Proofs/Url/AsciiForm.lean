import Swarmkeeper.Url.Domain

/-!
An accepted domain name has an ASCII form that can stand in a URL as it is: the encoding of a label
writes letters, digits and dashes, and no reserved character gets past the check.
-/

namespace Swarmkeeper

/-- What a partial map gives for a list it gives for the members. -/
theorem exists_of_mem_mapM {α β : Type} {f : α → Option β} {as : List α} {bs : List β}
    (h : as.mapM f = some bs) {b : β} (hb : b ∈ bs) : ∃ a ∈ as, f a = some b := by
  induction as generalizing bs with
  | nil => simp_all
  | cons a as ih =>
    rw [List.mapM_cons] at h
    obtain ⟨b', hb', h⟩ := Option.bind_eq_some_iff.mp h
    obtain ⟨bs', hbs', h⟩ := Option.bind_eq_some_iff.mp h
    obtain rfl := Option.some.inj h
    rcases List.mem_cons.mp hb with rfl | hb
    · exact ⟨a, .head as, hb'⟩
    · exact (ih hbs' hb).imp fun c hc => ⟨.tail a hc.1, hc.2⟩

namespace Text

variable {sep c : Char} {cs : List Char}

theorem mem_of_mem_splitAll {piece : List Char} (hp : piece ∈ splitAll sep cs) (hc : c ∈ piece) :
    c ∈ cs := by
  induction cs generalizing piece with
  | nil => simp_all [splitAll]
  | cons d ds ih =>
    simp only [splitAll] at hp
    split at hp
    case isTrue h =>
      rcases List.mem_cons.mp hp with rfl | hp
      · simp at hc
      · exact .tail d (ih hp hc)
    case isFalse h =>
      split at hp
      case h_1 => simp_all
      case h_2 first rest heq =>
        rcases List.mem_cons.mp hp with rfl | hp
        · rcases List.mem_cons.mp hc with rfl | hc
          · exact .head ds
          · exact .tail d (ih (heq ▸ .head rest) hc)
        · exact .tail d (ih (heq ▸ .tail first hp) hc)

theorem mem_joinWith {sep : List Char} {pieces : List (List Char)} (h : c ∈ joinWith sep pieces) :
    c ∈ sep ∨ ∃ piece ∈ pieces, c ∈ piece := by
  induction pieces using joinWith.induct with
  | case1 => simp [joinWith] at h
  | case2 piece => exact .inr ⟨piece, .head _, h⟩
  | case3 piece pieces hne ih =>
    rw [joinWith, List.mem_append, List.mem_append] at h
    · obtain (h | h) | h := h
      · exact .inr ⟨piece, .head _, h⟩
      · exact .inl h
      · exact (ih h).imp_right fun ⟨p, hp, hc⟩ => ⟨p, .tail _ hp, hc⟩
    · exact hne

end Text

namespace Url

namespace Punycode

/-- The characters that the encoding writes for distances. -/
def IsDigit (c : Char) : Prop := ∃ n < 36, c = digit n

theorem threshold_le (bias k : Nat) : threshold bias k ≤ 26 := by
  simp only [threshold]; omega

theorem encodeDistance_isDigit {c : Char} {bias k q : Nat} (h : c ∈ encodeDistance bias k q) :
    IsDigit c := by
  induction k, q using encodeDistance.induct bias with
  | case1 k q t hq =>
    rw [encodeDistance, if_pos hq, List.mem_singleton] at h
    have := threshold_le bias k
    exact ⟨q, by omega, h⟩
  | case2 k q t hq ih =>
    rw [encodeDistance, if_neg hq] at h
    rcases List.mem_cons.mp h with rfl | h
    · have := threshold_le bias k
      have hmod := Nat.mod_lt (q - t) (show 0 < 36 - t by omega)
      exact ⟨t + (q - t) % (36 - t), by omega, rfl⟩
    · exact ih h

theorem Writer.pass_isDigit {ascii point : Nat} {w : Writer} (hw : ∀ c ∈ w.digits, IsDigit c)
    (d : Char) : ∀ c ∈ (w.pass ascii point d).digits, IsDigit c := by
  intro c h
  simp only [pass] at h
  split at h
  · exact hw c h
  · split at h
    · rcases List.mem_append.mp h with h | h
      · exact hw c h
      · exact encodeDistance_isDigit h
    · exact hw c h

theorem Writer.foldl_pass_isDigit {ascii point : Nat} (label : List Char) {w : Writer}
    (hw : ∀ c ∈ w.digits, IsDigit c) :
    ∀ c ∈ (label.foldl (Writer.pass ascii point) w).digits, IsDigit c := by
  induction label generalizing w with
  | nil => exact hw
  | cons d label ih => exact ih (pass_isDigit hw d)

theorem Writer.place_isDigit {label : List Char} {ascii start : Nat} {points : List Nat} {w : Writer}
    (hw : ∀ c ∈ w.digits, IsDigit c) :
    ∀ c ∈ (Writer.place label ascii points start w).digits, IsDigit c := by
  induction points generalizing start w with
  | nil => exact hw
  | cons point points ih => exact ih (foldl_pass_isDigit label hw)

/-- An encoded label has the ASCII characters of the label, dashes and digits. -/
theorem mem_encode {c : Char} {label : List Char} (h : c ∈ encode label) :
    (c ∈ label ∧ c.toNat < 0x80) ∨ c = '-' ∨ IsDigit c := by
  simp only [encode, List.mem_append] at h
  obtain (h | h) | h := h
  · simpa using Or.inl (b := c = '-' ∨ IsDigit c) (List.mem_filter.mp h)
  · split at h
    · simp at h
    · exact .inr (.inl (List.mem_singleton.mp h))
  · exact .inr (.inr (Writer.place_isDigit (by simp) c h))

end Punycode

namespace Domain

open Text

/-- A character that stands in a domain name as it is. -/
def IsPlain (c : Char) : Prop := c.toNat < 0x80 ∧ isReserved c = false

instance (c : Char) : Decidable (IsPlain c) := inferInstanceAs (Decidable (_ ∧ _))

theorem isPlain_of_isDigit {c : Char} (h : Punycode.IsDigit c) : IsPlain c := by
  have digits : ∀ n < 36, IsPlain (Punycode.digit n) := by decide
  obtain ⟨n, hn, rfl⟩ := h
  exact digits n hn

theorem isPlain_of_isAscii {c : Char} {cs : List Char} (h : isAscii cs) (hc : c ∈ cs)
    (hr : isReserved c = false) : IsPlain c :=
  ⟨by simpa using List.all_eq_true.mp h c hc, hr⟩

theorem encodedStart_plain : ∀ c ∈ encodedStart, IsPlain c := by
  simp [encodedStart, IsPlain, isReserved]

/-- The ASCII form of a label is the label itself or its encoding. -/
theorem Label.ascii_eq {cs : List Char} {l : Label} (h : ofChars cs = some l) :
    (isAscii cs ∧ l.ascii = cs) ∨ l.ascii = encodedStart ++ Punycode.encode cs := by
  simp only [ofChars] at h
  split at h
  case isTrue hstart =>
    obtain ⟨rest, rfl⟩ := List.isPrefixOf_iff_prefix.mp hstart
    simp only [List.drop_left, ofEncoded] at h
    split at h
    case isTrue => contradiction
    case isFalse hascii =>
      simp only [Bool.or_eq_true, Bool.not_eq_true', not_or, Bool.not_eq_false] at hascii
      obtain ⟨text, -, h⟩ := Option.bind_eq_some_iff.mp h
      split at h
      case isTrue => contradiction
      case isFalse =>
        obtain rfl := Option.some.inj h
        refine .inl ⟨?_, rfl⟩
        rw [isAscii, List.all_append]
        exact Bool.and_eq_true_iff.mpr ⟨by decide, hascii.1⟩
  case isFalse =>
    split at h
    case isTrue hascii =>
      obtain rfl := Option.some.inj h
      exact .inl ⟨hascii, rfl⟩
    case isFalse =>
      split at h
      case isTrue => contradiction
      case isFalse =>
        obtain rfl := Option.some.inj h
        exact .inr rfl

/-- A label without reserved characters has an ASCII form of characters that stand as they are. -/
theorem Label.ascii_plain {cs : List Char} {l : Label} (h : ofChars cs = some l)
    (hr : ∀ c ∈ cs, isReserved c = false) : ∀ c ∈ l.ascii, IsPlain c := by
  intro c hc
  obtain ⟨hascii, heq⟩ | heq := ascii_eq h
  · rw [heq] at hc
    exact isPlain_of_isAscii hascii hc (hr c hc)
  · rw [heq, List.mem_append] at hc
    obtain hc | hc := hc
    · exact encodedStart_plain c hc
    · obtain ⟨hmem, hlt⟩ | rfl | hdigit := Punycode.mem_encode hc
      · exact ⟨hlt, hr c hmem⟩
      · decide
      · exact isPlain_of_isDigit hdigit

/-- A domain name that is accepted has an ASCII form in which every character stands as it is. -/
theorem toAscii_plain {bytes : List UInt8} {cs : List Char} (h : toAscii bytes = some cs) :
    ∀ c ∈ cs, IsPlain c := by
  obtain ⟨text, -, h⟩ := Option.bind_eq_some_iff.mp h
  obtain ⟨name, -, h⟩ := Option.bind_eq_some_iff.mp h
  split at h
  case isTrue => contradiction
  case isFalse hreserved =>
    have hname : ∀ c ∈ name, isReserved c = false := by simpa using hreserved
    obtain ⟨labels, hlabels, h⟩ := Option.bind_eq_some_iff.mp h
    split at h
    case isFalse => contradiction
    case isTrue =>
      obtain rfl := Option.some.inj h
      intro c hc
      obtain hc | ⟨piece, hpiece, hc⟩ := mem_joinWith hc
      · obtain rfl := List.mem_singleton.mp hc
        decide
      · obtain ⟨l, hl, rfl⟩ := List.mem_map.mp hpiece
        obtain ⟨cs, hcs, hread⟩ := exists_of_mem_mapM hlabels hl
        exact l.ascii_plain hread (fun d hd => hname d (mem_of_mem_splitAll hcs hd)) c hc

end Domain

end Url

end Swarmkeeper
