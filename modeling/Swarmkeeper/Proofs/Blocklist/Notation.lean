import Swarmkeeper.Blocklist.Format
import Swarmkeeper.Proofs.Text.Cutting

/-!
# Lists of addresses as texts

A list may be written with any blanks around its entries, with comments, with lines that have no entry, and with
either end of a line; it is read as the entries in their order. What is read has only such entries, and a text
that is cut at a line feed is read as its two parts.
-/

namespace Swarmkeeper.Text

variable {cs ds bs : List Char} {sep : Char}

/-! ## Texts that are not trimmed -/

theorem dropWhile_eq_self_iff_head? : cs.dropWhile isBlank = cs ↔ ∀ c ∈ cs.head?, isBlank c = false := by
  cases cs with
  | nil => simp
  | cons c cs =>
      rw [List.dropWhile_eq_self_iff]
      simp

theorem trimChars_eq_self_iff : trimChars cs = cs ↔
    (∀ c ∈ cs.head?, isBlank c = false) ∧ ∀ c ∈ cs.getLast?, isBlank c = false := by
  have hlast : cs.rdropWhile isBlank = cs ↔ ∀ c ∈ cs.getLast?, isBlank c = false := by
    rw [List.rdropWhile, List.reverse_eq_iff, dropWhile_eq_self_iff_head?, List.head?_reverse]
  rw [trimChars_eq, ← dropWhile_eq_self_iff_head?, ← hlast]
  constructor
  · intro h
    -- nothing was cut off at either end, or the text would be shorter
    have hle := (List.rdropWhile_prefix isBlank (l := cs.dropWhile isBlank)).length_le
    rw [h] at hle
    have hfront := (List.dropWhile_suffix isBlank (l := cs)).eq_of_length_le hle
    rw [hfront] at h
    exact ⟨hfront, h⟩
  · rintro ⟨hfront, hback⟩
    rw [hfront, hback]

theorem trimChars_blanks_append (hb : ∀ c ∈ bs, isBlank c = true) : trimChars (bs ++ cs) = trimChars cs := by
  rw [trimChars_eq, List.dropWhile_append_of_pos hb, trimChars_eq]

/-! ## Pieces -/

theorem splitAll_of_not_mem (h : sep ∉ cs) : splitAll sep cs = [cs] := by
  induction cs with
  | nil => rfl
  | cons c cs ih =>
      obtain ⟨hc, hcs⟩ := List.ne_and_not_mem_of_not_mem_cons h
      rw [splitAll, if_neg (Ne.symm hc), ih hcs]

theorem splitAll_ne_nil (sep : Char) (cs : List Char) : splitAll sep cs ≠ [] := by
  rw [splitAll_eq_splitOn]
  exact List.splitOnP_ne_nil _ _

theorem splitAll_append_cons (sep : Char) (cs ds : List Char) :
    splitAll sep (cs ++ sep :: ds) = splitAll sep cs ++ splitAll sep ds := by
  induction cs with
  | nil => simp [splitAll]
  | cons c cs ih =>
      rw [List.cons_append, splitAll, splitAll, ih]
      split
      · rfl
      · cases h : splitAll sep cs with
        | nil => exact absurd h (splitAll_ne_nil sep cs)
        | cons piece pieces => rfl

theorem not_mem_of_mem_splitAll {piece : List Char} (h : piece ∈ splitAll sep cs) : sep ∉ piece := by
  induction cs generalizing piece with
  | nil =>
      rw [splitAll, List.mem_singleton] at h
      subst h
      exact List.not_mem_nil
  | cons c cs ih =>
      rw [splitAll] at h
      split at h
      · rcases List.mem_cons.mp h with rfl | h
        · exact List.not_mem_nil
        · exact ih h
      · rename_i hc
        split at h
        · rename_i hnil
          rw [List.mem_singleton] at h
          subst h
          simpa using Ne.symm hc
        · rename_i first rest hpieces
          rcases List.mem_cons.mp h with rfl | h
          · have := ih (hpieces ▸ List.mem_cons_self)
            rw [List.mem_cons, not_or]
            exact ⟨Ne.symm hc, this⟩
          · exact ih (hpieces ▸ List.mem_cons_of_mem _ h)

end Swarmkeeper.Text

namespace Swarmkeeper.Blocklist

open Swarmkeeper.Text

variable {line cs bs e : List Char} {es es' : List (List Char)}

/-! ## Lines -/

theorem entryOfLine_of_not_mem (h : '#' ∉ line) : entryOfLine line = trimChars line := by
  rw [entryOfLine, List.takeWhile_eq_self_iff.mpr]
  intro c hc
  simp only [ne_eq, decide_not, Bool.not_eq_eq_eq_not, Bool.not_true, decide_eq_false_iff_not]
  rintro rfl
  exact h hc

/-- A comment adds nothing to its line. -/
theorem entryOfLine_comment (line cs : List Char) : entryOfLine (line ++ '#' :: cs) = entryOfLine line := by
  rw [entryOfLine, List.takeWhile_append]
  split
  · rename_i h
    rw [entryOfLine, List.takeWhile_cons_of_neg (by simp), List.append_nil,
      (List.takeWhile_prefix _).eq_of_length h]
  · rfl

/-- A blank at the end of a line, which may belong to a comment, makes no difference. -/
theorem entryOfLine_append_blank (line : List Char) {c : Char} (hb : isBlank c = true) (hc : c ≠ '#') :
    entryOfLine (line ++ [c]) = entryOfLine line := by
  rw [entryOfLine, List.takeWhile_append]
  split
  · rename_i h
    rw [List.takeWhile_cons_of_pos (by simpa using hc), List.takeWhile_nil,
      trimChars_append_blanks (by simpa using hb), entryOfLine, (List.takeWhile_prefix _).eq_of_length h]
  · rfl

theorem entryOfLine_dropCarriageReturn (line : List Char) :
    entryOfLine (dropCarriageReturn line) = entryOfLine line := by
  rw [dropCarriageReturn]
  split
  · rename_i rest h
    rw [List.reverse_eq_iff.mp h, List.reverse_cons, entryOfLine_append_blank _ (by decide) (by decide)]
  · rfl

/-- A list is read line by line. -/
theorem parseChars_eq (cs : List Char) :
    parseChars cs = ((splitAll '\n' cs).map entryOfLine).filter (· ≠ []) := by
  have hclosed (pieces : List (List Char)) :
      (pieces.map dropCarriageReturn).map entryOfLine = pieces.map entryOfLine := by
    rw [List.map_map]
    exact List.map_congr_left fun piece _ => entryOfLine_dropCarriageReturn piece
  rw [parseChars, lines.eq_def]
  cases cs with
  | nil => rfl
  | cons c cs =>
      rcases (splitAll '\n' (c :: cs)).eq_nil_or_concat with hnil | ⟨pieces, last, hlast⟩
      · exact absurd hnil (splitAll_ne_nil _ _)
      · simp only [hlast, List.concat_eq_append, List.dropLast_concat, List.getLast?_concat]
        cases last with
        | nil =>
            -- there is no line after the last line feed
            have hempty : entryOfLine [] = [] := rfl
            simp only [hclosed, List.map_append, List.map_singleton, hempty, List.filter_append]
            simp
        | cons d ds => simp only [List.map_append, hclosed]

theorem parseChars_of_line (h : '\n' ∉ line) : parseChars line = [entryOfLine line].filter (· ≠ []) := by
  rw [parseChars_eq, splitAll_of_not_mem h, List.map_singleton]

/-- A text that is cut at a line feed is read as its two parts. -/
theorem parseChars_append_cons (cs ds : List Char) :
    parseChars (cs ++ '\n' :: ds) = parseChars cs ++ parseChars ds := by
  rw [parseChars_eq, parseChars_eq, parseChars_eq, splitAll_append_cons, List.map_append, List.filter_append]

/-! ## Written lists -/

/-- An entry is not empty, has no blank at its ends, and neither a number sign nor a line feed in it. -/
structure IsEntry (e : List Char) : Prop where
  ne_nil : e ≠ []
  first : ∀ c ∈ e.head?, isBlank c = false
  last : ∀ c ∈ e.getLast?, isBlank c = false
  no_comment : '#' ∉ e
  no_feed : '\n' ∉ e

/-- Blanks within a line. -/
def IsMargin (bs : List Char) : Prop := ∀ c ∈ bs, isBlank c = true ∧ c ≠ '\n'

/-- Nothing, or a number sign and any text in the same line. -/
inductive IsComment : List Char → Prop where
  | absent : IsComment []
  | present {cs : List Char} (h : '\n' ∉ cs) : IsComment ('#' :: cs)

/-- A line of a list, with the entry that it has or without one. -/
inductive IsLine : List Char → List (List Char) → Prop where
  | blank {bs cs : List Char} (hb : IsMargin bs) (hc : IsComment cs) : IsLine (bs ++ cs) []
  | entry {bs e bs' cs : List Char} (hb : IsMargin bs) (he : IsEntry e) (hb' : IsMargin bs')
      (hc : IsComment cs) :
      IsLine (bs ++ e ++ bs' ++ cs) [e]

/-- A text that writes a list of entries. Its last line may end or not. -/
inductive Written : List Char → List (List Char) → Prop where
  | nil : Written [] []
  | last {line : List Char} {es : List (List Char)} (h : IsLine line es) : Written line es
  | feed {line cs : List Char} {es es' : List (List Char)} (h : IsLine line es) (hr : Written cs es') :
      Written (line ++ '\n' :: cs) (es ++ es')
  | returnFeed {line cs : List Char} {es es' : List (List Char)} (h : IsLine line es) (hr : Written cs es') :
      Written (line ++ '\r' :: '\n' :: cs) (es ++ es')

theorem IsMargin.not_mem (h : IsMargin bs) : '#' ∉ bs ∧ '\n' ∉ bs := by
  constructor
  · intro hm
    exact absurd (h _ hm).1 (by decide)
  · intro hm
    exact (h _ hm).2 rfl

theorem IsComment.not_mem (h : IsComment cs) : '\n' ∉ cs := by
  cases h with
  | absent => exact List.not_mem_nil
  | present h => simpa using h

theorem IsComment.entryOfLine (h : IsComment cs) (line : List Char) :
    entryOfLine (line ++ cs) = entryOfLine line := by
  cases h with
  | absent => rw [List.append_nil]
  | present => exact entryOfLine_comment line _

theorem IsEntry.trimChars (h : IsEntry e) : trimChars e = e := trimChars_eq_self_iff.mpr ⟨h.first, h.last⟩

theorem IsLine.not_mem (h : IsLine line es) : '\n' ∉ line := by
  cases h with
  | blank hb hc => simp [hb.not_mem.2, hc.not_mem]
  | entry hb he hb' hc => simp [hb.not_mem.2, he.no_feed, hb'.not_mem.2, hc.not_mem]

theorem IsLine.entries_eq (h : IsLine line es) : es = [entryOfLine line].filter (· ≠ []) := by
  cases h with
  | @blank bs _ hb hc =>
      have hblank : trimChars ([] ++ bs) = [] := trimChars_append_blanks fun c hm => (hb c hm).1
      rw [hc.entryOfLine, entryOfLine_of_not_mem hb.not_mem.1, ← List.nil_append bs, hblank]
      rfl
  | @entry bs e bs' _ hb he hb' hc =>
      have hn : '#' ∉ bs ++ e ++ bs' := by
        simp only [List.mem_append, not_or]
        exact ⟨⟨hb.not_mem.1, he.no_comment⟩, hb'.not_mem.1⟩
      rw [hc.entryOfLine, entryOfLine_of_not_mem hn, trimChars_append_blanks fun c hm => (hb' c hm).1,
        trimChars_blanks_append fun c hm => (hb c hm).1, he.trimChars]
      simp [he.ne_nil]

/-- A written line is read as its entry, if it has one. -/
theorem IsLine.parseChars (h : IsLine line es) : parseChars line = es := by
  rw [parseChars_of_line h.not_mem, h.entries_eq]

/-- The carriage return in front of a line feed belongs to the end of the line. -/
theorem IsLine.parseChars_return (h : IsLine line es) : Blocklist.parseChars (line ++ ['\r']) = es := by
  have hn : '\n' ∉ line ++ ['\r'] := by simp [h.not_mem]
  rw [parseChars_of_line hn, entryOfLine_append_blank _ (by decide) (by decide), ← h.entries_eq]

/-- A written text is read as its entries. -/
theorem Written.parseChars (h : Written cs es) : parseChars cs = es := by
  induction h with
  | nil => rfl
  | last h => exact h.parseChars
  | feed h _ ih => rw [parseChars_append_cons, h.parseChars, ih]
  | returnFeed h _ ih => rw [List.append_cons, parseChars_append_cons, h.parseChars_return, ih]

/-! ## What is read -/

/-- What is read could have been written as an entry. -/
theorem isEntry_of_mem_parseChars (h : e ∈ parseChars cs) : IsEntry e := by
  rw [parseChars_eq, List.mem_filter, List.mem_map] at h
  obtain ⟨⟨line, hline, rfl⟩, hne⟩ := h
  have hsub {c : Char} (hc : c ∈ entryOfLine line) : c ∈ line.takeWhile (· ≠ '#') := mem_of_mem_trimChars hc
  obtain ⟨hfirst, hlast⟩ := trimChars_eq_self_iff.mp (trimChars_trimChars (line.takeWhile (· ≠ '#')))
  refine ⟨by simpa using hne, hfirst, hlast, fun hc => ?_, fun hc => ?_⟩
  · simpa using List.mem_takeWhile_imp (hsub hc)
  · exact not_mem_of_mem_splitAll hline ((List.takeWhile_prefix _).subset (hsub hc))

theorem IsEntry.isLine (h : IsEntry e) : IsLine e [e] := by
  have hline : IsLine ([] ++ e ++ [] ++ []) [e] := .entry nofun h nofun .absent
  simpa using hline

/-- Entries on lines of their own are a written text. -/
theorem written_intercalate (h : ∀ e ∈ es, IsEntry e) : Written (['\n'].intercalate es) es := by
  induction es with
  | nil => exact .nil
  | cons e es ih =>
      rw [List.forall_mem_cons] at h
      cases es with
      | nil =>
          rw [List.intercalate_singleton]
          exact .last h.1.isLine
      | cons e' es =>
          have hfeed := Written.feed h.1.isLine (ih h.2)
          simpa [List.intercalate] using hfeed

/-! ## The format -/

/-- The entries of a text, and the texts of a list of entries. -/
structure Format : Prop where
  /-- A list is read from every text that writes it. -/
  read : ∀ (text : String) (entries : List String),
    Written text.toList (entries.map String.toList) → parse text = entries
  /-- Every list of entries is written by the text that has a line feed between them. -/
  written : ∀ entries : List String, (∀ e ∈ entries, IsEntry e.toList) →
    Written ("\n".intercalate entries).toList (entries.map String.toList)
  /-- What is read of a text is such a list, -/
  entries : ∀ text : String, ∀ e ∈ parse text, IsEntry e.toList
  /-- and is read again when it is written. -/
  again : ∀ text : String, parse ("\n".intercalate (parse text)) = parse text
  cut : ∀ a b : String, parse (a ++ "\n" ++ b) = parse a ++ parse b

theorem parse_of_written {text : String} {entries : List String}
    (h : Written text.toList (entries.map String.toList)) : parse text = entries := by
  rw [parse, h.parseChars, List.map_map]
  simp

theorem isEntry_of_mem_parse {text e : String} (h : e ∈ parse text) : IsEntry e.toList := by
  obtain ⟨cs, hcs, rfl⟩ := List.mem_map.mp h
  rw [String.toList_ofList]
  exact isEntry_of_mem_parseChars hcs

theorem written_toList_intercalate {entries : List String} (h : ∀ e ∈ entries, IsEntry e.toList) :
    Written ("\n".intercalate entries).toList (entries.map String.toList) := by
  rw [String.toList_intercalate]
  exact written_intercalate (by simpa using h)

/-- A list is read by its lines, whatever margins, comments and blank lines it has and however its lines end,
and what was read can be written as a list again. -/
theorem list_format : Format where
  read _ _ := parse_of_written
  written _ := written_toList_intercalate
  entries _ _ := isEntry_of_mem_parse
  again text := parse_of_written (written_toList_intercalate fun _ => isEntry_of_mem_parse)
  cut a b := by
    have hchars : (a ++ "\n" ++ b).toList = a.toList ++ '\n' :: b.toList := by simp
    rw [parse, hchars, parseChars_append_cons, List.map_append, parse, parse]

end Swarmkeeper.Blocklist
