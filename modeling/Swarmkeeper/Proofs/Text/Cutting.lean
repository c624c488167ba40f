import Mathlib.Data.List.DropRight
import Swarmkeeper.Text.Blank
import Swarmkeeper.Text.Split

/-!
# Blanks and separators

What is cut off at the ends of a text, and where a text falls apart at a separator. Blanks around a
separator belong to the texts on its two sides, so that trimming the whole first changes neither of them.
-/

namespace Swarmkeeper.Text

variable {cs ds bs : List Char} {c sep : Char}

/-! ## Blanks -/

theorem trimChars_eq (cs : List Char) : trimChars cs = (cs.dropWhile isBlank).rdropWhile isBlank := rfl

theorem trimChars_trimChars (cs : List Char) : trimChars (trimChars cs) = trimChars cs := by
  -- what is left starts with a character that is not blank, as it did before its end was cut off
  have hfront : (trimChars cs).dropWhile isBlank = trimChars cs := by
    refine List.dropWhile_eq_self_iff.mpr fun hl hb => ?_
    have hp : trimChars cs <+: cs.dropWhile isBlank := List.rdropWhile_prefix _ _
    rw [hp.getElem hl] at hb
    exact List.dropWhile_eq_self_iff.mp (List.dropWhile_idempotent _ _) _ hb
  rw [trimChars_eq (trimChars cs), hfront, trimChars_eq, List.rdropWhile_idempotent]

@[simp] theorem trim_trim (s : String) : trim (trim s) = trim s := by
  simp [trim, trimChars_trimChars]

theorem trimChars_eq_self (h : ∀ c ∈ cs, isBlank c = false) : trimChars cs = cs := by
  have stays {ds : List Char} (hd : ∀ c ∈ ds, isBlank c = false) : ds.dropWhile isBlank = ds := by
    refine List.dropWhile_eq_self_iff.mpr fun hl => ?_
    rw [hd _ (List.getElem_mem hl)]
    exact Bool.false_ne_true
  rw [trimChars, stays h, stays fun c hc => h c (List.mem_reverse.mp hc), List.reverse_reverse]

theorem rdropWhile_append_blanks (hb : ∀ c ∈ bs, isBlank c = true) :
    (cs ++ bs).rdropWhile isBlank = cs.rdropWhile isBlank := by
  rw [List.rdropWhile, List.reverse_append,
    List.dropWhile_append_of_pos fun c hc => hb c (List.mem_reverse.mp hc), List.rdropWhile]

theorem trimChars_append_blanks (hb : ∀ c ∈ bs, isBlank c = true) :
    trimChars (cs ++ bs) = trimChars cs := by
  rw [trimChars_eq, trimChars_eq, List.dropWhile_append]
  split
  · rename_i h
    rw [List.isEmpty_iff.mp h, List.dropWhile_eq_nil_iff.mpr hb]
  · exact rdropWhile_append_blanks hb

@[simp] theorem trimChars_dropWhile (cs : List Char) : trimChars (cs.dropWhile isBlank) = trimChars cs := by
  rw [trimChars_eq, List.dropWhile_idempotent, trimChars_eq]

@[simp] theorem trimChars_rdropWhile (cs : List Char) :
    trimChars (cs.rdropWhile isBlank) = trimChars cs := by
  have hb : ∀ c ∈ cs.rtakeWhile isBlank, isBlank c = true := fun c hc => List.mem_rtakeWhile_imp hc
  rw [← trimChars_append_blanks hb, List.rdropWhile_append_rtakeWhile]

theorem dropWhile_append_cons (hc : isBlank c = false) :
    (cs ++ c :: ds).dropWhile isBlank = cs.dropWhile isBlank ++ c :: ds := by
  rw [List.dropWhile_append]
  split
  · rename_i h
    rw [List.isEmpty_iff.mp h, List.nil_append, List.dropWhile_cons_of_neg (by simp [hc])]
  · rfl

theorem rdropWhile_append_cons (hc : isBlank c = false) :
    (cs ++ c :: ds).rdropWhile isBlank = cs ++ c :: ds.rdropWhile isBlank := by
  have hrev : (cs ++ c :: ds).reverse = ds.reverse ++ c :: cs.reverse := by simp
  rw [List.rdropWhile, hrev, dropWhile_append_cons hc]
  simp [List.rdropWhile]

theorem trimChars_append_cons (hc : isBlank c = false) :
    trimChars (cs ++ c :: ds) = cs.dropWhile isBlank ++ c :: ds.rdropWhile isBlank := by
  rw [trimChars_eq, dropWhile_append_cons hc, rdropWhile_append_cons hc]

/-! ## The first separator -/

theorem splitOnce_eq_none (h : sep ∉ cs) : splitOnce sep cs = none := by
  induction cs with
  | nil => rfl
  | cons c cs ih =>
      obtain ⟨hc, hcs⟩ := List.ne_and_not_mem_of_not_mem_cons h
      rw [splitOnce, if_neg (Ne.symm hc), ih hcs, Option.map_none]

theorem splitOnce_append (h : sep ∉ cs) : splitOnce sep (cs ++ sep :: ds) = some (cs, ds) := by
  induction cs with
  | nil => simp [splitOnce]
  | cons c cs ih =>
      obtain ⟨hc, hcs⟩ := List.ne_and_not_mem_of_not_mem_cons h
      rw [List.cons_append, splitOnce, if_neg (Ne.symm hc), ih hcs, Option.map_some]

theorem mem_of_mem_trimChars (h : c ∈ trimChars cs) : c ∈ cs :=
  (List.dropWhile_suffix _).subset ((List.rdropWhile_prefix _ _).subset h)

theorem splitOnce_trimChars_eq_none (h : sep ∉ cs) : splitOnce sep (trimChars cs) = none :=
  splitOnce_eq_none fun hm => h (mem_of_mem_trimChars hm)

theorem splitOnce_trimChars (hs : isBlank sep = false) (h : sep ∉ cs) :
    splitOnce sep (trimChars (cs ++ sep :: ds)) =
      some (cs.dropWhile isBlank, ds.rdropWhile isBlank) := by
  rw [trimChars_append_cons hs, splitOnce_append fun hm => h ((List.dropWhile_suffix _).subset hm)]

/-! ## All separators -/

theorem splitAll_eq_splitOn (sep : Char) (cs : List Char) : splitAll sep cs = cs.splitOn sep := by
  induction cs with
  | nil => rfl
  | cons c cs ih =>
      have hne : cs.splitOn sep ≠ [] := List.splitOnP_ne_nil _ _
      rw [splitAll, ih, List.splitOn.eq_def sep (c :: cs), List.splitOnP_cons_eq_if_modifyHead]
      by_cases hc : c = sep
      · simp [hc, List.splitOn]
      · rw [if_neg hc, if_neg (by simpa using hc), ← List.splitOn]
        cases h : cs.splitOn sep with
        | nil => exact absurd h hne
        | cons piece pieces => rfl

end Swarmkeeper.Text
