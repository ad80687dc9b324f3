import Bursar.Proofs.Http.Form
import Bursar.Proofs.Text.Spelling

/-!
# Cutting and trimming

A text is cut at the first separator (`cut_cases`), so that what holds of one piece and carries
over to one more piece holds of every text (`induction_on_pieces`). Trimming takes off the blanks
that stand around characters (`Wraps`) and stops at what is no blank, so it goes along with cutting
(`trimChars_append_cons`).
-/

namespace Bursar.Text

variable {c sep : Char} {cs before after inside : List Char}

/-! ## Cutting -/

theorem splitFirst_of_not_mem (h : sep ∉ cs) : splitFirst sep cs = none := by
  induction cs with
  | nil => rfl
  | cons c cs ih =>
    have hc : c ≠ sep := Ne.symm (List.ne_of_not_mem_cons h)
    rw [splitFirst, if_neg hc, ih (List.not_mem_of_not_mem_cons h), Option.map_none]

/-- A text is without the separator, or the first one parts it. -/
theorem cut_cases (sep : Char) (cs : List Char) :
    sep ∉ cs ∨ ∃ before after, sep ∉ before ∧ cs = before ++ sep :: after := by
  by_cases h : sep ∈ cs
  · obtain ⟨before, after, hcs, hbefore⟩ := List.eq_append_cons_of_mem h
    exact .inr ⟨before, after, hbefore, hcs⟩
  · exact .inl h

/-- What holds of a text without the separator, and behind one more piece if it holds behind it, holds of
every text. -/
theorem induction_on_pieces {motive : List Char → Prop} (sep : Char) (cs : List Char)
    (last : ∀ cs, sep ∉ cs → motive cs)
    (more : ∀ cs ds, sep ∉ cs → motive ds → motive (cs ++ sep :: ds)) : motive cs := by
  rcases cut_cases sep cs with h | ⟨before, after, hbefore, hcs⟩
  · exact last cs h
  · rw [hcs]
    exact more before after hbefore (induction_on_pieces sep after last more)
termination_by cs.length
decreasing_by
  rw [hcs, List.length_append, List.length_cons]
  omega

/-! ## Blanks around characters -/

/-- The characters with blanks around them. -/
def Wraps (cs inside : List Char) : Prop :=
  ∃ lead trail, (∀ c ∈ lead, isBlank c = true) ∧ (∀ c ∈ trail, isBlank c = true) ∧
    cs = lead ++ inside ++ trail

theorem Wraps.trimChars_eq (h : Wraps cs inside) : trimChars cs = trimChars inside := by
  obtain ⟨lead, trail, hlead, htrail, rfl⟩ := h
  exact trimChars_surrounded hlead htrail

theorem wraps_trimChars (cs : List Char) : Wraps cs (trimChars cs) := by
  refine ⟨_, _, fun c hc => List.mem_takeWhile_imp hc, fun c hc => ?_, (append_trimChars cs).symm⟩
  exact List.mem_takeWhile_imp (List.mem_reverse.mp hc)

theorem Wraps.mem (h : Wraps cs inside) (hc : c ∈ inside) : c ∈ cs := by
  obtain ⟨lead, trail, -, -, rfl⟩ := h
  exact List.mem_append_left _ (List.mem_append_right _ hc)

theorem Wraps.refl (cs : List Char) : Wraps cs cs :=
  ⟨[], [], nofun, nofun, by rw [List.nil_append, List.append_nil]⟩

theorem Wraps.not_mem (h : Wraps cs inside) (hc : isBlank c = false) (hinside : c ∉ inside) : c ∉ cs := by
  obtain ⟨lead, trail, hlead, htrail, rfl⟩ := h
  intro hmem
  rcases List.mem_append.mp hmem with hmem | hmem
  · rcases List.mem_append.mp hmem with hmem | hmem
    · rw [hlead c hmem] at hc
      cases hc
    · exact hinside hmem
  · rw [htrail c hmem] at hc
    cases hc

/-- Characters that blanks stand around are their own trimmed form if none of them is a blank. -/
theorem Wraps.trimChars_of_no_blank (h : Wraps cs inside) (hinside : ∀ c ∈ inside, isBlank c = false) :
    trimChars cs = inside := by
  rw [h.trimChars_eq, Text.trimChars_of_no_blank hinside]

theorem trimStart_append_cons (h : isBlank c = false) (before after : List Char) :
    trimStart (before ++ c :: after) = trimStart before ++ c :: after := by
  rw [trimStart, List.dropWhile_append]
  split
  · rename_i hempty
    rw [trimStart, List.isEmpty_iff.mp hempty, List.nil_append, List.dropWhile_cons_of_neg (by simp [h])]
  · rfl

theorem trimEnd_append_cons (h : isBlank c = false) (before after : List Char) :
    trimEnd (before ++ c :: after) = before ++ c :: trimEnd after := by
  have hreversed : (before ++ c :: after).reverse = after.reverse ++ c :: before.reverse := by simp
  have hfront := trimStart_append_cons h after.reverse before.reverse
  rw [trimStart] at hfront
  rw [trimEnd, hreversed, hfront]
  simp [trimEnd, trimStart]

/-- **Trimming stops at what is no blank.** -/
theorem trimChars_append_cons (h : isBlank c = false) (before after : List Char) :
    trimChars (before ++ c :: after) = trimStart before ++ c :: trimEnd after := by
  rw [trimChars, trimStart_append_cons h, trimEnd_append_cons h]

theorem trimChars_trimStart (cs : List Char) : trimChars (trimStart cs) = trimChars cs := by
  have hwraps : Wraps cs (trimStart cs) := by
    refine ⟨cs.takeWhile isBlank, [], fun c hc => List.mem_takeWhile_imp hc, nofun, ?_⟩
    rw [List.append_nil, trimStart, List.takeWhile_append_dropWhile]
  exact hwraps.trimChars_eq.symm

theorem trimChars_trimEnd (cs : List Char) : trimChars (trimEnd cs) = trimChars cs := by
  have hwraps : Wraps cs (trimEnd cs) := by
    refine ⟨[], (cs.reverse.takeWhile isBlank).reverse, nofun, fun c hc => ?_, ?_⟩
    · exact List.mem_takeWhile_imp (List.mem_reverse.mp hc)
    · rw [List.nil_append, trimEnd, ← List.reverse_append, List.takeWhile_append_dropWhile,
        List.reverse_reverse]
  exact hwraps.trimChars_eq.symm

theorem not_mem_trimEnd (h : c ∉ cs) : c ∉ trimEnd cs := by
  intro hc
  exact h (List.mem_reverse.mp ((List.dropWhile_sublist _).mem (List.mem_reverse.mp hc)))

theorem not_mem_trimChars (h : c ∉ cs) : c ∉ trimChars cs :=
  not_mem_trimEnd fun hc => h ((List.dropWhile_sublist _).mem hc)

end Bursar.Text
