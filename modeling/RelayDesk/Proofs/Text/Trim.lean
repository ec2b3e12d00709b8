import Mathlib.Data.List.DropRight
import RelayDesk.Text.Basic

/-!
Trimmed texts.  A trimmed text has no blank at either end, and trimming leaves such a text alone.
-/

namespace RelayDesk
namespace Text

def AllBlank (cs : List Char) : Prop := ∀ c ∈ cs, isBlank c = true

/-- No blank at either end. -/
structure Trimmed (cs : List Char) : Prop where
  head : ∀ c, cs.head? = some c → isBlank c = false
  last : ∀ c, cs.getLast? = some c → isBlank c = false

theorem dropBlankEnd_eq_rdropWhile (cs : List Char) : dropBlankEnd cs = cs.rdropWhile isBlank := rfl

theorem head?_of_head?_dropBlankEnd {cs : List Char} {c : Char}
    (h : (dropBlankEnd cs).head? = some c) : cs.head? = some c := by
  rw [dropBlankEnd_eq_rdropWhile] at h
  obtain ⟨blanks, hcs⟩ := List.rdropWhile_prefix isBlank cs
  rw [← hcs, List.head?_append, h]
  rfl

theorem trimmed_trimChars (cs : List Char) : Trimmed (trimChars cs) where
  head c h := by
    have hhead := List.head?_dropWhile_not isBlank cs
    rw [head?_of_head?_dropBlankEnd h] at hhead
    exact hhead
  last c h := by
    have hne : (cs.dropWhile isBlank).rdropWhile isBlank ≠ [] := by
      intro hnil
      unfold trimChars at h
      rw [dropBlankEnd_eq_rdropWhile, hnil] at h
      cases h
    have hlast := List.rdropWhile_last_not isBlank (cs.dropWhile isBlank) hne
    unfold trimChars at h
    rw [dropBlankEnd_eq_rdropWhile, List.getLast?_eq_some_getLast hne] at h
    rw [Option.some.inj h] at hlast
    simpa using hlast

/-- Trimming takes nothing but blanks, and those at the ends only. -/
theorem exists_blanks (cs : List Char) :
    ∃ before after, AllBlank before ∧ AllBlank after ∧ cs = before ++ trimChars cs ++ after := by
  refine ⟨cs.takeWhile isBlank, (cs.dropWhile isBlank).rtakeWhile isBlank,
    fun c hc => List.mem_takeWhile_imp hc, fun c hc => List.mem_rtakeWhile_imp hc, ?_⟩
  unfold trimChars
  rw [dropBlankEnd_eq_rdropWhile, List.append_assoc, List.rdropWhile_append_rtakeWhile,
    List.takeWhile_append_dropWhile]

/-- A text that is trimmed already comes out from between any blanks. -/
theorem trimChars_between {before cs after : List Char} (hbefore : AllBlank before)
    (hafter : AllBlank after) (hne : cs ≠ []) (h : Trimmed cs) :
    trimChars (before ++ cs ++ after) = cs := by
  have hfront : (before ++ cs ++ after).dropWhile isBlank = cs ++ after := by
    cases cs with
    | nil => exact absurd rfl hne
    | cons c rest =>
      rw [List.append_assoc, List.dropWhile_append_of_pos hbefore, List.cons_append,
        List.dropWhile_cons_of_neg (by simp [h.head c rfl])]
  have hback : dropBlankEnd (cs ++ after) = dropBlankEnd cs := by
    unfold dropBlankEnd
    rw [List.reverse_append, List.dropWhile_append_of_pos]
    intro c hc
    exact hafter c (List.mem_reverse.mp hc)
  have hcs : dropBlankEnd cs = cs := by
    rw [dropBlankEnd_eq_rdropWhile, List.rdropWhile_eq_self_iff]
    intro hcs
    simp [h.last _ (List.getLast?_eq_some_getLast hcs)]
  unfold trimChars
  rw [hfront, hback, hcs]

theorem trimChars_of_trimmed {cs : List Char} (h : Trimmed cs) : trimChars cs = cs := by
  by_cases hne : cs = []
  · rw [hne]
    rfl
  · have hnone : AllBlank [] := by simp [AllBlank]
    simpa using trimChars_between hnone hnone hne h

theorem trim_of_trimmed {s : String} (h : Trimmed s.toList) : trim s = s := by
  unfold trim
  rw [trimChars_of_trimmed h]
  exact String.ofList_toList

theorem trim_trim (s : String) : trim (trim s) = trim s := by
  apply trim_of_trimmed
  show Trimmed (String.ofList (trimChars s.toList)).toList
  rw [String.toList_ofList]
  exact trimmed_trimChars s.toList

theorem trimChars_eq_nil_iff {cs : List Char} : trimChars cs = [] ↔ cs.all isBlank = true := by
  unfold trimChars
  rw [dropBlankEnd_eq_rdropWhile, List.rdropWhile_eq_nil_iff, List.all_eq_true]
  constructor
  · intro h
    have hnil : cs.dropWhile isBlank = [] := by
      cases hdrop : cs.dropWhile isBlank with
      | nil => rfl
      | cons c rest =>
        have hhead := List.head?_dropWhile_not isBlank cs
        rw [hdrop] at h hhead
        have hblank : isBlank c = false := hhead
        rw [h c List.mem_cons_self] at hblank
        cases hblank
    exact List.dropWhile_eq_nil_iff.mp hnil
  · intro h c hc
    rw [List.dropWhile_eq_nil_iff.mpr h] at hc
    cases hc

theorem trim_eq_empty_iff {s : String} : trim s = "" ↔ isAllBlank s = true := by
  unfold trim isAllBlank
  rw [← trimChars_eq_nil_iff]
  constructor
  · intro h
    simpa using congrArg String.toList h
  · intro h
    rw [h]

end Text
end RelayDesk
