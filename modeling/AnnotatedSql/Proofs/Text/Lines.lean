import AnnotatedSql.Text.Lines
import Mathlib.Data.List.Basic

/-!
# Lines

Lines that hold no newline are read back from the text that joins them.
-/

set_option autoImplicit false

namespace AnnotatedSql.Text

/-- What lies between the occurrences of an element does not hold it. -/
theorem not_mem_of_mem_splitOn {α : Type} [BEq α] [LawfulBEq α] {a : α} {xs part : List α}
    (h : part ∈ xs.splitOn a) : a ∉ part := by
  induction xs generalizing part with
  | nil =>
    have hpart : part = [] := by simpa using h
    simp [hpart]
  | cons x rest ih =>
    rw [List.splitOn_cons_eq_if_modifyHead] at h
    split at h
    · rcases List.mem_cons.mp h with rfl | h
      · simp
      · exact ih h
    · next hx =>
      cases hrest : rest.splitOn a with
      | nil => exact absurd hrest (List.splitOn_ne_nil a rest)
      | cons first others =>
        rw [hrest, List.modifyHead_cons] at h
        rcases List.mem_cons.mp h with rfl | h
        · have hfirst : a ∉ first := ih (by rw [hrest]; exact List.mem_cons_self)
          have hne : a ≠ x := by
            rintro rfl
            simp at hx
          simp [hne, hfirst]
        · exact ih (by rw [hrest]; exact List.mem_cons_of_mem _ h)

/-- No line holds a newline. -/
theorem newline_not_mem_of_mem_lines {s line : String} (h : line ∈ lines s) :
    '\n' ∉ line.toList := by
  obtain ⟨part, hpart, rfl⟩ := List.mem_map.mp h
  rw [String.toList_ofList]
  exact not_mem_of_mem_splitOn hpart

/-- A text has a line. -/
theorem lines_ne_nil (s : String) : lines s ≠ [] := by
  rw [lines, Ne, List.map_eq_nil_iff]
  exact List.splitOn_ne_nil '\n' s.toList

/-- The lines of two texts with a newline between are those of the one and then of the other. -/
theorem lines_append (a b : String) : lines (a ++ "\n" ++ b) = lines a ++ lines b := by
  have htext : (a ++ "\n" ++ b).toList = a.toList ++ '\n' :: b.toList := by
    rw [String.toList_append, String.toList_append, List.append_assoc]
    rfl
  rw [lines, htext, List.splitOn_append_cons_self, List.map_append]
  rfl

/-- A text is what lies between the occurrences of a character, joined by that character. -/
theorem intercalate_splitOn {separator : String} {c : Char} (h : separator.toList = [c])
    (s : String) : separator.intercalate ((s.toList.splitOn c).map String.ofList) = s := by
  apply String.toList_inj.mp
  rw [String.toList_intercalate, h, List.map_map]
  have hmap : (s.toList.splitOn c).map (String.toList ∘ String.ofList) = s.toList.splitOn c := by
    conv_rhs => rw [← List.map_id (s.toList.splitOn c)]
    apply List.map_congr_left
    intro part _
    exact String.toList_ofList
  rw [hmap]
  exact List.intercalate_splitOn c

/-- Texts without a character are what lies between its occurrences in the text that joins them. -/
theorem splitOn_intercalate {separator : String} {c : Char} (h : separator.toList = [c])
    {parts : List String} (hne : parts ≠ []) (hparts : ∀ part ∈ parts, c ∉ part.toList) :
    ((separator.intercalate parts).toList.splitOn c).map String.ofList = parts := by
  rw [String.toList_intercalate, h]
  have hsplit : ([c].intercalate (parts.map String.toList)).splitOn c =
      parts.map String.toList := by
    apply List.splitOn_intercalate
    · intro part hpart
      obtain ⟨whole, hwhole, rfl⟩ := List.mem_map.mp hpart
      exact hparts whole hwhole
    · simpa using hne
  rw [hsplit, List.map_map]
  conv_rhs => rw [← List.map_id parts]
  apply List.map_congr_left
  intro part _
  exact String.ofList_toList

/-- A text is its lines joined. -/
theorem unlines_lines (s : String) : unlines (lines s) = s :=
  intercalate_splitOn rfl s

/-- Lines without newlines are the lines of the text that joins them. -/
theorem lines_unlines {ls : List String} (hne : ls ≠ []) (h : ∀ line ∈ ls, '\n' ∉ line.toList) :
    lines (unlines ls) = ls :=
  splitOn_intercalate rfl hne h

end AnnotatedSql.Text
