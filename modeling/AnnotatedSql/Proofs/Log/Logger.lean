import AnnotatedSql.Log.Logger
import Mathlib.Data.List.Nodup

/-!
# Loggers that are asked for

A logger asked for by name lies within the hierarchy of the root, unless its name merely starts like
that of the root, and it carries the filter once however often it is asked for. The root asked for
without a name is handed out as it is, with or without the filter.
-/

set_option autoImplicit false

namespace AnnotatedSql.Log

/-- A name is that of the root or of a logger below it. -/
def IsWithin (name : String) : Prop :=
  name = rootName ∨ ∃ rest, name = rootName ++ "." ++ rest

/-- A name starts like that of the root, but what follows sets it apart. -/
def IsLookalike (name : String) : Prop :=
  (∃ rest, name = rootName ++ rest) ∧ ¬ IsWithin name

/-- The name of the root is looked for in front of a name. -/
theorem isPrefixOf_rootName_iff (name : String) :
    rootName.toList.isPrefixOf name.toList = true ↔ ∃ rest, name = rootName ++ rest := by
  rw [List.isPrefixOf_iff_prefix]
  constructor
  · rintro ⟨rest, h⟩
    exact ⟨String.ofList rest, String.toList_inj.mp (by rw [String.toList_append, ← h,
      String.toList_ofList])⟩
  · rintro ⟨rest, rfl⟩
    exact ⟨rest.toList, String.toList_append.symm⟩

/-- A name that starts like that of the root is kept. -/
theorem fullName_of_starts {name : String} (h : ∃ rest, name = rootName ++ rest) :
    fullName (some name) = name :=
  if_pos ((isPrefixOf_rootName_iff name).mpr h)

/-- Every other name is put below the root. -/
theorem fullName_of_not_starts {name : String} (h : ¬ ∃ rest, name = rootName ++ rest) :
    fullName (some name) = rootName ++ "." ++ name :=
  if_neg fun hstarts => h ((isPrefixOf_rootName_iff name).mp hstarts)

/-- Only a name that merely starts like that of the root leads out of its hierarchy. -/
theorem isWithin_fullName_iff (name : Option String) :
    IsWithin (fullName name) ↔ ∀ n, name = some n → ¬ IsLookalike n := by
  cases name with
  | none => exact ⟨fun _ n hn => absurd hn (Option.some_ne_none n).symm, fun _ => Or.inl rfl⟩
  | some name =>
    by_cases hstarts : ∃ rest, name = rootName ++ rest
    · rw [fullName_of_starts hstarts]
      constructor
      · rintro hwithin n ⟨⟩ hlike
        exact hlike.2 hwithin
      · intro h
        exact not_not.mp fun hout => h name rfl ⟨hstarts, hout⟩
    · rw [fullName_of_not_starts hstarts]
      refine ⟨?_, fun _ => Or.inr ⟨name, rfl⟩⟩
      rintro _ n ⟨⟩ hlike
      exact hstarts hlike.1

/-- The root is asked for by no other name than its own. -/
theorem fullName_eq_rootName_iff (name : String) :
    fullName (some name) = rootName ↔ name = rootName := by
  constructor
  · intro h
    by_cases hstarts : ∃ rest, name = rootName ++ rest
    · rwa [fullName_of_starts hstarts] at h
    · rw [fullName_of_not_starts hstarts] at h
      have hlength := congrArg String.length h
      simp only [String.length_append] at hlength
      have hpoint : ".".length = 1 := rfl
      omega
  · rintro rfl
    exact fullName_of_starts ⟨"", String.append_empty.symm⟩

namespace Loggers

variable {loggers : Loggers}

/-- How many filters a logger carries. -/
def filterCount (loggers : Loggers) (name : String) : ℕ :=
  loggers.filtered.count name

/-- Asks for loggers, one after another. -/
def getAll (loggers : Loggers) (names : List (Option String)) : Loggers :=
  names.foldl (fun l name => (l.get name).2) loggers

/-- The name of a logger that is handed out does not depend on the others. -/
theorem get_fst (loggers : Loggers) (name : Option String) :
    (loggers.get name).1 = fullName name := by
  cases name <;> rfl

/-- Afterwards a logger asked for by name has the filter, and all else is as before. -/
theorem mem_get_iff (name : Option String) (full : String) :
    full ∈ (loggers.get name).2.filtered ↔
      full ∈ loggers.filtered ∨ ∃ n, name = some n ∧ fullName (some n) = full := by
  cases name with
  | none => simp [get]
  | some name =>
    simp only [get]
    split
    · next hcarries =>
      have hmem : fullName (some name) ∈ loggers.filtered := List.contains_iff_mem.mp hcarries
      constructor
      · exact Or.inl
      · rintro (h | ⟨n, ⟨⟩, rfl⟩)
        · exact h
        · exact hmem
    · simp only [List.mem_append, List.mem_singleton]
      constructor
      · rintro (h | rfl)
        · exact Or.inl h
        · exact Or.inr ⟨name, rfl, rfl⟩
      · rintro (h | ⟨n, ⟨⟩, rfl⟩)
        · exact Or.inl h
        · exact Or.inr rfl

/-- Asking for a logger gives none the filter twice. -/
theorem nodup_get (h : loggers.filtered.Nodup) (name : Option String) :
    (loggers.get name).2.filtered.Nodup := by
  cases name with
  | none => exact h
  | some name =>
    simp only [get]
    split
    · exact h
    · next hcarries =>
      have hnew : fullName (some name) ∉ loggers.filtered := fun hmem =>
        hcarries (List.contains_iff_mem.mpr hmem)
      exact List.nodup_append.mpr ⟨h, List.nodup_singleton _, fun a ha b hb hab =>
        hnew (List.mem_singleton.mp hb ▸ hab ▸ ha)⟩

/-- Whoever was asked for by name has the filter in the end. -/
theorem mem_getAll_iff (names : List (Option String)) (full : String) :
    full ∈ (loggers.getAll names).filtered ↔
      full ∈ loggers.filtered ∨ ∃ n, some n ∈ names ∧ fullName (some n) = full := by
  induction names generalizing loggers with
  | nil => simp [getAll]
  | cons name rest ih =>
    have hstep : loggers.getAll (name :: rest) = (loggers.get name).2.getAll rest := rfl
    rw [hstep, ih, mem_get_iff, or_assoc]
    refine or_congr_right ⟨?_, ?_⟩
    · rintro (⟨n, rfl, hfull⟩ | ⟨n, hn, hfull⟩)
      · exact ⟨n, List.mem_cons_self, hfull⟩
      · exact ⟨n, List.mem_cons_of_mem _ hn, hfull⟩
    · rintro ⟨n, hn, hfull⟩
      rcases List.mem_cons.mp hn with rfl | hn
      · exact Or.inl ⟨n, rfl, hfull⟩
      · exact Or.inr ⟨n, hn, hfull⟩

/-- No sequence of names gives a logger the filter twice. -/
theorem nodup_getAll (h : loggers.filtered.Nodup) (names : List (Option String)) :
    (loggers.getAll names).filtered.Nodup := by
  induction names generalizing loggers with
  | nil => exact h
  | cons name rest ih => exact ih (nodup_get h name)

/-- A logger carries one filter if any. -/
theorem filterCount_eq_one_iff (h : loggers.filtered.Nodup) (name : String) :
    loggers.filterCount name = 1 ↔ name ∈ loggers.filtered := by
  constructor
  · intro hcount
    exact List.count_pos_iff.mp (by rw [← filterCount, hcount]; exact Nat.one_pos)
  · exact List.count_eq_one_of_mem h

/-- Without its first character a text still does not end in one that it did not end in. -/
theorem getLast?_ne_of_cons {a c : Char} {tail : List Char} (h : (a :: tail).getLast? ≠ some c) :
    tail.getLast? ≠ some c := by
  cases tail with
  | nil => exact fun hnone => nomatch hnone
  | cons b rest => rwa [List.getLast?_cons_cons] at h

/-- Going up from a name that has a single point after that of the root leads to the root, whatever
other loggers there are. -/
theorem findsRoot_of_single (loggers : Loggers) {tail : List Char}
    (h : tail.getLast? ≠ some '.') :
    loggers.findsRoot (tail ++ '.' :: rootName.toList.reverse) = true := by
  generalize hname : tail ++ '.' :: rootName.toList.reverse = cs
  induction cs using findsRoot.induct loggers generalizing tail with
  | case1 c rest hknown ih =>
    rw [findsRoot, if_pos hknown, Bool.or_eq_true]
    cases tail with
    | nil =>
      obtain ⟨-, hroot⟩ := List.cons.inj hname
      rw [← hroot, backwards, List.reverse_reverse, String.ofList_toList]
      exact Or.inl (beq_self_eq_true _)
    | cons d tail => exact Or.inr (ih (getLast?_ne_of_cons h) (List.cons.inj hname).2)
  | case2 c rest hknown ih =>
    rw [findsRoot, if_neg hknown]
    cases tail with
    | nil =>
      obtain ⟨-, hroot⟩ := List.cons.inj hname
      rw [← hroot, backwards, List.reverse_reverse, String.ofList_toList] at hknown
      exact absurd (Bool.or_eq_true_iff.mpr (Or.inl (beq_self_eq_true _))) hknown
    | cons d tail =>
      obtain ⟨rfl, hrest⟩ := List.cons.inj hname
      cases tail with
      | nil => exact absurd rfl h
      | cons e tail =>
        exact ih (getLast?_ne_of_cons (getLast?_ne_of_cons h)) (List.cons.inj hrest).2
  | case3 x rest hne ih =>
    cases tail with
    | nil =>
      obtain ⟨rfl, hroot⟩ := List.cons.inj hname
      exact (hne _ _ rfl hroot.symm).elim
    | cons d tail =>
      rw [findsRoot]
      · exact ih (getLast?_ne_of_cons h) (List.cons.inj hname).2
      · exact hne
  | case4 => exact absurd hname (List.append_ne_nil_of_right_ne_nil _ (List.cons_ne_nil _ _))

/-- Going up leads to the root only from below it. -/
theorem exists_of_findsRoot {cs : List Char} (h : loggers.findsRoot cs = true) :
    ∃ tail, cs = tail ++ '.' :: rootName.toList.reverse := by
  induction cs using findsRoot.induct loggers with
  | case1 c rest hknown ih =>
    rw [findsRoot, if_pos hknown, Bool.or_eq_true, beq_iff_eq] at h
    rcases h with hroot | h
    · refine ⟨[], ?_⟩
      rw [← hroot, backwards, String.toList_ofList, List.reverse_reverse, List.nil_append]
    · obtain ⟨tail, htail⟩ := ih h
      exact ⟨'.' :: tail, by rw [htail, List.cons_append]⟩
  | case2 c rest hknown ih =>
    rw [findsRoot, if_neg hknown] at h
    obtain ⟨tail, rfl⟩ := ih h
    exact ⟨'.' :: c :: tail, rfl⟩
  | case3 x rest hne ih =>
    rw [findsRoot] at h
    · obtain ⟨tail, rfl⟩ := ih h
      exact ⟨x :: tail, rfl⟩
    · exact hne
  | case4 => exact nomatch h

/-- The characters of a name below the root, backwards. -/
theorem reverse_toList_below (rest : String) :
    (rootName ++ "." ++ rest).toList.reverse =
      rest.toList.reverse ++ '.' :: rootName.toList.reverse := by
  rw [String.toList_append, String.toList_append, List.reverse_append, List.reverse_append]
  rfl

/-- Only what is within the hierarchy is governed. -/
theorem isWithin_of_governs {name : String} (h : loggers.governs name = true) : IsWithin name := by
  rw [governs, Bool.or_eq_true, beq_iff_eq] at h
  refine h.imp id fun h => ?_
  obtain ⟨tail, htail⟩ := exists_of_findsRoot h
  refine ⟨String.ofList tail.reverse, String.toList_inj.mp (List.reverse_injective ?_)⟩
  rw [reverse_toList_below, String.toList_ofList, List.reverse_reverse, htail]

/-- What is within the hierarchy is governed, unless a second point follows the first. -/
theorem governs_of_isWithin {name : String} (h : IsWithin name)
    (hsingle : ∀ rest, name ≠ rootName ++ ".." ++ rest) : loggers.governs name = true := by
  rw [governs, Bool.or_eq_true, beq_iff_eq]
  refine h.imp id ?_
  rintro ⟨rest, rfl⟩
  rw [reverse_toList_below]
  refine findsRoot_of_single loggers ?_
  rw [List.getLast?_reverse]
  intro hpoint
  obtain ⟨others, hothers⟩ := List.head?_eq_some_iff.mp hpoint
  refine hsingle (String.ofList others) (String.toList_inj.mp ?_)
  simp only [String.toList_append, String.toList_ofList, hothers]
  rfl

/-- The loggers of the library itself carry the filter once. -/
theorem nodup_initial : initial.filtered.Nodup := by decide

/-- The library itself asks for no logger by the name of the root. -/
theorem rootName_not_mem_initial : rootName ∉ initial.filtered := by decide

/-- After any sequence of names a logger that is asked for is within the hierarchy of the root
exactly unless its name merely starts like that of the root. It carries the filter exactly unless it
is the root asked for without a name that has not been asked for by its name before, and no logger
carries it twice. Only what is within the hierarchy is governed, and all of it that has no second
point after the first. -/
theorem get_stays_iff (earlier : List (Option String)) (name : Option String) :
    let asked := (initial.getAll earlier).get name
    (IsWithin asked.1 ↔ ∀ n, name = some n → ¬ IsLookalike n) ∧
      (asked.2.filterCount asked.1 = 1 ↔ name ≠ none ∨ some rootName ∈ earlier) ∧
      (∀ full, asked.2.filterCount full ≤ 1) ∧
      (asked.2.governs asked.1 = true → IsWithin asked.1) ∧
      (IsWithin asked.1 → (∀ rest, asked.1 ≠ rootName ++ ".." ++ rest) →
        asked.2.governs asked.1 = true) := by
  intro asked
  have hnodup : asked.2.filtered.Nodup := nodup_get (nodup_getAll nodup_initial earlier) name
  refine ⟨?_, ?_, List.nodup_iff_count_le_one.mp hnodup, isWithin_of_governs, governs_of_isWithin⟩
  · rw [get_fst]
    exact isWithin_fullName_iff name
  · rw [filterCount_eq_one_iff hnodup, get_fst, mem_get_iff, mem_getAll_iff]
    cases name with
    | none =>
      have hearlier : (∃ n, some n ∈ earlier ∧ fullName (some n) = rootName) ↔
          some rootName ∈ earlier := by
        constructor
        · rintro ⟨n, hn, hfull⟩
          rwa [(fullName_eq_rootName_iff n).mp hfull] at hn
        · exact fun hn => ⟨rootName, hn, (fullName_eq_rootName_iff rootName).mpr rfl⟩
      have hroot : fullName none ∉ initial.filtered := rootName_not_mem_initial
      simp only [hroot, false_or, reduceCtorEq, false_and, exists_false, or_false, ne_eq,
        not_true_eq_false]
      exact hearlier
    | some name =>
      exact iff_of_true (Or.inr ⟨name, rfl, rfl⟩) (Or.inl (Option.some_ne_none name))

/-- A name that merely starts like that of the root leads out of the hierarchy, and the root asked
for without a name has no filter. The logger of a name that starts with a point is below the root by
its name alone. -/
theorem get_can_stray :
    ¬ IsWithin (initial.get (some "sqlincludex")).1 ∧
      (initial.get none).2.filterCount (initial.get none).1 = 0 ∧
      (initial.get (some ".x")).1 = rootName ++ "." ++ ".x" ∧
      (initial.get (some ".x")).2.governs (initial.get (some ".x")).1 = false := by
  refine ⟨?_, by decide, by decide, by decide⟩
  rintro (hroot | ⟨rest, hrest⟩)
  · exact absurd hroot (by decide)
  · have hpoint : (initial.get (some "sqlincludex")).1.toList[10]? = some '.' := by
      rw [hrest, String.toList_append, String.toList_append]
      rfl
    exact absurd hpoint (by decide)

end Loggers

end AnnotatedSql.Log
