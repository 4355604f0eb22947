import Mathlib.Data.List.Basic
import Mathlib.Tactic.Basic

/-!
# Named entries

Arguments, attributes and operations are kept as entries under names, and the first entry of a name
is the one that is found. How entries are found after one was added or left out.
-/

set_option autoImplicit false

namespace AnnotatedSql.Entries

/-- The first of some entries is found under its own name alone. -/
theorem lookup_cons_ite {α : Type} (name key : String) (a : α) (entries : List (String × α)) :
    ((name, a) :: entries).lookup key = if key = name then some a else entries.lookup key := by
  rw [List.lookup_cons]
  by_cases hkey : key = name
  · simp [hkey]
  · have hne : (key == name) = false := by simp [hkey]
    simp [hne, hkey]

/-- Nothing is found under a name that is not that of the first entry, nor of any other. -/
theorem lookup_cons_eq_none_iff {α : Type} {name key : String} {a : α}
    {entries : List (String × α)} :
    ((name, a) :: entries).lookup key = none ↔ key ≠ name ∧ entries.lookup key = none := by
  rw [lookup_cons_ite]
  by_cases hkey : key = name
  · simp [hkey]
  · simp [hkey]

/-- Among the entries of some names, these names are found as before. -/
theorem lookup_filter {α : Type} (p : String → Bool) (key : String) (entries : List (String × α)) :
    (entries.filter fun e => p e.1).lookup key = if p key then entries.lookup key else none := by
  induction entries with
  | nil => simp
  | cons e rest ih =>
    obtain ⟨name, a⟩ := e
    rw [List.filter_cons, lookup_cons_ite]
    by_cases hp : p name = true
    · simp only [hp, if_true]
      rw [lookup_cons_ite, ih]
      by_cases hkey : key = name
      · simp [hkey, hp]
      · simp [hkey]
    · simp only [hp, if_false, Bool.false_eq_true]
      rw [ih]
      by_cases hkey : key = name
      · simp [hkey, hp]
      · simp [hkey]

/-- Among entries without those of one name, every other name is found as before. -/
theorem lookup_filter_ne {α : Type} (name key : String) (entries : List (String × α)) :
    (entries.filter fun e => e.1 != name).lookup key =
      if key = name then none else entries.lookup key := by
  rw [lookup_filter fun key => key != name]
  by_cases hkey : key = name
  · simp [hkey]
  · simp [hkey]

/-- What is added at the end under a new name is found there. -/
theorem lookup_concat {α : Type} {name : String} {a : α} {entries : List (String × α)}
    (hfree : entries.lookup name = none) (key : String) :
    (entries ++ [(name, a)]).lookup key = if key = name then some a else entries.lookup key := by
  rw [List.lookup_append, lookup_cons_ite]
  by_cases hkey : key = name
  · simp [hkey, hfree]
  · simp [hkey]

/-- What is found among changed entries is what is found among the entries, changed. -/
theorem lookup_map_snd {α β : Type} (f : α → β) (name : String) (entries : List (String × α)) :
    (entries.map fun e => (e.1, f e.2)).lookup name = (entries.lookup name).map f := by
  induction entries with
  | nil => rfl
  | cons first rest ih =>
    obtain ⟨key, a⟩ := first
    rw [List.map_cons, lookup_cons_ite, lookup_cons_ite, ih]
    split <;> rfl

/-- What is found is there. -/
theorem mem_of_lookup {α : Type} {name : String} {a : α} {entries : List (String × α)}
    (h : entries.lookup name = some a) : (name, a) ∈ entries := by
  obtain ⟨before, after, hentries, -⟩ := List.lookup_eq_some_iff.mp h
  rw [hentries]
  exact List.mem_append_right _ List.mem_cons_self

/-- Where every name is there once, what is found under a name is what is there. -/
theorem lookup_eq_some_iff {α : Type} {name : String} {a : α} {entries : List (String × α)}
    (hnodup : (entries.map Prod.fst).Nodup) :
    entries.lookup name = some a ↔ (name, a) ∈ entries := by
  induction entries with
  | nil => simp
  | cons first rest ih =>
    obtain ⟨key, b⟩ := first
    obtain ⟨hkey, hrest⟩ := List.nodup_cons.mp hnodup
    rw [lookup_cons_ite, List.mem_cons, Prod.mk.injEq]
    by_cases heq : name = key
    · subst heq
      have hnone : (name, a) ∉ rest := fun hmem => hkey (List.mem_map.mpr ⟨(name, a), hmem, rfl⟩)
      simp [hnone, eq_comm]
    · simp [heq, ih hrest]

/-- The order of entries with different names does not matter to what is found. -/
theorem lookup_eq_of_perm {α : Type} {before after : List (String × α)}
    (hnodup : (before.map Prod.fst).Nodup) (hperm : before.Perm after) (name : String) :
    before.lookup name = after.lookup name := by
  have hnodup' : (after.map Prod.fst).Nodup := (hperm.map Prod.fst).nodup_iff.mp hnodup
  apply Option.ext
  intro a
  rw [lookup_eq_some_iff hnodup, lookup_eq_some_iff hnodup', hperm.mem_iff]

/-- A name among those of some entries is found. -/
theorem lookup_isSome_of_mem {α : Type} {name : String} {entries : List (String × α)}
    (h : name ∈ entries.map Prod.fst) : ∃ a, entries.lookup name = some a := by
  induction entries with
  | nil => cases h
  | cons first rest ih =>
    obtain ⟨key, a⟩ := first
    rw [lookup_cons_ite]
    by_cases heq : name = key
    · exact ⟨a, by simp [heq]⟩
    · obtain ⟨b, hb⟩ := ih (by simpa [heq] using h)
      exact ⟨b, by rw [if_neg heq, hb]⟩

/-- Nothing is found under a name that is not among those of some entries. -/
theorem lookup_eq_none_iff {α : Type} {name : String} {entries : List (String × α)} :
    entries.lookup name = none ↔ name ∉ entries.map Prod.fst := by
  constructor
  · intro hnone hmem
    obtain ⟨a, ha⟩ := lookup_isSome_of_mem hmem
    rw [hnone] at ha
    cases ha
  · intro hmem
    rw [List.lookup_eq_none_iff]
    intro e he
    have hne : name ≠ e.1 := by
      rintro rfl
      exact hmem (List.mem_map_of_mem he)
    simpa using hne

/-- A name that is not found may be added once. -/
theorem nodup_concat {α : Type} {name : String} {a : α} {entries : List (String × α)}
    (hnodup : (entries.map Prod.fst).Nodup) (hfree : entries.lookup name = none) :
    ((entries ++ [(name, a)]).map Prod.fst).Nodup := by
  rw [List.map_append, List.map_singleton, List.nodup_append]
  refine ⟨hnodup, by simp, ?_⟩
  rintro key hmem _ hname rfl
  obtain rfl := List.mem_singleton.mp hname
  obtain ⟨b, hb⟩ := lookup_isSome_of_mem hmem
  rw [hfree] at hb
  cases hb

end AnnotatedSql.Entries
