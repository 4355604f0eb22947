import AnnotatedSql.Proofs.Loading.Files
import AnnotatedSql.Proofs.Registry.Listing

/-!
# What loaded containers list

Containers come from files and folders, and from additions under names of headers and names of
folders. However they come about, listing and looking up agree exactly where no container that leads
to an operation has a point in its name.
-/

set_option autoImplicit false

namespace AnnotatedSql

namespace Loader

variable {loader : Loader} {root : FileNode} {path : FilePath} {events : List Event}
  {r : Registry}

/-- A loaded file adds operations with names of headers. -/
theorem tidy_loadAll {list : List Statement} {later : Registry} (hr : r.Tidy)
    (hstatements : loader.statements root path = .ok list)
    (hlist : r.loadAll list = (later, none)) : later.Tidy := by
  obtain ⟨text, _, hresult⟩ := exists_of_statements_eq hstatements
  have hnamed : ∀ s ∈ list, IsHeaderName s.name := by
    intro s hs
    obtain ⟨_, _, _, hcompiles⟩ := (of_result_compile hresult).1 s hs
    exact hcompiles.isHeaderName
  have hlater := hr.loadAll hnamed
  rwa [hlist] at hlater

/-- Loading entries keeps a container tidy. -/
theorem Loads.tidy {counted last : Counted} {entries : List (String × FileNode)}
    (h : Loads loader root path counted entries last) (hcounted : counted.registry.Tidy) :
    last.registry.Tidy := by
  induction h with
  | done => exact hcounted
  | other _ _ ih => exact ih hcounted
  | file _ hstatements hlist _ ih => exact ih (tidy_loadAll hcounted hstatements hlist)
  | empty _ _ _ _ ih => exact ih hcounted
  | folder _ _ hadd _ ihinner ih =>
    exact ih (hcounted.addChild (ihinner (Registry.Tidy.empty _ _)) hadd)

/-- The container of a file is tidy. -/
theorem tidy_of_loadFile (h : (loader.loadFile root path events).1 = .ok r) : r.Tidy := by
  obtain ⟨list, hstatements, hlist⟩ := loadFile_eq_ok_iff.mp h
  exact tidy_loadAll (Registry.Tidy.empty _ _) hstatements hlist

/-- The container of a folder is tidy. -/
theorem tidy_of_loadFolder (h : (loader.loadFolder root path events).1 = .ok r) : r.Tidy := by
  obtain ⟨_, _, _, hloads, rfl⟩ := loads_of_loadFolder h
  exact hloads.tidy (Registry.Tidy.empty _ _)

end Loader

namespace Registry

/-- How containers come about: they are loaded from files and folders, or made empty, and to each of
them, also within another one, operations and containers are added. -/
inductive Reachable : Registry → Prop where
  /-- A new container. -/
  | empty (adapter : Adapter) (settings : Settings) : Reachable (empty adapter settings)
  /-- The container of a file. -/
  | file {loader : Loader} {root : FileNode} {path : FilePath} {events : List Event} {r : Registry}
    (hload : (loader.loadFile root path events).1 = .ok r) : Reachable r
  /-- The container of a folder. -/
  | folder {loader : Loader} {root : FileNode} {path : FilePath} {events : List Event}
    {r : Registry} (hload : (loader.loadFolder root path events).1 = .ok r) : Reachable r
  /-- An operation was added. -/
  | addOperation {r later : Registry} {name : String} {op : Operation} (hr : Reachable r)
    (hname : IsHeaderName name) (hadd : r.addOperation name op = .ok later) : Reachable later
  /-- A container was added. -/
  | addChild {r later child : Registry} {name : String} (hr : Reachable r)
    (hchild : Reachable child) (hadd : r.addChild name child = .ok later) : Reachable later
  /-- A container within was changed. -/
  | changeChild {r changed : Registry} (name : String) (hr : Reachable r)
    (hchanged : Reachable changed) : Reachable (r.putAt changed [name])

/-- However a container comes about, it is tidy. -/
theorem Reachable.tidy {r : Registry} (h : r.Reachable) : r.Tidy := by
  induction h with
  | empty adapter settings => exact Tidy.empty adapter settings
  | file hload => exact Loader.tidy_of_loadFile hload
  | folder hload => exact Loader.tidy_of_loadFolder hload
  | addOperation _ hname hadd ih => exact ih.addOperation hname hadd
  | addChild _ _ hadd ih ihchild => exact ih.addChild ihchild hadd
  | changeChild name _ _ ih ihchanged => exact ih.putAt ihchanged name

/-- However a container comes about, listing and looking up agree exactly where no container that
leads to an operation has a point in its name. -/
theorem agrees_iff_undivided {r : Registry} (h : r.Reachable) : r.Agrees ↔ r.Undivided :=
  h.tidy.agrees_iff

/-- A folder with one SQL file, which is in a folder within. -/
def folderWithin (name : String) : FileNode :=
  .folder [("d", .folder
    [(name, .folder [("x.sql", .file "-- name: c!\nselect 1\n/\n".toUTF8.toList)])])]

/-- What comes of loading such a folder. -/
def loadedWithin (name : String) : Except Failure Registry :=
  (Loader.loadFolder ⟨.standard, .standard, "utf-8"⟩ (folderWithin name) (.ofString "d") []).1

/-- The operation of a file in a folder without a point in its name is listed and found. -/
theorem agrees_loadedWithin :
    ∃ r, loadedWithin "a" = .ok r ∧ r.available = ["a.c"] ∧ r.Agrees := by
  have hread : ((loadedWithin "a").map fun r => (r.available, r.placed.map Prod.fst)).toOption =
      some (["a.c"], [["a", "c"]]) := by decide +kernel
  cases hload : loadedWithin "a" with
  | error e => simp [hload, Except.map, Except.toOption] at hread
  | ok r =>
    obtain ⟨hlisted, hplaces⟩ : r.available = ["a.c"] ∧ r.placed.map Prod.fst = [["a", "c"]] := by
      simpa [hload, Except.map, Except.toOption] using hread
    have hreachable : r.Reachable := .folder hload
    have hplain : r.Undivided := by
      rw [hreachable.tidy.undivided_iff, hplaces]
      decide
    exact ⟨r, rfl, hlisted, (agrees_iff_undivided hreachable).mpr hplain⟩

/-- The operation of a file in a folder with a point in its name is listed, but not found. -/
theorem not_agrees_loadedWithin : ¬ ∀ r : Registry, r.Reachable → r.Agrees := by
  intro h
  have hread : ((loadedWithin "a.b").map fun r =>
      (r.available, (r.get "a.b.c").toOption.isSome)).toOption =
        some (["a.b.c"], false) := by decide +kernel
  cases hload : loadedWithin "a.b" with
  | error e => simp [hload, Except.map, Except.toOption] at hread
  | ok r =>
    obtain ⟨hlisted, hmissing⟩ : r.available = ["a.b.c"] ∧
        (r.get "a.b.c").toOption.isSome = false := by
      simpa [hload, Except.map, Except.toOption] using hread
    obtain ⟨op, hop⟩ := ((h r (.folder hload)).listed_iff "a.b.c").mp (by simp [hlisted])
    simp [hop, Except.toOption] at hmissing

end Registry

end AnnotatedSql
