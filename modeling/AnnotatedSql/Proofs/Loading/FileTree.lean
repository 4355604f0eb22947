import AnnotatedSql.Loading.Files
import AnnotatedSql.Proofs.Entries
import AnnotatedSql.Proofs.Outcome
import Mathlib.Data.List.Nodup

/-!
# Trees of files

A file system lists the entries of a folder in any order. What paths lead to does not depend on it,
and putting all entries in alphabetical order makes two listings of a tree the same. The SQL files
of a tree are those in the folder itself and those in the folders within.
-/

set_option autoImplicit false

namespace AnnotatedSql

/-- An SQL file below a folder. -/
structure SqlFile where
  /-- The folders that lead to it. -/
  folders : List String
  /-- Its name. -/
  name : String

namespace SqlFile

/-- The file as it is seen from the folder around. -/
def within (outer : String) (f : SqlFile) : SqlFile :=
  { f with folders := outer :: f.folders }

/-- The path to the file, where a path to the folder is given. -/
def path (f : SqlFile) (folder : FilePath) : FilePath :=
  { folder with parts := folder.parts ++ (f.folders ++ [f.name]) }

/-- A file in a folder within has the path of the file in that folder. -/
theorem path_within (f : SqlFile) (outer : String) (folder : FilePath) :
    (f.within outer).path folder = f.path (folder.child outer) := by
  simp [path, within, FilePath.child]

end SqlFile

namespace FileNode

/-- In no folder of the tree do two entries have the same name. -/
inductive Distinct : FileNode → Prop where
  /-- A file. -/
  | file (content : List UInt8) : Distinct (.file content)
  /-- A folder. -/
  | folder {entries : List (String × FileNode)} (names_nodup : (entries.map Prod.fst).Nodup)
    (distinct_within : ∀ e ∈ entries, Distinct e.2) : Distinct (.folder entries)

/-- The entries of every folder are listed in alphabetical order. -/
inductive Ordered : FileNode → Prop where
  /-- A file. -/
  | file (content : List UInt8) : Ordered (.file content)
  /-- A folder. -/
  | folder {entries : List (String × FileNode)}
    (names_increase : entries.Pairwise fun a b => a.1 < b.1)
    (ordered_within : ∀ e ∈ entries, Ordered e.2) : Ordered (.folder entries)

/-- The same tree, with the entries of folders listed in another order. -/
inductive Relisted : FileNode → FileNode → Prop where
  /-- In the same order. -/
  | refl (node : FileNode) : Relisted node node
  /-- In one order after another. -/
  | trans {node middle last : FileNode} (hfirst : Relisted node middle)
    (hlast : Relisted middle last) : Relisted node last
  /-- The entries of a folder in another order. -/
  | entries {before after : List (String × FileNode)} (hperm : before.Perm after) :
    Relisted (.folder before) (.folder after)
  /-- Those of a folder within. -/
  | within {before after : List (String × FileNode)} {name : String} {node other : FileNode}
    (hnode : Relisted node other) :
    Relisted (.folder (before ++ (name, node) :: after))
      (.folder (before ++ (name, other) :: after))

/-- The SQL files among the entries of a folder. -/
def ownSqlFiles (entries : List (String × FileNode)) : List SqlFile :=
  entries.filterMap fun
    | (name, .file _) => if FilePath.suffixOf name = Loader.sqlSuffix then some ⟨[], name⟩ else none
    | (_, .folder _) => none

mutual

/-- The SQL files of a tree: those of the folder itself, and then those of the folders within. -/
def sqlFiles : FileNode → List SqlFile
  | file _ => []
  | folder entries => ownSqlFiles entries ++ sqlFilesWithin entries

/-- The SQL files of the folders among entries. -/
def sqlFilesWithin : List (String × FileNode) → List SqlFile
  | [] => []
  | (name, node) :: rest => (sqlFiles node).map (SqlFile.within name) ++ sqlFilesWithin rest

end

section Order

variable {node other : FileNode} {entries : List (String × FileNode)}

/-- Whether names are different can be told folder by folder. -/
theorem distinct_folder_iff :
    (folder entries).Distinct ↔
      (entries.map Prod.fst).Nodup ∧ ∀ e ∈ entries, e.2.Distinct := by
  constructor
  · intro h
    cases h with
    | folder hnodup hwithin => exact ⟨hnodup, hwithin⟩
  · rintro ⟨hnodup, hwithin⟩
    exact .folder hnodup hwithin

/-- Putting an entry in its place only adds it. -/
theorem perm_insertEntry (entry : String × FileNode) (entries : List (String × FileNode)) :
    (insertEntry entry entries).Perm (entry :: entries) := by
  induction entries with
  | nil => exact .refl _
  | cons first rest ih =>
    rw [insertEntry]
    split
    · exact .refl _
    · exact (ih.cons first).trans (.swap entry first rest)

/-- Putting entries in order keeps them, each put in order. -/
theorem perm_entriesInOrder (entries : List (String × FileNode)) :
    (entriesInOrder entries).Perm (entries.map fun e => (e.1, e.2.inOrder)) := by
  induction entries with
  | nil => exact .refl _
  | cons e rest ih =>
    rw [entriesInOrder, List.map_cons]
    exact (perm_insertEntry _ _).trans (ih.cons _)

/-- Names increase strictly after a new one is put in its place. -/
theorem pairwise_insertEntry {entry : String × FileNode}
    (hincrease : entries.Pairwise fun a b => a.1 < b.1) (hnew : ∀ e ∈ entries, entry.1 ≠ e.1) :
    (insertEntry entry entries).Pairwise fun a b => a.1 < b.1 := by
  induction entries with
  | nil => exact List.pairwise_singleton _ _
  | cons first rest ih =>
    obtain ⟨hfirst, hrest⟩ := List.pairwise_cons.mp hincrease
    obtain ⟨hne, hothers⟩ := List.forall_mem_cons.mp hnew
    rw [insertEntry]
    split
    · next hle =>
      have hlt := Std.lt_of_le_of_ne hle hne
      have hall : ∀ e ∈ first :: rest, entry.1 < e.1 :=
        List.forall_mem_cons.mpr ⟨hlt, fun e he => String.lt_trans hlt (hfirst e he)⟩
      exact .cons hall hincrease
    · next hnot =>
      refine .cons ?_ (ih hrest hothers)
      intro e he
      rcases List.mem_cons.mp ((perm_insertEntry entry rest).mem_iff.mp he) with rfl | he
      · exact String.not_le.mp hnot
      · exact hfirst e he

/-- Entries with different names increase strictly when they are put in order. -/
theorem pairwise_entriesInOrder (h : (entries.map Prod.fst).Nodup) :
    (entriesInOrder entries).Pairwise fun a b => a.1 < b.1 := by
  induction entries with
  | nil => exact List.Pairwise.nil
  | cons e rest ih =>
    obtain ⟨hnew, hrest⟩ := List.nodup_cons.mp h
    rw [entriesInOrder]
    apply pairwise_insertEntry (ih hrest)
    intro entry hentry heq
    obtain ⟨before, hbefore, rfl⟩ :=
      List.mem_map.mp ((perm_entriesInOrder rest).mem_iff.mp hentry)
    exact hnew (List.mem_map.mpr ⟨before, hbefore, heq.symm⟩)

/-- There is one order in which the names of entries increase. -/
theorem eq_of_perm_of_increasing {others : List (String × FileNode)}
    (hperm : entries.Perm others) (hentries : entries.Pairwise fun a b => a.1 < b.1)
    (hothers : others.Pairwise fun a b => a.1 < b.1) : entries = others := by
  refine List.Perm.eq_of_pairwise ?_ hentries hothers hperm
  intro a b _ _ hlt hgt
  exact absurd hgt (String.lt_asymm hlt)

/-- A tree that is put in order is ordered. -/
theorem Distinct.ordered_inOrder (h : node.Distinct) : node.inOrder.Ordered := by
  induction h with
  | file content => exact .file content
  | @folder entries hnodup _ ih =>
    rw [inOrder]
    refine .folder (pairwise_entriesInOrder hnodup) ?_
    intro e he
    obtain ⟨e', he', rfl⟩ := List.mem_map.mp ((perm_entriesInOrder entries).mem_iff.mp he)
    exact ih e' he'

/-- A tree that is ordered stays when it is put in order. -/
theorem Ordered.inOrder_eq (h : node.Ordered) : node.inOrder = node := by
  induction h with
  | file content => rfl
  | @folder entries hincrease _ ih =>
    have heach : entries.map (fun e => (e.1, e.2.inOrder)) = entries := by
      conv_rhs => rw [← List.map_id entries]
      apply List.map_congr_left
      intro e he
      rw [ih e he]
      rfl
    have hperm := perm_entriesInOrder entries
    rw [heach] at hperm
    have hnodup : (entries.map Prod.fst).Nodup :=
      List.pairwise_map.mpr (hincrease.imp fun hlt => Std.ne_of_lt hlt)
    rw [inOrder, eq_of_perm_of_increasing hperm (pairwise_entriesInOrder hnodup) hincrease]

/-- Listings of the same entries with different names are put in the same order. -/
theorem entriesInOrder_eq_of_perm {before after : List (String × FileNode)}
    (hnodup : (before.map Prod.fst).Nodup) (hperm : before.Perm after) :
    entriesInOrder before = entriesInOrder after := by
  have hnodup' : (after.map Prod.fst).Nodup := (hperm.map Prod.fst).nodup_iff.mp hnodup
  have hsame : (entriesInOrder before).Perm (entriesInOrder after) :=
    (perm_entriesInOrder before).trans ((hperm.map _).trans (perm_entriesInOrder after).symm)
  exact eq_of_perm_of_increasing hsame (pairwise_entriesInOrder hnodup)
    (pairwise_entriesInOrder hnodup')

/-- An entry may be put in order before. -/
theorem entriesInOrder_congr {before after : List (String × FileNode)} {name : String}
    (h : node.inOrder = other.inOrder) :
    entriesInOrder (before ++ (name, node) :: after) =
      entriesInOrder (before ++ (name, other) :: after) := by
  induction before with
  | nil => rw [List.nil_append, List.nil_append, entriesInOrder, entriesInOrder, h]
  | cons e rest ih => rw [List.cons_append, List.cons_append, entriesInOrder, entriesInOrder, ih]

/-- A tree that is listed in another order is put in the same order, and names stay different. -/
theorem Relisted.inOrder_eq (h : Relisted node other) (hnode : node.Distinct) :
    node.inOrder = other.inOrder ∧ other.Distinct := by
  induction h with
  | refl node => exact ⟨rfl, hnode⟩
  | trans _ _ ihfirst ihlast =>
    obtain ⟨hsame, hmiddle⟩ := ihfirst hnode
    obtain ⟨hsame', hlast⟩ := ihlast hmiddle
    exact ⟨hsame.trans hsame', hlast⟩
  | entries hperm =>
    cases hnode with
    | folder hnodup hwithin =>
      refine ⟨by rw [inOrder, inOrder, entriesInOrder_eq_of_perm hnodup hperm], ?_⟩
      exact .folder ((hperm.map Prod.fst).nodup_iff.mp hnodup)
        fun e he => hwithin e (hperm.mem_iff.mpr he)
  | @within before after name node other _ ih =>
    cases hnode with
    | folder hnodup hwithin =>
      obtain ⟨hsame, hother⟩ := ih (hwithin (name, node) (by simp))
      constructor
      · rw [inOrder, inOrder, entriesInOrder_congr hsame]
      · refine .folder (by simpa using hnodup) ?_
        intro e he
        rcases List.mem_append.mp he with he | he
        · exact hwithin e (List.mem_append_left _ he)
        · rcases List.mem_cons.mp he with rfl | he
          · exact hother
          · exact hwithin e (List.mem_append_right _ (List.mem_cons_of_mem _ he))

end Order

section Files

variable {node : FileNode} {entries : List (String × FileNode)} {f : SqlFile} {name : String}

/-- An SQL file is the first of its folder's own. -/
@[simp]
theorem ownSqlFiles_cons_sql {bytes : List UInt8}
    (h : FilePath.suffixOf name = Loader.sqlSuffix) :
    ownSqlFiles ((name, file bytes) :: entries) = ⟨[], name⟩ :: ownSqlFiles entries := by
  simp [ownSqlFiles, h]

/-- A file without the suffix is none of its folder's SQL files. -/
@[simp]
theorem ownSqlFiles_cons_other {bytes : List UInt8}
    (h : FilePath.suffixOf name ≠ Loader.sqlSuffix) :
    ownSqlFiles ((name, file bytes) :: entries) = ownSqlFiles entries := by
  simp [ownSqlFiles, h]

/-- A folder is none of the SQL files of the folder around. -/
@[simp]
theorem ownSqlFiles_cons_folder {inner : List (String × FileNode)} :
    ownSqlFiles ((name, folder inner) :: entries) = ownSqlFiles entries := by
  simp [ownSqlFiles]

/-- In a file there are no files. -/
@[simp]
theorem sqlFilesWithin_cons_file {bytes : List UInt8} :
    sqlFilesWithin ((name, file bytes) :: entries) = sqlFilesWithin entries := by
  simp [sqlFilesWithin, sqlFiles]

/-- The SQL files of a folder within come first. -/
@[simp]
theorem sqlFilesWithin_cons_folder {inner : List (String × FileNode)} :
    sqlFilesWithin ((name, folder inner) :: entries) =
      (folder inner).sqlFiles.map (SqlFile.within name) ++ sqlFilesWithin entries := by
  rw [sqlFilesWithin]

/-- The SQL files of the folders among entries are those of each of them. -/
theorem sqlFilesWithin_eq_flatMap (entries : List (String × FileNode)) :
    sqlFilesWithin entries = entries.flatMap fun e => e.2.sqlFiles.map (SqlFile.within e.1) := by
  induction entries with
  | nil => rfl
  | cons e rest ih => rw [sqlFilesWithin, ih, List.flatMap_cons]

/-- No folder leads to a file of the folder itself. -/
theorem folders_eq_nil_of_mem (h : f ∈ ownSqlFiles entries) : f.folders = [] := by
  obtain ⟨⟨name, _ | _⟩, _, heq⟩ := List.mem_filterMap.mp h
  · simp only [Option.ite_none_right_eq_some, Option.some.injEq] at heq
    obtain ⟨_, rfl⟩ := heq
    rfl
  · cases heq

/-- The files below a folder within are files of the folders among the entries. -/
theorem exists_below_iff {outer : String} {rest : List String} :
    (∃ f ∈ (folder entries).sqlFiles, outer :: rest <+: f.folders) ↔
      ∃ f ∈ sqlFilesWithin entries, outer :: rest <+: f.folders := by
  constructor
  · rintro ⟨f, hf, hprefix⟩
    rw [sqlFiles, List.mem_append] at hf
    rcases hf with hf | hf
    · rw [folders_eq_nil_of_mem hf] at hprefix
      simp at hprefix
    · exact ⟨f, hf, hprefix⟩
  · rintro ⟨f, hf, hprefix⟩
    exact ⟨f, List.mem_append_right _ hf, hprefix⟩

/-- An SQL file of a folder itself is one of its entries. -/
theorem mem_sqlFiles_nil_iff :
    ⟨[], name⟩ ∈ (folder entries).sqlFiles ↔
      FilePath.suffixOf name = Loader.sqlSuffix ∧ ∃ bytes, (name, file bytes) ∈ entries := by
  have hwithin : (⟨[], name⟩ : SqlFile) ∉ sqlFilesWithin entries := by
    rw [sqlFilesWithin_eq_flatMap, List.mem_flatMap]
    rintro ⟨e, _, hinner⟩
    obtain ⟨inner, _, heq⟩ := List.mem_map.mp hinner
    cases heq
  rw [sqlFiles, List.mem_append, or_iff_left hwithin, ownSqlFiles, List.mem_filterMap]
  constructor
  · rintro ⟨⟨own, _ | _⟩, hmem, heq⟩
    · simp only [Option.ite_none_right_eq_some, Option.some.injEq, SqlFile.mk.injEq,
        true_and] at heq
      obtain ⟨hsuffix, rfl⟩ := heq
      exact ⟨hsuffix, _, hmem⟩
    · cases heq
  · rintro ⟨hsuffix, bytes, hmem⟩
    exact ⟨(name, file bytes), hmem, by simp [hsuffix]⟩

/-- An SQL file of a folder within is one of an entry. -/
theorem mem_sqlFiles_cons_iff {outer : String} {rest : List String} :
    ⟨outer :: rest, name⟩ ∈ (folder entries).sqlFiles ↔
      ∃ node, (outer, node) ∈ entries ∧ ⟨rest, name⟩ ∈ node.sqlFiles := by
  have hown : (⟨outer :: rest, name⟩ : SqlFile) ∉ ownSqlFiles entries := by
    intro hmem
    cases folders_eq_nil_of_mem hmem
  rw [sqlFiles, List.mem_append, or_iff_right hown, sqlFilesWithin_eq_flatMap, List.mem_flatMap]
  constructor
  · rintro ⟨⟨first, node⟩, hmem, hinner⟩
    obtain ⟨⟨folders, own⟩, hfile, heq⟩ := List.mem_map.mp hinner
    cases heq
    exact ⟨node, hmem, hfile⟩
  · rintro ⟨node, hmem, hfile⟩
    exact ⟨(outer, node), hmem, List.mem_map.mpr ⟨⟨rest, name⟩, hfile, rfl⟩⟩

/-- An SQL file has the suffix of SQL files. -/
theorem suffixOf_of_mem_sqlFiles (h : f ∈ node.sqlFiles) :
    FilePath.suffixOf f.name = Loader.sqlSuffix := by
  obtain ⟨folders, name⟩ := f
  induction folders generalizing node with
  | nil =>
    cases node with
    | file bytes => cases h
    | folder entries => exact (mem_sqlFiles_nil_iff.mp h).1
  | cons outer rest ih =>
    cases node with
    | file bytes => cases h
    | folder entries =>
      obtain ⟨inner, _, hinner⟩ := mem_sqlFiles_cons_iff.mp h
      exact ih hinner

/-- The entries that are put in order are the entries, each put in order. -/
theorem mem_entriesInOrder_iff :
    (name, node) ∈ entriesInOrder entries ↔
      ∃ before, (name, before) ∈ entries ∧ before.inOrder = node := by
  rw [(perm_entriesInOrder entries).mem_iff, List.mem_map]
  constructor
  · rintro ⟨⟨key, before⟩, hmem, heq⟩
    obtain ⟨rfl, rfl⟩ := Prod.mk.inj heq
    exact ⟨before, hmem, rfl⟩
  · rintro ⟨before, hmem, rfl⟩
    exact ⟨(name, before), hmem, rfl⟩

/-- Putting a tree in order leaves its SQL files the same. -/
theorem mem_sqlFiles_inOrder_iff : f ∈ node.inOrder.sqlFiles ↔ f ∈ node.sqlFiles := by
  obtain ⟨folders, name⟩ := f
  induction folders generalizing node with
  | nil =>
    cases node with
    | file bytes => rfl
    | folder entries =>
      rw [inOrder, mem_sqlFiles_nil_iff, mem_sqlFiles_nil_iff]
      simp only [mem_entriesInOrder_iff]
      constructor
      · rintro ⟨hsuffix, bytes, before, hmem, heq⟩
        cases before with
        | file content => exact ⟨hsuffix, content, hmem⟩
        | folder inner => simp [inOrder] at heq
      · rintro ⟨hsuffix, bytes, hmem⟩
        exact ⟨hsuffix, bytes, file bytes, hmem, rfl⟩
  | cons outer rest ih =>
    cases node with
    | file bytes => rfl
    | folder entries =>
      rw [inOrder, mem_sqlFiles_cons_iff, mem_sqlFiles_cons_iff]
      simp only [mem_entriesInOrder_iff]
      constructor
      · rintro ⟨_, ⟨before, hmem, rfl⟩, hfile⟩
        exact ⟨before, hmem, ih.mp hfile⟩
      · rintro ⟨before, hmem, hfile⟩
        exact ⟨before.inOrder, ⟨before, hmem, rfl⟩, ih.mpr hfile⟩

/-- The SQL files of an ordered tree are listed by name in every folder, and none is listed
twice. -/
theorem Ordered.pairwise_sqlFiles (h : node.Ordered) :
    node.sqlFiles.Pairwise fun f g => f.folders = g.folders → f.name < g.name := by
  induction h with
  | file content => exact List.Pairwise.nil
  | @folder entries hincrease _ ih =>
    rw [sqlFiles, sqlFilesWithin_eq_flatMap, List.pairwise_append]
    refine ⟨?_, ?_, ?_⟩
    · rw [ownSqlFiles, List.pairwise_filterMap]
      apply hincrease.imp
      rintro ⟨name, _ | _⟩ ⟨name', _ | _⟩ hlt f hf g hg _
      · simp only [Option.ite_none_right_eq_some, Option.some.injEq] at hf hg
        obtain ⟨_, rfl⟩ := hf
        obtain ⟨_, rfl⟩ := hg
        exact hlt
      all_goals simp at hf hg
    · rw [List.pairwise_flatMap]
      constructor
      · intro e he
        rw [List.pairwise_map]
        apply (ih e he).imp
        intro f g hinner hfolders
        exact hinner (List.cons.inj hfolders).2
      · apply hincrease.imp
        intro a b hlt f hf g hg hfolders
        obtain ⟨_, _, rfl⟩ := List.mem_map.mp hf
        obtain ⟨_, _, rfl⟩ := List.mem_map.mp hg
        exact absurd (List.cons.inj hfolders).1 (Std.ne_of_lt hlt)
    · intro f hf g hg hfolders
      rw [folders_eq_nil_of_mem hf] at hfolders
      obtain ⟨_, _, hinner⟩ := List.mem_flatMap.mp hg
      obtain ⟨_, _, rfl⟩ := List.mem_map.mp hinner
      cases hfolders

end Files

section Paths

variable {node found : FileNode} {above : List FileNode} {entries : List (String × FileNode)}
  {names folders : List String} {name : String} {bytes : List UInt8}

/-- Names are followed one after another: what the first of them lead to decides about the rest. -/
theorem follow_append (h : follow above node names = .ok found) :
    ∃ above', ∀ more, follow above node (names ++ more) = follow above' found more := by
  induction names generalizing above node with
  | nil =>
    obtain rfl : node = found := by simpa [follow] using h
    exact ⟨above, fun _ => rfl⟩
  | cons name rest ih =>
    cases node with
    | file content => simp [follow] at h
    | folder entries =>
      simp only [List.cons_append, follow] at h ⊢
      by_cases hup : name = ".."
      · simp only [if_pos hup] at h ⊢
        cases above with
        | nil => exact ih h
        | cons parent others => exact ih h
      · simp only [if_neg hup] at h ⊢
        by_cases hlong : 255 < name.utf8ByteSize
        · simp [hlong] at h
        · simp only [if_neg hlong] at h ⊢
          cases hnode : entries.lookup name with
          | none => simp [hnode] at h
          | some next =>
            simp only [hnode] at h ⊢
            exact ih h

/-- A name that does not go up leads to an entry of a folder. -/
theorem follow_cons_of_ne (hup : name ≠ "..") (h : follow above node (name :: names) = .ok found) :
    ∃ entries next, node = folder entries ∧ entries.lookup name = some next ∧
      follow (folder entries :: above) next names = .ok found := by
  cases node with
  | file content => simp [follow] at h
  | folder entries =>
    simp only [follow, if_neg hup] at h
    split at h
    · cases h
    · cases hnode : entries.lookup name with
      | none => simp [hnode] at h
      | some next =>
        simp only [hnode] at h
        exact ⟨entries, next, rfl, hnode, h⟩

/-- What names lead to without going up is among the SQL files if its name has their suffix. -/
theorem mem_sqlFiles_of_follow (h : follow above node (folders ++ [name]) = .ok (file bytes))
    (hup : ".." ∉ folders) (hsuffix : FilePath.suffixOf name = Loader.sqlSuffix) :
    ⟨folders, name⟩ ∈ node.sqlFiles := by
  induction folders generalizing above node with
  | nil =>
    have hname : name ≠ ".." := by
      rintro rfl
      revert hsuffix
      decide
    obtain ⟨entries, next, rfl, hnext, hlast⟩ := follow_cons_of_ne hname h
    obtain rfl : next = file bytes := by simpa [follow] using hlast
    exact mem_sqlFiles_nil_iff.mpr ⟨hsuffix, bytes, Registry.mem_of_lookup hnext⟩
  | cons outer rest ih =>
    obtain ⟨houter, hrest⟩ : ".." ≠ outer ∧ ".." ∉ rest := by simpa using hup
    obtain ⟨entries, next, rfl, hnext, hlast⟩ := follow_cons_of_ne houter.symm h
    exact mem_sqlFiles_cons_iff.mpr ⟨next, Registry.mem_of_lookup hnext, ih hlast hrest⟩

/-- An entry is found as before when entries are put in order. -/
theorem lookup_entriesInOrder (hnodup : (entries.map Prod.fst).Nodup) (name : String) :
    (entriesInOrder entries).lookup name = (entries.lookup name).map inOrder := by
  have hnodup' : ((entriesInOrder entries).map Prod.fst).Nodup :=
    List.pairwise_map.mpr ((pairwise_entriesInOrder hnodup).imp fun hlt => Std.ne_of_lt hlt)
  rw [Entries.lookup_eq_of_perm hnodup' (perm_entriesInOrder entries)]
  exact Entries.lookup_map_snd inOrder name entries

/-- A folder without entries is in order. -/
theorem inOrder_folder_nil : (folder []).inOrder = folder [] := by
  simp [inOrder, entriesInOrder]

/-- A folder without entries has no two of the same name. -/
theorem distinct_folder_nil : (folder []).Distinct := by
  simp [distinct_folder_iff]

/-- What names lead to is put in order in a tree that is put in order. -/
theorem follow_inOrder {node : FileNode} (above : List FileNode) (names : List String)
    (hnode : node.Distinct) (habove : ∀ n ∈ above, n.Distinct) :
    follow (above.map inOrder) node.inOrder names = (follow above node names).map inOrder := by
  induction names generalizing above node with
  | nil => rfl
  | cons name rest ih =>
    cases hnode with
    | file content => rfl
    | @folder entries hnodup hwithin =>
      rw [inOrder]
      simp only [follow]
      split
      · cases above with
        | nil =>
          have hnone := ih [] distinct_folder_nil habove
          rwa [inOrder_folder_nil] at hnone
        | cons parent others =>
          obtain ⟨hparent, hothers⟩ := List.forall_mem_cons.mp habove
          exact ih others hparent hothers
      · split
        · rfl
        · rw [lookup_entriesInOrder hnodup]
          cases hnext : entries.lookup name with
          | none => rfl
          | some next =>
            have hlast := ih (folder entries :: above) (hwithin _ (Registry.mem_of_lookup hnext))
              (List.forall_mem_cons.mpr ⟨.folder hnodup hwithin, habove⟩)
            rwa [List.map_cons, inOrder] at hlast

/-- In what names lead to no two entries of a folder have the same name either. -/
theorem distinct_of_follow (h : follow above node names = .ok found) (hnode : node.Distinct)
    (habove : ∀ n ∈ above, n.Distinct) : found.Distinct := by
  induction names generalizing above node with
  | nil =>
    obtain rfl : node = found := by simpa [follow] using h
    exact hnode
  | cons name rest ih =>
    by_cases hup : name = ".."
    · cases node with
      | file content => simp [follow] at h
      | folder entries =>
        simp only [follow, if_pos hup] at h
        cases above with
        | nil => exact ih h distinct_folder_nil habove
        | cons parent others =>
          obtain ⟨hparent, hothers⟩ := List.forall_mem_cons.mp habove
          exact ih h hparent hothers
    · obtain ⟨entries, next, rfl, hnext, hlast⟩ := follow_cons_of_ne hup h
      refine ih hlast ?_ (List.forall_mem_cons.mpr ⟨hnode, habove⟩)
      cases hnode with
      | folder hnodup hwithin => exact hwithin _ (Registry.mem_of_lookup hnext)

end Paths

section Root

variable {root node : FileNode} {path : FilePath} {f : SqlFile} {bytes : List UInt8}

/-- The names of a path are followed from where it starts. -/
theorem follow_of_lookup (h : root.lookup path = .ok node) :
    follow [] (if path.start = .here then root else folder []) path.parts = .ok node := by
  unfold lookup at h
  split at h
  · cases h
  · split at h
    · cases h
    · split at h
      · next hstart => rwa [if_pos hstart]
      · next hstart => rwa [if_neg hstart]

/-- A path that leads to a file is found from the folder that a part of it leads to. -/
theorem mem_sqlFiles_of_lookup (hnode : root.lookup path = .ok node)
    (hfile : root.lookup (f.path path) = .ok (file bytes)) (hup : ".." ∉ f.folders)
    (hsuffix : FilePath.suffixOf f.name = Loader.sqlSuffix) : f ∈ node.sqlFiles := by
  obtain ⟨above, hrest⟩ := follow_append (follow_of_lookup hnode)
  have hlast := (hrest (f.folders ++ [f.name])).symm.trans (follow_of_lookup hfile)
  exact mem_sqlFiles_of_follow hlast hup hsuffix

/-- What a path leads to is put in order in a tree that is put in order. -/
theorem lookup_root_inOrder (h : root.Distinct) (path : FilePath) :
    root.inOrder.lookup path = (root.lookup path).map inOrder := by
  have hhere := follow_inOrder [] path.parts h (by simp)
  have hother := follow_inOrder [] path.parts distinct_folder_nil (by simp)
  rw [inOrder_folder_nil] at hother
  unfold lookup
  split
  · rfl
  · split
    · rfl
    · split
      · exact hhere
      · exact hother

/-- In what a path leads to no two entries of a folder have the same name either. -/
theorem Distinct.of_lookup (h : root.Distinct) (hnode : root.lookup path = .ok node) :
    node.Distinct := by
  apply distinct_of_follow (follow_of_lookup hnode) _ (by simp)
  split
  · exact h
  · exact distinct_folder_nil

/-- A path leads to a folder in whatever order entries are listed. -/
theorem isFolder_inOrder (h : root.Distinct) (path : FilePath) :
    root.inOrder.isFolder path = root.isFolder path := by
  unfold isFolder test
  rw [lookup_root_inOrder h]
  cases root.lookup path with
  | error fault => cases fault <;> rfl
  | ok node => cases node <;> rfl

/-- A file is read in whatever order entries are listed. -/
theorem readBytes_inOrder (h : root.Distinct) (path : FilePath) :
    root.inOrder.readBytes path = root.readBytes path := by
  unfold readBytes
  rw [lookup_root_inOrder h]
  split
  · rfl
  · cases root.lookup path with
    | error fault => rfl
    | ok node => cases node <;> rfl

/-- What is read is a file. -/
theorem lookup_of_readBytes (h : root.readBytes path = .ok bytes) :
    root.lookup path = .ok (file bytes) := by
  unfold readBytes at h
  split at h
  · cases h
  · cases hnode : root.lookup path with
    | error fault => simp [hnode] at h
    | ok node =>
      cases node with
      | file content => simpa [hnode] using h
      | folder entries => simp [hnode] at h

/-- A path that leads to a file is that of a file. -/
theorem isFile_of_lookup (h : root.lookup path = .ok (file bytes)) :
    root.isFile path = .ok true := by
  simp only [isFile, test, h]

end Root

end FileNode

end AnnotatedSql
