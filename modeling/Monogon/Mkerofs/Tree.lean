import Monogon.Path
import Mathlib.Data.List.AList

/-! The entry tree `mkerofs` builds from an `FSSpec`. `main` places every directory, then
every file, then every symbolic link at its path: `pathRef` cleans the path, walks it from the
root and creates each missing entry as a directory with mode 0555, and the entry reached gets
the spec's inode. The tree is held flat, as the inode of every entry by the list of names that
leads to it; the children of an entry are the entries one name below it. Where each entry ends
up depends on the spec's entries only, not on the order they are listed in, once their cleaned
paths are distinct. -/

namespace Monogon.Mkerofs
open Monogon.Path

abbrev Name := List Char

/-- `fsspec.Directory`. -/
structure Directory where
  path : List Char
  mode : UInt32
  uid : UInt32
  gid : UInt32
deriving DecidableEq, Repr, Inhabited

/-- `fsspec.File`. -/
structure File where
  path : List Char
  sourcePath : List Char
  mode : UInt32
  uid : UInt32
  gid : UInt32
deriving DecidableEq, Repr

/-- `fsspec.SymbolicLink`. -/
structure SymbolicLink where
  path : List Char
  targetPath : List Char
deriving DecidableEq, Repr

/-- `fsspec.Inode`. -/
inductive Inode where
  | directory (d : Directory)
  | file (f : File)
  | symbolicLink (l : SymbolicLink)
deriving DecidableEq, Repr, Inhabited

/-- `fsspec.FSSpec`; of the special files only their number is read. -/
structure FSSpec where
  directory : List Directory
  file : List File
  symbolicLink : List SymbolicLink
  specialFiles : Nat
deriving DecidableEq, Repr

/-- The entries of the tree: inodes by the names leading to them. -/
abbrev Tree := AList (fun _ : List Name => Inode)

/-- The inode of every entry `pathRef` creates, and of the root. -/
def defaultDirectory : Inode :=
  .directory ⟨[], 0o555, 0, 0⟩

/-- `fsRoot`. -/
def fsRoot : Tree :=
  (∅ : Tree).insert [] defaultDirectory

/-- `path.Clean("./"+p)`. -/
def cleanedPath (p : List Char) : List Char :=
  clean ('.' :: '/' :: p)

/-- The names `pathRef` walks for `p`. -/
def pathParts (p : List Char) : List Name :=
  let pathParts := (cleanedPath p).splitOn '/'
  if pathParts.head? = some ['.'] then pathParts.tail else pathParts

/-- The loop of `pathRef` from `entryRef`: every missing entry on the way becomes a directory. -/
def pathRef (tree : Tree) (entryRef : List Name) : List Name → Tree
  | [] => tree
  | part :: rest =>
    let childRef := entryRef ++ [part]
    pathRef (if childRef ∈ tree then tree else tree.insert childRef defaultDirectory) childRef rest

/-- `entryRef := fsRoot.pathRef(path); entryRef.data.Type = ...`. -/
def place (tree : Tree) (entry : Σ _ : List Name, Inode) : Tree :=
  (pathRef tree [] entry.1).insert entry.1 entry.2

def placedDirectory (d : Directory) : Σ _ : List Name, Inode := ⟨pathParts d.path, .directory d⟩

def placedFile (f : File) : Σ _ : List Name, Inode := ⟨pathParts f.path, .file f⟩

def placedSymbolicLink (l : SymbolicLink) : Σ _ : List Name, Inode :=
  ⟨pathParts l.path, .symbolicLink l⟩

/-- The three loops of `main` that fill `fsRoot`. -/
def buildTree (spec : FSSpec) : Tree :=
  let tree := (spec.directory.map placedDirectory).foldl place fsRoot
  let tree := (spec.file.map placedFile).foldl place tree
  (spec.symbolicLink.map placedSymbolicLink).foldl place tree

/-- The spec's entries in the order `main` places them. -/
def placed (spec : FSSpec) : List (Σ _ : List Name, Inode) :=
  spec.directory.map placedDirectory ++ spec.file.map placedFile ++
    spec.symbolicLink.map placedSymbolicLink

def specPaths (spec : FSSpec) : List (List Char) :=
  spec.directory.map (·.path) ++ spec.file.map (·.path) ++ spec.symbolicLink.map (·.path)

theorem buildTree_eq_foldl (spec : FSSpec) : buildTree spec = (placed spec).foldl place fsRoot := by
  simp [buildTree, placed, List.foldl_append]

example : pathParts "/usr//lib/./x/../y".toList = ["usr".toList, "lib".toList, "y".toList] := by
  decide

/-! ## Where the entries end up -/

/-- The entries `pathRef` walks through from `entryRef`. -/
def walked (entryRef : List Name) : List Name → List (List Name)
  | [] => []
  | part :: rest => (entryRef ++ [part]) :: walked (entryRef ++ [part]) rest

theorem lookup_pathRef (k : List Name) : ∀ (tree : Tree) (entryRef parts : List Name),
    (pathRef tree entryRef parts).lookup k =
      (tree.lookup k).or (if k ∈ walked entryRef parts then some defaultDirectory else none)
  | tree, _, [] => by simp [pathRef, walked]
  | tree, entryRef, part :: rest => by
    rw [pathRef, lookup_pathRef]
    by_cases child : k = entryRef ++ [part]
    · subst child
      rw [if_pos (by simp [walked] : entryRef ++ [part] ∈ walked entryRef (part :: rest))]
      by_cases present : entryRef ++ [part] ∈ tree
      · obtain ⟨v, found⟩ := Option.isSome_iff_exists.mp (AList.lookup_isSome.mpr present)
        simp [present, found]
      · simp [present, AList.lookup_eq_none.mpr present]
    · have unchanged : (if entryRef ++ [part] ∈ tree then tree
          else tree.insert (entryRef ++ [part]) defaultDirectory).lookup k = tree.lookup k := by
        split_ifs
        · rfl
        · exact AList.lookup_insert_ne child
      simp [unchanged, walked, child]

theorem lookup_place (tree : Tree) (entry : Σ _ : List Name, Inode) (k : List Name) :
    (place tree entry).lookup k =
      if k = entry.1 then some entry.2
      else (tree.lookup k).or (if k ∈ walked [] entry.1 then some defaultDirectory else none) := by
  unfold place
  by_cases same : k = entry.1
  · subst same
    rw [if_pos rfl]
    exact AList.lookup_insert _
  · rw [if_neg same, AList.lookup_insert_ne same, lookup_pathRef]

theorem lookup_foldl_place : ∀ (entries : List (Σ _ : List Name, Inode)) (tree : Tree) (k : List Name),
    (entries.foldl place tree).lookup k =
      (entries.reverse.dlookup k).or ((tree.lookup k).or
        (if ∃ e ∈ entries, k ∈ walked [] e.1 then some defaultDirectory else none))
  | [], tree, k => by simp
  | ⟨key, inode⟩ :: rest, tree, k => by
    rw [List.foldl_cons, lookup_foldl_place rest, lookup_place, List.reverse_cons,
      List.dlookup_append, Option.or_assoc]
    congr 1
    by_cases same : k = key
    · subst same
      simp [List.dlookup_cons_eq]
    · rw [if_neg same, List.dlookup_cons_ne _ _ same, List.dlookup_nil, Option.none_or,
        Option.or_assoc]
      congr 1
      by_cases walkedHere : k ∈ walked [] key <;>
        by_cases walkedLater : ∃ e ∈ rest, k ∈ walked [] e.1 <;>
        simp [walkedHere, walkedLater]

theorem lookup_fsRoot (k : List Name) :
    fsRoot.lookup k = if k = [] then some defaultDirectory else none := by
  unfold fsRoot
  by_cases root : k = []
  · subst root
    exact AList.lookup_insert _
  · rw [if_neg root, AList.lookup_insert_ne root]
    rfl

theorem lookup_buildTree (spec : FSSpec) (k : List Name) :
    (buildTree spec).lookup k = ((placed spec).reverse.dlookup k).or
      (if k = [] ∨ ∃ e ∈ placed spec, k ∈ walked [] e.1 then some defaultDirectory else none) := by
  rw [buildTree_eq_foldl, lookup_foldl_place, lookup_fsRoot]
  congr 1
  by_cases root : k = []
  · simp [root]
  · simp only [root, if_false, false_or, Option.none_or]

theorem placed_perm {spec spec' : FSSpec} (directories : spec.directory.Perm spec'.directory)
    (files : spec.file.Perm spec'.file) (links : spec.symbolicLink.Perm spec'.symbolicLink) :
    (placed spec).Perm (placed spec') :=
  ((directories.map _).append (files.map _)).append (links.map _)

theorem lookup_buildTree_perm {spec spec' : FSSpec} (directories : spec.directory.Perm spec'.directory)
    (files : spec.file.Perm spec'.file) (links : spec.symbolicLink.Perm spec'.symbolicLink)
    (distinct : (placed spec).NodupKeys) (k : List Name) :
    (buildTree spec).lookup k = (buildTree spec').lookup k := by
  have perm := placed_perm directories files links
  have distinct' := (List.perm_nodupKeys perm).mp distinct
  rw [lookup_buildTree, lookup_buildTree,
    List.perm_dlookup k ((List.perm_nodupKeys (List.reverse_perm _)).mpr distinct)
      ((List.perm_nodupKeys (List.reverse_perm _)).mpr distinct')
      (((List.reverse_perm _).trans perm).trans (List.reverse_perm _).symm)]
  simp only [perm.mem_iff]

/-- The cleaned path, from the names `pathRef` cuts it into. -/
def unsplit (parts : List Name) : List Char :=
  if parts = [] then ['.'] else ['/'].intercalate parts

theorem cleanedPath_eq_unsplit (p : List Char) : cleanedPath p = unsplit (pathParts p) := by
  have unrooted : rooted ('.' :: '/' :: p) = false := rfl
  have kept := elements_element false ('.' :: '/' :: p)
  by_cases none : elements false ('.' :: '/' :: p) = []
  · have dot : (['.'] : List Char).splitOn '/' = [['.']] := rfl
    simp [pathParts, cleanedPath, clean, unrooted, none, List.intercalate, unsplit, dot]
  · have reversed : (elements false ('.' :: '/' :: p)).reverse ≠ [] := List.reverse_ne_nil_iff.mpr none
    have body := intercalate_element reversed (fun e member => kept e (List.mem_reverse.mp member))
    have split := List.splitOn_intercalate _ '/'
      (fun e member => (kept e (List.mem_reverse.mp member)).no_slash) reversed
    have first : (elements false ('.' :: '/' :: p)).reverse.head? ≠ some ['.'] := by
      intro found
      exact (kept _ (List.mem_reverse.mp (List.mem_of_mem_head? found))).ne_dot rfl
    simp only [pathParts, cleanedPath, clean, unrooted, Bool.false_eq_true, if_false, if_neg body.1,
      split, if_neg first, unsplit, if_neg reversed]

theorem placed_nodupKeys {spec : FSSpec} (distinct : ((specPaths spec).map cleanedPath).Nodup) :
    (placed spec).NodupKeys := by
  have keys : (placed spec).keys = (specPaths spec).map pathParts := by
    simp [placed, specPaths, List.keys, Function.comp_def, placedDirectory, placedFile,
      placedSymbolicLink]
  unfold List.NodupKeys
  rw [keys]
  have same : (specPaths spec).map cleanedPath = ((specPaths spec).map pathParts).map unsplit := by
    simp [Function.comp_def, cleanedPath_eq_unsplit]
  exact (same ▸ distinct).of_map _

end Monogon.Mkerofs
