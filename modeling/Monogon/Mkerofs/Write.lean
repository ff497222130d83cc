import Monogon.Mkerofs.Tree
import Mathlib.Data.List.Sort
import Mathlib.Data.List.Lex
import Mathlib.Data.Char
import Mathlib.Data.List.MinMax
import Mathlib.Order.Nat

/-! `entrySpec.writeRecursive` on `fsRoot`: a directory is written with its children sorted,
then each child in that order; a file or a symbolic link is written alone. The entries it
visits are exactly those reached from the root through directories, each once, in
lexicographic order of their names: that is the pre-order traversal with siblings in
ascending order. The calls depend only on which inode each entry holds, so two specs that
build the same tree, in whatever order its children are held, give the same calls. An entry
below one that ends up a file or a symbolic link is in the tree but never written. -/

namespace Monogon.Mkerofs
open Monogon.Path

/-- `erofs.Base`. -/
structure Base where
  permissions : UInt16
  uid : UInt16
  gid : UInt16
deriving DecidableEq, Repr

/-- A call on the `erofs.Writer`. -/
inductive Call where
  /-- `w.Create(pathname, &erofs.Directory{...})`. -/
  | createDirectory (pathname : List Char) (base : Base) (children : List Name)
  /-- `w.CreateFile(pathname, &erofs.FileMeta{...})`, filled from `sourcePath`. -/
  | createFile (pathname : List Char) (base : Base) (sourcePath : List Char)
  /-- `w.Create(pathname, &erofs.SymbolicLink{...})`, with permissions 0777. -/
  | createSymbolicLink (pathname : List Char) (target : List Char)
deriving DecidableEq, Repr

/-- The names of the entries one name below `p`: the keys of its `children` map. -/
def children (tree : Tree) (p : List Name) : List Name :=
  tree.keys.filterMap fun k => if k.dropLast = p then k.getLast? else none

/-- `sort.Strings`. Go compares the UTF-8 bytes, which order text as its code points do. -/
def sortStrings (names : List Name) : List Name :=
  names.insertionSort (· ≤ ·)

/-- The call `writeRecursive` makes for the entry at `p`, holding `inode`, at `pathname`. -/
def entryCall (tree : Tree) (p : List Name) (inode : Inode) (pathname : List Char) : Call :=
  match inode with
  | .directory d =>
    .createDirectory pathname ⟨d.mode.toUInt16, d.uid.toUInt16, d.gid.toUInt16⟩
      (sortStrings (children tree p))
  | .file f => .createFile pathname ⟨f.mode.toUInt16, f.uid.toUInt16, f.gid.toUInt16⟩ f.sourcePath
  | .symbolicLink l => .createSymbolicLink pathname l.targetPath

/-- `writeRecursive` on the entry at `p`, with `fuel` for the depth below it. -/
def writeRecursive (tree : Tree) : Nat → List Name → List Char → List Call
  | 0, _, _ => []
  | fuel + 1, p, pathname =>
    match tree.lookup p with
    | some (.directory d) =>
      entryCall tree p (.directory d) pathname ::
        (sortStrings (children tree p)).flatMap fun name =>
          writeRecursive tree fuel (p ++ [name]) (join pathname name)
    | some inode => [entryCall tree p inode pathname]
    | none => []

/-- More than the number of names of any entry. -/
def depth (tree : Tree) : Nat :=
  (tree.keys.map List.length).foldr max 0 + 1

/-- `fsRoot.writeRecursive(writer, ".")`. -/
def writeTree (tree : Tree) : List Call :=
  writeRecursive tree (depth tree) [] ['.']

/-- `main` once the spec is read. -/
def mkerofs (spec : FSSpec) : Except String (List Call) :=
  if spec.specialFiles > 0 then .error "special files are currently unimplemented in mkerofs"
  else .ok (writeTree (buildTree spec))

example : writeTree (buildTree ⟨[⟨"/b".toList, 0o755, 0, 0⟩],
    [⟨"/b/x".toList, "x.bin".toList, 0o644, 0, 0⟩, ⟨"/a".toList, "a.txt".toList, 0o644, 0, 0⟩],
    [], 0⟩) =
    [.createDirectory ".".toList ⟨0o555, 0, 0⟩ ["a".toList, "b".toList],
      .createFile "a".toList ⟨0o644, 0, 0⟩ "a.txt".toList,
      .createDirectory "b".toList ⟨0o755, 0, 0⟩ ["x".toList],
      .createFile "b/x".toList ⟨0o644, 0, 0⟩ "x.bin".toList] := by
  decide

/-! ## The entries visited -/

/-- The entries `writeRecursive` visits from `p`, with their inodes, in order. -/
def visits (tree : Tree) : Nat → List Name → List (List Name × Inode)
  | 0, _ => []
  | fuel + 1, p =>
    match tree.lookup p with
    | some (.directory d) =>
      (p, .directory d) :: (sortStrings (children tree p)).flatMap fun name => visits tree fuel (p ++ [name])
    | some inode => [(p, inode)]
    | none => []

/-- The pathname `writeRecursive` gives the entry `names` below the one at `pathname`. -/
def pathnameOf (pathname : List Char) (names : List Name) : List Char :=
  names.foldl join pathname

/-- `k` is `p` or lies below it through directories. -/
inductive Reaches (tree : Tree) : List Name → List Name → Prop
  | refl {p : List Name} : p ∈ tree → Reaches tree p p
  | child {p k : List Name} {d : Directory} {name : Name} :
      tree.lookup p = some (.directory d) → Reaches tree (p ++ [name]) k → Reaches tree p k

/-- The entries reached from the root through directories. -/
def Reachable (tree : Tree) (k : List Name) : Prop :=
  Reaches tree [] k

theorem mem_children {tree : Tree} {p : List Name} {name : Name} :
    name ∈ children tree p ↔ p ++ [name] ∈ tree := by
  simp only [children, List.mem_filterMap, AList.mem_keys]
  constructor
  · rintro ⟨k, member, found⟩
    split_ifs at found with below
    obtain ⟨k', last, rfl⟩ : ∃ k' last, k = k' ++ [last] := by
      cases k using List.reverseRecOn with
      | nil => simp at found
      | append_singleton k' last _ => exact ⟨k', last, rfl⟩
    simp only [List.dropLast_concat, List.getLast?_concat, Option.some.injEq] at below found
    rwa [below, found] at member
  · intro member
    exact ⟨p ++ [name], member, by simp⟩

theorem nodup_children (tree : Tree) (p : List Name) : (children tree p).Nodup := by
  refine List.Nodup.filterMap (fun k k' name found found' => ?_) tree.keys_nodup
  split_ifs at found found' with below below'
  · rw [← List.dropLast_append_getLast? name found, ← List.dropLast_append_getLast? name found',
      below, below']
  all_goals simp at found found'

theorem sortStrings_children_sorted (tree : Tree) (p : List Name) :
    (sortStrings (children tree p)).Sorted (· < ·) :=
  (List.sorted_insertionSort _ _).lt_of_le
    ((List.perm_insertionSort _ _).nodup_iff.mpr (nodup_children tree p))

theorem mem_sortStrings_children {tree : Tree} {p : List Name} {name : Name} :
    name ∈ sortStrings (children tree p) ↔ p ++ [name] ∈ tree :=
  (List.perm_insertionSort _ _).mem_iff.trans mem_children

theorem visits_below {tree : Tree} :
    ∀ (fuel : Nat) (p : List Name), ∀ e ∈ visits tree fuel p, p <+: e.1
  | 0, _ => by simp [visits]
  | fuel + 1, p => by
    unfold visits
    split
    · simp only [List.mem_cons, List.mem_flatMap]
      rintro e (rfl | ⟨name, -, member⟩)
      · exact List.prefix_refl p
      · exact (List.prefix_append p [name]).trans (visits_below fuel _ e member)
    · simp only [List.mem_singleton]
      rintro e rfl
      exact List.prefix_refl p
    · simp

theorem visits_lookup {tree : Tree} :
    ∀ (fuel : Nat) (p : List Name), ∀ e ∈ visits tree fuel p, tree.lookup e.1 = some e.2
  | 0, _ => by simp [visits]
  | fuel + 1, p => by
    unfold visits
    split
    · simp only [List.mem_cons, List.mem_flatMap]
      rintro e (rfl | ⟨name, -, member⟩)
      · assumption
      · exact visits_lookup fuel _ e member
    · simp only [List.mem_singleton]
      rintro e rfl
      assumption
    · simp

theorem writeRecursive_eq_map_visits (tree : Tree) : ∀ (fuel : Nat) (p : List Name) (pathname : List Char),
    writeRecursive tree fuel p pathname =
      (visits tree fuel p).map fun e => entryCall tree e.1 e.2 (pathnameOf pathname (e.1.drop p.length))
  | 0, _, _ => rfl
  | fuel + 1, p, pathname => by
    unfold writeRecursive visits
    split
    · simp only [List.map_cons, List.drop_length, pathnameOf, List.foldl_nil, List.map_flatMap,
        List.cons.injEq, true_and]
      refine List.flatMap_congr fun name _ => ?_
      rw [writeRecursive_eq_map_visits tree fuel]
      refine List.map_congr_left fun e member => ?_
      obtain ⟨rest, named⟩ := visits_below fuel _ e member
      rw [← named]
      simp [pathnameOf]
    · simp [pathnameOf]
    · rfl

/-! ## Pre-order, siblings ascending -/

theorem lt_of_child_prefix {p k : List Name} {name : Name} (below : p ++ [name] <+: k) : p < k := by
  obtain ⟨rest, rfl⟩ := below
  have lex := List.Lex.append_left (· < ·) (@List.Lex.nil _ (· < ·) name rest) p
  show List.Lex (· < ·) p (p ++ [name] ++ rest)
  simpa using lex

theorem lt_of_children_lt {p k k' : List Name} {name name' : Name} (lt : name < name')
    (below : p ++ [name] <+: k) (below' : p ++ [name'] <+: k') : k < k' := by
  obtain ⟨rest, rfl⟩ := below
  obtain ⟨rest', rfl⟩ := below'
  have lex := List.Lex.append_left (· < ·) (@List.Lex.rel _ (· < ·) name rest name' rest' lt) p
  show List.Lex (· < ·) (p ++ [name] ++ rest) (p ++ [name'] ++ rest')
  simpa using lex

theorem visits_sorted {tree : Tree} :
    ∀ (fuel : Nat) (p : List Name), ((visits tree fuel p).map Prod.fst).Sorted (· < ·)
  | 0, _ => by simp [visits]
  | fuel + 1, p => by
    unfold visits
    split
    · rw [List.map_cons, List.sorted_cons, List.map_flatMap]
      refine ⟨fun k member => ?_, List.pairwise_flatMap.mpr ⟨fun name _ => visits_sorted fuel _, ?_⟩⟩
      · obtain ⟨name, -, member⟩ := List.mem_flatMap.mp member
        obtain ⟨e, visited, rfl⟩ := List.mem_map.mp member
        exact lt_of_child_prefix (visits_below fuel _ e visited)
      · refine (sortStrings_children_sorted tree p).imp fun lt k member k' member' => ?_
        obtain ⟨e, visited, rfl⟩ := List.mem_map.mp member
        obtain ⟨e', visited', rfl⟩ := List.mem_map.mp member'
        exact lt_of_children_lt lt (visits_below fuel _ e visited) (visits_below fuel _ e' visited')
    · simp
    · simp

theorem reaches_mem {tree : Tree} {p k : List Name} (reached : Reaches tree p k) : p ∈ tree := by
  induction reached with
  | refl present => exact present
  | child found _ _ => exact AList.lookup_isSome.mp (by rw [found]; rfl)

theorem reaches_directory_iff {tree : Tree} {p k : List Name} {d : Directory}
    (found : tree.lookup p = some (.directory d)) :
    Reaches tree p k ↔ k = p ∨ ∃ name, Reaches tree (p ++ [name]) k := by
  constructor
  · intro reached
    cases reached with
    | refl _ => exact .inl rfl
    | child _ below => exact .inr ⟨_, below⟩
  · rintro (rfl | ⟨name, below⟩)
    · exact .refl (AList.lookup_isSome.mp (by rw [found]; rfl))
    · exact .child found below

theorem reaches_leaf_iff {tree : Tree} {p k : List Name} {inode : Inode}
    (found : tree.lookup p = some inode) (leaf : ∀ d, inode ≠ .directory d) :
    Reaches tree p k ↔ k = p := by
  constructor
  · intro reached
    cases reached with
    | refl _ => rfl
    | child directory _ => exact absurd (Option.some.inj (found.symm.trans directory)) (leaf _)
  · rintro rfl
    exact .refl (AList.lookup_isSome.mp (by rw [found]; rfl))

theorem mem_visits {tree : Tree} : ∀ (fuel : Nat) (p : List Name),
    (∀ k ∈ tree, k.length < p.length + fuel) →
      ∀ k, k ∈ (visits tree fuel p).map Prod.fst ↔ Reaches tree p k
  | 0, p, deep, k => by
    simp only [visits, List.map_nil, List.not_mem_nil, false_iff]
    intro reached
    have := deep p (reaches_mem reached)
    omega
  | fuel + 1, p, deep, k => by
    have deeper : ∀ name, ∀ k ∈ tree, k.length < (p ++ [name]).length + fuel := fun name k member => by
      have := deep k member
      simp only [List.length_append, List.length_singleton]
      omega
    unfold visits
    split
    · rename_i found
      rw [reaches_directory_iff found, List.map_cons, List.mem_cons, List.map_flatMap,
        List.mem_flatMap]
      refine or_congr Iff.rfl ⟨fun ⟨name, _, member⟩ => ⟨name, (mem_visits fuel _ (deeper name) k).mp member⟩,
        fun ⟨name, reached⟩ => ⟨name, mem_sortStrings_children.mpr (reaches_mem reached),
          (mem_visits fuel _ (deeper name) k).mpr reached⟩⟩
    · rename_i inode leaf found
      rw [reaches_leaf_iff found fun d same => leaf d (same ▸ rfl)]
      simp
    · rename_i missing
      simp only [List.map_nil, List.not_mem_nil, false_iff]
      exact fun reached => AList.lookup_eq_none.mp missing (reaches_mem reached)

theorem length_lt_depth {tree : Tree} {k : List Name} (member : k ∈ tree) : k.length < depth tree :=
  Nat.lt_succ_of_le (List.le_max_of_le (List.mem_map_of_mem List.length (AList.mem_keys.mpr member)) le_rfl)

theorem writeTree_eq (tree : Tree) :
    writeTree tree = (visits tree (depth tree) []).map fun e => entryCall tree e.1 e.2 (pathnameOf ['.'] e.1) := by
  simp [writeTree, writeRecursive_eq_map_visits]

theorem visits_root (tree : Tree) :
    ((visits tree (depth tree) []).map Prod.fst).Sorted (· < ·) ∧
      ∀ k, k ∈ (visits tree (depth tree) []).map Prod.fst ↔ Reachable tree k :=
  ⟨visits_sorted _ _, mem_visits _ _ fun _ member => by simpa using length_lt_depth member⟩

/-! ## The calls depend on the inodes only -/

theorem reaches_congr {tree tree' : Tree} (same : ∀ k, tree.lookup k = tree'.lookup k)
    {p k : List Name} (reached : Reaches tree p k) : Reaches tree' p k := by
  induction reached with
  | refl present => exact .refl (AList.lookup_isSome.mp (same _ ▸ AList.lookup_isSome.mpr present))
  | child found _ below => exact .child (same _ ▸ found) below

theorem mem_congr {tree tree' : Tree} (same : ∀ k, tree.lookup k = tree'.lookup k) (k : List Name) :
    k ∈ tree ↔ k ∈ tree' := by
  rw [← AList.lookup_isSome, ← AList.lookup_isSome, same]

theorem sortStrings_eq_of_perm {names names' : List Name} (perm : names.Perm names') :
    sortStrings names = sortStrings names' :=
  List.eq_of_perm_of_sorted
    ((List.perm_insertionSort _ _).trans (perm.trans (List.perm_insertionSort _ _).symm))
    (List.sorted_insertionSort _ _) (List.sorted_insertionSort _ _)

theorem sortStrings_children_congr {tree tree' : Tree} (same : ∀ k, tree.lookup k = tree'.lookup k)
    (p : List Name) : sortStrings (children tree p) = sortStrings (children tree' p) :=
  sortStrings_eq_of_perm ((List.perm_ext_iff_of_nodup (nodup_children tree p) (nodup_children tree' p)).mpr
    fun name => by rw [mem_children, mem_children, mem_congr same])

theorem eq_of_map_fst_eq {f : List Name → Option Inode} :
    ∀ {l l' : List (List Name × Inode)}, l.map Prod.fst = l'.map Prod.fst →
      (∀ e ∈ l, f e.1 = some e.2) → (∀ e ∈ l', f e.1 = some e.2) → l = l'
  | [], [], _, _, _ => rfl
  | e :: l, e' :: l', names, given, given' => by
    simp only [List.map_cons, List.cons.injEq] at names
    have inode : e.2 = e'.2 := Option.some.inj ((given e (List.mem_cons_self e l)).symm.trans
      (names.1 ▸ given' e' (List.mem_cons_self e' l')))
    rw [Prod.ext names.1 inode, eq_of_map_fst_eq names.2 (fun x member => given x (List.mem_cons_of_mem e member))
      (fun x member => given' x (List.mem_cons_of_mem e' member))]

theorem visits_root_congr {tree tree' : Tree} (same : ∀ k, tree.lookup k = tree'.lookup k) :
    visits tree (depth tree) [] = visits tree' (depth tree') [] := by
  obtain ⟨sorted, reached⟩ := visits_root tree
  obtain ⟨sorted', reached'⟩ := visits_root tree'
  have names : (visits tree (depth tree) []).map Prod.fst = (visits tree' (depth tree') []).map Prod.fst :=
    List.eq_of_perm_of_sorted ((List.perm_ext_iff_of_nodup sorted.nodup sorted'.nodup).mpr fun k => by
      rw [reached, reached']
      exact ⟨reaches_congr same, reaches_congr fun k => (same k).symm⟩) sorted sorted'
  exact @eq_of_map_fst_eq (fun k => tree.lookup k) _ _ names (visits_lookup _ _)
    fun e member => (same e.1).trans (visits_lookup _ _ e member)

theorem writeTree_congr {tree tree' : Tree} (same : ∀ k, tree.lookup k = tree'.lookup k) :
    writeTree tree = writeTree tree' := by
  rw [writeTree_eq, writeTree_eq, visits_root_congr same]
  refine List.map_congr_left fun e _ => ?_
  cases e.2 <;> simp [entryCall, sortStrings_children_congr same]

/-! ## The calls `mkerofs` makes -/

/-- `writeRecursive` writes the reached entries in pre-order, the same for every order of the spec. -/
theorem writeTree_preorder_reproducible (spec : FSSpec) :
    let tree := buildTree spec
    writeTree tree = (visits tree (depth tree) []).map
        (fun e => entryCall tree e.1 e.2 (pathnameOf ['.'] e.1)) ∧
      ((visits tree (depth tree) []).map Prod.fst).Sorted (· < ·) ∧
      (∀ k, k ∈ (visits tree (depth tree) []).map Prod.fst ↔ Reachable tree k) ∧
      (∀ tree' : Tree, (∀ k, tree'.lookup k = tree.lookup k) → writeTree tree' = writeTree tree) ∧
      ∀ spec' : FSSpec, spec.directory.Perm spec'.directory → spec.file.Perm spec'.file →
        spec.symbolicLink.Perm spec'.symbolicLink → ((specPaths spec).map cleanedPath).Nodup →
        writeTree (buildTree spec') = writeTree tree :=
  ⟨writeTree_eq _, (visits_root _).1, (visits_root _).2, fun _ same => writeTree_congr same,
    fun _ directories files links distinct => writeTree_congr fun k =>
      (lookup_buildTree_perm directories files links (placed_nodupKeys distinct) k).symm⟩

theorem writeTree_preorder_reproducible_swapped :
    let spec : FSSpec := ⟨[], [⟨"/a".toList, "a.txt".toList, 0o644, 0, 0⟩,
      ⟨"/b/x".toList, "x.bin".toList, 0o644, 0, 0⟩], [], 0⟩
    let spec' : FSSpec := ⟨[], [⟨"/b/x".toList, "x.bin".toList, 0o644, 0, 0⟩,
      ⟨"/a".toList, "a.txt".toList, 0o644, 0, 0⟩], [], 0⟩
    (spec.directory.Perm spec'.directory ∧ spec.file.Perm spec'.file ∧
        spec.symbolicLink.Perm spec'.symbolicLink ∧ ((specPaths spec).map cleanedPath).Nodup) ∧
      writeTree (buildTree spec') = writeTree (buildTree spec) := by
  intro spec spec'
  have given : spec.directory.Perm spec'.directory ∧ spec.file.Perm spec'.file ∧
      spec.symbolicLink.Perm spec'.symbolicLink ∧ ((specPaths spec).map cleanedPath).Nodup :=
    ⟨by decide, by decide, by decide, by decide⟩
  exact ⟨given, (writeTree_preorder_reproducible spec).2.2.2.2 spec' given.1 given.2.1 given.2.2.1
    given.2.2.2⟩

/-! ## Entries left out -/

theorem reaches_of_directories {tree : Tree} {k : List Name} (present : k ∈ tree) :
    ∀ (rest p : List Name), p ++ rest = k →
      (∀ q name, p <+: q → q ++ [name] <+: k → ∃ d, tree.lookup q = some (.directory d)) →
      Reaches tree p k
  | [], p, same, _ => by
    rw [List.append_nil] at same
    subst same
    exact .refl present
  | name :: rest, p, same, directories => by
    obtain ⟨d, found⟩ := directories p name (List.prefix_refl p) ⟨rest, by simp [← same]⟩
    refine .child found (reaches_of_directories present rest (p ++ [name]) (by simp [← same])
      fun q name' below => directories q name' ((List.prefix_append p [name]).trans below))

theorem directories_of_reaches {tree : Tree} {p k : List Name} (reached : Reaches tree p k) :
    p <+: k ∧ k ∈ tree ∧
      ∀ q name, p <+: q → q ++ [name] <+: k → ∃ d, tree.lookup q = some (.directory d) := by
  induction reached with
  | refl present =>
    refine ⟨List.prefix_refl _, present, fun q name above below => ?_⟩
    have shorter := above.length_le
    have longer := below.length_le
    rw [List.length_append, List.length_singleton] at longer
    omega
  | @child p k d name found _ ih =>
    obtain ⟨nameBelow, present, directories⟩ := ih
    refine ⟨(List.prefix_append p [name]).trans nameBelow, present, fun q name' above below => ?_⟩
    by_cases same : q = p
    · exact ⟨d, same ▸ found⟩
    · have longer : p.length < q.length := by
        have shorter := above.length_le
        have differ : p.length ≠ q.length := fun equal => same (above.eq_of_length equal).symm
        omega
      refine directories q name' (List.prefix_of_prefix_length_le nameBelow
        ((List.prefix_append q [name']).trans below) (by simpa using longer)) below

theorem reachable_iff {tree : Tree} {k : List Name} :
    Reachable tree k ↔
      k ∈ tree ∧ ∀ q name, q ++ [name] <+: k → ∃ d, tree.lookup q = some (.directory d) :=
  ⟨fun reached => (directories_of_reaches reached).2.imp_right fun directories q name =>
      directories q name List.nil_prefix,
    fun ⟨present, directories⟩ => reaches_of_directories present k [] rfl
      fun q name _ => directories q name⟩

/-- `main` writes exactly the entries below directories only, and its tree holds every entry placed. -/
theorem writeTree_entries (spec : FSSpec) :
    let tree := buildTree spec
    (∀ k, k ∈ (visits tree (depth tree) []).map Prod.fst ↔
      k ∈ tree ∧ ∀ q name, q ++ [name] <+: k → ∃ d, tree.lookup q = some (.directory d)) ∧
    (∀ (p k : List Name) (inode : Inode), p <+: k → p ≠ k →
      (placed spec).reverse.dlookup p = some inode → (∀ d, inode ≠ .directory d) →
      k ∉ (visits tree (depth tree) []).map Prod.fst) ∧
    ∀ (k : List Name) (inode : Inode), (placed spec).reverse.dlookup k = some inode →
      tree.lookup k = some inode := by
  intro tree
  have written : ∀ k, k ∈ (visits tree (depth tree) []).map Prod.fst ↔
      k ∈ tree ∧ ∀ q name, q ++ [name] <+: k → ∃ d, tree.lookup q = some (.directory d) :=
    fun k => ((visits_root tree).2 k).trans reachable_iff
  refine ⟨written, fun p k inode above proper last leaf member => ?_,
    fun k inode last => by rw [show tree = buildTree spec from rfl, lookup_buildTree, last]; rfl⟩
  obtain ⟨_ | ⟨name, rest⟩, rfl⟩ := above
  · exact proper (List.append_nil p).symm
  · obtain ⟨d, found⟩ := ((written _).mp member).2 p name ⟨rest, by simp⟩
    rw [show tree = buildTree spec from rfl, lookup_buildTree, last] at found
    exact leaf d (Option.some.inj found)

theorem writeTree_entries_file_below_file :
    let spec : FSSpec := ⟨[], [⟨"/a".toList, "a.txt".toList, 0o644, 0, 0⟩,
      ⟨"/a/b".toList, "b.txt".toList, 0o644, 0, 0⟩], [], 0⟩
    ["a".toList] <+: ["a".toList, "b".toList] ∧ ["a".toList] ≠ ["a".toList, "b".toList] ∧
      (placed spec).reverse.dlookup ["a".toList] = some (.file ⟨"/a".toList, "a.txt".toList, 0o644, 0, 0⟩) ∧
      ["a".toList, "b".toList] ∉ (visits (buildTree spec) (depth (buildTree spec)) []).map Prod.fst ∧
      (buildTree spec).lookup ["a".toList, "b".toList] = some (.file ⟨"/a/b".toList, "b.txt".toList, 0o644, 0, 0⟩) ∧
      writeTree (buildTree spec) = [.createDirectory ".".toList ⟨0o555, 0, 0⟩ ["a".toList],
        .createFile "a".toList ⟨0o644, 0, 0⟩ "a.txt".toList] := by
  intro spec
  have above : ["a".toList] <+: ["a".toList, "b".toList] := ⟨["b".toList], rfl⟩
  have proper : ["a".toList] ≠ ["a".toList, "b".toList] := by decide
  have last : (placed spec).reverse.dlookup ["a".toList] =
      some (.file ⟨"/a".toList, "a.txt".toList, 0o644, 0, 0⟩) := by decide
  have placedBelow : (placed spec).reverse.dlookup ["a".toList, "b".toList] =
      some (.file ⟨"/a/b".toList, "b.txt".toList, 0o644, 0, 0⟩) := by decide
  exact ⟨above, proper, last, (writeTree_entries spec).2.1 _ _ _ above proper last (fun _ => by simp),
    (writeTree_entries spec).2.2 _ _ placedBelow, by decide⟩

end Monogon.Mkerofs
