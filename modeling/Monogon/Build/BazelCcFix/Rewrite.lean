import Monogon.Path
import Monogon.Kubernetes.Reconcile
import Monogon.Build.BazelCcFix.Directive

/-! bazel_cc_fix's `main`. For every compilation database entry it computes the quote and system
search paths (`getIncludeDirs`), and from the entry's file follows every file an include directive
leads to (`rec`), recording in `rewriteMetadata` a rewrite of each directive to the
workspace-relative path it resolves to (`fixIncludesAndGetRefs`). Last it writes every visited
file through a `strings.Replacer` of its rewrites. Because `rec` skips the files it has `seen`, it
returns on every include graph, cycles included, and every file written is one that was read.

The file system is what `os.Stat` finds and what `ioutil.ReadFile` reads; `shellwords.Parse` is
a given function. A panic of the program is `none`. -/

namespace Monogon.Build.BazelCcFix
open Monogon.Path
open Monogon.Kubernetes.Reconcile (Ranging)

/-- `ccfixspec.Replace_Type` (not in the sources), with the values `main.go` compares with. -/
inductive ReplaceType where
  | system
  | workspace
deriving DecidableEq, Repr

/-- `ccfixspec.Replace` (not in the sources): its `Type`, `From` and `To`. -/
structure Replace where
  type : ReplaceType
  fromPath : List Char
  toPath : List Char
deriving DecidableEq, Repr

/-- `ccfixspec.CCFixSpec` (not in the sources), with the fields `main.go` reads. -/
structure CCFixSpec where
  replace : List Replace
  generatedFile : List (List Char)
  buildDir : List Char
deriving DecidableEq, Repr

/-- The `-workspace` flag, the spec, and the file system `os.Stat` and `ioutil.ReadFile` see. -/
structure Env where
  workspacePath : List Char
  spec : CCFixSpec
  stat : List Char → Bool
  readFile : List Char → Option (List Char)

/-- `isGeneratedFile`: the spec's generated files, joined to the workspace path. -/
def Env.isGeneratedFile (env : Env) (path : List Char) : Bool :=
  env.spec.generatedFile.any fun generated => join env.workspacePath generated == path

/-- `applyReplaceDirectives`. -/
def applyReplaceDirectives (directives : List Replace) (replaceType : ReplaceType)
    (originalPath : List Char) (returnUnmodified : Bool) : List Char :=
  match directives with
  | [] => if returnUnmodified then originalPath else []
  | d :: rest =>
    if d.type ≠ replaceType then applyReplaceDirectives rest replaceType originalPath returnUnmodified
    else if d.fromPath = originalPath then d.toPath
    else if d.fromPath.getLast? == some '/' && d.fromPath.isPrefixOf originalPath then
      d.toPath ++ originalPath.drop d.fromPath.length
    else applyReplaceDirectives rest replaceType originalPath returnUnmodified

/-- `findFileInWorkspace`; `none` when `filepath.Rel` fails and it panics. -/
def findFileInWorkspace (env : Env) (searchPath : List (List Char)) (inclFile : List Char) :
    Option (List Char) :=
  match searchPath.find? fun path =>
      env.isGeneratedFile (join path inclFile) || env.stat (join path inclFile) with
  | none => some []
  | some path =>
    let inclPath := join path inclFile
    if inclPath = [] then some []
    else if !env.workspacePath.isPrefixOf inclPath then some []
    else rel env.workspacePath inclPath

/-- One iteration of the loop over a file's directives: the file it visits and the path it records. -/
structure Resolution where
  includeFile : Option (List Char)
  rewrite : Option (List Char)
deriving DecidableEq, Repr

/-- The body of the loop over the directives of the file `filePath`; `none` when it panics. -/
def resolve (env : Env) (filePath : List Char) (quoteIncludes systemIncludes : List (List Char))
    (incl : Include) : Option Resolution := do
  let searchPath :=
    if incl.kind = '"' then quoteIncludes else if incl.kind = '<' then systemIncludes else []
  let replaced :=
    if incl.kind = '<' then applyReplaceDirectives env.spec.replace .system incl.file false else []
  let found ← if replaced = [] then findFileInWorkspace env searchPath incl.file else pure replaced
  let path := applyReplaceDirectives env.spec.replace .workspace found true
  let foundGenerated := env.isGeneratedFile (join env.workspacePath path)
  let includeFile := if foundGenerated then none else some (join env.workspacePath path)
  let buildDir := env.spec.buildDir
  let (path, foundGenerated) :=
    if buildDir ≠ [] ∧ (buildDir ++ ['/']).isPrefixOf path then
      (clean (path.drop (buildDir.length + 1)), true)
    else (path, foundGenerated)
  let path :=
    if !foundGenerated ∧ dir filePath = dir (join env.workspacePath path) then base path else path
  pure ⟨includeFile, if path = incl.file ∧ incl.kind = '"' then none else some path⟩

/-- `rewrites`: a directive, trimmed, to the directive that replaces it. -/
abbrev Rewrites := AList fun _ : List Char => List Char

/-- `rewrites.addWorkspace`. -/
def addWorkspace (r : Rewrites) (oldDirective workspaceRelativePath : List Char) : Rewrites :=
  let normalizedDirective := trimSpace oldDirective
  if normalizedDirective ∈ r then r
  else r.insert normalizedDirective ("#include \"".toList ++ workspaceRelativePath ++ ['"'])

/-- `rewriteMetadataFile`. -/
structure MetadataFile where
  rewrites : Rewrites
  source : List Char

/-- `rewriteMetadata`, by file path. -/
abbrev RewriteMetadata := AList fun _ : List Char => MetadataFile

/-- The loop over the directives of `filePath` in `fixIncludesAndGetRefs`. -/
def fixIncludes (env : Env) (filePath : List Char) (quoteIncludes systemIncludes : List (List Char)) :
    List Include → Rewrites → Option (Rewrites × List (List Char))
  | [], rewrites => some (rewrites, [])
  | incl :: rest, rewrites => do
    let r ← resolve env filePath quoteIncludes systemIncludes incl
    let rewrites := match r.rewrite with
      | some path => addWorkspace rewrites incl.directive path
      | none => rewrites
    let (rewrites, includeFiles) ← fixIncludes env filePath quoteIncludes systemIncludes rest rewrites
    pure (rewrites, r.includeFile.toList ++ includeFiles)

/-- `rewriteMetadata.fixIncludesAndGetRefs`. -/
def fixIncludesAndGetRefs (env : Env) (m : RewriteMetadata) (filePath : List Char)
    (quoteIncludes systemIncludes : List (List Char)) : Option (RewriteMetadata × List (List Char)) :=
  let meta? := match m.lookup filePath with
    | some meta => some meta
    | none => (env.readFile filePath).map (⟨∅, ·⟩)
  match meta? with
  | none => some (m, [])
  | some meta => do
    let (rewrites, includeFiles) ← fixIncludes env filePath quoteIncludes systemIncludes
      (includeDirectives meta.source) meta.rewrites
    pure (m.insert filePath ⟨rewrites, meta.source⟩, includeFiles)

/-- `compilationDBEntry`, with the fields `main` reads. -/
structure CompilationDBEntry where
  directory : List Char
  command : List Char
  arguments : List (List Char)
  file : List Char
deriving DecidableEq, Repr

/-- The path of an entry's file: the file, joined to the directory unless it is absolute. -/
def CompilationDBEntry.filePath (entry : CompilationDBEntry) : List Char :=
  if rooted entry.file then entry.file else join entry.directory entry.file

/-- The search path one of `-I`, `-isystem` and `-iquote` adds; `none` when indexing panics. -/
def flagPath (flag arg : List Char) (next : Option (List Char)) : Option (List (List Char)) :=
  if flag.isPrefixOf arg then
    match (arg.drop flag.length).takeWhile (· != '\n') with
    | [] => next.map ([·])
    | value => some [value]
  else some []

/-- The loop over the arguments: the `-I`, `-isystem` and `-iquote` paths, in order. -/
def scanArguments :
    List (List Char) → Option (List (List Char) × List (List Char) × List (List Char))
  | [] => some ([], [], [])
  | arg :: rest => do
    let preSystem ← flagPath "-I".toList arg rest.head?
    let system ← flagPath "-isystem".toList arg rest.head?
    let quote ← flagPath "-iquote".toList arg rest.head?
    let (preSystem', system', quote') ← scanArguments rest
    pure (preSystem ++ preSystem', system ++ system', quote ++ quote')

/-- The paths of a search path made absolute against `directory`, the first of equal ones kept. -/
def absolutePaths (directory : List Char) (paths : List (List Char)) : List (List Char) :=
  (paths.map fun path => if rooted path then path else join directory path).eraseDups

/-- `getIncludeDirs`; `none` when it panics. -/
def getIncludeDirs (parseCommand : List Char → Except String (List (List Char)))
    (entry : CompilationDBEntry) : Option (Except String (List (List Char) × List (List Char))) :=
  match (if entry.arguments = [] then parseCommand entry.command else .ok entry.arguments) with
  | .error err => some (.error err)
  | .ok arguments => do
    let (preSystemIncludes, systemIncludesRaw, quoteIncludesRaw) ← scanArguments arguments
    let systemIncludesRaw := preSystemIncludes ++ systemIncludesRaw
    let quoteIncludesRaw := dir entry.filePath :: quoteIncludesRaw ++ systemIncludesRaw
    pure (.ok (absolutePaths entry.directory quoteIncludesRaw,
      absolutePaths entry.directory systemIncludesRaw))

/-- `rec` of `main`, at most `fuel` files deep; `none` when a file panics or lies deeper. -/
def visit (env : Env) (quoteIncludes systemIncludes : List (List Char)) :
    Nat → RewriteMetadata × List (List Char) → List (List Char) →
      Option (RewriteMetadata × List (List Char))
  | _, state, [] => some state
  | 0, _, _ :: _ => none
  | fuel + 1, state, files => files.foldlM (fun (m, seen) f =>
      if f ∈ seen then some (m, seen)
      else do
        let (m, includeFiles) ← fixIncludesAndGetRefs env m f quoteIncludes systemIncludes
        visit env quoteIncludes systemIncludes fuel (m, f :: seen) includeFiles) state

/-- The loop of `main` over the compilation database. -/
def collect (env : Env) (parseCommand : List Char → Except String (List (List Char)))
    (fuel : Nat) (compilationDB : List CompilationDBEntry) : Option RewriteMetadata :=
  compilationDB.foldlM (fun m entry => do
    match ← getIncludeDirs parseCommand entry with
    | .error _ => pure m
    | .ok (quoteIncludes, systemIncludes) =>
      let (m, includedFiles) ← fixIncludesAndGetRefs env m entry.filePath quoteIncludes
        systemIncludes
      let (m, _) ← visit env quoteIncludes systemIncludes fuel (m, []) includedFiles
      pure m) ∅

/-- `rewrites.replacer`: the pairs in the order `range` gives. -/
def replacer (range : Ranging (Σ _ : List Char, List Char)) (r : Rewrites) :
    List (List Char × List Char) :=
  (range.order r.entries).map fun rewrite => (rewrite.1, rewrite.2)

/-- The last loop of `main`: what it writes to each visited file. -/
def rewrittenFiles (range : Ranging (Σ _ : List Char, List Char)) (m : RewriteMetadata) :
    List (List Char × List Char) :=
  m.entries.map fun file => (file.1, replace (replacer range file.2.rewrites) file.2.source)

/-! ## A directive found in the workspace -/

theorem findFileInWorkspace_found {env : Env} {searchPath : List (List Char)}
    {inclFile p : List Char} (rootedWorkspace : rooted env.workspacePath = true)
    (found : findFileInWorkspace env searchPath inclFile = some p) (nonempty : p ≠ []) :
    ∃ path ∈ searchPath,
      (env.isGeneratedFile (join path inclFile) || env.stat (join path inclFile)) = true ∧
        join env.workspacePath p = clean (join path inclFile) := by
  unfold findFileInWorkspace at found
  split at found
  · exact absurd (Option.some.inj found).symm nonempty
  · rename_i path chosen
    have present := List.find?_some chosen
    refine ⟨path, List.mem_of_find?_eq_some chosen, present, ?_⟩
    dsimp only at found
    split_ifs at found
    · exact absurd (Option.some.inj found).symm nonempty
    · exact absurd (Option.some.inj found).symm nonempty
    · exact join_rel rootedWorkspace found

theorem systemReplaced_eq_nil {env : Env} {incl : Include}
    (noSystem : incl.kind = '<' → applyReplaceDirectives env.spec.replace .system incl.file false = []) :
    (if incl.kind = '<' then
      applyReplaceDirectives env.spec.replace .system incl.file false else []) = [] :=
  if system : incl.kind = '<' then (if_pos system).trans (noSystem system) else if_neg system

/-- A directive found in the workspace is visited there and rewritten to its path from the workspace root or its base name. -/
theorem resolve_names_found_file {env : Env} (filePath : List Char)
    {quoteIncludes systemIncludes : List (List Char)} {incl : Include} {p : List Char}
    (rootedWorkspace : rooted env.workspacePath = true)
    (noSystem : incl.kind = '<' → applyReplaceDirectives env.spec.replace .system incl.file false = [])
    (found : findFileInWorkspace env (if incl.kind = '"' then quoteIncludes
      else if incl.kind = '<' then systemIncludes else []) incl.file = some p) (nonempty : p ≠ [])
    (noWorkspace : applyReplaceDirectives env.spec.replace .workspace p true = p)
    (notGenerated : env.isGeneratedFile (join env.workspacePath p) = false)
    (noBuildDir : ¬(env.spec.buildDir ≠ [] ∧ (env.spec.buildDir ++ ['/']).isPrefixOf p = true)) :
    let rewritten := if dir filePath = dir (join env.workspacePath p) then base p else p
    resolve env filePath quoteIncludes systemIncludes incl = some ⟨some (join env.workspacePath p),
        if rewritten = incl.file ∧ incl.kind = '"' then none else some rewritten⟩ ∧
      ∃ path ∈ (if incl.kind = '"' then quoteIncludes
          else if incl.kind = '<' then systemIncludes else []),
        (env.isGeneratedFile (join path incl.file) || env.stat (join path incl.file)) = true ∧
          join env.workspacePath p = clean (join path incl.file) ∧
          (dir filePath = dir (join env.workspacePath p) → PlainName (base p) →
            join (dir filePath) (base p) = clean (join path incl.file)) := by
  obtain ⟨path, member, present, sameFile⟩ := findFileInWorkspace_found rootedWorkspace found nonempty
  refine ⟨?_, path, member, present, sameFile, fun beside named => ?_⟩
  · simp only [resolve, systemReplaced_eq_nil noSystem, if_true, found, noWorkspace, notGenerated,
      noBuildDir, Option.pure_def, Option.bind_eq_bind, Option.some_bind, if_false, Bool.not_false,
      true_and, Bool.false_eq_true]
  · have wsNonempty : env.workspacePath ≠ [] := fun empty => by simp [empty, rooted] at rootedWorkspace
    have joinedRooted : rooted (env.workspacePath ++ '/' :: p) = true := by
      rw [rooted_append wsNonempty, rootedWorkspace]
    have joined : join env.workspacePath p = clean (env.workspacePath ++ '/' :: p) := by
      simp [join, wsNonempty]
    have below : elements true (env.workspacePath ++ '/' :: p) ≠ [] := fun empty => by
      have top : base (join env.workspacePath p) = ['/'] := by
        rw [joined, clean_rooted joinedRooted, empty]
        rfl
      exact named.no_slash (by simp [← base_join wsNonempty named, top])
    rw [beside, ← sameFile, ← base_join wsNonempty named, joined]
    exact join_dir_base joinedRooted below

theorem resolve_names_found_file_beside :
    let env : Env := ⟨"/w".toList, ⟨[], [], []⟩, fun p => p == "/w/src/b.h".toList, fun _ => none⟩
    let incl : Include := ⟨"#include <b.h>".toList, '<', "b.h".toList⟩
    let searchPath : List (List Char) :=
      if incl.kind = '"' then [] else if incl.kind = '<' then ["/w/src".toList] else []
    findFileInWorkspace env searchPath incl.file = some "src/b.h".toList ∧
      resolve env "/w/src/a.c".toList [] ["/w/src".toList] incl =
        some ⟨some "/w/src/b.h".toList, some "b.h".toList⟩ ∧
      ∃ path ∈ searchPath,
        (env.isGeneratedFile (join path incl.file) || env.stat (join path incl.file)) = true ∧
          join env.workspacePath "src/b.h".toList = clean (join path incl.file) ∧
          (dir "/w/src/a.c".toList = dir (join env.workspacePath "src/b.h".toList) →
            PlainName (base "src/b.h".toList) →
            join (dir "/w/src/a.c".toList) (base "src/b.h".toList) = clean (join path incl.file)) := by
  intro env incl searchPath
  have rootedWorkspace : rooted env.workspacePath = true := rfl
  have noSystem : incl.kind = '<' →
      applyReplaceDirectives env.spec.replace .system incl.file false = [] := fun _ => rfl
  have found : findFileInWorkspace env searchPath incl.file = some "src/b.h".toList := by decide
  obtain ⟨resolved, names⟩ := resolve_names_found_file "/w/src/a.c".toList rootedWorkspace noSystem
    found (by decide) rfl rfl (by decide)
  exact ⟨found, by rw [resolved]; decide, names⟩

/-! ## A directive that resolves to nothing -/

theorem replacer_eq_held {range : Ranging (Σ _ : List Char, List Char)} {r : Rewrites}
    (short : r.entries.length ≤ 1) : replacer range r = replacer (Ranging.held _) r := by
  unfold replacer
  have perm := range.perm r.entries
  generalize r.entries = entries at short perm ⊢
  rcases entries with _ | ⟨e, _ | ⟨f, rest⟩⟩
  · rw [perm.eq_nil]
    rfl
  · rw [List.perm_singleton.mp perm]
    rfl
  · simp at short

theorem rewrittenFiles_eq_held {range : Ranging (Σ _ : List Char, List Char)} {m : RewriteMetadata}
    (short : ∀ file ∈ m.entries, file.2.rewrites.entries.length ≤ 1) :
    rewrittenFiles range m = rewrittenFiles (Ranging.held _) m :=
  List.map_congr_left fun file member => by rw [replacer_eq_held (short file member)]

/-- `<stdio.h>` found outside the workspace `/w` is written back as `#include ""`, in every map order. -/
theorem rewrittenFiles_unresolved_include (range : Ranging (Σ _ : List Char, List Char)) :
    let env : Env := ⟨"/w".toList, ⟨[], [], []⟩, fun p => p == "/usr/include/stdio.h".toList,
      fun p => if p == "/w/a.c".toList then some "#include <stdio.h>\n".toList else none⟩
    let entry : CompilationDBEntry := ⟨"/w".toList, [], ["cc".toList, "-isystem".toList,
      "/usr/include".toList, "-c".toList, "a.c".toList], "a.c".toList⟩
    (collect env (fun _ => .ok []) 2 [entry]).map (rewrittenFiles range) =
      some [("/w/a.c".toList, "#include \"\"\n".toList)] := by
  intro env entry
  have ran : ((collect env (fun _ => .ok []) 2 [entry]).all fun m =>
      m.entries.all fun file => file.2.rewrites.entries.length ≤ 1) ∧
      (collect env (fun _ => .ok []) 2 [entry]).map (rewrittenFiles (Ranging.held _)) =
        some [("/w/a.c".toList, "#include \"\"\n".toList)] := by
    decide
  revert ran
  cases collect env (fun _ => .ok []) 2 [entry] with
  | none => simp
  | some m =>
    simp only [Option.all_some, List.all_eq_true, decide_eq_true_eq, Option.map_some', and_imp]
    intro short held
    rw [rewrittenFiles_eq_held short, held]

/-! ## Runs of `main` -/

/-- What `main` keeps of a file: its source as read, and rewrites of its own directives. -/
structure Recorded (env : Env) (m : RewriteMetadata) : Prop where
  source : ∀ {f meta}, m.lookup f = some meta → env.readFile f = some meta.source
  rewrites : ∀ {f meta}, m.lookup f = some meta → ∀ d ∈ meta.rewrites,
    ∃ incl ∈ includeDirectives meta.source, d = trimSpace incl.directive

/-- Every directive of `f` resolves without a panic to a file of `reachable`. -/
def ResolvesWithin (env : Env) (quoteIncludes systemIncludes reachable : List (List Char))
    (f : List Char) : Prop :=
  ∀ src ∈ env.readFile f, ∀ incl ∈ includeDirectives src,
    ∃ r ∈ resolve env f quoteIncludes systemIncludes incl, ∀ g ∈ r.includeFile, g ∈ reachable

instance (env : Env) (quoteIncludes systemIncludes reachable : List (List Char)) (f : List Char) :
    Decidable (ResolvesWithin env quoteIncludes systemIncludes reachable f) :=
  inferInstanceAs (Decidable (∀ src ∈ env.readFile f, ∀ incl ∈ includeDirectives src,
    ∃ r ∈ resolve env f quoteIncludes systemIncludes incl, ∀ g ∈ r.includeFile, g ∈ reachable))

section Run

variable {env : Env} {quoteIncludes systemIncludes reachable : List (List Char)}

theorem recorded_empty : Recorded env ∅ :=
  ⟨fun found => by simp at found, fun found => by simp at found⟩

theorem lookup_insert_eq_some {m : RewriteMetadata} {f f' : List Char} {meta meta' : MetadataFile}
    (found : (m.insert f meta).lookup f' = some meta') : f' = f ∧ meta' = meta ∨ m.lookup f' = some meta' := by
  by_cases same : f' = f
  · subst same
    exact .inl ⟨rfl, (Option.some.inj ((AList.lookup_insert m).symm.trans found)).symm⟩
  · exact .inr (by rwa [AList.lookup_insert_ne same] at found)

theorem Recorded.insert {m : RewriteMetadata} (recorded : Recorded env m) {f : List Char}
    {meta : MetadataFile} (source : env.readFile f = some meta.source)
    (rewrites : ∀ d ∈ meta.rewrites, ∃ incl ∈ includeDirectives meta.source, d = trimSpace incl.directive) :
    Recorded env (m.insert f meta) where
  source found := (lookup_insert_eq_some found).elim (fun ⟨rfl, rfl⟩ => source) recorded.source
  rewrites found := (lookup_insert_eq_some found).elim (fun ⟨rfl, rfl⟩ => rewrites) recorded.rewrites

theorem mem_addWorkspace {r : Rewrites} {oldDirective path d : List Char}
    (member : d ∈ addWorkspace r oldDirective path) : d ∈ r ∨ d = trimSpace oldDirective := by
  unfold addWorkspace at member
  dsimp only at member
  split_ifs at member
  · exact .inl member
  · exact ((AList.mem_insert _).mp member).symm

theorem fixIncludes_eq_some {filePath : List Char} :
    ∀ {incls : List Include}, (∀ incl ∈ incls, ∃ r ∈ resolve env filePath quoteIncludes
      systemIncludes incl, ∀ g ∈ r.includeFile, g ∈ reachable) → ∀ rewrites,
    ∃ rewrites' includeFiles,
      fixIncludes env filePath quoteIncludes systemIncludes incls rewrites = some (rewrites', includeFiles) ∧
      (∀ g ∈ includeFiles, g ∈ reachable) ∧
      ∀ d ∈ rewrites', d ∈ rewrites ∨ ∃ incl ∈ incls, d = trimSpace incl.directive
  | [], _, rewrites => ⟨rewrites, [], rfl, by simp, fun d member => .inl member⟩
  | incl :: rest, resolves, rewrites => by
    obtain ⟨r, resolved, within⟩ := resolves incl (.head _)
    obtain ⟨rewrites₁, unfolded, first⟩ : ∃ rewrites₁,
        fixIncludes env filePath quoteIncludes systemIncludes (incl :: rest) rewrites =
          (fixIncludes env filePath quoteIncludes systemIncludes rest rewrites₁).bind
            (fun fixed => some (fixed.1, r.includeFile.toList ++ fixed.2)) ∧
        ∀ d ∈ rewrites₁, d ∈ rewrites ∨ d = trimSpace incl.directive := by
      simp only [fixIncludes, Option.mem_def.mp resolved, Option.bind_eq_bind, Option.some_bind, Option.pure_def]
      rcases r.rewrite with _ | path
      · exact ⟨rewrites, rfl, fun d member => .inl member⟩
      · exact ⟨_, rfl, fun d member => mem_addWorkspace member⟩
    obtain ⟨rewrites', includeFiles, fixed, withinRest, added⟩ :=
      fixIncludes_eq_some (fun incl member => resolves incl (.tail _ member)) rewrites₁
    refine ⟨rewrites', r.includeFile.toList ++ includeFiles, by rw [unfolded, fixed]; rfl, ?_,
      fun d member => ?_⟩
    · intro g member
      rcases List.mem_append.mp member with here | later
      · exact within g (Option.mem_toList.mp here)
      · exact withinRest g later
    · rcases added d member with kept | ⟨incl', member', same⟩
      · exact (first d kept).imp_right fun same => ⟨incl, .head _, same⟩
      · exact .inr ⟨incl', .tail _ member', same⟩

theorem fixIncludesAndGetRefs_eq_some {m : RewriteMetadata} {f : List Char}
    (recorded : Recorded env m) (resolves : ResolvesWithin env quoteIncludes systemIncludes reachable f) :
    ∃ m' includeFiles,
      fixIncludesAndGetRefs env m f quoteIncludes systemIncludes = some (m', includeFiles) ∧
      Recorded env m' ∧ ∀ g ∈ includeFiles, g ∈ reachable := by
  have finish : ∀ meta : MetadataFile, env.readFile f = some meta.source →
      (∀ d ∈ meta.rewrites, ∃ incl ∈ includeDirectives meta.source, d = trimSpace incl.directive) →
      ∃ m' includeFiles, (fixIncludes env f quoteIncludes systemIncludes
        (includeDirectives meta.source) meta.rewrites).bind
          (fun fixed => some (m.insert f ⟨fixed.1, meta.source⟩, fixed.2)) = some (m', includeFiles) ∧
        Recorded env m' ∧ ∀ g ∈ includeFiles, g ∈ reachable := by
    intro meta read old
    obtain ⟨rewrites', includeFiles, fixed, within, added⟩ :=
      fixIncludes_eq_some (resolves _ read) meta.rewrites
    have kept : env.readFile f = some (MetadataFile.source ⟨rewrites', meta.source⟩) := read
    exact ⟨_, includeFiles, by rw [fixed]; rfl,
      recorded.insert kept fun d member => (added d member).elim (old d) id, within⟩
  unfold fixIncludesAndGetRefs
  rcases found : m.lookup f with _ | meta
  · rcases read : env.readFile f with _ | src
    · exact ⟨m, [], rfl, recorded, by simp⟩
    · exact finish ⟨∅, src⟩ read fun d member => absurd member (AList.not_mem_empty d)
  · exact finish meta (recorded.source found) (recorded.rewrites found)

theorem visit_succ_cons (fuel : Nat) (m : RewriteMetadata) (seen : List (List Char))
    (f : List Char) (files : List (List Char)) :
    visit env quoteIncludes systemIncludes (fuel + 1) (m, seen) (f :: files) =
      (if f ∈ seen then some (m, seen)
        else (fixIncludesAndGetRefs env m f quoteIncludes systemIncludes).bind fun fixed =>
          visit env quoteIncludes systemIncludes fuel (fixed.1, f :: seen) fixed.2).bind
        fun state => visit env quoteIncludes systemIncludes (fuel + 1) state files := by
  cases files <;> rfl

theorem length_unseen_le {seen seen' : List (List Char)} (grown : ∀ g ∈ seen, g ∈ seen') :
    (reachable.filter (· ∉ seen')).length ≤ (reachable.filter (· ∉ seen)).length :=
  (List.monotone_filter_right reachable fun g unseen => by
    simp only [decide_eq_true_eq] at unseen ⊢
    exact fun member => unseen (grown g member)).length_le

theorem length_unseen_cons_lt {seen : List (List Char)} {f : List Char} (member : f ∈ reachable)
    (unseen : f ∉ seen) :
    (reachable.filter (· ∉ f :: seen)).length < (reachable.filter (· ∉ seen)).length := by
  have split : reachable.filter (· ∉ f :: seen) = (reachable.filter (· ∉ seen)).filter (· ≠ f) := by
    rw [List.filter_filter]
    congr
    funext g
    simp [and_comm]
  rw [split, List.length_filter_lt_length_iff_exists]
  exact ⟨f, List.mem_filter.mpr ⟨member, by simpa using unseen⟩, by simp⟩

theorem visit_eq_some (closed : ∀ f ∈ reachable, ResolvesWithin env quoteIncludes systemIncludes reachable f)
    (fuel : Nat) :
    ∀ m seen files, Recorded env m → (∀ g ∈ files, g ∈ reachable) →
      (reachable.filter (· ∉ seen)).length < fuel →
      ∃ m' seen', visit env quoteIncludes systemIncludes fuel (m, seen) files = some (m', seen') ∧
        Recorded env m' ∧ ∀ g ∈ seen, g ∈ seen' := by
  induction fuel with
  | zero => exact fun _ _ _ _ _ bound => absurd bound (Nat.not_lt_zero _)
  | succ fuel deeper =>
    intro m seen files recorded within bound
    induction files generalizing m seen with
    | nil => exact ⟨m, seen, rfl, recorded, fun _ => id⟩
    | cons f files later =>
      have withinLater : ∀ g ∈ files, g ∈ reachable := fun g member => within g (.tail _ member)
      rw [visit_succ_cons]
      by_cases visited : f ∈ seen
      · simp only [visited, if_true, Option.some_bind]
        exact later m seen recorded withinLater bound
      · obtain ⟨m₁, includeFiles, fixed, recorded₁, within₁⟩ :=
          fixIncludesAndGetRefs_eq_some recorded (closed f (within f (.head _)))
        have fewer := length_unseen_cons_lt (within f (.head _)) visited
        obtain ⟨m₂, seen₂, ran, recorded₂, grown₂⟩ := deeper m₁ (f :: seen) includeFiles recorded₁ within₁
          (by omega)
        obtain ⟨m₃, seen₃, rest, recorded₃, grown₃⟩ := later m₂ seen₂ recorded₂ withinLater
          (lt_of_le_of_lt (length_unseen_le grown₂) (by omega))
        refine ⟨m₃, seen₃, ?_, recorded₃, fun g member => grown₃ g (grown₂ g (.tail _ member))⟩
        simp only [visited, if_false, fixed, Option.some_bind, ran, rest]

theorem collect_eq_some {parseCommand : List Char → Except String (List (List Char))}
    {compilationDB : List CompilationDBEntry} {fuel : Nat}
    (parsed : ∀ entry ∈ compilationDB, (getIncludeDirs parseCommand entry).isSome ∧
      ∀ dirs ∈ getIncludeDirs parseCommand entry, ∀ paths ∈ dirs.toOption,
        ∀ f ∈ entry.filePath :: reachable, ResolvesWithin env paths.1 paths.2 reachable f)
    (enough : reachable.length < fuel) :
    ∃ m, collect env parseCommand fuel compilationDB = some m ∧ Recorded env m := by
  unfold collect
  have start : Recorded env ∅ := recorded_empty
  generalize (∅ : RewriteMetadata) = m at start ⊢
  induction compilationDB generalizing m with
  | nil => exact ⟨m, rfl, start⟩
  | cons entry rest ih =>
    obtain ⟨dirs, got⟩ := Option.isSome_iff_exists.mp (parsed entry (.head _)).1
    have parsedRest := fun entry member => parsed entry (List.mem_cons_of_mem _ member)
    rw [List.foldlM_cons]
    rcases dirs with err | ⟨quoteIncludes, systemIncludes⟩
    · simp only [got, Option.bind_eq_bind, Option.some_bind, Option.pure_def]
      exact ih parsedRest m start
    · have closed := (parsed entry (.head _)).2 _ got (quoteIncludes, systemIncludes) rfl
      obtain ⟨m₁, includedFiles, fixed, recorded₁, within₁⟩ :=
        fixIncludesAndGetRefs_eq_some start (closed _ (.head _))
      obtain ⟨m₂, seen₂, ran, recorded₂, -⟩ := visit_eq_some (fun f member => closed f (.tail _ member))
        fuel m₁ [] includedFiles recorded₁ within₁ (by simpa using enough)
      simp only [got, fixed, ran, Option.bind_eq_bind, Option.some_bind, Option.pure_def]
      exact ih parsedRest m₂ recorded₂

theorem Recorded.written {m : RewriteMetadata} (recorded : Recorded env m)
    (range : Ranging (Σ _ : List Char, List Char)) :
    ∀ written ∈ rewrittenFiles range m, ∃ src rewrites, env.readFile written.1 = some src ∧
      (∀ d ∈ rewrites, ∃ incl ∈ includeDirectives src, d = trimSpace incl.directive) ∧
      written.2 = replace (replacer range rewrites) src := by
  intro written member
  obtain ⟨file, entry, rfl⟩ := List.mem_map.mp member
  have found : m.lookup file.1 = some file.2 := AList.mem_lookup_iff.mpr entry
  exact ⟨_, file.2.rewrites, recorded.source found, recorded.rewrites found, rfl⟩

/-- `main` returns, and writes back only files it read, with rewrites of their own directives. -/
theorem main_writes_read_files {parseCommand : List Char → Except String (List (List Char))}
    {compilationDB : List CompilationDBEntry} {fuel : Nat}
    (parsed : ∀ entry ∈ compilationDB, (getIncludeDirs parseCommand entry).isSome ∧
      ∀ dirs ∈ getIncludeDirs parseCommand entry, ∀ paths ∈ dirs.toOption,
        ∀ f ∈ entry.filePath :: reachable, ResolvesWithin env paths.1 paths.2 reachable f)
    (enough : reachable.length < fuel) (range : Ranging (Σ _ : List Char, List Char)) :
    ∃ m, collect env parseCommand fuel compilationDB = some m ∧
      ∀ written ∈ rewrittenFiles range m, ∃ src rewrites, env.readFile written.1 = some src ∧
        (∀ d ∈ rewrites, ∃ incl ∈ includeDirectives src, d = trimSpace incl.directive) ∧
        written.2 = replace (replacer range rewrites) src := by
  obtain ⟨m, collected, recorded⟩ := collect_eq_some parsed enough
  exact ⟨m, collected, recorded.written range⟩

end Run

theorem main_writes_read_files_cycle :
    let env : Env := ⟨"/w".toList, ⟨[], [], []⟩,
      fun p => p == "/w/a.h".toList || p == "/w/b.h".toList,
      fun p => if p == "/w/a.c".toList then some "#include \"a.h\"\n".toList
        else if p == "/w/a.h".toList then some "#include \"b.h\"\n".toList
        else if p == "/w/b.h".toList then some "#include \"a.h\"\n".toList else none⟩
    let entry : CompilationDBEntry := ⟨"/w".toList, [], ["cc".toList, "-c".toList, "a.c".toList],
      "a.c".toList⟩
    let reachable := ["/w/a.h".toList, "/w/b.h".toList]
    (∀ entry' ∈ [entry], (getIncludeDirs (fun _ => .ok []) entry').isSome ∧
      ∀ dirs ∈ getIncludeDirs (fun _ => .ok []) entry', ∀ paths ∈ dirs.toOption,
        ∀ f ∈ entry'.filePath :: reachable, ResolvesWithin env paths.1 paths.2 reachable f) ∧
    reachable.length < 3 ∧
    ∃ m, collect env (fun _ => .ok []) 3 [entry] = some m ∧
      ∀ written ∈ rewrittenFiles (Ranging.held _) m, ∃ src rewrites, env.readFile written.1 = some src ∧
        (∀ d ∈ rewrites, ∃ incl ∈ includeDirectives src, d = trimSpace incl.directive) ∧
        written.2 = replace (replacer (Ranging.held _) rewrites) src := by
  intro env entry reachable
  have parsed : ∀ entry' ∈ [entry], (getIncludeDirs (fun _ => .ok []) entry').isSome ∧
      ∀ dirs ∈ getIncludeDirs (fun _ => .ok []) entry', ∀ paths ∈ dirs.toOption,
        ∀ f ∈ entry'.filePath :: reachable, ResolvesWithin env paths.1 paths.2 reachable f := by
    decide
  exact ⟨parsed, by decide, main_writes_read_files parsed (by decide) _⟩

end Monogon.Build.BazelCcFix
