import Mathlib.Data.List.AList
import Mathlib.Data.List.Perm.Basic

/-! The reconciler of built-in Kubernetes resources. Each of the five kinds has a reconciler of
the same shape: list the objects labelled `smalltown.com/builtin=true`, `Create` every built-in
object whose name was not listed, `Delete` every listed object that is not built in. Here the
shape is `reconcile`, and each kind is `reconcile` applied to its built-in objects. The API
server of one kind is a store of objects by name, each with its labels; `Create` of a taken
name and `Delete` of a missing one fail. Go ranges over maps in any order, which `Ranging`
stands for. When every built-in object carries the label, a run that succeeds leaves a store
on which the next run does nothing; the built-in cluster roles and bindings carry no label, so
the next run creates them again and fails. -/

namespace Monogon.Kubernetes.Reconcile

abbrev Labels := List (String × String)

/-- An object's name and labels, the parts the reconciler reads. -/
structure Object where
  name : String
  labels : Labels
deriving DecidableEq, Repr

/-- The objects of one kind in the API server: labels by name. -/
abbrev Store := AList (fun _ : String => Labels)

/-- The label selector `smalltown.com/builtin=true`. -/
def selected (labels : Labels) : Bool :=
  labels.lookup "smalltown.com/builtin" == some "true"

def builtinLabels : Labels := [("smalltown.com/builtin", "true")]

/-- An order in which Go ranges over a map: a permutation of its entries. -/
structure Ranging (α : Type) where
  order : List α → List α
  perm : ∀ l, (order l).Perm l

def Ranging.held (α : Type) : Ranging α :=
  ⟨id, List.Perm.refl⟩

inductive ApiError where
  | alreadyExists (name : String)
  | notFound (name : String)
deriving DecidableEq, Repr

/-- A call the reconciler makes that changes the store. -/
inductive Call where
  | create (name : String)
  | delete (name : String)
deriving DecidableEq, Repr

def create (s : Store) (o : Object) : Except ApiError Store :=
  if o.name ∈ s then .error (.alreadyExists o.name) else .ok (s.insert o.name o.labels)

def delete (s : Store) (name : String) : Except ApiError Store :=
  if name ∈ s then .ok (s.erase name) else .error (.notFound name)

/-- The names `List` with the selector returns: the keys of `available…Map`. -/
def availableMap (s : Store) : List String :=
  (s.entries.filter fun e => selected e.2).map Sigma.fst

/-- `expected…Map`: the built-in objects by name, a later one replacing an earlier one. -/
def expectedMap (builtins : List Object) : Store :=
  builtins.foldl (fun m o => m.insert o.name o.labels) ∅

/-- The first loop: `Create` every expected object not listed, up to the first error. -/
def createMissing (available : List String) : List Object → Store → List Call × Except ApiError Store
  | [], s => ([], .ok s)
  | o :: rest, s =>
    if o.name ∈ available then createMissing available rest s
    else
      match create s o with
      | .error err => ([.create o.name], .error err)
      | .ok s' =>
        let created := createMissing available rest s'
        (.create o.name :: created.1, created.2)

/-- The second loop: `Delete` every listed name that is not expected, up to the first error. -/
def deleteUnexpected (expected : Store) : List String → Store → List Call × Except ApiError Store
  | [], s => ([], .ok s)
  | name :: rest, s =>
    if name ∈ expected then deleteUnexpected expected rest s
    else
      match delete s name with
      | .error err => ([.delete name], .error err)
      | .ok s' =>
        let deleted := deleteUnexpected expected rest s'
        (.delete name :: deleted.1, deleted.2)

/-- The body every reconciler shares. -/
def reconcile (builtins : List Object) (rangeExpected : Ranging Object)
    (rangeAvailable : Ranging String) (s : Store) : List Call × Except ApiError Store :=
  let available := availableMap s
  let expected := expectedMap builtins
  let created := createMissing available
    (rangeExpected.order (expected.entries.map fun e => ⟨e.1, e.2⟩)) s
  match created.2 with
  | .error err => (created.1, .error err)
  | .ok s' =>
    let deleted := deleteUnexpected expected (rangeAvailable.order available) s'
    (created.1 ++ deleted.1, deleted.2)

/-- `builtinRBACPrefix + name`. -/
def rbac (name : String) : String :=
  "smalltown:" ++ name

def builtinPSPs : List Object :=
  [⟨"default", builtinLabels⟩]

def builtinClusterRoles : List Object :=
  [⟨rbac "psp-default", []⟩]

def builtinClusterRoleBindings : List Object :=
  [⟨rbac "default-psp-for-sa", []⟩, ⟨rbac "apiserver-kubelet-client", []⟩]

def builtinStorageClasses : List Object :=
  [⟨"local", builtinLabels⟩]

/-- `csiProvisionerName` is declared outside the sources. -/
def builtinCSIDrivers (csiProvisionerName : String) : List Object :=
  [⟨csiProvisionerName, builtinLabels⟩]

def reconcilePSPs := reconcile builtinPSPs

def reconcileClusterRoles := reconcile builtinClusterRoles

def reconcileClusterRoleBindings := reconcile builtinClusterRoleBindings

def reconcileSCs := reconcile builtinStorageClasses

def reconcileCSIDrivers (csiProvisionerName : String) := reconcile (builtinCSIDrivers csiProvisionerName)

/-! ## Unlabelled built-in objects are created again -/

/-- The second run of the RBAC reconcilers creates the built-in objects again and fails. -/
theorem reconcile_rbac_recreates :
    let roles : Store := (∅ : Store).insert (rbac "psp-default") []
    let bindings : Store := ((∅ : Store).insert (rbac "apiserver-kubelet-client") []).insert
      (rbac "default-psp-for-sa") []
    reconcileClusterRoles (.held _) (.held _) ∅ = ([.create (rbac "psp-default")], .ok roles) ∧
      reconcileClusterRoles (.held _) (.held _) roles =
        ([.create (rbac "psp-default")], .error (.alreadyExists (rbac "psp-default"))) ∧
      (reconcileClusterRoleBindings (.held _) (.held _) ∅).2 = .ok bindings ∧
      reconcileClusterRoleBindings (.held _) (.held _) bindings =
        ([.create (rbac "apiserver-kubelet-client")],
          .error (.alreadyExists (rbac "apiserver-kubelet-client"))) :=
  ⟨rfl, rfl, rfl, rfl⟩

/-! ## Labelled built-in objects converge -/

theorem create_eq_ok {s s' : Store} {o : Object} (created : create s o = .ok s') :
    s.lookup o.name = none ∧ s' = s.insert o.name o.labels := by
  unfold create at created
  split_ifs at created with taken
  exact ⟨AList.lookup_eq_none.mpr taken, (Except.ok.inj created).symm⟩

theorem delete_eq_ok {s s' : Store} {name : String} (deleted : delete s name = .ok s') :
    s' = s.erase name := by
  unfold delete at deleted
  split_ifs at deleted
  exact (Except.ok.inj deleted).symm

theorem lookup_insert_some {s : Store} {o : Object} {n : String} {l : Labels}
    (found : (s.insert o.name o.labels).lookup n = some l) :
    s.lookup n = some l ∨ o.name = n ∧ o.labels = l := by
  by_cases same : n = o.name
  · subst same
    simp only [AList.lookup_insert, Option.some.injEq] at found
    exact .inr ⟨rfl, found⟩
  · exact .inl (by rwa [AList.lookup_insert_ne same] at found)

theorem createMissing_eq_ok {available : List String} :
    ∀ {os : List Object} {s s' : Store}, (createMissing available os s).2 = .ok s' →
      (∀ n l, s.lookup n = some l → s'.lookup n = some l) ∧
      (∀ n l, s'.lookup n = some l → s.lookup n = some l ∨ ∃ o ∈ os, o.name = n ∧ o.labels = l) ∧
      (∀ o ∈ os, o.name ∉ available → s'.lookup o.name = some o.labels)
  | [], s, s', ran => by
    cases ran
    exact ⟨fun _ _ => id, fun _ _ => .inl, by simp⟩
  | o :: rest, s, s', ran => by
    unfold createMissing at ran
    split_ifs at ran with listed
    · obtain ⟨kept, added, missing⟩ := createMissing_eq_ok ran
      refine ⟨kept, fun n l found => (added n l found).imp_right fun ⟨o', member, named⟩ =>
        ⟨o', List.mem_cons_of_mem o member, named⟩, fun o' member unlisted => ?_⟩
      rcases List.mem_cons.mp member with rfl | member
      · exact absurd listed unlisted
      · exact missing o' member unlisted
    · split at ran
      · cases ran
      · rename_i created
        obtain ⟨fresh, rfl⟩ := create_eq_ok created
        obtain ⟨kept, added, missing⟩ := createMissing_eq_ok ran
        refine ⟨fun n l found => kept n l ?_, fun n l found => ?_, fun o' member unlisted => ?_⟩
        · have other : n ≠ o.name := by rintro rfl; simp [fresh] at found
          rwa [AList.lookup_insert_ne other]
        · rcases added n l found with inserted | ⟨o', member, named⟩
          · exact (lookup_insert_some inserted).imp_right (⟨o, List.mem_cons_self o rest, ·⟩)
          · exact .inr ⟨o', List.mem_cons_of_mem o member, named⟩
        · rcases List.mem_cons.mp member with rfl | member
          · exact kept _ _ (AList.lookup_insert _)
          · exact missing o' member unlisted

theorem deleteUnexpected_eq_ok {expected : Store} :
    ∀ {names : List String} {s s' : Store}, (deleteUnexpected expected names s).2 = .ok s' →
      (∀ n, n ∈ expected ∨ n ∉ names → s'.lookup n = s.lookup n) ∧
      (∀ n ∈ names, n ∉ expected → s'.lookup n = none)
  | [], s, s', ran => by
    cases ran
    exact ⟨fun _ _ => rfl, by simp⟩
  | name :: rest, s, s', ran => by
    unfold deleteUnexpected at ran
    split_ifs at ran with kept
    · obtain ⟨same, gone⟩ := deleteUnexpected_eq_ok ran
      refine ⟨fun n spared => same n (spared.imp_right fun out member =>
        out (List.mem_cons_of_mem name member)), fun n member unexpected => ?_⟩
      rcases List.mem_cons.mp member with rfl | member
      · exact absurd kept unexpected
      · exact gone n member unexpected
    · split at ran
      · cases ran
      · rename_i deleted
        obtain rfl := delete_eq_ok deleted
        obtain ⟨same, gone⟩ := deleteUnexpected_eq_ok ran
        refine ⟨fun n spared => ?_, fun n member unexpected => ?_⟩
        · have other : n ≠ name := by
            rintro rfl
            rcases spared with spared | spared
            · exact kept spared
            · exact spared (List.mem_cons_self n rest)
          rw [same n (spared.imp_right fun out member => out (List.mem_cons_of_mem name member)),
            AList.lookup_erase_ne other]
        · by_cases later : n ∈ rest
          · exact gone n later unexpected
          · rcases List.mem_cons.mp member with rfl | member
            · rw [same n (.inr later), AList.lookup_erase]
            · exact absurd member later

theorem mem_availableMap {s : Store} {n : String} :
    n ∈ availableMap s ↔ ∃ l, s.lookup n = some l ∧ selected l = true := by
  simp only [availableMap, List.mem_map, List.mem_filter]
  constructor
  · rintro ⟨⟨k, l⟩, ⟨member, chosen⟩, rfl⟩
    exact ⟨l, AList.mem_lookup_iff.mpr member, chosen⟩
  · rintro ⟨l, found, chosen⟩
    exact ⟨⟨n, l⟩, ⟨AList.mem_lookup_iff.mp found, chosen⟩, rfl⟩

theorem mem_entries_objects {m : Store} {o : Object} :
    o ∈ m.entries.map (fun e => (⟨e.1, e.2⟩ : Object)) ↔ m.lookup o.name = some o.labels := by
  rw [List.mem_map]
  constructor
  · rintro ⟨⟨k, l⟩, member, rfl⟩
    exact AList.mem_lookup_iff.mpr member
  · intro found
    exact ⟨⟨o.name, o.labels⟩, AList.mem_lookup_iff.mp found, rfl⟩

theorem lookup_foldl_insert : ∀ (builtins : List Object) (m : Store) {n : String} {l : Labels},
    (builtins.foldl (fun m o => m.insert o.name o.labels) m).lookup n = some l →
      m.lookup n = some l ∨ ∃ o ∈ builtins, o.name = n ∧ o.labels = l
  | [], _, _, _, found => .inl found
  | o :: rest, m, n, l, found => by
    rcases lookup_foldl_insert rest _ found with inserted | ⟨o', member, named⟩
    · exact (lookup_insert_some inserted).imp_right (⟨o, List.mem_cons_self o rest, ·⟩)
    · exact .inr ⟨o', List.mem_cons_of_mem o member, named⟩

theorem lookup_expectedMap {builtins : List Object} {n : String} {l : Labels}
    (found : (expectedMap builtins).lookup n = some l) : ∃ o ∈ builtins, o.name = n ∧ o.labels = l :=
  (lookup_foldl_insert builtins ∅ found).resolve_left (by simp)

theorem mem_expectedMap_of_ranged {builtins : List Object} (rangeExpected : Ranging Object)
    {o : Object} (ranged : o ∈ rangeExpected.order
      ((expectedMap builtins).entries.map fun e => (⟨e.1, e.2⟩ : Object))) :
    o.name ∈ expectedMap builtins := by
  refine AList.lookup_isSome.mp ?_
  rw [mem_entries_objects.mp ((rangeExpected.perm _).mem_iff.mp ranged)]
  rfl

/-- The names listed under the selector are exactly the built-in names. -/
def Converged (builtins : List Object) (s : Store) : Prop :=
  ∀ n, n ∈ availableMap s ↔ n ∈ expectedMap builtins

theorem createMissing_listed {available : List String} :
    ∀ {os : List Object}, (∀ o ∈ os, o.name ∈ available) → ∀ s, createMissing available os s = ([], .ok s)
  | [], _, _ => rfl
  | o :: rest, listed, s => by
    rw [createMissing, if_pos (listed o (List.mem_cons_self o rest))]
    exact createMissing_listed (fun o' member => listed o' (List.mem_cons_of_mem o member)) s

theorem deleteUnexpected_expected {expected : Store} :
    ∀ {names : List String}, (∀ n ∈ names, n ∈ expected) → ∀ s, deleteUnexpected expected names s = ([], .ok s)
  | [], _, _ => rfl
  | n :: rest, known, s => by
    rw [deleteUnexpected, if_pos (known n (List.mem_cons_self n rest))]
    exact deleteUnexpected_expected (fun n' member => known n' (List.mem_cons_of_mem n member)) s

theorem reconcile_converged {builtins : List Object} {s : Store} (converged : Converged builtins s)
    (rangeExpected : Ranging Object) (rangeAvailable : Ranging String) :
    reconcile builtins rangeExpected rangeAvailable s = ([], .ok s) := by
  have created := @createMissing_listed (availableMap s) _ (fun o member =>
    (converged o.name).mpr (mem_expectedMap_of_ranged rangeExpected member)) s
  have deleted := @deleteUnexpected_expected (expectedMap builtins) _ (fun n member =>
    (converged n).mp ((rangeAvailable.perm _).mem_iff.mp member)) s
  simp only [reconcile, created, deleted, List.append_nil]

theorem reconcile_eq_ok_converged {builtins : List Object}
    (labelled : ∀ o ∈ builtins, selected o.labels = true) {rangeExpected : Ranging Object}
    {rangeAvailable : Ranging String} {s s' : Store}
    (ran : (reconcile builtins rangeExpected rangeAvailable s).2 = .ok s') : Converged builtins s' := by
  dsimp only [reconcile] at ran
  split at ran
  · cases ran
  rename_i created
  obtain ⟨kept, added, missing⟩ := createMissing_eq_ok created
  obtain ⟨same, gone⟩ := deleteUnexpected_eq_ok ran
  intro n
  rw [mem_availableMap]
  constructor
  · rintro ⟨l, found, chosen⟩
    by_contra unexpected
    by_cases listed : n ∈ availableMap s
    · rw [gone n ((rangeAvailable.perm _).mem_iff.mpr listed) unexpected] at found
      cases found
    · rw [same n (.inr fun member => listed ((rangeAvailable.perm _).mem_iff.mp member))] at found
      rcases added n l found with old | ⟨o, member, rfl, rfl⟩
      · exact listed (mem_availableMap.mpr ⟨_, old, chosen⟩)
      · exact unexpected (mem_expectedMap_of_ranged rangeExpected member)
  · intro expected
    rw [same n (.inl expected)]
    by_cases listed : n ∈ availableMap s
    · obtain ⟨l, old, chosen⟩ := mem_availableMap.mp listed
      exact ⟨l, kept n l old, chosen⟩
    · obtain ⟨l, found⟩ := Option.isSome_iff_exists.mp (AList.lookup_isSome.mpr expected)
      obtain ⟨o, builtin, rfl, rfl⟩ := lookup_expectedMap found
      have ranged : o ∈ rangeExpected.order ((expectedMap builtins).entries.map
          fun e => (⟨e.1, e.2⟩ : Object)) :=
        (rangeExpected.perm _).mem_iff.mpr (mem_entries_objects.mpr found)
      exact ⟨o.labels, missing o ranged listed, labelled o builtin⟩

/-- For a labelled kind, the run after a successful one makes no call and succeeds. -/
theorem reconcile_idempotent {builtins : List Object}
    (labelled : ∀ o ∈ builtins, selected o.labels = true) {rangeExpected : Ranging Object}
    {rangeAvailable : Ranging String} {s s' : Store}
    (ran : (reconcile builtins rangeExpected rangeAvailable s).2 = .ok s')
    (rangeExpected' : Ranging Object) (rangeAvailable' : Ranging String) :
    Converged builtins s' ∧ reconcile builtins rangeExpected' rangeAvailable' s' = ([], .ok s') :=
  have converged := reconcile_eq_ok_converged labelled ran
  ⟨converged, reconcile_converged converged rangeExpected' rangeAvailable'⟩

theorem reconcile_idempotent_psps :
    (∀ o ∈ builtinPSPs, selected o.labels = true) ∧
      (reconcile builtinPSPs (.held _) (.held _) ((∅ : Store).insert "stray" builtinLabels)).2 =
        .ok ((∅ : Store).insert "default" builtinLabels) ∧
      Converged builtinPSPs ((∅ : Store).insert "default" builtinLabels) ∧
      reconcile builtinPSPs (.held _) (.held _) ((∅ : Store).insert "default" builtinLabels) =
        ([], .ok ((∅ : Store).insert "default" builtinLabels)) := by
  have labelled : ∀ o ∈ builtinPSPs, selected o.labels = true := by decide
  have ran : (reconcile builtinPSPs (.held _) (.held _) ((∅ : Store).insert "stray" builtinLabels)).2 =
      .ok ((∅ : Store).insert "default" builtinLabels) := by rfl
  exact ⟨labelled, ran, reconcile_idempotent labelled ran (.held _) (.held _)⟩

end Monogon.Kubernetes.Reconcile
