import Monogon.Net.IP
import Monogon.Hostsfile.Cluster

/-! `Service.Run` of the hostsfile service. After writing the machine ID, the hostname and a
hosts file with only `localhost`, it loops over two channels: the local network status and
the maps `runCluster` sends. A status without an address, or with the address already
known, changes nothing; a cluster map sets every remote node whose address differs and
never touches the local node or removes a node. An iteration that changed `nodes` rewrites
`/etc/hosts` and the ClusterDirectory and sets `ClusterDirectorySaved`. -/

namespace Monogon.Hostsfile
open Monogon.Net Monogon.Proto

/-- A value taken by the loop's `select`. -/
inductive Input where
  | ctxDone
  | localStatus (st : Status)
  | cluster (u : NodeMap)

/-- An action of `Service.Run` on the node's files and values. -/
inductive Effect where
  | writeMachineID (nodeID : String)
  | sethostname (nodeID : String)
  | writeHosts (contents : List Char)
  | writeClusterDirectory (directory : ClusterDirectory)
  | setClusterDirectorySaved (saved : Bool)
deriving DecidableEq, Repr

/-- Whether the two writes of an iteration succeed. -/
structure Writes where
  hosts : Bool
  clusterDirectory : Bool
deriving DecidableEq, Repr

inductive RunError where
  /-- `ctx.Err()` -/
  | canceled
  /-- "failed to write %s: %w", for `/etc/hosts` -/
  | writeHosts
  /-- the error of the ClusterDirectory write -/
  | writeClusterDirectory
deriving DecidableEq, Repr

/-- The `localC` case: `nodes` and `changed` after it. -/
def localUpdate (nodeID : String) (nodes : NodeMap) (st : Status) : NodeMap × Bool :=
  match st.externalAddress with
  | none => (nodes, false)
  | some ip =>
    if nodes.address nodeID = ip.string then (nodes, false)
    else (nodes.insert nodeID ⟨ip.string, true⟩, true)

/-- One entry of the `clusterC` case's `range` loop. -/
def clusterEntry (nodeID : String) (acc : NodeMap × Bool) (entry : Σ _ : String, NodeInfo) :
    NodeMap × Bool :=
  if entry.1 = nodeID then acc
  else if acc.1.address entry.1 = entry.2.address then acc
  else (acc.1.insert entry.1 entry.2, true)

/-- The `clusterC` case: the `range` over the received map. -/
def clusterUpdate (nodeID : String) (nodes : NodeMap) (u : NodeMap) : NodeMap × Bool :=
  u.entries.foldl (clusterEntry nodeID) (nodes, false)

/-- The `select`: `nodes` and `changed`, or `none` on `ctx.Done()`. -/
def receive (nodeID : String) (nodes : NodeMap) : Input → Option (NodeMap × Bool)
  | .ctxDone => none
  | .localStatus st => some (localUpdate nodeID nodes st)
  | .cluster u => some (clusterUpdate nodeID nodes u)

/-- What a changed iteration writes. -/
def rewrite (nodes : NodeMap) : List Effect :=
  [.writeHosts nodes.hosts, .writeClusterDirectory nodes.clusterDirectory,
    .setClusterDirectorySaved true]

/-- One iteration of the loop: `nodes` after it and its writes, or the error it returns. -/
def iteration (nodeID : String) (nodes : NodeMap) (input : Input) (writes : Writes) :
    Except RunError (NodeMap × List Effect) :=
  match receive nodeID nodes input with
  | none => .error .canceled
  | some (nodes, changed) =>
    if !changed then .ok (nodes, [])
    else if !writes.hosts then .error .writeHosts
    else if !writes.clusterDirectory then .error .writeClusterDirectory
    else .ok (nodes, rewrite nodes)

/-- The loop over a finite sequence of inputs: `nodes` and the writes after each iteration. -/
def loop (nodeID : String) : NodeMap → List (Input × Writes) →
    Except RunError (List (NodeMap × List Effect))
  | _, [] => .ok []
  | nodes, (input, writes) :: rest => do
    let (nodes, effects) ← iteration nodeID nodes input writes
    let steps ← loop nodeID nodes rest
    pure ((nodes, effects) :: steps)

/-- What `Service.Run` does before its loop. -/
def preamble (nodeID : String) : List Effect :=
  [.setClusterDirectorySaved false, .writeMachineID nodeID, .sethostname nodeID,
    .writeHosts (NodeMap.hosts ∅)]

/-- `Service.Run`: the preamble, then the loop from an empty `nodes`. -/
def run (nodeID : String) (inputs : List (Input × Writes)) :
    Except RunError (List Effect × List (NodeMap × List Effect)) :=
  (loop nodeID ∅ inputs).map (preamble nodeID, ·)

/-! ## What `nodes` holds -/

@[simp] def Input.localAddress? : Input → Option String
  | .localStatus st => st.externalAddress.map IP.string
  | _ => none

/-- The entry a cluster map gives `id`. -/
@[simp] def Input.clusterEntry? (id : String) : Input → Option NodeInfo
  | .cluster u => u.lookup id
  | _ => none

/-- `nodes` after `history`: the local node's latest address, other nodes from the latest cluster map holding them. -/
def expectedNodes (nodeID : String) (history : List Input) (id : String) : Option NodeInfo :=
  if id = nodeID then (history.reverse.findSome? Input.localAddress?).map (⟨·, true⟩)
  else history.reverse.findSome? (Input.clusterEntry? id)

theorem expectedNodes_append (nodeID : String) (history : List Input) (input : Input) (id : String) :
    expectedNodes nodeID (history ++ [input]) id =
      if id = nodeID then
        (input.localAddress?.map (⟨·, true⟩)).or (expectedNodes nodeID history id)
      else (input.clusterEntry? id).or (expectedNodes nodeID history id) := by
  unfold expectedNodes
  split_ifs <;> simp only [List.reverse_append, List.reverse_singleton, List.singleton_append,
    List.findSome?_cons] <;> split <;> simp_all

/-- The loop's invariant: `nodes` is the expected map, and no remote node is marked local. -/
structure Mirrors (nodeID : String) (history : List Input) (nodes : NodeMap) : Prop where
  lookup : ∀ id, nodes.lookup id = expectedNodes nodeID history id
  remote : ∀ id info, id ≠ nodeID → nodes.lookup id = some info → info.local = false

theorem mirrors_empty (nodeID : String) : Mirrors nodeID [] ∅ :=
  ⟨fun id => by unfold expectedNodes; split_ifs <;> simp, fun _ _ _ found => by simp at found⟩

theorem lookup_of_address {nodes : NodeMap} {id address : String} (given : nodes.address id = address)
    (nonempty : address ≠ "") : ∃ info, nodes.lookup id = some info ∧ info.address = address := by
  unfold NodeMap.address at given
  cases found : nodes.lookup id with
  | none => simp [found] at given; exact absurd given.symm nonempty
  | some info => exact ⟨info, rfl, by simpa [found] using given⟩

theorem localUpdate_spec {nodeID : String} {history : List Input} {nodes : NodeMap} (st : Status)
    (mirrors : Mirrors nodeID history nodes) :
    Mirrors nodeID (history ++ [.localStatus st]) (localUpdate nodeID nodes st).1 ∧
      ((localUpdate nodeID nodes st).2 = false ↔
        ∀ id, (localUpdate nodeID nodes st).1.lookup id = nodes.lookup id) := by
  unfold localUpdate
  cases known : st.externalAddress with
  | none =>
    refine ⟨⟨fun id => ?_, mirrors.remote⟩, by simp⟩
    rw [expectedNodes_append, ← mirrors.lookup]
    split_ifs <;> simp [known]
  | some ip =>
    simp only
    split_ifs with same
    · obtain ⟨info, found, address⟩ := lookup_of_address same (IP.string_ne_empty ip)
      have recorded : info = ⟨ip.string, true⟩ := by
        have expected := (mirrors.lookup nodeID).symm
        rw [found] at expected
        simp only [expectedNodes, if_true, Option.map_eq_some'] at expected
        obtain ⟨_, -, rfl⟩ := expected
        simp_all
      refine ⟨⟨fun id => ?_, mirrors.remote⟩, by simp⟩
      rw [expectedNodes_append, ← mirrors.lookup]
      split_ifs with isLocal
      · subst isLocal
        simp [known, found, recorded]
      · simp
    · refine ⟨⟨fun id => ?_, fun id info other found => ?_⟩, ?_⟩
      · rw [expectedNodes_append, ← mirrors.lookup]
        split_ifs with isLocal
        · subst isLocal
          simp [known]
        · simp [AList.lookup_insert_ne isLocal]
      · rw [AList.lookup_insert_ne other] at found
        exact mirrors.remote id info other found
      · simp only [Bool.true_eq_false, false_iff, not_forall]
        refine ⟨nodeID, fun unchanged => same ?_⟩
        rw [AList.lookup_insert] at unchanged
        simp [NodeMap.address, ← unchanged]

/-- An entry the `range` loop may skip without effect. -/
def Harmless (nodeID : String) (nodes : NodeMap) (entry : Σ _ : String, NodeInfo) : Prop :=
  entry.1 ≠ nodeID → nodes.address entry.1 = entry.2.address → nodes.lookup entry.1 = some entry.2

theorem clusterEntry_lookup_ne {nodeID id : String} {acc : NodeMap × Bool}
    {entry : Σ _ : String, NodeInfo} (other : id ≠ entry.1) :
    (clusterEntry nodeID acc entry).1.lookup id = acc.1.lookup id := by
  unfold clusterEntry
  split_ifs <;> simp [AList.lookup_insert_ne other]

theorem clusterEntry_address_ne {nodeID id : String} {acc : NodeMap × Bool}
    {entry : Σ _ : String, NodeInfo} (other : id ≠ entry.1) :
    (clusterEntry nodeID acc entry).1.address id = acc.1.address id := by
  simp [NodeMap.address, clusterEntry_lookup_ne other]

theorem clusterEntry_lookup_self {nodeID : String} {acc : NodeMap × Bool}
    {entry : Σ _ : String, NodeInfo} (harmless : Harmless nodeID acc.1 entry) :
    (clusterEntry nodeID acc entry).1.lookup entry.1 =
      if entry.1 = nodeID then acc.1.lookup entry.1 else some entry.2 := by
  unfold clusterEntry
  split_ifs with isLocal sameAddress
  · rfl
  · exact harmless isLocal sameAddress
  · simp

theorem clusterEntry_changed {nodeID : String} {acc : NodeMap × Bool}
    {entry : Σ _ : String, NodeInfo} :
    (clusterEntry nodeID acc entry).2 = true ↔
      acc.2 = true ∨ (entry.1 ≠ nodeID ∧ acc.1.address entry.1 ≠ entry.2.address) := by
  unfold clusterEntry
  split_ifs <;> simp_all

theorem foldl_clusterEntry (nodeID : String) :
    ∀ (entries : List (Σ _ : String, NodeInfo)) (acc : NodeMap × Bool),
    entries.NodupKeys → (∀ entry ∈ entries, Harmless nodeID acc.1 entry) →
    (∀ id, (entries.foldl (clusterEntry nodeID) acc).1.lookup id =
      if id = nodeID then acc.1.lookup id else (entries.dlookup id).or (acc.1.lookup id)) ∧
    ((entries.foldl (clusterEntry nodeID) acc).2 = true ↔
      acc.2 = true ∨ ∃ entry ∈ entries, entry.1 ≠ nodeID ∧ acc.1.address entry.1 ≠ entry.2.address)
  | [], acc, _, _ => ⟨fun id => by split_ifs <;> simp, by simp⟩
  | entry :: entries, acc, nodup, harmless => by
    rw [List.nodupKeys_cons] at nodup
    have distinct : ∀ later ∈ entries, later.1 ≠ entry.1 :=
      fun later member same => nodup.1 (same ▸ List.mem_keys_of_mem member)
    have harmless' : ∀ later ∈ entries, Harmless nodeID (clusterEntry nodeID acc entry).1 later := by
      intro later member remote sameAddress
      rw [clusterEntry_address_ne (distinct later member)] at sameAddress
      rw [clusterEntry_lookup_ne (distinct later member)]
      exact harmless later (List.mem_cons_of_mem _ member) remote sameAddress
    obtain ⟨lookup, changed⟩ :=
      foldl_clusterEntry nodeID entries (clusterEntry nodeID acc entry) nodup.2 harmless'
    refine ⟨fun id => ?_, ?_⟩
    · rw [List.foldl_cons, lookup]
      by_cases isEntry : id = entry.1
      · subst isEntry
        have absent : entries.dlookup entry.1 = none := List.dlookup_eq_none.mpr nodup.1
        rw [clusterEntry_lookup_self (harmless entry (List.mem_cons_self _ _)), absent]
        obtain ⟨key, info⟩ := entry
        rw [List.dlookup_cons_eq]
        split_ifs <;> rfl
      · rw [clusterEntry_lookup_ne isEntry, List.dlookup_cons_ne _ _ isEntry]
    · have later : (∃ later ∈ entries, later.1 ≠ nodeID ∧
          (clusterEntry nodeID acc entry).1.address later.1 ≠ later.2.address) ↔
          ∃ later ∈ entries, later.1 ≠ nodeID ∧ acc.1.address later.1 ≠ later.2.address :=
        exists_congr fun later => and_congr_right fun member => by
          rw [clusterEntry_address_ne (distinct later member)]
      rw [List.foldl_cons, changed, clusterEntry_changed, later, List.exists_mem_cons_iff, or_assoc]

theorem clusterUpdate_spec {nodeID : String} {history : List Input} {nodes u : NodeMap}
    (mirrors : Mirrors nodeID history nodes) (fromCluster : FromCluster u) :
    Mirrors nodeID (history ++ [.cluster u]) (clusterUpdate nodeID nodes u).1 ∧
      ((clusterUpdate nodeID nodes u).2 = false ↔
        ∀ id, (clusterUpdate nodeID nodes u).1.lookup id = nodes.lookup id) := by
  have harmless : ∀ entry ∈ u.entries, Harmless nodeID nodes entry := by
    rintro ⟨id, info⟩ member remote sameAddress
    obtain ⟨remoteInfo, nonempty⟩ := fromCluster id info (AList.mem_lookup_iff.mpr member)
    obtain ⟨known, found, address⟩ := lookup_of_address sameAddress nonempty
    have knownRemote := mirrors.remote id known remote found
    rw [found]
    cases known
    cases info
    simp_all
  obtain ⟨lookup, changed⟩ := foldl_clusterEntry nodeID u.entries (nodes, false) u.nodupKeys harmless
  have merged : ∀ id, (clusterUpdate nodeID nodes u).1.lookup id =
      if id = nodeID then nodes.lookup id else (u.lookup id).or (nodes.lookup id) := lookup
  refine ⟨⟨fun id => ?_, fun id info remote found => ?_⟩, ?_⟩
  · rw [merged, expectedNodes_append, ← mirrors.lookup]
    split_ifs <;> simp
  · rw [merged, if_neg remote] at found
    cases given : u.lookup id with
    | none => exact mirrors.remote id info remote (by simpa [given] using found)
    | some entry =>
      simp only [given, Option.or, Option.some.injEq] at found
      exact (fromCluster id info (found ▸ given)).1
  · have flag : (clusterUpdate nodeID nodes u).2 = true ↔
        ∃ entry ∈ u.entries, entry.1 ≠ nodeID ∧ nodes.address entry.1 ≠ entry.2.address := by
      simpa using changed
    constructor
    · intro unchanged id
      rw [merged]
      split_ifs with isLocal
      · rfl
      · cases given : u.lookup id with
        | none => rfl
        | some info =>
          have member : (⟨id, info⟩ : Σ _ : String, NodeInfo) ∈ u.entries :=
            AList.mem_lookup_iff.mp given
          have sameAddress : nodes.address id = info.address := by
            by_contra differs
            exact Bool.false_ne_true (unchanged ▸ flag.mpr ⟨_, member, isLocal, differs⟩)
          simpa using (harmless _ member isLocal sameAddress).symm
    · intro unchanged
      by_contra changedFlag
      obtain ⟨⟨id, info⟩, member, remote, differs⟩ := flag.mp (by simpa using changedFlag)
      have same := unchanged id
      rw [merged, if_neg remote, AList.mem_lookup_iff.mpr member] at same
      simp only [Option.or] at same
      exact differs (by simp [NodeMap.address, ← same])

theorem receive_spec {nodeID : String} {history : List Input} {nodes nodes' : NodeMap}
    {input : Input} {changed : Bool} (mirrors : Mirrors nodeID history nodes)
    (fromCluster : ∀ u, input = .cluster u → FromCluster u)
    (taken : receive nodeID nodes input = some (nodes', changed)) :
    Mirrors nodeID (history ++ [input]) nodes' ∧
      (changed = false ↔ ∀ id, nodes'.lookup id = nodes.lookup id) := by
  cases input with
  | ctxDone => cases taken
  | localStatus st =>
    have spec := localUpdate_spec st mirrors
    simp only [receive, Option.some.injEq] at taken
    rwa [taken] at spec
  | cluster u =>
    have spec := clusterUpdate_spec mirrors (fromCluster u rfl)
    simp only [receive, Option.some.injEq] at taken
    rwa [taken] at spec

theorem iteration_spec {nodeID : String} {history : List Input} {nodes nodes' : NodeMap}
    {input : Input} {writes : Writes} {effects : List Effect} (mirrors : Mirrors nodeID history nodes)
    (fromCluster : ∀ u, input = .cluster u → FromCluster u)
    (ran : iteration nodeID nodes input writes = .ok (nodes', effects)) :
    Mirrors nodeID (history ++ [input]) nodes' ∧
      (effects = [] ↔ ∀ id, nodes'.lookup id = nodes.lookup id) ∧
      (effects ≠ [] → effects = rewrite nodes') := by
  unfold iteration at ran
  match taken : receive nodeID nodes input with
  | none => simp [taken] at ran
  | some (nodes₁, changed) =>
    obtain ⟨mirrors', unchanged⟩ := receive_spec mirrors fromCluster taken
    simp only [taken] at ran
    split_ifs at ran with quiet hostsFailed directoryFailed <;> cases ran
    · simp only [Bool.not_eq_true'] at quiet
      exact ⟨mirrors', by simpa using unchanged.mp quiet, fun nonempty => absurd rfl nonempty⟩
    · simp only [Bool.not_eq_true', Bool.not_eq_false] at quiet
      refine ⟨mirrors', ?_, fun _ => rfl⟩
      simp only [rewrite, reduceCtorEq, false_iff]
      exact fun same => Bool.false_ne_true (quiet ▸ unchanged.mpr same).symm

theorem loop_cons_eq_ok {nodeID : String} {nodes : NodeMap} {input : Input} {writes : Writes}
    {rest : List (Input × Writes)} {steps : List (NodeMap × List Effect)}
    (ran : loop nodeID nodes ((input, writes) :: rest) = .ok steps) :
    ∃ nodes₁ effects later, iteration nodeID nodes input writes = .ok (nodes₁, effects) ∧
      loop nodeID nodes₁ rest = .ok later ∧ steps = (nodes₁, effects) :: later := by
  simp only [loop, bind, Except.bind] at ran
  split at ran
  · cases ran
  · next first =>
    split at ran
    · cases ran
    · next next =>
      cases ran
      exact ⟨_, _, _, first, next, rfl⟩

theorem length_loop {nodeID : String} : ∀ {nodes : NodeMap} {inputs : List (Input × Writes)}
    {steps : List (NodeMap × List Effect)}, loop nodeID nodes inputs = .ok steps →
      steps.length = inputs.length
  | _, [], _, ran => by cases ran; rfl
  | _, (_, _) :: _, _, ran => by
    obtain ⟨_, _, _, -, next, rfl⟩ := loop_cons_eq_ok ran
    simp [length_loop next]

theorem loop_spec (nodeID : String) : ∀ (inputs : List (Input × Writes)) {history : List Input}
    {nodes : NodeMap} {steps : List (NodeMap × List Effect)},
    Mirrors nodeID history nodes → (∀ entry ∈ inputs, ∀ u, entry.1 = .cluster u → FromCluster u) →
    loop nodeID nodes inputs = .ok steps → ∀ k (done : k < steps.length),
      Mirrors nodeID (history ++ (inputs.take (k + 1)).map Prod.fst) steps[k].1 ∧
      (steps[k].2 = [] ↔ ∀ id,
        expectedNodes nodeID (history ++ (inputs.take (k + 1)).map Prod.fst) id =
          expectedNodes nodeID (history ++ (inputs.take k).map Prod.fst) id) ∧
      (steps[k].2 ≠ [] → steps[k].2 = rewrite steps[k].1)
  | [], _, _, steps, _, _, ran, k, done => by cases ran; simp at done
  | (input, writes) :: rest, history, nodes, steps, mirrors, fromCluster, ran, k, done => by
    obtain ⟨nodes₁, effects, later, first, next, rfl⟩ := loop_cons_eq_ok ran
    have inputFromCluster : ∀ u, input = .cluster u → FromCluster u :=
      fromCluster (input, writes) (List.mem_cons_self _ _)
    obtain ⟨mirrors₁, unchanged, written⟩ := iteration_spec mirrors inputFromCluster first
    cases k with
    | zero =>
      refine ⟨by simpa using mirrors₁, ?_, written⟩
      simp only [List.getElem_cons_zero, unchanged, List.take_succ_cons, List.take_zero,
        List.map_cons, List.map_nil, List.append_nil, mirrors₁.lookup, mirrors.lookup]
    | succ k =>
      have rest' := loop_spec nodeID rest mirrors₁
        (fun entry member => fromCluster entry (List.mem_cons_of_mem _ member)) next k
        (by simpa using done)
      simpa [List.take_succ_cons] using rest'

/-- Every iteration of `Service.Run` leaves the expected map and rewrites exactly when that map changed. -/
theorem run_mirrors_cluster (nodeID : String) (inputs : List (Input × Writes))
    (steps : List (NodeMap × List Effect))
    (fromCluster : ∀ entry ∈ inputs, ∀ u, entry.1 = .cluster u → FromCluster u)
    (ran : run nodeID inputs = .ok (preamble nodeID, steps)) (k : Nat) (done : k < steps.length) :
    steps.length = inputs.length ∧
    (∀ id, steps[k].1.lookup id = expectedNodes nodeID ((inputs.take (k + 1)).map Prod.fst) id) ∧
      (steps[k].2 = [] ↔ ∀ id,
        expectedNodes nodeID ((inputs.take (k + 1)).map Prod.fst) id =
          expectedNodes nodeID ((inputs.take k).map Prod.fst) id) ∧
      (steps[k].2 ≠ [] → steps[k].2 = rewrite steps[k].1) := by
  have looped : loop nodeID ∅ inputs = .ok steps := by
    unfold run at ran
    cases result : loop nodeID ∅ inputs <;> simp [result, Except.map] at ran
    rw [ran]
  obtain ⟨mirrors, unchanged, written⟩ :=
    loop_spec nodeID inputs (mirrors_empty nodeID) fromCluster looped k done
  exact ⟨length_loop looped, by simpa using mirrors.lookup, by simpa using unchanged, written⟩

theorem run_mirrors_cluster_two_inputs :
    let first : NodeMap := (∅ : NodeMap).insert "n1" ⟨"10.0.0.1", true⟩
    let second : NodeMap := first.insert "n2" ⟨"10.0.0.2", false⟩
    let inputs : List (Input × Writes) :=
      [(.localStatus ⟨some ⟨[10, 0, 0, 1]⟩⟩, ⟨true, true⟩),
        (.cluster ((∅ : NodeMap).insert "n2" ⟨"10.0.0.2", false⟩), ⟨true, true⟩)]
    let steps := [(first, rewrite first), (second, rewrite second)]
    (∀ entry ∈ inputs, ∀ u, entry.1 = .cluster u → FromCluster u) ∧
    run "n1" inputs = .ok (preamble "n1", steps) ∧ 1 < steps.length ∧ steps.length = inputs.length ∧
      (∀ id, steps[1].1.lookup id = expectedNodes "n1" ((inputs.take 2).map Prod.fst) id) ∧
        (steps[1].2 = [] ↔ ∀ id,
          expectedNodes "n1" ((inputs.take 2).map Prod.fst) id =
            expectedNodes "n1" ((inputs.take 1).map Prod.fst) id) ∧
        (steps[1].2 ≠ [] → steps[1].2 = rewrite steps[1].1) := by
  intro first second inputs steps
  have fromCluster : ∀ entry ∈ inputs, ∀ u, entry.1 = .cluster u → FromCluster u := by
    intro entry member u isCluster
    simp only [inputs, List.mem_cons, List.mem_singleton, List.not_mem_nil, or_false] at member
    rcases member with rfl | rfl <;> cases isCluster
    exact fromCluster_of_entries (by decide)
  exact ⟨fromCluster, rfl, by decide, run_mirrors_cluster "n1" inputs steps fromCluster rfl 1 (by decide)⟩

end Monogon.Hostsfile
