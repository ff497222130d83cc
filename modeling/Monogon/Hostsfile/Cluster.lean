import Monogon.Hostsfile.NodeMap

/-! `Service.runCluster`: the curator's `NodesInCluster` watch folded into a `nodeMap`, a copy of
which goes to the main loop after every event. A node record with an address sets its
node's entry, a tombstone removes it, and a record without an address is skipped. The
theorems compare the map after every event with the view of the cluster that the watch's
mentions describe. -/

namespace Monogon.Hostsfile
open Monogon.Proto

/-- The body of `for _, n := range ev.Nodes`. -/
def applyNode (nodes : NodeMap) (n : Node) : NodeMap :=
  match n.status with
  | some status =>
    if status.externalAddress = "" then nodes else nodes.insert n.id ⟨status.externalAddress, false⟩
  | none => nodes

/-- The body of `for _, t := range ev.NodeTombstones`. -/
def applyTombstone (nodes : NodeMap) (t : NodeTombstone) : NodeMap :=
  nodes.erase t.nodeId

/-- One received event: its nodes first, then its tombstones. -/
def applyEvent (nodes : NodeMap) (ev : WatchEvent) : NodeMap :=
  ev.nodeTombstones.foldl applyTombstone (ev.nodes.foldl applyNode nodes)

/-- The receive loop from a given map: the maps it sends, one per event received. -/
def runClusterFrom (nodes : NodeMap) : List WatchEvent → List NodeMap
  | [] => []
  | ev :: rest => applyEvent nodes ev :: runClusterFrom (applyEvent nodes ev) rest

/-- `Service.runCluster`: the maps sent on `clusterC`. -/
def runCluster (events : List WatchEvent) : List NodeMap :=
  runClusterFrom ∅ events

/-! ## The view of the cluster the watch describes -/

/-- A node ID mentioned by a watch event. -/
inductive Mention where
  | record (n : Node)
  | tombstone (t : NodeTombstone)
deriving DecidableEq, Repr

/-- An event's mentions, in the order `runCluster` applies them: nodes, then tombstones. -/
def eventMentions (ev : WatchEvent) : List Mention :=
  ev.nodes.map .record ++ ev.nodeTombstones.map .tombstone

def Mention.id : Mention → String
  | .record n => n.id
  | .tombstone t => t.nodeId

/-- The address a node record carries, if it carries a non-empty one. -/
def recordAddress (n : Node) : Option String :=
  match n.status with
  | some status => if status.externalAddress = "" then none else some status.externalAddress
  | none => none

/-- A record with an address gives the entry, a tombstone removes it, a record without one says nothing. -/
def Mention.entry? : Mention → Option (Option NodeInfo)
  | .record n => (recordAddress n).map fun address => some ⟨address, false⟩
  | .tombstone _ => some none

/-- What a mention says about the entry of `id`. -/
def Mention.entryOf? (id : String) (m : Mention) : Option (Option NodeInfo) :=
  if m.id = id then m.entry? else none

/-- The entry of `id` given by the most recent mention that says anything about it. -/
def clusterView (events : List WatchEvent) (id : String) : Option NodeInfo :=
  ((events.flatMap eventMentions).reverse.findSome? (Mention.entryOf? id)).getD none

/-- The entry of `id` when its most recent mention is a record with an address. -/
def latestRecordView (events : List WatchEvent) (id : String) : Option NodeInfo :=
  match (events.flatMap eventMentions).reverse.find? (·.id = id) with
  | some (.record n) => (recordAddress n).map fun address => ⟨address, false⟩
  | _ => none

/-! ## Every map sent is the view of the events received so far -/

theorem getD_or {β : Type} (first later : Option β) (fallback : β) :
    (first.or later).getD fallback = first.getD (later.getD fallback) := by
  cases first <;> rfl

theorem lookup_foldl {α : Type} (f : NodeMap → α → NodeMap) (mentions : α → List Mention)
    (id : String) (step : ∀ nodes x, (f nodes x).lookup id =
      ((mentions x).reverse.findSome? (Mention.entryOf? id)).getD (nodes.lookup id)) :
    ∀ (l : List α) (nodes : NodeMap), (l.foldl f nodes).lookup id =
      ((l.flatMap mentions).reverse.findSome? (Mention.entryOf? id)).getD (nodes.lookup id)
  | [], _ => rfl
  | x :: l, nodes => by
    rw [List.foldl_cons, lookup_foldl f mentions id step l, step, List.flatMap_cons,
      List.reverse_append, List.findSome?_append, getD_or]

theorem applyNode_lookup (nodes : NodeMap) (n : Node) (id : String) :
    (applyNode nodes n).lookup id = ([Mention.record n].reverse.findSome? (Mention.entryOf? id)).getD
      (nodes.lookup id) := by
  unfold applyNode
  by_cases same : n.id = id
  · subst same
    cases known : n.status <;>
      simp [known, recordAddress, Mention.entryOf?, Mention.entry?, Mention.id, List.findSome?_cons]
    split_ifs <;> simp
  · cases n.status <;> simp [same, Mention.entryOf?, Mention.id]
    split_ifs <;> simp [AList.lookup_insert_ne (Ne.symm same)]

theorem applyTombstone_lookup (nodes : NodeMap) (t : NodeTombstone) (id : String) :
    (applyTombstone nodes t).lookup id = ([Mention.tombstone t].reverse.findSome? (Mention.entryOf? id)).getD
      (nodes.lookup id) := by
  by_cases same : t.nodeId = id
  · subst same
    simp [applyTombstone, Mention.entryOf?, Mention.entry?, Mention.id]
  · simp [applyTombstone, same, Mention.entryOf?, Mention.id, AList.lookup_erase_ne (Ne.symm same)]

theorem applyEvent_lookup (nodes : NodeMap) (ev : WatchEvent) (id : String) :
    (applyEvent nodes ev).lookup id =
      ((eventMentions ev).reverse.findSome? (Mention.entryOf? id)).getD (nodes.lookup id) := by
  unfold applyEvent
  rw [lookup_foldl applyTombstone _ id (applyTombstone_lookup · · id),
    lookup_foldl applyNode _ id (applyNode_lookup · · id), ← getD_or, ← List.findSome?_append,
    ← List.reverse_append]
  simp [eventMentions, List.map_eq_flatMap]

theorem applyEvents_lookup (events : List WatchEvent) (nodes : NodeMap) (id : String) :
    (events.foldl applyEvent nodes).lookup id =
      ((events.flatMap eventMentions).reverse.findSome? (Mention.entryOf? id)).getD (nodes.lookup id) :=
  lookup_foldl applyEvent eventMentions id (applyEvent_lookup · · id) events nodes

theorem length_runClusterFrom (nodes : NodeMap) (events : List WatchEvent) :
    (runClusterFrom nodes events).length = events.length := by
  induction events generalizing nodes with
  | nil => rfl
  | cons ev rest ih => simp [runClusterFrom, ih]

theorem getElem_runClusterFrom (nodes : NodeMap) (events : List WatchEvent) (k : Nat)
    (sent : k < (runClusterFrom nodes events).length) :
    (runClusterFrom nodes events)[k] = (events.take (k + 1)).foldl applyEvent nodes := by
  induction events generalizing nodes k with
  | nil => simp [runClusterFrom] at sent
  | cons ev rest ih =>
    cases k with
    | zero => simp [runClusterFrom]
    | succ k =>
      simp only [runClusterFrom, List.getElem_cons_succ, List.take_succ_cons, List.foldl_cons]
      exact ih _ k _

theorem lookup_getElem_runCluster (events : List WatchEvent) (k : Nat)
    (sent : k < (runCluster events).length) (id : String) :
    ((runCluster events)[k]).lookup id = clusterView (events.take (k + 1)) id :=
  (congrArg (AList.lookup id) (getElem_runClusterFrom ∅ events k sent)).trans
    (applyEvents_lookup _ ∅ id)

/-- The map sent after the `k`-th event is the cluster view of the events up to it. -/
theorem runCluster_sends_clusterView (events : List WatchEvent) (k : Nat)
    (sent : k < (runCluster events).length) (id : String) :
    (runCluster events).length = events.length ∧
      ((runCluster events)[k]).lookup id = clusterView (events.take (k + 1)) id :=
  ⟨length_runClusterFrom ∅ events, lookup_getElem_runCluster events k sent id⟩

theorem runCluster_sends_clusterView_second :
    let events : List WatchEvent :=
      [⟨[⟨"a", some ⟨"10.0.0.1", none, ""⟩⟩], []⟩, ⟨[], [⟨"a"⟩]⟩]
    1 < (runCluster events).length ∧ (runCluster events).length = events.length ∧
      ((runCluster events).get ⟨1, by decide⟩).lookup "a" = clusterView (events.take 2) "a" :=
  ⟨by decide, runCluster_sends_clusterView _ 1 (by decide) "a"⟩

/-- A node whose status is later cleared keeps its old address in the map. -/
theorem runCluster_keeps_cleared_address :
    let events : List WatchEvent :=
      [⟨[⟨"a", some ⟨"10.0.0.1", none, ""⟩⟩], []⟩, ⟨[⟨"a", none⟩], []⟩]
    (runCluster events).map (AList.lookup "a") =
        [some ⟨"10.0.0.1", false⟩, some ⟨"10.0.0.1", false⟩] ∧
      latestRecordView events "a" = none := by
  decide

/-- A map as `runCluster` sends it: every entry is a remote node with a non-empty address. -/
def FromCluster (u : NodeMap) : Prop :=
  ∀ id info, u.lookup id = some info → info.local = false ∧ info.address ≠ ""

theorem fromCluster_of_entries {u : NodeMap}
    (remote : ∀ entry ∈ u.entries, entry.2.local = false ∧ entry.2.address ≠ "") : FromCluster u :=
  fun id info found => remote ⟨id, info⟩ (AList.mem_lookup_iff.mp found)

theorem entryOf?_remote {id : String} {m : Mention} {info : NodeInfo}
    (given : m.entryOf? id = some (some info)) : info.local = false ∧ info.address ≠ "" := by
  unfold Mention.entryOf? at given
  split_ifs at given
  cases m with
  | record n =>
    simp only [Mention.entry?, Option.map_eq_some', Option.some.injEq] at given
    obtain ⟨address, found, rfl⟩ := given
    unfold recordAddress at found
    split at found
    · split_ifs at found with empty
      cases found
      exact ⟨rfl, empty⟩
    · cases found
  | tombstone t => simp [Mention.entry?] at given

/-- Every map `runCluster` sends holds remote nodes with addresses only. -/
theorem runCluster_fromCluster (events : List WatchEvent) : ∀ u ∈ runCluster events, FromCluster u := by
  intro u member id info found
  obtain ⟨k, sent, rfl⟩ := List.getElem_of_mem member
  rw [lookup_getElem_runCluster events k sent id, clusterView] at found
  match said : ((events.take (k + 1)).flatMap eventMentions).reverse.findSome? (Mention.entryOf? id) with
  | none => simp [said] at found
  | some entry =>
    obtain ⟨m, -, given⟩ := List.exists_of_findSome?_eq_some said
    rw [said, Option.getD_some] at found
    exact entryOf?_remote (found ▸ given)

theorem runCluster_fromCluster_first :
    let events : List WatchEvent :=
      [⟨[⟨"a", some ⟨"10.0.0.1", none, ""⟩⟩, ⟨"b", none⟩], []⟩, ⟨[], [⟨"a"⟩]⟩]
    let sent := (runCluster events).get ⟨0, by decide⟩
    sent ∈ runCluster events ∧ FromCluster sent :=
  have member := List.get_mem _ 0 (by decide)
  ⟨member, runCluster_fromCluster _ _ member⟩

end Monogon.Hostsfile
