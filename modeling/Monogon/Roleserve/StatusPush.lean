import Monogon.Net.IP
import Monogon.Proto

/-! The status pusher of the role service (`workerStatusPushLoop` and `workerStatusPush.run`).
Three runnables feed the loop through unbuffered channels: `map-network` sends the text of
the node's external address, and two pipes forward the local control plane and the curator
connection. Go's `select` takes whichever value is ready, so a run of the loop is any
sequence of received values. After each one the loop sends `UpdateNodeStatus` when
something changed and it has a client, a node ID and an address; a failed call or a
canceled context ends the loop with an error. -/

namespace Monogon.Roleserve.StatusPush
open Monogon.Net Monogon.Proto

/-- A `*curatorConnection`; the loop reads its `nodeID()` and builds its client from it. -/
structure CuratorConnection where
  nodeID : String
deriving DecidableEq, Repr

/-- A `*localControlPlane`; the loop reads only `exists()`. -/
structure LocalControlPlane where
  «exists» : Bool
deriving DecidableEq, Repr

/-- A value taken by the loop's `select`. -/
inductive Received where
  | ctxDone
  | address (address : String)
  | curatorConnection (curCon : CuratorConnection)
  | localControlPlane (lcp : LocalControlPlane)
deriving DecidableEq, Repr

/-- The loop's local variables `status`, `cur` and `nodeID`. -/
structure LoopState where
  status : NodeStatus
  cur : Option CuratorConnection
  nodeID : String
deriving DecidableEq, Repr

/-- The variables as `workerStatusPushLoop` declares them. -/
def LoopState.init (version : String) : LoopState :=
  ⟨⟨"", none, version⟩, none, ""⟩

/-- The `select` statement: the new variables and `changed`, or `none` on `ctx.Done()`. -/
def receive (curatorServicePort : Int) (s : LoopState) : Received → Option (LoopState × Bool)
  | .ctxDone => none
  | .address address =>
    if address ≠ s.status.externalAddress then
      some ({ s with status := { s.status with externalAddress := address } }, true)
    else some (s, false)
  | .curatorConnection curCon =>
    let (s, changed) :=
      if s.nodeID ≠ curCon.nodeID then ({ s with nodeID := curCon.nodeID }, true) else (s, false)
    if s.cur.isNone then some ({ s with cur := some curCon }, true) else some (s, changed)
  | .localControlPlane lcp =>
    let (s, changed) :=
      if s.status.runningCurator.isNone ∧ lcp.exists then
        ({ s with status := { s.status with runningCurator := some ⟨curatorServicePort⟩ } }, true)
      else (s, false)
    if s.status.runningCurator.isSome ∧ !lcp.exists then
      some ({ s with status := { s.status with runningCurator := none } }, true)
    else some (s, changed)

/-- The condition under which the loop calls `UpdateNodeStatus`. -/
def shouldPush (s : LoopState) (changed : Bool) : Bool :=
  s.cur.isSome && s.nodeID != "" && changed && s.status.externalAddress != ""

inductive LoopError where
  /-- "while waiting for map updates: %w" -/
  | waitingForMapUpdates
  /-- "UpdateNodeStatus failed: %w" -/
  | updateNodeStatusFailed
deriving DecidableEq, Repr

/-- One iteration of the loop; `accepted` is the curator's answer if a request is sent. -/
def iteration (curatorServicePort : Int) (s : LoopState) (received : Received) (accepted : Bool) :
    Except LoopError (LoopState × Option UpdateNodeStatusRequest) :=
  match receive curatorServicePort s received with
  | none => .error .waitingForMapUpdates
  | some (s, changed) =>
    if shouldPush s changed then
      if accepted then .ok (s, some ⟨s.nodeID, s.status⟩) else .error .updateNodeStatusFailed
    else .ok (s, none)

/-- The loop over the received values and the answers to its requests. -/
def loop (curatorServicePort : Int) : LoopState → List (Received × Bool) →
    Except LoopError (LoopState × List UpdateNodeStatusRequest)
  | s, [] => .ok (s, [])
  | s, (received, accepted) :: rest => do
    let (s, sent) ← iteration curatorServicePort s received accepted
    let (s, later) ← loop curatorServicePort s rest
    pure (s, sent.toList ++ later)

/-- `workerStatusPushLoop`; `version` is `version.Version`. -/
def workerStatusPushLoop (version : String) (curatorServicePort : Int) (inputs : List (Received × Bool)) :
    Except LoopError (LoopState × List UpdateNodeStatusRequest) :=
  loop curatorServicePort (LoopState.init version) inputs

/-! ## What the loop reports -/

@[simp] def Received.address? : Received → Option String
  | .address text => some text
  | _ => none

@[simp] def Received.nodeID? : Received → Option String
  | .curatorConnection curCon => some curCon.nodeID
  | _ => none

@[simp] def Received.exists? : Received → Option Bool
  | .localControlPlane lcp => some lcp.exists
  | _ => none

/-- The most recent address received, `""` before any. -/
def lastAddress (history : List Received) : String :=
  (history.reverse.findSome? Received.address?).getD ""

/-- The node ID of the most recent curator connection, `""` before any. -/
def lastNodeID (history : List Received) : String :=
  (history.reverse.findSome? Received.nodeID?).getD ""

/-- Whether the most recent local control plane exists, `false` before any. -/
def lastExists (history : List Received) : Bool :=
  (history.reverse.findSome? Received.exists?).getD false

def connected (history : List Received) : Bool :=
  history.any fun received => received.nodeID?.isSome

/-- The status that reflects everything received. -/
def expectedStatus (version : String) (curatorServicePort : Int) (history : List Received) : NodeStatus :=
  ⟨lastAddress history, if lastExists history then some ⟨curatorServicePort⟩ else none, version⟩

@[simp] theorem lastAddress_append (history : List Received) (received : Received) :
    lastAddress (history ++ [received]) = received.address?.getD (lastAddress history) := by
  cases received <;> simp [lastAddress, Received.address?]

@[simp] theorem lastNodeID_append (history : List Received) (received : Received) :
    lastNodeID (history ++ [received]) = received.nodeID?.getD (lastNodeID history) := by
  cases received <;> simp [lastNodeID, Received.nodeID?]

@[simp] theorem lastExists_append (history : List Received) (received : Received) :
    lastExists (history ++ [received]) = received.exists?.getD (lastExists history) := by
  cases received <;> simp [lastExists, Received.exists?]

@[simp] theorem connected_append (history : List Received) (received : Received) :
    connected (history ++ [received]) = (connected history || received.nodeID?.isSome) := by
  simp [connected]

/-- The loop's variables hold what has been received. -/
structure Reflects (version : String) (curatorServicePort : Int) (history : List Received)
    (s : LoopState) : Prop where
  status : s.status = expectedStatus version curatorServicePort history
  nodeID : s.nodeID = lastNodeID history
  cur : s.cur.isSome = connected history

/-- The latest request sent carries the current status, and none is empty. -/
structure Pushed (s : LoopState) (sent : List UpdateNodeStatusRequest) : Prop where
  latest : s.cur.isSome → s.nodeID ≠ "" → s.status.externalAddress ≠ "" →
    sent.getLast? = some ⟨s.nodeID, s.status⟩
  nonempty : ∀ request ∈ sent, request.nodeId ≠ "" ∧ request.status.externalAddress ≠ ""

theorem reflects_init (version : String) (curatorServicePort : Int) :
    Reflects version curatorServicePort [] (LoopState.init version) :=
  ⟨rfl, rfl, rfl⟩

theorem pushed_init (version : String) : Pushed (LoopState.init version) [] :=
  ⟨fun connected => by simp [LoopState.init] at connected, by simp⟩

theorem receive_unchanged {curatorServicePort : Int} {s s' : LoopState} {received : Received}
    (taken : receive curatorServicePort s received = some (s', false)) : s' = s := by
  cases received <;> simp only [receive] at taken <;> (try split_ifs at taken) <;> simp_all

theorem receive_reflects {version : String} {curatorServicePort : Int} {history : List Received}
    {s s' : LoopState} {received : Received} {changed : Bool}
    (reflects : Reflects version curatorServicePort history s)
    (taken : receive curatorServicePort s received = some (s', changed)) :
    Reflects version curatorServicePort (history ++ [received]) s' := by
  obtain ⟨status, cur, nodeID⟩ := s
  obtain ⟨rfl, rfl, connected⟩ := reflects
  cases received with
  | ctxDone => cases taken
  | address text =>
    by_cases same : text = lastAddress history <;>
      simp [receive, expectedStatus, same] at taken <;> obtain ⟨rfl, -⟩ := taken <;>
      exact ⟨by simp [expectedStatus, same], by simp, by simpa using connected⟩
  | curatorConnection curCon =>
    by_cases same : lastNodeID history = curCon.nodeID <;> cases cur <;>
      simp [receive, same] at taken <;> obtain ⟨rfl, -⟩ := taken <;>
      exact ⟨by simp [expectedStatus], by simp [same], by simp⟩
  | localControlPlane lcp =>
    cases running : lastExists history <;> cases present : lcp.exists <;>
      simp [receive, expectedStatus, running, present] at taken <;> obtain ⟨rfl, -⟩ := taken <;>
      exact ⟨by simp [expectedStatus, running, present], by simp, by simpa using connected⟩

theorem iteration_eq_ok {curatorServicePort : Int} {s s' : LoopState} {received : Received}
    {accepted : Bool} {request : Option UpdateNodeStatusRequest}
    (ran : iteration curatorServicePort s received accepted = .ok (s', request)) :
    ∃ changed, receive curatorServicePort s received = some (s', changed) ∧
      request = if shouldPush s' changed then some ⟨s'.nodeID, s'.status⟩ else none := by
  match taken : receive curatorServicePort s received with
  | none => simp [iteration, taken] at ran
  | some (s₁, changed) =>
    simp only [iteration, taken] at ran
    split_ifs at ran with push <;> cases ran <;> exact ⟨changed, rfl, by simp [push]⟩

theorem iteration_pushed {curatorServicePort : Int} {s s' : LoopState} {received : Received}
    {accepted : Bool} {sent : List UpdateNodeStatusRequest} {request : Option UpdateNodeStatusRequest}
    (pushed : Pushed s sent) (ran : iteration curatorServicePort s received accepted = .ok (s', request)) :
    Pushed s' (sent ++ request.toList) := by
  obtain ⟨changed, taken, rfl⟩ := iteration_eq_ok ran
  cases changed
  · obtain rfl := receive_unchanged taken
    simpa [shouldPush] using pushed
  · by_cases push : shouldPush s' true
    · rw [if_pos push, Option.toList_some]
      have guard : s'.nodeID ≠ "" ∧ s'.status.externalAddress ≠ "" := by
        simp only [shouldPush, Bool.and_true, Bool.and_eq_true, bne_iff_ne] at push
        exact ⟨push.1.2, push.2⟩
      refine ⟨fun _ _ _ => by simp, fun request sent_or_new => ?_⟩
      rcases List.mem_append.mp sent_or_new with earlier | new
      · exact pushed.nonempty request earlier
      · exact (List.mem_singleton.mp new) ▸ guard
    · rw [if_neg push, Option.toList_none, List.append_nil]
      refine ⟨fun connected named addressed => absurd ?_ push, pushed.nonempty⟩
      simp [shouldPush, connected, named, addressed]

theorem loop_cons_eq_ok {curatorServicePort : Int} {s s' : LoopState} {received : Received}
    {accepted : Bool} {rest : List (Received × Bool)} {sent : List UpdateNodeStatusRequest}
    (ran : loop curatorServicePort s ((received, accepted) :: rest) = .ok (s', sent)) :
    ∃ s₁ request later, iteration curatorServicePort s received accepted = .ok (s₁, request) ∧
      loop curatorServicePort s₁ rest = .ok (s', later) ∧ sent = request.toList ++ later := by
  simp only [loop, bind, Except.bind] at ran
  split at ran
  · cases ran
  · next first =>
    split at ran
    · cases ran
    · next next =>
      cases ran
      exact ⟨_, _, _, first, next, rfl⟩

theorem loop_invariant {version : String} {curatorServicePort : Int} (inputs : List (Received × Bool)) :
    ∀ {s s' : LoopState} {history : List Received} {sent later : List UpdateNodeStatusRequest},
    Reflects version curatorServicePort history s → Pushed s sent →
    loop curatorServicePort s inputs = .ok (s', later) →
    Reflects version curatorServicePort (history ++ inputs.map Prod.fst) s' ∧ Pushed s' (sent ++ later) := by
  induction inputs with
  | nil =>
    intro s s' history sent later reflects pushed ran
    cases ran
    simpa using And.intro reflects pushed
  | cons input rest ih =>
    intro s s' history sent later reflects pushed ran
    obtain ⟨s₁, request, later', first, next, rfl⟩ := loop_cons_eq_ok ran
    obtain ⟨changed, taken, -⟩ := iteration_eq_ok first
    have step := ih (receive_reflects reflects taken) (iteration_pushed pushed first) next
    simpa using step

theorem workerStatusPushLoop_pushes_every_change (version : String) (curatorServicePort : Int)
    (inputs : List (Received × Bool)) {s : LoopState} {sent : List UpdateNodeStatusRequest}
    (running : workerStatusPushLoop version curatorServicePort inputs = .ok (s, sent)) :
    Reflects version curatorServicePort (inputs.map Prod.fst) s ∧ Pushed s sent := by
  simpa using loop_invariant inputs (reflects_init version curatorServicePort) (pushed_init version) running

theorem workerStatusPushLoop_pushes_every_change_run :
    Reflects "v" 7835 [.address "10.0.0.1", .curatorConnection ⟨"metropolis-a"⟩]
        ⟨⟨"10.0.0.1", none, "v"⟩, some ⟨"metropolis-a"⟩, "metropolis-a"⟩ ∧
      Pushed ⟨⟨"10.0.0.1", none, "v"⟩, some ⟨"metropolis-a"⟩, "metropolis-a"⟩
        [⟨"metropolis-a", ⟨"10.0.0.1", none, "v"⟩⟩] :=
  workerStatusPushLoop_pushes_every_change "v" 7835
    [(.address "10.0.0.1", true), (.curatorConnection ⟨"metropolis-a"⟩, true)] rfl

/-! ## The runnables that feed the loop -/

/-- A value published to one of the runnables started by `workerStatusPush.run`. -/
inductive Published where
  | network (st : Status)
  | curatorConnection (curCon : CuratorConnection)
  | localControlPlane (lcp : LocalControlPlane)
deriving DecidableEq, Repr

/-- What a runnable hands the loop. -/
def Published.received : Published → Received
  | .network st => .address (addressString st.externalAddress)
  | .curatorConnection curCon => .curatorConnection curCon
  | .localControlPlane lcp => .localControlPlane lcp

/-- `workerStatusPush.run`: the loop fed by its three runnables. -/
def run (version : String) (curatorServicePort : Int) (inputs : List (Published × Bool)) :
    Except LoopError (LoopState × List UpdateNodeStatusRequest) :=
  workerStatusPushLoop version curatorServicePort
    (inputs.map fun (published, accepted) => (published.received, accepted))

/-- A network status without an address reaches the curator as the address `<nil>`. -/
theorem run_pushes_nil_address :
    run "v" 7835 [(.curatorConnection ⟨"metropolis-node"⟩, true), (.network ⟨none⟩, true)] =
        .ok (⟨⟨"<nil>", none, "v"⟩, some ⟨"metropolis-node"⟩, "metropolis-node"⟩,
          [⟨"metropolis-node", ⟨"<nil>", none, "v"⟩⟩]) ∧
      ∀ ip : IP, ip.Valid → ip.string ≠ "<nil>" :=
  ⟨rfl, fun _ valid => IP.string_ne_nil valid⟩

end Monogon.Roleserve.StatusPush
