import Mathlib.Data.List.AList

/-! `PKI.ServiceAccountKey`, called by any number of nodes against one etcd KV. A call reads
the key with `KV.Get`; if it finds none it generates a key, stores it with `KV.Put` and returns
it, the `Put`'s error dropped. The calls' steps interleave in any order. Nothing makes the read
and the write one step: two calls that both read before either writes return different keys.
When no two calls are ever between an empty read and their write at once, and no write fails,
every key returned is the key stored. Once a key is stored and no call is between an empty read
and its write, no interleaving changes it. -/

namespace Monogon.Kubernetes.Pki

def etcdPrefix : String := "/kube-pki/"

def serviceAccountKeyName : String := "service-account-privkey"

/-- `fmt.Sprintf("%s%s.der", etcdPrefix, serviceAccountKeyName)`. -/
def serviceAccountKeyPath : String := etcdPrefix ++ serviceAccountKeyName ++ ".der"

/-- The etcd KV: values by path. -/
abbrev KV := AList (fun _ : String => List UInt8)

/-- Where one `ServiceAccountKey` call is. -/
inductive Call where
  /-- Before `KV.Get`. -/
  | getting
  /-- `KV.Get` found no key and `key` was generated; before `KV.Put`. -/
  | putting (key : List UInt8)
  /-- Returned `key` and a nil error. -/
  | returned (key : List UInt8)
  | failed (err : String)
deriving DecidableEq, Repr

def Call.isPutting : Call → Bool
  | .putting _ => true
  | _ => false

/-- The shared KV and every call. -/
structure Cluster where
  kv : KV
  calls : List Call

/-- One step of one call, with the outcome of its request. -/
inductive Action where
  /-- `KV.Get` by `call`; `generated` is the key the call makes if it finds none. -/
  | get (call : Nat) (failure : Option String) (generated : List UInt8)
  /-- `KV.Put` by call `call`, failing with `failure` if given. -/
  | put (call : Nat) (failure : Option String)
deriving DecidableEq, Repr

def Action.putFails : Action → Bool
  | .put _ (some _) => true
  | _ => false

/-- The code after `KV.Get` returns, `found` being the value at the path if there is one. -/
def afterGet (failure : Option String) (found : Option (List UInt8)) (generated : List UInt8) :
    Call :=
  match failure with
  | some err => .failed s!"failed to get key from etcd: {err}"
  | none =>
    match found with
    | some value => .returned value
    | none => .putting generated

/-- `KV.Put` stores the key unless it fails. -/
def afterPut (kv : KV) (key : List UInt8) (failure : Option String) : KV :=
  match failure with
  | some _ => kv
  | none => kv.insert serviceAccountKeyPath key

/-- One step; `none` when the call is not where the action needs it. -/
def step (c : Cluster) : Action → Option Cluster
  | .get i failure generated =>
    match c.calls[i]? with
    | some .getting =>
      some { c with calls := c.calls.set i (afterGet failure (c.kv.lookup serviceAccountKeyPath) generated) }
    | _ => none
  | .put i failure =>
    match c.calls[i]? with
    | some (.putting key) => some ⟨afterPut c.kv key failure, c.calls.set i (.returned key)⟩
    | _ => none

def run (c : Cluster) : List Action → Option Cluster
  | [] => some c
  | a :: rest => (step c a).bind (run · rest)

/-- `n` calls about to run `KV.Get` against `kv`. -/
def start (kv : KV) (n : Nat) : Cluster :=
  ⟨kv, List.replicate n .getting⟩

/-- `PKI.EnsureAll`, given the certificate that failed and the outcome of `ServiceAccountKey`. -/
def ensureAll (certificates : Option (String × String))
    (serviceAccountKey : Except String (List UInt8)) : Option String :=
  match certificates with
  | some (n, err) => some s!"could not ensure certificate \"{n}\" exists: {err}"
  | none =>
    match serviceAccountKey with
    | .ok _ => none
    | .error err => some s!"could not ensure service account key exists: {err}"

/-! ## Two racing calls return different keys -/

/-- Both calls read before either writes: each generates its own key and returns it. -/
theorem racing_calls_return_different_keys :
    (run (start ∅ 2) [.get 0 none [1], .get 1 none [2], .put 0 none, .put 1 none]).map
        (fun c => (c.calls, c.kv.lookup serviceAccountKeyPath)) =
      some ([.returned [1], .returned [2]], some [2]) := by
  decide

/-! ## Exclusive runs agree on the stored key -/

def generating (c : Cluster) : Nat :=
  c.calls.countP Call.isPutting

/-- No two calls are ever between an empty `KV.Get` and their `KV.Put` at once. -/
def exclusive (c : Cluster) : List Action → Bool
  | [] => true
  | a :: rest =>
    match step c a with
    | some next => decide (generating next ≤ 1) && exclusive next rest
    | none => true

/-- Every key returned is the stored key, and at most one call holds a generated key. -/
structure Agreed (c : Cluster) : Prop where
  returned : ∀ key, Call.returned key ∈ c.calls → c.kv.lookup serviceAccountKeyPath = some key
  putting : ∀ key, Call.putting key ∈ c.calls → c.kv.lookup serviceAccountKeyPath = none
  single : generating c ≤ 1

theorem agreed_start (kv : KV) (n : Nat) : Agreed (start kv n) where
  returned _ member := by simp [start] at member
  putting _ member := by simp [start] at member
  single := by simp [generating, start, List.countP_replicate, Call.isPutting]

theorem step_get_eq_some {c next : Cluster} {i : Nat} {failure : Option String}
    {generated : List UInt8} (stepped : step c (.get i failure generated) = some next) :
    next = ⟨c.kv, c.calls.set i (afterGet failure (c.kv.lookup serviceAccountKeyPath) generated)⟩ := by
  simp only [step] at stepped
  split at stepped
  · exact (Option.some.inj stepped).symm
  · cases stepped

theorem step_put_eq_some {c next : Cluster} {i : Nat} {failure : Option String}
    (stepped : step c (.put i failure) = some next) :
    ∃ key, c.calls[i]? = some (.putting key) ∧
      next = ⟨afterPut c.kv key failure, c.calls.set i (.returned key)⟩ := by
  simp only [step] at stepped
  split at stepped
  · exact ⟨_, ‹_›, (Option.some.inj stepped).symm⟩
  · cases stepped

theorem afterGet_agreed {failure : Option String} {found : Option (List UInt8)}
    {generated : List UInt8} :
    (∀ key, afterGet failure found generated = .returned key → found = some key) ∧
      (∀ key, afterGet failure found generated = .putting key → found = none) := by
  unfold afterGet
  split
  · simp
  · split <;> simp_all

theorem step_agreed {c next : Cluster} {a : Action} (agreed : Agreed c)
    (stepped : step c a = some next) (stores : a.putFails = false) (single : generating next ≤ 1) :
    Agreed next := by
  cases a with
  | get i failure generated =>
    obtain rfl := step_get_eq_some stepped
    refine ⟨fun key member => ?_, fun key member => ?_, single⟩
    · exact (List.mem_or_eq_of_mem_set member).elim (agreed.returned key)
        (afterGet_agreed.1 key ·.symm)
    · exact (List.mem_or_eq_of_mem_set member).elim (agreed.putting key)
        (afterGet_agreed.2 key ·.symm)
  | put i failure =>
    obtain ⟨key, held, rfl⟩ := step_put_eq_some stepped
    obtain rfl : failure = none := by cases failure <;> simp_all [Action.putFails]
    obtain ⟨inside, found⟩ := List.getElem?_eq_some_iff.mp held
    have empty := agreed.putting key (List.getElem?_mem held)
    have none_left : generating ⟨afterPut c.kv key none, c.calls.set i (.returned key)⟩ = 0 := by
      have := agreed.single
      simp [generating, List.countP_set _ _ _ _ inside, found, Call.isPutting] at this ⊢
      omega
    refine ⟨fun key' member => ?_, fun key' member => ?_, single⟩
    · rcases List.mem_or_eq_of_mem_set member with old | new
      · simp [agreed.returned key' old] at empty
      · cases new
        simp [afterPut]
    · exact absurd (List.countP_eq_zero.mp none_left _ member) (by simp [Call.isPutting])

theorem run_agreed : ∀ {c final : Cluster} {actions : List Action}, Agreed c →
    run c actions = some final → (∀ a ∈ actions, a.putFails = false) →
    exclusive c actions = true → Agreed final
  | _, _, [], agreed, ran, _, _ => by cases ran; exact agreed
  | c, final, a :: rest, agreed, ran, stores, alone => by
    simp only [run, Option.bind_eq_some] at ran
    obtain ⟨next, stepped, ran⟩ := ran
    simp only [exclusive, stepped, Bool.and_eq_true, decide_eq_true_eq] at alone
    exact run_agreed (step_agreed agreed stepped (stores a (.head _)) alone.1) ran
      (fun a member => stores a (.tail _ member)) alone.2

/-- Without racing calls and failed writes, every key a call returns is the stored key. -/
theorem serviceAccountKey_returns_stored_key (kv : KV) (n : Nat) (actions : List Action)
    {final : Cluster} (ran : run (start kv n) actions = some final)
    (stores : ∀ a ∈ actions, a.putFails = false)
    (alone : exclusive (start kv n) actions = true) (key : List UInt8)
    (returned : Call.returned key ∈ final.calls) :
    final.kv.lookup serviceAccountKeyPath = some key :=
  (run_agreed (agreed_start kv n) ran stores alone).returned key returned

theorem serviceAccountKey_returns_stored_key_serial :
    let actions : List Action := [.get 0 none [1], .put 0 none, .get 1 none [2]]
    let final : Cluster := ⟨(∅ : KV).insert serviceAccountKeyPath [1], [.returned [1], .returned [1]]⟩
    run (start ∅ 2) actions = some final ∧ (∀ a ∈ actions, a.putFails = false) ∧
      exclusive (start ∅ 2) actions = true ∧ Call.returned [1] ∈ final.calls ∧
      final.kv.lookup serviceAccountKeyPath = some [1] := by
  intro actions final
  have ran : run (start ∅ 2) actions = some final := rfl
  have stores : ∀ a ∈ actions, a.putFails = false := by decide
  have alone : exclusive (start ∅ 2) actions = true := by decide
  have returned : Call.returned [1] ∈ final.calls := by decide
  exact ⟨ran, stores, alone, returned,
    serviceAccountKey_returns_stored_key ∅ 2 actions ran stores alone [1] returned⟩

/-! ## A stored key stays -/

/-- From `c` on, `key` is stored, no call holds a generated key, and every new key returned is `key`. -/
structure Settled (c : Cluster) (key : List UInt8) (now : Cluster) : Prop where
  stored : now.kv.lookup serviceAccountKeyPath = some key
  none_generating : ∀ call ∈ now.calls, call.isPutting = false
  returned : ∀ v, Call.returned v ∈ now.calls → v = key ∨ Call.returned v ∈ c.calls

theorem step_settled {c now next : Cluster} {key : List UInt8} {a : Action}
    (settled : Settled c key now) (stepped : step now a = some next) : Settled c key next := by
  cases a with
  | get i failure generated =>
    obtain rfl := step_get_eq_some stepped
    have answered : afterGet failure (now.kv.lookup serviceAccountKeyPath) generated = .returned key ∨
        ∃ err, afterGet failure (now.kv.lookup serviceAccountKeyPath) generated = .failed err := by
      rw [settled.stored]
      cases failure with
      | some err => exact .inr ⟨_, rfl⟩
      | none => exact .inl rfl
    refine ⟨settled.stored, fun call member => ?_, fun v member => ?_⟩
    · rcases List.mem_or_eq_of_mem_set member with old | rfl
      · exact settled.none_generating call old
      · rcases answered with same | ⟨_, same⟩ <;> rw [same] <;> rfl
    · rcases List.mem_or_eq_of_mem_set member with old | new
      · exact settled.returned v old
      · rcases answered with same | ⟨_, same⟩ <;> rw [same] at new <;> cases new
        exact .inl rfl
  | put i failure =>
    obtain ⟨_, held, -⟩ := step_put_eq_some stepped
    exact absurd (settled.none_generating _ (List.getElem?_mem held)) (by simp [Call.isPutting])

theorem run_settled {c : Cluster} {key : List UInt8} : ∀ {now final : Cluster} {actions : List Action},
    Settled c key now → run now actions = some final → Settled c key final
  | _, _, [], settled, ran => by cases ran; exact settled
  | _, _, _ :: _, settled, ran =>
    let ⟨_, stepped, ran⟩ := Option.bind_eq_some.mp ran
    run_settled (step_settled settled stepped) ran

/-- A stored key with no call about to write stays stored, and is the key every later call returns. -/
theorem serviceAccountKey_keeps_stored_key {c final : Cluster} {key : List UInt8}
    (stored : c.kv.lookup serviceAccountKeyPath = some key)
    (noneGenerating : ∀ call ∈ c.calls, call.isPutting = false) (actions : List Action)
    (ran : run c actions = some final) :
    final.kv.lookup serviceAccountKeyPath = some key ∧
      (∀ call ∈ final.calls, call.isPutting = false) ∧
      ∀ v, Call.returned v ∈ final.calls → v = key ∨ Call.returned v ∈ c.calls :=
  let settled := run_settled ⟨stored, noneGenerating, fun _ member => .inr member⟩ ran
  ⟨settled.stored, settled.none_generating, settled.returned⟩

theorem serviceAccountKey_keeps_stored_key_after_put :
    let c : Cluster := ⟨(∅ : KV).insert serviceAccountKeyPath [1], [.returned [1], .getting, .getting]⟩
    let actions : List Action := [.get 2 (some "timeout") [3], .get 1 none [2]]
    let final : Cluster := ⟨c.kv, [.returned [1], .returned [1],
      .failed "failed to get key from etcd: timeout"]⟩
    c.kv.lookup serviceAccountKeyPath = some [1] ∧ (∀ call ∈ c.calls, call.isPutting = false) ∧
      run c actions = some final ∧ final.kv.lookup serviceAccountKeyPath = some [1] ∧
      (∀ call ∈ final.calls, call.isPutting = false) ∧
      ∀ v, Call.returned v ∈ final.calls → v = [1] ∨ Call.returned v ∈ c.calls := by
  intro c actions final
  have stored : c.kv.lookup serviceAccountKeyPath = some [1] := rfl
  have noneGenerating : ∀ call ∈ c.calls, call.isPutting = false := by decide
  have ran : run c actions = some final := rfl
  exact ⟨stored, noneGenerating, ran,
    serviceAccountKey_keeps_stored_key stored noneGenerating actions ran⟩

end Monogon.Kubernetes.Pki
