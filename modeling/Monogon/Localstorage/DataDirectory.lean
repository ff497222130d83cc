import Mathlib.Data.List.Basic

/-! `DataDirectory.MountNew` and `DataDirectory.MountExisting`. On first boot `MountNew` draws a
node unlock key and a cluster unlock key, hands `crypt.Init` their byte-wise XOR (no key in
insecure mode), keeps the node unlock key in the sealed configuration and returns the cluster
unlock key. On every later boot `MountExisting` checks the mode and the cluster unlock key,
XORs the two keys again and hands the result to `crypt.Map`. The calls to the crypt package,
`mkfs.xfs`, the mount and the directory creation are results the model takes as given.

Both functions claim the directory under `flagLock` before any call, so over any sequence of
mounts of one directory (`mountRun`) the crypt package is reached at most once. -/

namespace Monogon.Localstorage

/-- `keySize`, the length of the unlock keys and of the data key. -/
def keySize : Nat := 256 / 8

/-- `cpb.NodeStorageSecurity`; `other` stands for any value outside the enum. -/
inductive NodeStorageSecurity where
  | invalid
  | insecure
  | encrypted
  | authenticatedEncrypted
  | other (value : Int)
deriving DecidableEq, Repr

/-- `crypt.Mode`. -/
inductive Mode where
  | insecure
  | encrypted
  | encryptedAuthenticated
deriving DecidableEq, Repr

/-- `ppb.SealedConfiguration`, with the fields the two functions read and write. -/
structure SealedConfiguration where
  nodeUnlockKey : List UInt8
  storageSecurity : NodeStorageSecurity
deriving DecidableEq, Repr

/-- The flags of a `DataDirectory` guarded by `flagLock`. -/
structure DataDirectory where
  canMount : Bool
  mounted : Bool
deriving DecidableEq, Repr

/-- A drawn unlock key; `tpm.GenerateSafeKey` (not in the sources) draws 32 bytes. -/
structure UnlockKey where
  bytes : List UInt8
  size : bytes.length = keySize
deriving DecidableEq

/-- The data key and mode of a `crypt.Init` or `crypt.Map` call. -/
structure CryptCall where
  key : Option (List UInt8)
  mode : Mode
deriving DecidableEq, Repr

inductive MountError where
  /-- "cannot mount yet (root not ready?)" -/
  | cannotMountYet
  /-- "already mounted" -/
  | alreadyMounted
  /-- "invalid node storage security: %d", "invalid storage security in sealed configuration: %d" -/
  | invalidStorageSecurity (security : NodeStorageSecurity)
  /-- "storage security set to insecure, but cluster unlock key received" -/
  | insecureButKeyReceived
  /-- "storage security set to encrypted, but invalid cluster unlock key received" -/
  | encryptedButInvalidKey
  /-- "storage security set to encrypted and authenticated, but invalid cluster unlock key received" -/
  | authenticatedButInvalidKey
  /-- "generating node unlock key: %w" -/
  | generatingNodeUnlockKey (err : String)
  /-- "generating cluster unlock key: %w" -/
  | generatingClusterUnlockKey (err : String)
  /-- "initializing encrypted block device: %w" -/
  | initializing (err : String)
  /-- "formatting encrypted block device: %w" -/
  | formatting (err : String)
  /-- "mounting: %w" -/
  | mounting (err : String)
  /-- "creating directory failed: %w" -/
  | creatingDirectory (err : String)
  /-- an error of `crypt.Map` or of the mount, returned as it is -/
  | external (err : String)
  /-- a runtime panic: the key loop indexed a slice out of range -/
  | indexOutOfRange
deriving DecidableEq, Repr

/-- The results of the calls the two functions make outside this package. -/
structure Backend where
  cryptInit : CryptCall → Except String String
  cryptMap : CryptCall → Except String String
  mkfs : String → Except String Unit
  mount : String → Except String Unit
  /-- the `MkdirAll` loop over the data directory's placements -/
  mkdirAll : Except String Unit

/-- The loop XORing `a` and `b` into `key`; `none` when it reads past either. -/
def xorKey : Nat → List UInt8 → List UInt8 → Option (List UInt8)
  | 0, _, _ => some []
  | n + 1, x :: a, y :: b => (xorKey n a b).map ((x ^^^ y) :: ·)
  | _ + 1, _, _ => none

/-- The check of `d.canMount` and `d.mounted`, setting `d.mounted`. -/
def DataDirectory.claim (d : DataDirectory) : Except MountError DataDirectory :=
  if !d.canMount then .error .cannotMountYet
  else if d.mounted then .error .alreadyMounted
  else .ok { d with mounted := true }

/-- The `switch` of `MountExisting`: the mode, once the cluster unlock key's length fits it. -/
def existingMode (security : NodeStorageSecurity) (clusterUnlockKey : List UInt8) :
    Except MountError Mode :=
  match security with
  | .insecure =>
    if clusterUnlockKey.length ≠ 0 then .error .insecureButKeyReceived else .ok .insecure
  | .encrypted =>
    if clusterUnlockKey.length ≠ 32 then .error .encryptedButInvalidKey else .ok .encrypted
  | .authenticatedEncrypted =>
    if clusterUnlockKey.length ≠ 32 then .error .authenticatedButInvalidKey
    else .ok .encryptedAuthenticated
  | security => .error (.invalidStorageSecurity security)

/-- `MountExisting` up to its `crypt.Map` call. -/
def mountExistingMapCall (d : DataDirectory) (config : SealedConfiguration)
    (clusterUnlockKey : List UInt8) : DataDirectory × Except MountError CryptCall :=
  match existingMode config.storageSecurity clusterUnlockKey with
  | .error err => (d, .error err)
  | .ok mode =>
    match d.claim with
    | .error err => (d, .error err)
    | .ok d =>
      if mode = .insecure then (d, .ok ⟨none, mode⟩)
      else match xorKey keySize config.nodeUnlockKey clusterUnlockKey with
        | none => (d, .error .indexOutOfRange)
        | some key => (d, .ok ⟨some key, mode⟩)

/-- `DataDirectory.MountExisting`. -/
def mountExisting (backend : Backend) (d : DataDirectory) (config : SealedConfiguration)
    (clusterUnlockKey : List UInt8) : DataDirectory × Except MountError Unit :=
  let (d, call) := mountExistingMapCall d config clusterUnlockKey
  match call with
  | .error err => (d, .error err)
  | .ok call =>
    match backend.cryptMap call with
    | .error err => (d, .error (.external err))
    | .ok target =>
      match backend.mount target with
      | .error err => (d, .error (.external err))
      | .ok () => (d, .ok ())

/-- The `switch` of `MountNew`. -/
def newMode : NodeStorageSecurity → Except MountError Mode
  | .authenticatedEncrypted => .ok .encryptedAuthenticated
  | .encrypted => .ok .encrypted
  | .insecure => .ok .insecure
  | security => .error (.invalidStorageSecurity security)

/-- The keys `MountNew` holds when it calls `crypt.Init`. -/
structure InitCall where
  nodeUnlockKey : List UInt8
  clusterUnlockKey : List UInt8
  call : CryptCall

/-- `MountNew` up to its `crypt.Init` call, given the two drawn keys. -/
def mountNewInitCall (d : DataDirectory) (config : SealedConfiguration)
    (security : NodeStorageSecurity) (nodeDraw clusterDraw : Except String UnlockKey) :
    DataDirectory × SealedConfiguration × Except MountError InitCall :=
  match d.claim with
  | .error err => (d, config, .error err)
  | .ok d =>
    match newMode security with
    | .error err => (d, config, .error err)
    | .ok mode =>
      let config := { config with storageSecurity := security }
      if mode = .insecure then (d, config, .ok ⟨[], [], ⟨none, mode⟩⟩)
      else match nodeDraw with
        | .error err => (d, config, .error (.generatingNodeUnlockKey err))
        | .ok nodeUnlockKey =>
          match clusterDraw with
          | .error err => (d, config, .error (.generatingClusterUnlockKey err))
          | .ok clusterUnlockKey =>
            match xorKey keySize nodeUnlockKey.bytes clusterUnlockKey.bytes with
            | none => (d, config, .error .indexOutOfRange)
            | some key =>
              (d, config, .ok ⟨nodeUnlockKey.bytes, clusterUnlockKey.bytes, ⟨some key, mode⟩⟩)

/-- `DataDirectory.MountNew`. -/
def mountNew (backend : Backend) (d : DataDirectory) (config : SealedConfiguration)
    (security : NodeStorageSecurity) (nodeDraw clusterDraw : Except String UnlockKey) :
    DataDirectory × SealedConfiguration × Except MountError (List UInt8) :=
  let (d, config, init) := mountNewInitCall d config security nodeDraw clusterDraw
  match init with
  | .error err => (d, config, .error err)
  | .ok init =>
    match backend.cryptInit init.call with
    | .error err => (d, config, .error (.initializing err))
    | .ok target =>
      match backend.mkfs target with
      | .error err => (d, config, .error (.formatting err))
      | .ok () =>
        match backend.mount target with
        | .error err => (d, config, .error (.mounting err))
        | .ok () =>
          match backend.mkdirAll with
          | .error err => (d, config, .error (.creatingDirectory err))
          | .ok () =>
            (d, { config with nodeUnlockKey := init.nodeUnlockKey },
              .ok init.clusterUnlockKey)

/-! ## `MountExisting` redoes what `MountNew` did -/

theorem xorKey_eq_zipWith : ∀ (n : Nat) (a b : List UInt8), a.length = n → b.length = n →
    xorKey n a b = some (List.zipWith (· ^^^ ·) a b)
  | 0, [], [], _, _ => rfl
  | n + 1, x :: a, y :: b, sizeA, sizeB => by
    simp only [List.length_cons, Nat.add_right_cancel_iff] at sizeA sizeB
    simp [xorKey, xorKey_eq_zipWith n a b sizeA sizeB]

theorem existingMode_of_newMode {security : NodeStorageSecurity} {mode : Mode}
    {clusterUnlockKey : List UInt8} (accepted : newMode security = .ok mode)
    (length : clusterUnlockKey.length = if mode = .insecure then 0 else keySize) :
    existingMode security clusterUnlockKey = .ok mode := by
  cases security <;> simp only [newMode, Except.ok.injEq, reduceCtorEq] at accepted <;>
    subst accepted <;> simp_all [existingMode, keySize]

theorem mountNewInitCall_eq_ok {d : DataDirectory} {config : SealedConfiguration}
    {security : NodeStorageSecurity} {nodeDraw clusterDraw : Except String UnlockKey}
    {init : InitCall}
    (reached : (mountNewInitCall d config security nodeDraw clusterDraw).2.2 = .ok init) :
    (mountNewInitCall d config security nodeDraw clusterDraw).2.1 =
        { config with storageSecurity := security } ∧
      ∃ mode, newMode security = .ok mode ∧ init.call.mode = mode ∧
        ((mode = .insecure ∧ init = ⟨[], [], ⟨none, mode⟩⟩) ∨
          ∃ (nodeUnlockKey clusterUnlockKey : UnlockKey) (key : List UInt8), mode ≠ .insecure ∧
            init.nodeUnlockKey = nodeUnlockKey.bytes ∧ init.clusterUnlockKey = clusterUnlockKey.bytes ∧
            xorKey keySize nodeUnlockKey.bytes clusterUnlockKey.bytes = some key ∧
            init.call = ⟨some key, mode⟩) := by
  unfold mountNewInitCall at reached ⊢
  split at reached
  · cases reached
  · split at reached
    · cases reached
    · next mode accepted =>
      simp only at reached ⊢
      split_ifs at reached ⊢ with insecure
      · cases reached
        exact ⟨rfl, mode, accepted, rfl, .inl ⟨insecure, rfl⟩⟩
      · cases nodeDraw with
        | error err => cases reached
        | ok nodeUnlockKey =>
          cases clusterDraw with
          | error err => cases reached
          | ok clusterUnlockKey =>
            simp only at reached
            split at reached
            · cases reached
            · next key keyed =>
              cases reached
              simp only [keyed]
              exact ⟨trivial, mode, accepted, rfl,
                .inr ⟨nodeUnlockKey, clusterUnlockKey, key, insecure, rfl, rfl, keyed, rfl⟩⟩

theorem mountNew_eq_ok {backend : Backend} {d d' : DataDirectory} {config config' : SealedConfiguration}
    {security : NodeStorageSecurity} {nodeDraw clusterDraw : Except String UnlockKey}
    {clusterUnlockKey : List UInt8}
    (created : mountNew backend d config security nodeDraw clusterDraw =
      (d', config', .ok clusterUnlockKey)) :
    ∃ init, (mountNewInitCall d config security nodeDraw clusterDraw).2.2 = .ok init ∧
      config' = { (mountNewInitCall d config security nodeDraw clusterDraw).2.1 with
        nodeUnlockKey := init.nodeUnlockKey } ∧
      clusterUnlockKey = init.clusterUnlockKey := by
  unfold mountNew at created
  match reached : mountNewInitCall d config security nodeDraw clusterDraw with
  | (_, _, .error _) => simp [reached] at created
  | (_, config₁, .ok init) =>
    simp only [reached] at created
    refine ⟨init, rfl, ?_⟩
    repeat' split at created
    all_goals simp only [Prod.mk.injEq, Except.ok.injEq, reduceCtorEq, and_false] at created
    exact ⟨created.2.1.symm, created.2.2.symm⟩

theorem newMode_insecure {security : NodeStorageSecurity} (accepted : newMode security = .ok .insecure) :
    security = .insecure := by
  cases security <;> simp_all [newMode]

/-- `MountExisting` after `MountNew` hands `crypt.Map` the mode and key `crypt.Init` got. -/
theorem mountExisting_agrees_with_mountNew (backend : Backend) (d : DataDirectory)
    (config : SealedConfiguration) (security : NodeStorageSecurity)
    (nodeDraw clusterDraw : Except String UnlockKey) {d' : DataDirectory}
    {config' : SealedConfiguration} {clusterUnlockKey : List UInt8}
    (created : mountNew backend d config security nodeDraw clusterDraw =
      (d', config', .ok clusterUnlockKey)) :
    ∃ init : InitCall, (mountNewInitCall d config security nodeDraw clusterDraw).2.2 = .ok init ∧
      (mountExistingMapCall ⟨true, false⟩ config' clusterUnlockKey).2 = .ok init.call ∧
      init.call.key = (if security = .insecure then none
        else some (List.zipWith (· ^^^ ·) config'.nodeUnlockKey clusterUnlockKey)) ∧
      (security ≠ .insecure →
        config'.nodeUnlockKey.length = keySize ∧ clusterUnlockKey.length = keySize) := by
  obtain ⟨init, reached, rfl, rfl⟩ := mountNew_eq_ok created
  obtain ⟨configured, mode, accepted, -, held⟩ := mountNewInitCall_eq_ok reached
  refine ⟨init, reached, ?_⟩
  rw [configured]
  rcases held with ⟨insecure, rfl⟩ | ⟨nodeUnlockKey, clusterUnlockKey, key, secure, stored, returned, keyed, called⟩
  · subst insecure
    obtain rfl := newMode_insecure accepted
    simp [mountExistingMapCall, existingMode, DataDirectory.claim]
  · have notInsecure : security ≠ .insecure := fun insecure => secure (by
      subst insecure
      simpa [newMode] using accepted.symm)
    have existing : existingMode security clusterUnlockKey.bytes = .ok mode :=
      existingMode_of_newMode accepted (by simp [secure, clusterUnlockKey.size])
    rw [stored, returned, called]
    refine ⟨?_, ?_, fun _ => ⟨nodeUnlockKey.size, clusterUnlockKey.size⟩⟩
    · simp [mountExistingMapCall, existing, DataDirectory.claim, secure, keyed]
    · rw [xorKey_eq_zipWith _ _ _ nodeUnlockKey.size clusterUnlockKey.size] at keyed
      simp [notInsecure, ← Option.some.inj keyed]

theorem mountExisting_agrees_with_mountNew_encrypted :
    let backend : Backend := ⟨fun _ => .ok "/dev/data", fun _ => .ok "/dev/data",
      fun _ => .ok (), fun _ => .ok (), .ok ()⟩
    let nodeDraw : Except String UnlockKey := .ok ⟨List.replicate 32 1, rfl⟩
    let clusterDraw : Except String UnlockKey := .ok ⟨List.replicate 32 2, rfl⟩
    mountNew backend ⟨true, false⟩ ⟨[], .invalid⟩ .encrypted nodeDraw clusterDraw =
        (⟨true, true⟩, ⟨List.replicate 32 1, .encrypted⟩, .ok (List.replicate 32 2)) ∧
      ∃ init : InitCall,
        (mountNewInitCall ⟨true, false⟩ ⟨[], .invalid⟩ .encrypted nodeDraw clusterDraw).2.2 = .ok init ∧
        (mountExistingMapCall ⟨true, false⟩ ⟨List.replicate 32 1, .encrypted⟩ (List.replicate 32 2)).2 =
          .ok init.call ∧
        init.call.key = (if NodeStorageSecurity.encrypted = .insecure then none
          else some (List.zipWith (· ^^^ ·) (List.replicate 32 1) (List.replicate 32 2))) ∧
        (NodeStorageSecurity.encrypted ≠ .insecure →
          (List.replicate 32 (1 : UInt8)).length = keySize ∧ (List.replicate 32 (2 : UInt8)).length = keySize) := by
  intro backend nodeDraw clusterDraw
  exact ⟨rfl, mountExisting_agrees_with_mountNew backend ⟨true, false⟩ ⟨[], .invalid⟩ .encrypted
    nodeDraw clusterDraw rfl⟩

/-! ## The flags -/

variable {d d' : DataDirectory}

theorem claim_of_mounted (mounted : d.mounted = true) : ∃ err, d.claim = .error err := by
  unfold DataDirectory.claim
  split_ifs <;> simp_all

theorem claim_eq_ok (claimed : d.claim = .ok d') : d' = { d with mounted := true } := by
  unfold DataDirectory.claim at claimed
  split_ifs at claimed
  exact (Except.ok.inj claimed).symm

variable {config : SealedConfiguration} {clusterUnlockKey : List UInt8} {backend : Backend}

theorem mountExistingMapCall_of_mounted (mounted : d.mounted = true) :
    ∃ err, mountExistingMapCall d config clusterUnlockKey = (d, .error err) := by
  obtain ⟨err, refused⟩ := claim_of_mounted mounted
  unfold mountExistingMapCall
  split
  · exact ⟨_, rfl⟩
  · simp only [refused]
    exact ⟨_, rfl⟩

theorem mountExistingMapCall_eq_ok {call : CryptCall}
    (reached : (mountExistingMapCall d config clusterUnlockKey).2 = .ok call) :
    (mountExistingMapCall d config clusterUnlockKey).1 = { d with mounted := true } := by
  unfold mountExistingMapCall at reached ⊢
  split at reached
  · cases reached
  split at reached
  · cases reached
  next d₁ claimed =>
  obtain rfl := claim_eq_ok claimed
  split_ifs
  · rfl
  · split <;> rfl

theorem mountExisting_flags :
    (mountExisting backend d config clusterUnlockKey).1 =
      (mountExistingMapCall d config clusterUnlockKey).1 := by
  unfold mountExisting
  rcases mountExistingMapCall d config clusterUnlockKey with ⟨d₁, err | call⟩
  · rfl
  dsimp only
  split
  · rfl
  split <;> rfl

variable {security : NodeStorageSecurity} {nodeDraw clusterDraw : Except String UnlockKey}

theorem mountNewInitCall_of_mounted (mounted : d.mounted = true) :
    ∃ err, mountNewInitCall d config security nodeDraw clusterDraw = (d, config, .error err) := by
  obtain ⟨err, refused⟩ := claim_of_mounted mounted
  simp only [mountNewInitCall, refused]
  exact ⟨_, rfl⟩

theorem mountNewInitCall_flags_of_claim (claimed : d.claim = .ok d') :
    (mountNewInitCall d config security nodeDraw clusterDraw).1 = d' := by
  unfold mountNewInitCall
  simp only [claimed]
  split
  · rfl
  split_ifs
  · rfl
  split
  · rfl
  split
  · rfl
  split <;> rfl

theorem mountNew_flags :
    (mountNew backend d config security nodeDraw clusterDraw).1 =
      (mountNewInitCall d config security nodeDraw clusterDraw).1 := by
  unfold mountNew
  rcases mountNewInitCall d config security nodeDraw clusterDraw with ⟨d₁, config₁, err | init⟩
  · rfl
  dsimp only
  split
  · rfl
  split
  · rfl
  split
  · rfl
  split <;> rfl

/-! ## Runs of mounts -/

/-- A call of `MountExisting` or `MountNew`, with the results of its outside calls. -/
inductive Mount where
  | existing (backend : Backend) (config : SealedConfiguration) (clusterUnlockKey : List UInt8)
  | new (backend : Backend) (config : SealedConfiguration) (security : NodeStorageSecurity)
      (nodeDraw clusterDraw : Except String UnlockKey)

def Mount.step (d : DataDirectory) : Mount → DataDirectory
  | .existing backend config clusterUnlockKey => (mountExisting backend d config clusterUnlockKey).1
  | .new backend config security nodeDraw clusterDraw =>
    (mountNew backend d config security nodeDraw clusterDraw).1

/-- The call a mount makes into the crypt package, if it reaches one. -/
def Mount.cryptCall (d : DataDirectory) : Mount → Option CryptCall
  | .existing _ config clusterUnlockKey => (mountExistingMapCall d config clusterUnlockKey).2.toOption
  | .new _ config security nodeDraw clusterDraw =>
    (mountNewInitCall d config security nodeDraw clusterDraw).2.2.toOption.map (·.call)

/-- A run of mounts on one directory, one after another under `flagLock`. -/
def mountRun : DataDirectory → List Mount → DataDirectory × List CryptCall
  | d, [] => (d, [])
  | d, m :: ms =>
    let run := mountRun (m.step d) ms
    (run.1, (m.cryptCall d).toList ++ run.2)

theorem toOption_eq_some {ε α : Type} {x : Except ε α} {a : α} : x.toOption = some a ↔ x = .ok a := by
  cases x <;> simp [Except.toOption]

theorem Mount.step_of_mounted (m : Mount) (mounted : d.mounted = true) :
    m.step d = d ∧ m.cryptCall d = none := by
  cases m with
  | existing backend config clusterUnlockKey =>
    obtain ⟨err, refused⟩ : ∃ err, mountExistingMapCall d config clusterUnlockKey = (d, .error err) :=
      mountExistingMapCall_of_mounted mounted
    simp [Mount.step, Mount.cryptCall, mountExisting_flags, refused, Except.toOption]
  | new backend config security nodeDraw clusterDraw =>
    obtain ⟨err, refused⟩ : ∃ err,
        mountNewInitCall d config security nodeDraw clusterDraw = (d, config, .error err) :=
      mountNewInitCall_of_mounted mounted
    simp [Mount.step, Mount.cryptCall, mountNew_flags, refused, Except.toOption]

theorem Mount.mounted_of_cryptCall {m : Mount} {call : CryptCall} (reached : m.cryptCall d = some call) :
    (m.step d).mounted = true := by
  cases m with
  | existing backend config clusterUnlockKey =>
    simp only [Mount.cryptCall, toOption_eq_some] at reached
    simp [Mount.step, mountExisting_flags, mountExistingMapCall_eq_ok reached]
  | new backend config security nodeDraw clusterDraw =>
    cases claimed : d.claim with
    | error err =>
      simp [Mount.cryptCall, mountNewInitCall, claimed, Except.toOption] at reached
    | ok d' =>
      simp [Mount.step, mountNew_flags, mountNewInitCall_flags_of_claim claimed, claim_eq_ok claimed]

theorem mountRun_of_mounted (mounted : d.mounted = true) : ∀ mounts, mountRun d mounts = (d, [])
  | [] => rfl
  | m :: ms => by
    obtain ⟨stepped, unreached⟩ := m.step_of_mounted mounted
    simp [mountRun, stepped, unreached, mountRun_of_mounted mounted ms]

/-- Over any run of mounts, at most one reaches the crypt package, none once mounted. -/
theorem mountRun_reaches_crypt_at_most_once (d : DataDirectory) (mounts : List Mount) :
    (mountRun d mounts).2.length ≤ if d.mounted then 0 else 1 := by
  induction mounts generalizing d with
  | nil => simp [mountRun]
  | cons m ms ih =>
    cases mounted : d.mounted
    · cases reached : m.cryptCall d with
      | none =>
        have rest := ih (m.step d)
        simp only [mountRun, reached, Option.toList_none, List.nil_append, Bool.false_eq_true,
          ↓reduceIte]
        split at rest <;> omega
      | some call =>
        simp [mountRun, reached, mountRun_of_mounted (m.mounted_of_cryptCall reached)]
    · simp [mountRun_of_mounted mounted]

/-- A rejected storage security drops `MountExisting` out, but leaves `MountNew` marked mounted. -/
theorem mountRun_rejected_security (backend : Backend) (config : SealedConfiguration)
    (clusterUnlockKey : List UInt8) (security : NodeStorageSecurity)
    (nodeDraw clusterDraw : Except String UnlockKey) (mounts : List Mount) {err err' : MountError}
    (rejectedExisting : existingMode config.storageSecurity clusterUnlockKey = .error err)
    (rejectedNew : newMode security = .error err')
    (mountable : d.canMount = true) (unmounted : d.mounted = false) :
    mountRun d (.existing backend config clusterUnlockKey :: mounts) = mountRun d mounts ∧
      mountRun d (.new backend config security nodeDraw clusterDraw :: mounts) =
        ({ d with mounted := true }, []) := by
  have existing : mountExistingMapCall d config clusterUnlockKey = (d, .error err) := by
    simp [mountExistingMapCall, rejectedExisting]
  have claimed : d.claim = .ok { d with mounted := true } := by
    simp [DataDirectory.claim, mountable, unmounted]
  have new : mountNewInitCall d config security nodeDraw clusterDraw =
      ({ d with mounted := true }, config, .error err') := by
    simp [mountNewInitCall, claimed, rejectedNew]
  constructor
  · simp [mountRun, Mount.step, Mount.cryptCall, mountExisting_flags, existing, Except.toOption]
  · simp [mountRun, Mount.step, Mount.cryptCall, mountNew_flags, new, Except.toOption,
      mountRun_of_mounted (show ({ d with mounted := true } : DataDirectory).mounted = true from rfl)]

theorem mountRun_rejected_security_invalid :
    let backend : Backend := ⟨fun _ => .ok "/dev/data", fun _ => .ok "/dev/data",
      fun _ => .ok (), fun _ => .ok (), .ok ()⟩
    let retry : List Mount := [.existing backend ⟨[], .insecure⟩ []]
    existingMode NodeStorageSecurity.invalid [] = .error (.invalidStorageSecurity .invalid) ∧
      newMode .invalid = .error (.invalidStorageSecurity .invalid) ∧
      mountRun ⟨true, false⟩ retry = (⟨true, true⟩, [⟨none, .insecure⟩]) ∧
      mountRun ⟨true, false⟩ (.existing backend ⟨[], .invalid⟩ [] :: retry) =
        mountRun ⟨true, false⟩ retry ∧
      mountRun ⟨true, false⟩ (.new backend ⟨[], .invalid⟩ .invalid (.error "") (.error "") :: retry) =
        (⟨true, true⟩, []) := by
  intro backend retry
  exact ⟨rfl, rfl, rfl, mountRun_rejected_security backend ⟨[], .invalid⟩ [] .invalid (.error "")
    (.error "") retry rfl rfl rfl rfl⟩

end Monogon.Localstorage
