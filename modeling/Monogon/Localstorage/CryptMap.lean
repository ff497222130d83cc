import Mathlib.Data.List.AList
import Mathlib.Data.List.MinMax
import Mathlib.Order.Nat
import Monogon.Localstorage.Crypt

/-! `cryptMap` and `cryptUnmap` of the crypt package, and `CryptInit` with the device-mapper
devices and the device inodes its calls create and remove. `cryptMap` stacks a `crypt` device
on an `integrity` device, each with an inode under `/dev`; when a step fails it unlinks and
removes what it created, ignoring the errors of that cleanup. `cryptUnmap` undoes it.

The device mapper and the inodes are not in the sources; the model reads them as the kernel
keeps them. A device is created whole or not at all, never under a name in use, and holds open
the devices its targets name through their inodes; a held device is not removed. `mknod(2)`
fails on an existing path and `unlink(2)` on a missing one. Beyond that, the environment may
fail any call in any state, and gives the bytes a file holds and the texts of the errors.

The bytes of the partition are what the environment reads in a state of devices and inodes: the
writes `CryptInit` makes to the partition (its header wipe, the superblock the discovery device
formats) are not tracked, and the results below are about devices and inodes only. -/

namespace Monogon.Localstorage.Crypt

/-- `unix.ENOENT`. -/
def enoent : Errno := ⟨2⟩

/-- `unix.ENXIO`. -/
def enxio : Errno := ⟨6⟩

/-- `unix.EBUSY`: the device mapper's answer for a name in use or a held device. -/
def ebusy : Errno := ⟨16⟩

/-- `unix.EEXIST`. -/
def eexist : Errno := ⟨17⟩

/-- `devicemapper.Target`: its length in sectors, its type and its parameters. -/
structure Target where
  length : Nat
  type : String
  parameters : List String
deriving DecidableEq, Repr

/-- The path of the device a target stacks on. -/
def Target.device? (t : Target) : Option String :=
  if t.type = "integrity" then t.parameters.head?
  else if t.type = "crypt" then t.parameters[3]?
  else none

/-- A device-mapper device: its number, its table and the numbers of the devices it holds. -/
structure Device where
  dev : Nat
  table : List Target
  holds : List Nat
deriving DecidableEq, Repr

/-- The device-mapper devices by name and the block device inodes by path. -/
structure Kernel where
  devices : AList fun _ : String => Device
  nodes : AList fun _ : String => Nat
deriving DecidableEq

/-- The calls the environment may fail. -/
inductive Call where
  | createActiveDevice (name : String) (table : List Target)
  | mknod (path : String) (dev : Nat)
  | unlink (path : String)
  | removeDevice (name : String)
deriving DecidableEq, Repr

/-- The error each call fails with in each state, what `os.Open` reads, and each error's text. -/
structure Env where
  fault : Kernel → Call → Option Errno
  read : Kernel → String → Except Errno (List UInt8)
  text : Errno → String

/-- A call as the environment lets it run: its fault, or what the kernel does. -/
def Env.guard {α : Type} (env : Env) (k : Kernel) (call : Call) (run : Except Errno α) :
    Except Errno α :=
  match env.fault k call with
  | some err => .error err
  | none => run

def Kernel.usedDevs (k : Kernel) : List Nat :=
  k.devices.entries.flatMap (fun d => d.2.dev :: d.2.holds) ++ k.nodes.entries.map (·.2)

/-- The number the device mapper gives a new device: one no device, hold or inode uses. -/
def Kernel.freshDev (k : Kernel) : Nat :=
  k.usedDevs.foldr max 0 + 1

/-- `devicemapper.CreateActiveDevice(name, false, table)`: the new device and its number. -/
def Env.createActiveDevice (env : Env) (k : Kernel) (name : String) (table : List Target) :
    Except Errno (Kernel × Nat) :=
  env.guard k (.createActiveDevice name table) <|
    if name ∈ k.devices then .error ebusy
    else match (table.filterMap Target.device?).mapM (k.nodes.lookup ·) with
      | none => .error enxio
      | some holds => .ok (⟨k.devices.insert name ⟨k.freshDev, table, holds⟩, k.nodes⟩, k.freshDev)

/-- `unix.Mknod(path, 0600|unix.S_IFBLK, dev)`. -/
def Env.mknod (env : Env) (k : Kernel) (path : String) (dev : Nat) : Except Errno Kernel :=
  env.guard k (.mknod path dev) <|
    if path ∈ k.nodes then .error eexist else .ok ⟨k.devices, k.nodes.insert path dev⟩

/-- `unix.Unlink(path)`. -/
def Env.unlink (env : Env) (k : Kernel) (path : String) : Except Errno Kernel :=
  env.guard k (.unlink path) <|
    if path ∈ k.nodes then .ok ⟨k.devices, k.nodes.erase path⟩ else .error enoent

/-- `devicemapper.RemoveDevice(name)`. -/
def Env.removeDevice (env : Env) (k : Kernel) (name : String) : Except Errno Kernel :=
  env.guard k (.removeDevice name) <|
    match k.devices.lookup name with
    | none => .error enxio
    | some d =>
      if k.devices.entries.any (fun other => d.dev ∈ other.2.holds) then .error ebusy
      else .ok ⟨k.devices.erase name, k.nodes⟩

/-- A call whose error the code ignores: the state after it, or the same state when it failed. -/
def ignoring (k : Kernel) : Except Errno Kernel → Kernel
  | .ok k' => k'
  | .error _ => k

/-! ## `readDataSectors` -/

/-- The errors of `readDataSectors`. -/
inductive ReadError where
  /-- an error of `os.Open` -/
  | opening (err : Errno)
  /-- `io.EOF`: the file has no byte at offset 16 -/
  | eof
  /-- `io.ErrUnexpectedEOF`: the file has fewer than 8 bytes at offset 16 -/
  | unexpectedEOF
deriving DecidableEq, Repr

def littleEndian : List UInt8 → Nat
  | [] => 0
  | b :: rest => b.toNat + 256 * littleEndian rest

/-- `readDataSectors`, given what `os.Open` gives. -/
def readDataSectors (content : Except Errno (List UInt8)) : Except ReadError Nat :=
  match content with
  | .error err => .error (.opening err)
  | .ok bytes =>
    match bytes.drop 16 with
    | [] => .error .eof
    | field => if field.length < 8 then .error .unexpectedEOF else .ok (littleEndian (field.take 8))

/-- The text of a `readDataSectors` error for the file `path`. -/
def ReadError.message (text : Errno → String) (path : String) : ReadError → String
  | .opening err => "open " ++ path ++ ": " ++ text err
  | .eof => "EOF"
  | .unexpectedEOF => "unexpected EOF"

/-! ## `cryptMap` and `cryptUnmap` -/

/-- `hex.EncodeToString`. -/
def hexEncode (bytes : List UInt8) : String :=
  let digit (n : Nat) : Char := if n < 10 then Char.ofNat (48 + n) else Char.ofNat (87 + n)
  String.mk (bytes.flatMap fun b => [digit (b.toNat / 16), digit (b.toNat % 16)])

/-- `fmt.Sprintf("/dev/%v-integrity", name)`. -/
def integrityDevName (name : String) : String := "/dev/" ++ name ++ "-integrity"

/-- `fmt.Sprintf("%v-integrity", name)`. -/
def integrityDMName (name : String) : String := name ++ "-integrity"

/-- `fmt.Sprintf("/dev/%v", name)`. -/
def cryptDevName (name : String) : String := "/dev/" ++ name

/-- The table of the integrity device of `cryptMap`. -/
def integrityTable (baseName : String) (integritySectors : Nat) (enableJournal : Bool) :
    List Target :=
  [⟨integritySectors, "integrity",
    [baseName, "0", "28", if enableJournal then "J" else "D", "1", "journal_sectors:1024"]⟩]

/-- The table of the crypt device of `cryptMap`. -/
def cryptTable (name : String) (encryptionKey : List UInt8) (integritySectors : Nat) :
    List Target :=
  [⟨integritySectors, "crypt",
    ["capi:gcm(aes)-random", hexEncode encryptionKey, "0", integrityDevName name, "0", "1",
      "integrity:28:aead", "no_read_workqueue", "no_write_workqueue"]⟩]

/-- The errors `cryptMap` returns. -/
inductive CryptMapError where
  /-- "failed to read the number of usable sectors on the integrity device: %w" -/
  | readDataSectors (err : ReadError)
  /-- "failed to create Integrity device: %w" -/
  | createIntegrity (err : Errno)
  /-- "failed to create integrity device node: %w" -/
  | integrityNode (err : Errno)
  /-- "failed to create crypt device: %w" -/
  | createCrypt (err : Errno)
  /-- "failed to create crypt device node: %w" -/
  | cryptNode (err : Errno)
deriving DecidableEq, Repr

/-- The text of a `cryptMap` error, `baseName` being the integrity partition. -/
def CryptMapError.message (text : Errno → String) (baseName : String) : CryptMapError → String
  | .readDataSectors err =>
    "failed to read the number of usable sectors on the integrity device: " ++
      err.message text baseName
  | .createIntegrity err => "failed to create Integrity device: " ++ text err
  | .integrityNode err => "failed to create integrity device node: " ++ text err
  | .createCrypt err => "failed to create crypt device: " ++ text err
  | .cryptNode err => "failed to create crypt device node: " ++ text err

/-- `cryptMap(name, baseName, encryptionKey, enableJournal)`. -/
def cryptMap (env : Env) (name baseName : String) (encryptionKey : List UInt8)
    (enableJournal : Bool) (k : Kernel) : Kernel × Except CryptMapError Unit :=
  match readDataSectors (env.read k baseName) with
  | .error err => (k, .error (.readDataSectors err))
  | .ok integritySectors =>
    match env.createActiveDevice k (integrityDMName name)
        (integrityTable baseName integritySectors enableJournal) with
    | .error err => (k, .error (.createIntegrity err))
    | .ok (k, integrityDev) =>
      match env.mknod k (integrityDevName name) integrityDev with
      | .error err =>
        let k := ignoring k (env.unlink k (integrityDevName name))
        (ignoring k (env.removeDevice k (integrityDMName name)), .error (.integrityNode err))
      | .ok k =>
        match env.createActiveDevice k name (cryptTable name encryptionKey integritySectors) with
        | .error err =>
          let k := ignoring k (env.unlink k (integrityDevName name))
          (ignoring k (env.removeDevice k (integrityDMName name)), .error (.createCrypt err))
        | .ok (k, cryptDev) =>
          match env.mknod k (cryptDevName name) cryptDev with
          | .error err =>
            let k := ignoring k (env.unlink k (cryptDevName name))
            let k := ignoring k (env.removeDevice k name)
            let k := ignoring k (env.unlink k (integrityDevName name))
            (ignoring k (env.removeDevice k (integrityDMName name)), .error (.cryptNode err))
          | .ok k => (k, .ok ())

/-- The errors `cryptUnmap` returns. -/
inductive CryptUnmapError where
  /-- "failed to delete integrity device inode: %w" -/
  | integrityInode (err : Errno)
  /-- "failed to delete crypt device inode: %w" -/
  | cryptInode (err : Errno)
  /-- "failed to remove dm-crypt device: %w" -/
  | removeCrypt (err : Errno)
  /-- "failed to remove dm-integrity device: %w" -/
  | removeIntegrity (err : Errno)
deriving DecidableEq, Repr

/-- The text of a `cryptUnmap` error. -/
def CryptUnmapError.message (text : Errno → String) : CryptUnmapError → String
  | .integrityInode err => "failed to delete integrity device inode: " ++ text err
  | .cryptInode err => "failed to delete crypt device inode: " ++ text err
  | .removeCrypt err => "failed to remove dm-crypt device: " ++ text err
  | .removeIntegrity err => "failed to remove dm-integrity device: " ++ text err

/-- A step of `cryptUnmap` that passes over `ENOENT`. -/
def passingNotExist (k : Kernel) (wrap : Errno → CryptUnmapError) :
    Except Errno Kernel → Except CryptUnmapError Kernel
  | .ok k' => .ok k'
  | .error err => if err = enoent then .ok k else .error (wrap err)

/-- `cryptUnmap(name, baseName)`. -/
def cryptUnmap (env : Env) (name : String) (k : Kernel) : Kernel × Except CryptUnmapError Unit :=
  match passingNotExist k .integrityInode (env.unlink k (integrityDevName name)) with
  | .error err => (k, .error err)
  | .ok k =>
    match env.unlink k (cryptDevName name) with
    | .error err => (k, .error (.cryptInode err))
    | .ok k =>
      match passingNotExist k .removeCrypt (env.removeDevice k name) with
      | .error err => (k, .error err)
      | .ok k =>
        match passingNotExist k .removeIntegrity (env.removeDevice k (integrityDMName name)) with
        | .error err => (k, .error err)
        | .ok k => (k, .ok ())

/-! ## `CryptInit` -/

/-- The results of `CryptInit`'s calls outside the device mapper and `/dev`. -/
structure Outside where
  openPartition : Except String Unit
  wipeHeader : Except String Unit
  openDevice : Except String Unit
  blkSszGet : Except Errno UInt32
  capacity : Nat
  failure : Nat → Option Errno

def discoveryTable (baseName : String) : List Target :=
  [⟨1, "integrity", [baseName, "0", "28", "J", "1", "journal_sectors:1024"]⟩]

/-- `CryptInit` from the state `k`, its zeroing loop run for at most `fuel` iterations. -/
def cryptInitOn (env : Env) (outside : Outside) (name baseName : String)
    (encryptionKey : List UInt8) (fuel : Nat) (k : Kernel) :
    Option (Kernel × Except CryptInitError Unit) :=
  match outside.openPartition with
  | .error err => some (k, .error (.external err))
  | .ok () =>
    match outside.wipeHeader with
    | .error err => some (k, .error (.wipeHeader err))
    | .ok () =>
      match env.createActiveDevice k (integrityDMName name) (discoveryTable baseName) with
      | .error err => some (k, .error (.createDiscovery (env.text err)))
      | .ok (k, _) =>
        match env.removeDevice k (integrityDMName name) with
        | .error err => some (k, .error (.removeDiscovery (env.text err)))
        | .ok k =>
          match cryptMap env name baseName encryptionKey false k with
          | (k, .error err) => some (k, .error (.external (err.message env.text baseName)))
          | (k, .ok ()) =>
            match outside.openDevice with
            | .error err => some (k, .error (.openForZeroing err))
            | .ok () =>
              match zero outside.capacity (zeroedBufLength (blockSizeOf outside.blkSszGet))
                  outside.failure fuel 0 0 with
              | none => none
              | some (.error err) => some (k, .error (.zeroInitialize err))
              | some (.ok ()) =>
                match cryptUnmap env name k with
                | (k, .error err) => some (k, .error (.unmapTemporary (err.message env.text)))
                | (k, .ok ()) =>
                  match cryptMap env name baseName encryptionKey true k with
                  | (k, .error err) =>
                    some (k, .error (.mapInitialized (err.message env.text baseName)))
                  | (k, .ok ()) => some (k, .ok ())

theorem erase_insert_of_not_mem {β : String → Type} {s : AList β} {a : String} {b : β a}
    (absent : a ∉ s) : (s.insert a b).erase a = s :=
  AList.ext <| by
    show (s.insert a b).entries.kerase a = s.entries
    rw [AList.insert_entries_of_neg absent]
    exact List.kerase_cons_eq rfl

theorem erase_insert_of_ne {β : String → Type} {s : AList β} {a a' : String} {b : β a}
    (different : a ≠ a') : (s.insert a b).erase a' = (s.erase a').insert a b :=
  AList.ext <| by
    show (⟨a, b⟩ :: s.entries.kerase a).kerase a' = ⟨a, b⟩ :: (s.entries.kerase a').kerase a
    rw [List.kerase_cons_ne (Ne.symm different : a' ≠ (⟨a, b⟩ : Sigma β).1), List.kerase_comm]

/-- An environment that fails no `unlink(2)` and no device removal of its own. -/
structure Env.CleansUp (env : Env) : Prop where
  unlink : ∀ k path, env.fault k (.unlink path) = none
  removeDevice : ∀ k name, env.fault k (.removeDevice name) = none

variable {env : Env} {k k' : Kernel}

theorem guard_eq_ok {α : Type} {call : Call} {run : Except Errno α} {a : α} :
    env.guard k call run = .ok a ↔ env.fault k call = none ∧ run = .ok a := by
  unfold Env.guard
  split <;> simp_all

theorem createActiveDevice_eq_ok {name : String} {table : List Target} {dev : Nat}
    (created : env.createActiveDevice k name table = .ok (k', dev)) :
    name ∉ k.devices ∧ ∃ holds, (table.filterMap Target.device?).mapM (k.nodes.lookup ·) = some holds ∧
      dev = k.freshDev ∧ k' = ⟨k.devices.insert name ⟨k.freshDev, table, holds⟩, k.nodes⟩ := by
  obtain ⟨-, created⟩ := guard_eq_ok.mp created
  split_ifs at created with taken
  cases resolved : (table.filterMap Target.device?).mapM (k.nodes.lookup ·) with
  | none => rw [resolved] at created; cases created
  | some holds =>
    rw [resolved] at created
    simp only [Except.ok.injEq, Prod.mk.injEq] at created
    obtain ⟨rfl, rfl⟩ := created
    exact ⟨taken, holds, rfl, rfl, rfl⟩

theorem mknod_eq_ok {path : String} {dev : Nat} (made : env.mknod k path dev = .ok k') :
    path ∉ k.nodes ∧ k' = ⟨k.devices, k.nodes.insert path dev⟩ := by
  obtain ⟨-, made⟩ := guard_eq_ok.mp made
  split_ifs at made with taken
  exact ⟨taken, (Except.ok.inj made).symm⟩

theorem removeDevice_eq_ok {name : String} (removed : env.removeDevice k name = .ok k') :
    name ∈ k.devices ∧ k' = ⟨k.devices.erase name, k.nodes⟩ := by
  obtain ⟨-, removed⟩ := guard_eq_ok.mp removed
  split at removed
  · cases removed
  · next d found =>
    split_ifs at removed
    cases removed
    exact ⟨AList.lookup_isSome.mp (by simp [found]), rfl⟩

theorem unlink_eq_ok {path : String} (unlinked : env.unlink k path = .ok k') :
    path ∈ k.nodes ∧ k' = ⟨k.devices, k.nodes.erase path⟩ := by
  obtain ⟨-, unlinked⟩ := guard_eq_ok.mp unlinked
  split_ifs at unlinked with present
  exact ⟨present, (Except.ok.inj unlinked).symm⟩

theorem mknod_of_mem {path : String} {dev : Nat} (taken : path ∈ k.nodes) :
    ∃ err, env.mknod k path dev = .error err := by
  unfold Env.mknod Env.guard
  split <;> simp [taken]

theorem unlink_of_mem (cleans : env.CleansUp) {path : String} (present : path ∈ k.nodes) :
    env.unlink k path = .ok ⟨k.devices, k.nodes.erase path⟩ := by
  simp [Env.unlink, Env.guard, cleans.unlink, present]

theorem unlink_of_not_mem (cleans : env.CleansUp) {path : String} (absent : path ∉ k.nodes) :
    env.unlink k path = .error enoent := by
  simp [Env.unlink, Env.guard, cleans.unlink, absent]

theorem removeDevice_of_unheld (cleans : env.CleansUp) {name : String} {d : Device}
    (found : k.devices.lookup name = some d) (unheld : ∀ other ∈ k.devices.entries, d.dev ∉ other.2.holds) :
    env.removeDevice k name = .ok ⟨k.devices.erase name, k.nodes⟩ := by
  have free : (k.devices.entries.any fun other => decide (d.dev ∈ other.2.holds)) = false := by
    simpa using unheld
  simp [Env.removeDevice, Env.guard, cleans.removeDevice, found, free]

/-! ## Device numbers -/

theorem lt_freshDev {n : Nat} (used : n ∈ k.usedDevs) : n < k.freshDev :=
  Nat.lt_succ_of_le (List.le_max_of_le used le_rfl)

theorem node_lt_freshDev {path : String} {n : Nat} (found : k.nodes.lookup path = some n) :
    n < k.freshDev :=
  lt_freshDev (List.mem_append_right _ (List.mem_map.mpr ⟨⟨path, n⟩, AList.mem_lookup_iff.mp found, rfl⟩))

theorem held_lt_freshDev {other : Σ _ : String, Device} (member : other ∈ k.devices.entries)
    {n : Nat} (held : n ∈ other.2.holds) : n < k.freshDev :=
  lt_freshDev (List.mem_append_left _ (List.mem_flatMap.mpr ⟨other, member, List.mem_cons_of_mem _ held⟩))

theorem resolved_lt_freshDev : ∀ {paths : List String} {holds : List Nat},
    paths.mapM (k.nodes.lookup ·) = some holds → ∀ n ∈ holds, n < k.freshDev
  | [], holds, resolved => by
    simp only [List.mapM_nil, Option.pure_def, Option.some.injEq] at resolved
    simp [← resolved]
  | path :: paths, holds, resolved => by
    simp only [List.mapM_cons, Option.bind_eq_bind, Option.bind_eq_some, Option.pure_def,
      Option.some.injEq] at resolved
    obtain ⟨n, found, rest, later, rfl⟩ := resolved
    intro m member
    rcases List.mem_cons.mp member with rfl | member
    · exact node_lt_freshDev found
    · exact resolved_lt_freshDev later m member

theorem unheld_insert_fresh {name : String} {table : List Target} {holds : List Nat}
    (absent : name ∉ k.devices) (small : ∀ n ∈ holds, n < k.freshDev) :
    ∀ other ∈ (k.devices.insert name ⟨k.freshDev, table, holds⟩).entries,
      k.freshDev ∉ other.2.holds := by
  intro other member held
  rw [AList.insert_entries_of_neg absent] at member
  rcases List.mem_cons.mp member with rfl | member
  · exact lt_irrefl _ (small _ held)
  · exact lt_irrefl _ (held_lt_freshDev member held)

theorem removeDevice_createActiveDevice (cleans : env.CleansUp) {name : String}
    {table : List Target} {dev : Nat} (created : env.createActiveDevice k name table = .ok (k', dev)) :
    env.removeDevice k' name = .ok k := by
  obtain ⟨absent, holds, resolved, -, rfl⟩ := createActiveDevice_eq_ok created
  rw [removeDevice_of_unheld cleans (AList.lookup_insert _)
    (unheld_insert_fresh absent (resolved_lt_freshDev resolved)), erase_insert_of_not_mem absent]

theorem createActiveDevice_removeDevice {k₁ k₂ : Kernel} {name : String} {table : List Target}
    {dev : Nat} (created : env.createActiveDevice k name table = .ok (k₁, dev))
    (removed : env.removeDevice k₁ name = .ok k₂) : k₂ = k := by
  obtain ⟨absent, holds, -, -, rfl⟩ := createActiveDevice_eq_ok created
  obtain ⟨-, rfl⟩ := removeDevice_eq_ok removed
  rw [erase_insert_of_not_mem absent]

theorem unlink_mknod (cleans : env.CleansUp) {path : String} {dev : Nat}
    (made : env.mknod k path dev = .ok k') : env.unlink k' path = .ok k := by
  obtain ⟨absent, rfl⟩ := mknod_eq_ok made
  rw [unlink_of_mem cleans ((AList.mem_insert _).mpr (.inl rfl)), erase_insert_of_not_mem absent]

theorem integrityDMName_ne (name : String) : integrityDMName name ≠ name := fun same => by
  have := congrArg String.length same
  simp [integrityDMName] at this
  exact absurd this (by decide)

theorem integrityDevName_ne (name : String) : integrityDevName name ≠ cryptDevName name :=
  fun same => by
    have := congrArg String.length same
    simp [integrityDevName, cryptDevName] at this
    exact absurd this (by decide)

/-! ## `cryptMap` and `cryptUnmap` -/

@[simp] theorem integrityTable_devices (baseName : String) (sectors : Nat) (journal : Bool) :
    (integrityTable baseName sectors journal).filterMap Target.device? = [baseName] := by
  simp [integrityTable, Target.device?]

@[simp] theorem cryptTable_devices (name : String) (key : List UInt8) (sectors : Nat) :
    (cryptTable name key sectors).filterMap Target.device? = [integrityDevName name] := by
  simp [cryptTable, Target.device?]

/-- The state a successful `cryptMap` leaves from `k`. -/
def Kernel.mapped (k : Kernel) (name baseName : String) (encryptionKey : List UInt8)
    (enableJournal : Bool) (integritySectors baseDev : Nat) : Kernel :=
  let integrity : Kernel :=
    ⟨k.devices.insert (integrityDMName name)
        ⟨k.freshDev, integrityTable baseName integritySectors enableJournal, [baseDev]⟩,
      k.nodes.insert (integrityDevName name) k.freshDev⟩
  ⟨integrity.devices.insert name
      ⟨integrity.freshDev, cryptTable name encryptionKey integritySectors, [k.freshDev]⟩,
    integrity.nodes.insert (cryptDevName name) integrity.freshDev⟩

variable {name baseName : String} {key : List UInt8} {journal : Bool}

theorem cryptMap_eq_ok (mapped : cryptMap env name baseName key journal k = (k', .ok ())) :
    ∃ sectors baseDev, readDataSectors (env.read k baseName) = .ok sectors ∧
      k.nodes.lookup baseName = some baseDev ∧ integrityDMName name ∉ k.devices ∧
      name ∉ k.devices ∧ integrityDevName name ∉ k.nodes ∧ cryptDevName name ∉ k.nodes ∧
      k' = k.mapped name baseName key journal sectors baseDev := by
  unfold cryptMap at mapped
  split at mapped
  · simp at mapped
  next sectors read =>
  split at mapped
  · simp at mapped
  next k₁ dI created =>
  split at mapped
  · simp at mapped
  next k₂ made =>
  split at mapped
  · simp at mapped
  next k₃ dC created' =>
  split at mapped
  · simp at mapped
  next k₄ made' =>
  obtain ⟨rfl, -⟩ := Prod.mk.inj mapped
  obtain ⟨absentI, holdsI, resolvedI, rfl, rfl⟩ := createActiveDevice_eq_ok created
  obtain ⟨absentIP, rfl⟩ := mknod_eq_ok made
  obtain ⟨absentC, holdsC, resolvedC, rfl, rfl⟩ := createActiveDevice_eq_ok created'
  obtain ⟨absentCP, rfl⟩ := mknod_eq_ok made'
  simp only [integrityTable_devices, cryptTable_devices, List.mapM_cons, List.mapM_nil,
    Option.bind_eq_bind, Option.pure_def, Option.bind_eq_some, Option.some.injEq,
    AList.lookup_insert] at resolvedI resolvedC
  obtain ⟨baseDev, found, -, rfl, rfl⟩ := resolvedI
  obtain ⟨_, rfl, -, rfl, rfl⟩ := resolvedC
  refine ⟨sectors, baseDev, read, found, absentI, fun member => absentC ?_, absentIP,
    fun member => absentCP ?_, rfl⟩
  · exact (AList.mem_insert _).mpr (.inr member)
  · exact (AList.mem_insert _).mpr (.inr member)

theorem cryptUnmap_mapped (cleans : env.CleansUp) {sectors baseDev : Nat}
    (found : k.nodes.lookup baseName = some baseDev) (absentI : integrityDMName name ∉ k.devices)
    (absentC : name ∉ k.devices) (absentIP : integrityDevName name ∉ k.nodes)
    (absentCP : cryptDevName name ∉ k.nodes) :
    cryptUnmap env name (k.mapped name baseName key journal sectors baseDev) = (k, .ok ()) := by
  obtain ⟨integrity, devicesI, nodesI, mappedEq⟩ : ∃ integrity : Kernel,
      integrity.devices = k.devices.insert (integrityDMName name)
        ⟨k.freshDev, integrityTable baseName sectors journal, [baseDev]⟩ ∧
      integrity.nodes = k.nodes.insert (integrityDevName name) k.freshDev ∧
      k.mapped name baseName key journal sectors baseDev =
        ⟨integrity.devices.insert name
            ⟨integrity.freshDev, cryptTable name key sectors, [k.freshDev]⟩,
          integrity.nodes.insert (cryptDevName name) integrity.freshDev⟩ := ⟨_, rfl, rfl, rfl⟩
  have absentC' : name ∉ integrity.devices := fun member =>
    ((AList.mem_insert _).mp (devicesI ▸ member)).elim (integrityDMName_ne name).symm absentC
  have below : k.freshDev < integrity.freshDev :=
    node_lt_freshDev (show integrity.nodes.lookup (integrityDevName name) = some k.freshDev by
      rw [nodesI, AList.lookup_insert])
  have unlinkIntegrity : env.unlink (k.mapped name baseName key journal sectors baseDev)
      (integrityDevName name) = .ok ⟨integrity.devices.insert name
        ⟨integrity.freshDev, cryptTable name key sectors, [k.freshDev]⟩,
      k.nodes.insert (cryptDevName name) integrity.freshDev⟩ := by
    rw [mappedEq, unlink_of_mem cleans ((AList.mem_insert _).mpr
        (.inr (nodesI ▸ (AList.mem_insert _).mpr (.inl rfl)))),
      erase_insert_of_ne (integrityDevName_ne name).symm, nodesI, erase_insert_of_not_mem absentIP]
  have unlinkCrypt : env.unlink ⟨integrity.devices.insert name
        ⟨integrity.freshDev, cryptTable name key sectors, [k.freshDev]⟩,
      k.nodes.insert (cryptDevName name) integrity.freshDev⟩ (cryptDevName name) =
      .ok ⟨integrity.devices.insert name
        ⟨integrity.freshDev, cryptTable name key sectors, [k.freshDev]⟩, k.nodes⟩ := by
    rw [unlink_of_mem cleans ((AList.mem_insert _).mpr (.inl rfl)), erase_insert_of_not_mem absentCP]
  have removeCrypt : env.removeDevice ⟨integrity.devices.insert name
        ⟨integrity.freshDev, cryptTable name key sectors, [k.freshDev]⟩, k.nodes⟩ name =
      .ok ⟨integrity.devices, k.nodes⟩ := by
    rw [removeDevice_of_unheld cleans (AList.lookup_insert _)
      (unheld_insert_fresh absentC' (by simpa using below)), erase_insert_of_not_mem absentC']
  have removeIntegrity : env.removeDevice ⟨integrity.devices, k.nodes⟩ (integrityDMName name) =
      .ok k := by
    rw [devicesI, removeDevice_of_unheld cleans (AList.lookup_insert _)
      (unheld_insert_fresh absentI (by simpa using node_lt_freshDev found)),
      erase_insert_of_not_mem absentI]
  simp only [cryptUnmap, unlinkIntegrity, unlinkCrypt, removeCrypt, removeIntegrity,
    passingNotExist]

/-- An environment that fails no call and reads a header of 5 sectors from every partition. -/
def quietEnv : Env :=
  ⟨fun _ _ => none, fun _ _ => .ok (List.replicate 16 0 ++ [5, 0, 0, 0, 0, 0, 0, 0]), fun _ => ""⟩

/-- No device, and the inode `/dev/vda4` of device 7. -/
def vda4 : Kernel := ⟨∅, (∅ : AList fun _ : String => Nat).insert "/dev/vda4" 7⟩

theorem quietEnv_cleansUp : quietEnv.CleansUp := ⟨fun _ _ => rfl, fun _ _ => rfl⟩

/-- `cryptUnmap` after a successful `cryptMap` gives the state back. -/
theorem cryptUnmap_cryptMap (cleans : env.CleansUp)
    (mapped : cryptMap env name baseName key journal k = (k', .ok ())) :
    cryptUnmap env name k' = (k, .ok ()) := by
  obtain ⟨sectors, baseDev, -, found, absentI, absentC, absentIP, absentCP, rfl⟩ :=
    cryptMap_eq_ok mapped
  exact cryptUnmap_mapped cleans found absentI absentC absentIP absentCP

theorem cryptUnmap_cryptMap_vda4 :
    quietEnv.CleansUp ∧
      cryptMap quietEnv "data" "/dev/vda4" [1, 2] true vda4 =
        (vda4.mapped "data" "/dev/vda4" [1, 2] true 5 7, .ok ()) ∧
      cryptUnmap quietEnv "data" (vda4.mapped "data" "/dev/vda4" [1, 2] true 5 7) = (vda4, .ok ()) := by
  have mapped : cryptMap quietEnv "data" "/dev/vda4" [1, 2] true vda4 =
      (vda4.mapped "data" "/dev/vda4" [1, 2] true 5 7, .ok ()) := by rfl
  exact ⟨quietEnv_cleansUp, mapped, cryptUnmap_cryptMap quietEnv_cleansUp mapped⟩

/-- A failed `cryptMap` leaves the state as it found it. -/
theorem cryptMap_eq_error (cleans : env.CleansUp) {err : CryptMapError}
    (freeIntegrity : integrityDevName name ∉ k.nodes) (freeCrypt : cryptDevName name ∉ k.nodes)
    (failed : cryptMap env name baseName key journal k = (k', .error err)) : k' = k := by
  unfold cryptMap at failed
  split at failed
  · exact (Prod.mk.inj failed).1.symm
  next sectors read =>
  split at failed
  · exact (Prod.mk.inj failed).1.symm
  next k₁ dI created =>
  have nodes₁ : k₁.nodes = k.nodes := by
    obtain ⟨-, -, -, -, rfl⟩ := createActiveDevice_eq_ok created
    rfl
  split at failed
  · obtain ⟨rfl, -⟩ := Prod.mk.inj failed
    simp only [unlink_of_not_mem cleans (nodes₁ ▸ freeIntegrity), ignoring,
      removeDevice_createActiveDevice cleans created]
  next k₂ made =>
  split at failed
  · obtain ⟨rfl, -⟩ := Prod.mk.inj failed
    simp only [unlink_mknod cleans made, ignoring, removeDevice_createActiveDevice cleans created]
  next k₃ dC created' =>
  have free₃ : cryptDevName name ∉ k₃.nodes := by
    obtain ⟨-, -, -, -, rfl⟩ := createActiveDevice_eq_ok created'
    obtain ⟨-, rfl⟩ := mknod_eq_ok made
    exact fun member => ((AList.mem_insert _).mp member).elim (integrityDevName_ne name).symm
      (nodes₁ ▸ freeCrypt)
  split at failed
  · obtain ⟨rfl, -⟩ := Prod.mk.inj failed
    simp only [unlink_of_not_mem cleans free₃, ignoring, removeDevice_createActiveDevice cleans created',
      unlink_mknod cleans made, removeDevice_createActiveDevice cleans created]
  · simp at failed

theorem cryptMap_eq_error_name_taken :
    let k : Kernel := ⟨(∅ : AList fun _ : String => Device).insert "data" ⟨3, [], []⟩, vda4.nodes⟩
    integrityDevName "data" ∉ k.nodes ∧ cryptDevName "data" ∉ k.nodes ∧
      (cryptMap quietEnv "data" "/dev/vda4" [1, 2] true k).2 = .error (.createCrypt ebusy) ∧
      (cryptMap quietEnv "data" "/dev/vda4" [1, 2] true k).1 = k := by
  intro k
  have failed : cryptMap quietEnv "data" "/dev/vda4" [1, 2] true k =
      ((cryptMap quietEnv "data" "/dev/vda4" [1, 2] true k).1, .error (.createCrypt ebusy)) := by rfl
  exact ⟨by decide, by decide, congrArg Prod.snd failed,
    cryptMap_eq_error quietEnv_cleansUp (by decide) (by decide) failed⟩

/-- `cryptMap`'s cleanup unlinks an integrity inode it found but did not make. -/
theorem cryptMap_unlinks_found_integrityNode (cleans : env.CleansUp) {sectors dev : Nat}
    {k₁ : Kernel} (read : readDataSectors (env.read k baseName) = .ok sectors)
    (created : env.createActiveDevice k (integrityDMName name)
      (integrityTable baseName sectors journal) = .ok (k₁, dev))
    (present : integrityDevName name ∈ k.nodes) :
    ∃ err, cryptMap env name baseName key journal k =
      (⟨k.devices, k.nodes.erase (integrityDevName name)⟩, .error (.integrityNode err)) := by
  obtain ⟨absent, holds, resolved, rfl, rfl⟩ := createActiveDevice_eq_ok created
  obtain ⟨err, failed⟩ : ∃ err, env.mknod ⟨k.devices.insert (integrityDMName name)
      ⟨k.freshDev, integrityTable baseName sectors journal, holds⟩, k.nodes⟩
      (integrityDevName name) k.freshDev = .error err := mknod_of_mem present
  have unlinked := unlink_of_mem cleans (show integrityDevName name ∈ (⟨k.devices.insert
    (integrityDMName name) ⟨k.freshDev, integrityTable baseName sectors journal, holds⟩, k.nodes⟩ : Kernel).nodes from present)
  have removed := removeDevice_of_unheld cleans (show (⟨k.devices.insert
    (integrityDMName name) ⟨k.freshDev, integrityTable baseName sectors journal, holds⟩,
      k.nodes.erase (integrityDevName name)⟩ : Kernel).devices.lookup (integrityDMName name) = _ from AList.lookup_insert _)
    (unheld_insert_fresh absent (resolved_lt_freshDev resolved))
  refine ⟨err, ?_⟩
  simp only [cryptMap, read, created, failed, ignoring, unlinked, removed, erase_insert_of_not_mem absent]

theorem cryptMap_unlinks_found_integrityNode_vda4 :
    let k : Kernel := ⟨∅, vda4.nodes.insert "/dev/data-integrity" 9⟩
    readDataSectors (quietEnv.read k "/dev/vda4") = .ok 5 ∧
      quietEnv.createActiveDevice k (integrityDMName "data") (integrityTable "/dev/vda4" 5 true) =
        .ok (⟨(∅ : AList fun _ : String => Device).insert "data-integrity"
          ⟨10, integrityTable "/dev/vda4" 5 true, [7]⟩, k.nodes⟩, 10) ∧
      integrityDevName "data" ∈ k.nodes ∧
      ∃ err, cryptMap quietEnv "data" "/dev/vda4" [1, 2] true k =
        (⟨k.devices, k.nodes.erase (integrityDevName "data")⟩, .error (.integrityNode err)) := by
  intro k
  have read : readDataSectors (quietEnv.read k "/dev/vda4") = .ok 5 := by rfl
  have created : quietEnv.createActiveDevice k (integrityDMName "data")
      (integrityTable "/dev/vda4" 5 true) = .ok (⟨(∅ : AList fun _ : String => Device).insert
        "data-integrity" ⟨10, integrityTable "/dev/vda4" 5 true, [7]⟩, k.nodes⟩, 10) := by rfl
  have present : integrityDevName "data" ∈ k.nodes := by decide
  exact ⟨read, created, present, cryptMap_unlinks_found_integrityNode quietEnv_cleansUp read created present⟩

/-! ## `CryptInit` -/

variable {outside : Outside} {fuel : Nat}

/-- A successful `CryptInit` leaves only the journalled mapping over the partition. -/
theorem cryptInitOn_eq_ok (cleans : env.CleansUp)
    (initialized : cryptInitOn env outside name baseName key fuel k = some (k', .ok ())) :
    ∃ sectors baseDev, k.nodes.lookup baseName = some baseDev ∧
      k' = k.mapped name baseName key true sectors baseDev := by
  unfold cryptInitOn at initialized
  split at initialized
  · simp at initialized
  split at initialized
  · simp at initialized
  split at initialized
  · simp at initialized
  next k₁ dev created =>
  split at initialized
  · simp at initialized
  next k₂ removed =>
  obtain rfl := createActiveDevice_removeDevice created removed
  split at initialized
  · simp at initialized
  next k₃ mapped =>
  split at initialized
  · simp at initialized
  split at initialized
  · simp at initialized
  · simp at initialized
  split at initialized
  · simp at initialized
  next k₄ unmapped =>
  obtain ⟨sectors, baseDev, -, found, absentI, absentC, absentIP, absentCP, rfl⟩ := cryptMap_eq_ok mapped
  obtain rfl := (Prod.mk.inj ((cryptUnmap_mapped cleans found absentI absentC absentIP absentCP).symm.trans
    unmapped)).1
  split at initialized
  · simp at initialized
  next k₅ remapped =>
  obtain rfl := (Prod.mk.inj (Option.some.inj initialized)).1
  obtain ⟨sectors, baseDev, -, found, -, -, -, -, rfl⟩ := cryptMap_eq_ok remapped
  exact ⟨sectors, baseDev, found, rfl⟩

theorem cryptInitOn_eq_ok_vda4 :
    quietEnv.CleansUp ∧
      cryptInitOn quietEnv ⟨.ok (), .ok (), .ok (), .ok 512, 4096, fun _ => none⟩ "data" "/dev/vda4"
          [1, 2] 10 vda4 = some (vda4.mapped "data" "/dev/vda4" [1, 2] true 5 7, .ok ()) ∧
      ∃ sectors baseDev, vda4.nodes.lookup "/dev/vda4" = some baseDev ∧
        vda4.mapped "data" "/dev/vda4" [1, 2] true 5 7 =
          vda4.mapped "data" "/dev/vda4" [1, 2] true sectors baseDev := by
  have initialized : cryptInitOn quietEnv ⟨.ok (), .ok (), .ok (), .ok 512, 4096, fun _ => none⟩
      "data" "/dev/vda4" [1, 2] 10 vda4 =
        some (vda4.mapped "data" "/dev/vda4" [1, 2] true 5 7, .ok ()) := by rfl
  exact ⟨quietEnv_cleansUp, initialized, cryptInitOn_eq_ok quietEnv_cleansUp initialized⟩

/-- The device-mapper names `cryptMap`, `cryptUnmap` and `CryptInit` use for `name`. -/
def cryptNames (name : String) : List String := [integrityDMName name, name]

/-- The inode paths `cryptMap`, `cryptUnmap` and `CryptInit` use for `name`. -/
def cryptPaths (name : String) : List String := [integrityDevName name, cryptDevName name]

/-- `k'` has the devices and inodes of `k` outside `names` and `paths`, and no others there. -/
structure Kernel.Keeps (names paths : List String) (k k' : Kernel) : Prop where
  devices : ∀ n, n ∉ names → k'.devices.lookup n = k.devices.lookup n
  nodes : ∀ p, p ∉ paths → k'.nodes.lookup p = k.nodes.lookup p

section Keeps

variable {names paths : List String} {k₁ k₂ k₃ : Kernel}

theorem Kernel.Keeps.refl (k : Kernel) : k.Keeps names paths k :=
  ⟨fun _ _ => rfl, fun _ _ => rfl⟩

theorem Kernel.Keeps.trans (first : k₁.Keeps names paths k₂) (second : k₂.Keeps names paths k₃) :
    k₁.Keeps names paths k₃ :=
  ⟨fun n other => (second.devices n other).trans (first.devices n other),
    fun p other => (second.nodes p other).trans (first.nodes p other)⟩

theorem createActiveDevice_keeps {name : String} {table : List Target} {dev : Nat}
    (named : name ∈ names) (created : env.createActiveDevice k₁ name table = .ok (k₂, dev)) :
    k₁.Keeps names paths k₂ := by
  obtain ⟨-, holds, -, -, rfl⟩ := createActiveDevice_eq_ok created
  exact ⟨fun n other => AList.lookup_insert_ne fun same => other (same ▸ named), fun _ _ => rfl⟩

theorem removeDevice_keeps {name : String} (named : name ∈ names)
    (removed : env.removeDevice k₁ name = .ok k₂) : k₁.Keeps names paths k₂ := by
  obtain ⟨-, rfl⟩ := removeDevice_eq_ok removed
  exact ⟨fun n other => AList.lookup_erase_ne fun same => other (same ▸ named), fun _ _ => rfl⟩

theorem mknod_keeps {path : String} {dev : Nat} (at_path : path ∈ paths)
    (made : env.mknod k₁ path dev = .ok k₂) : k₁.Keeps names paths k₂ := by
  obtain ⟨-, rfl⟩ := mknod_eq_ok made
  exact ⟨fun _ _ => rfl, fun p other => AList.lookup_insert_ne fun same => other (same ▸ at_path)⟩

theorem unlink_keeps {path : String} (at_path : path ∈ paths)
    (unlinked : env.unlink k₁ path = .ok k₂) : k₁.Keeps names paths k₂ := by
  obtain ⟨-, rfl⟩ := unlink_eq_ok unlinked
  exact ⟨fun _ _ => rfl, fun p other => AList.lookup_erase_ne fun same => other (same ▸ at_path)⟩

theorem ignoring_keeps {r : Except Errno Kernel} (kept : ∀ k₂, r = .ok k₂ → k₁.Keeps names paths k₂) :
    k₁.Keeps names paths (ignoring k₁ r) := by
  cases r with
  | error err => exact .refl k₁
  | ok k₂ => exact kept k₂ rfl

theorem passingNotExist_keeps {wrap : Errno → CryptUnmapError} {r : Except Errno Kernel}
    (kept : ∀ k₂, r = .ok k₂ → k₁.Keeps names paths k₂)
    (passed : passingNotExist k₁ wrap r = .ok k₂) : k₁.Keeps names paths k₂ := by
  cases r with
  | ok k => exact kept k₂ (Except.ok.inj passed ▸ rfl)
  | error err =>
    simp only [passingNotExist] at passed
    split_ifs at passed
    cases passed
    exact .refl k₁

end Keeps

section Stack

variable (env : Env) (name baseName : String) (key : List UInt8)

theorem integrityDMName_mem_cryptNames : integrityDMName name ∈ cryptNames name := by
  simp [cryptNames]

theorem mem_cryptNames : name ∈ cryptNames name := by simp [cryptNames]

theorem integrityDevName_mem_cryptPaths : integrityDevName name ∈ cryptPaths name := by
  simp [cryptPaths]

theorem cryptDevName_mem_cryptPaths : cryptDevName name ∈ cryptPaths name := by simp [cryptPaths]

theorem cryptMap_keeps (journal : Bool) (k : Kernel) :
    k.Keeps (cryptNames name) (cryptPaths name) (cryptMap env name baseName key journal k).1 := by
  have nameI := integrityDMName_mem_cryptNames name
  have nameC := mem_cryptNames name
  have pathI := integrityDevName_mem_cryptPaths name
  have pathC := cryptDevName_mem_cryptPaths name
  unfold cryptMap
  split
  · exact .refl k
  split
  · exact .refl k
  next k₁ dI created =>
  have keep₁ : k.Keeps (cryptNames name) (cryptPaths name) k₁ := createActiveDevice_keeps nameI created
  split
  · exact keep₁.trans ((ignoring_keeps fun _ => unlink_keeps pathI).trans
      (ignoring_keeps fun _ => removeDevice_keeps nameI))
  next k₂ made =>
  have keep₂ := keep₁.trans (mknod_keeps pathI made)
  split
  · exact keep₂.trans ((ignoring_keeps fun _ => unlink_keeps pathI).trans
      (ignoring_keeps fun _ => removeDevice_keeps nameI))
  next k₃ dC created' =>
  have keep₃ := keep₂.trans (createActiveDevice_keeps nameC created')
  split
  · exact keep₃.trans ((ignoring_keeps fun _ => unlink_keeps pathC).trans
      ((ignoring_keeps fun _ => removeDevice_keeps nameC).trans
        ((ignoring_keeps fun _ => unlink_keeps pathI).trans
          (ignoring_keeps fun _ => removeDevice_keeps nameI))))
  next k₄ made' => exact keep₃.trans (mknod_keeps pathC made')

theorem cryptUnmap_keeps (k : Kernel) :
    k.Keeps (cryptNames name) (cryptPaths name) (cryptUnmap env name k).1 := by
  have nameI := integrityDMName_mem_cryptNames name
  have nameC := mem_cryptNames name
  have pathI := integrityDevName_mem_cryptPaths name
  have pathC := cryptDevName_mem_cryptPaths name
  unfold cryptUnmap
  split
  · exact .refl k
  next k₁ passed₁ =>
  have keep₁ : k.Keeps (cryptNames name) (cryptPaths name) k₁ :=
    passingNotExist_keeps (fun _ => unlink_keeps pathI) passed₁
  split
  · exact keep₁
  next k₂ unlinked =>
  have keep₂ := keep₁.trans (unlink_keeps pathC unlinked)
  split
  · exact keep₂
  next k₃ passed₃ =>
  have keep₃ := keep₂.trans (passingNotExist_keeps (fun _ => removeDevice_keeps nameC) passed₃)
  split
  · exact keep₃
  next k₄ passed₄ =>
  exact keep₃.trans (passingNotExist_keeps (fun _ => removeDevice_keeps nameI) passed₄)

theorem cryptInitOn_keeps (outside : Outside) (fuel : Nat) (k : Kernel) :
    ∀ r ∈ cryptInitOn env outside name baseName key fuel k,
      k.Keeps (cryptNames name) (cryptPaths name) r.1 := by
  have nameI := integrityDMName_mem_cryptNames name
  intro r ran
  rw [Option.mem_def] at ran
  unfold cryptInitOn at ran
  split at ran
  · cases ran; exact .refl k
  split at ran
  · cases ran; exact .refl k
  split at ran
  · cases ran; exact .refl k
  next k₁ dev created =>
  have keep₁ : k.Keeps (cryptNames name) (cryptPaths name) k₁ := createActiveDevice_keeps nameI created
  split at ran
  · cases ran; exact keep₁
  next k₂ removed =>
  have keep₂ := keep₁.trans (removeDevice_keeps nameI removed)
  have keep₃ := keep₂.trans (cryptMap_keeps env name baseName key false k₂)
  split at ran
  next k₃ err mapped => rw [mapped] at keep₃; cases ran; exact keep₃
  next k₃ mapped =>
  rw [mapped] at keep₃
  split at ran
  · cases ran; exact keep₃
  split at ran
  · cases ran
  · cases ran; exact keep₃
  have keep₄ := keep₃.trans (cryptUnmap_keeps env name k₃)
  split at ran
  next k₄ err unmapped => rw [unmapped] at keep₄; cases ran; exact keep₄
  next k₄ unmapped =>
  rw [unmapped] at keep₄
  have keep₅ := keep₄.trans (cryptMap_keeps env name baseName key true k₄)
  split at ran
  next k₅ err remapped => rw [remapped] at keep₅; cases ran; exact keep₅
  next k₅ remapped => rw [remapped] at keep₅; cases ran; exact keep₅

/-- `cryptMap`, `cryptUnmap` and `CryptInit` keep every other device and inode. -/
theorem crypt_keeps_other_entries (outside : Outside) (journal : Bool) (fuel : Nat) (k : Kernel) :
    k.Keeps (cryptNames name) (cryptPaths name) (cryptMap env name baseName key journal k).1 ∧
      k.Keeps (cryptNames name) (cryptPaths name) (cryptUnmap env name k).1 ∧
      ∀ r ∈ cryptInitOn env outside name baseName key fuel k,
        k.Keeps (cryptNames name) (cryptPaths name) r.1 :=
  ⟨cryptMap_keeps env name baseName key journal k, cryptUnmap_keeps env name k,
    cryptInitOn_keeps env name baseName key outside fuel k⟩

end Stack

end Monogon.Localstorage.Crypt
