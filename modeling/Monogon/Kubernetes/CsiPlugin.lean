import Monogon.Path
import Monogon.Blockdev

/-! The node server of the CSI plugin: `NodePublishVolume` and `NodeExpandVolume`, the two
handlers that open or mount the backing file of a volume at
`filepath.Join(VolumesDirectory, req.VolumeId)`, `NodeUnpublishVolume`, which undoes a
publication, and `NodeGetVolumeStats`, which reports a volume's quota. The file system, loop
device and quota calls are operations whose outcomes the model takes as given.
`NodePublishVolume` checks the volume ID against `acceptableNames` first, so its backing file is
an entry of the volumes directory; `NodeExpandVolume` joins the ID unchecked. A failed
`NodePublishVolume` removes the loop device or the mount it made, unless that cleanup fails. -/

namespace Monogon.Kubernetes
open Monogon.Path
open Monogon.Blockdev (int64OfUInt64 int64OfUInt64_sub)

/-- A character of `[a-z0-9-.]`. -/
def nameChar (c : Char) : Bool :=
  c.isLower || c.isDigit || c == '-' || c == '.'

/-- `acceptableNames.MatchString`, for `^[a-z][a-z0-9-.]{0,128}[a-z0-9]$`. -/
def acceptableNames (id : List Char) : Bool :=
  match id with
  | first :: second :: rest =>
    let last := (second :: rest).getLast (List.cons_ne_nil second rest)
    first.isLower && decide ((second :: rest).dropLast.length ≤ 128) &&
      (second :: rest).dropLast.all nameChar && (last.isLower || last.isDigit)
  | _ => false

/-- `codes.Code`, the codes the handlers return. -/
inductive Code where
  | invalidArgument
  | notFound
  | internal
  | unavailable
deriving DecidableEq, Repr

/-- A `status.Error`. -/
structure Status where
  code : Code
  message : String
deriving DecidableEq, Repr

/-- The calls the handlers make on the node's file system and loop devices. -/
inductive Operation where
  | mkdirAll (path : List Char)
  /-- `unix.Mount(source, target, "", unix.MS_BIND, "")`. -/
  | bindMount (source target : List Char)
  /-- The same with `unix.MS_REMOUNT|unix.MS_RDONLY`. -/
  | remountReadOnly (source target : List Char)
  | unmount (target : List Char)
  /-- `os.OpenFile(path, os.O_RDWR, 0)`. -/
  | openFile (path : List Char)
  /-- `loop.Create` on the opened file, with `loop.FlagReadOnly` when `readOnly`. -/
  | createLoop (readOnly : Bool)
  | loopDev
  | removeLoop
  | mknod (path : List Char)
  | openLoop (path : List Char)
  /-- `unix.Fallocate` on the file opened at `path`. -/
  | fallocate (path : List Char) (size : Int)
  | refreshSize
  | setQuota (path : List Char) (bytes : Int)
deriving DecidableEq, Repr

/-- The file an operation opens, bind-mounts or allocates, if any. -/
def Operation.backingFile? : Operation → Option (List Char)
  | .bindMount source _ => some source
  | .remountReadOnly source _ => some source
  | .openFile path => some path
  | .fallocate path _ => some path
  | _ => none

/-- The text of `unix.ENOENT`. -/
def enoent : String := "no such file or directory"

/-- `csi.VolumeCapability_AccessMode_Mode`. -/
inductive AccessMode where
  | singleNodeWriter
  | singleNodeReaderOnly
  | other (mode : Int)
deriving DecidableEq, Repr

/-- The `AccessType` of a `csi.VolumeCapability`. -/
inductive AccessType where
  | mount
  | block
  | unset
deriving DecidableEq, Repr

/-- The fields of a `csi.NodePublishVolumeRequest` the handler reads. -/
structure NodePublishVolumeRequest where
  volumeId : List Char
  targetPath : List Char
  accessMode : AccessMode
  accessType : AccessType
  readonly : Bool
deriving DecidableEq, Repr

/-- The fields of a `csi.NodeExpandVolumeRequest` the handler reads. -/
structure NodeExpandVolumeRequest where
  volumeId : List Char
  volumePath : List Char
  limitBytes : Int
deriving DecidableEq, Repr

/-- The `*csi.VolumeCapability_Mount` branch of `NodePublishVolume`. -/
def publishMount (outcome : Operation → Option String) (volumePath targetPath : List Char)
    (readonly : Bool) : List Operation × Except Status Unit :=
  match outcome (.bindMount volumePath targetPath) with
  | some err =>
    ([.bindMount volumePath targetPath],
      .error (if err = enoent then ⟨.notFound, "volume not found"⟩
        else ⟨.unavailable, s!"failed to bind-mount volume: {err}"⟩))
  | none =>
    if readonly then
      match outcome (.remountReadOnly volumePath targetPath) with
      | some err =>
        ([.bindMount volumePath targetPath, .remountReadOnly volumePath targetPath, .unmount targetPath],
          .error ⟨.unavailable, s!"failed to remount volume: {err}"⟩)
      | none => ([.bindMount volumePath targetPath, .remountReadOnly volumePath targetPath], .ok ())
    else ([.bindMount volumePath targetPath], .ok ())

/-- The `*csi.VolumeCapability_Block` branch of `NodePublishVolume`. -/
def publishBlock (outcome : Operation → Option String) (volumePath targetPath : List Char)
    (readonly : Bool) : List Operation × Except Status Unit :=
  match outcome (.openFile volumePath) with
  | some err => ([.openFile volumePath], .error ⟨.unavailable, s!"failed to open block volume: {err}"⟩)
  | none =>
    match outcome (.createLoop readonly) with
    | some err =>
      ([.openFile volumePath, .createLoop readonly],
        .error ⟨.unavailable, s!"failed to create loop device: {err}"⟩)
    | none =>
      match outcome .loopDev with
      | some err =>
        ([.openFile volumePath, .createLoop readonly, .loopDev, .removeLoop],
          .error ⟨.internal, s!"device number not available: {err}"⟩)
      | none =>
        match outcome (.mknod targetPath) with
        | some err =>
          ([.openFile volumePath, .createLoop readonly, .loopDev, .mknod targetPath, .removeLoop],
            .error ⟨.unavailable, s!"failed to create device node at target path: {err}"⟩)
        | none => ([.openFile volumePath, .createLoop readonly, .loopDev, .mknod targetPath], .ok ())

/-- `csiPluginServer.NodePublishVolume`: the operations made and the result. -/
def nodePublishVolume (volumesDirectory : List Char) (outcome : Operation → Option String)
    (req : NodePublishVolumeRequest) : List Operation × Except Status Unit :=
  if !acceptableNames req.volumeId then
    ([], .error ⟨.invalidArgument, "invalid characters in volume id"⟩)
  else
    let volumePath := join volumesDirectory req.volumeId
    match req.accessMode with
    | .other _ => ([], .error ⟨.invalidArgument, "unsupported access mode"⟩)
    | _ =>
      match outcome (.mkdirAll req.targetPath) with
      | some err =>
        ([.mkdirAll req.targetPath],
          .error ⟨.internal, s!"unable to create requested target path: {err}"⟩)
      | none =>
        let published := match req.accessType with
          | .mount => publishMount outcome volumePath req.targetPath req.readonly
          | .block => publishBlock outcome volumePath req.targetPath req.readonly
          | .unset => ([], .error ⟨.invalidArgument, "unsupported access type"⟩)
        (.mkdirAll req.targetPath :: published.1, published.2)

/-- `csiPluginServer.NodeExpandVolume`: the operations made and the capacity returned. -/
def nodeExpandVolume (volumesDirectory : List Char) (outcome : Operation → Option String)
    (req : NodeExpandVolumeRequest) : List Operation × Except Status Int :=
  if req.limitBytes ≤ 0 then
    ([], .error ⟨.invalidArgument, "invalid expanded volume size: at or below zero bytes"⟩)
  else
    match outcome (.openLoop req.volumePath) with
    | none =>
      let volumePath := join volumesDirectory req.volumeId
      let opened := [.openLoop req.volumePath, .openFile volumePath]
      match outcome (.openFile volumePath) with
      | some err =>
        (opened, .error ⟨.unavailable, s!"failed to open block volume backing file: {err}"⟩)
      | none =>
        match outcome (.fallocate volumePath req.limitBytes) with
        | some err =>
          (opened ++ [.fallocate volumePath req.limitBytes],
            .error ⟨.unavailable, s!"failed to expand volume using fallocate: {err}"⟩)
        | none =>
          let expanded := opened ++ [.fallocate volumePath req.limitBytes, .refreshSize]
          match outcome .refreshSize with
          | some err => (expanded, .error ⟨.unavailable, s!"failed to refresh loop device size: {err}"⟩)
          | none => (expanded, .ok req.limitBytes)
    | some _ =>
      match outcome (.setQuota req.volumePath req.limitBytes) with
      | some err =>
        ([.openLoop req.volumePath, .setQuota req.volumePath req.limitBytes],
          .error ⟨.unavailable, s!"failed to update quota: {err}"⟩)
      | none => ([.openLoop req.volumePath, .setQuota req.volumePath req.limitBytes], .ok req.limitBytes)

/-- `csiPluginServer.NodeUnpublishVolume`, given the results of its calls. -/
def nodeUnpublishVolume (loopOpened : Bool) (removeLoop : Option String)
    (removeInode : Option (Bool × String)) (unmount : Option String) : Except Status Unit :=
  if loopOpened then
    match removeLoop with
    | some err => .error ⟨.unavailable, s!"failed to remove loop device: {err}"⟩
    | none =>
      match removeInode with
      | some (false, err) => .error ⟨.unavailable, s!"failed to remove device inode: {err}"⟩
      | _ => .ok ()
  else
    match unmount with
    | some err => .error ⟨.unavailable, s!"failed to unmount volume: {err}"⟩
    | none => .ok ()

/-- `csi.VolumeUsage_Unit`. -/
inductive UsageUnit where
  | bytes
  | inodes
deriving DecidableEq, Repr

/-- A `csi.VolumeUsage`. -/
structure VolumeUsage where
  total : Int
  unit : UsageUnit
  used : Int
  available : Int
deriving DecidableEq, Repr

/-- `fsquota.Quota` (not in the sources), with the fields `NodeGetVolumeStats` reads. -/
structure Quota where
  bytes : UInt64
  bytesUsed : UInt64
  inodes : UInt64
  inodesUsed : UInt64
deriving DecidableEq, Repr

/-- The errors of `fsquota.GetQuota`, by whether `os.IsNotExist` holds of them. -/
inductive GetQuotaError where
  | notExist
  | other (text : String)
deriving DecidableEq, Repr

/-- The usage `NodeGetVolumeStats` reports of a limit and what is used of it. -/
def volumeUsage (unit : UsageUnit) (limit used : UInt64) : VolumeUsage :=
  ⟨int64OfUInt64 limit, unit, int64OfUInt64 used, int64OfUInt64 (limit - used)⟩

/-- `csiPluginServer.NodeGetVolumeStats`, given what `fsquota.GetQuota` returned. -/
def nodeGetVolumeStats (quota : Except GetQuotaError Quota) : Except Status (List VolumeUsage) :=
  match quota with
  | .error .notExist => .error ⟨.notFound, "volume does not exist at this path"⟩
  | .error (.other err) => .error ⟨.unavailable, s!"failed to get quota: {err}"⟩
  | .ok quota =>
    .ok [volumeUsage .bytes quota.bytes quota.bytesUsed,
      volumeUsage .inodes quota.inodes quota.inodesUsed]

/-! ## The backing files the handlers touch -/

theorem plainName_of_acceptableNames {id : List Char} (accepted : acceptableNames id = true) :
    PlainName id := by
  match id, accepted with
  | first :: second :: rest, accepted =>
    simp only [acceptableNames, Bool.and_eq_true, Bool.or_eq_true, decide_eq_true_eq,
      List.all_eq_true] at accepted
    obtain ⟨⟨⟨lower, -⟩, middle⟩, last⟩ := accepted
    have noSlash : ∀ c ∈ first :: second :: rest, c ≠ '/' := by
      rw [← List.dropLast_append_getLast (List.cons_ne_nil second rest)]
      intro c member
      simp only [List.mem_cons, List.mem_append, List.not_mem_nil, or_false] at member
      rcases member with rfl | inner | rfl
      · rintro rfl
        exact absurd lower (by decide)
      · rintro rfl
        exact absurd (middle _ inner) (by decide)
      · intro slash
        rw [slash] at last
        rcases last with last | last <;> exact absurd last (by decide)
    refine ⟨List.cons_ne_nil _ _, by simp, ?_, fun member => noSlash _ member rfl⟩
    rintro ⟨⟩
    exact absurd lower (by decide)

theorem publishMount_backingFile {outcome : Operation → Option String}
    {volumePath targetPath : List Char} {readonly : Bool} :
    ∀ op ∈ (publishMount outcome volumePath targetPath readonly).1,
      ∀ path, op.backingFile? = some path → path = volumePath := by
  unfold publishMount
  repeat' split
  all_goals simp only [List.forall_mem_cons, List.not_mem_nil, Operation.backingFile?, true_and,
    Option.some.injEq, reduceCtorEq, false_implies, implies_true, forall_eq', and_true]

theorem publishBlock_backingFile {outcome : Operation → Option String}
    {volumePath targetPath : List Char} {readonly : Bool} :
    ∀ op ∈ (publishBlock outcome volumePath targetPath readonly).1,
      ∀ path, op.backingFile? = some path → path = volumePath := by
  unfold publishBlock
  repeat' split
  all_goals simp only [List.forall_mem_cons, List.not_mem_nil, Operation.backingFile?, true_and,
    Option.some.injEq, reduceCtorEq, false_implies, implies_true, forall_eq', and_true]

/-- Every file `NodePublishVolume` opens or bind-mounts is `VolumesDirectory/VolumeId`. -/
theorem nodePublishVolume_backingFile (volumesDirectory : List Char)
    (outcome : Operation → Option String) (req : NodePublishVolumeRequest) :
    ∀ op ∈ (nodePublishVolume volumesDirectory outcome req).1, ∀ path,
      op.backingFile? = some path → path = child (clean volumesDirectory) req.volumeId := by
  unfold nodePublishVolume
  cases accepted : acceptableNames req.volumeId
  · simp
  · rw [← join_plain volumesDirectory (plainName_of_acceptableNames accepted)]
    simp only [Bool.not_true, Bool.false_eq_true, if_false]
    split
    · simp
    · split
      · simp [Operation.backingFile?]
      · intro op member path backing
        rcases List.mem_cons.mp member with rfl | member
        · simp [Operation.backingFile?] at backing
        · split at member
          · exact publishMount_backingFile op member path backing
          · exact publishBlock_backingFile op member path backing
          · simp at member

theorem nodePublishVolume_backingFile_mount :
    let req : NodePublishVolumeRequest :=
      ⟨"pvc-1".toList, "/kubelet/pods/x".toList, .singleNodeWriter, .mount, false⟩
    let op := Operation.bindMount "/data/volumes/pvc-1".toList "/kubelet/pods/x".toList
    op ∈ (nodePublishVolume "/data/volumes".toList (fun _ => none) req).1 ∧
      op.backingFile? = some "/data/volumes/pvc-1".toList ∧
      "/data/volumes/pvc-1".toList = child (clean "/data/volumes".toList) req.volumeId := by
  intro req op
  have member : op ∈ (nodePublishVolume "/data/volumes".toList (fun _ => none) req).1 := by decide
  exact ⟨member, rfl, nodePublishVolume_backingFile _ _ req op member _ rfl⟩

/-- `NodeExpandVolume` with the volume ID `../../etc/shadow` opens and allocates `/etc/shadow`. -/
theorem nodeExpandVolume_opens_outside_volumes :
    ((nodeExpandVolume "/data/volumes".toList (fun _ => none)
        ⟨"../../etc/shadow".toList, "/dev/vda".toList, 1⟩).1.filterMap Operation.backingFile? =
      ["/etc/shadow".toList, "/etc/shadow".toList]) ∧
    acceptableNames "../../etc/shadow".toList = false := by
  decide

/-! ## Volume statistics -/

/-- `Used` plus `Available` is `Total` modulo 2^64, and exactly for counts that are not negative. -/
theorem nodeGetVolumeStats_adds_up (quota : Quota) :
    ∃ usage, nodeGetVolumeStats (.ok quota) = .ok usage ∧
      usage.map (·.unit) = [.bytes, .inodes] ∧
      ∀ u ∈ usage, (u.used + u.available) % 18446744073709551616 = u.total % 18446744073709551616 ∧
        (0 ≤ u.total → 0 ≤ u.used → u.used + u.available = u.total) := by
  refine ⟨_, rfl, rfl, ?_⟩
  simp only [List.mem_cons, List.mem_singleton, List.not_mem_nil, or_false]
  rintro u (rfl | rfl) <;> exact int64OfUInt64_sub _ _

/-! ## What a publication leaves -/

/-- Whether the operations leave a loop device: one created, and no `RemoveLoop` that succeeded. -/
def leavesLoop (outcome : Operation → Option String) (ops : List Operation) : Bool :=
  ops.any (fun op => match op with
    | .createLoop _ => (outcome op).isNone
    | _ => false) && !ops.any (fun op => match op with
    | .removeLoop => (outcome op).isNone
    | _ => false)

/-- Whether the operations leave a bind mount: one made, and no `Unmount` that succeeded. -/
def leavesMount (outcome : Operation → Option String) (ops : List Operation) : Bool :=
  ops.any (fun op => match op with
    | .bindMount _ _ => (outcome op).isNone
    | _ => false) && !ops.any (fun op => match op with
    | .unmount _ => (outcome op).isNone
    | _ => false)

@[simp] theorem leavesLoop_mkdirAll {outcome : Operation → Option String} {path : List Char}
    {ops : List Operation} : leavesLoop outcome (.mkdirAll path :: ops) = leavesLoop outcome ops := by
  simp [leavesLoop]

@[simp] theorem leavesMount_mkdirAll {outcome : Operation → Option String} {path : List Char}
    {ops : List Operation} : leavesMount outcome (.mkdirAll path :: ops) = leavesMount outcome ops := by
  simp [leavesMount]

end Monogon.Kubernetes
