import Mathlib.Data.List.Basic

/-! `CryptInit` of the crypt package. It wipes the integrity partition's header, creates and
removes a discovery integrity device, maps the device without a journal, zeroes the mapped
device, and remaps it with a journal. The zeroing loop writes a buffer of `blockSize*256` bytes,
`blockSize` being what the `BLKSSZGET` ioctl returned, until a write fails with `ENOSPC`.

The file opens, the devicemapper calls, `cryptMap`, `cryptUnmap` and the ioctl are results the
model takes as given. A write follows `os.File.Write` on a block device: `poll.FD.Write` repeats
`write(2)` until the buffer is written or a call fails, and the block device answers an empty
write with no bytes and no error before it looks at the offset. -/

namespace Monogon.Localstorage.Crypt

/-- A `syscall.Errno`. -/
structure Errno where
  code : Nat
deriving DecidableEq, Repr

/-- `syscall.ENOSPC`. -/
def enospc : Errno := ⟨28⟩

/-- The value `unix.IoctlGetUint32` returns: the stored size, or zero when the ioctl failed. -/
def blockSizeOf : Except Errno UInt32 → UInt32
  | .ok size => size
  | .error _ => 0

/-- `len(zeroedBuf)` for `make([]byte, blockSize*256)`, the product taken in `uint32`. -/
def zeroedBufLength (blockSize : UInt32) : Nat :=
  (blockSize * 256).toNat

/-- `blkdev.Write` of `len` bytes at `pos` of a device of `capacity` bytes, `failure` its I/O error. -/
def write (capacity pos len : Nat) (failure : Option Errno) : Nat × Option Errno :=
  if len = 0 then (0, none)
  else match failure with
    | some err => (0, some err)
    | none =>
      if capacity ≤ pos then (0, some enospc)
      else if len ≤ capacity - pos then (len, none)
      else (capacity - pos, some enospc)

/-- The zeroing loop from `pos` for at most `fuel` iterations; `none` while it is running. -/
def zero (capacity len : Nat) (failure : Nat → Option Errno) :
    Nat → Nat → Nat → Option (Except Errno Unit)
  | 0, _, _ => none
  | fuel + 1, i, pos =>
    match write capacity pos len (failure i) with
    | (_, some err) => if err = enospc then some (.ok ()) else some (.error err)
    | (n, none) => zero capacity len failure fuel (i + 1) (pos + n)

/-- The results of the calls `CryptInit` makes besides its writes to the mapped device. -/
structure Backend where
  /-- `os.OpenFile(baseName, os.O_WRONLY, 0)` -/
  openPartition : Except String Unit
  /-- the write of 4096 zero bytes over the integrity header -/
  wipeHeader : Except String Unit
  /-- `devicemapper.CreateActiveDevice` of the discovery integrity device -/
  createDiscovery : Except String Unit
  /-- `devicemapper.RemoveDevice` of the discovery integrity device -/
  removeDiscovery : Except String Unit
  /-- `cryptMap(name, baseName, encryptionKey, false)` -/
  mapWithoutJournal : Except String Unit
  /-- `os.OpenFile("/dev/"+name, unix.O_DIRECT|os.O_WRONLY, 0000)` -/
  openDevice : Except String Unit
  /-- `unix.IoctlGetUint32(fd, unix.BLKSSZGET)` -/
  blkSszGet : Except Errno UInt32
  /-- the size of the mapped device in bytes -/
  capacity : Nat
  /-- the I/O error of each write to the mapped device, if any -/
  failure : Nat → Option Errno
  /-- `cryptUnmap(name, baseName)` -/
  unmap : Except String Unit
  /-- `cryptMap(name, baseName, encryptionKey, true)` -/
  mapWithJournal : Except String Unit

/-- The errors `CryptInit` returns. -/
inductive CryptInitError where
  /-- an error of `os.OpenFile` on the partition or of `cryptMap`, returned as it is -/
  | external (err : String)
  /-- "failed to wipe header: %w" -/
  | wipeHeader (err : String)
  /-- "failed to create discovery integrity device: %w" -/
  | createDiscovery (err : String)
  /-- "failed to remove discovery integrity device: %w" -/
  | removeDiscovery (err : String)
  /-- "failed to open new encrypted device for zeroing: %w" -/
  | openForZeroing (err : String)
  /-- "failed to zero-initalize new encrypted device: %w" -/
  | zeroInitialize (err : Errno)
  /-- "failed to unmap temporary encrypted block device: %w" -/
  | unmapTemporary (err : String)
  /-- "failed to map initialized encrypted device: %w" -/
  | mapInitialized (err : String)
deriving DecidableEq, Repr

/-- `CryptInit` up to its zeroing loop. -/
def prepare (b : Backend) : Except CryptInitError Unit := do
  b.openPartition.mapError .external
  b.wipeHeader.mapError .wipeHeader
  b.createDiscovery.mapError .createDiscovery
  b.removeDiscovery.mapError .removeDiscovery
  b.mapWithoutJournal.mapError .external
  b.openDevice.mapError .openForZeroing

/-- `CryptInit` after its zeroing loop. -/
def remap (b : Backend) : Except CryptInitError Unit := do
  b.unmap.mapError .unmapTemporary
  b.mapWithJournal.mapError .mapInitialized

/-- `CryptInit`, its zeroing loop run for at most `fuel` iterations; `none` while it is running. -/
def cryptInit (b : Backend) (fuel : Nat) : Option (Except CryptInitError Unit) :=
  match prepare b with
  | .error err => some (.error err)
  | .ok () =>
    match zero b.capacity (zeroedBufLength (blockSizeOf b.blkSszGet)) b.failure fuel 0 0 with
    | none => none
    | some (.error err) => some (.error (.zeroInitialize err))
    | some (.ok ()) => some (remap b)

/-! ## The buffer -/

theorem zeroedBufLength_eq (blockSize : UInt32) :
    zeroedBufLength blockSize = blockSize.toNat * 256 % 4294967296 := by
  show (blockSize.toBitVec * 256#32).toNat = _
  rw [BitVec.toNat_mul]
  rfl

theorem zeroedBufLength_eq_zero_iff (blockSize : UInt32) :
    zeroedBufLength blockSize = 0 ↔ blockSize.toNat % 16777216 = 0 := by
  rw [zeroedBufLength_eq]
  omega

theorem zeroedBufLength_blockSizeOf_error (err : Errno) :
    zeroedBufLength (blockSizeOf (.error err)) = 0 := by
  show zeroedBufLength 0 = 0
  decide

/-! ## Progress of the loop -/

theorem write_eq_none {capacity pos len n : Nat} {failure : Option Errno} (nonempty : len ≠ 0)
    (wrote : write capacity pos len failure = (n, none)) :
    failure = none ∧ n = len ∧ len ≤ capacity - pos := by
  unfold write at wrote
  rw [if_neg nonempty] at wrote
  cases failure with
  | some err => cases wrote
  | none =>
    simp only at wrote
    split_ifs at wrote with full fits <;> simp only [Prod.mk.injEq, reduceCtorEq, and_false] at wrote
    exact ⟨rfl, wrote.1.symm, fits⟩

theorem write_decreases {capacity pos len n : Nat} {failure : Option Errno} (nonempty : len ≠ 0)
    (wrote : write capacity pos len failure = (n, none)) :
    capacity - (pos + n) < capacity - pos := by
  obtain ⟨-, rfl, fits⟩ := write_eq_none nonempty wrote
  omega

theorem zero_empty (capacity : Nat) (failure : Nat → Option Errno) :
    ∀ fuel i pos, zero capacity 0 failure fuel i pos = none
  | 0, _, _ => rfl
  | fuel + 1, i, pos => by
    simp only [zero, write, if_true]
    exact zero_empty capacity failure fuel (i + 1) (pos + 0)

theorem zero_returns {capacity len : Nat} (failure : Nat → Option Errno) (nonempty : len ≠ 0) :
    ∀ fuel i pos, capacity - pos < fuel → ∃ r, zero capacity len failure fuel i pos = some r
  | 0, _, _, enough => absurd enough (Nat.not_lt_zero _)
  | fuel + 1, i, pos, enough => by
    unfold zero
    match wrote : write capacity pos len (failure i) with
    | (_, some err) =>
      dsimp only
      split <;> exact ⟨_, rfl⟩
    | (n, none) =>
      have shorter := write_decreases nonempty wrote
      exact zero_returns failure nonempty fuel (i + 1) (pos + n) (by omega)

/-! ## `CryptInit` -/

/-- A `CryptInit` that reaches its loop with an empty buffer never returns. -/
theorem cryptInit_never_returns_of_empty_buffer (b : Backend) (prepared : prepare b = .ok ())
    (empty : zeroedBufLength (blockSizeOf b.blkSszGet) = 0) (fuel : Nat) : cryptInit b fuel = none := by
  simp only [cryptInit, prepared, empty, zero_empty]

theorem cryptInit_never_returns_of_empty_buffer_enotty :
    let b : Backend := ⟨.ok (), .ok (), .ok (), .ok (), .ok (), .ok (), .error ⟨25⟩, 4096,
      fun _ => none, .ok (), .ok ()⟩
    prepare b = .ok () ∧ zeroedBufLength (blockSizeOf b.blkSszGet) = 0 ∧ cryptInit b 1000 = none := by
  intro b
  have empty := zeroedBufLength_blockSizeOf_error ⟨25⟩
  exact ⟨rfl, empty, cryptInit_never_returns_of_empty_buffer b rfl empty 1000⟩

/-- With a non-empty buffer `CryptInit` returns once the fuel exceeds the device's size. -/
theorem cryptInit_returns (b : Backend) (nonempty : zeroedBufLength (blockSizeOf b.blkSszGet) ≠ 0)
    (fuel : Nat) (enough : b.capacity < fuel) : ∃ r, cryptInit b fuel = some r := by
  unfold cryptInit
  split
  · exact ⟨_, rfl⟩
  · obtain ⟨r, ran⟩ := @zero_returns b.capacity _ b.failure nonempty fuel 0 0 (by omega)
    rw [ran]
    rcases r with err | ⟨⟩ <;> exact ⟨_, rfl⟩

theorem cryptInit_returns_512 :
    let b : Backend := ⟨.ok (), .ok (), .ok (), .ok (), .ok (), .ok (), .ok 512, 4096,
      fun _ => none, .ok (), .ok ()⟩
    zeroedBufLength (blockSizeOf b.blkSszGet) ≠ 0 ∧ b.capacity < 4097 ∧ ∃ r, cryptInit b 4097 = some r := by
  intro b
  have nonempty : zeroedBufLength (blockSizeOf b.blkSszGet) ≠ 0 := by decide
  have enough : b.capacity < 4097 := by decide
  exact ⟨nonempty, enough, cryptInit_returns b nonempty 4097 enough⟩

end Monogon.Localstorage.Crypt
