import Mathlib.Data.Nat.BitIndices
import Monogon.Localstorage.Crypt

/-! The Linux part of the blockdev package: `Device`, over a block device, and `File`, over a
regular file, with the `ioctl(2)` and `fallocate(2)` calls their methods make through
`RawConn.Control`. The results of those calls are inputs.

An `error` in Go is an interface value, and `==` on it compares the dynamic type and value: an
`error` holding `unix.Errno(0)` is not `nil`. `unix.Fallocate` returns `nil` on success, while
`unix.Syscall` returns a `unix.Errno`, zero on success. The model keeps the dynamic value an
`error` holds, so that each comparison comes out as Go computes it. -/

namespace Monogon.Blockdev

open Monogon.Localstorage.Crypt (Errno)

/-- `unix.EINVAL`. -/
def einval : Errno := ⟨22⟩

/-- `unix.ENOTTY`. -/
def enotty : Errno := ⟨25⟩

/-- `unix.ENOSYS`. -/
def enosys : Errno := ⟨38⟩

/-- `unix.EOPNOTSUPP`. -/
def eopnotsupp : Errno := ⟨95⟩

/-- A value of Go's `error` interface, by its dynamic value. -/
inductive GoError where
  | nil
  | errno (e : Errno)
  | errUnsupported
  | errNotBlockDevice
  | wrapped (text : String) (err : GoError)
  | other (text : String)
deriving DecidableEq, Repr

/-- `errors.Is(err, target)` for the `Errno` targets this file passes. -/
def GoError.is (err target : GoError) : Bool :=
  err == target ||
    match err with
    | .wrapped _ inner => inner.is target
    | _ => false

/-- `unix.Fallocate`: `nil` when the call returned no errno, the `Errno` otherwise. -/
def fallocate (errno : Errno) : GoError :=
  if errno = ⟨0⟩ then .nil else .errno errno

/-! ## `Device` and `File` methods

Each method's `RawConn.Control` runs its callback on an open descriptor and returns `nil`, or
returns its error, `controlErr`, without running it. -/

/-- `Device.Discard`: its `err` is a `unix.Errno`, the errno of the `BLKDISCARD` ioctl. -/
def Device.discard (controlErr : Option String) (ioctl : Errno) : GoError :=
  match controlErr with
  | some err => .other err
  | none =>
    if ioctl = eopnotsupp then .errUnsupported
    else if ioctl ≠ ⟨0⟩ then .wrapped "failed to discard" (.errno ioctl)
    else .nil

/-- `Device.Zero`. -/
def Device.zero (controlErr : Option String) (punchHole blkZeroOut : Errno) : GoError :=
  match controlErr with
  | some err => .other err
  | none =>
    let err := fallocate punchHole
    let err :=
      if err = .errno eopnotsupp then
        if GoError.errno blkZeroOut = .errno ⟨0⟩ then .nil else .errno blkZeroOut
      else err
    if err ≠ .nil then .wrapped "failed to zero out" err else .nil

/-- `Device.RefreshPartitionTable`. -/
def Device.refreshPartitionTable (controlErr : Option String) (ioctl : Errno) : GoError :=
  match controlErr with
  | some err => .other err
  | none => if ioctl ≠ ⟨0⟩ then .wrapped "ioctl(BLKRRPART)" (.errno ioctl) else .nil

/-- `File.Discard`: the `unix.Fallocate` error compared with `unix.Errno(0)`. -/
def File.discard (controlErr : Option String) (punchHole : Errno) : GoError :=
  match controlErr with
  | some err => .other err
  | none =>
    let err := fallocate punchHole
    if err.is (.errno eopnotsupp) then .errUnsupported
    else if err ≠ .errno ⟨0⟩ then .wrapped "failed to discard" err
    else .nil

/-- `File.Zero`; `GenericZero` (not in the sources) returns `genericZero`. -/
def File.zero (controlErr : Option String) (punchHole : Errno) (genericZero : GoError) : GoError :=
  match controlErr with
  | some err => .other err
  | none =>
    let err := fallocate punchHole
    if err.is (.errno eopnotsupp) || err.is (.errno enosys) then genericZero
    else if err ≠ .nil then .wrapped "failed to zero out" err
    else .nil

/-! ## `FromFileHandle` and `CreateFile` -/

/-- What `FromFileHandle` gets from its calls on the handle. -/
structure Handle where
  syscallConn : Option String
  controlRuns : Bool
  blkSszGet : Except Errno UInt32
  blkGetSize64 : Errno × UInt64

/-- The fields of a `Device` its methods read. -/
structure Device where
  blockSize : Int
  blockCount : Int
deriving DecidableEq, Repr

/-- `int64(x)` for a `uint64` `x`. -/
def int64OfUInt64 (x : UInt64) : Int :=
  if x.toNat < 9223372036854775808 then x.toNat else x.toNat - 18446744073709551616

/-- `FromFileHandle`; `none` when it panics, dividing by a block size of zero. -/
def fromFileHandle (h : Handle) : Option (Except GoError Device) :=
  match h.syscallConn with
  | some err => some (.error (.wrapped "error getting SyscallConn" (.other err)))
  | none =>
    let (blockSize, err) : UInt32 × GoError :=
      if h.controlRuns then
        match h.blkSszGet with
        | .ok size => (size, .nil)
        | .error errno => (0, .errno errno)
      else (0, .nil)
    if err.is (.errno enotty) || err.is (.errno einval) then some (.error .errNotBlockDevice)
    else if err ≠ .nil then some (.error (.wrapped "when querying disk block size" err))
    else
      let (sizeBytes, getSizeErr) : UInt64 × GoError :=
        if h.controlRuns then
          (if h.blkGetSize64.1 = ⟨0⟩ then h.blkGetSize64.2 else 0, .errno h.blkGetSize64.1)
        else (0, .nil)
      if getSizeErr ≠ .errno ⟨0⟩ then
        some (.error (.wrapped "when querying disk block count" err))
      else if blockSize = 0 then none
      else
        let remainder := sizeBytes % blockSize.toUInt64
        if remainder ≠ 0 then
          some (.error (.other
            s!"block device size is not an integer multiple of its block size ({sizeBytes} % {blockSize} = {remainder})"))
        else some (.ok ⟨blockSize.toNat, (int64OfUInt64 sizeBytes).tdiv blockSize.toNat⟩)

/-- `Open` (named `openDevice`, `open` being a keyword): the error of `os.OpenFile`, or what `FromFileHandle` makes of the handle. -/
def openDevice (openErr : Option String) (h : Handle) : Option (Except GoError Device) :=
  match openErr with
  | some err => some (.error (.wrapped "failed to open block device" (.other err)))
  | none => fromFileHandle h

/-- The fields of a `File` its methods read. -/
structure File where
  blockSize : Int
  blockCount : Int
deriving DecidableEq, Repr

/-- `uint64(x)` for an `int64` `x`. -/
def uint64OfInt64 (x : Int) : Nat := (x % 18446744073709551616).toNat

/-- `bits.OnesCount64`: the number of one bits. -/
def onesCount64 (x : Nat) : Nat := x.bitIndices.length

/-- `CreateFile`, given the errors of `os.Create` and of `SyscallConn`, if any. -/
def createFile (blockSize blockCount : Int) (createErr syscallConnErr : Option String) :
    Except GoError File :=
  if blockSize < 512 then .error (.other "blockSize must be bigger than 512 bytes")
  else if onesCount64 (uint64OfInt64 blockSize) ≠ 1 then
    .error (.other "blockSize must be a power of two")
  else
    match createErr with
    | some err => .error (.wrapped "when creating backing file" (.other err))
    | none =>
      match syscallConnErr with
      | some err => .error (.wrapped "unable to get SyscallConn" (.other err))
      | none => .ok ⟨blockSize, blockCount⟩

/-! ## `FromFileHandle` -/

theorem fromFileHandle_eq_ok {h : Handle} {d : Device} (made : fromFileHandle h = some (.ok d)) :
    h.syscallConn = none ∧ h.controlRuns = true ∧ h.blkGetSize64.1 = ⟨0⟩ ∧
      ∃ blockSize : UInt32, h.blkSszGet = .ok blockSize ∧ blockSize ≠ 0 ∧
        h.blkGetSize64.2 % blockSize.toUInt64 = 0 ∧
        d = ⟨blockSize.toNat, (int64OfUInt64 h.blkGetSize64.2).tdiv blockSize.toNat⟩ := by
  obtain ⟨conn, runs, sszGet, errno, size⟩ := h
  cases conn with
  | some err => simp [fromFileHandle] at made
  | none =>
  cases runs with
  | false => simp [fromFileHandle, GoError.is] at made
  | true =>
  cases sszGet with
  | error e =>
    simp [fromFileHandle, GoError.is] at made
    split_ifs at made <;> simp at made
  | ok blockSize =>
    simp [fromFileHandle, GoError.is] at made
    split_ifs at made with zero empty divides <;> simp at made
    obtain rfl := made
    exact ⟨rfl, rfl, zero, blockSize, rfl, empty, by simpa [zero] using divides, by simp [zero]⟩

/-- The blocks of a device `FromFileHandle` returns cover the size `BLKGETSIZE64` gave, below 2^63 bytes. -/
theorem fromFileHandle_geometry {h : Handle} {d : Device} (made : fromFileHandle h = some (.ok d)) :
    0 < d.blockSize ∧
      (h.blkGetSize64.2.toNat < 9223372036854775808 →
        d.blockSize * d.blockCount = h.blkGetSize64.2.toNat) ∧
      (9223372036854775808 ≤ h.blkGetSize64.2.toNat → d.blockCount ≤ 0) := by
  obtain ⟨-, -, -, blockSize, -, nonzero, divides, rfl⟩ := fromFileHandle_eq_ok made
  have positive : 0 < blockSize.toNat := Nat.pos_of_ne_zero fun zero =>
    nonzero (UInt32.eq_of_toBitVec_eq (BitVec.eq_of_toNat_eq zero))
  have multiple : blockSize.toNat ∣ h.blkGetSize64.2.toNat :=
    Nat.dvd_of_mod_eq_zero (by simpa using congrArg UInt64.toNat divides)
  refine ⟨Int.natCast_pos.mpr positive, fun fits => ?_, fun wraps => ?_⟩
  · simp only [int64OfUInt64, fits, if_true]
    exact Int.mul_tdiv_cancel' (Int.natCast_dvd_natCast.mpr multiple)
  · have below : h.blkGetSize64.2.toNat < 18446744073709551616 := h.blkGetSize64.2.toNat_lt_size
    simp only [int64OfUInt64, not_lt.mpr wraps, if_false]
    obtain ⟨n, negative⟩ : ∃ n : Nat,
        (h.blkGetSize64.2.toNat : Int) - 18446744073709551616 = -n :=
      ⟨18446744073709551616 - h.blkGetSize64.2.toNat, by omega⟩
    rw [negative, Int.neg_tdiv]
    exact Int.neg_nonpos_of_nonneg (Int.tdiv_nonneg (Int.natCast_nonneg _) (Int.natCast_nonneg _))

theorem fromFileHandle_geometry_sectors :
    fromFileHandle ⟨none, true, .ok 512, (⟨0⟩, 4096)⟩ = some (.ok ⟨512, 8⟩) ∧
      0 < (512 : Int) ∧ ((4096 : UInt64).toNat < 9223372036854775808 → (512 : Int) * 8 = (4096 : UInt64).toNat) ∧
      (9223372036854775808 ≤ (4096 : UInt64).toNat → (8 : Int) ≤ 0) := by
  have made : fromFileHandle ⟨none, true, .ok 512, (⟨0⟩, 4096)⟩ = some (.ok ⟨512, 8⟩) := by rfl
  exact ⟨made, fromFileHandle_geometry made⟩

/-! ## `int64` of `uint64` -/

theorem uint64_toNat_sub (x y : UInt64) :
    (x - y).toNat = (18446744073709551616 - y.toNat + x.toNat) % 18446744073709551616 := by
  show (x.toBitVec - y.toBitVec).toNat = _
  rw [BitVec.toNat_sub]
  rfl

theorem int64OfUInt64_sub (x y : UInt64) :
    (int64OfUInt64 y + int64OfUInt64 (x - y)) % 18446744073709551616 =
        int64OfUInt64 x % 18446744073709551616 ∧
      (0 ≤ int64OfUInt64 x → 0 ≤ int64OfUInt64 y →
        int64OfUInt64 y + int64OfUInt64 (x - y) = int64OfUInt64 x) := by
  have sub := uint64_toNat_sub x y
  have boundX := x.toNat_lt_size
  have boundY := y.toNat_lt_size
  have boundD := (x - y).toNat_lt_size
  simp only [UInt64.size] at boundX boundY boundD
  unfold int64OfUInt64
  split_ifs <;> omega

/-! ## `CreateFile` -/

theorem length_bitIndices_eq_one_iff (n : Nat) : n.bitIndices.length = 1 ↔ ∃ k, n = 2 ^ k := by
  constructor
  · intro single
    obtain ⟨k, indices⟩ := List.length_eq_one.mp single
    exact ⟨k, by simpa [indices] using (Nat.twoPowSum_bitIndices n).symm⟩
  · rintro ⟨k, rfl⟩
    simp

theorem le_two_pow_iff {k : Nat} : 512 ≤ 2 ^ k ↔ 9 ≤ k := by
  rw [show 512 = 2 ^ 9 from rfl]
  exact Nat.pow_le_pow_iff_right (by decide)

/-- `CreateFile` accepts exactly the block sizes that are powers of two from 512 on. -/
theorem createFile_eq_ok_iff {blockSize : Int} (blockCount : Int)
    (int64 : blockSize < 9223372036854775808) :
    (∃ file, createFile blockSize blockCount none none = .ok file) ↔
      ∃ k, 9 ≤ k ∧ blockSize = 2 ^ k := by
  by_cases small : blockSize < 512
  · simp only [createFile, small, if_true]
    constructor
    · rintro ⟨file, ⟨⟩⟩
    · rintro ⟨k, big, rfl⟩
      have : (512 : Int) ≤ 2 ^ k := by exact_mod_cast le_two_pow_iff.mpr big
      omega
  · obtain ⟨n, rfl⟩ : ∃ n : Nat, blockSize = n := ⟨blockSize.toNat, by omega⟩
    have unsigned : uint64OfInt64 n = n := by
      unfold uint64OfInt64
      rw [Int.emod_eq_of_lt (by omega) (by omega)]
      rfl
    have powers : (∃ k, 9 ≤ k ∧ (n : Int) = 2 ^ k) ↔ ∃ k, n = 2 ^ k := by
      constructor
      · rintro ⟨k, -, power⟩
        exact ⟨k, by exact_mod_cast power⟩
      · rintro ⟨k, rfl⟩
        exact ⟨k, le_two_pow_iff.mp (by exact_mod_cast not_lt.mp small), by push_cast; rfl⟩
    rw [powers, ← length_bitIndices_eq_one_iff]
    simp only [createFile, small, if_false, unsigned, onesCount64]
    split_ifs with single <;> simp_all

theorem createFile_eq_ok_iff_4096 :
    (4096 : Int) < 9223372036854775808 ∧
      ((∃ file, createFile 4096 16 none none = .ok file) ↔ ∃ k, 9 ≤ k ∧ (4096 : Int) = 2 ^ k) :=
  ⟨by decide, createFile_eq_ok_iff 16 (by decide)⟩

end Monogon.Blockdev
