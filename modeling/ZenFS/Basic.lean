import Mathlib.Algebra.Order.Ring.Rat

set_option autoImplicit false

/- Shared vocabulary of the model of `fs/zbd_zenfs.cc`: statuses, lifetime hints, the
lifetime distance `GetLifeTimeDiff`, and the wrapping arithmetic of the fixed-width fields.
Offsets, capacities and sizes are `uint64_t`, reset counters `uint32_t`; both are kept as
`Nat` below the width, and every operation that can wrap goes through `add64`, `sub64`,
`add32`, `sub32` or `mul32`. -/
namespace ZenFS

/-- RocksDB's `IOStatus`: OK, or an error kind with its message. -/
inductive IOStatus where
  | ok
  | notFound (msg : String)
  | corruption (msg : String)
  | notSupported (msg : String)
  | invalidArgument (msg : String)
  | ioError (msg : String)
  | noSpace (msg : String)
  deriving DecidableEq, Repr

/-- `IOStatus::ok()`. -/
def IOStatus.isOk : IOStatus → Bool
  | .ok => true
  | _ => false

@[simp] theorem IOStatus.isOk_ok : IOStatus.ok.isOk = true := rfl

theorem IOStatus.eq_ok_of_isOk {s : IOStatus} (success : s.isOk = true) : s = .ok := by
  cases s <;> simp_all [IOStatus.isOk]

/-- `Env::WriteLifeTimeHint`, in the order of its numeric values 0..5. -/
inductive WriteLifeTimeHint where
  | wlthNotSet
  | wlthNone
  | wlthShort
  | wlthMedium
  | wlthLong
  | wlthExtreme
  deriving DecidableEq, Repr

def WriteLifeTimeHint.toNat : WriteLifeTimeHint → Nat
  | .wlthNotSet => 0
  | .wlthNone => 1
  | .wlthShort => 2
  | .wlthMedium => 3
  | .wlthLong => 4
  | .wlthExtreme => 5

theorem WriteLifeTimeHint.toNat_injective {a b : WriteLifeTimeHint}
    (same : a.toNat = b.toNat) : a = b := by
  cases a <;> cases b <;> simp_all [WriteLifeTimeHint.toNat]

/-- RocksDB's `IOType`; the allocator only asks whether it is `kWAL`. -/
inductive IOType where
  | kData
  | kFilter
  | kIndex
  | kMetadata
  | kWAL
  | kManifest
  | kLog
  | kUnknown
  | kInvalid
  deriving DecidableEq, Repr

/-- `LIFETIME_DIFF_NOT_GOOD`. -/
def lifetimeDiffNotGood : Nat := 100

/-- `LIFETIME_DIFF_COULD_BE_WORSE`. -/
def lifetimeDiffCouldBeWorse : Nat := 50

/-- `ZENFS_META_ZONES`. -/
def zenfsMetaZones : Nat := 3

/-- `ZENFS_MIN_ZONES`. -/
def zenfsMinZones : Nat := 32

/-- `GetLifeTimeDiff`: how well a zone's lifetime hint suits a file's. -/
def getLifeTimeDiff (zoneLifetime fileLifetime : WriteLifeTimeHint) : Nat :=
  if fileLifetime = .wlthNotSet ∨ fileLifetime = .wlthNone then
    if fileLifetime = zoneLifetime then 0 else lifetimeDiffNotGood
  else if zoneLifetime.toNat > fileLifetime.toNat then zoneLifetime.toNat - fileLifetime.toNat
  else if zoneLifetime = fileLifetime then lifetimeDiffCouldBeWorse
  else lifetimeDiffNotGood

theorem getLifeTimeDiff_le (zoneLifetime fileLifetime : WriteLifeTimeHint) :
    getLifeTimeDiff zoneLifetime fileLifetime ≤ lifetimeDiffNotGood := by
  cases zoneLifetime <;> cases fileLifetime <;> decide

/-- `uint64_t` addition. -/
def add64 (a b : Nat) : Nat := (a + b) % 2 ^ 64

/-- `uint64_t` subtraction, wrapping below zero. -/
def sub64 (a b : Nat) : Nat := (a + 2 ^ 64 - b % 2 ^ 64) % 2 ^ 64

/-- `uint64_t` multiplication. -/
def mul64 (a b : Nat) : Nat := a * b % 2 ^ 64

/-- `uint32_t` addition. -/
def add32 (a b : Nat) : Nat := (a + b) % 2 ^ 32

/-- `uint32_t` subtraction, wrapping below zero. -/
def sub32 (a b : Nat) : Nat := (a + 2 ^ 32 - b % 2 ^ 32) % 2 ^ 32

/-- `uint32_t` multiplication. -/
def mul32 (a b : Nat) : Nat := a * b % 2 ^ 32

theorem add64_of_lt {a b : Nat} (fits : a + b < 2 ^ 64) : add64 a b = a + b := by
  unfold add64; omega

theorem sub64_of_le {a b : Nat} (below : a < 2 ^ 64) (order : b ≤ a) : sub64 a b = a - b := by
  unfold sub64; omega

theorem add64_lt (a b : Nat) : add64 a b < 2 ^ 64 := Nat.mod_lt _ (Nat.two_pow_pos 64)

theorem sub64_lt (a b : Nat) : sub64 a b < 2 ^ 64 := Nat.mod_lt _ (Nat.two_pow_pos 64)

theorem add64_add64 (a b c : Nat) : add64 (add64 a b) c = add64 a (b + c) := by
  unfold add64; omega

theorem sub64_sub64 (a b c : Nat) : sub64 (sub64 a b) c = sub64 a (b + c) := by
  unfold sub64; omega

/-- Moving a write pointer up and the capacity down by the same amount keeps their
`uint64_t` sum. -/
theorem add64_add64_sub64 (wp capacity n : Nat) :
    add64 (add64 wp n) (sub64 capacity n) = add64 wp capacity := by
  unfold add64 sub64; omega

theorem add64_zero {a : Nat} (below : a < 2 ^ 64) : add64 a 0 = a := add64_of_lt below

theorem sub64_zero {a : Nat} (below : a < 2 ^ 64) : sub64 a 0 = a := by
  unfold sub64; omega

theorem add32_of_lt {a b : Nat} (fits : a + b < 2 ^ 32) : add32 a b = a + b := by
  unfold add32; omega

theorem sub32_of_le {a b : Nat} (below : a < 2 ^ 32) (order : b ≤ a) : sub32 a b = a - b := by
  unfold sub32; omega

/-- A `uint32_t` difference taken the wrong way round comes out at least `2^32 - b`. -/
theorem sub32_of_lt {a b : Nat} (below : b < 2 ^ 32) (order : a < b) :
    sub32 a b = 2 ^ 32 + a - b := by
  unfold sub32; omega

end ZenFS
