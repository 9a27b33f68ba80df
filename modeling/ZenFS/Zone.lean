import ZenFS.Basic

set_option autoImplicit false

/- The `Zone` class of `fs/zbd_zenfs.cc`: its fields, the predicates the allocator reads,
and the operations a zone performs on itself (`Finish`, `Close`, `Append`, the field
updates of `Reset`). Backend answers are inputs. The device counters that `Reset` and
`Append` also touch are updated in `ZenFS.Device`. -/
namespace ZenFS

/-- One entry of the backend's zone listing, as `ZoneStart`, `ZoneMaxCapacity`, `ZoneWp`,
`ZoneIsSwr`, `ZoneIsOffline`, `ZoneIsWritable`, `ZoneIsActive` and `ZoneIsOpen` report it. -/
structure ZoneListing where
  start : Nat
  maxCapacity : Nat
  wp : Nat
  isSwr : Bool
  isOffline : Bool
  isWritable : Bool
  isActive : Bool
  isOpen : Bool
  deriving DecidableEq, Repr

/-- The fields of a `Zone` that the core reads or writes. -/
structure Zone where
  start : Nat
  maxCapacity : Nat
  wp : Nat
  capacity : Nat
  usedCapacity : Nat
  lifetime : WriteLifeTimeHint
  resetCount : Nat
  busy : Bool
  deriving DecidableEq, Repr

/-- What the backend must report for a listed zone. The sums are the code's `uint64_t`
sums, so `wp ≤ start + zone size` also says that the zone ends inside the address space. -/
structure ZoneListing.Sane (zoneSize : Nat) (e : ZoneListing) : Prop where
  start_lt : e.start < 2 ^ 64
  zoneSize_lt : zoneSize < 2 ^ 64
  start_le_wp : e.start ≤ e.wp
  wp_le_end : e.wp ≤ add64 e.start zoneSize
  writable : e.isWritable = true → e.wp - e.start ≤ e.maxCapacity ∧ e.maxCapacity ≤ zoneSize

namespace Zone

/-- `Zone::Zone`: a zone as listed, idle, with nothing live and no resets. -/
def ofListing (e : ZoneListing) : Zone where
  start := e.start
  maxCapacity := e.maxCapacity
  wp := e.wp
  capacity := if e.isWritable then sub64 e.maxCapacity (sub64 e.wp e.start) else 0
  usedCapacity := 0
  lifetime := .wlthNotSet
  resetCount := 0
  busy := false

/-- `Zone::IsUsed`. -/
def isUsed (z : Zone) : Bool := decide (0 < z.usedCapacity)

/-- `Zone::IsFull`. -/
def isFull (z : Zone) : Bool := decide (z.capacity = 0)

/-- `Zone::IsEmpty`. -/
def isEmpty (z : Zone) : Bool := decide (z.wp = z.start)

@[simp] theorem isUsed_iff (z : Zone) : z.isUsed = true ↔ 0 < z.usedCapacity := by
  simp [isUsed]

@[simp] theorem isFull_iff (z : Zone) : z.isFull = true ↔ z.capacity = 0 := by
  simp [isFull]

@[simp] theorem isEmpty_iff (z : Zone) : z.isEmpty = true ↔ z.wp = z.start := by
  simp [isEmpty]

/-- The zone with its `busy_` flag set to `busy`. -/
def setBusy (z : Zone) (busy : Bool) : Zone := { z with busy := busy }

@[simp] theorem setBusy_start (z : Zone) (b : Bool) : (z.setBusy b).start = z.start := rfl
@[simp] theorem setBusy_maxCapacity (z : Zone) (b : Bool) :
    (z.setBusy b).maxCapacity = z.maxCapacity := rfl
@[simp] theorem setBusy_wp (z : Zone) (b : Bool) : (z.setBusy b).wp = z.wp := rfl
@[simp] theorem setBusy_capacity (z : Zone) (b : Bool) : (z.setBusy b).capacity = z.capacity := rfl
@[simp] theorem setBusy_usedCapacity (z : Zone) (b : Bool) :
    (z.setBusy b).usedCapacity = z.usedCapacity := rfl
@[simp] theorem setBusy_lifetime (z : Zone) (b : Bool) : (z.setBusy b).lifetime = z.lifetime := rfl
@[simp] theorem setBusy_resetCount (z : Zone) (b : Bool) :
    (z.setBusy b).resetCount = z.resetCount := rfl
@[simp] theorem setBusy_busy (z : Zone) (b : Bool) : (z.setBusy b).busy = b := rfl
@[simp] theorem setBusy_setBusy (z : Zone) (b b' : Bool) : (z.setBusy b).setBusy b' = z.setBusy b' :=
  rfl

theorem setBusy_of_busy {z : Zone} {b : Bool} (same : z.busy = b) : z.setBusy b = z := by
  cases z; simp_all [setBusy]

/-- Modelled from the spec: `Zone::Acquire`, declared in the header, which is not under
src/ ("atomic compare-and-set of busy from false to true"). -/
def acquire (z : Zone) : Option Zone := if z.busy then none else some (z.setBusy true)

/-- Modelled from the spec: `Zone::Release`, declared in the header ("clears busy; fails
only if it was not held"). -/
def release (z : Zone) : Option Zone := if z.busy then some (z.setBusy false) else none

/-- `Zone::Finish` on the zone, given the backend's answer to `Finish(start_)`. -/
def finish (zoneSize : Nat) (answer : IOStatus) (z : Zone) : IOStatus × Zone :=
  if answer.isOk then (.ok, { z with capacity := 0, wp := add64 z.start zoneSize })
  else (answer, z)

/-- `Zone::Close`: the backend is asked to close the zone only when it is partly written.
The zone's fields do not change. -/
def close (answer : IOStatus) (z : Zone) : IOStatus :=
  if !(z.isEmpty || z.isFull) then (if answer.isOk then .ok else answer) else .ok

/-- The field updates of `Zone::Reset` once the backend reset succeeded, reporting whether
the zone went offline and its new maximum capacity. -/
def resetFields (offline : Bool) (maxCapacity : Nat) (z : Zone) : Zone :=
  { z with
    maxCapacity := if offline then z.maxCapacity else maxCapacity
    capacity := if offline then 0 else maxCapacity
    wp := z.start
    lifetime := .wlthNotSet
    resetCount := add32 z.resetCount 1 }

/-- `Zone::SetResetCount`. -/
def setResetCount (resetCount : Nat) (z : Zone) : Zone := { z with resetCount := resetCount }

/-- `Zone::GetZoneReclaimableSpace`. -/
def getZoneReclaimableSpace (z : Zone) : Nat :=
  if z.isFull then sub64 z.maxCapacity z.usedCapacity
  else sub64 (sub64 z.wp z.start) z.usedCapacity

@[simp] theorem finish_busy (zoneSize : Nat) (answer : IOStatus) (z : Zone) :
    (z.finish zoneSize answer).2.busy = z.busy := by
  unfold finish; split <;> rfl

@[simp] theorem finish_fst_isOk (zoneSize : Nat) (answer : IOStatus) (z : Zone) :
    (z.finish zoneSize answer).1.isOk = answer.isOk := by
  unfold finish; split <;> simp_all

theorem finish_setBusy (zoneSize : Nat) (answer : IOStatus) (z : Zone) (b : Bool) :
    (z.setBusy b).finish zoneSize answer =
      ((z.finish zoneSize answer).1, (z.finish zoneSize answer).2.setBusy b) := by
  unfold finish; split <;> rfl

theorem finish_of_not_ok {zoneSize : Nat} {answer : IOStatus} (failed : answer.isOk = false)
    (z : Zone) : z.finish zoneSize answer = (answer, z) := by
  simp [finish, failed]

theorem finish_of_ok {zoneSize : Nat} {answer : IOStatus} (success : answer.isOk = true)
    (z : Zone) : z.finish zoneSize answer =
      (.ok, { z with capacity := 0, wp := add64 z.start zoneSize }) := by
  simp [finish, success]

@[simp] theorem resetFields_busy (offline : Bool) (maxCapacity : Nat) (z : Zone) :
    (z.resetFields offline maxCapacity).busy = z.busy := rfl

@[simp] theorem resetFields_usedCapacity (offline : Bool) (maxCapacity : Nat) (z : Zone) :
    (z.resetFields offline maxCapacity).usedCapacity = z.usedCapacity := rfl

@[simp] theorem resetFields_start (offline : Bool) (maxCapacity : Nat) (z : Zone) :
    (z.resetFields offline maxCapacity).start = z.start := rfl

@[simp] theorem resetFields_wp (offline : Bool) (maxCapacity : Nat) (z : Zone) :
    (z.resetFields offline maxCapacity).wp = z.start := rfl

/-- One `Write(ptr, left, wp_)` call of the append loop: buffer position, length, offset. -/
structure WriteCall where
  bufPos : Nat
  length : Nat
  offset : Nat
  deriving DecidableEq, Repr

/-- What `Zone::Append` leaves: its status, the zone, the bytes it passed to
`AddBytesWritten`, and the `Write` calls it made, in order. -/
structure Appended where
  status : IOStatus
  zone : Zone
  written : Nat
  calls : List WriteCall
  deriving Repr

/-- The `while (left)` loop of `Zone::Append`. The answers are the backend's returns to
successive `Write` calls: `.error msg` for a negative return with `strerror(errno) = msg`,
`.ok n` for `n` bytes written. `none`: the loop asks for more answers than were given. -/
def appendLoop : Zone → Nat → Nat → List (Except String Nat) → Option Appended
  | z, _, 0, _ => some ⟨.ok, z, 0, []⟩
  | _, _, _ + 1, [] => none
  | z, ptr, left + 1, .error msg :: _ => some ⟨.ioError msg, z, 0, [⟨ptr, left + 1, z.wp⟩]⟩
  | z, ptr, left + 1, .ok ret :: rest =>
    (appendLoop { z with wp := add64 z.wp ret, capacity := sub64 z.capacity ret }
        (ptr + ret) (sub32 (left + 1) ret) rest).map
      fun r => { r with written := ret + r.written, calls := ⟨ptr, left + 1, z.wp⟩ :: r.calls }

/-- `Zone::Append(data, size)`. The block-size `assert` is compiled out of release builds. -/
def append (size : Nat) (answers : List (Except String Nat)) (z : Zone) : Option Appended :=
  if z.capacity < size then some ⟨.noSpace "Not enough capacity for append", z, 0, []⟩
  else appendLoop z 0 size answers

/-- The backend's write contract: each `Write` returns `-1` or at most the length asked. -/
def WritesWithin : Nat → List (Except String Nat) → Prop
  | 0, _ => True
  | _, [] => True
  | _, .error _ :: _ => True
  | left + 1, .ok n :: rest => n ≤ left + 1 ∧ WritesWithin (left + 1 - n) rest

/-- The zone invariant. Its last two fields are what keeps every `uint64_t` update of the
zone in range: `wp_ += ret` and `capacity_ -= ret` in `Append`, and `start_ + zone size` in
`Finish`, never wrap. -/
structure Valid (zoneSize : Nat) (z : Zone) : Prop where
  start_le_wp : z.start ≤ z.wp
  capacity_le : z.capacity ≤ z.maxCapacity
  written : 0 < z.capacity → z.wp - z.start + z.capacity = z.maxCapacity
  room : z.wp + z.capacity ≤ z.start + zoneSize
  end_lt : z.start + zoneSize < 2 ^ 64

theorem Valid.wp_le_end {zoneSize : Nat} {z : Zone} (valid : z.Valid zoneSize) :
    z.wp ≤ z.start + zoneSize := by
  have := valid.room; omega

/-- The invariant reads only the geometry: start, write pointer and capacities. -/
theorem Valid.congr {zoneSize : Nat} {z z' : Zone} (valid : z.Valid zoneSize)
    (start : z'.start = z.start) (wp : z'.wp = z.wp) (capacity : z'.capacity = z.capacity)
    (maxCapacity : z'.maxCapacity = z.maxCapacity) : z'.Valid zoneSize := by
  obtain ⟨h1, h2, h3, h4, h5⟩ := valid
  exact ⟨by omega, by omega, by rw [start, wp, capacity, maxCapacity]; exact h3, by omega,
    by omega⟩

theorem valid_ofListing {zoneSize : Nat} {e : ZoneListing} (sane : e.Sane zoneSize) :
    (ofListing e).Valid zoneSize := by
  obtain ⟨hs, hz, h1, h2, hw⟩ := sane
  have fits : e.start + zoneSize < 2 ^ 64 := by unfold add64 at h2; omega
  rw [add64_of_lt fits] at h2
  by_cases writable : e.isWritable = true
  · obtain ⟨w1, w2⟩ := hw writable
    have wpLt : e.wp < 2 ^ 64 := by omega
    have maxLt : e.maxCapacity < 2 ^ 64 := by omega
    have capacity : (ofListing e).capacity = e.maxCapacity - (e.wp - e.start) := by
      simp only [ofListing, writable, if_true, sub64_of_le wpLt h1, sub64_of_le maxLt w1]
    constructor <;> (try rw [capacity]) <;> dsimp only [ofListing] <;> omega
  · constructor <;> simp [ofListing, writable] <;> omega

theorem Valid.finish {zoneSize : Nat} {z : Zone} (valid : z.Valid zoneSize) (answer : IOStatus) :
    (z.finish zoneSize answer).2.Valid zoneSize := by
  unfold Zone.finish
  split
  · obtain ⟨_, _, _, _, h5⟩ := valid
    constructor <;> simp only [add64_of_lt h5] <;> omega
  · exact valid

theorem Valid.resetFields {zoneSize : Nat} {z : Zone} (valid : z.Valid zoneSize)
    (offline : Bool) (maxCapacity : Nat) (fits : maxCapacity ≤ zoneSize) :
    (z.resetFields offline maxCapacity).Valid zoneSize := by
  have h5 := valid.end_lt
  cases offline <;> constructor <;> simp [Zone.resetFields] <;> try omega

/-- One `Write` that returns `ret ≤ left ≤ capacity_` moves the write pointer and the
capacity by exactly `ret`, with no wrap, and keeps the zone valid. -/
theorem Valid.write {zoneSize : Nat} {z : Zone} (valid : z.Valid zoneSize) {ret : Nat}
    (within : ret ≤ z.capacity) :
    add64 z.wp ret = z.wp + ret ∧ sub64 z.capacity ret = z.capacity - ret ∧
      Valid zoneSize { z with wp := z.wp + ret, capacity := z.capacity - ret } := by
  obtain ⟨h1, h2, h3, h4, h5⟩ := valid
  refine ⟨add64_of_lt (by omega), sub64_of_le (by omega) within, ?_⟩
  constructor <;> dsimp only <;> omega

/-- The append loop, under the write contract, on a valid zone with `left ≤ capacity_`:
the zone comes out valid, moved by exactly the bytes written, and nothing else changes. -/
theorem appendLoop_spec {zoneSize : Nat} (answers : List (Except String Nat)) :
    ∀ (z : Zone) (ptr left : Nat) (r : Appended), z.Valid zoneSize → left ≤ z.capacity →
      left < 2 ^ 32 → WritesWithin left answers → appendLoop z ptr left answers = some r →
      r.written ≤ left ∧
        r.zone = { z with wp := z.wp + r.written, capacity := z.capacity - r.written } ∧
        r.zone.Valid zoneSize := by
  intro z ptr left
  induction z, ptr, left, answers using appendLoop.induct with
  | case1 =>
    intro r valid _ _ _ run
    rw [appendLoop] at run
    cases run
    exact ⟨le_refl 0, by simp, valid⟩
  | case2 => intro r _ _ _ _ run; cases run
  | case3 => intro r valid _ _ _ run; cases run; exact ⟨Nat.zero_le _, by simp, valid⟩
  | case4 z ptr left ret rest ih =>
    intro r valid enough small ⟨within, contract⟩ run
    obtain ⟨wpEq, capEq, valid'⟩ := valid.write (le_trans within enough)
    obtain ⟨r', run', rfl⟩ := Option.map_eq_some'.mp run
    rw [wpEq, capEq, sub32_of_le small within] at ih run'
    obtain ⟨bound, shape, validR⟩ := ih r' valid' (by simp; omega) (by omega) contract run'
    refine ⟨by dsimp only; omega, ?_, validR⟩
    simp only [shape, Zone.mk.injEq, Nat.add_assoc, Nat.sub_sub, and_self]

/-- `Zone::Append` writes only the zone's write pointer and capacity. -/
theorem appendLoop_zone (answers : List (Except String Nat)) :
    ∀ (z : Zone) (ptr left : Nat) (r : Appended), appendLoop z ptr left answers = some r →
      ∃ wp capacity, r.zone = { z with wp := wp, capacity := capacity } := by
  intro z ptr left
  induction z, ptr, left, answers using appendLoop.induct with
  | case1 => intro r run; rw [appendLoop] at run; cases run; exact ⟨_, _, rfl⟩
  | case2 => intro r run; cases run
  | case3 => intro r run; cases run; exact ⟨_, _, rfl⟩
  | case4 z ptr left ret rest ih =>
    intro r run
    obtain ⟨r', run', rfl⟩ := Option.map_eq_some'.mp run
    exact ih r' run'

theorem append_zone {z : Zone} {size : Nat} {answers : List (Except String Nat)} {r : Appended}
    (run : z.append size answers = some r) :
    ∃ wp capacity, r.zone = { z with wp := wp, capacity := capacity } := by
  unfold Zone.append at run
  split at run
  · cases run; exact ⟨_, _, rfl⟩
  · exact appendLoop_zone answers z 0 size r run

/-- `Zone::Append` leaves the busy flag alone. -/
theorem append_busy {z : Zone} {size : Nat} {answers : List (Except String Nat)} {r : Appended}
    (run : z.append size answers = some r) : r.zone.busy = z.busy := by
  obtain ⟨_, _, same⟩ := append_zone run
  rw [same]

/-- `Zone::Append` within the write contract keeps the zone valid. -/
theorem Valid.append {zoneSize : Nat} {z : Zone} (valid : z.Valid zoneSize) {size : Nat}
    {answers : List (Except String Nat)} {r : Appended} (small : size < 2 ^ 32)
    (within : WritesWithin size answers) (run : z.append size answers = some r) :
    r.zone.Valid zoneSize := by
  unfold Zone.append at run
  split at run
  · cases run; exact valid
  · exact (appendLoop_spec answers z 0 size r valid (by omega) small within run).2.2

end Zone

end ZenFS
