import ZenFS.Zone
import ZenFS.Double

set_option autoImplicit false

/- The `ZonedBlockDevice` state of `fs/zbd_zenfs.cc` and its small operations: zone
lookup, busy flags, open and active tokens, the deferred status latch, and the device side
of `Zone::Reset` with its wear-leveling trigger. Counters that are `std::atomic<long>` are
`Int`; the `uint32_t` reset counters wrap through `add32` and `sub32`. -/
namespace ZenFS

/-- The two zone vectors of a device. -/
inductive ZoneKind where
  | meta
  | io
  deriving DecidableEq, Repr

/-- What the model takes from outside during one device call: the backend's answers to
`Reset`, `Finish` and `Close` for the zone starting at a given offset. -/
structure Backend where
  reset : Nat → IOStatus × Bool × Nat
  finish : Nat → IOStatus
  close : Nat → IOStatus

/-- The wear-leveling members of `ZonedBlockDevice` that `Zone::Reset` reads and writes:
`total_reset_count_` and `check_reset_count_` (`uint32_t`), `reset_ratio_threshold_` (a
`double`), `wl_trigger_count_` and `wl_worker_sleep_`. -/
structure WearLeveling where
  totalResetCount : Nat
  checkResetCount : Nat
  resetRatioThreshold : Double
  wlTriggerCount : Int
  wlWorkerSleep : Bool

/-- The members of `ZonedBlockDevice` that the core reads or writes. -/
structure Device where
  metaZones : List Zone
  ioZones : List Zone
  zoneSize : Nat
  nrZones : Nat
  maxNrActiveIOZones : Nat
  maxNrOpenIOZones : Nat
  activeIOZones : Int
  openIOZones : Int
  finishThreshold : Nat
  zoneDeferredStatus : IOStatus
  migrating : Bool
  wl : WearLeveling

/-- `WakeupWLWorker`, on the wear-leveling members; the worker thread it notifies is not
modelled. -/
def WearLeveling.wakeupWLWorker (w : WearLeveling) : WearLeveling := { w with wlWorkerSleep := false }

namespace Device

def zones (d : Device) : ZoneKind → List Zone
  | .meta => d.metaZones
  | .io => d.ioZones

def setZones (d : Device) : ZoneKind → List Zone → Device
  | .meta, zs => { d with metaZones := zs }
  | .io, zs => { d with ioZones := zs }

/-- The zone a `Zone *` of the given vector points to. -/
def zone (d : Device) (k : ZoneKind) (i : Nat) : Option Zone := (d.zones k)[i]?

def setZone (d : Device) (k : ZoneKind) (i : Nat) (z : Zone) : Device :=
  d.setZones k ((d.zones k).set i z)

@[simp] theorem zones_setZones (d : Device) (k : ZoneKind) (zs : List Zone) :
    (d.setZones k zs).zones k = zs := by cases k <;> rfl

@[simp] theorem zones_setZones_of_ne (d : Device) {k k' : ZoneKind} (zs : List Zone)
    (other : k' ≠ k) : (d.setZones k zs).zones k' = d.zones k' := by
  cases k <;> cases k' <;> first | rfl | exact absurd rfl other

@[simp] theorem zones_meta (d : Device) : d.zones .meta = d.metaZones := rfl

@[simp] theorem zones_io (d : Device) : d.zones .io = d.ioZones := rfl

/-- `Zone::Acquire` on a zone of the device; `none` when the zone is busy. -/
def acquire (k : ZoneKind) (i : Nat) (d : Device) : Option Device :=
  (d.zone k i).bind fun z => z.acquire.map (d.setZone k i)

/-- `Zone::Release` where its result is ignored. -/
def release (k : ZoneKind) (i : Nat) (d : Device) : Device :=
  match (d.zone k i).bind Zone.release with
  | some z => d.setZone k i z
  | none => d

/-- The message of the `Corruption` status of `Zone::CheckRelease`. -/
def busyFlagMessage (d : Device) (z : Zone) : String :=
  "Failed to unset busy flag of zone " ++ toString (z.start / d.zoneSize)

/-- `Zone::CheckRelease`. -/
def checkRelease (k : ZoneKind) (i : Nat) (d : Device) : Except IOStatus Device :=
  match d.zone k i with
  | none => .ok d
  | some z =>
    match z.release with
    | some z' => .ok (d.setZone k i z')
    | none => .error (.corruption (d.busyFlagMessage z))

/-- `allocator_open_limit` of `WaitForOpenIOZoneToken`; `max_nr_open_io_zones_ - 1` is an
`unsigned int` subtraction. -/
def allocatorOpenLimit (prioritized : Bool) (maxNrOpenIOZones : Nat) : Int :=
  if prioritized then maxNrOpenIOZones else sub32 maxNrOpenIOZones 1

/-- The device with `open_io_zones_` set to `n`. -/
@[simps] def setOpenIOZones (n : Int) (d : Device) : Device := { d with openIOZones := n }

/-- The device with `active_io_zones_` set to `n`. -/
@[simps] def setActiveIOZones (n : Int) (d : Device) : Device := { d with activeIOZones := n }

/-- `WaitForOpenIOZoneToken`: takes a token when the count is below the caller's limit.
`none`: the wait cannot end, because in a run of one thread nothing returns a token. -/
def waitForOpenIOZoneToken (prioritized : Bool) (d : Device) : Option Device :=
  if d.openIOZones < allocatorOpenLimit prioritized d.maxNrOpenIOZones then
    some (d.setOpenIOZones (d.openIOZones + 1))
  else none

/-- `GetActiveIOZoneTokenIfAvailable`. -/
def getActiveIOZoneTokenIfAvailable (d : Device) : Bool × Device :=
  if d.activeIOZones < d.maxNrActiveIOZones then (true, d.setActiveIOZones (d.activeIOZones + 1))
  else (false, d)

/-- `PutOpenIOZoneToken`. -/
@[simps] def putOpenIOZoneToken (d : Device) : Device := { d with openIOZones := d.openIOZones - 1 }

/-- `PutActiveIOZoneToken`. -/
@[simps] def putActiveIOZoneToken (d : Device) : Device := { d with activeIOZones := d.activeIOZones - 1 }

/-- `GetZoneDeferredStatus`. -/
def getZoneDeferredStatus (d : Device) : IOStatus := d.zoneDeferredStatus

/-- `SetZoneDeferredStatus`. -/
def setZoneDeferredStatus (status : IOStatus) (d : Device) : Device :=
  if !d.zoneDeferredStatus.isOk then { d with zoneDeferredStatus := status } else d

/-- `GetMetaZoneResetCountNow`: a `uint32_t` sum. -/
def getMetaZoneResetCountNow (d : Device) : Nat :=
  d.metaZones.foldl (fun total z => add32 total z.resetCount) 0

/-- `GetIOZoneResetCountNow`: a `uint32_t` sum. -/
def getIOZoneResetCountNow (d : Device) : Nat :=
  d.ioZones.foldl (fun total z => add32 total z.resetCount) 0

/-- The loop of `SetIOZonesResetCount`: the `i`-th io zone takes the `i`-th count. -/
def setResetCounts : List Zone → List Nat → List Zone
  | z :: zs, n :: counts => z.setResetCount n :: setResetCounts zs counts
  | zs, [] => zs
  | [], _ :: _ => []

/-- `SetIOZonesResetCount`: every io zone takes its count from the array. An array shorter
than the io zones is read past its end, undefined in C++; the model's callers pass one count
per io zone. -/
def setIOZonesResetCount (counts : List Nat) (d : Device) : Device :=
  { d with ioZones := setResetCounts d.ioZones counts }

/-- `SleepWLWorker`. -/
def sleepWLWorker (d : Device) : Device := { d with wl := { d.wl with wlWorkerSleep := true } }

/-- `io_zones_reset_count` in `Zone::Reset`. -/
def ioZonesResetCount (d : Device) : Nat := sub32 d.wl.totalResetCount d.getMetaZoneResetCountNow

/-- `check_reset_count_` once `Zone::Reset` has raised it to at least `GetNrZones()`. -/
def flooredCheckResetCount (d : Device) : Nat :=
  if d.wl.checkResetCount < d.nrZones then d.nrZones else d.wl.checkResetCount

/-- `reset_count_diff` in `Zone::Reset`. -/
def resetCountDiff (d : Device) : Nat := sub32 d.ioZonesResetCount d.flooredCheckResetCount

/-- `GetResetCountStdDev`: the standard deviation of the io zones' reset counts around the
`uint32_t` mean `GetIOZoneResetCountNow() / n`, an unsigned division. With no io zone it divides
by zero, undefined in C++; the model's division gives 0 there. `pow(x, 2)` is taken as the
correctly rounded square `x * x`; both are exact while `x * x < 2 ^ 53`. -/
def getResetCountStdDev (d : Device) : Double :=
  let n := d.ioZones.length
  let mean := Double.ofNat (d.getIOZoneResetCountNow / n)
  let sum := d.ioZones.foldl (fun sum z =>
    sum.add (((Double.ofNat z.resetCount).sub mean).mul ((Double.ofNat z.resetCount).sub mean)))
    (Double.ofNat 0)
  (sum.div (Double.ofNat n)).sqrt

@[simp] theorem getResetCountStdDev_wl (d : Device) (w : WearLeveling) :
    ({ d with wl := w } : Device).getResetCountStdDev = d.getResetCountStdDev := rfl

/-- The condition under which `Zone::Reset` calls `WakeupWLWorker`. `100 * reset_count_diff`
is a `uint32_t` product, compared as a `double` with `io_zones_reset_count *
reset_ratio_threshold_`. -/
def wlTriggered (d : Device) : Bool :=
  ((Double.ofNat d.ioZonesResetCount).mul d.wl.resetRatioThreshold).lt
      (Double.ofNat (mul32 100 d.resetCountDiff)) &&
    decide (d.nrZones ≤ d.resetCountDiff)

/-- The damping of `reset_ratio_threshold_` by the reset counts' standard deviation `σ`:
`threshold / (1 + (σ - 1.5) / 1.5)`. -/
def dampedThreshold (threshold stdDev : Double) : Double :=
  threshold.div ((Double.ofNat 1).add ((stdDev.sub .oneAndAHalf).div .oneAndAHalf))

/-- The wear-leveling trigger at the end of `Zone::Reset`, once the counters have moved:
the new wear-leveling members. A damping reads `GetResetCountStdDev()` of the device as it
stands. -/
def wearLevelingCheck (d : Device) : WearLeveling :=
  if d.nrZones < d.wl.totalResetCount then
    let w₁ := { d.wl with checkResetCount := d.flooredCheckResetCount }
    if d.wlTriggered then
      let w₂ := if 2 ≤ w₁.wlTriggerCount then
        { w₁ with
          wlTriggerCount := 0
          resetRatioThreshold := dampedThreshold w₁.resetRatioThreshold d.getResetCountStdDev }
        else w₁
      { w₂.wakeupWLWorker with checkResetCount := d.ioZonesResetCount }
    else w₁
  else d.wl

/-- The device with new wear-leveling members. -/
@[simps] def setWl (w : WearLeveling) (d : Device) : Device := { d with wl := w }

/-- The device half of `Zone::Reset` once the zone's own fields are reset:
`total_reset_count_++`, then the wear-leveling trigger. -/
def resetWearLeveling (d : Device) : WearLeveling :=
  ({ d with wl := { d.wl with totalResetCount := add32 d.wl.totalResetCount 1 } } : Device).wearLevelingCheck

/-- `Zone::Reset` on zone `i` of vector `k`: the backend reset, the zone's fields, the
device's `total_reset_count_`, then the wear-leveling trigger. -/
def resetZone (be : Backend) (k : ZoneKind) (i : Nat) (d : Device) : IOStatus × Device :=
  match d.zone k i with
  | none => (.ok, d)
  | some z =>
    match be.reset z.start with
    | (status, offline, maxCapacity) =>
      if !status.isOk then (status, d)
      else
        let d₁ := d.setZone k i (z.resetFields offline maxCapacity)
        (.ok, d₁.setWl d₁.resetWearLeveling)

/-- `Zone::Finish` on zone `i` of vector `k`. -/
def finishZone (be : Backend) (k : ZoneKind) (i : Nat) (d : Device) : IOStatus × Device :=
  match d.zone k i with
  | none => (.ok, d)
  | some z =>
    match z.finish d.zoneSize (be.finish z.start) with
    | (status, z') => (status, d.setZone k i z')

end Device

end ZenFS

namespace ZenFS

/-- Writing back the element a list already holds changes nothing. -/
theorem List.set_of_getElem? {α : Type} {zs : List α} {i : Nat} {z : α} (found : zs[i]? = some z) :
    zs.set i z = zs := by
  apply List.ext_getElem?
  intro j
  rw [List.getElem?_set]
  by_cases same : i = j
  · subst same
    simp [found, (List.getElem?_eq_some_iff.mp found).1]
  · simp [same]

namespace Device

@[simp] theorem zone_setZones (d : Device) (k : ZoneKind) (zs : List Zone) (i : Nat) :
    (d.setZones k zs).zone k i = zs[i]? := by cases k <;> rfl

@[simp] theorem setZones_setZones (d : Device) (k : ZoneKind) (zs zs' : List Zone) :
    (d.setZones k zs).setZones k zs' = d.setZones k zs' := by cases k <;> rfl

@[simp] theorem setZone_setZones (d : Device) (k : ZoneKind) (zs : List Zone) (i : Nat) (z : Zone) :
    (d.setZones k zs).setZone k i z = d.setZones k (zs.set i z) := by cases k <;> rfl

@[simp] theorem setZones_self (d : Device) (k : ZoneKind) : d.setZones k (d.zones k) = d := by
  cases k <;> rfl

@[simp] theorem setZones_io_self (d : Device) : d.setZones .io d.ioZones = d := rfl

@[simp] theorem setZones_meta_self (d : Device) : d.setZones .meta d.metaZones = d := rfl

@[simp] theorem ioZones_setZones_io (d : Device) (zs : List Zone) :
    (d.setZones .io zs).ioZones = zs := rfl

@[simp] theorem metaZones_setZones_meta (d : Device) (zs : List Zone) :
    (d.setZones .meta zs).metaZones = zs := rfl

@[simp] theorem ioZones_setZones_meta (d : Device) (zs : List Zone) :
    (d.setZones .meta zs).ioZones = d.ioZones := rfl

@[simp] theorem metaZones_setZones_io (d : Device) (zs : List Zone) :
    (d.setZones .io zs).metaZones = d.metaZones := rfl

@[simp] theorem setZone_zoneSize (d : Device) (k : ZoneKind) (i : Nat) (z : Zone) :
    (d.setZone k i z).zoneSize = d.zoneSize := by cases k <;> rfl

@[simp] theorem setZone_activeIOZones (d : Device) (k : ZoneKind) (i : Nat) (z : Zone) :
    (d.setZone k i z).activeIOZones = d.activeIOZones := by cases k <;> rfl

@[simp] theorem setZone_openIOZones (d : Device) (k : ZoneKind) (i : Nat) (z : Zone) :
    (d.setZone k i z).openIOZones = d.openIOZones := by cases k <;> rfl

@[simp] theorem setZone_maxNrActiveIOZones (d : Device) (k : ZoneKind) (i : Nat) (z : Zone) :
    (d.setZone k i z).maxNrActiveIOZones = d.maxNrActiveIOZones := by cases k <;> rfl

@[simp] theorem setZone_maxNrOpenIOZones (d : Device) (k : ZoneKind) (i : Nat) (z : Zone) :
    (d.setZone k i z).maxNrOpenIOZones = d.maxNrOpenIOZones := by cases k <;> rfl

@[simp] theorem setZone_zoneDeferredStatus (d : Device) (k : ZoneKind) (i : Nat) (z : Zone) :
    (d.setZone k i z).zoneDeferredStatus = d.zoneDeferredStatus := by cases k <;> rfl

@[simp] theorem setZone_migrating (d : Device) (k : ZoneKind) (i : Nat) (z : Zone) :
    (d.setZone k i z).migrating = d.migrating := by cases k <;> rfl

theorem setZone_eq (d : Device) (k : ZoneKind) (i : Nat) (z : Zone) :
    d.setZone k i z = d.setZones k ((d.zones k).set i z) := rfl

theorem zone_eq (d : Device) (k : ZoneKind) (i : Nat) : d.zone k i = (d.zones k)[i]? := rfl

@[simp] theorem setZones_activeIOZones (d : Device) (k : ZoneKind) (zs : List Zone) :
    (d.setZones k zs).activeIOZones = d.activeIOZones := by cases k <;> rfl

@[simp] theorem setZones_openIOZones (d : Device) (k : ZoneKind) (zs : List Zone) :
    (d.setZones k zs).openIOZones = d.openIOZones := by cases k <;> rfl

@[simp] theorem setZones_migrating (d : Device) (k : ZoneKind) (zs : List Zone) :
    (d.setZones k zs).migrating = d.migrating := by cases k <;> rfl

@[simp] theorem setZones_zoneSize (d : Device) (k : ZoneKind) (zs : List Zone) :
    (d.setZones k zs).zoneSize = d.zoneSize := by cases k <;> rfl

@[simp] theorem setZones_zoneDeferredStatus (d : Device) (k : ZoneKind) (zs : List Zone) :
    (d.setZones k zs).zoneDeferredStatus = d.zoneDeferredStatus := by cases k <;> rfl

theorem setZone_setZone (d : Device) (k : ZoneKind) (i : Nat) (z z' : Zone) :
    (d.setZone k i z).setZone k i z' = d.setZone k i z' := by
  simp [setZone_eq]

theorem setZone_self {d : Device} {k : ZoneKind} {i : Nat} {z : Zone} (found : d.zone k i = some z) :
    d.setZone k i z = d := by
  rw [setZone_eq, List.set_of_getElem? found, setZones_self]

theorem acquire_eq_some {d d' : Device} {k : ZoneKind} {i : Nat} :
    d.acquire k i = some d' ↔
      ∃ z, d.zone k i = some z ∧ z.busy = false ∧ d' = d.setZone k i (z.setBusy true) := by
  unfold acquire
  cases d.zone k i with
  | none => simp
  | some z =>
    cases hb : z.busy <;> simp [Zone.acquire, hb]
    exact eq_comm

theorem acquire_eq_none {d : Device} {k : ZoneKind} {i : Nat} :
    d.acquire k i = none ↔ ∀ z, d.zone k i = some z → z.busy = true := by
  unfold acquire
  cases d.zone k i with
  | none => simp
  | some z => cases hb : z.busy <;> simp [Zone.acquire, hb]

theorem checkRelease_of_busy {d : Device} {k : ZoneKind} {i : Nat} {z : Zone}
    (found : d.zone k i = some z) (held : z.busy = true) :
    d.checkRelease k i = .ok (d.setZone k i (z.setBusy false)) := by
  simp [checkRelease, found, Zone.release, held]

@[simp] theorem putOpenIOZoneToken_zones (d : Device) (k : ZoneKind) :
    d.putOpenIOZoneToken.zones k = d.zones k := by cases k <;> rfl

@[simp] theorem putActiveIOZoneToken_zones (d : Device) (k : ZoneKind) :
    d.putActiveIOZoneToken.zones k = d.zones k := by cases k <;> rfl

@[simp] theorem setZone_putOpenIOZoneToken (d : Device) (k : ZoneKind) (i : Nat) (z : Zone) :
    d.putOpenIOZoneToken.setZone k i z = (d.setZone k i z).putOpenIOZoneToken := by cases k <;> rfl

@[simp] theorem setZone_putActiveIOZoneToken (d : Device) (k : ZoneKind) (i : Nat) (z : Zone) :
    d.putActiveIOZoneToken.setZone k i z = (d.setZone k i z).putActiveIOZoneToken := by
  cases k <;> rfl

@[simp] theorem setOpenIOZones_zones (d : Device) (n : Int) (k : ZoneKind) :
    (d.setOpenIOZones n).zones k = d.zones k := by cases k <;> rfl

@[simp] theorem setActiveIOZones_zones (d : Device) (n : Int) (k : ZoneKind) :
    (d.setActiveIOZones n).zones k = d.zones k := by cases k <;> rfl

@[simp] theorem setZone_setOpenIOZones (d : Device) (n : Int) (k : ZoneKind) (i : Nat) (z : Zone) :
    (d.setOpenIOZones n).setZone k i z = (d.setZone k i z).setOpenIOZones n := by cases k <;> rfl

@[simp] theorem setZone_setActiveIOZones (d : Device) (n : Int) (k : ZoneKind) (i : Nat) (z : Zone) :
    (d.setActiveIOZones n).setZone k i z = (d.setZone k i z).setActiveIOZones n := by
  cases k <;> rfl

theorem getActiveIOZoneTokenIfAvailable_setZone (d : Device) (k : ZoneKind) (i : Nat) (z : Zone) :
    (d.setZone k i z).getActiveIOZoneTokenIfAvailable =
      (d.getActiveIOZoneTokenIfAvailable.1, d.getActiveIOZoneTokenIfAvailable.2.setZone k i z) := by
  unfold getActiveIOZoneTokenIfAvailable
  by_cases below : d.activeIOZones < d.maxNrActiveIOZones <;> simp [below]

/-- The wait ends exactly when the caller's limit leaves room, and then takes one token. -/
theorem waitForOpenIOZoneToken_eq_some {prioritized : Bool} {d d' : Device} :
    d.waitForOpenIOZoneToken prioritized = some d' ↔
      d.openIOZones < allocatorOpenLimit prioritized d.maxNrOpenIOZones ∧
        d' = d.setOpenIOZones (d.openIOZones + 1) := by
  unfold waitForOpenIOZoneToken
  split <;> simp [*, eq_comm]

theorem release_cases (d : Device) (k : ZoneKind) (i : Nat) :
    d.release k i = d ∨
      ∃ z, d.zone k i = some z ∧ z.busy = true ∧ d.release k i = d.setZone k i (z.setBusy false) := by
  unfold release
  cases found : d.zone k i with
  | none => exact .inl rfl
  | some z =>
    cases held : z.busy
    · exact .inl (by simp [Zone.release, held])
    · exact .inr ⟨z, rfl, held, by simp [Zone.release, held]⟩

/-- A `CheckRelease` that succeeds is a `Release`. -/
theorem checkRelease_ok {d d' : Device} {k : ZoneKind} {i : Nat} (success : d.checkRelease k i = .ok d') :
    d' = d.release k i := by
  unfold checkRelease at success
  unfold release
  cases found : d.zone k i with
  | none => simp_all
  | some z =>
    simp only [found] at success
    cases released : z.release <;> simp_all

theorem release_of_busy {d : Device} {k : ZoneKind} {i : Nat} {z : Zone}
    (found : d.zone k i = some z) (held : z.busy = true) :
    d.release k i = d.setZone k i (z.setBusy false) := by
  simp [release, found, Zone.release, held]

theorem zone_setZone_self {d : Device} {k : ZoneKind} {i : Nat} (z : Zone)
    (bound : i < (d.zones k).length) : (d.setZone k i z).zone k i = some z := by
  simp [setZone_eq, bound]

theorem acquire_of_free {d : Device} {k : ZoneKind} {i : Nat} {z : Zone}
    (found : d.zone k i = some z) (free : z.busy = false) :
    d.acquire k i = some (d.setZone k i (z.setBusy true)) :=
  acquire_eq_some.mpr ⟨z, found, free, rfl⟩

theorem checkRelease_setZone_held {d : Device} {k : ZoneKind} {i : Nat} (z : Zone)
    (bound : i < (d.zones k).length) :
    (d.setZone k i (z.setBusy true)).checkRelease k i = .ok (d.setZone k i (z.setBusy false)) := by
  rw [checkRelease_of_busy (zone_setZone_self _ bound) rfl, setZone_setZone, Zone.setBusy_setBusy]

/-- Releasing a zone this call acquired gives back the device it started from. -/
theorem checkRelease_held {d : Device} {k : ZoneKind} {i : Nat} {z : Zone}
    (found : d.zone k i = some z) (free : z.busy = false) :
    (d.setZone k i (z.setBusy true)).checkRelease k i = .ok d := by
  have bound := (List.getElem?_eq_some_iff.mp found).1
  rw [checkRelease_of_busy (zone_setZone_self _ bound) rfl, setZone_setZone, Zone.setBusy_setBusy,
    Zone.setBusy_of_busy free, setZone_self found]

theorem release_held {d : Device} {k : ZoneKind} {i : Nat} {z : Zone}
    (found : d.zone k i = some z) (free : z.busy = false) :
    (d.setZone k i (z.setBusy true)).release k i = d := by
  have bound := (List.getElem?_eq_some_iff.mp found).1
  rw [release_of_busy (zone_setZone_self _ bound) rfl, setZone_setZone, Zone.setBusy_setBusy,
    Zone.setBusy_of_busy free, setZone_self found]

@[simp] theorem zones_setWl (d : Device) (w : WearLeveling) (k : ZoneKind) :
    (d.setWl w).zones k = d.zones k := by cases k <;> rfl

@[simp] theorem setZone_setWl (d : Device) (w : WearLeveling) (k : ZoneKind) (i : Nat) (z : Zone) :
    (d.setWl w).setZone k i z = (d.setZone k i z).setWl w := by
  cases k <;> rfl

@[simp] theorem setZone_wl (d : Device) (k : ZoneKind) (i : Nat) (z : Zone) :
    (d.setZone k i z).wl = d.wl := by cases k <;> rfl

@[simp] theorem checkRelease_setWl (d : Device) (w : WearLeveling) (k : ZoneKind) (i : Nat) :
    (d.setWl w).checkRelease k i =
      match d.checkRelease k i with
      | .ok d' => .ok (d'.setWl w)
      | .error status => .error status := by
  unfold checkRelease
  rw [zone_eq, zones_setWl, ← zone_eq]
  cases d.zone k i with
  | none => rfl
  | some z =>
    cases h : z.release <;> simp [h, busyFlagMessage]

/-- `Zone::Reset` on a zone this call holds: on success the zone, still held, has its
fields reset and the wear-leveling members move; on failure nothing changes. -/
theorem resetZone_held {be : Backend} {d : Device} {k : ZoneKind} {i : Nat} {z : Zone}
    (found : d.zone k i = some z) :
    (d.setZone k i (z.setBusy true)).resetZone be k i =
      if (be.reset z.start).1.isOk then
        let d₁ := d.setZone k i ((z.resetFields (be.reset z.start).2.1 (be.reset z.start).2.2).setBusy true)
        (.ok, d₁.setWl d₁.resetWearLeveling)
      else ((be.reset z.start).1, d.setZone k i (z.setBusy true)) := by
  have bound := (List.getElem?_eq_some_iff.mp found).1
  unfold resetZone
  rw [zone_setZone_self _ bound]
  cases ok : (be.reset z.start).1.isOk <;> simp [ok, setZone_setZone, Zone.resetFields, Zone.setBusy]

end Device

/-- How the body of a `for (const auto z : zones)` loop ends on one zone: go on with the
next zone, `break`, or `return` a status from the enclosing function. -/
inductive Flow (σ : Type) where
  | next (s : σ)
  | brk (s : σ)
  | ret (d : Device) (status : IOStatus)

/-- A `for` loop over the given zone indices. -/
def forZones {σ : Type} (body : Nat → σ → Flow σ) : List Nat → σ → Flow σ
  | [], s => .next s
  | i :: is, s =>
    match body i s with
    | .next s' => forZones body is s'
    | .brk s' => .brk s'
    | .ret d status => .ret d status

/-- `P` holds after a loop that ends normally, `Q` after an early `return`. -/
def Flow.Holds {σ : Type} (P : σ → Prop) (Q : Device → IOStatus → Prop) : Flow σ → Prop
  | .next s => P s
  | .brk s => P s
  | .ret d status => Q d status

/-- The loop rule: what every pass of the body keeps holds after the loop. -/
theorem forZones_holds {σ : Type} (P : σ → Prop) (Q : Device → IOStatus → Prop)
    (body : Nat → σ → Flow σ) (step : ∀ i s, P s → (body i s).Holds P Q) :
    ∀ (is : List Nat) (s : σ), P s → (forZones body is s).Holds P Q := by
  intro is
  induction is with
  | nil => exact fun s start => start
  | cons i is ih =>
    intro s start
    have once := step i s start
    simp only [forZones]
    split
    · rename_i s' passed
      rw [passed] at once
      exact ih s' once
    · rename_i s' passed
      rw [passed] at once
      exact once
    · rename_i d status passed
      rw [passed] at once
      exact once

/-- The loop rule with the loop counter, over the zones `k, ..., k + m - 1`: `P k` holds
before the pass over zone `k`, and a `break` establishes `Q`. -/
theorem forZones_range'_holds {σ : Type} (P : Nat → σ → Prop) (Q : σ → Prop)
    (R : Device → IOStatus → Prop) (body : Nat → σ → Flow σ)
    (step : ∀ k s, P k s →
      match body k s with
      | .next s' => P (k + 1) s'
      | .brk s' => Q s'
      | .ret d status => R d status) :
    ∀ (m k : Nat) (s : σ), P k s →
      (forZones body (List.range' k m) s).Holds (fun s' => P (k + m) s' ∨ Q s') R := by
  intro m
  induction m with
  | zero => exact fun _ _ start => .inl start
  | succ m ih =>
    intro k s start
    have once := step k s start
    simp only [List.range'_succ, forZones]
    split
    · rename_i s' passed
      rw [passed] at once
      have rest := ih (k + 1) s' once
      rwa [show k + 1 + m = k + (m + 1) by omega] at rest
    · rename_i s' passed
      rw [passed] at once
      exact .inr once
    · rename_i d status passed
      rw [passed] at once
      exact once

end ZenFS
