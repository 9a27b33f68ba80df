import ZenFS.Scan

set_option autoImplicit false

/- The four scans of the allocator that pick one zone: `GetBestOpenZoneMatch`, the two
overloads of `AllocateEmptyZone`, and `FinishCheapestIOZone`, which then finishes the zone
it picked. -/
namespace ZenFS

/-- The scan of `GetBestOpenZoneMatch`: zones with live data and room for `min_capacity`
bytes, compared by lifetime distance. A zone replaces the best on a tie. -/
def getBestOpenZoneMatchScan (fileLifetime : WriteLifeTimeHint) (minCapacity : Nat) : Scan where
  cand z := decide (0 < z.usedCapacity) && !z.isFull && decide (minCapacity ≤ z.capacity)
  beats z _ bestDiff := decide (getLifeTimeDiff z.lifetime fileLifetime ≤ bestDiff)
  key z := getLifeTimeDiff z.lifetime fileLifetime
  halt _ := false
  onError := id
  releaseBoth := true

/-- `GetBestOpenZoneMatch`: the device, the status, `*best_diff_out` and `*zone_out`. -/
def getBestOpenZoneMatch (fileLifetime : WriteLifeTimeHint) (minCapacity : Nat) (d : Device) :
    Device × IOStatus × Nat × Option Nat :=
  (getBestOpenZoneMatchScan fileLifetime minCapacity).exec d lifetimeDiffNotGood

/-- The scan of `AllocateEmptyZone(file_lifetime, zone_out)`: among empty zones, the
highest reset count for lifetimes below `WLTH_SHORT`, else the lowest, stopping at 0. -/
def allocateEmptyZoneScan (fileLifetime : WriteLifeTimeHint) : Scan :=
  if fileLifetime.toNat < WriteLifeTimeHint.wlthShort.toNat then
    { cand := Zone.isEmpty
      beats := fun z best _ => best.all fun b => decide (b.resetCount < z.resetCount)
      key := fun _ => 0
      halt := fun _ => false
      onError := id
      releaseBoth := true }
  else
    { cand := Zone.isEmpty
      beats := fun z best _ => best.all fun b => decide (z.resetCount < b.resetCount)
      key := fun _ => 0
      halt := fun z => decide (z.resetCount = 0)
      onError := id
      releaseBoth := true }

/-- `AllocateEmptyZone(file_lifetime, zone_out)`. -/
def allocateEmptyZone (fileLifetime : WriteLifeTimeHint) (d : Device) :
    Device × IOStatus × Option Nat :=
  match (allocateEmptyZoneScan fileLifetime).exec d 0 with
  | (d', status, _, zone) => (d', status, zone)

/-- The scan of `AllocateEmptyZone(zone_out)`, the overload without a lifetime: the first
empty zone. -/
def allocateEmptyZoneFirstScan : Scan where
  cand := Zone.isEmpty
  beats _ _ _ := true
  key _ := 0
  halt _ := true
  onError := id
  releaseBoth := true

/-- `AllocateEmptyZone(zone_out)`. -/
def allocateEmptyZoneFirst (d : Device) : Device × IOStatus × Option Nat :=
  match allocateEmptyZoneFirstScan.exec d 0 with
  | (d', status, _, zone) => (d', status, zone)

/-- The scan of `FinishCheapestIOZone`: partly written zones, the smallest remaining
capacity first. A failed release of the current victim returns at once. -/
def finishCheapestIOZoneScan : Scan where
  cand z := !(z.isEmpty || z.isFull)
  beats z best _ := best.all fun v => decide (z.capacity < v.capacity)
  key _ := 0
  halt _ := false
  onError := id
  releaseBoth := false

/-- `Zone::CheckRelease` with its status and the device after it. -/
def Device.checkReleaseStatus (k : ZoneKind) (i : Nat) (d : Device) : IOStatus × Device :=
  match d.checkRelease k i with
  | .ok d' => (.ok, d')
  | .error status => (status, d)

/-- The end of `FinishCheapestIOZone` once the victim is held: finish it, release it, and
give back the active token if the finish succeeded. A failed release wins over the status
of the finish. -/
def finishVictim (be : Backend) (v : Nat) (d : Device) : Device × IOStatus :=
  match d.finishZone be .io v with
  | (finished, d₁) =>
    match d₁.checkReleaseStatus .io v with
    | (released, d₂) =>
      let d₃ := if finished.isOk then d₂.putActiveIOZoneToken else d₂
      if !released.isOk then (d₃, released) else (d₃, finished)

/-- `FinishCheapestIOZone`. -/
def finishCheapestIOZone (be : Backend) (d : Device) : Device × IOStatus :=
  match finishCheapestIOZoneScan.exec d 0 with
  | (d', status, _, victim) =>
    if !status.isOk then (d', status)
    else
      match victim with
      | none => (d', .ok)
      | some v => finishVictim be v d'

end ZenFS

namespace ZenFS

theorem getBestOpenZoneMatch_cases (fileLifetime : WriteLifeTimeHint) (minCapacity : Nat)
    (d : Device) :
    getBestOpenZoneMatch fileLifetime minCapacity d = (d, .ok, lifetimeDiffNotGood, none) ∨
      ∃ b z, d.ioZones[b]? = some z ∧ z.busy = false ∧ 0 < z.usedCapacity ∧ z.capacity ≠ 0 ∧
        minCapacity ≤ z.capacity ∧
        getBestOpenZoneMatch fileLifetime minCapacity d =
          (d.setZone .io b (z.setBusy true), .ok, getLifeTimeDiff z.lifetime fileLifetime, some b) := by
  rcases Scan.exec_cases (getBestOpenZoneMatchScan fileLifetime minCapacity) d
      lifetimeDiffNotGood with same | ⟨b, z, found, free, cand, -, held⟩
  · exact .inl same
  · simp only [getBestOpenZoneMatchScan, Bool.and_eq_true, decide_eq_true_eq, Bool.not_eq_true',
      Zone.isFull, decide_eq_false_iff_not, Zone.setBusy_usedCapacity, Zone.setBusy_capacity] at cand
    exact .inr ⟨b, z, found, free, cand.1.1, cand.1.2, cand.2, held⟩

theorem allocateEmptyZoneScan_cand (fileLifetime : WriteLifeTimeHint) :
    (allocateEmptyZoneScan fileLifetime).cand = Zone.isEmpty := by
  unfold allocateEmptyZoneScan; split <;> rfl

theorem allocateEmptyZone_cases (fileLifetime : WriteLifeTimeHint) (d : Device) :
    allocateEmptyZone fileLifetime d = (d, .ok, none) ∨
      ∃ b z, d.ioZones[b]? = some z ∧ z.busy = false ∧ z.wp = z.start ∧
        allocateEmptyZone fileLifetime d = (d.setZone .io b (z.setBusy true), .ok, some b) := by
  unfold allocateEmptyZone
  rcases Scan.exec_cases (allocateEmptyZoneScan fileLifetime) d 0 with
    same | ⟨b, z, found, free, cand, -, held⟩
  · exact .inl (by rw [same])
  · rw [allocateEmptyZoneScan_cand] at cand
    exact .inr ⟨b, z, found, free, by simpa using cand, by rw [held]⟩

theorem Device.checkReleaseStatus_of_busy {d : Device} {k : ZoneKind} {i : Nat} {z : Zone}
    (found : d.zone k i = some z) (held : z.busy = true) :
    d.checkReleaseStatus k i = (.ok, d.setZone k i (z.setBusy false)) := by
  simp [Device.checkReleaseStatus, Device.checkRelease_of_busy found held]

theorem Device.finishZone_held {be : Backend} {d : Device} {i : Nat} {z : Zone}
    (found : d.ioZones[i]? = some z) :
    (d.setZone .io i (z.setBusy true)).finishZone be .io i =
      ((z.finish d.zoneSize (be.finish z.start)).1,
        d.setZone .io i ((z.finish d.zoneSize (be.finish z.start)).2.setBusy true)) := by
  have bound := (List.getElem?_eq_some_iff.mp found).1
  simp [Device.finishZone, Device.zone_setZone_self (k := .io) _ bound, Zone.finish_setBusy,
    Device.setZone_setZone]

/-- What finishing the idle, partly written io zone `i`, found as `z`, leaves: on success
the zone is full and its active token is back; on failure nothing has changed. -/
def Device.finishIdle (be : Backend) (i : Nat) (z : Zone) (d : Device) : Device × IOStatus :=
  if (be.finish z.start).isOk then
    ((d.setZone .io i (z.finish d.zoneSize (be.finish z.start)).2).putActiveIOZoneToken, .ok)
  else (d, be.finish z.start)

theorem finishVictim_of_held {be : Backend} {d : Device} {v : Nat} {z : Zone}
    (found : d.ioZones[v]? = some z) (free : z.busy = false) :
    finishVictim be v (d.setZone .io v (z.setBusy true)) = d.finishIdle be v z := by
  have bound := (List.getElem?_eq_some_iff.mp found).1
  unfold finishVictim Device.finishIdle
  rw [Device.finishZone_held found]
  dsimp only
  rw [Device.checkReleaseStatus_of_busy (Device.zone_setZone_self (k := .io) _ bound) rfl,
    Device.setZone_setZone, Zone.setBusy_setBusy,
    Zone.setBusy_of_busy (by rw [Zone.finish_busy, free])]
  cases answer : (be.finish z.start).isOk
  · simp [answer, Zone.finish_of_not_ok answer, Device.setZone_self (k := .io) found]
  · simp [answer, Zone.finish_of_ok answer]

/-- A `FinishCheapestIOZone` whose scan holds a victim finishes an idle, partly written
zone, releases it, and gives back an active token when the backend finish succeeded. -/
theorem finishCheapestIOZone_of_found (be : Backend) (d : Device)
    (scanned : (finishCheapestIOZoneScan.exec d 0).2.2.2.isSome) :
    ∃ v z, d.ioZones[v]? = some z ∧ z.busy = false ∧ z.wp ≠ z.start ∧ z.capacity ≠ 0 ∧
      finishCheapestIOZone be d = d.finishIdle be v z := by
  unfold finishCheapestIOZone
  rcases Scan.exec_cases finishCheapestIOZoneScan d 0 with
    same | ⟨v, z, found, free, cand, -, held⟩
  · rw [same] at scanned; cases scanned
  · simp only [finishCheapestIOZoneScan, Bool.not_eq_true', Bool.or_eq_false_iff, Zone.isEmpty,
      Zone.isFull, decide_eq_false_iff_not, Zone.setBusy_wp, Zone.setBusy_start,
      Zone.setBusy_capacity] at cand
    refine ⟨v, z, found, free, cand.1, cand.2, ?_⟩
    rw [held]
    simp only [IOStatus.isOk_ok, Bool.not_true, Bool.false_eq_true, if_false]
    exact finishVictim_of_held found free

/-- `FinishCheapestIOZone` finds no idle partly written zone and changes nothing, or it
finishes one such zone, releases it, and gives back an active token when the backend
finish succeeded. -/
theorem finishCheapestIOZone_cases (be : Backend) (d : Device) :
    finishCheapestIOZone be d = (d, .ok) ∨
      ∃ v z, d.ioZones[v]? = some z ∧ z.busy = false ∧ z.wp ≠ z.start ∧ z.capacity ≠ 0 ∧
        finishCheapestIOZone be d = d.finishIdle be v z := by
  cases scanned : (finishCheapestIOZoneScan.exec d 0).2.2.2.isSome
  · rcases Scan.exec_cases finishCheapestIOZoneScan d 0 with same | ⟨v, z, -, -, -, -, held⟩
    · exact .inl (by unfold finishCheapestIOZone; rw [same]; rfl)
    · rw [held] at scanned; cases scanned
  · exact .inr (finishCheapestIOZone_of_found be d scanned)

/-- With an idle, partly written io zone about, `FinishCheapestIOZone` finishes one. -/
theorem finishCheapestIOZone_of_partly (be : Backend) {d : Device} {i : Nat} {z : Zone}
    (found : d.ioZones[i]? = some z) (free : z.busy = false) (written : z.wp ≠ z.start)
    (room : z.capacity ≠ 0) :
    ∃ v z, d.ioZones[v]? = some z ∧ z.busy = false ∧ z.wp ≠ z.start ∧ z.capacity ≠ 0 ∧
      finishCheapestIOZone be d = d.finishIdle be v z :=
  finishCheapestIOZone_of_found be d (Scan.exec_finds finishCheapestIOZoneScan (fun _ _ => rfl)
    found free (by simp [finishCheapestIOZoneScan, Zone.isEmpty, Zone.isFull, written, room]))

end ZenFS
