import ZenFS.Select

set_option autoImplicit false

/- Taking and giving back a migration target: `GetMigrateTargetZone`, `TakeMigrateZone` and
`ReleaseMigrateZone`, serialised by `migrating_` under `migrate_zone_mtx_`. -/
namespace ZenFS

/-- `migrating_ = migrating`. -/
@[simps] def Device.setMigrating (migrating : Bool) (d : Device) : Device := { d with migrating := migrating }

/-- The zone with its lifetime hint set, as `zone->lifetime_ = file_lifetime` does. -/
def Device.setLifetime (i : Nat) (lifetime : WriteLifeTimeHint) (d : Device) : Device :=
  match d.zone .io i with
  | some z => d.setZone .io i { z with lifetime := lifetime }
  | none => d

/-- The first phase of `GetMigrateTargetZone`: the empty zone with the highest reset count.
Every early `return` gives back the open token. -/
def migrateEmptyScan : Scan where
  cand := Zone.isEmpty
  beats z best _ := best.all fun t => decide (t.resetCount < z.resetCount)
  key _ := 0
  halt _ := false
  onError := Device.putOpenIOZoneToken
  releaseBoth := true

/-- `reset_count_ * reclaimable_space / max_capacity_`, the score of the second phase. -/
def migrateScore (z : Zone) : Nat := mul64 z.resetCount z.getZoneReclaimableSpace / z.maxCapacity

/-- The second phase of `GetMigrateTargetZone`: among zones with live data and room for
`min_capacity` bytes, the highest score, then the highest reset count; the lifetime
distance is checked only for a zone that beats the current target. -/
def migrateOpenScan (fileLifetime : WriteLifeTimeHint) (minCapacity : Nat) : Scan where
  cand z := decide (0 < z.usedCapacity) && !z.isFull && decide (minCapacity ≤ z.capacity)
  beats z best targetScore :=
    (best.all fun t => decide (targetScore < migrateScore z) ||
        (decide (migrateScore z = targetScore) && decide (t.resetCount < z.resetCount))) &&
      decide (getLifeTimeDiff z.lifetime fileLifetime ≠ lifetimeDiffNotGood)
  key := migrateScore
  halt _ := false
  onError := id
  releaseBoth := true

/-- The end of `GetMigrateTargetZone`: `NotFound` clears `migrating_`. -/
def migrateResult (d : Device) : Option Nat → Device × IOStatus × Option Nat
  | none => (d.setMigrating false, .notFound "The migrate target zone was not found", none)
  | some t => (d, .ok, some t)

/-- The second phase of `GetMigrateTargetZone`, run when the first kept no zone, and the
result it leads to. -/
def migrateOpenPhase (fileLifetime : WriteLifeTimeHint) (minCapacity : Nat) (d : Device) :
    Device × IOStatus × Option Nat :=
  match (migrateOpenScan fileLifetime minCapacity).exec d 0 with
  | (d₁, status, _, target) => if !status.isOk then (d₁, status, none) else migrateResult d₁ target

/-- `GetMigrateTargetZone` once `migrating_` is set and the open token is taken. An empty
zone is kept only with a new active token; otherwise the open token goes back. -/
def getMigrateTargetZoneWithToken (fileLifetime : WriteLifeTimeHint) (minCapacity : Nat)
    (d : Device) : Device × IOStatus × Option Nat :=
  match migrateEmptyScan.exec d 0 with
  | (d₁, status, _, none) =>
    if !status.isOk then (d₁, status, none) else migrateOpenPhase fileLifetime minCapacity d₁
  | (d₁, _, _, some t) =>
    match d₁.getActiveIOZoneTokenIfAvailable with
    | (true, d₂) => migrateResult (d₂.setLifetime t fileLifetime) (some t)
    | (false, d₂) => migrateOpenPhase fileLifetime minCapacity (d₂.putOpenIOZoneToken.release .io t)

/-- `GetMigrateTargetZone`. `none`: it waits for ever, on `migrating_` or on an open token. -/
def getMigrateTargetZone (fileLifetime : WriteLifeTimeHint) (minCapacity : Nat) (d : Device) :
    Option (Device × IOStatus × Option Nat) :=
  if d.migrating then none
  else
    ((d.setMigrating true).waitForOpenIOZoneToken true).map
      (getMigrateTargetZoneWithToken fileLifetime minCapacity)

/-- `TakeMigrateZone` once `migrating_` is set. -/
def takeMigrateZoneLocked (fileLifetime : WriteLifeTimeHint) (minCapacity : Nat) (d : Device) :
    Device × IOStatus × Option Nat :=
  match getBestOpenZoneMatch fileLifetime minCapacity d with
  | (d₁, status, _, zone) =>
    if status.isOk && zone.isSome then (d₁, status, zone)
    else (d₁.setMigrating false, status, zone)

/-- `TakeMigrateZone`. `none`: it waits for ever on `migrating_`. -/
def takeMigrateZone (fileLifetime : WriteLifeTimeHint) (minCapacity : Nat) (d : Device) :
    Option (Device × IOStatus × Option Nat) :=
  if d.migrating then none
  else some (takeMigrateZoneLocked fileLifetime minCapacity (d.setMigrating true))

/-- `ReleaseMigrateZone`. -/
def releaseMigrateZone (zone : Option Nat) (d : Device) : Device × IOStatus :=
  match zone with
  | none => (d.setMigrating false, .ok)
  | some i =>
    match (d.setMigrating false).checkRelease .io i with
    | .ok d' => (d', .ok)
    | .error status => (d.setMigrating false, status)

end ZenFS

namespace ZenFS

@[simp] theorem Device.zones_setMigrating (d : Device) (b : Bool) (k : ZoneKind) :
    (d.setMigrating b).zones k = d.zones k := by cases k <;> rfl

theorem Device.setLifetime_setZone {d : Device} {t : Nat} (z : Zone) (L : WriteLifeTimeHint)
    (bound : t < d.ioZones.length) :
    (d.setZone .io t z).setLifetime t L = d.setZone .io t { z with lifetime := L } := by
  simp [Device.setLifetime, Device.zone_setZone_self (k := .io) _ bound, Device.setZone_setZone]

theorem migrateEmptyScan_cases (d : Device) :
    migrateEmptyScan.exec d 0 = (d, .ok, 0, none) ∨
      ∃ t z, d.ioZones[t]? = some z ∧ z.busy = false ∧ z.wp = z.start ∧
        migrateEmptyScan.exec d 0 = (d.setZone .io t (z.setBusy true), .ok, 0, some t) := by
  rcases Scan.exec_cases migrateEmptyScan d 0 with same | ⟨t, z, found, free, cand, -, held⟩
  · exact .inl same
  · exact .inr ⟨t, z, found, free, by simpa [migrateEmptyScan] using cand, held⟩

/-- The second phase finds nothing and clears `migrating_`, or keeps an idle zone with live
data and room for `minCapacity` bytes whose lifetime is not a bad match. -/
theorem migrateOpenPhase_cases (L : WriteLifeTimeHint) (m : Nat) (d : Device) :
    migrateOpenPhase L m d =
        (d.setMigrating false, .notFound "The migrate target zone was not found", none) ∨
      ∃ b z, d.ioZones[b]? = some z ∧ z.busy = false ∧ 0 < z.usedCapacity ∧ z.capacity ≠ 0 ∧
        m ≤ z.capacity ∧ getLifeTimeDiff z.lifetime L ≠ lifetimeDiffNotGood ∧
        migrateOpenPhase L m d = (d.setZone .io b (z.setBusy true), .ok, some b) := by
  unfold migrateOpenPhase
  rcases Scan.exec_cases (migrateOpenScan L m) d 0 with
    same | ⟨b, z, found, free, cand, ⟨c, score, beats⟩, held⟩
  · rw [same]; exact .inl rfl
  · rw [held]
    simp only [migrateOpenScan, Bool.and_eq_true, decide_eq_true_eq, Bool.not_eq_true',
      Zone.isFull, decide_eq_false_iff_not, Zone.setBusy_usedCapacity, Zone.setBusy_capacity,
      Zone.setBusy_lifetime, ne_eq] at cand beats
    exact .inr ⟨b, z, found, free, cand.1.1, cand.1.2, cand.2, beats.2, rfl⟩

/-- Once the first phase keeps the idle empty zone `t`: with a new active token it stays, with
the file's lifetime; without one the zone and the open token go back and the second phase
runs. -/
theorem getMigrateTargetZoneWithToken_of_kept {L : WriteLifeTimeHint} {m : Nat} {d : Device}
    {t : Nat} {z : Zone} (found : d.ioZones[t]? = some z) (free : z.busy = false)
    (kept : migrateEmptyScan.exec d 0 = (d.setZone .io t (z.setBusy true), .ok, 0, some t)) :
    getMigrateTargetZoneWithToken L m d =
      if d.activeIOZones < d.maxNrActiveIOZones then
        ((d.setActiveIOZones (d.activeIOZones + 1)).setZone .io t
          ({ z with lifetime := L }.setBusy true), .ok, some t)
      else migrateOpenPhase L m d.putOpenIOZoneToken := by
  have bound := (List.getElem?_eq_some_iff.mp found).1
  unfold getMigrateTargetZoneWithToken
  rw [kept]
  dsimp only
  rw [Device.getActiveIOZoneTokenIfAvailable_setZone]
  unfold Device.getActiveIOZoneTokenIfAvailable
  by_cases below : d.activeIOZones < d.maxNrActiveIOZones
  · simp only [below, if_true]
    rw [Device.setLifetime_setZone _ _ (by simpa using bound)]
    rfl
  · simp only [below, if_false]
    rw [← Device.setZone_putOpenIOZoneToken,
      Device.release_held (d := d.putOpenIOZoneToken) (by simpa [Device.zone_eq] using found) free]

/-- `GetMigrateTargetZone` with its open token: it keeps an idle empty zone with a new active
token, or runs the second phase, with the open token back if an empty zone was found but no
active token. -/
theorem getMigrateTargetZoneWithToken_cases (L : WriteLifeTimeHint) (m : Nat) (d : Device) :
    (∃ t z, d.ioZones[t]? = some z ∧ z.busy = false ∧ z.wp = z.start ∧
        d.activeIOZones < d.maxNrActiveIOZones ∧
        getMigrateTargetZoneWithToken L m d =
          ((d.setActiveIOZones (d.activeIOZones + 1)).setZone .io t
            ({ z with lifetime := L }.setBusy true), .ok, some t)) ∨
      getMigrateTargetZoneWithToken L m d = migrateOpenPhase L m d ∨
      getMigrateTargetZoneWithToken L m d = migrateOpenPhase L m d.putOpenIOZoneToken := by
  rcases migrateEmptyScan_cases d with same | ⟨t, z, found, free, empty, kept⟩
  · unfold getMigrateTargetZoneWithToken
    rw [same]; exact .inr (.inl rfl)
  · rw [getMigrateTargetZoneWithToken_of_kept found free kept]
    by_cases below : d.activeIOZones < d.maxNrActiveIOZones
    · exact .inl ⟨t, z, found, free, empty, below, if_pos below⟩
    · exact .inr (.inr (if_neg below))

/-- A `GetMigrateTargetZone` that returns found `migrating_` clear, set it, and took an open
token under the limit of a prioritized caller. -/
theorem getMigrateTargetZone_eq_some {L : WriteLifeTimeHint} {m : Nat} {d : Device}
    {r : Device × IOStatus × Option Nat} (got : getMigrateTargetZone L m d = some r) :
    d.migrating = false ∧ ∃ d₁, (d.setMigrating true).waitForOpenIOZoneToken true = some d₁ ∧
      r = getMigrateTargetZoneWithToken L m d₁ := by
  unfold getMigrateTargetZone at got
  split at got
  · cases got
  · rename_i idle
    obtain ⟨d₁, waited, rfl⟩ := Option.map_eq_some'.mp got
    exact ⟨by simpa using idle, d₁, waited, rfl⟩

/-- `TakeMigrateZone` under `migrating_`: it keeps the zone `GetBestOpenZoneMatch` picks, or
clears `migrating_` when there is none. -/
theorem takeMigrateZoneLocked_cases (L : WriteLifeTimeHint) (m : Nat) (d : Device) :
    takeMigrateZoneLocked L m d = (d.setMigrating false, .ok, none) ∨
      ∃ b z, d.ioZones[b]? = some z ∧ z.busy = false ∧ 0 < z.usedCapacity ∧ z.capacity ≠ 0 ∧
        m ≤ z.capacity ∧
        takeMigrateZoneLocked L m d = (d.setZone .io b (z.setBusy true), .ok, some b) := by
  unfold takeMigrateZoneLocked
  rcases getBestOpenZoneMatch_cases L m d with same | ⟨b, z, found, free, used, room, fits, held⟩
  · rw [same]; exact .inl rfl
  · rw [held]; exact .inr ⟨b, z, found, free, used, room, fits, rfl⟩

/-- A `TakeMigrateZone` that returns found `migrating_` clear and ran under it. -/
theorem takeMigrateZone_eq_some {L : WriteLifeTimeHint} {m : Nat} {d : Device}
    {r : Device × IOStatus × Option Nat} (taken : takeMigrateZone L m d = some r) :
    d.migrating = false ∧ r = takeMigrateZoneLocked L m (d.setMigrating true) := by
  unfold takeMigrateZone at taken
  split at taken
  · cases taken
  · rename_i idle
    exact ⟨by simpa using idle, (Option.some.inj taken).symm⟩

/-- `ReleaseMigrateZone` clears `migrating_` and releases the zone it is given. -/
theorem releaseMigrateZone_device (zone : Option Nat) (d : Device) :
    (releaseMigrateZone zone d).1 =
      match zone with
      | none => d.setMigrating false
      | some i => (d.setMigrating false).release .io i := by
  cases zone with
  | none => rfl
  | some i =>
    simp only [releaseMigrateZone, Device.release, Device.checkRelease]
    cases (d.setMigrating false).zone .io i with
    | none => rfl
    | some z => cases h : z.release <;> simp [h]

end ZenFS
