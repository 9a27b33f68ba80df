import ZenFS.System

set_option autoImplicit false

/- The busy flags across one call. `AllocateIOZone` acquires zones in `ApplyFinishThreshold`, in
the scans of `GetBestOpenZoneMatch` and `AllocateEmptyZone`, and in the finishes of
`FinishCheapestIOZone`. It releases every one of them before it returns, except the one zone it
hands out, which was idle when the call began. On every path, the failing ones included, no
acquisition leaks. The same holds of the migration's calls, whose zone `ReleaseMigrateZone`
gives back, and of every scan and sweep on its own. -/
namespace ZenFS

namespace Device

/-- The busy flags of one of the device's zone vectors. -/
def busyFlags (d : Device) (k : ZoneKind) : List Bool := (d.zones k).map Zone.busy

/-- The busy flags of `d` are those of `d₀`, except that the io zone `held`, idle in `d₀`, is
busy. -/
def HeldOver (d₀ d : Device) : Option Nat → Prop
  | none => ∀ k, d.busyFlags k = d₀.busyFlags k
  | some b => d.busyFlags .meta = d₀.busyFlags .meta ∧ (d₀.busyFlags .io)[b]? = some false ∧
      d.busyFlags .io = (d₀.busyFlags .io).set b true

/-- Replacing a zone by one with the same busy flag keeps every flag. -/
theorem busyFlags_setZone {d : Device} {k : ZoneKind} {i : Nat} {z z' : Zone}
    (found : d.zone k i = some z) (same : z'.busy = z.busy) (k' : ZoneKind) :
    (d.setZone k i z').busyFlags k' = d.busyFlags k' := by
  unfold busyFlags
  by_cases other : k' = k
  · subst other
    rw [setZone_eq, zones_setZones, List.map_set, same, ← List.map_set, List.set_of_getElem? found]
  · rw [setZone_eq, zones_setZones_of_ne _ _ other]

theorem busyFlags_setZone_io {d : Device} {i : Nat} (z : Zone) :
    (d.setZone .io i z).busyFlags .io = (d.busyFlags .io).set i z.busy := by
  rw [busyFlags, setZone_eq, zones_setZones, List.map_set, busyFlags]

@[simp] theorem busyFlags_setZone_io_meta (d : Device) (i : Nat) (z : Zone) :
    (d.setZone .io i z).busyFlags .meta = d.busyFlags .meta := by
  rw [busyFlags, setZone_eq, zones_setZones_of_ne _ _ (by decide), busyFlags]

@[simp] theorem busyFlags_putOpenIOZoneToken (d : Device) (k : ZoneKind) :
    d.putOpenIOZoneToken.busyFlags k = d.busyFlags k := by
  simp [busyFlags]

@[simp] theorem busyFlags_putActiveIOZoneToken (d : Device) (k : ZoneKind) :
    d.putActiveIOZoneToken.busyFlags k = d.busyFlags k := by
  simp [busyFlags]

@[simp] theorem busyFlags_setOpenIOZones (d : Device) (n : Int) (k : ZoneKind) :
    (d.setOpenIOZones n).busyFlags k = d.busyFlags k := by
  simp [busyFlags]

@[simp] theorem busyFlags_setActiveIOZones (d : Device) (n : Int) (k : ZoneKind) :
    (d.setActiveIOZones n).busyFlags k = d.busyFlags k := by
  simp [busyFlags]

@[simp] theorem busyFlags_setMigrating (d : Device) (b : Bool) (k : ZoneKind) :
    (d.setMigrating b).busyFlags k = d.busyFlags k := by
  simp [busyFlags]

@[simp] theorem busyFlags_setWl (d : Device) (w : WearLeveling) (k : ZoneKind) :
    (d.setWl w).busyFlags k = d.busyFlags k := by
  simp [busyFlags]

theorem busyFlags_getActiveIOZoneTokenIfAvailable (d : Device) (k : ZoneKind) :
    d.getActiveIOZoneTokenIfAvailable.2.busyFlags k = d.busyFlags k := by
  unfold getActiveIOZoneTokenIfAvailable
  split <;> simp [busyFlags]

theorem busyFlags_finishIdle (be : Backend) {d : Device} {i : Nat} {z : Zone}
    (found : d.ioZones[i]? = some z) (k : ZoneKind) :
    (d.finishIdle be i z).1.busyFlags k = d.busyFlags k := by
  unfold finishIdle
  split
  · rw [busyFlags_putActiveIOZoneToken,
      busyFlags_setZone (show d.zone .io i = some z from found) (Zone.finish_busy _ _ _)]
  · rfl

/-! ### The relation along a call -/

theorem HeldOver.congr {d₀ d d' : Device} {held : Option Nat} (over : d₀.HeldOver d held)
    (same : ∀ k, d'.busyFlags k = d.busyFlags k) : d₀.HeldOver d' held := by
  cases held with
  | none => exact fun k => (same k).trans (over k)
  | some b => exact ⟨(same .meta).trans over.1, over.2.1, (same .io).trans over.2.2⟩

/-- Acquiring an idle io zone, whatever else changes in it. -/
theorem HeldOver.hold {d₀ d : Device} {b : Nat} {z z' : Zone} (over : d₀.HeldOver d none)
    (found : d.ioZones[b]? = some z) (free : z.busy = false) (busy : z'.busy = true) :
    d₀.HeldOver (d.setZone .io b z') (some b) := by
  refine ⟨by rw [busyFlags_setZone_io_meta, over], ?_, ?_⟩
  · rw [← over .io, busyFlags, zones_io, List.getElem?_map, found, Option.map_some', free]
  · rw [busyFlags_setZone_io, busy, over]

/-- The held zone is busy, so its `CheckRelease` succeeds and gives the flags of `d₀` back. -/
theorem HeldOver.checkRelease {d₀ d : Device} {b : Nat} (over : d₀.HeldOver d (some b)) :
    ∃ d', d.checkRelease .io b = .ok d' ∧ d₀.HeldOver d' none := by
  obtain ⟨meta, idle, flags⟩ := over
  have flag : ((d.zones .io)[b]?).map Zone.busy = some true := by
    rw [← List.getElem?_map, ← busyFlags, flags,
      List.getElem?_set_self (List.getElem?_eq_some_iff.mp idle).1]
  obtain ⟨z, found, busy⟩ := Option.map_eq_some'.mp flag
  refine ⟨_, checkRelease_of_busy found busy, fun k => ?_⟩
  cases k with
  | meta => rw [busyFlags_setZone_io_meta, meta]
  | io => rw [busyFlags_setZone_io, flags, List.set_set, Zone.setBusy_busy,
      List.set_of_getElem? idle]

/-- Releasing the held zone gives the flags of `d₀` back. -/
theorem HeldOver.release {d₀ d : Device} {b : Nat} (over : d₀.HeldOver d (some b)) :
    d₀.HeldOver (d.release .io b) none := by
  obtain ⟨d', released, back⟩ := over.checkRelease
  rwa [← checkRelease_ok released]

/-! ### The callees -/

theorem busyFlags_applyFinishThreshold (be : Backend) (d : Device) (k : ZoneKind) :
    (applyFinishThreshold be d).1.busyFlags k = d.busyFlags k :=
  applyFinishThreshold_holds be (fun d' => ∀ k, d'.busyFlags k = d.busyFlags k) (fun _ => rfl)
    (fun _ _ _ kept found _ _ _ k => (busyFlags_finishIdle be found k).trans (kept k)) k

theorem busyFlags_finishCheapestIOZone (be : Backend) (d : Device) (k : ZoneKind) :
    (finishCheapestIOZone be d).1.busyFlags k = d.busyFlags k := by
  rcases finishCheapestIOZone_cases be d with same | ⟨v, z, found, -, -, -, held⟩
  · rw [same]
  · rw [held, busyFlags_finishIdle be found]

theorem busyFlags_resetUnusedIOZones (be : Backend) (d : Device) (k : ZoneKind) :
    (resetUnusedIOZones be d).1.busyFlags k = d.busyFlags k := by
  refine resetUnusedIOZones_holds be (fun d' => ∀ k, d'.busyFlags k = d.busyFlags k)
    (fun _ => rfl) ?_ k
  intro d' i z kept found _ _ _ k
  have reset := busyFlags_setZone (show d'.zone .io i = some z from found)
    (Zone.resetFields_busy (be.reset z.start).2.1 (be.reset z.start).2.2 z)
  dsimp only
  split <;> simp only [busyFlags_putActiveIOZoneToken, busyFlags_setWl, reset, kept]

theorem busyFlags_finishLoop {be : Backend} {fuel : Nat} {d : Device} {r : Device × IOStatus}
    (run : finishLoop be fuel d = some r) (k : ZoneKind) : r.1.busyFlags k = d.busyFlags k :=
  finishLoop_holds be (fun d' => ∀ k, d'.busyFlags k = d.busyFlags k)
    (fun d' _ => ∀ k, d'.busyFlags k = d.busyFlags k)
    (fun _ kept _ k => by rw [← kept k]; simp [busyFlags])
    (fun _ kept _ _ k => (busyFlags_finishCheapestIOZone be _ k).trans (kept k))
    (fun _ kept _ _ k => (busyFlags_finishCheapestIOZone be _ k).trans (kept k))
    fuel d r (fun _ => rfl) run k

end Device

open Device

/-- Opening a new zone with no zone in hand: it ends holding exactly the zone it returns. -/
theorem heldOver_allocateNewZone {be : Backend} {fuel : Nat} {L : WriteLifeTimeHint}
    {gotToken : Bool} {d₀ d : Device} {r : Device × IOStatus × Option Nat}
    (over : d₀.HeldOver d none) (run : allocateNewZone be fuel L gotToken d = some r) :
    d₀.HeldOver r.1 r.2.2 := by
  unfold allocateNewZone at run
  obtain ⟨⟨d₁, status⟩, first, rfl⟩ := Option.map_eq_some'.mp run
  have swept : d₀.HeldOver d₁ none := by
    cases gotToken
    · exact over.congr (busyFlags_finishLoop first)
    · obtain ⟨rfl, rfl⟩ := Prod.mk.inj (Option.some.inj first)
      exact over
  dsimp only
  split
  · exact swept.congr (busyFlags_putOpenIOZoneToken d₁)
  · rcases allocateEmptyZone_cases L d₁ with same | ⟨b, z, found, free, -, held⟩
    · rw [same]
      exact swept.congr fun k => by simp [allocateResult]
    · have bound := (List.getElem?_eq_some_iff.mp found).1
      rw [held]
      dsimp only [allocateResult]
      rw [setLifetime_setZone _ _ bound]
      exact swept.hold found free rfl

/-- The branch `best_diff >= LIFETIME_DIFF_COULD_BE_WORSE`, holding the zone of the best
match if there is one: it ends holding exactly the zone it returns. -/
theorem heldOver_allocateWorseMatch {be : Backend} {fuel : Nat} {L : WriteLifeTimeHint}
    {bestDiff : Nat} {zone : Option Nat} {d₀ d : Device} {r : Device × IOStatus × Option Nat}
    (over : d₀.HeldOver d zone) (run : allocateWorseMatch be fuel L bestDiff zone d = some r) :
    d₀.HeldOver r.1 r.2.2 := by
  unfold allocateWorseMatch at run
  have token := over.congr (busyFlags_getActiveIOZoneTokenIfAvailable d)
  revert run token
  generalize d.getActiveIOZoneTokenIfAvailable = got
  obtain ⟨gotToken, d₁⟩ := got
  intro run token
  cases zone with
  | none => exact heldOver_allocateNewZone token run
  | some b =>
    dsimp only at run
    split at run
    · cases run
      exact token
    · obtain ⟨d₂, released, back⟩ := token.checkRelease
      rw [released] at run
      exact heldOver_allocateNewZone back run

/-- `AllocateIOZone` releases every zone it acquires on its way, except the zone it returns,
which was idle when the call began; when it returns no zone, on success or failure, every busy
flag is as it found it. -/
theorem allocateIOZone_holds_returned {be : Backend} {fuel m : Nat} {L : WriteLifeTimeHint}
    {ioType : IOType} {d : Device} {r : Device × IOStatus × Option Nat}
    (run : allocateIOZone be fuel m L ioType d = some r) : d.HeldOver r.1 r.2.2 := by
  unfold allocateIOZone at run
  by_cases deferred : (!d.getZoneDeferredStatus.isOk) = true
  · rw [if_pos deferred] at run
    cases run
    exact fun _ => rfl
  rw [if_neg deferred] at run
  have swept : d.HeldOver (if ioType ≠ .kWAL then applyFinishThreshold be d else (d, .ok)).1
      none := by
    split
    · exact fun k => busyFlags_applyFinishThreshold be d k
    · exact fun _ => rfl
  revert run swept
  generalize (if ioType ≠ .kWAL then applyFinishThreshold be d else (d, .ok)) = first
  obtain ⟨d₁, status⟩ := first
  intro run swept
  dsimp only at run swept
  by_cases failed : (!status.isOk) = true
  · rw [if_pos failed] at run
    cases run
    exact swept
  rw [if_neg failed] at run
  obtain ⟨d₂, waited, run⟩ := Option.bind_eq_some.mp run
  obtain ⟨-, rfl⟩ := waitForOpenIOZoneToken_eq_some.mp waited
  have opened : d.HeldOver (d₁.setOpenIOZones (d₁.openIOZones + 1)) none :=
    swept.congr (busyFlags_setOpenIOZones d₁ _)
  rcases getBestOpenZoneMatch_cases L m (d₁.setOpenIOZones (d₁.openIOZones + 1)) with
    same | ⟨b, z, found, free, -, -, -, held⟩
  · simp only [same, IOStatus.isOk_ok, Bool.not_true, Bool.false_eq_true, if_false] at run
    split at run
    · exact heldOver_allocateWorseMatch opened run
    · cases run
      exact opened.congr (busyFlags_putOpenIOZoneToken _)
  · simp only [held, IOStatus.isOk_ok, Bool.not_true, Bool.false_eq_true, if_false] at run
    have hold := opened.hold found free (Zone.setBusy_busy z true)
    split at run
    · exact heldOver_allocateWorseMatch hold run
    · cases run
      exact hold

/-- The fresh device cut down to one empty io zone. -/
def oneZoneDevice : Device :=
  { freshDevice with ioZones := [Zone.ofListing ⟨0, 4096, 0, true, false, true, false, false⟩] }

theorem allocateIOZone_holds_returned_one_zone :
    (allocateIOZone (onlineBackend 4096) 30 0 .wlthMedium .kData oneZoneDevice).isSome ∧
      ∀ r, allocateIOZone (onlineBackend 4096) 30 0 .wlthMedium .kData oneZoneDevice = some r →
        oneZoneDevice.HeldOver r.1 r.2.2 :=
  ⟨by decide, fun _ run => allocateIOZone_holds_returned run⟩

/-- The second phase of `GetMigrateTargetZone`, with no zone in hand: it ends holding exactly
the zone it returns. -/
theorem heldOver_migrateOpenPhase (L : WriteLifeTimeHint) (m : Nat) {d₀ d : Device}
    (over : d₀.HeldOver d none) :
    d₀.HeldOver (migrateOpenPhase L m d).1 (migrateOpenPhase L m d).2.2 := by
  rcases migrateOpenPhase_cases L m d with same | ⟨b, z, found, free, -, -, -, -, held⟩
  · rw [same]
    exact over.congr (busyFlags_setMigrating d false)
  · rw [held]
    exact over.hold found free (Zone.setBusy_busy z true)

theorem heldOver_getMigrateTargetZone {L : WriteLifeTimeHint} {m : Nat} {d : Device}
    {r : Device × IOStatus × Option Nat} (run : getMigrateTargetZone L m d = some r) :
    d.HeldOver r.1 r.2.2 := by
  obtain ⟨-, d₁, waited, rfl⟩ := getMigrateTargetZone_eq_some run
  obtain ⟨-, rfl⟩ := waitForOpenIOZoneToken_eq_some.mp waited
  have start : d.HeldOver ((d.setMigrating true).setOpenIOZones
      ((d.setMigrating true).openIOZones + 1)) none := fun k => by simp
  rcases getMigrateTargetZoneWithToken_cases L m _ with ⟨t, z, found, free, -, -, held⟩ | same | same
  · rw [held]
    exact (start.congr (busyFlags_setActiveIOZones _ _)).hold found free (Zone.setBusy_busy _ true)
  · rw [same]
    exact heldOver_migrateOpenPhase L m start
  · rw [same]
    exact heldOver_migrateOpenPhase L m (start.congr (busyFlags_putOpenIOZoneToken _))

theorem heldOver_takeMigrateZone {L : WriteLifeTimeHint} {m : Nat} {d : Device}
    {r : Device × IOStatus × Option Nat} (run : takeMigrateZone L m d = some r) :
    d.HeldOver r.1 r.2.2 := by
  obtain ⟨-, rfl⟩ := takeMigrateZone_eq_some run
  have start : d.HeldOver (d.setMigrating true) none := busyFlags_setMigrating d true
  rcases takeMigrateZoneLocked_cases L m (d.setMigrating true) with
    same | ⟨b, z, found, free, -, -, -, held⟩
  · rw [same]
    exact start.congr (busyFlags_setMigrating _ false)
  · rw [held]
    exact start.hold found free (Zone.setBusy_busy z true)

theorem heldOver_releaseMigrateZone {d₀ d : Device} {zone : Option Nat}
    (over : d₀.HeldOver d zone) : d₀.HeldOver (releaseMigrateZone zone d).1 none := by
  rw [releaseMigrateZone_device]
  cases zone with
  | none => exact over.congr (busyFlags_setMigrating d false)
  | some i => exact (over.congr (busyFlags_setMigrating d false)).release

/-- The migration's hand-over: `GetMigrateTargetZone` and `TakeMigrateZone` end holding exactly
the zone they return, idle when they began, and `ReleaseMigrateZone` of that zone gives every
busy flag back as the call found it. -/
theorem migrateZone_held_until_released {L : WriteLifeTimeHint} {m : Nat} {d : Device}
    {r : Device × IOStatus × Option Nat}
    (run : getMigrateTargetZone L m d = some r ∨ takeMigrateZone L m d = some r) :
    d.HeldOver r.1 r.2.2 ∧ d.HeldOver (releaseMigrateZone r.2.2 r.1).1 none := by
  have held : d.HeldOver r.1 r.2.2 :=
    run.elim heldOver_getMigrateTargetZone heldOver_takeMigrateZone
  exact ⟨held, heldOver_releaseMigrateZone held⟩

theorem migrateZone_held_until_released_fresh :
    (getMigrateTargetZone .wlthShort 0 freshDevice).isSome ∧
      ∀ r, getMigrateTargetZone .wlthShort 0 freshDevice = some r →
        freshDevice.HeldOver r.1 r.2.2 ∧ freshDevice.HeldOver (releaseMigrateZone r.2.2 r.1).1 none :=
  ⟨by decide, fun _ run => migrateZone_held_until_released (.inl run)⟩

/-- Every scan ends holding exactly the zone it keeps, idle when it began. -/
theorem heldOver_exec (sc : Scan) (d : Device) (score₀ : Nat) :
    d.HeldOver (sc.exec d score₀).1 (sc.exec d score₀).2.2.2 := by
  rcases Scan.exec_cases sc d score₀ with same | ⟨b, z, found, free, -, -, held⟩
  · rw [same]
    exact fun _ => rfl
  · rw [held]
    exact HeldOver.hold (fun _ => rfl) found free (Zone.setBusy_busy z true)

theorem heldOver_allocateEmptyZone (L : WriteLifeTimeHint) (d : Device) :
    d.HeldOver (allocateEmptyZone L d).1 (allocateEmptyZone L d).2.2 := by
  have held := heldOver_exec (allocateEmptyZoneScan L) d 0
  unfold allocateEmptyZone
  revert held
  generalize (allocateEmptyZoneScan L).exec d 0 = r
  exact id

theorem heldOver_allocateEmptyZoneFirst (d : Device) :
    d.HeldOver (allocateEmptyZoneFirst d).1 (allocateEmptyZoneFirst d).2.2 := by
  have held := heldOver_exec allocateEmptyZoneFirstScan d 0
  unfold allocateEmptyZoneFirst
  revert held
  generalize allocateEmptyZoneFirstScan.exec d 0 = r
  exact id

/-- The scans and sweeps the allocator is built from keep the busy-flag discipline.
`GetBestOpenZoneMatch` and both `AllocateEmptyZone` end holding exactly the zone they return,
idle when they began. `ApplyFinishThreshold`, `FinishCheapestIOZone`, `ResetUnusedIOZones` and
`LogGarbageInfo` leave every busy flag as they found it, whatever the backend answers. -/
theorem scans_and_sweeps_release (be : Backend) (L : WriteLifeTimeHint) (m : Nat) (d : Device) :
    d.HeldOver (getBestOpenZoneMatch L m d).1 (getBestOpenZoneMatch L m d).2.2.2 ∧
      d.HeldOver (allocateEmptyZone L d).1 (allocateEmptyZone L d).2.2 ∧
      d.HeldOver (allocateEmptyZoneFirst d).1 (allocateEmptyZoneFirst d).2.2 ∧
      d.HeldOver (applyFinishThreshold be d).1 none ∧
      d.HeldOver (finishCheapestIOZone be d).1 none ∧
      d.HeldOver (resetUnusedIOZones be d).1 none ∧
      d.HeldOver (logGarbageInfo d).1 none :=
  ⟨heldOver_exec _ d _, heldOver_allocateEmptyZone L d, heldOver_allocateEmptyZoneFirst d,
    busyFlags_applyFinishThreshold be d, busyFlags_finishCheapestIOZone be d,
    busyFlags_resetUnusedIOZones be d, fun _ => by rw [logGarbageInfo_device]⟩

end ZenFS
