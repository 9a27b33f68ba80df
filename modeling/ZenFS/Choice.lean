import ZenFS.Migration
import Mathlib.Data.Prod.Lex

set_option autoImplicit false

/- Which zone each selection scan hands out. Every scan of the allocator and of the migration
is shown once to pick by rank (`Scan.Ranked`); the zone it hands out is then read off
`Scan.Ranked.exec_pick`. -/
namespace ZenFS

open OrderDual

/-- The scan of `AllocateEmptyZone(file_lifetime, zone_out)` without its early exit on
`reset_count_ == 0`. Modelled from the spec: the full scan the early exit has to agree with. -/
def allocateEmptyZoneFullScan (fileLifetime : WriteLifeTimeHint) : Scan :=
  { allocateEmptyZoneScan fileLifetime with halt := fun _ => false }

/-! ### Each scan picks by rank -/

/-- `GetBestOpenZoneMatch` ranks by lifetime distance, the smallest first, and a tie goes to
the later zone. -/
theorem getBestOpenZoneMatchScan_ranked (fileLifetime : WriteLifeTimeHint) (minCapacity : Nat) :
    (getBestOpenZoneMatchScan fileLifetime minCapacity).Ranked lifetimeDiffNotGood
      (getBestOpenZoneMatchScan fileLifetime minCapacity).cand
      (fun z => toDual (getLifeTimeDiff z.lifetime fileLifetime)) true where
  ok_setBusy _ := rfl
  rank_setBusy _ := rfl
  first z := by simp [getBestOpenZoneMatchScan, getLifeTimeDiff_le]
  next z b := by simp [getBestOpenZoneMatchScan]
  halt_top := by simp [getBestOpenZoneMatchScan]

/-- For lifetimes below `WLTH_SHORT`, `AllocateEmptyZone` ranks empty zones by reset count,
the highest first. -/
theorem allocateEmptyZoneScan_ranked_of_lt {fileLifetime : WriteLifeTimeHint}
    (unset : fileLifetime.toNat < WriteLifeTimeHint.wlthShort.toNat) :
    (allocateEmptyZoneScan fileLifetime).Ranked 0 Zone.isEmpty Zone.resetCount false where
  ok_setBusy _ := rfl
  rank_setBusy _ := rfl
  first z := by simp [allocateEmptyZoneScan, unset]
  next z b := by simp [allocateEmptyZoneScan, unset]
  halt_top := by simp [allocateEmptyZoneScan, unset]

/-- From `WLTH_SHORT` on, `AllocateEmptyZone` ranks empty zones by reset count, the lowest
first; it stops at a reset count of 0, which no zone undercuts. -/
theorem allocateEmptyZoneScan_ranked_of_ge {fileLifetime : WriteLifeTimeHint}
    (short : ¬ fileLifetime.toNat < WriteLifeTimeHint.wlthShort.toNat) :
    (allocateEmptyZoneScan fileLifetime).Ranked 0 Zone.isEmpty
      (fun z => toDual z.resetCount) false where
  ok_setBusy _ := rfl
  rank_setBusy _ := rfl
  first z := by simp [allocateEmptyZoneScan, short]
  next z b := by simp [allocateEmptyZoneScan, short]
  halt_top z z' := by simp [allocateEmptyZoneScan, short]; omega

theorem allocateEmptyZoneFullScan_ranked_of_ge {fileLifetime : WriteLifeTimeHint}
    (short : ¬ fileLifetime.toNat < WriteLifeTimeHint.wlthShort.toNat) :
    (allocateEmptyZoneFullScan fileLifetime).Ranked 0 Zone.isEmpty
      (fun z => toDual z.resetCount) false where
  ok_setBusy _ := rfl
  rank_setBusy _ := rfl
  first z := by simp [allocateEmptyZoneFullScan, allocateEmptyZoneScan, short]
  next z b := by simp [allocateEmptyZoneFullScan, allocateEmptyZoneScan, short]
  halt_top := by simp [allocateEmptyZoneFullScan]

/-- `FinishCheapestIOZone` ranks partly written zones by remaining capacity, the smallest
first. -/
theorem finishCheapestIOZoneScan_ranked :
    finishCheapestIOZoneScan.Ranked 0 finishCheapestIOZoneScan.cand
      (fun z => toDual z.capacity) false where
  ok_setBusy _ := rfl
  rank_setBusy _ := rfl
  first z := by simp [finishCheapestIOZoneScan]
  next z b := by simp [finishCheapestIOZoneScan]
  halt_top := by simp [finishCheapestIOZoneScan]

/-- The first phase of `GetMigrateTargetZone` ranks empty zones by reset count, the highest
first. -/
theorem migrateEmptyScan_ranked :
    migrateEmptyScan.Ranked 0 Zone.isEmpty Zone.resetCount false where
  ok_setBusy _ := rfl
  rank_setBusy _ := rfl
  first z := by simp [migrateEmptyScan]
  next z b := by simp [migrateEmptyScan]
  halt_top := by simp [migrateEmptyScan]

theorem allocateEmptyZoneFullScan_of_lt {fileLifetime : WriteLifeTimeHint}
    (unset : fileLifetime.toNat < WriteLifeTimeHint.wlthShort.toNat) :
    allocateEmptyZoneFullScan fileLifetime = allocateEmptyZoneScan fileLifetime := by
  simp only [allocateEmptyZoneFullScan, allocateEmptyZoneScan, if_pos unset]

/-! ### The zone each scan hands out -/

theorem getBestOpenZoneMatchScan_cand_eq_true (fileLifetime : WriteLifeTimeHint)
    (minCapacity : Nat) (z : Zone) :
    (getBestOpenZoneMatchScan fileLifetime minCapacity).cand z = true ↔
      0 < z.usedCapacity ∧ z.capacity ≠ 0 ∧ minCapacity ≤ z.capacity := by
  simp [getBestOpenZoneMatchScan, Zone.isFull, and_assoc]

/-- `GetBestOpenZoneMatch` hands out, busy, the last idle io zone with live data, not full and
with room for `min_capacity` bytes whose lifetime distance to the file is smallest, and returns
that distance; with no such zone it changes nothing, hands out nothing and returns
`LIFETIME_DIFF_NOT_GOOD`. The last, not the first: a zone replaces the best on a tie. -/
theorem getBestOpenZoneMatch_last_closest (fileLifetime : WriteLifeTimeHint) (minCapacity : Nat)
    (d : Device) :
    (getBestOpenZoneMatch fileLifetime minCapacity d = (d, .ok, lifetimeDiffNotGood, none) ∧
        ∀ z ∈ d.ioZones, z.busy = false → 0 < z.usedCapacity → z.capacity ≠ 0 →
          z.capacity < minCapacity) ∨
      ∃ b z, d.ioZones[b]? = some z ∧ z.busy = false ∧ 0 < z.usedCapacity ∧ z.capacity ≠ 0 ∧
        minCapacity ≤ z.capacity ∧
        (∀ j z', d.ioZones[j]? = some z' → z'.busy = false → 0 < z'.usedCapacity →
          z'.capacity ≠ 0 → minCapacity ≤ z'.capacity →
          getLifeTimeDiff z.lifetime fileLifetime ≤ getLifeTimeDiff z'.lifetime fileLifetime ∧
            (b < j → getLifeTimeDiff z.lifetime fileLifetime <
              getLifeTimeDiff z'.lifetime fileLifetime)) ∧
        getBestOpenZoneMatch fileLifetime minCapacity d =
          (d.setZone .io b (z.setBusy true), .ok, getLifeTimeDiff z.lifetime fileLifetime,
            some b) := by
  have accept := getBestOpenZoneMatchScan_cand_eq_true fileLifetime minCapacity
  rcases (getBestOpenZoneMatchScan_ranked fileLifetime minCapacity).exec_pick d with
    ⟨same, none⟩ | ⟨b, z, ⟨found, free, accepted, loses⟩, held⟩
  · refine .inl ⟨same, fun z mem free used room => Nat.lt_of_not_le fun fits => ?_⟩
    have accepted := (accept z).mpr ⟨used, room, fits⟩
    rw [none z mem free] at accepted
    cases accepted
  · obtain ⟨used, room, fits⟩ := (accept z).mp accepted
    refine .inr ⟨b, z, found, free, used, room, fits,
      fun j z' found' free' used' room' fits' => ?_, held⟩
    simpa [Scan.Loses] using loses j z' found' free' ((accept z').mpr ⟨used', room', fits'⟩)

/-- Two io zones with live short-lived data: `shortLivedDevice`, then the next empty zone taken
as a migration target for short-lived data as well, written to, given back, and with its byte
live. -/
def twoShortLivedDevice : Device :=
  (releaseMigrateZone (some 1)
    ((getMigrateTargetZoneWithToken .wlthShort 0
      ((shortLivedDevice.setMigrating true).setOpenIOZones 2)).1.appendOnce .io 1 1)).1
    |>.setUsedCapacity .io 1 1

/-- Of two idle io zones with live data, room and the same lifetime, `GetBestOpenZoneMatch`
hands out the second. -/
theorem getBestOpenZoneMatch_tie_goes_last :
    Reachable (.free fun _ => True) (Step (.free fun _ => True)) twoShortLivedDevice ∧
      (twoShortLivedDevice.ioZones.take 2).map
          (fun z => (z.busy, z.usedCapacity, z.capacity, z.lifetime)) =
        [(false, 1, 4095, .wlthShort), (false, 1, 4095, .wlthShort)] ∧
      (getBestOpenZoneMatch .wlthShort 0 twoShortLivedDevice).2.2 = (50, some 1) :=
  ⟨((reachable_shortLivedDevice.step (@Step.getMigrateTargetZone _ .wlthShort 0 _ _ rfl))
      |>.appendOnce (by decide) (by decide) trivial |>.step (.releaseMigrateZone (some 1) _))
      |>.setUsedCapacity (by decide),
    by decide, by decide⟩

/-- `AllocateEmptyZone(file_lifetime, zone_out)` under a ranking of its scan: the pick, or
nothing and no change when no idle zone is empty. -/
theorem allocateEmptyZone_of_ranked {K : Type} [LinearOrder K] {fileLifetime : WriteLifeTimeHint}
    {rank : Zone → K}
    (ranked : (allocateEmptyZoneScan fileLifetime).Ranked 0 Zone.isEmpty rank false)
    (d : Device) :
    (allocateEmptyZone fileLifetime d = (d, .ok, none) ∧
        ∀ z ∈ d.ioZones, z.busy = false → z.wp ≠ z.start) ∨
      ∃ b z, Scan.IsPick d.ioZones Zone.isEmpty rank false b z ∧
        allocateEmptyZone fileLifetime d = (d.setZone .io b (z.setBusy true), .ok, some b) := by
  unfold allocateEmptyZone
  rcases ranked.exec_pick d with ⟨same, none⟩ | ⟨b, z, pick, held⟩
  · exact .inl ⟨by rw [same], fun z mem free => by simpa [Zone.isEmpty] using none z mem free⟩
  · exact .inr ⟨b, z, pick, by rw [held]⟩

/-- `AllocateEmptyZone(file_lifetime, zone_out)` hands out, busy, the first idle empty io zone
whose reset count is the highest among the idle empty io zones for lifetimes below
`WLTH_SHORT`, and the lowest from `WLTH_SHORT` on; with none it hands out nothing and changes
nothing. Its early exit on a reset count of 0 ends as the full scan does. -/
theorem allocateEmptyZone_first_by_reset_count (fileLifetime : WriteLifeTimeHint) (d : Device) :
    ((allocateEmptyZone fileLifetime d = (d, .ok, none) ∧
        ∀ z ∈ d.ioZones, z.busy = false → z.wp ≠ z.start) ∨
      ∃ b z, d.ioZones[b]? = some z ∧ z.busy = false ∧ z.wp = z.start ∧
        (∀ j z', d.ioZones[j]? = some z' → z'.busy = false → z'.wp = z'.start →
          if fileLifetime.toNat < WriteLifeTimeHint.wlthShort.toNat then
            z'.resetCount ≤ z.resetCount ∧ (j < b → z'.resetCount < z.resetCount)
          else z.resetCount ≤ z'.resetCount ∧ (j < b → z.resetCount < z'.resetCount)) ∧
        allocateEmptyZone fileLifetime d = (d.setZone .io b (z.setBusy true), .ok, some b)) ∧
      (allocateEmptyZoneScan fileLifetime).exec d 0 =
        (allocateEmptyZoneFullScan fileLifetime).exec d 0 := by
  by_cases unset : fileLifetime.toNat < WriteLifeTimeHint.wlthShort.toNat
  · refine ⟨?_, by rw [allocateEmptyZoneFullScan_of_lt unset]⟩
    refine (allocateEmptyZone_of_ranked (allocateEmptyZoneScan_ranked_of_lt unset) d).imp_right ?_
    rintro ⟨b, z, ⟨found, free, empty, loses⟩, held⟩
    refine ⟨b, z, found, free, by simpa using empty, fun j z' found' free' empty' => ?_, held⟩
    simpa [unset, Scan.Loses] using loses j z' found' free' (by simpa using empty')
  · refine ⟨?_, (allocateEmptyZoneScan_ranked_of_ge unset).exec_eq
      (allocateEmptyZoneFullScan_ranked_of_ge unset) rfl d⟩
    refine (allocateEmptyZone_of_ranked (allocateEmptyZoneScan_ranked_of_ge unset) d).imp_right ?_
    rintro ⟨b, z, ⟨found, free, empty, loses⟩, held⟩
    refine ⟨b, z, found, free, by simpa using empty, fun j z' found' free' empty' => ?_, held⟩
    simpa [unset, Scan.Loses] using loses j z' found' free' (by simpa using empty')

/-- `FinishCheapestIOZone` picks the first idle io zone, neither empty nor full, with the least
capacity left, finishes it (capacity 0, write pointer at the zone's end) and gives back its
active token when the backend finish succeeded; the other zones and the busy flags are as they
were. With no such zone it changes nothing and returns OK. -/
theorem finishCheapestIOZone_first_cheapest (be : Backend) (d : Device) :
    (finishCheapestIOZone be d = (d, .ok) ∧
        ∀ z ∈ d.ioZones, z.busy = false → z.wp = z.start ∨ z.capacity = 0) ∨
      ∃ v z, d.ioZones[v]? = some z ∧ z.busy = false ∧ z.wp ≠ z.start ∧ z.capacity ≠ 0 ∧
        (∀ j z', d.ioZones[j]? = some z' → z'.busy = false → z'.wp ≠ z'.start →
          z'.capacity ≠ 0 → z.capacity ≤ z'.capacity ∧ (j < v → z.capacity < z'.capacity)) ∧
        finishCheapestIOZone be d =
          if (be.finish z.start).isOk then
            ((d.setZone .io v { z with capacity := 0, wp := add64 z.start d.zoneSize })
              |>.putActiveIOZoneToken, .ok)
          else (d, be.finish z.start) := by
  unfold finishCheapestIOZone
  rcases finishCheapestIOZoneScan_ranked.exec_pick d with
    ⟨same, none⟩ | ⟨v, z, ⟨found, free, partly, loses⟩, held⟩
  · refine .inl ⟨by rw [same]; rfl, fun z mem free => ?_⟩
    simpa [finishCheapestIOZoneScan, Zone.isEmpty, Zone.isFull, or_iff_not_imp_left] using
      none z mem free
  · simp only [finishCheapestIOZoneScan, Bool.not_eq_true', Bool.or_eq_false_iff, Zone.isEmpty,
      Zone.isFull, decide_eq_false_iff_not] at partly
    refine .inr ⟨v, z, found, free, partly.1, partly.2,
      fun j z' found' free' written' room' => ?_, ?_⟩
    · simpa [Scan.Loses] using
        loses j z' found' free'
          (by simp [finishCheapestIOZoneScan, Zone.isEmpty, Zone.isFull, written', room'])
    · rw [held]
      simp only [IOStatus.isOk_ok, Bool.not_true, Bool.false_eq_true, if_false]
      rw [finishVictim_of_held found free, Device.finishIdle]
      cases answer : (be.finish z.start).isOk <;> simp [Zone.finish_of_ok, answer]

end ZenFS
