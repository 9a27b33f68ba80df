import Mathlib.Data.Nat.Cast.Order.Ring
import ZenFS.System

set_option autoImplicit false

/- Meta zones: what `AllocateMetaZone` hands out, the metadata log's use of a meta zone (take
it, append to it, give it back), and what a run of such uses does to the wear-leveling
trigger of `Zone::Reset`. -/
namespace ZenFS

/-- A meta zone as `AllocateMetaZone` hands it out: held, empty, with no live data. -/
def Device.MetaHandedOut (d : Device) (i : Nat) : Prop :=
  ∃ z, d.metaZones[i]? = some z ∧ z.busy = true ∧ z.wp = z.start ∧ z.usedCapacity = 0

theorem allocateMetaZone_handed_out {be : Backend} {d d' : Device} {status : IOStatus} {i : Nat}
    (handed : allocateMetaZone be d = (d', status, some i)) : d'.MetaHandedOut i := by
  have loop := forZones_holds
    (fun s : Device × Option Nat => ∀ i, s.2 = some i → s.1.MetaHandedOut i) (fun _ _ => True)
    (allocateMetaZoneBody be)
    (fun i s _ => by
      obtain ⟨d', x⟩ := s
      rcases allocateMetaZoneBody_cases be i d' x with
        same | ⟨z, found, -, ⟨-, pass⟩ | ⟨unused, empty, pass⟩ | ⟨unused, -, -, pass⟩⟩
      · rw [same]; simp [Flow.Holds]
      · rw [pass]; simp [Flow.Holds]
      all_goals
        have bound := (List.getElem?_eq_some_iff.mp found).1
        rw [pass]
        rintro _ ⟨⟩
        refine ⟨_, by simpa [Device.zone_eq] using
          Device.zone_setZone_self (k := .meta) _ bound, rfl, ?_, ?_⟩ <;> simp_all)
    (List.range d.metaZones.length) (d, none) (by simp)
  unfold allocateMetaZone at handed
  split at handed <;> rename_i heq <;> rw [heq] at loop <;>
    simp only [Prod.mk.injEq, Option.some.injEq] at handed
  · obtain ⟨rfl, -, rfl⟩ := handed
    exact loop _ rfl
  all_goals simp at handed

/-- The first meta zone, idle, without live data and written to, is the one `AllocateMetaZone`
hands out once its reset succeeds, whatever capacity the reset leaves it: the zone's capacity
is never looked at. -/
theorem allocateMetaZone_of_first_written {be : Backend} {d : Device} {z : Zone}
    (found : d.metaZones[0]? = some z) (free : z.busy = false) (unused : z.usedCapacity = 0)
    (written : z.wp ≠ z.start) (success : (be.reset z.start).1.isOk = true) :
    allocateMetaZone be d =
      ((d.setZone .meta 0 ((z.resetFields (be.reset z.start).2.1
          (be.reset z.start).2.2).setBusy true)).setWl
        ((d.setZone .meta 0 ((z.resetFields (be.reset z.start).2.1
          (be.reset z.start).2.2).setBusy true)).resetWearLeveling), .ok, some 0) := by
  obtain ⟨n, length⟩ : ∃ n, d.metaZones.length = n + 1 :=
    ⟨_, (Nat.succ_pred_eq_of_pos (List.getElem?_eq_some_iff.mp found).1).symm⟩
  unfold allocateMetaZone
  rw [length, List.range_succ_eq_map]
  simp [forZones, allocateMetaZoneBody_of_free none found free, unused, written, success]

/-- A backend that reports every zone it resets as gone offline. -/
def offlineBackend : Backend where
  reset _ := (.ok, true, 0)
  finish _ := .ok
  close _ := .ok

/-- The metadata log's use of a meta zone, as a client of the allocator: take one with
`AllocateMetaZone`, append `size` bytes that the backend writes in one `Write`, and give the
zone back. -/
def metaLogRoll (be : Backend) (size : Nat) (d : Device) : Device :=
  match allocateMetaZone be d with
  | (d₁, _, some i) =>
    match (d₁.zone .meta i).bind (Zone.append size [.ok size]) with
    | some r => (d₁.setZone .meta i r.zone).setZone .meta i (r.zone.setBusy false)
    | none => d₁
  | (d₁, _, none) => d₁

/-- A roll of the metadata log is a run of steps of the device. -/
theorem reachable_metaLogRoll {c : Contract} {be : Backend} {size : Nat} {d : Device}
    (reach : Reachable c (Step c) d) (answers : c.backend d.zoneSize be) (small : size < 2 ^ 32)
    (writes : c.writes size [.ok size]) : Reachable c (Step c) (metaLogRoll be size d) := by
  have taken := reach.step (.allocateMetaZone answers)
  unfold metaLogRoll
  rcases handed : allocateMetaZone be d with ⟨d₁, status, _ | i⟩
  · rw [handed] at taken; exact taken
  · rw [handed] at taken
    obtain ⟨z, found, held, -, -⟩ := allocateMetaZone_handed_out handed
    have found' : d₁.zone .meta i = some z := found
    have bound := (List.getElem?_eq_some_iff.mp found).1
    dsimp only
    rw [found', Option.some_bind]
    cases run : z.append size [.ok size] with
    | none => exact taken
    | some r =>
      exact (taken.step (.append found' held small writes run)).step
        (.releaseMeta (by simpa [Device.zone_eq] using Device.zone_setZone_self (k := .meta) r.zone bound)
          (by rw [Zone.append_busy run, held]))

/-- After one roll of the metadata log on a fresh device, the next `AllocateMetaZone` against
a backend that takes the zone offline hands out meta zone 0 with no capacity. -/
theorem allocateMetaZone_hands_out_offline_zone :
    Reachable (.free fun _ => True) (Step (.free fun _ => True))
        (metaLogRoll (onlineBackend 4096) 1 freshDevice) ∧
      (allocateMetaZone offlineBackend (metaLogRoll (onlineBackend 4096) 1 freshDevice)).2 =
        (.ok, some 0) ∧
      (allocateMetaZone offlineBackend
        (metaLogRoll (onlineBackend 4096) 1 freshDevice)).1.metaZones[0]?.map Zone.capacity = some 0 :=
  ⟨reachable_metaLogRoll (reachable_freshDevice trivial) trivial (by decide) trivial, by decide,
    by decide⟩

/-- A used meta zone that `AllocateMetaZone` passes over stays busy: the zone it acquires is
never released. -/
theorem allocateMetaZone_keeps_used_busy {be : Backend} {d : Device} {z : Zone}
    (found : d.metaZones[0]? = some z) (free : z.busy = false) (used : 0 < z.usedCapacity) :
    ∃ z', (allocateMetaZone be d).1.metaZones[0]? = some z' ∧ z'.busy = true := by
  have bound := (List.getElem?_eq_some_iff.mp found).1
  obtain ⟨n, length⟩ : ∃ n, d.metaZones.length = n + 1 := ⟨_, (Nat.succ_pred_eq_of_pos bound).symm⟩
  have loop := forZones_holds
    (fun s : Device × Option Nat => ∃ z', s.1.metaZones[0]? = some z' ∧ z'.busy = true)
    (fun d' _ => ∃ z', d'.metaZones[0]? = some z' ∧ z'.busy = true) (allocateMetaZoneBody be)
    (fun i s kept => by
      obtain ⟨d', x⟩ := s
      obtain ⟨z', found', held⟩ := kept
      rcases allocateMetaZoneBody_cases be i d' x with
        same | ⟨y, at_i, idle, ⟨-, pass⟩ | ⟨-, -, pass⟩ | ⟨-, -, -, pass⟩⟩
      · rw [same]; exact ⟨z', found', held⟩
      all_goals
        have other : i ≠ 0 := by
          rintro rfl
          rw [found'] at at_i
          cases at_i
          simp [held] at idle
        rw [pass]
        exact ⟨z', by simpa [Device.setZone_eq, List.getElem?_set, other] using found', held⟩)
    (List.map Nat.succ (List.range n)) (d.setZone .meta 0 (z.setBusy true), none)
    ⟨z.setBusy true, by simp [Device.setZone_eq, bound], rfl⟩
  unfold allocateMetaZone
  rw [length, List.range_succ_eq_map]
  simp only [forZones, allocateMetaZoneBody_of_free none found free, if_pos used]
  split <;> rename_i heq <;> rw [heq] at loop <;> exact loop

/-- Meta zone 0 of a fresh device after one roll of the metadata log, with its byte live. -/
def usedMetaZoneDevice : Device :=
  (metaLogRoll (onlineBackend 4096) 1 freshDevice).setZone .meta 0
    ⟨0, 4096, 1, 4095, 1, .wlthNotSet, 0, false⟩

/-- On a device with no busy meta zone, `AllocateMetaZone` hands out meta zone 1 and leaves
meta zone 0, which holds live data, busy as well. -/
theorem allocateMetaZone_leaks_used_zone :
    Reachable (.free fun _ => True) (Step (.free fun _ => True)) usedMetaZoneDevice ∧
      usedMetaZoneDevice.metaZones.map Zone.busy = [false, false, false] ∧
      (allocateMetaZone (onlineBackend 4096) usedMetaZoneDevice).2 = (.ok, some 1) ∧
      (allocateMetaZone (onlineBackend 4096) usedMetaZoneDevice).1.metaZones.map Zone.busy =
        [true, true, false] :=
  ⟨.step (reachable_metaLogRoll (reachable_freshDevice trivial) trivial (by decide) trivial)
      (.setUsed (z := ⟨0, 4096, 1, 4095, 0, .wlthNotSet, 0, false⟩) 1 (by decide) (by decide)),
    by decide, by decide, by decide⟩

/-- Once the total passes `GetNrZones()`, a reset at which every reset so far was of a meta
zone wakes the worker: `io_zones_reset_count` is 0, below the floored `check_reset_count_`,
and `reset_count_diff` wraps. -/
theorem Device.wearLevelingCheck_of_no_io_resets {d : Device}
    (past : d.nrZones < d.wl.totalResetCount) (untouched : d.ioZonesResetCount = 0)
    (check : d.wl.checkResetCount ≤ d.nrZones) (pos : 0 < d.nrZones)
    (small : 100 * d.nrZones < 2 ^ 32)
    (finiteThreshold : ∃ m e, d.wl.resetRatioThreshold = .finite m e) :
    d.wearLevelingCheck.wlWorkerSleep = false ∧
      d.wearLevelingCheck.totalResetCount = d.wl.totalResetCount := by
  have floored : d.flooredCheckResetCount = d.nrZones := by
    unfold flooredCheckResetCount; split <;> omega
  have diff : d.resetCountDiff = 2 ^ 32 - d.nrZones := by
    unfold resetCountDiff
    rw [untouched, floored, sub32_of_lt (by omega) pos, Nat.add_zero]
  have wrap : mul32 100 (2 ^ 32 - d.nrZones) = 2 ^ 32 - 100 * d.nrZones := by
    unfold mul32
    rw [show 100 * (2 ^ 32 - d.nrZones) = 2 ^ 32 - 100 * d.nrZones + 99 * 2 ^ 32 by omega,
      Nat.add_mul_mod_self_right, Nat.mod_eq_of_lt (by omega)]
  have triggered : d.wlTriggered = true := by
    unfold wlTriggered
    rw [diff, untouched, wrap,
      Double.zero_mul_lt_ofNat finiteThreshold (by omega) ((by omega : _ < 2 ^ 32).trans (by norm_num))]
    simp only [Bool.true_and, decide_eq_true_eq]
    omega
  unfold wearLevelingCheck
  simp only [if_pos past, triggered, if_true]
  split <;> exact ⟨rfl, rfl⟩

/-- The device half of a meta zone's reset, on a device whose resets so far were all of meta
zones and have just reached `GetNrZones()`: the worker wakes. -/
theorem Device.resetWearLeveling_of_meta_only {d : Device}
    (reached : d.wl.totalResetCount = d.nrZones) (fits : d.nrZones + 1 < 2 ^ 32)
    (allMeta : d.getMetaZoneResetCountNow = d.nrZones + 1)
    (check : d.wl.checkResetCount ≤ d.nrZones) (pos : 0 < d.nrZones)
    (small : 100 * d.nrZones < 2 ^ 32)
    (finiteThreshold : ∃ m e, d.wl.resetRatioThreshold = .finite m e) :
    d.resetWearLeveling.wlWorkerSleep = false ∧
      d.resetWearLeveling.totalResetCount = d.nrZones + 1 := by
  unfold resetWearLeveling
  rw [reached, add32_of_lt fits]
  exact Device.wearLevelingCheck_of_no_io_resets (by simp) (by
    show sub32 (d.nrZones + 1) d.getMetaZoneResetCountNow = 0
    rw [allMeta]; unfold sub32; omega) check pos small finiteThreshold

/-- A fresh device after 33 rolls of the metadata log: meta zone 0 has been reset 32 times,
and no io zone ever. -/
def wornMetaDevice : Device := Nat.repeat (metaLogRoll (onlineBackend 4096) 1) 33 freshDevice

theorem reachable_wornMetaDevice :
    Reachable (.free fun _ => True) (Step (.free fun _ => True)) wornMetaDevice := by
  suffices rolls : ∀ n, Reachable (.free fun _ => True) (Step (.free fun _ => True))
      (Nat.repeat (metaLogRoll (onlineBackend 4096) 1) n freshDevice) from rolls 33
  intro n
  induction n with
  | zero => exact reachable_freshDevice trivial
  | succ n ih => exact reachable_metaLogRoll ih trivial (by decide) trivial

set_option maxRecDepth 4000 in
/-- The 33rd reset of a run of meta-zone resets only wakes the wear-leveling worker, although
no io zone was ever reset. -/
theorem metaZoneResets_wake_wlWorker :
    Reachable (.free fun _ => True) (Step (.free fun _ => True)) wornMetaDevice ∧
      wornMetaDevice.wl.totalResetCount = 32 ∧ wornMetaDevice.getMetaZoneResetCountNow = 32 ∧
      wornMetaDevice.wl.wlWorkerSleep = true ∧
      (allocateMetaZone (onlineBackend 4096) wornMetaDevice).2 = (.ok, some 0) ∧
      (allocateMetaZone (onlineBackend 4096) wornMetaDevice).1.getMetaZoneResetCountNow = 33 ∧
      (allocateMetaZone (onlineBackend 4096) wornMetaDevice).1.wl.totalResetCount = 33 ∧
      (allocateMetaZone (onlineBackend 4096) wornMetaDevice).1.wl.wlWorkerSleep = false := by
  have found : wornMetaDevice.metaZones[0]? = some ⟨0, 4096, 1, 4095, 0, .wlthNotSet, 32, false⟩ := by
    decide
  rw [@allocateMetaZone_of_first_written (onlineBackend 4096) _ _ found rfl rfl (by decide) rfl]
  obtain ⟨woken, total⟩ := Device.resetWearLeveling_of_meta_only
    (d := wornMetaDevice.setZone .meta 0
      ((Zone.resetFields false 4096 ⟨0, 4096, 1, 4095, 0, .wlthNotSet, 32, false⟩).setBusy true))
    (by decide) (by decide) (by decide) (by decide) (by decide) (by decide)
    ⟨4503599627370496, -52, by decide⟩
  exact ⟨reachable_wornMetaDevice, by decide, by decide, by decide, rfl, by decide, total, woken⟩

end ZenFS
