import Mathlib.Algebra.Order.BigOperators.Group.List
import Mathlib.Algebra.Order.Ring.Nat
import ZenFS.Reclaim

set_option autoImplicit false

/- `GetFreeSpace`, `GetUsedSpace` and `GetReclaimableSpace`, the device's `uint64_t` totals over
its io zones, the figures of the statistics line of `LogZoneStats`, and the garbage histogram of
`LogGarbageInfo`. On io zones that keep the invariant of the zone's life and the file layer's
promise, every byte of a zone's maximum capacity is free, live or reclaimable; so the totals do
not wrap and, with the garbage of the zones that are not full, account for the whole capacity,
the statistics line gives the exact figures with an average that is a percentage, and the
histogram counts every idle io zone once, in one of its twelve slots: the slot is computed in
`double`, each of whose roundings is monotone, so no rate up to 1 rounds past slot 11. -/
namespace ZenFS

namespace Device

/-- The `uint64_t` total over the io zones of one of their fields, the loop of `GetFreeSpace`
and `GetUsedSpace`. -/
def ioZonesTotal (field : Zone → Nat) (d : Device) : Nat :=
  d.ioZones.foldl (fun total z => add64 total (field z)) 0

/-- `ZonedBlockDevice::GetFreeSpace`. -/
def getFreeSpace (d : Device) : Nat := d.ioZonesTotal Zone.capacity

/-- `ZonedBlockDevice::GetUsedSpace`. -/
def getUsedSpace (d : Device) : Nat := d.ioZonesTotal Zone.usedCapacity

/-- `ZonedBlockDevice::GetReclaimableSpace`: only the full zones count, each with
`max_capacity_ - used_capacity_`. -/
def getReclaimableSpace (d : Device) : Nat :=
  d.ioZones.foldl (fun reclaimable z =>
    if z.isFull then add64 reclaimable (sub64 z.maxCapacity z.usedCapacity) else reclaimable) 0

end Device

/-- The slot of `zone_gc_stat` that `LogGarbageInfo` counts an idle io zone in: 0 when it is
empty, otherwise `int((garbage_rate + 0.1) * 10)`. -/
def Zone.garbageIndex (z : Zone) : Int :=
  if z.isEmpty then 0
  else if z.isFull then garbageSlot (sub64 z.maxCapacity z.usedCapacity) z.maxCapacity
  else garbageSlot (sub64 (sub64 z.wp z.start) z.usedCapacity) z.maxCapacity

/-- A zone in a state that its life since `Open` reaches, with no more live bytes than were
appended to it since its last reset. -/
def Zone.Accounted (zoneSize : Nat) (z : Zone) : Prop :=
  ∃ appended, ZoneReachable zoneSize ⟨z, appended⟩ ∧ z.usedCapacity ≤ appended

/-! ### One zone -/

/-- Every byte of an accounted zone's maximum capacity is free, live or reclaimable, and the
maximum capacity is a `uint64_t`. -/
theorem Zone.Accounted.split {zoneSize : Nat} {z : Zone} (accounted : z.Accounted zoneSize) :
    z.capacity + z.usedCapacity + z.getZoneReclaimableSpace = z.maxCapacity ∧
      z.maxCapacity < 2 ^ 64 := by
  obtain ⟨appended, reach, promise⟩ := accounted
  have sound := reach.sound
  obtain ⟨full, partly, -, -⟩ := sound.reclaimable promise
  refine ⟨?_, sound.maxCapacity_lt⟩
  by_cases room : z.capacity = 0
  · obtain ⟨used, space⟩ := full room
    dsimp only at used space
    omega
  · obtain ⟨-, used, space⟩ := partly room
    have written := sound.valid.written (Nat.pos_of_ne_zero room)
    dsimp only at used space written
    omega

/-- Past an empty zone, the slot is taken from the zone's reclaimable space. -/
theorem Zone.garbageIndex_of_nonEmpty {z : Zone} (nonEmpty : z.isEmpty = false) :
    z.garbageIndex = garbageSlot z.getZoneReclaimableSpace z.maxCapacity := by
  unfold Zone.garbageIndex Zone.getZoneReclaimableSpace
  rw [nonEmpty]
  cases z.isFull <;> rfl

open Double in
/-- The slot of a zone no more than all garbage is one of the twelve. Each operation rounds its
exact result, and rounding is monotone: the rate rounds to at most 1, the rate plus `0.1` to at
most the `double` `1.1`, and the product with 10 to at most 11. -/
theorem garbageSlot_bounds {garbage maxCapacity : Nat} (positive : 0 < maxCapacity)
    (within : garbage ≤ maxCapacity) (fits : maxCapacity < 2 ^ 64) :
    0 ≤ garbageSlot garbage maxCapacity ∧ garbageSlot garbage maxCapacity < 12 := by
  have small : ∀ n : Nat, n < 2 ^ 64 → fracValue n 1 0 < 2 ^ (1023 : Int) := fun n below => by
    rw [fracValue_natCast]
    exact (show (n : ℚ) < 2 ^ 64 by exact_mod_cast below).trans (by norm_num)
  have one : roundValue 1 1 0 = 1 := by
    rw [roundValue_of_roundPos (by decide : roundPos 1 1 0 = (4503599627370496, -52))]; norm_num
  -- the two conversions, the larger at least 1
  obtain ⟨nonnegG, boundG⟩ : (ofNat garbage).NonNeg ∧
      (ofNat garbage).toRat ≤ roundValue maxCapacity 1 0 :=
    ofFrac_le one_pos one_pos (by rw [fracValue_natCast, fracValue_natCast]; exact_mod_cast within)
      (small _ fits)
  obtain ⟨nonnegM, valueM⟩ : (ofNat maxCapacity).NonNeg ∧
      (ofNat maxCapacity).toRat = roundValue maxCapacity 1 0 :=
    ofFrac_nonNeg one_pos (small _ fits)
  have atLeastOne : 1 ≤ (ofNat maxCapacity).toRat := by
    rw [valueM, ← one]
    exact roundValue_mono one_pos one_pos (by rw [fracValue_natCast, fracValue_natCast]; exact_mod_cast positive)
  -- the rate, at most 1
  obtain ⟨num₁, den₁, scale₁, posDen₁, rate, rateValue⟩ :=
    div_of_nonNeg nonnegG nonnegM (by linarith)
  obtain ⟨nonnegR, boundR⟩ := ofFrac_le posDen₁ one_pos
    (by rw [rateValue, fracValue_natCast, Nat.cast_one]
        exact div_le_one_of_le₀ (valueM ▸ boundG) (by linarith) :
      fracValue num₁ den₁ scale₁ ≤ fracValue 1 1 0)
    (by norm_num [fracValue])
  rw [one] at boundR
  -- the rate plus `0.1`, at most `1.1`
  obtain ⟨nonnegT, valueT⟩ : tenth.NonNeg ∧ tenth.toRat = roundValue 1 10 0 :=
    ofFrac_nonNeg (by norm_num) (by norm_num [fracValue])
  rw [roundValue_of_roundPos (by decide : roundPos 1 10 0 = (7205759403792794, -56))] at valueT
  obtain ⟨num₂, scale₂, sum, sumValue⟩ := add_of_nonNeg (rate ▸ nonnegR) nonnegT
  obtain ⟨nonnegS, boundS⟩ := ofFrac_le one_pos one_pos
    (by rw [sumValue, valueT, rate]; norm_num [fracValue]; linarith :
      fracValue num₂ 1 scale₂ ≤ fracValue 79263353441720730 1 (-56))
    (by norm_num [fracValue])
  rw [roundValue_of_roundPos (by decide : roundPos 79263353441720730 1 (-56) =
    (4953959590107546, -52))] at boundS
  norm_num at boundS
  -- times 10, at most 11
  obtain ⟨nonnegTen, valueTen⟩ : (ofNat 10).NonNeg ∧ (ofNat 10).toRat = roundValue 10 1 0 :=
    ofFrac_nonNeg one_pos (by norm_num [fracValue])
  rw [roundValue_of_roundPos (by decide : roundPos 10 1 0 = (5629499534213120, -49))] at valueTen
  obtain ⟨num₃, scale₃, product, productValue⟩ := mul_of_nonNeg (sum ▸ nonnegS) nonnegTen
  obtain ⟨nonnegP, boundP⟩ := ofFrac_le one_pos one_pos
    (by rw [productValue, valueTen, sum]; norm_num [fracValue]; linarith :
      fracValue num₃ 1 scale₃ ≤ fracValue 49539595901075460 1 (-52))
    (by norm_num [fracValue])
  rw [roundValue_of_roundPos (by decide : roundPos 49539595901075460 1 (-52) =
    (6192449487634432, -49))] at boundP
  -- its integer part
  obtain ⟨nonnegI, le⟩ := toInt_of_nonNeg nonnegP (by norm_num at boundP ⊢; linarith)
  unfold garbageSlot
  rw [product]
  refine ⟨nonnegI, ?_⟩
  have : ((ofFrac false num₃ 1 scale₃).toInt : ℚ) < 12 := by norm_num at boundP; linarith
  exact_mod_cast this

example : garbageSlot 2800 4000 = 7 ∧ garbageSlot 4000 4000 = 11 := by decide

/-- The slot of an accounted zone with a maximum capacity is one of the twelve. -/
theorem Zone.Accounted.garbageIndex_mem {zoneSize : Nat} {z : Zone}
    (accounted : z.Accounted zoneSize) (sized : z.wp ≠ z.start → 0 < z.maxCapacity) :
    0 ≤ z.garbageIndex ∧ z.garbageIndex < 12 := by
  cases empty : z.isEmpty
  · obtain ⟨split, fits⟩ := accounted.split
    rw [Zone.garbageIndex_of_nonEmpty empty]
    exact garbageSlot_bounds (sized (by simpa [Zone.isEmpty] using empty)) (by omega) fits
  · simp [Zone.garbageIndex, empty]

/-! ### The totals -/

theorem foldl_add64 (field : Zone → Nat) :
    ∀ (zs : List Zone) (acc : Nat), acc + (zs.map field).sum < 2 ^ 64 →
      zs.foldl (fun total z => add64 total (field z)) acc = acc + (zs.map field).sum
  | [], acc, _ => by simp
  | z :: zs, acc, fits => by
    simp only [List.foldl_cons, List.map_cons, List.sum_cons] at fits ⊢
    rw [add64_of_lt (by omega), foldl_add64 field zs _ (by omega)]
    omega

theorem foldl_reclaimable :
    ∀ (zs : List Zone) (acc : Nat),
      acc + ((zs.filter Zone.isFull).map Zone.getZoneReclaimableSpace).sum < 2 ^ 64 →
      zs.foldl (fun reclaimable z => if z.isFull then
          add64 reclaimable (sub64 z.maxCapacity z.usedCapacity) else reclaimable) acc =
        acc + ((zs.filter Zone.isFull).map Zone.getZoneReclaimableSpace).sum
  | [], acc, _ => by simp
  | z :: zs, acc, fits => by
    by_cases full : z.isFull
    · simp only [List.foldl_cons, List.filter_cons, full, if_true, List.map_cons,
        List.sum_cons] at fits ⊢
      have space : z.getZoneReclaimableSpace = sub64 z.maxCapacity z.usedCapacity := by
        simp [Zone.getZoneReclaimableSpace, full]
      rw [← space, add64_of_lt (by omega), foldl_reclaimable zs _ (by omega)]
      omega
    · simp only [List.foldl_cons, List.filter_cons, full, if_false] at fits ⊢
      exact foldl_reclaimable zs acc fits

theorem accounted_sum {zoneSize : Nat} :
    ∀ zs : List Zone, (∀ z ∈ zs, z.Accounted zoneSize) →
      (zs.map Zone.capacity).sum + (zs.map Zone.usedCapacity).sum +
          ((zs.filter Zone.isFull).map Zone.getZoneReclaimableSpace).sum +
          ((zs.filter fun z => !z.isFull).map Zone.getZoneReclaimableSpace).sum =
        (zs.map Zone.maxCapacity).sum
  | [], _ => rfl
  | z :: zs, accounted => by
    have split := (accounted z (List.mem_cons_self _ _)).split.1
    have rest := accounted_sum zs fun y mem => accounted y (List.mem_cons_of_mem _ mem)
    cases full : z.isFull <;>
      simp only [List.map_cons, List.sum_cons, List.filter_cons, full, Bool.not_true,
        Bool.not_false, if_true, if_false, Bool.false_eq_true] <;> omega

/-- On a device whose io zones are each in a state their life since `Open` reaches, holding no
more live bytes than were appended to them since their last reset, and whose maximum capacities
add up to less than `2^64`: no `uint64_t` sum of `GetFreeSpace`, `GetUsedSpace` or
`GetReclaimableSpace` wraps, and the three totals together with the garbage of the zones that
are not full account for the whole maximum capacity of the io zones. -/
theorem space_accounted {d : Device} (accounted : ∀ z ∈ d.ioZones, z.Accounted d.zoneSize)
    (fits : (d.ioZones.map Zone.maxCapacity).sum < 2 ^ 64) :
    d.getFreeSpace = (d.ioZones.map Zone.capacity).sum ∧
      d.getUsedSpace = (d.ioZones.map Zone.usedCapacity).sum ∧
      d.getReclaimableSpace =
        ((d.ioZones.filter Zone.isFull).map Zone.getZoneReclaimableSpace).sum ∧
      d.getFreeSpace + d.getUsedSpace + d.getReclaimableSpace +
          ((d.ioZones.filter fun z => !z.isFull).map Zone.getZoneReclaimableSpace).sum =
        (d.ioZones.map Zone.maxCapacity).sum := by
  have total := accounted_sum d.ioZones accounted
  have free : d.getFreeSpace = (d.ioZones.map Zone.capacity).sum := by
    rw [Device.getFreeSpace, Device.ioZonesTotal, foldl_add64 _ _ _ (by omega), Nat.zero_add]
  have used : d.getUsedSpace = (d.ioZones.map Zone.usedCapacity).sum := by
    rw [Device.getUsedSpace, Device.ioZonesTotal, foldl_add64 _ _ _ (by omega), Nat.zero_add]
  have reclaimable :
      d.getReclaimableSpace = ((d.ioZones.filter Zone.isFull).map Zone.getZoneReclaimableSpace).sum := by
    rw [Device.getReclaimableSpace, foldl_reclaimable _ _ (by omega), Nat.zero_add]
  exact ⟨free, used, reclaimable, by rw [free, used, reclaimable]; exact total⟩

/-- A device of 4096-byte zones with two io zones: one written full with 1000 of its bytes live,
and one half written with 512 of its bytes live. -/
def accountedDevice : Device :=
  { freshDevice with
    zoneSize := 4096
    ioZones :=
      [{ Zone.ofListing ⟨0, 4096, 4096, false, false, true, false, false⟩ with usedCapacity := 1000 },
        { Zone.ofListing ⟨4096, 4096, 6144, false, false, true, true, true⟩ with
          usedCapacity := 512 }] }

theorem accountedDevice_accounted :
    ∀ z ∈ accountedDevice.ioZones, z.Accounted accountedDevice.zoneSize := by
  intro z mem
  simp only [accountedDevice, List.mem_cons, List.mem_singleton, List.not_mem_nil,
    or_false] at mem
  rcases mem with rfl | rfl
  · exact ⟨4096, .step (.opened ⟨by decide, by decide, by decide, by decide,
      fun _ => ⟨by decide, by decide⟩⟩ (by decide) (by decide) (by decide)) (.setUsed 1000),
      by decide⟩
  · exact ⟨2048, .step (.opened ⟨by decide, by decide, by decide, by decide,
      fun _ => ⟨by decide, by decide⟩⟩ (by decide) (by decide) (by decide)) (.setUsed 512),
      by decide⟩

theorem space_accounted_two_zones :
    accountedDevice.getFreeSpace = (accountedDevice.ioZones.map Zone.capacity).sum ∧
      accountedDevice.getUsedSpace = (accountedDevice.ioZones.map Zone.usedCapacity).sum ∧
      accountedDevice.getReclaimableSpace =
        ((accountedDevice.ioZones.filter Zone.isFull).map Zone.getZoneReclaimableSpace).sum ∧
      accountedDevice.getFreeSpace + accountedDevice.getUsedSpace +
          accountedDevice.getReclaimableSpace +
          ((accountedDevice.ioZones.filter fun z => !z.isFull).map
            Zone.getZoneReclaimableSpace).sum =
        (accountedDevice.ioZones.map Zone.maxCapacity).sum :=
  space_accounted accountedDevice_accounted (by decide)

/-! ### The garbage histogram -/

/-- `LogGarbageInfo`'s body on an idle io zone: it counts the zone in its slot and gives the
zone back. -/
theorem logGarbageInfoBody_of_free {i : Nat} {d : Device} {z : Zone}
    (found : d.zone .io i = some z) (free : z.busy = false) (stats : List Nat) :
    logGarbageInfoBody i (d, stats) = .next (d,
      if 0 ≤ z.garbageIndex then stats.modify (· + 1) z.garbageIndex.toNat else stats) := by
  have bound := (List.getElem?_eq_some_iff.mp found).1
  unfold logGarbageInfoBody
  dsimp only
  rw [Device.acquire_of_free found free]
  simp [Device.zone_setZone_self (k := .io) _ bound, Device.release_held found free,
    Zone.garbageIndex, Zone.isEmpty, Zone.isFull]

/-- `LogGarbageInfo`'s body on an index with no idle zone: nothing changes. -/
theorem logGarbageInfoBody_of_held {i : Nat} {d : Device}
    (held : ∀ z, d.zone .io i = some z → z.busy = true) (stats : List Nat) :
    logGarbageInfoBody i (d, stats) = .next (d, stats) := by
  unfold logGarbageInfoBody
  dsimp only
  rw [Device.acquire_eq_none.mpr held]

theorem sum_modify_succ : ∀ (stats : List Nat) (k : Nat), k < stats.length →
    (stats.modify (· + 1) k).sum = stats.sum + 1
  | [], _, within => absurd within (Nat.not_lt_zero _)
  | _ :: _, 0, _ => by
    rw [List.modify_zero_cons, List.sum_cons, List.sum_cons]
    omega
  | _ :: stats, k + 1, within => by
    rw [List.modify_succ_cons, List.sum_cons, List.sum_cons,
      sum_modify_succ stats k (Nat.lt_of_succ_lt_succ within)]
    omega

/-- The loop of `LogGarbageInfo` over some indices, when every slot is one of the twelve: it
counts once each index holding an idle io zone. -/
theorem forZones_logGarbageInfoBody {d : Device}
    (inBounds : ∀ z ∈ d.ioZones, 0 ≤ z.garbageIndex ∧ z.garbageIndex < 12) :
    ∀ (is stats : List Nat), stats.length = 12 →
      ∃ stats', forZones logGarbageInfoBody is (d, stats) = .next (d, stats') ∧
        stats'.length = 12 ∧
        stats'.sum = stats.sum + (is.filter fun i => (d.zone .io i).any fun z => !z.busy).length
  | [], stats, length => ⟨stats, rfl, length, rfl⟩
  | i :: is, stats, length => by
    rw [forZones]
    by_cases idle : (d.zone .io i).any (fun z => !z.busy) = true
    · obtain ⟨z, found, free⟩ : ∃ z, d.zone .io i = some z ∧ z.busy = false := by
        cases found : d.zone .io i <;> simp_all
      have slot := inBounds z (List.getElem?_mem found)
      rw [logGarbageInfoBody_of_free found free, if_pos slot.1]
      obtain ⟨stats', run, length', sum⟩ := forZones_logGarbageInfoBody inBounds is
        (stats.modify (· + 1) z.garbageIndex.toNat) (by rw [List.length_modify, length])
      refine ⟨stats', run, length', ?_⟩
      rw [sum, sum_modify_succ stats _ (by omega), List.filter_cons, if_pos idle,
        List.length_cons]
      omega
    · rw [logGarbageInfoBody_of_held (fun z found => by simpa [found] using idle) stats]
      obtain ⟨stats', run, length', sum⟩ := forZones_logGarbageInfoBody inBounds is stats length
      exact ⟨stats', run, length', by rw [sum, List.filter_cons, if_neg idle]⟩

theorem length_filter_range_getElem? {α : Type} (p : α → Bool) : ∀ l : List α,
    ((List.range l.length).filter fun i => (l[i]?).any p).length = (l.filter p).length
  | [] => rfl
  | x :: xs => by
    have tail := length_filter_range_getElem? p xs
    rw [List.length_cons, List.range_succ_eq_map, List.filter_cons, List.filter_map]
    cases keep : p x <;> simp [keep, Function.comp_def, tail]

/-- On a device whose io zones are accounted and whose non-empty io zones have a maximum
capacity, the slot `LogGarbageInfo` computes for an io zone is one of the twelve of
`zone_gc_stat`, so no count is written outside it, and the twelve counts add up to the number of
idle io zones: each is counted once. -/
theorem logGarbageInfo_counts_idle {d : Device}
    (accounted : ∀ z ∈ d.ioZones, z.Accounted d.zoneSize)
    (sized : ∀ z ∈ d.ioZones, z.wp ≠ z.start → 0 < z.maxCapacity) :
    (∀ z ∈ d.ioZones, 0 ≤ z.garbageIndex ∧ z.garbageIndex < 12) ∧ (logGarbageInfo d).2.length = 12 ∧
      (logGarbageInfo d).2.sum = (d.ioZones.filter fun z => !z.busy).length := by
  have inBounds : ∀ z ∈ d.ioZones, 0 ≤ z.garbageIndex ∧ z.garbageIndex < 12 :=
    fun z mem => (accounted z mem).garbageIndex_mem (sized z mem)
  obtain ⟨stats, run, length, sum⟩ := forZones_logGarbageInfoBody inBounds
    (List.range d.ioZones.length) (List.replicate 12 0) (List.length_replicate _ _)
  unfold logGarbageInfo
  rw [run]
  refine ⟨inBounds, length, ?_⟩
  rw [sum, ← length_filter_range_getElem? (fun z => !z.busy) d.ioZones]
  simp [Device.zone]

theorem logGarbageInfo_counts_idle_two_zones :
    (∀ z ∈ accountedDevice.ioZones, 0 ≤ z.garbageIndex ∧ z.garbageIndex < 12) ∧
      (logGarbageInfo accountedDevice).2.length = 12 ∧
      (logGarbageInfo accountedDevice).2.sum =
        (accountedDevice.ioZones.filter fun z => !z.busy).length :=
  logGarbageInfo_counts_idle accountedDevice_accounted (by decide)

/-! ### The statistics line -/

/-- `MB`, a header constant not under `src/`. Modelled from the spec (§6: MB means
1024×1024 bytes). -/
def mb : Nat := 1024 * 1024

/-- `int64_t used = z->used_capacity_`: a `uint64_t` read as a signed 64-bit value. -/
def toInt64 (n : Nat) : Int := if n < 2 ^ 63 then n else (n : Int) - 2 ^ 64

/-- A line of `LogZoneUsage`, `"Zone 0x%lX used capacity: %ld bytes (%ld MB)\n"`: the zone's
start, its live bytes and those in MB. -/
structure ZoneUsageLine where
  start : Nat
  used : Int
  usedMB : Int
  deriving DecidableEq, Repr

/-- `ZonedBlockDevice::LogZoneUsage`: a line for each io zone whose live bytes, read as an
`int64_t`, are positive; `used / MB` divides `int64_t` values. -/
def Device.logZoneUsage (d : Device) : List ZoneUsageLine :=
  d.ioZones.filterMap fun z =>
    if 0 < toInt64 z.usedCapacity then
      some ⟨z.start, toInt64 z.usedCapacity, (toInt64 z.usedCapacity).tdiv mb⟩
    else none

/-- While the live bytes of the io zones are below `2 ^ 63`, `LogZoneUsage` logs, in order,
exactly the io zones with live data, each with its live bytes and those in whole MB. -/
theorem logZoneUsage_eq {d : Device} (small : ∀ z ∈ d.ioZones, z.usedCapacity < 2 ^ 63) :
    d.logZoneUsage = (d.ioZones.filter Zone.isUsed).map fun z =>
      ⟨z.start, z.usedCapacity, (z.usedCapacity / mb : Nat)⟩ := by
  unfold Device.logZoneUsage
  generalize d.ioZones = zs at small ⊢
  induction zs with
  | nil => rfl
  | cons z zs ih =>
    obtain ⟨below, rest⟩ := List.forall_mem_cons.mp small
    have signed : toInt64 z.usedCapacity = z.usedCapacity := if_pos below
    rw [List.filterMap_cons, signed, ih rest, List.filter_cons]
    by_cases used : 0 < z.usedCapacity <;> simp [used, Zone.isUsed, ← Int.ofNat_tdiv]

/-- The running `uint64_t` sums of the loop of `LogZoneStats`. -/
structure ZoneStats where
  usedCapacity : Nat
  reclaimableCapacity : Nat
  reclaimablesMaxCapacity : Nat
  active : Nat
  deriving DecidableEq, Repr

/-- One io zone's turn of the loop of `ZonedBlockDevice::LogZoneStats`; `if (z->used_capacity_)`
is `Zone::IsUsed`. -/
def logZoneStatsBody (t : ZoneStats) (z : Zone) : ZoneStats where
  usedCapacity := add64 t.usedCapacity z.usedCapacity
  reclaimableCapacity :=
    if z.isUsed then add64 t.reclaimableCapacity (sub64 z.maxCapacity z.usedCapacity)
    else t.reclaimableCapacity
  reclaimablesMaxCapacity :=
    if z.isUsed then add64 t.reclaimablesMaxCapacity z.maxCapacity else t.reclaimablesMaxCapacity
  active := if !(z.isFull || z.isEmpty) then add64 t.active 1 else t.active

/-- The figures of the line of `LogZoneStats` after the elapsed time: `used_cap(MB)`,
`reclaimable_cap(MB)`, `avg_reclaimable(%)`, `active(#)`, `active_zones(#)` and `open_zones(#)`. -/
structure ZoneStatsLine where
  usedCapacityMB : Nat
  reclaimableCapacityMB : Nat
  avgReclaimable : Nat
  active : Nat
  activeZones : Int
  openZones : Int
  deriving DecidableEq, Repr

/-- `ZonedBlockDevice::LogZoneStats`, the figures it logs; a zero denominator becomes 1. -/
def Device.logZoneStats (d : Device) : ZoneStatsLine :=
  let t := d.ioZones.foldl logZoneStatsBody ⟨0, 0, 0, 0⟩
  let reclaimablesMaxCapacity :=
    if t.reclaimablesMaxCapacity = 0 then 1 else t.reclaimablesMaxCapacity
  { usedCapacityMB := t.usedCapacity / mb
    reclaimableCapacityMB := t.reclaimableCapacity / mb
    avgReclaimable := mul64 100 t.reclaimableCapacity / reclaimablesMaxCapacity
    active := t.active
    activeZones := d.activeIOZones
    openZones := d.openIOZones }

/-- The statistics line in exact arithmetic. Modelled from the spec (§6: `avg_reclaimable` is
`100 × Σ(max − used) ÷ Σ max` over the zones with live data, 0 when the denominator is 0;
`reclaimable_cap` is that numerator, and `active(#)` counts the zones neither full nor
empty). -/
def Device.logZoneStatsSpec (d : Device) : ZoneStatsLine :=
  let live := d.ioZones.filter Zone.isUsed
  let reclaimable := (live.map fun z => z.maxCapacity - z.usedCapacity).sum
  let maxCapacity := (live.map Zone.maxCapacity).sum
  { usedCapacityMB := (d.ioZones.map Zone.usedCapacity).sum / mb
    reclaimableCapacityMB := reclaimable / mb
    avgReclaimable := if maxCapacity = 0 then 0 else 100 * reclaimable / maxCapacity
    active := (d.ioZones.filter fun z => !(z.isFull || z.isEmpty)).length
    activeZones := d.activeIOZones
    openZones := d.openIOZones }

/-- One turn of the loop adds the zone's figures exactly while the sums fit in `uint64_t`. -/
theorem logZoneStatsBody_exact {used reclaimable reclaimablesMax active : Nat} {z : Zone}
    (within : z.usedCapacity ≤ z.maxCapacity) (usedFits : used + z.maxCapacity < 2 ^ 64)
    (reclaimableFits : reclaimable + z.maxCapacity < 2 ^ 64)
    (reclaimablesMaxFits : reclaimablesMax + z.maxCapacity < 2 ^ 64)
    (activeFits : active + 1 < 2 ^ 64) :
    logZoneStatsBody ⟨used, reclaimable, reclaimablesMax, active⟩ z =
      ⟨used + z.usedCapacity,
        if z.isUsed then reclaimable + (z.maxCapacity - z.usedCapacity) else reclaimable,
        if z.isUsed then reclaimablesMax + z.maxCapacity else reclaimablesMax,
        if !(z.isFull || z.isEmpty) then active + 1 else active⟩ := by
  dsimp only [logZoneStatsBody]
  rw [add64_of_lt (by omega), sub64_of_le (by omega) within, add64_of_lt (by omega),
    add64_of_lt reclaimablesMaxFits, add64_of_lt activeFits]

/-- The loop of `LogZoneStats` from any running sums: while the sums fit in `uint64_t`, it adds
the live bytes, the garbage and the maximum capacity of the zones with live data, and the
number of zones neither full nor empty. -/
theorem foldl_logZoneStatsBody :
    ∀ (zs : List Zone) (used reclaimable reclaimablesMax active : Nat),
      (∀ z ∈ zs, z.usedCapacity ≤ z.maxCapacity) →
      used + (zs.map Zone.maxCapacity).sum < 2 ^ 64 →
      reclaimable + (zs.map Zone.maxCapacity).sum < 2 ^ 64 →
      reclaimablesMax + (zs.map Zone.maxCapacity).sum < 2 ^ 64 →
      active + zs.length < 2 ^ 64 →
      zs.foldl logZoneStatsBody ⟨used, reclaimable, reclaimablesMax, active⟩ =
        ⟨used + (zs.map Zone.usedCapacity).sum,
          reclaimable + ((zs.filter Zone.isUsed).map fun z => z.maxCapacity - z.usedCapacity).sum,
          reclaimablesMax + ((zs.filter Zone.isUsed).map Zone.maxCapacity).sum,
          active + (zs.filter fun z => !(z.isFull || z.isEmpty)).length⟩
  | [], _, _, _, _, _, _, _, _, _ => rfl
  | z :: zs, used, reclaimable, reclaimablesMax, active, within, usedFits, reclaimableFits,
      reclaimablesMaxFits, activeFits => by
    obtain ⟨le, rest⟩ := List.forall_mem_cons.mp within
    simp only [List.map_cons, List.sum_cons] at usedFits reclaimableFits reclaimablesMaxFits
    rw [List.length_cons] at activeFits
    rw [List.foldl_cons, logZoneStatsBody_exact le (by omega) (by omega) (by omega) (by omega)]
    cases live : z.isUsed <;> cases partly : !(z.isFull || z.isEmpty) <;>
      simp only [List.filter_cons, live, partly, if_true, if_false, Bool.false_eq_true] <;>
      rw [foldl_logZoneStatsBody zs _ _ _ _ rest (by omega) (by omega) (by omega) (by omega)] <;>
      simp only [ZoneStats.mk.injEq, List.map_cons, List.sum_cons, List.length_cons, true_and,
        and_true] <;> omega

/-- On a device whose io zones are each in a state their life since `Open` reaches, holding no
more live bytes than were appended to them since their last reset, with fewer than `2^64` io
zones and a hundred times their maximum capacities below `2^64`: the figures `LogZoneStats` logs
are the exact ones of the spec, and the average garbage is a percentage. -/
theorem logZoneStats_eq_spec {d : Device} (accounted : ∀ z ∈ d.ioZones, z.Accounted d.zoneSize)
    (fits : 100 * (d.ioZones.map Zone.maxCapacity).sum < 2 ^ 64)
    (few : d.ioZones.length < 2 ^ 64) :
    d.logZoneStats = d.logZoneStatsSpec ∧ d.logZoneStats.avgReclaimable ≤ 100 := by
  have within : ∀ z ∈ d.ioZones, z.usedCapacity ≤ z.maxCapacity := fun z mem => by
    have split := (accounted z mem).split.1
    omega
  have garbage : ((d.ioZones.filter Zone.isUsed).map fun z => z.maxCapacity - z.usedCapacity).sum ≤
      ((d.ioZones.filter Zone.isUsed).map Zone.maxCapacity).sum :=
    List.sum_le_sum fun _ _ => Nat.sub_le _ _
  have live : ((d.ioZones.filter Zone.isUsed).map Zone.maxCapacity).sum ≤
      (d.ioZones.map Zone.maxCapacity).sum :=
    ((List.filter_sublist d.ioZones).map _).sum_le_sum fun _ _ => Nat.zero_le _
  have counted := (List.filter_sublist (p := fun z => !(z.isFull || z.isEmpty)) d.ioZones).length_le
  have sums := foldl_logZoneStatsBody d.ioZones 0 0 0 0 within (by omega) (by omega) (by omega)
    (by omega)
  have product : mul64 100 ((d.ioZones.filter Zone.isUsed).map
      fun z => z.maxCapacity - z.usedCapacity).sum =
      100 * ((d.ioZones.filter Zone.isUsed).map fun z => z.maxCapacity - z.usedCapacity).sum := by
    rw [mul64, Nat.mod_eq_of_lt (by omega)]
  have spec : d.logZoneStats = d.logZoneStatsSpec := by
    simp only [Device.logZoneStats, Device.logZoneStatsSpec, sums, Nat.zero_add, product,
      ZoneStatsLine.mk.injEq, true_and, and_true]
    split_ifs with empty
    · rw [Nat.div_one]
      omega
    · rfl
  refine ⟨spec, ?_⟩
  rw [spec, Device.logZoneStatsSpec]
  split_ifs
  · exact Nat.zero_le _
  · exact Nat.div_le_of_le_mul (by omega)

theorem logZoneStats_eq_spec_two_zones :
    accountedDevice.logZoneStats = accountedDevice.logZoneStatsSpec ∧
      accountedDevice.logZoneStats.avgReclaimable ≤ 100 :=
  logZoneStats_eq_spec accountedDevice_accounted (by decide) (by decide)

end ZenFS
