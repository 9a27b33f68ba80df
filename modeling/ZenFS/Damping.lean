import ZenFS.Wear

set_option autoImplicit false

/- How `Zone::Reset` damps `reset_ratio_threshold_`. A trigger that fires with
`wl_trigger_count_` at least 2 clears the count and divides the threshold by
`1 + (σ - 1.5) / 1.5`, in `double`, where `σ` is `GetResetCountStdDev()` of the device as it
stands; nothing increments the count. Every call of the system moves the wear of a device by
zone resets only, with the reset-count setters between them: a run of the wear, labelled with
the `σ` of each damping. Along any run the threshold is divided at most once, and never when the
count starts below 2. A damping at `σ = 0`, as on a device whose io zones are evenly worn,
divides by `+0.0`: the threshold becomes `+∞`, and from then on no trigger fires. -/
namespace ZenFS

namespace Device

/-- The damping that the trigger of a reset makes on `d`, the device with the zone's fields
reset: the `GetResetCountStdDev()` it divides `reset_ratio_threshold_` by, if it damps. -/
def dampings (d : Device) : List Double :=
  let d₁ : Device := { d with wl := { d.wl with totalResetCount := add32 d.wl.totalResetCount 1 } }
  if d₁.nrZones < d₁.wl.totalResetCount ∧ d₁.wlTriggered = true ∧ 2 ≤ d.wl.wlTriggerCount then
    [d.getResetCountStdDev]
  else []

/-- The trigger of a reset damps as `dampings` says: with none, `wl_trigger_count_` and the
threshold stay; with one, the count was at least 2 and is cleared, and the threshold is divided
by the standard deviation's damping. -/
theorem resetWearLeveling_damping (d : Device) :
    d.dampings = [] ∧ d.resetWearLeveling.wlTriggerCount = d.wl.wlTriggerCount ∧
        d.resetWearLeveling.resetRatioThreshold = d.wl.resetRatioThreshold ∨
      d.dampings = [d.getResetCountStdDev] ∧ 2 ≤ d.wl.wlTriggerCount ∧
        d.resetWearLeveling.wlTriggerCount = 0 ∧
        d.resetWearLeveling.resetRatioThreshold =
          dampedThreshold d.wl.resetRatioThreshold d.getResetCountStdDev := by
  unfold dampings resetWearLeveling wearLevelingCheck WearLeveling.wakeupWLWorker
  dsimp only
  split_ifs <;> simp_all

end Device

open Device

/-- A run of a device as its wear sees it, from `d₀`, labelled with the `GetResetCountStdDev()`
of each damping in order: calls that keep every zone's place and wear and the wear-leveling
counters, the reset-count setters, and zone resets, each a zone at its place with its count one
up and the trigger computed on the device as it stands. -/
inductive WearRun (d₀ : Device) : Device → List Double → Prop
  | refl : WearRun d₀ d₀ []
  | same {d d' : Device} {σs : List Double} : WearRun d₀ d σs → d.SameWear d' → WearRun d₀ d' σs
  | set {d d' : Device} {σs : List Double} : WearRun d₀ d σs → ResetCountCall d d' →
      WearRun d₀ d' σs
  | reset {d : Device} {σs : List Double} {k : ZoneKind} {i : Nat} {z z' : Zone} :
      WearRun d₀ d σs → d.zone k i = some z → z'.start = z.start →
      z'.resetCount = add32 z.resetCount 1 →
      WearRun d₀ ((d.setZone k i z').setWl (d.setZone k i z').resetWearLeveling)
        (σs ++ (d.setZone k i z').dampings)

theorem WearRun.trans {d₀ d d' : Device} {σs σs' : List Double} (first : WearRun d₀ d σs)
    (second : WearRun d d' σs') : WearRun d₀ d' (σs ++ σs') := by
  induction second with
  | refl => rw [List.append_nil]; exact first
  | same _ same ih => exact .same ih same
  | set _ call ih => exact .set ih call
  | reset _ found start count ih =>
    rw [← List.append_assoc]; exact .reset ih found start count

/-! ### Every call is a run of the wear -/

theorem wearRun_resetZone (be : Backend) (k : ZoneKind) (i : Nat) (d : Device) :
    ∃ σs, WearRun d (d.resetZone be k i).2 σs := by
  unfold resetZone
  split
  · exact ⟨[], .refl⟩
  · rename_i z found
    dsimp only
    split
    · exact ⟨[], .refl⟩
    · exact ⟨_, .reset .refl found rfl rfl⟩

/-- `ResetUnusedIOZones` resets each zone while holding it: the reset of the held zone, then
the release and the token, which keep the wear. -/
theorem wearRun_resetUnusedIOZones (be : Backend) (d : Device) :
    ∃ σs, WearRun d (resetUnusedIOZones be d).1 σs := by
  refine resetUnusedIOZones_holds be (fun d' => ∃ σs, WearRun d d' σs) ⟨[], .refl⟩ ?_
  rintro d' i z ⟨σs, run⟩ found - - -
  have bound := (List.getElem?_eq_some_iff.mp found).1
  set held := (z.resetFields (be.reset z.start).2.1 (be.reset z.start).2.2).setBusy true
  have reset := run.reset (k := .io) found (show held.start = z.start from rfl)
    (show held.resetCount = add32 z.resetCount 1 from rfl)
  have released := (SameWear.refl _).setZone (k := .io) (i := i)
    (d := (d'.setZone .io i held).setWl (d'.setZone .io i held).resetWearLeveling)
    (by rw [zone_eq, zones_setWl, ← zone_eq, zone_setZone_self (k := .io) _ bound])
    (Zone.wear_setBusy (z.resetFields (be.reset z.start).2.1 (be.reset z.start).2.2) true).symm
  rw [setZone_setWl, setZone_setZone] at released
  dsimp only
  split
  · exact ⟨_, .same reset released⟩
  · exact ⟨_, .same reset ((sameWear_putActiveIOZoneToken _ _).mpr released)⟩

theorem wearRun_allocateMetaZone (be : Backend) (d : Device) :
    ∃ σs, WearRun d (allocateMetaZone be d).1 σs :=
  allocateMetaZone_holds be (fun d' => ∃ σs, WearRun d d' σs) ⟨[], .refl⟩
    (fun _ _ z ⟨σs, run⟩ found _ =>
      ⟨σs, .same run ((SameWear.refl _).setZone (k := .meta) found (Zone.wear_setBusy z true))⟩)
    (fun _ _ _ ⟨_, run⟩ found _ _ _ _ => ⟨_, .reset run found rfl rfl⟩)

/-- The inversion lemma of the wear runs: every call of the system, direct zone call and
reset-count setter is a run of the wear. -/
theorem next_wearRun {c : Contract} {d d' : Device}
    (next : Step c d d' ∨ ZoneCall c d d' ∨ ResetCountCall d d') : ∃ σs, WearRun d d' σs := by
  rcases next with next | next | call
  · exact next_call (.inl next)
  · exact next_call (.inr next)
  · exact ⟨[], .set .refl call⟩
where
  next_call {d d' : Device} (next : Step c d d' ∨ ZoneCall c d d') : ∃ σs, WearRun d d' σs := by
    rcases next_wear_cases next with same | ⟨be, rfl | rfl | ⟨k, i, rfl⟩⟩
    · exact ⟨[], .same .refl same⟩
    · exact wearRun_resetUnusedIOZones be d
    · exact wearRun_allocateMetaZone be d
    · exact wearRun_resetZone be k i d

/-- Every run of the system's calls, direct zone calls and reset-count setters is a run of the
wear. -/
theorem wearRun_of_run {c : Contract} {d₀ d : Device}
    (run : Relation.ReflTransGen
      (fun d d' => Step c d d' ∨ ZoneCall c d d' ∨ ResetCountCall d d') d₀ d) :
    ∃ σs, WearRun d₀ d σs := by
  induction run with
  | refl => exact ⟨[], .refl⟩
  | tail _ next ih =>
    obtain ⟨σs, first⟩ := ih
    obtain ⟨σs', second⟩ := next_wearRun next
    exact ⟨_, first.trans second⟩

/-! ### At most one damping -/

/-- What the dampings `σs` of a run from `d₀` to `d` have done: there is at most one; with
none, `wl_trigger_count_` and the threshold are as they were; with one, the count was at least
2 and is cleared, and the threshold is the first one damped once, by that `σ`. -/
def DampedOnce (d₀ d : Device) (σs : List Double) : Prop :=
  σs.length ≤ 1 ∧
    (σs = [] → d.wl.wlTriggerCount = d₀.wl.wlTriggerCount ∧
      d.wl.resetRatioThreshold = d₀.wl.resetRatioThreshold) ∧
    ∀ σ ∈ σs, 2 ≤ d₀.wl.wlTriggerCount ∧ d.wl.wlTriggerCount = 0 ∧
      d.wl.resetRatioThreshold = dampedThreshold d₀.wl.resetRatioThreshold σ

theorem DampedOnce.of_wl {d₀ d d' : Device} {σs : List Double} (damped : DampedOnce d₀ d σs)
    (count : d'.wl.wlTriggerCount = d.wl.wlTriggerCount)
    (threshold : d'.wl.resetRatioThreshold = d.wl.resetRatioThreshold) : DampedOnce d₀ d' σs := by
  rw [DampedOnce, count, threshold]; exact damped

/-- A damping clears the count, so no second one follows it. -/
theorem DampedOnce.reset {d₀ d : Device} {σs : List Double} (damped : DampedOnce d₀ d σs)
    (k : ZoneKind) (i : Nat) (z' : Zone) :
    DampedOnce d₀ ((d.setZone k i z').setWl (d.setZone k i z').resetWearLeveling)
      (σs ++ (d.setZone k i z').dampings) := by
  obtain ⟨length, unchanged, once⟩ := damped
  rcases resetWearLeveling_damping (d.setZone k i z') with ⟨none, count, threshold⟩ |
    ⟨one, many, cleared, divided⟩
  · rw [none, List.append_nil]
    exact DampedOnce.of_wl ⟨length, unchanged, once⟩ (by rw [setWl_wl, count, setZone_wl])
      (by rw [setWl_wl, threshold, setZone_wl])
  · rw [setZone_wl] at many divided
    cases σs with
    | cons σ' _ => exact absurd (once σ' (List.mem_cons_self _ _)).2.1 (by omega)
    | nil =>
      obtain ⟨count, threshold⟩ := unchanged rfl
      rw [one, List.nil_append]
      refine ⟨by simp, by simp, fun σ mem => ?_⟩
      rw [List.mem_singleton.mp mem, setWl_wl, cleared, divided, threshold, ← count]
      exact ⟨many, rfl, rfl⟩

theorem WearRun.dampedOnce {d₀ d : Device} {σs : List Double} (run : WearRun d₀ d σs) :
    DampedOnce d₀ d σs := by
  induction run with
  | refl => exact ⟨by simp, fun _ => ⟨rfl, rfl⟩, by simp⟩
  | same _ same ih =>
    exact ih.of_wl (congrArg (fun c => c.2.2.2) same.2) (congrArg (fun c => c.2.2.1) same.2)
  | set _ call ih =>
    cases call with
    | setResetCount => exact ih.of_wl (by rw [setZone_wl]) (by rw [setZone_wl])
    | setIOZonesResetCount => exact ih.of_wl rfl rfl
  | reset _ _ _ _ ih => exact ih.reset _ _ _

/-- Along every run of the system's calls, direct zone calls and reset-count setters, from any
device and under any backend behaviour, the wear moves by zone resets, each followed by the
trigger on the device as it stands, and at most one of them damps `reset_ratio_threshold_`.
Without one, `wl_trigger_count_` and the threshold keep their values; with one, the count was at
least 2 and is now 0, and the threshold is the first one divided, in `double`, by
`1 + (σ - 1.5) / 1.5`, `σ` the `GetResetCountStdDev()` of the device at that reset. -/
theorem threshold_damped_at_most_once {c : Contract} {d₀ d : Device}
    (run : Relation.ReflTransGen
      (fun d d' => Step c d d' ∨ ZoneCall c d d' ∨ ResetCountCall d d') d₀ d) :
    ∃ σs, WearRun d₀ d σs ∧ σs.length ≤ 1 ∧
      (σs = [] → d.wl.wlTriggerCount = d₀.wl.wlTriggerCount ∧
        d.wl.resetRatioThreshold = d₀.wl.resetRatioThreshold) ∧
      ∀ σ ∈ σs, 2 ≤ d₀.wl.wlTriggerCount ∧ d.wl.wlTriggerCount = 0 ∧
        d.wl.resetRatioThreshold = dampedThreshold d₀.wl.resetRatioThreshold σ := by
  obtain ⟨σs, wear⟩ := wearRun_of_run run
  exact ⟨σs, wear, wear.dampedOnce⟩

/-- A fresh device whose wear-leveling members have seen 64 resets and two triggers. -/
def triggeredDevice : Device :=
  { freshDevice with wl := { freshDevice.wl with totalResetCount := 64, wlTriggerCount := 2 } }

theorem threshold_damped_at_most_once_reset :
    let d := (triggeredDevice.resetZone (onlineBackend 4096) .io 0).2
    ∃ σs, WearRun triggeredDevice d σs ∧ σs.length ≤ 1 ∧
      (σs = [] → d.wl.wlTriggerCount = triggeredDevice.wl.wlTriggerCount ∧
        d.wl.resetRatioThreshold = triggeredDevice.wl.resetRatioThreshold) ∧
      ∀ σ ∈ σs, 2 ≤ triggeredDevice.wl.wlTriggerCount ∧ d.wl.wlTriggerCount = 0 ∧
        d.wl.resetRatioThreshold = dampedThreshold triggeredDevice.wl.resetRatioThreshold σ :=
  threshold_damped_at_most_once (c := Contract.free fun _ => True)
    (.single (.inr (.inl (.reset trivial))))

/-! ### A damping at `σ = 0` switches the trigger off -/

theorem foldl_add_zero (f : Zone → Double) :
    ∀ zs : List Zone, (∀ z ∈ zs, f z = .finite 0 0) →
      zs.foldl (fun (sum : Double) z => sum.add (f z)) (.finite 0 0) = .finite 0 0
  | [], _ => rfl
  | z :: zs, zero => by
    obtain ⟨first, rest⟩ := List.forall_mem_cons.mp zero
    rw [List.foldl_cons, first, Double.zero_add_zero, foldl_add_zero f zs rest]

/-- With every io zone reset as often as the others, and the counts' `uint32_t` sum not
wrapping, `GetResetCountStdDev()` is 0: the mean is the common count, and every term is 0. -/
theorem getResetCountStdDev_of_equal {d : Device} {count : Nat}
    (equal : ∀ z ∈ d.ioZones, z.resetCount = count) (nonempty : 0 < d.ioZones.length)
    (few : d.ioZones.length < 2 ^ 32) (fits : d.ioZones.length * count < 2 ^ 32) :
    d.getResetCountStdDev = .finite 0 0 := by
  have sum : d.getIOZoneResetCountNow = d.ioZones.length * count := by
    unfold getIOZoneResetCountNow
    rw [foldl_add32_resetCount _ 0 (by norm_num), List.map_congr_left equal, List.map_const',
      List.sum_replicate, smul_eq_mul, Nat.zero_add, Nat.mod_eq_of_lt fits]
  obtain ⟨m, e, converted⟩ : ∃ m e, Double.ofNat count = .finite m e := by
    rcases Nat.eq_zero_or_pos count with rfl | positive
    · exact ⟨0, 0, rfl⟩
    · obtain ⟨m, e, converted, -⟩ := Double.ofNat_pos positive
        (((Nat.le_mul_of_pos_left count nonempty).trans_lt fits).trans (by norm_num))
      exact ⟨m, e, converted⟩
  obtain ⟨n, k, length, positive⟩ := Double.ofNat_pos nonempty (few.trans (by norm_num))
  have terms := foldl_add_zero
    (fun z => ((Double.ofNat z.resetCount).sub (.finite m e)).mul
      ((Double.ofNat z.resetCount).sub (.finite m e))) d.ioZones fun z mem => by
    dsimp only
    rw [equal z mem, converted, Double.sub_self_of_finite, Double.zero_mul_zero]
  unfold getResetCountStdDev
  dsimp only
  rw [sum, Nat.mul_div_cancel_left _ nonempty, converted, Double.ofNat_zero, terms, length,
    Double.zero_div_of_pos positive, Double.sqrt_zero]

/-- A damping at `σ = 0` divides by `1 + (0 - 1.5) / 1.5 = +0.0`: a positive threshold becomes
`+∞`. -/
theorem dampedThreshold_zero {m e : Int} (positive : 0 < m) :
    dampedThreshold (.finite m e) (.finite 0 0) = .inf false := by
  have divisor : (Double.ofNat 1).add (((Double.finite 0 0).sub .oneAndAHalf).div .oneAndAHalf) =
      .finite 0 0 := by decide
  rw [dampedThreshold, divisor]
  simp [Double.div, positive.ne', not_lt.mpr positive.le]

namespace Device

/-- With the threshold at `+∞`, the trigger of a reset never fires: the product with `+∞` is
`+∞` or NaN, below nothing. The threshold and `wl_worker_sleep_` stay. -/
theorem resetWearLeveling_of_infinite {d : Device}
    (infinite : d.wl.resetRatioThreshold = .inf false) :
    d.resetWearLeveling.resetRatioThreshold = .inf false ∧
      d.resetWearLeveling.wlWorkerSleep = d.wl.wlWorkerSleep := by
  have quiet : ({ d with wl := { d.wl with totalResetCount := add32 d.wl.totalResetCount 1 } } :
      Device).wlTriggered = false := by
    simp only [wlTriggered, infinite, Double.ofNat_mul_inf_lt, Bool.false_and]
  unfold resetWearLeveling wearLevelingCheck
  split_ifs <;> simp_all

/-- A damping on a device whose io zones have all been reset equally often divides by
`1 + (0 - 1.5) / 1.5`: a positive finite threshold becomes `+∞`. -/
theorem resetWearLeveling_of_equal_wear {d : Device} {count : Nat} {m e : Int}
    (equal : ∀ z ∈ d.ioZones, z.resetCount = count) (nonempty : 0 < d.ioZones.length)
    (few : d.ioZones.length < 2 ^ 32) (fits : d.ioZones.length * count < 2 ^ 32)
    (threshold : d.wl.resetRatioThreshold = .finite m e) (positive : 0 < m)
    (damps : d.dampings ≠ []) : d.resetWearLeveling.resetRatioThreshold = .inf false := by
  rcases resetWearLeveling_damping d with ⟨none, -⟩ | ⟨-, -, -, divided⟩
  · exact absurd none damps
  · rw [divided, threshold, getResetCountStdDev_of_equal equal nonempty few fits,
      dampedThreshold_zero positive]

end Device

theorem WearRun.infinite {d₀ d : Device} {σs : List Double} (run : WearRun d₀ d σs)
    (infinite : d₀.wl.resetRatioThreshold = .inf false) : d.wl.resetRatioThreshold = .inf false := by
  induction run with
  | refl => exact infinite
  | same _ same ih => rw [← ih]; exact congrArg (fun c => c.2.2.1) same.2
  | set _ call ih =>
    cases call with
    | setResetCount => rw [setZone_wl]; exact ih
    | setIOZonesResetCount => exact ih
  | reset _ _ _ _ ih =>
    rw [setWl_wl]
    exact (resetWearLeveling_of_infinite (by rw [setZone_wl]; exact ih)).1

/-- Once `reset_ratio_threshold_` is `+∞`, as a damping at `σ = 0` leaves a positive threshold,
it stays `+∞` along every run of the system's calls, direct zone calls and reset-count setters,
from any device and under any backend behaviour, and the trigger of no reset fires again: a
reset leaves `wl_worker_sleep_` as it is, so `Zone::Reset` never again wakes the wear-leveling
worker. -/
theorem wear_leveling_off_after_infinite_threshold {c : Contract} {d₀ d : Device}
    (infinite : d₀.wl.resetRatioThreshold = .inf false)
    (run : Relation.ReflTransGen
      (fun d d' => Step c d d' ∨ ZoneCall c d d' ∨ ResetCountCall d d') d₀ d) :
    d.wl.resetRatioThreshold = .inf false ∧
      ∀ k i z', (d.setZone k i z').resetWearLeveling.wlWorkerSleep = d.wl.wlWorkerSleep := by
  obtain ⟨σs, wear⟩ := wearRun_of_run run
  have stays := wear.infinite infinite
  refine ⟨stays, fun k i z' => ?_⟩
  have quiet := (resetWearLeveling_of_infinite (d := d.setZone k i z') (by rw [setZone_wl]; exact stays)).2
  rwa [setZone_wl] at quiet

/-- `triggeredDevice` with every io zone but the first reset once: the reset of the first
evens the wear. -/
def equalWearDevice : Device :=
  { triggeredDevice with
    ioZones := triggeredDevice.ioZones.mapIdx fun i z => if i = 0 then z else z.setResetCount 1 }

theorem wear_leveling_off_after_equal_wear :
    let d₀ := (equalWearDevice.resetZone (onlineBackend 4096) .io 0).2
    let d := (d₀.resetZone (onlineBackend 4096) .io 1).2
    equalWearDevice.wl.resetRatioThreshold = Double.ofNat 1 ∧
      d₀.wl.resetRatioThreshold = .inf false ∧ d.wl.resetRatioThreshold = .inf false ∧
      ∀ k i z', (d.setZone k i z').resetWearLeveling.wlWorkerSleep = d.wl.wlWorkerSleep :=
  have infinite : (equalWearDevice.resetZone (onlineBackend 4096) .io 0).2.wl.resetRatioThreshold =
      .inf false := by decide
  ⟨rfl, infinite, wear_leveling_off_after_infinite_threshold (c := Contract.free fun _ => True)
    infinite (.single (.inr (.inl (.reset trivial))))⟩

end ZenFS
