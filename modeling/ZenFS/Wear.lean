import Mathlib.Algebra.BigOperators.Group.List
import Mathlib.Algebra.Order.Ring.Nat
import ZenFS.Busy

set_option autoImplicit false

/- Where the zones sit and how worn they are. Nothing writes a zone's `start_`, and only
`Zone::Reset` writes its `max_capacity_` and `reset_count_`, adding one to the count in
`uint32_t`; a call resets a zone at most once, and leaves it empty. So the zones never move:
each vector keeps, along every run, the zones `Open` built from the listing. `Zone::Reset` also
adds one to `total_reset_count_`, which therefore counts the resets of every meta and io zone
on every device the system reaches, less what `Zone::SetResetCount` and `SetIOZonesResetCount`
take from the counts, and the `io_zones_reset_count` that the wear-leveling trigger computes is
the io zones' reset count `GetIOZoneResetCountNow()`. -/
namespace ZenFS

namespace Zone

/-- Where a zone sits and how worn it is: `start_`, which nothing writes, and
`max_capacity_` and `reset_count_`, which only `Zone::Reset` writes. -/
def wear (z : Zone) : Nat × Nat × Nat := (z.start, z.maxCapacity, z.resetCount)

@[simp] theorem wear_setBusy (z : Zone) (b : Bool) : (z.setBusy b).wear = z.wear := rfl

@[simp] theorem wear_setLifetime (z : Zone) (L : WriteLifeTimeHint) :
    { z with lifetime := L }.wear = z.wear := rfl

@[simp] theorem wear_setUsedCapacity (z : Zone) (used : Nat) :
    { z with usedCapacity := used }.wear = z.wear := rfl

@[simp] theorem wear_finish (zoneSize : Nat) (answer : IOStatus) (z : Zone) :
    (z.finish zoneSize answer).2.wear = z.wear := by
  unfold finish; split <;> rfl

theorem wear_append {z : Zone} {size : Nat} {answers : List (Except String Nat)} {r : Appended}
    (run : z.append size answers = some r) : r.zone.wear = z.wear := by
  obtain ⟨_, _, same⟩ := append_zone run
  rw [same]; rfl

/-- What one call may make of a zone: it stays where it is, and it keeps its maximum capacity
and reset count, or it is reset once, its count going up by one in `uint32_t`, and left
empty. -/
structure Evolves (z z' : Zone) : Prop where
  start_eq : z'.start = z.start
  kept_or_reset : z'.maxCapacity = z.maxCapacity ∧ z'.resetCount = z.resetCount ∨
    z'.resetCount = add32 z.resetCount 1 ∧ z'.wp = z'.start

theorem Evolves.of_wear {z z' : Zone} (same : z'.wear = z.wear) : Evolves z z' := by
  simp only [wear, Prod.mk.injEq] at same
  exact ⟨same.1, .inl same.2⟩

/-- A change of the flags, the hint or the live bytes keeps what a call made of the zone. -/
theorem Evolves.retag {z₀ z z' : Zone} (e : Evolves z₀ z) (same : z'.wear = z.wear)
    (wp : z'.wp = z.wp) : Evolves z₀ z' := by
  simp only [wear, Prod.mk.injEq] at same
  obtain ⟨start, maxCapacity, count⟩ := same
  refine ⟨start.trans e.start_eq, e.kept_or_reset.imp (fun kept => ?_) (fun reset => ?_)⟩
  · exact ⟨maxCapacity.trans kept.1, count.trans kept.2⟩
  · exact ⟨count.trans reset.1, by rw [wp, start]; exact reset.2⟩

/-- A reset of a written zone is the first of the call: a zone the call reset is empty. -/
theorem Evolves.reset {z₀ z z' : Zone} (e : Evolves z₀ z) (written : z.wp ≠ z.start)
    (start : z'.start = z.start) (count : z'.resetCount = add32 z.resetCount 1)
    (empty : z'.wp = z'.start) : Evolves z₀ z' := by
  rcases e with ⟨startEq, ⟨-, same⟩ | ⟨-, rewound⟩⟩
  · exact ⟨start.trans startEq, .inr ⟨by rw [count, same], empty⟩⟩
  · exact absurd rewound written

end Zone

/-- Replacing one element of the right list keeps a pointwise relation when the new element is
related to the left one wherever the old one was. -/
theorem forall₂_set {α β : Type} {R : α → β → Prop} {as : List α} {bs : List β} {i : Nat}
    {b b' : β} (all : List.Forall₂ R as bs) (found : bs[i]? = some b)
    (step : ∀ a, as[i]? = some a → R a b → R a b') : List.Forall₂ R as (bs.set i b') := by
  induction all generalizing i with
  | nil => cases found
  | cons r _ ih =>
    cases i with
    | zero =>
      rw [List.getElem?_cons_zero, Option.some.injEq] at found
      subst found
      exact .cons (step _ List.getElem?_cons_zero r) ‹_›
    | succ i =>
      rw [List.getElem?_cons_succ] at found
      exact .cons r (ih found fun a found' => step a (by rwa [List.getElem?_cons_succ]))

theorem sum_set_add {l : List Nat} {i x : Nat} (found : l[i]? = some x) (a : Nat) :
    (l.set i a).sum + x = l.sum + a := by
  have bound := (List.getElem?_eq_some_iff.mp found).1
  have whole := List.sum_set l i x
  have set := List.sum_set l i a
  rw [List.set_of_getElem? found] at whole
  rw [if_pos bound] at whole set
  omega

/-- The wear-leveling members that only `Zone::Reset` writes: `total_reset_count_`,
`check_reset_count_`, `reset_ratio_threshold_` and `wl_trigger_count_`. -/
def WearLeveling.counters (w : WearLeveling) : Nat × Nat × Double × Int :=
  (w.totalResetCount, w.checkResetCount, w.resetRatioThreshold, w.wlTriggerCount)

namespace Device

/-- `d'` has the zones of `d`, each where it was and as worn, and the same wear-leveling
counters: what a call that resets no zone keeps. -/
def SameWear (d d' : Device) : Prop :=
  (∀ k, (d'.zones k).map Zone.wear = (d.zones k).map Zone.wear) ∧ d'.wl.counters = d.wl.counters

theorem SameWear.refl (d : Device) : d.SameWear d := ⟨fun _ => rfl, rfl⟩

theorem SameWear.trans {d₁ d₂ d₃ : Device} (first : d₁.SameWear d₂)
    (second : d₂.SameWear d₃) : d₁.SameWear d₃ :=
  ⟨fun k => (second.1 k).trans (first.1 k), second.2.trans first.2⟩

@[simp] theorem sameWear_putOpenIOZoneToken (d₀ d : Device) :
    d₀.SameWear d.putOpenIOZoneToken ↔ d₀.SameWear d := Iff.rfl

@[simp] theorem sameWear_putActiveIOZoneToken (d₀ d : Device) :
    d₀.SameWear d.putActiveIOZoneToken ↔ d₀.SameWear d := Iff.rfl

@[simp] theorem sameWear_setOpenIOZones (d₀ d : Device) (n : Int) :
    d₀.SameWear (d.setOpenIOZones n) ↔ d₀.SameWear d := Iff.rfl

@[simp] theorem sameWear_setActiveIOZones (d₀ d : Device) (n : Int) :
    d₀.SameWear (d.setActiveIOZones n) ↔ d₀.SameWear d := Iff.rfl

@[simp] theorem sameWear_setMigrating (d₀ d : Device) (b : Bool) :
    d₀.SameWear (d.setMigrating b) ↔ d₀.SameWear d := Iff.rfl

/-- Replacing a zone by one at its place and as worn keeps the wear. -/
theorem SameWear.setZone {d₀ d : Device} (same : d₀.SameWear d) {k : ZoneKind} {i : Nat}
    {z z' : Zone} (found : d.zone k i = some z) (wear : z'.wear = z.wear) :
    d₀.SameWear (d.setZone k i z') := by
  refine ⟨fun k' => ?_, by rw [setZone_wl]; exact same.2⟩
  rw [← same.1 k', setZone_eq]
  by_cases other : k' = k
  · subst other
    rw [zones_setZones, List.map_set, wear, ← List.map_set, List.set_of_getElem? found]
  · rw [zones_setZones_of_ne _ _ other]

theorem sameWear_release (d : Device) (k : ZoneKind) (i : Nat) : d.SameWear (d.release k i) := by
  rcases release_cases d k i with same | ⟨z, found, -, released⟩
  · rw [same]; exact .refl d
  · rw [released]; exact (SameWear.refl d).setZone found (Zone.wear_setBusy z false)

theorem sameWear_checkRelease {d d' : Device} {k : ZoneKind} {i : Nat}
    (success : d.checkRelease k i = .ok d') : d.SameWear d' := by
  rw [checkRelease_ok success]; exact sameWear_release d k i

theorem sameWear_finishIdle (be : Backend) {d : Device} {i : Nat} {z : Zone}
    (found : d.ioZones[i]? = some z) : d.SameWear (d.finishIdle be i z).1 := by
  unfold finishIdle
  split
  · simpa using (SameWear.refl d).setZone (k := .io) found (Zone.wear_finish _ _ z)
  · exact .refl d

theorem sameWear_finishZone (be : Backend) (k : ZoneKind) (i : Nat) (d : Device) :
    d.SameWear (d.finishZone be k i).2 := by
  unfold finishZone
  split
  · exact .refl d
  · rename_i z found
    exact (SameWear.refl d).setZone found (Zone.wear_finish _ _ z)

end Device

open Device

/-! ### The calls that reset no zone -/

theorem sameWear_getBestOpenZoneMatch (L : WriteLifeTimeHint) (m : Nat) (d : Device) :
    d.SameWear (getBestOpenZoneMatch L m d).1 := by
  rcases getBestOpenZoneMatch_cases L m d with same | ⟨b, z, found, -, -, -, -, held⟩
  · rw [same]; exact .refl d
  · rw [held]; exact (SameWear.refl d).setZone (k := .io) found (Zone.wear_setBusy z true)

theorem sameWear_finishCheapestIOZone (be : Backend) (d : Device) :
    d.SameWear (finishCheapestIOZone be d).1 := by
  rcases finishCheapestIOZone_cases be d with same | ⟨v, z, found, -, -, -, held⟩
  · rw [same]; exact .refl d
  · rw [held]; exact sameWear_finishIdle be found

theorem sameWear_applyFinishThreshold (be : Backend) (d : Device) :
    d.SameWear (applyFinishThreshold be d).1 :=
  applyFinishThreshold_holds be d.SameWear (.refl d)
    fun _ _ _ kept found _ _ _ => kept.trans (sameWear_finishIdle be found)

theorem sameWear_finishLoop {be : Backend} {fuel : Nat} {d : Device} {r : Device × IOStatus}
    (run : finishLoop be fuel d = some r) : d.SameWear r.1 :=
  finishLoop_holds be d.SameWear (fun d' _ => d.SameWear d')
    (fun _ kept _ => by simpa using kept)
    (fun d' kept _ _ => kept.trans (sameWear_finishCheapestIOZone be d'))
    (fun d' kept _ _ => kept.trans (sameWear_finishCheapestIOZone be d')) fuel d r (.refl d) run

theorem sameWear_allocateNewZone {be : Backend} {fuel : Nat} {L : WriteLifeTimeHint}
    {gotToken : Bool} {d : Device} {r : Device × IOStatus × Option Nat}
    (run : allocateNewZone be fuel L gotToken d = some r) : d.SameWear r.1 := by
  obtain ⟨d₁, status, first, ended⟩ := allocateNewZone_cases run
  have same₁ : d.SameWear d₁ := by
    cases gotToken
    · exact sameWear_finishLoop first
    · simp only [if_true, Option.some.injEq, Prod.mk.injEq] at first
      rw [← first.1]; exact .refl d
  rcases ended with ⟨-, same⟩ | ⟨-, same | ⟨b, z, found, -, -, same⟩⟩ <;> rw [same]
  · simpa using same₁
  · simpa using same₁
  · exact same₁.setZone (k := .io) found (by simp)

theorem sameWear_allocateWorseMatch {be : Backend} {fuel : Nat} {L : WriteLifeTimeHint}
    {bestDiff : Nat} {zone : Option Nat} {d : Device} {r : Device × IOStatus × Option Nat}
    (run : allocateWorseMatch be fuel L bestDiff zone d = some r) : d.SameWear r.1 := by
  obtain ⟨gotToken, d₁, got, ended⟩ := allocateWorseMatch_cases run
  have same₁ : d.SameWear d₁ := by
    unfold getActiveIOZoneTokenIfAvailable at got
    split at got <;> cases got <;> simp [SameWear.refl]
  rcases ended with ⟨d₂, start, opened⟩ | same | same
  · rcases start with rfl | ⟨z, released⟩
    exacts [same₁.trans (sameWear_allocateNewZone opened),
      (same₁.trans (sameWear_checkRelease released)).trans (sameWear_allocateNewZone opened)]
  · rw [same]; exact same₁
  · rw [same]; cases gotToken <;> simpa using same₁

theorem sameWear_allocateIOZone {be : Backend} {fuel m : Nat} {L : WriteLifeTimeHint}
    {ioType : IOType} {d : Device} {r : Device × IOStatus × Option Nat}
    (run : allocateIOZone be fuel m L ioType d = some r) : d.SameWear r.1 := by
  rcases allocateIOZone_cases run with same | ⟨d₁, swept, ended⟩
  · rw [same]; exact .refl d
  have sweep : d.SameWear d₁ := by
    rcases swept with rfl | rfl
    exacts [.refl _, sameWear_applyFinishThreshold be _]
  rcases ended with same | ⟨d₃, status, bestDiff, zone, found, ended⟩
  · rw [same]; exact sweep
  have best := sameWear_getBestOpenZoneMatch L m (d₁.setOpenIOZones (d₁.openIOZones + 1))
  rw [found] at best
  have same₃ : d.SameWear d₃ := sweep.trans (by simpa [SameWear] using best)
  rcases ended with same | worse | same
  · rw [same]; simpa using same₃
  · exact same₃.trans (sameWear_allocateWorseMatch worse)
  · rw [same]; cases zone <;> simpa [allocateResult] using same₃

theorem sameWear_getMigrateTargetZone {L : WriteLifeTimeHint} {m : Nat} {d : Device}
    {r : Device × IOStatus × Option Nat} (run : getMigrateTargetZone L m d = some r) :
    d.SameWear r.1 := by
  obtain ⟨-, d₁, waited, rfl⟩ := getMigrateTargetZone_eq_some run
  have start : d.SameWear d₁ := by
    obtain ⟨-, rfl⟩ := Device.waitForOpenIOZoneToken_eq_some.mp waited
    simp [SameWear.refl]
  have phase : ∀ d', d.SameWear d' → d.SameWear (migrateOpenPhase L m d').1 := by
    intro d' kept
    rcases migrateOpenPhase_cases L m d' with notFound | ⟨b, z, found, -, -, -, -, -, held⟩
    · rw [notFound]; simpa using kept
    · rw [held]; exact kept.setZone (k := .io) found (Zone.wear_setBusy z true)
  rcases getMigrateTargetZoneWithToken_cases L m d₁ with
    ⟨t, z, found, -, -, -, held⟩ | phase₁ | phase₁
  · rw [held]
    exact (by simpa using start : d.SameWear (d₁.setActiveIOZones (d₁.activeIOZones + 1))).setZone
      (k := .io) (z := z) (by simpa [zone_eq] using found) (by simp)
  · rw [phase₁]; exact phase d₁ start
  · rw [phase₁]; exact phase _ (by simpa using start)

theorem sameWear_takeMigrateZone {L : WriteLifeTimeHint} {m : Nat} {d : Device}
    {r : Device × IOStatus × Option Nat} (run : takeMigrateZone L m d = some r) :
    d.SameWear r.1 := by
  obtain ⟨-, rfl⟩ := takeMigrateZone_eq_some run
  have start : d.SameWear (d.setMigrating true) := by simp [SameWear.refl]
  rcases takeMigrateZoneLocked_cases L m (d.setMigrating true) with
    none | ⟨b, z, found, -, -, -, -, held⟩
  · rw [none]; simp [SameWear.refl]
  · rw [held]; exact start.setZone (k := .io) found (Zone.wear_setBusy z true)

theorem sameWear_releaseMigrateZone (zone : Option Nat) (d : Device) :
    d.SameWear (releaseMigrateZone zone d).1 := by
  rw [releaseMigrateZone_device]
  cases zone with
  | none => simp [SameWear.refl]
  | some i =>
    exact (by simp [SameWear.refl] : d.SameWear (d.setMigrating false)).trans
      (sameWear_release _ .io i)

/-- The inversion lemma of the wear: a step of the system or a direct zone call keeps every
zone's place and wear and the total, or it is one of the calls that reset zones. -/
theorem next_wear_cases {c : Contract} {d d' : Device} (next : Step c d d' ∨ ZoneCall c d d') :
    d.SameWear d' ∨ ∃ be, d' = (resetUnusedIOZones be d).1 ∨ d' = (allocateMetaZone be d).1 ∨
      ∃ k i, d' = (d.resetZone be k i).2 := by
  rcases next with step | call
  · cases step with
    | allocateIOZone _ run => exact .inl (sameWear_allocateIOZone run)
    | allocateMetaZone _ => exact .inr ⟨_, .inr (.inl rfl)⟩
    | getMigrateTargetZone run => exact .inl (sameWear_getMigrateTargetZone run)
    | takeMigrateZone run => exact .inl (sameWear_takeMigrateZone run)
    | releaseMigrateZone zone d => exact .inl (sameWear_releaseMigrateZone zone d)
    | applyFinishThreshold _ => exact .inl (sameWear_applyFinishThreshold _ d)
    | finishCheapestIOZone _ => exact .inl (sameWear_finishCheapestIOZone _ d)
    | resetUnusedIOZones _ => exact .inr ⟨_, .inl rfl⟩
    | logGarbageInfo d => rw [logGarbageInfo_device]; exact .inl (.refl d)
    | setZoneDeferredStatus status d =>
      unfold setZoneDeferredStatus
      split <;> exact .inl ⟨fun k => by cases k <;> rfl, rfl⟩
    | sleepWLWorker d => exact .inl ⟨fun k => by cases k <;> rfl, rfl⟩
    | append found _ _ _ run => exact .inl ((SameWear.refl d).setZone found (Zone.wear_append run))
    | giveBack putOpen putActive found _ _ =>
      left
      have released := (SameWear.refl d).setZone (k := .io) found (Zone.wear_setBusy _ false)
      cases putOpen <;> cases putActive <;> simpa using released
    | releaseMeta found _ =>
      exact .inl ((SameWear.refl d).setZone (k := .meta) found (Zone.wear_setBusy _ false))
    | setUsed used found _ =>
      exact .inl ((SameWear.refl d).setZone found (Zone.wear_setUsedCapacity _ used))
  · cases call with
    | append found _ _ run => exact .inl ((SameWear.refl d).setZone found (Zone.wear_append run))
    | reset _ => exact .inr ⟨_, .inr (.inr ⟨_, _, rfl⟩)⟩
    | finish => exact .inl (sameWear_finishZone _ _ _ _)

/-! ### What one call makes of each zone -/

theorem Device.SameWear.evolves {d d' : Device} (same : d.SameWear d') (k : ZoneKind) :
    List.Forall₂ Zone.Evolves (d.zones k) (d'.zones k) := by
  have wears : List.Forall₂ (· = ·) ((d.zones k).map Zone.wear) ((d'.zones k).map Zone.wear) := by
    rw [same.1 k]; exact List.forall₂_same.mpr fun _ _ => rfl
  rw [List.forall₂_map_left_iff, List.forall₂_map_right_iff] at wears
  exact wears.imp fun _ _ same => Zone.Evolves.of_wear same.symm

/-- Replacing one zone keeps what a call made of every zone when the new zone is what the call
may make of the zone it replaces. -/
theorem evolved_setZone {d₀ d : Device}
    (all : ∀ k, List.Forall₂ Zone.Evolves (d₀.zones k) (d.zones k)) {k : ZoneKind} {i : Nat}
    {z z' : Zone} (found : d.zone k i = some z)
    (step : ∀ z₀, d₀.zone k i = some z₀ → Zone.Evolves z₀ z → Zone.Evolves z₀ z')
    (k' : ZoneKind) :
    List.Forall₂ Zone.Evolves (d₀.zones k') ((d.setZone k i z').zones k') := by
  rw [setZone_eq]
  by_cases other : k' = k
  · subst other
    rw [zones_setZones]
    exact forall₂_set (all k') found step
  · rw [zones_setZones_of_ne _ _ other]
    exact all k'

theorem evolves_resetUnusedIOZones (be : Backend) (d : Device) (k : ZoneKind) :
    List.Forall₂ Zone.Evolves (d.zones k) ((resetUnusedIOZones be d).1.zones k) := by
  refine resetUnusedIOZones_holds be
    (fun d' => ∀ k, List.Forall₂ Zone.Evolves (d.zones k) (d'.zones k)) (SameWear.refl d).evolves
    ?_ k
  intro d' i z kept found _ written _
  dsimp only
  split <;> simp only [zones_setWl, putActiveIOZoneToken_zones] <;>
    exact evolved_setZone kept (k := .io) found fun _ _ e => e.reset written rfl rfl rfl

theorem evolves_allocateMetaZone (be : Backend) (d : Device) (k : ZoneKind) :
    List.Forall₂ Zone.Evolves (d.zones k) ((allocateMetaZone be d).1.zones k) :=
  allocateMetaZone_holds be (fun d' => ∀ k, List.Forall₂ Zone.Evolves (d.zones k) (d'.zones k))
    (SameWear.refl d).evolves
    (fun _ _ _ kept found _ => evolved_setZone kept (k := .meta) found fun _ _ e => e.retag rfl rfl)
    (fun _ _ _ kept found _ _ written _ => by
      simp only [zones_setWl]
      exact evolved_setZone kept (k := .meta) found fun _ _ e => e.reset written rfl rfl rfl) k

theorem evolves_resetZone (be : Backend) (k : ZoneKind) (i : Nat) (d : Device) (k' : ZoneKind) :
    List.Forall₂ Zone.Evolves (d.zones k') ((d.resetZone be k i).2.zones k') := by
  unfold resetZone
  split
  · exact (SameWear.refl d).evolves k'
  · rename_i z found
    dsimp only
    split
    · exact (SameWear.refl d).evolves k'
    · refine evolved_setZone (SameWear.refl d).evolves found (fun z₀ found₀ _ => ?_) k'
      obtain rfl := Option.some.inj (found₀.symm.trans found)
      exact ⟨rfl, .inr ⟨rfl, rfl⟩⟩

theorem forall₂_evolves_of_cases {d d' : Device}
    (cases : d.SameWear d' ∨ ∃ be, d' = (resetUnusedIOZones be d).1 ∨
      d' = (allocateMetaZone be d).1 ∨ ∃ k i, d' = (d.resetZone be k i).2) (k : ZoneKind) :
    List.Forall₂ Zone.Evolves (d.zones k) (d'.zones k) := by
  rcases cases with same | ⟨be, rfl | rfl | ⟨k', i, rfl⟩⟩
  · exact same.evolves k
  · exact evolves_resetUnusedIOZones be d k
  · exact evolves_allocateMetaZone be d k
  · exact evolves_resetZone be k' i d k

/-- Every step of the system and every direct zone call keeps each vector's zones in their
order, each where it was; each zone keeps its maximum capacity and reset count, or is reset once
in the call, its count going up by one in `uint32_t`, and left empty. -/
theorem step_evolves {c : Contract} {d d' : Device} (next : Step c d d' ∨ ZoneCall c d d')
    (k : ZoneKind) : List.Forall₂ Zone.Evolves (d.zones k) (d'.zones k) :=
  forall₂_evolves_of_cases (next_wear_cases next) k

theorem step_evolves_reset :
    List.Forall₂ Zone.Evolves (oneZoneDevice.zones .io)
      ((oneZoneDevice.resetZone (onlineBackend 4096) .io 0).2.zones .io) :=
  step_evolves (c := Contract.free fun _ => True) (.inr (.reset trivial)) .io

/-! ### The zones never move -/

theorem map_start_of_evolves {zs zs' : List Zone} (all : List.Forall₂ Zone.Evolves zs zs') :
    zs'.map Zone.start = zs.map Zone.start := by
  induction all with
  | nil => rfl
  | cons e _ ih => rw [List.map_cons, List.map_cons, e.start_eq, ih]

/-- What a step or a direct zone call keeps of every zone's place. -/
theorem next_keeps_starts {c : Contract} {d d' : Device} (next : Step c d d' ∨ ZoneCall c d d')
    (k : ZoneKind) : (d'.zones k).map Zone.start = (d.zones k).map Zone.start :=
  map_start_of_evolves (forall₂_evolves_of_cases (next_wear_cases next) k)

/-- On every device that `Open` and any run of steps and direct zone calls reach, each vector
holds as many zones as `Open` built from the listing, each where the listing put it. -/
theorem zones_stay_listed {c : Contract} {d : Device}
    (reach : Reachable c (fun d d' => Step c d d' ∨ ZoneCall c d d') d) :
    ∃ cfg bd listing, c.device bd ∧ bd.listing = some listing ∧
      ∀ k, (d.zones k).map Zone.start = ((Device.opened cfg bd listing).zones k).map Zone.start := by
  induction reach with
  | opened device success =>
    obtain ⟨listing, listed, -, -, rfl⟩ := openDevice_ok success
    exact ⟨_, _, listing, device, listed, fun _ => rfl⟩
  | step _ next ih =>
    obtain ⟨cfg, bd, listing, device, listed, starts⟩ := ih
    exact ⟨cfg, bd, listing, device, listed, fun k => (next_keeps_starts next k).trans (starts k)⟩

theorem zones_stay_listed_after_reset :
    ∃ cfg bd listing, (Contract.free fun _ => True).device bd ∧ bd.listing = some listing ∧
      ∀ k, ((freshDevice.resetZone (onlineBackend 4096) .io 0).2.zones k).map Zone.start =
        ((Device.opened cfg bd listing).zones k).map Zone.start :=
  zones_stay_listed (.step (reachable_freshDevice trivial) (.inr (.reset trivial)))

/-! ### `total_reset_count_` counts every reset -/

namespace Device

/-- The reset counts of every meta and io zone, summed without wrapping. -/
def resetCountSum (d : Device) : Nat :=
  ((d.zones .meta).map Zone.resetCount).sum + ((d.zones .io).map Zone.resetCount).sum

/-- `total_reset_count_` is `GetMetaZoneResetCountNow() + GetIOZoneResetCountNow()` in
`uint32_t`: it counts the resets of every meta and io zone. -/
def ResetsCounted (d : Device) : Prop :=
  d.wl.totalResetCount = add32 d.getMetaZoneResetCountNow d.getIOZoneResetCountNow

instance (d : Device) : Decidable d.ResetsCounted := inferInstanceAs (Decidable (_ = _))

/-- `total_reset_count_` is the zones' reset counts plus what was `taken` from them by the
setters, in `uint32_t`. -/
def Ledger (taken : Nat) (d : Device) : Prop :=
  d.wl.totalResetCount = (d.resetCountSum + taken) % 2 ^ 32

@[simp] theorem ledger_putActiveIOZoneToken (taken : Nat) (d : Device) :
    d.putActiveIOZoneToken.Ledger taken ↔ d.Ledger taken := Iff.rfl

theorem foldl_add32_resetCount :
    ∀ (zs : List Zone) (t : Nat), t < 2 ^ 32 →
      zs.foldl (fun total z => add32 total z.resetCount) t =
        (t + (zs.map Zone.resetCount).sum) % 2 ^ 32
  | [], t, small => by
    rw [List.foldl_nil, List.map_nil, List.sum_nil, Nat.add_zero, Nat.mod_eq_of_lt small]
  | z :: zs, t, _ => by
    rw [List.foldl_cons,
      foldl_add32_resetCount zs (add32 t z.resetCount) (Nat.mod_lt _ (Nat.two_pow_pos 32)),
      List.map_cons, List.sum_cons]
    unfold add32
    omega

theorem foldl_add32_resetCount_lt (zs : List Zone) :
    zs.foldl (fun total z => add32 total z.resetCount) 0 < 2 ^ 32 := by
  rw [foldl_add32_resetCount zs 0 (Nat.two_pow_pos 32)]
  exact Nat.mod_lt _ (Nat.two_pow_pos 32)

/-- The two `uint32_t` sums of `GetMetaZoneResetCountNow` and `GetIOZoneResetCountNow`,
added in `uint32_t`, are the zones' reset counts summed. -/
theorem resetCountNow_eq (d : Device) :
    add32 d.getMetaZoneResetCountNow d.getIOZoneResetCountNow = d.resetCountSum % 2 ^ 32 := by
  unfold getMetaZoneResetCountNow getIOZoneResetCountNow resetCountSum
  rw [foldl_add32_resetCount _ 0 (Nat.two_pow_pos 32), foldl_add32_resetCount _ 0 (Nat.two_pow_pos 32)]
  unfold add32
  rw [Nat.zero_add, Nat.zero_add, ← Nat.add_mod, zones_meta, zones_io]

theorem resetsCounted_iff (d : Device) : d.ResetsCounted ↔ d.Ledger 0 := by
  rw [ResetsCounted, resetCountNow_eq, Ledger, Nat.add_zero]

theorem resetCountSum_setZone {d : Device} {k : ZoneKind} {i : Nat} {z : Zone}
    (found : d.zone k i = some z) (z' : Zone) :
    (d.setZone k i z').resetCountSum + z.resetCount = d.resetCountSum + z'.resetCount := by
  have counts : ((d.zones k).map Zone.resetCount)[i]? = some z.resetCount := by
    rw [List.getElem?_map, ← zone_eq, found]; rfl
  have moved := sum_set_add counts z'.resetCount
  rw [← List.map_set] at moved
  unfold resetCountSum
  rw [setZone_eq]
  cases k <;> rw [zones_setZones, zones_setZones_of_ne _ _ (by decide)] <;> omega

theorem SameWear.resetCountSum_eq {d d' : Device} (same : d.SameWear d') :
    d'.resetCountSum = d.resetCountSum := by
  have counts : ∀ k, (d'.zones k).map Zone.resetCount = (d.zones k).map Zone.resetCount := by
    intro k
    have := congrArg (List.map fun w : Nat × Nat × Nat => w.2.2) (same.1 k)
    simpa only [List.map_map] using this
  rw [resetCountSum, resetCountSum, counts, counts]

theorem Ledger.of_sameWear {taken : Nat} {d d' : Device} (ledger : d.Ledger taken)
    (same : d.SameWear d') : d'.Ledger taken := by
  have total : d'.wl.totalResetCount = d.wl.totalResetCount := congrArg Prod.fst same.2
  rw [Ledger, total, same.resetCountSum_eq, ledger]

theorem wearLevelingCheck_totalResetCount (d : Device) :
    d.wearLevelingCheck.totalResetCount = d.wl.totalResetCount := by
  unfold wearLevelingCheck WearLeveling.wakeupWLWorker
  dsimp only
  split_ifs <;> rfl

/-- A reset adds one to the zone's count and to the total, so the ledger still balances. -/
theorem Ledger.reset {taken : Nat} {d : Device} (ledger : d.Ledger taken) {k : ZoneKind} {i : Nat}
    {z z' : Zone} (found : d.zone k i = some z) (count : z'.resetCount = add32 z.resetCount 1)
    {w : WearLeveling} (total : w.totalResetCount = add32 d.wl.totalResetCount 1) :
    ((d.setZone k i z').setWl w).Ledger taken := by
  have moved := resetCountSum_setZone found z'
  have sum : ((d.setZone k i z').setWl w).resetCountSum = (d.setZone k i z').resetCountSum := rfl
  rw [Ledger, setWl_wl, sum, total, ledger]
  rw [count] at moved
  unfold add32 at moved ⊢
  omega

theorem ResetsCounted.reset {d : Device} (counted : d.ResetsCounted) {k : ZoneKind} {i : Nat}
    {z z' : Zone} (found : d.zone k i = some z) (count : z'.resetCount = add32 z.resetCount 1)
    {w : WearLeveling} (total : w.totalResetCount = add32 d.wl.totalResetCount 1) :
    ((d.setZone k i z').setWl w).ResetsCounted :=
  (resetsCounted_iff _).mpr (((resetsCounted_iff d).mp counted).reset found count total)

theorem resetWearLeveling_totalResetCount (d : Device) (k : ZoneKind) (i : Nat) (z : Zone) :
    (d.setZone k i z).resetWearLeveling.totalResetCount = add32 d.wl.totalResetCount 1 := by
  rw [← setZone_wl d k i z]
  exact wearLevelingCheck_totalResetCount _

theorem Ledger.resetZone {taken : Nat} {d : Device} (ledger : d.Ledger taken) (be : Backend)
    (k : ZoneKind) (i : Nat) : (d.resetZone be k i).2.Ledger taken := by
  unfold Device.resetZone
  split
  · exact ledger
  · rename_i z found
    dsimp only
    split
    · exact ledger
    · exact ledger.reset found rfl (resetWearLeveling_totalResetCount _ _ _ _)

theorem Ledger.resetUnusedIOZones {taken : Nat} {d : Device} (ledger : d.Ledger taken)
    (be : Backend) : (resetUnusedIOZones be d).1.Ledger taken := by
  refine resetUnusedIOZones_holds be (Ledger taken) ledger ?_
  intro d' i z kept found _ _ _
  dsimp only
  split
  · exact kept.reset (k := .io) found rfl (resetWearLeveling_totalResetCount _ _ _ _)
  · exact (ledger_putActiveIOZoneToken _ _).mpr
      (kept.reset (k := .io) found rfl (resetWearLeveling_totalResetCount _ _ _ _))

theorem Ledger.allocateMetaZone {taken : Nat} {d : Device} (ledger : d.Ledger taken)
    (be : Backend) : (allocateMetaZone be d).1.Ledger taken :=
  allocateMetaZone_holds be (Ledger taken) ledger
    (fun _ _ z kept found _ =>
      kept.of_sameWear ((SameWear.refl _).setZone (k := .meta) found (Zone.wear_setBusy z true)))
    (fun _ _ _ kept found _ _ _ _ =>
      kept.reset (k := .meta) found rfl (resetWearLeveling_totalResetCount _ _ _ _))

theorem Ledger.next {c : Contract} {taken : Nat} {d d' : Device} (ledger : d.Ledger taken)
    (next : Step c d d' ∨ ZoneCall c d d') : d'.Ledger taken := by
  rcases next_wear_cases next with same | ⟨be, rfl | rfl | ⟨k, i, rfl⟩⟩
  · exact ledger.of_sameWear same
  · exact ledger.resetUnusedIOZones be
  · exact ledger.allocateMetaZone be
  · exact ledger.resetZone be k i

/-- A setter writes reset counts and not the total: the ledger balances once what the counts
lost, in `uint32_t`, is added to what was taken. -/
theorem Ledger.set {taken : Nat} {d d' : Device} (ledger : d.Ledger taken) (call : ResetCountCall d d') :
    d'.Ledger (add32 taken (sub32 (add32 d.getMetaZoneResetCountNow d.getIOZoneResetCountNow)
      (add32 d'.getMetaZoneResetCountNow d'.getIOZoneResetCountNow))) := by
  have total : d'.wl.totalResetCount = d.wl.totalResetCount := by
    cases call with
    | setResetCount => rw [setZone_wl]
    | setIOZonesResetCount => rfl
  rw [Ledger, total, ledger, resetCountNow_eq, resetCountNow_eq]
  unfold add32 sub32
  omega

/-- Where the total counts every reset, the total less the meta zones' count is the io zones'
count. -/
theorem ResetsCounted.ioZonesResetCount {d : Device} (counted : d.ResetsCounted) :
    d.ioZonesResetCount = d.getIOZoneResetCountNow := by
  have meta : d.getMetaZoneResetCountNow < 2 ^ 32 := foldl_add32_resetCount_lt _
  have io : d.getIOZoneResetCountNow < 2 ^ 32 := foldl_add32_resetCount_lt _
  unfold Device.ioZonesResetCount
  rw [counted]
  unfold add32 sub32
  omega

theorem resetsCounted_opened (cfg : Config) (bd : BackendDevice) (listing : List ZoneListing) :
    (Device.opened cfg bd listing).ResetsCounted := by
  have fresh : ∀ k, ∀ n ∈ ((Device.opened cfg bd listing).zones k).map Zone.resetCount, n = 0 := by
    intro k n listed
    obtain ⟨z, mem, rfl⟩ := List.mem_map.mp listed
    cases k with
    | meta =>
      obtain ⟨e, -, rfl⟩ := mem_takeMetaZones_fst (by simpa using mem)
      rfl
    | io =>
      simp only [zones_io, Device.opened_ioZones, List.mem_map, List.mem_filter] at mem
      obtain ⟨e, -, rfl⟩ := mem
      rfl
  rw [resetsCounted_iff, Ledger, resetCountSum, List.sum_eq_zero (fresh .meta),
    List.sum_eq_zero (fresh .io)]
  rfl

end Device

open Device

/-- The devices that `Open` and any run of the system's calls, direct zone calls and
reset-count setters reach, with what the setters took from the zones' reset counts: each
setter adds, in `uint32_t`, the count sum before it less the count sum after it. -/
inductive CountsReachable (c : Contract) : Device → Nat → Prop
  | opened {readonly exclusive : Bool} {bd : BackendDevice} {cfg : Config} {d : Device} :
      c.device bd → openDevice readonly exclusive bd cfg = (d, .ok) → CountsReachable c d 0
  | step {d d' : Device} {taken : Nat} :
      CountsReachable c d taken → Step c d d' ∨ ZoneCall c d d' → CountsReachable c d' taken
  | set {d d' : Device} {taken : Nat} : CountsReachable c d taken → ResetCountCall d d' →
      CountsReachable c d'
        (add32 taken (sub32 (add32 d.getMetaZoneResetCountNow d.getIOZoneResetCountNow)
          (add32 d'.getMetaZoneResetCountNow d'.getIOZoneResetCountNow)))

/-- On every device that `Open` and any run of the system's calls, direct zone calls,
`Zone::SetResetCount` and `SetIOZonesResetCount` reach, `total_reset_count_` is
`GetMetaZoneResetCountNow() + GetIOZoneResetCountNow()` plus what the setters took from the
counts, all in `uint32_t`. A run without setters took nothing: the total counts every reset. -/
theorem resets_counted {c : Contract} {d : Device} {taken : Nat} (reach : CountsReachable c d taken) :
    d.wl.totalResetCount =
      add32 (add32 d.getMetaZoneResetCountNow d.getIOZoneResetCountNow) taken := by
  have ledger : d.Ledger taken := by
    induction reach with
    | opened _ success =>
      obtain ⟨listing, -, -, -, rfl⟩ := openDevice_ok success
      exact (resetsCounted_iff _).mp (resetsCounted_opened _ _ listing)
    | step _ next ih => exact ih.next next
    | set _ call ih => exact ih.set call
  rw [ledger, resetCountNow_eq]
  unfold add32
  omega

theorem resets_counted_after_set :
    let d₁ := (freshDevice.resetZone (onlineBackend 4096) .io 0).2
    let d := d₁.setIOZonesResetCount (List.replicate 29 5)
    d.wl.totalResetCount = add32 (add32 d.getMetaZoneResetCountNow d.getIOZoneResetCountNow)
      (add32 0 (sub32 (add32 d₁.getMetaZoneResetCountNow d₁.getIOZoneResetCountNow)
        (add32 d.getMetaZoneResetCountNow d.getIOZoneResetCountNow))) :=
  resets_counted (c := Contract.free fun _ => True)
    (.set (.step (.opened trivial (openDevice_freshBackend 14 14 4096 32 defaultConfig (by decide)))
      (.inr (.reset trivial))) (.setIOZonesResetCount (by decide) (by decide)))

/-- On a device whose total counts every reset, the `io_zones_reset_count` that the trigger of
`Zone::Reset` computes, once the zone's count and `total_reset_count_` have moved, is the io
zones' reset count `GetIOZoneResetCountNow()`. -/
theorem trigger_counts_io_resets {d : Device} (counted : d.ResetsCounted) {k : ZoneKind} {i : Nat}
    {z : Zone} (found : d.zone k i = some z) (offline : Bool) (maxCapacity : Nat) :
    let d₁ := d.setZone k i (z.resetFields offline maxCapacity)
    let d₂ : Device :=
      { d₁ with wl := { d₁.wl with totalResetCount := add32 d₁.wl.totalResetCount 1 } }
    d₂.ioZonesResetCount = d₂.getIOZoneResetCountNow := by
  dsimp only
  exact (counted.reset found rfl (by rw [setZone_wl])).ioZonesResetCount

theorem trigger_counts_io_resets_one_zone :
    oneZoneDevice.ResetsCounted ∧
      let d₁ := oneZoneDevice.setZone .io 0
        ((Zone.ofListing ⟨0, 4096, 0, true, false, true, false, false⟩).resetFields false 4096)
      let d₂ : Device :=
        { d₁ with wl := { d₁.wl with totalResetCount := add32 d₁.wl.totalResetCount 1 } }
      d₂.ioZonesResetCount = d₂.getIOZoneResetCountNow :=
  ⟨by decide,
    trigger_counts_io_resets (d := oneZoneDevice) (k := .io) (i := 0) (by decide) rfl false 4096⟩

end ZenFS
