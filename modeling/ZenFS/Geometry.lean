import ZenFS.System

set_option autoImplicit false

/- The geometry of every zone stays sane: `start_ ≤ wp_`, `capacity_ ≤ max_capacity_`, the
written bytes and the capacity add up to the maximum capacity while the zone is not full,
and the zone ends inside the address space, so that no `uint64_t` update wraps. It holds
after `Open` on a sane listing and is kept by every call, every holder's action and every
direct `Append`, `Reset` and `Finish`, given a backend that keeps its contract. -/
namespace ZenFS

/-- A property of a zone, given the zone size, that the allocator's calls keep: it reads only
the zone's start, write pointer, capacities and live bytes, it survives `Zone::Finish` whatever
the backend answers, and it survives the reset of a zone without live data by a backend within
the contract. -/
structure ZoneInvariant (c : Contract) where
  holds : Nat → Zone → Prop
  retag {zoneSize : Nat} {z z' : Zone} : holds zoneSize z → z'.start = z.start → z'.wp = z.wp →
    z'.capacity = z.capacity → z'.maxCapacity = z.maxCapacity →
    z'.usedCapacity = z.usedCapacity → holds zoneSize z'
  finish {zoneSize : Nat} {z : Zone} (answer : IOStatus) :
    holds zoneSize z → holds zoneSize (z.finish zoneSize answer).2
  reset {zoneSize : Nat} {be : Backend} {z : Zone} : c.backend zoneSize be → z.usedCapacity = 0 →
    holds zoneSize z → holds zoneSize (z.resetFields (be.reset z.start).2.1 (be.reset z.start).2.2)

/-- Every meta and io zone of the device has the property. -/
def Device.Keeps {c : Contract} (I : ZoneInvariant c) (d : Device) : Prop :=
  ∀ k, ∀ z ∈ d.zones k, I.holds d.zoneSize z

/-- Every meta and io zone satisfies the zone invariant. -/
def Device.ZonesValid (d : Device) : Prop := ∀ k, ∀ z ∈ d.zones k, z.Valid d.zoneSize

/-- The contract of the zone invariant: every listed zone is sane; `Reset` reports a maximum
capacity of at most the zone size; `Write` returns `-1` or at most the length asked. -/
def geometryContract : Contract where
  device bd := ∀ listing, bd.listing = some listing → ∀ e ∈ listing, e.Sane bd.zoneSize
  backend zoneSize be := ∀ start, (be.reset start).2.2 ≤ zoneSize
  writes := Zone.WritesWithin

/-- The zone invariant is kept by the allocator's calls. -/
def validZones : ZoneInvariant geometryContract where
  holds zoneSize z := z.Valid zoneSize
  retag valid start wp capacity maxCapacity _ := valid.congr start wp capacity maxCapacity
  finish answer valid := valid.finish answer
  reset contract _ valid := valid.resetFields _ _ (contract _)

theorem Device.zonesValid_iff_keeps (d : Device) : d.ZonesValid ↔ d.Keeps validZones := Iff.rfl

namespace Device

section Keeps

variable {c : Contract} (I : ZoneInvariant c)

theorem Keeps.of_zone {I : ZoneInvariant c} {d : Device} (kept : d.Keeps I) {k : ZoneKind}
    {i : Nat} {z : Zone} (found : d.zone k i = some z) : I.holds d.zoneSize z :=
  kept k z (List.getElem?_mem found)

theorem Keeps.setZone {I : ZoneInvariant c} {d : Device} (kept : d.Keeps I) {k : ZoneKind}
    {i : Nat} {z : Zone} (fits : I.holds d.zoneSize z) : (d.setZone k i z).Keeps I := by
  intro k' z' mem
  rw [setZone_zoneSize]
  by_cases same : k' = k
  · subst same
    rw [setZone_eq, zones_setZones] at mem
    rcases List.mem_or_eq_of_mem_set mem with mem | rfl
    · exact kept k' z' mem
    · exact fits
  · rw [setZone_eq, zones_setZones_of_ne _ _ same] at mem
    exact kept k' z' mem

/-- Changing a zone's flags or hint keeps the property. -/
theorem Keeps.retag {I : ZoneInvariant c} {d : Device} (kept : d.Keeps I) {k : ZoneKind} {i : Nat}
    {z z' : Zone} (found : d.zone k i = some z) (start : z'.start = z.start) (wp : z'.wp = z.wp)
    (capacity : z'.capacity = z.capacity) (maxCapacity : z'.maxCapacity = z.maxCapacity)
    (used : z'.usedCapacity = z.usedCapacity) : (d.setZone k i z').Keeps I :=
  kept.setZone (I.retag (kept.of_zone found) start wp capacity maxCapacity used)

theorem Keeps.hold {I : ZoneInvariant c} {d : Device} (kept : d.Keeps I) {k : ZoneKind} {i : Nat}
    {z : Zone} (found : d.zone k i = some z) (b : Bool) : (d.setZone k i (z.setBusy b)).Keeps I :=
  kept.retag found rfl rfl rfl rfl rfl

@[simp] theorem keeps_setWl (d : Device) (w : WearLeveling) : (d.setWl w).Keeps I ↔ d.Keeps I :=
  Iff.rfl

@[simp] theorem keeps_setMigrating (d : Device) (b : Bool) :
    (d.setMigrating b).Keeps I ↔ d.Keeps I := Iff.rfl

@[simp] theorem keeps_setOpenIOZones (d : Device) (n : Int) :
    (d.setOpenIOZones n).Keeps I ↔ d.Keeps I := Iff.rfl

@[simp] theorem keeps_setActiveIOZones (d : Device) (n : Int) :
    (d.setActiveIOZones n).Keeps I ↔ d.Keeps I := Iff.rfl

@[simp] theorem keeps_putOpenIOZoneToken (d : Device) : d.putOpenIOZoneToken.Keeps I ↔ d.Keeps I :=
  Iff.rfl

@[simp] theorem keeps_putActiveIOZoneToken (d : Device) :
    d.putActiveIOZoneToken.Keeps I ↔ d.Keeps I := Iff.rfl

theorem Keeps.release {I : ZoneInvariant c} {d : Device} (kept : d.Keeps I) (k : ZoneKind)
    (i : Nat) : (d.release k i).Keeps I := by
  rcases release_cases d k i with same | ⟨z, found, -, released⟩
  · rw [same]; exact kept
  · rw [released]; exact kept.hold found false

theorem Keeps.checkRelease {I : ZoneInvariant c} {d d' : Device} (kept : d.Keeps I) {k : ZoneKind}
    {i : Nat} (success : d.checkRelease k i = .ok d') : d'.Keeps I := by
  rw [checkRelease_ok success]; exact kept.release k i

theorem Keeps.finishIdle {I : ZoneInvariant c} {d : Device} (kept : d.Keeps I) (be : Backend)
    {i : Nat} {z : Zone} (found : d.ioZones[i]? = some z) : (d.finishIdle be i z).1.Keeps I := by
  unfold Device.finishIdle
  split
  · simpa using kept.setZone (I.finish _ (kept.of_zone (k := .io) found))
  · exact kept

theorem Keeps.finishZone {I : ZoneInvariant c} {d : Device} (kept : d.Keeps I) (be : Backend)
    (k : ZoneKind) (i : Nat) : (d.finishZone be k i).2.Keeps I := by
  unfold Device.finishZone
  split
  · exact kept
  · rename_i z found
    exact kept.setZone (I.finish _ (kept.of_zone found))

/-- A successful reset of a zone without live data, within the contract, keeps the property,
whatever the zone's busy flag and the wear-leveling members become. -/
theorem Keeps.reset {I : ZoneInvariant c} {d : Device} (kept : d.Keeps I) {be : Backend}
    (contract : c.backend d.zoneSize be) {k : ZoneKind} {i : Nat} {z : Zone}
    (found : d.zone k i = some z) (unused : z.usedCapacity = 0) (b : Bool) (w : WearLeveling) :
    ((d.setZone k i ((z.resetFields (be.reset z.start).2.1 (be.reset z.start).2.2).setBusy b)).setWl
      w).Keeps I := by
  rw [keeps_setWl]
  exact kept.setZone (I.retag (I.reset contract unused (kept.of_zone found)) rfl rfl rfl rfl rfl)

end Keeps

theorem ZonesValid.of_zone {d : Device} (valid : d.ZonesValid) {k : ZoneKind} {i : Nat} {z : Zone}
    (found : d.zone k i = some z) : z.Valid d.zoneSize :=
  Keeps.of_zone (I := validZones) valid found

theorem ZonesValid.setZone {d : Device} (valid : d.ZonesValid) {k : ZoneKind} {i : Nat} {z : Zone}
    (fits : z.Valid d.zoneSize) : (d.setZone k i z).ZonesValid :=
  Keeps.setZone (I := validZones) valid fits

/-- A reset within the contract keeps the invariant, held or not, with live data or not. -/
theorem ZonesValid.resetZone {d : Device} (valid : d.ZonesValid) {be : Backend}
    (contract : geometryContract.backend d.zoneSize be) (k : ZoneKind) (i : Nat) :
    (d.resetZone be k i).2.ZonesValid := by
  unfold Device.resetZone
  split
  · exact valid
  · rename_i z found
    dsimp only
    split
    · exact valid
    · exact valid.setZone
        (((valid.of_zone found).resetFields _ _ (contract z.start)).congr rfl rfl rfl rfl)

end Device

open Device

section Calls

variable {c : Contract} (I : ZoneInvariant c)

theorem keeps_getBestOpenZoneMatch (L : WriteLifeTimeHint) (m : Nat) {d : Device}
    (kept : d.Keeps I) : (getBestOpenZoneMatch L m d).1.Keeps I := by
  rcases getBestOpenZoneMatch_cases L m d with same | ⟨b, z, found, -, -, -, -, held⟩
  · rw [same]; exact kept
  · rw [held]; exact kept.hold (k := .io) found true

theorem keeps_finishCheapestIOZone (be : Backend) {d : Device} (kept : d.Keeps I) :
    (finishCheapestIOZone be d).1.Keeps I := by
  rcases finishCheapestIOZone_cases be d with same | ⟨v, z, found, -, -, -, held⟩
  · rw [same]; exact kept
  · rw [held]; exact kept.finishIdle be found

theorem keeps_applyFinishThreshold (be : Backend) {d : Device} (kept : d.Keeps I) :
    (applyFinishThreshold be d).1.Keeps I :=
  applyFinishThreshold_holds be (Keeps I) kept
    fun _ _ _ kept' found _ _ _ => kept'.finishIdle be found

theorem keeps_resetUnusedIOZones {be : Backend} {d : Device}
    (contract : c.backend d.zoneSize be) (kept : d.Keeps I) :
    (resetUnusedIOZones be d).1.Keeps I := by
  refine (resetUnusedIOZones_holds be (fun d' => d'.Keeps I ∧ d'.zoneSize = d.zoneSize)
    ⟨kept, rfl⟩ ?_).1
  intro d' i z ⟨kept', size⟩ found free _ unused
  have reset := kept'.reset (size ▸ contract) (k := .io) found unused false
    ((d'.setZone .io i ((z.resetFields (be.reset z.start).2.1
      (be.reset z.start).2.2).setBusy true)).resetWearLeveling)
  rw [Zone.setBusy_of_busy (b := false) (by rw [Zone.resetFields_busy, free])] at reset
  split <;> simpa [size] using reset

theorem keeps_allocateMetaZone {be : Backend} {d : Device}
    (contract : c.backend d.zoneSize be) (kept : d.Keeps I) :
    (allocateMetaZone be d).1.Keeps I :=
  (allocateMetaZone_holds be (fun d' => d'.Keeps I ∧ d'.zoneSize = d.zoneSize) ⟨kept, rfl⟩
    (fun _ _ _ ⟨kept', size⟩ found _ => ⟨kept'.hold (k := .meta) found true, by simpa using size⟩)
    (fun _ _ _ ⟨kept', size⟩ found _ unused _ _ =>
      ⟨kept'.reset (size ▸ contract) (k := .meta) found unused true _, by simpa using size⟩)).1

theorem keeps_finishLoop {be : Backend} {fuel : Nat} {d : Device} {r : Device × IOStatus}
    (kept : d.Keeps I) (run : finishLoop be fuel d = some r) : r.1.Keeps I :=
  finishLoop_holds be (Keeps I) (fun d' _ => d'.Keeps I)
    (fun _ kept' _ => by simpa using kept')
    (fun _ kept' _ _ => keeps_finishCheapestIOZone I be kept')
    (fun _ kept' _ _ => keeps_finishCheapestIOZone I be kept') fuel d r kept run

theorem keeps_allocateNewZone {be : Backend} {fuel : Nat} {L : WriteLifeTimeHint}
    {gotToken : Bool} {d : Device} {r : Device × IOStatus × Option Nat} (kept : d.Keeps I)
    (run : allocateNewZone be fuel L gotToken d = some r) : r.1.Keeps I := by
  obtain ⟨d₁, status, first, ended⟩ := allocateNewZone_cases run
  have kept₁ : d₁.Keeps I := by
    cases gotToken
    · exact keeps_finishLoop I kept first
    · simp only [if_true, Option.some.injEq, Prod.mk.injEq] at first
      rw [← first.1]; exact kept
  rcases ended with ⟨-, same⟩ | ⟨-, same | ⟨b, z, found, -, -, same⟩⟩ <;> rw [same]
  · simpa using kept₁
  · simpa using kept₁
  · exact kept₁.retag (k := .io) found rfl rfl rfl rfl rfl

theorem keeps_allocateWorseMatch {be : Backend} {fuel : Nat} {L : WriteLifeTimeHint}
    {bestDiff : Nat} {zone : Option Nat} {d : Device} {r : Device × IOStatus × Option Nat}
    (kept : d.Keeps I) (run : allocateWorseMatch be fuel L bestDiff zone d = some r) :
    r.1.Keeps I := by
  obtain ⟨gotToken, d₁, got, ended⟩ := allocateWorseMatch_cases run
  have kept₁ : d₁.Keeps I := by
    unfold getActiveIOZoneTokenIfAvailable at got
    split at got <;> cases got <;> simpa using kept
  rcases ended with ⟨d₂, start, opened⟩ | same | same
  · rcases start with rfl | ⟨z, released⟩
    exacts [keeps_allocateNewZone I kept₁ opened,
      keeps_allocateNewZone I (kept₁.checkRelease released) opened]
  · rw [same]; exact kept₁
  · rw [same]; cases gotToken <;> simpa using kept₁

theorem keeps_allocateIOZone {be : Backend} {fuel m : Nat} {L : WriteLifeTimeHint}
    {ioType : IOType} {d : Device} {r : Device × IOStatus × Option Nat} (kept : d.Keeps I)
    (run : allocateIOZone be fuel m L ioType d = some r) : r.1.Keeps I := by
  rcases allocateIOZone_cases run with same | ⟨d₁, swept, ended⟩
  · rw [same]; exact kept
  have sweep : d₁.Keeps I := by
    rcases swept with rfl | rfl
    exacts [kept, keeps_applyFinishThreshold I be kept]
  rcases ended with same | ⟨d₃, status, bestDiff, zone, found, ended⟩
  · rw [same]; exact sweep
  have best := keeps_getBestOpenZoneMatch I L m
    (d := d₁.setOpenIOZones (d₁.openIOZones + 1)) (by simpa using sweep)
  rw [found] at best
  rcases ended with same | worse | same
  · rw [same]; simpa using best
  · exact keeps_allocateWorseMatch I best worse
  · rw [same]; cases zone <;> simpa [allocateResult] using best

theorem keeps_getMigrateTargetZone {L : WriteLifeTimeHint} {m : Nat} {d : Device}
    {r : Device × IOStatus × Option Nat} (kept : d.Keeps I)
    (run : getMigrateTargetZone L m d = some r) : r.1.Keeps I := by
  obtain ⟨-, d₁, waited, rfl⟩ := getMigrateTargetZone_eq_some run
  have start : d₁.Keeps I := by
    obtain ⟨-, rfl⟩ := Device.waitForOpenIOZoneToken_eq_some.mp waited
    simpa using kept
  have phase : ∀ d' : Device, d'.Keeps I → (migrateOpenPhase L m d').1.Keeps I := by
    intro d' kept'
    rcases migrateOpenPhase_cases L m d' with notFound | ⟨b, z, found, -, -, -, -, -, held⟩
    · rw [notFound]; simpa using kept'
    · rw [held]; exact kept'.hold (k := .io) found true
  rcases getMigrateTargetZoneWithToken_cases L m d₁ with
    ⟨t, z, found, -, -, -, held⟩ | phase₁ | phase₁
  · rw [held]
    exact (by simpa using start : (d₁.setActiveIOZones (d₁.activeIOZones + 1)).Keeps I).retag
      (k := .io) (z := z) (by simpa [zone_eq] using found) rfl rfl rfl rfl rfl
  · rw [phase₁]; exact phase d₁ start
  · rw [phase₁]; exact phase _ (by simpa using start)

theorem keeps_takeMigrateZone {L : WriteLifeTimeHint} {m : Nat} {d : Device}
    {r : Device × IOStatus × Option Nat} (kept : d.Keeps I)
    (run : takeMigrateZone L m d = some r) : r.1.Keeps I := by
  obtain ⟨-, rfl⟩ := takeMigrateZone_eq_some run
  have start : (d.setMigrating true).Keeps I := by simpa using kept
  rcases takeMigrateZoneLocked_cases L m (d.setMigrating true) with
    none | ⟨b, z, found, -, -, -, -, held⟩
  · rw [none]; simpa using kept
  · rw [held]; exact start.hold (k := .io) found true

theorem keeps_releaseMigrateZone (zone : Option Nat) {d : Device} (kept : d.Keeps I) :
    (releaseMigrateZone zone d).1.Keeps I := by
  rw [releaseMigrateZone_device]
  cases zone with
  | none => simpa using kept
  | some i => exact (by simpa using kept : (d.setMigrating false).Keeps I).release .io i

/-- Every step of the system keeps the property, given that a holder's `Append` within the
contract and the file layer's update of the live bytes keep it. -/
theorem keeps_step {d d' : Device}
    (append : ∀ {z : Zone} {size : Nat} {answers : List (Except String Nat)} {r : Zone.Appended},
      I.holds d.zoneSize z → size < 2 ^ 32 → c.writes size answers → z.append size answers = some r →
      I.holds d.zoneSize r.zone)
    (setUsed : ∀ {z : Zone} (used : Nat), I.holds d.zoneSize z → used ≤ z.wp - z.start →
      I.holds d.zoneSize { z with usedCapacity := used })
    (kept : d.Keeps I) (step : Step c d d') : d'.Keeps I := by
  cases step with
  | allocateIOZone _ run => exact keeps_allocateIOZone I kept run
  | allocateMetaZone contract => exact keeps_allocateMetaZone I contract kept
  | getMigrateTargetZone run => exact keeps_getMigrateTargetZone I kept run
  | takeMigrateZone run => exact keeps_takeMigrateZone I kept run
  | releaseMigrateZone zone d => exact keeps_releaseMigrateZone I zone kept
  | applyFinishThreshold _ => exact keeps_applyFinishThreshold I _ kept
  | finishCheapestIOZone _ => exact keeps_finishCheapestIOZone I _ kept
  | resetUnusedIOZones contract => exact keeps_resetUnusedIOZones I contract kept
  | logGarbageInfo d => rw [logGarbageInfo_device]; exact kept
  | setZoneDeferredStatus status d =>
    unfold setZoneDeferredStatus
    split
    · intro k; cases k; exacts [kept .meta, kept .io]
    · exact kept
  | sleepWLWorker d => intro k; cases k; exacts [kept .meta, kept .io]
  | append found _ small writes run =>
    exact kept.setZone (append (kept.of_zone found) small writes run)
  | giveBack putOpen putActive found _ _ =>
    have released := kept.hold (k := .io) found false
    cases putOpen <;> cases putActive <;> simpa using released
  | releaseMeta found _ => exact kept.hold (k := .meta) found false
  | setUsed used found within => exact kept.setZone (setUsed used (kept.of_zone found) within)

end Calls

/-- After `Open` every zone is built from a listed zone, so the property holds when it holds of
every listed zone. -/
theorem keeps_opened {c : Contract} (I : ZoneInvariant c) (cfg : Config) {bd : BackendDevice}
    {listing : List ZoneListing} (listed : ∀ e ∈ listing, I.holds bd.zoneSize (Zone.ofListing e)) :
    (Device.opened cfg bd listing).Keeps I := by
  intro k z mem
  cases k with
  | meta =>
    obtain ⟨e, mem', rfl⟩ := mem_takeMetaZones_fst (by simpa using mem)
    exact listed e mem'
  | io =>
    simp only [zones_io, Device.opened_ioZones, List.mem_map, List.mem_filter] at mem
    obtain ⟨e, ⟨mem', -⟩, rfl⟩ := mem
    exact listed e ((takeMetaZones_snd_sublist _ _).subset mem')

theorem zonesValid_step {d d' : Device} (valid : d.ZonesValid) (step : Step geometryContract d d') :
    d'.ZonesValid :=
  keeps_step validZones (fun kept small writes run => Zone.Valid.append kept small writes run)
    (fun _ kept _ => kept.congr rfl rfl rfl rfl) valid step

theorem zonesValid_zoneCall {d d' : Device} (valid : d.ZonesValid)
    (call : ZoneCall geometryContract d d') : d'.ZonesValid := by
  cases call with
  | append found small writes run => exact valid.setZone ((valid.of_zone found).append small writes run)
  | reset contract => exact valid.resetZone contract _ _
  | finish => exact Keeps.finishZone (I := validZones) valid _ _ _

/-- Every device reachable under the geometry contract, by the allocator's calls, the holders'
actions and direct zone calls, keeps the zone invariant. -/
theorem zonesValid_of_reachable {d : Device}
    (reach : Reachable geometryContract
      (fun d d' => Step geometryContract d d' ∨ ZoneCall geometryContract d d') d) :
    d.ZonesValid :=
  Reachable.holds (c := geometryContract) Device.ZonesValid
    (fun _ cfg _ sane listed _ _ =>
      keeps_opened validZones cfg fun e mem => Zone.valid_ofListing (sane _ listed e mem))
    (fun _ _ valid next => next.elim (zonesValid_step valid) (zonesValid_zoneCall valid)) reach

/-- Every meta and io zone of every device reachable from `Open`, by the allocator's calls,
the holders' actions and direct calls of `Zone::Append`, `Zone::Reset` and `Zone::Finish`,
satisfies the zone invariant, given a backend that keeps the geometry contract. -/
theorem zones_valid {d : Device}
    (reach : Reachable geometryContract
      (fun d d' => Step geometryContract d d' ∨ ZoneCall geometryContract d d') d) :
    d.ZonesValid :=
  zonesValid_of_reachable reach

theorem zones_valid_fresh :
    (Device.opened defaultConfig (freshBackend 14 14 4096 32) (freshListing 4096 32)).ZonesValid :=
  zones_valid (.opened
    (fun listing listed e mem => by
      cases listed
      obtain ⟨i, below, rfl⟩ := mem_freshListing mem
      refine ⟨?_, ?_, ?_, ?_, fun _ => ?_⟩ <;> simp [freshBackend, add64] <;> omega)
    (openDevice_freshBackend 14 14 4096 32 defaultConfig (by decide)))

end ZenFS
