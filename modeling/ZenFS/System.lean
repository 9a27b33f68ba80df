import ZenFS.Allocate
import ZenFS.Open

set_option autoImplicit false

/- The device as a system: `Open`, then any sequence of calls into the allocator, each run
to its end, interleaved with what the threads that hold zones do with them. The backend's
answers are chosen afresh for every call, within a contract. -/
namespace ZenFS

/-- What the environment promises: about the backend `Open` talks to, about the answers a
backend gives during one call (given the zone size), and about the answers to the `Write`
calls of one `Zone::Append` (given its size). -/
structure Contract where
  device : BackendDevice → Prop
  backend : Nat → Backend → Prop
  writes : Nat → List (Except String Nat) → Prop

/-- A contract about the backend device only; every answer during a call is allowed. -/
def Contract.free (device : BackendDevice → Prop) : Contract where
  device := device
  backend _ _ := True
  writes _ _ := True

/-- One step of the system. The allocator's calls return (`some`) or block for ever, and a
step is a call that returns. A thread that holds a zone appends to it, hands it back with
the tokens it chooses to return (the active one only for a full zone), and the file layer
sets a zone's live bytes within what was written. -/
inductive Step (c : Contract) : Device → Device → Prop
  | allocateIOZone {be : Backend} {fuel minCapacity : Nat} {fileLifetime : WriteLifeTimeHint}
      {ioType : IOType} {d : Device} {r : Device × IOStatus × Option Nat} :
      c.backend d.zoneSize be → allocateIOZone be fuel minCapacity fileLifetime ioType d = some r →
      Step c d r.1
  | allocateMetaZone {be : Backend} {d : Device} :
      c.backend d.zoneSize be → Step c d (allocateMetaZone be d).1
  | getMigrateTargetZone {fileLifetime : WriteLifeTimeHint} {minCapacity : Nat} {d : Device}
      {r : Device × IOStatus × Option Nat} :
      getMigrateTargetZone fileLifetime minCapacity d = some r → Step c d r.1
  | takeMigrateZone {fileLifetime : WriteLifeTimeHint} {minCapacity : Nat} {d : Device}
      {r : Device × IOStatus × Option Nat} :
      takeMigrateZone fileLifetime minCapacity d = some r → Step c d r.1
  | releaseMigrateZone (zone : Option Nat) (d : Device) : Step c d (releaseMigrateZone zone d).1
  | applyFinishThreshold {be : Backend} {d : Device} :
      c.backend d.zoneSize be → Step c d (applyFinishThreshold be d).1
  | finishCheapestIOZone {be : Backend} {d : Device} :
      c.backend d.zoneSize be → Step c d (finishCheapestIOZone be d).1
  | resetUnusedIOZones {be : Backend} {d : Device} :
      c.backend d.zoneSize be → Step c d (resetUnusedIOZones be d).1
  | logGarbageInfo (d : Device) : Step c d (logGarbageInfo d).1
  | setZoneDeferredStatus (status : IOStatus) (d : Device) : Step c d (d.setZoneDeferredStatus status)
  | sleepWLWorker (d : Device) : Step c d d.sleepWLWorker
  | append {k : ZoneKind} {i size : Nat} {answers : List (Except String Nat)} {z : Zone}
      {r : Zone.Appended} {d : Device} :
      d.zone k i = some z → z.busy = true → size < 2 ^ 32 → c.writes size answers →
      z.append size answers = some r → Step c d (d.setZone k i r.zone)
  | giveBack {i : Nat} {z : Zone} {d : Device} (putOpen putActive : Bool) :
      d.ioZones[i]? = some z → z.busy = true → (putActive = true → z.capacity = 0) →
      Step c d
        (let d₁ := d.setZone .io i (z.setBusy false)
         let d₂ := if putOpen then d₁.putOpenIOZoneToken else d₁
         if putActive then d₂.putActiveIOZoneToken else d₂)
  | releaseMeta {i : Nat} {z : Zone} {d : Device} :
      d.metaZones[i]? = some z → z.busy = true → Step c d (d.setZone .meta i (z.setBusy false))
  | setUsed {k : ZoneKind} {i : Nat} {z : Zone} {d : Device} (used : Nat) :
      d.zone k i = some z → used ≤ z.wp - z.start →
      Step c d (d.setZone k i { z with usedCapacity := used })

/-- A call of `Zone::Append`, `Zone::Reset` or `Zone::Finish` made directly on any zone,
held or not. `Zone::Close` changes no field of the zone. -/
inductive ZoneCall (c : Contract) : Device → Device → Prop
  | append {k : ZoneKind} {i size : Nat} {answers : List (Except String Nat)} {z : Zone}
      {r : Zone.Appended} {d : Device} :
      d.zone k i = some z → size < 2 ^ 32 → c.writes size answers →
      z.append size answers = some r → ZoneCall c d (d.setZone k i r.zone)
  | reset {be : Backend} {k : ZoneKind} {i : Nat} {d : Device} :
      c.backend d.zoneSize be → ZoneCall c d (d.resetZone be k i).2
  | finish {be : Backend} {k : ZoneKind} {i : Nat} {d : Device} :
      ZoneCall c d (d.finishZone be k i).2

/-- A call of `Zone::SetResetCount` on any zone, or of `SetIOZonesResetCount` with one
`uint32_t` count per io zone. Neither writes `total_reset_count_`. -/
inductive ResetCountCall : Device → Device → Prop
  | setResetCount {k : ZoneKind} {i n : Nat} {z : Zone} {d : Device} :
      d.zone k i = some z → n < 2 ^ 32 → ResetCountCall d (d.setZone k i (z.setResetCount n))
  | setIOZonesResetCount {counts : List Nat} {d : Device} :
      counts.length = d.ioZones.length → (∀ n ∈ counts, n < 2 ^ 32) →
      ResetCountCall d (d.setIOZonesResetCount counts)

/-- The devices reachable from a successful `Open` of a backend within the contract. -/
inductive Reachable (c : Contract) (next : Device → Device → Prop) : Device → Prop
  | opened {readonly exclusive : Bool} {bd : BackendDevice} {cfg : Config} {d : Device} :
      c.device bd → openDevice readonly exclusive bd cfg = (d, .ok) → Reachable c next d
  | step {d d' : Device} : Reachable c next d → next d d' → Reachable c next d'

/-- The rule for invariants: what holds after every successful `Open` and is kept by every
step holds in every reachable device. -/
theorem Reachable.holds {c : Contract} {next : Device → Device → Prop} (P : Device → Prop)
    (opened : ∀ (bd : BackendDevice) (cfg : Config) (listing : List ZoneListing),
      c.device bd → bd.listing = some listing → listing.length = bd.nrZones →
      zenfsMinZones ≤ bd.nrZones → P (Device.opened cfg bd listing))
    (step : ∀ d d', P d → next d d' → P d') {d : Device} (reach : Reachable c next d) : P d := by
  induction reach with
  | opened device success =>
    obtain ⟨listing, listed, complete, enough, rfl⟩ := openDevice_ok success
    exact opened _ _ listing device listed complete enough
  | step _ next ih => exact step _ _ ih next

/-- A holder's `Zone::Append` of `size` bytes that the backend writes in one `Write`. -/
def Device.appendOnce (k : ZoneKind) (i size : Nat) (d : Device) : Device :=
  match (d.zone k i).bind (Zone.append size [.ok size]) with
  | some r => d.setZone k i r.zone
  | none => d

theorem Reachable.appendOnce {c : Contract} {d : Device} {k : ZoneKind} {i size : Nat}
    (reach : Reachable c (Step c) d) (held : (d.zone k i).all Zone.busy = true) (small : size < 2 ^ 32)
    (writes : c.writes size [.ok size]) : Reachable c (Step c) (d.appendOnce k i size) := by
  unfold Device.appendOnce
  cases found : d.zone k i with
  | none => exact reach
  | some z =>
    rw [found] at held
    rw [Option.some_bind]
    cases run : z.append size [.ok size] with
    | none => exact reach
    | some r => exact reach.step (.append found (by simpa using held) small writes run)

/-- The file layer setting the live bytes of a zone, `used_capacity_ = used`. -/
def Device.setUsedCapacity (k : ZoneKind) (i used : Nat) (d : Device) : Device :=
  match d.zone k i with
  | some z => d.setZone k i { z with usedCapacity := used }
  | none => d

theorem Reachable.setUsedCapacity {c : Contract} {d : Device} {k : ZoneKind} {i used : Nat}
    (reach : Reachable c (Step c) d) (within : (d.zone k i).all (fun z => used ≤ z.wp - z.start) = true) :
    Reachable c (Step c) (d.setUsedCapacity k i used) := by
  unfold Device.setUsedCapacity
  cases found : d.zone k i with
  | none => exact reach
  | some z =>
    rw [found] at within
    exact reach.step (.setUsed used found (by simpa using within))

/-- The device after a call of `AllocateIOZone` that returns; the device itself when it does
not. -/
def Device.afterAllocateIOZone (be : Backend) (fuel minCapacity : Nat)
    (fileLifetime : WriteLifeTimeHint) (ioType : IOType) (d : Device) : Device :=
  (allocateIOZone be fuel minCapacity fileLifetime ioType d).elim d Prod.fst

theorem Reachable.afterAllocateIOZone {c : Contract} {d : Device} {be : Backend}
    {fuel minCapacity : Nat} {fileLifetime : WriteLifeTimeHint} {ioType : IOType}
    (reach : Reachable c (Step c) d) (contract : c.backend d.zoneSize be) :
    Reachable c (Step c) (d.afterAllocateIOZone be fuel minCapacity fileLifetime ioType) := by
  unfold Device.afterAllocateIOZone
  cases run : allocateIOZone be fuel minCapacity fileLifetime ioType d with
  | none => exact reach
  | some r => exact reach.step (.allocateIOZone contract run)

/-- A holder giving io zone `i` back, with the open and the active token if it chooses to. -/
def Device.giveBack (putOpen putActive : Bool) (i : Nat) (d : Device) : Device :=
  match d.ioZones[i]? with
  | some z =>
    let d₁ := d.setZone .io i (z.setBusy false)
    let d₂ := if putOpen then d₁.putOpenIOZoneToken else d₁
    if putActive then d₂.putActiveIOZoneToken else d₂
  | none => d

theorem Reachable.giveBack {c : Contract} {d : Device} {i : Nat} (putOpen : Bool)
    (reach : Reachable c (Step c) d) (held : (d.ioZones[i]?).all Zone.busy = true) :
    Reachable c (Step c) (d.giveBack putOpen false i) := by
  unfold Device.giveBack
  cases found : d.ioZones[i]? with
  | none => exact reach
  | some z =>
    rw [found] at held
    exact reach.step (.giveBack putOpen false found (by simpa using held) (fun no => by cases no))

/-- A listing of `n` empty, writable, sequential zones of `zoneSize` bytes, the first at 0. -/
def freshListing (zoneSize n : Nat) : List ZoneListing :=
  (List.range n).map fun i => ⟨i * zoneSize, zoneSize, i * zoneSize, true, false, true, false, false⟩

@[simp] theorem length_freshListing (zoneSize n : Nat) : (freshListing zoneSize n).length = n := by
  simp [freshListing]

theorem mem_freshListing {zoneSize n : Nat} {e : ZoneListing} (mem : e ∈ freshListing zoneSize n) :
    ∃ i < n, e = ⟨i * zoneSize, zoneSize, i * zoneSize, true, false, true, false, false⟩ := by
  simp only [freshListing, List.mem_map, List.mem_range] at mem
  obtain ⟨i, below, rfl⟩ := mem
  exact ⟨i, below, rfl⟩

/-- A backend device with the given limits whose zones are all empty. -/
def freshBackend (maxNrActiveZones maxNrOpenZones zoneSize n : Nat) : BackendDevice where
  openStatus := .ok
  maxNrActiveZones := maxNrActiveZones
  maxNrOpenZones := maxNrOpenZones
  nrZones := n
  zoneSize := zoneSize
  listing := some (freshListing zoneSize n)
  close _ := .ok

/-- Options with the finish threshold off. -/
def defaultConfig : Config where
  finishThreshold := 0
  resetRatioThreshold := Double.ofNat 1
  wlTriggerCount := 0
  wlWorkerSleep := true

theorem openDevice_freshBackend (maxNrActiveZones maxNrOpenZones zoneSize n : Nat) (cfg : Config)
    (enough : zenfsMinZones ≤ n) :
    openDevice false true (freshBackend maxNrActiveZones maxNrOpenZones zoneSize n) cfg =
      (Device.opened cfg (freshBackend maxNrActiveZones maxNrOpenZones zoneSize n)
        (freshListing zoneSize n), .ok) :=
  openDevice_eq cfg rfl rfl enough rfl (length_freshListing zoneSize n)

/-- A zone listed active and open, with its first 512 bytes written: the last of 32 zones of
4096 bytes. -/
def openListedZone : ZoneListing := ⟨31 * 4096, 4096, 31 * 4096 + 512, true, false, true, true, true⟩

/-- `freshBackend 14 14 4096 32` with its last zone listed active and open, and a `Close` that
fails. -/
def closeFailingBackend : BackendDevice :=
  { freshBackend 14 14 4096 32 with
    listing := some (freshListing 4096 31 ++ [openListedZone])
    close := fun _ => .ioError "Zone close failed" }

/-- A writable, exclusive `Open` returns OK although the `Close` it sends an io zone listed
active and open fails. -/
theorem openDevice_ok_after_failed_close :
    openListedZone ∈ (takeMetaZones zenfsMetaZones (freshListing 4096 31 ++ [openListedZone])).2 ∧
      openListedZone.usable ∧ openListedZone.isActive ∧ openListedZone.isOpen ∧
      (Zone.ofListing openListedZone).close (closeFailingBackend.close openListedZone.start) =
        .ioError "Zone close failed" ∧
      (openDevice false true closeFailingBackend defaultConfig).2 = .ok :=
  ⟨by decide, rfl, rfl, rfl, by decide,
    by rw [@openDevice_eq false true _ defaultConfig _ rfl rfl (by decide) rfl (by decide)]⟩

/-- A device opened on 32 empty zones of 4096 bytes whose backend allows 14 active and 14
open zones. -/
def freshDevice : Device :=
  Device.opened defaultConfig (freshBackend 14 14 4096 32) (freshListing 4096 32)

theorem reachable_freshDevice {c : Contract} {next : Device → Device → Prop}
    (device : c.device (freshBackend 14 14 4096 32)) : Reachable c next freshDevice :=
  .opened device
    (openDevice_freshBackend 14 14 4096 32 defaultConfig (by decide))

/-- A backend whose every call succeeds, a reset bringing the zone back online with its
full `zoneSize` bytes. -/
def onlineBackend (zoneSize : Nat) : Backend where
  reset _ := (.ok, false, zoneSize)
  finish _ := .ok
  close _ := .ok

end ZenFS
