import ZenFS.Device

set_option autoImplicit false

/- `ZonedBlockDevice::Open`: limits, the zone listing, the meta zones and the io zones. -/
namespace ZenFS

/-- The backend as `Open` sees it: the status of its `Open` with the two limits, the
geometry, `ListZones` (`none` for a null list), and its answers to `Close`. -/
structure BackendDevice where
  openStatus : IOStatus
  maxNrActiveZones : Nat
  maxNrOpenZones : Nat
  nrZones : Nat
  zoneSize : Nat
  listing : Option (List ZoneListing)
  close : Nat → IOStatus

/-- Modelled from the spec: the initial values of the members that the header and the
options set (`finish_threshold_`, the initial `reset_ratio_threshold_`, `wl_trigger_count_`,
`wl_worker_sleep_`). The deferred status starts OK and `migrating_` false. -/
structure Config where
  finishThreshold : Nat
  resetRatioThreshold : Double
  wlTriggerCount : Int
  wlWorkerSleep : Bool

/-- `ZonedBlockDevice::ZonedBlockDevice`: no zones yet, both reset counters at 0. -/
@[simps] def Device.fresh (cfg : Config) (be : BackendDevice) : Device where
  metaZones := []
  ioZones := []
  zoneSize := be.zoneSize
  nrZones := be.nrZones
  maxNrActiveIOZones := 0
  maxNrOpenIOZones := 0
  activeIOZones := 0
  openIOZones := 0
  finishThreshold := cfg.finishThreshold
  zoneDeferredStatus := .ok
  migrating := false
  wl :=
    { totalResetCount := 0
      checkResetCount := 0
      resetRatioThreshold := cfg.resetRatioThreshold
      wlTriggerCount := cfg.wlTriggerCount
      wlWorkerSleep := cfg.wlWorkerSleep }

/-- The io limit `Open` derives from a device limit: `0` means none, and two zones are
reserved (one for metadata, one for migration) by an `unsigned int` subtraction. -/
def ioZoneLimit (nrZones limit : Nat) : Nat := if limit = 0 then nrZones else sub32 limit 2

/-- The meta-zone loop of `Open`: the first `ZENFS_META_ZONES` sequential zones, of which
those not offline become meta zones; what is left of the listing. -/
def takeMetaZones : Nat → List ZoneListing → List Zone × List ZoneListing
  | 0, rest => ([], rest)
  | _ + 1, [] => ([], [])
  | m + 1, e :: rest =>
    if e.isSwr then
      match takeMetaZones m rest with
      | (zones, rest') => (if !e.isOffline then Zone.ofListing e :: zones else zones, rest')
    else takeMetaZones (m + 1) rest

/-- The io-zone loop of `Open`: every sequential zone that is not offline becomes an io
zone; active ones are counted, and open ones closed unless read-only (the status of that
`Close` is dropped). The statuses are those of the busy flag. -/
def openIOZones (readonly : Bool) (close : Nat → IOStatus) (zoneSize : Nat) :
    List ZoneListing → Except IOStatus (List Zone × Nat)
  | [] => .ok ([], 0)
  | e :: rest =>
    if e.isSwr && !e.isOffline then
      let z := Zone.ofListing e
      match z.acquire with
      | none => .error (.corruption ("Failed to set busy flag of zone " ++ toString (z.start / zoneSize)))
      | some held =>
        let _ := if e.isActive && e.isOpen && !readonly then held.close (close held.start) else .ok
        match held.release with
        | none => .error (.corruption ("Failed to unset busy flag of zone " ++ toString (z.start / zoneSize)))
        | some z' =>
          (openIOZones readonly close zoneSize rest).map fun (zones, active) =>
            (z' :: zones, if e.isActive then active + 1 else active)
    else openIOZones readonly close zoneSize rest

/-- `ZonedBlockDevice::Open(readonly, exclusive)` on a freshly constructed device. -/
def openDevice (readonly exclusive : Bool) (be : BackendDevice) (cfg : Config) : Device × IOStatus :=
  let d := Device.fresh cfg be
  if !readonly && !exclusive then (d, .invalidArgument "Write opens must be exclusive")
  else if !be.openStatus.isOk then (d, be.openStatus)
  else if be.nrZones < zenfsMinZones then
    (d, .notSupported ("To few zones on zoned backend (" ++ toString zenfsMinZones ++ " required)"))
  else
    let d₁ := { d with
      maxNrActiveIOZones := ioZoneLimit be.nrZones be.maxNrActiveZones
      maxNrOpenIOZones := ioZoneLimit be.nrZones be.maxNrOpenZones }
    match be.listing with
    | none => (d₁, .ioError "Failed to list zones")
    | some listing =>
      if listing.length ≠ be.nrZones then (d₁, .ioError "Failed to list zones")
      else
        match takeMetaZones zenfsMetaZones listing with
        | (metaZones, rest) =>
          let d₂ := { d₁ with metaZones := metaZones, activeIOZones := 0, openIOZones := 0 }
          match openIOZones readonly be.close be.zoneSize rest with
          | .error status => (d₂, status)
          | .ok (ioZones, active) => ({ d₂ with ioZones := ioZones, activeIOZones := active }, .ok)

/-- The listing entries `Open` makes io zones of: sequential and not offline. -/
def ZoneListing.usable (e : ZoneListing) : Bool := e.isSwr && !e.isOffline

/-- The io-zone loop of `Open` never fails: a zone it has just built is idle, so both the
acquire and the release succeed. -/
theorem openIOZones_eq (readonly : Bool) (close : Nat → IOStatus) (zoneSize : Nat)
    (l : List ZoneListing) :
    openIOZones readonly close zoneSize l =
      .ok ((l.filter ZoneListing.usable).map Zone.ofListing,
        (l.filter ZoneListing.usable).countP (·.isActive)) := by
  induction l with
  | nil => rfl
  | cons e rest ih =>
    unfold openIOZones
    by_cases use : (e.isSwr && !e.isOffline) = true
    · have idle : (Zone.ofListing e).busy = false := rfl
      simp only [use, if_true, Zone.acquire, idle, Zone.release, Zone.setBusy_busy,
        Zone.setBusy_setBusy, Zone.setBusy_of_busy idle, ih]
      cases active : e.isActive <;>
        simp [ZoneListing.usable, use, Except.map, Zone.setBusy_of_busy idle, List.countP_cons, active]
    · simp [use, ih, ZoneListing.usable]

/-- The device a successful `Open` leaves, given the listing. -/
@[simps] def Device.opened (cfg : Config) (bd : BackendDevice) (listing : List ZoneListing) : Device where
  metaZones := (takeMetaZones zenfsMetaZones listing).1
  ioZones := ((takeMetaZones zenfsMetaZones listing).2.filter ZoneListing.usable).map Zone.ofListing
  zoneSize := bd.zoneSize
  nrZones := bd.nrZones
  maxNrActiveIOZones := ioZoneLimit bd.nrZones bd.maxNrActiveZones
  maxNrOpenIOZones := ioZoneLimit bd.nrZones bd.maxNrOpenZones
  activeIOZones :=
    ((takeMetaZones zenfsMetaZones listing).2.filter ZoneListing.usable).countP (·.isActive)
  openIOZones := 0
  finishThreshold := cfg.finishThreshold
  zoneDeferredStatus := .ok
  migrating := false
  wl :=
    { totalResetCount := 0
      checkResetCount := 0
      resetRatioThreshold := cfg.resetRatioThreshold
      wlTriggerCount := cfg.wlTriggerCount
      wlWorkerSleep := cfg.wlWorkerSleep }

theorem openDevice_eq {readonly exclusive : Bool} {bd : BackendDevice} (cfg : Config)
    {listing : List ZoneListing} (mode : (readonly || exclusive) = true) (success : bd.openStatus = .ok)
    (enough : zenfsMinZones ≤ bd.nrZones) (listed : bd.listing = some listing)
    (complete : listing.length = bd.nrZones) :
    openDevice readonly exclusive bd cfg = (Device.opened cfg bd listing, .ok) := by
  have write : (!readonly && !exclusive) = false := by cases readonly <;> simp_all
  simp [openDevice, write, success, Nat.not_lt.mpr enough, listed, complete, openIOZones_eq]
  rfl

/-- `Open` succeeds only on a complete listing of at least `ZENFS_MIN_ZONES` zones, and
leaves the device `Device.opened` describes. -/
theorem openDevice_ok {readonly exclusive : Bool} {bd : BackendDevice} {cfg : Config} {d : Device}
    (opened : openDevice readonly exclusive bd cfg = (d, .ok)) :
    ∃ listing, bd.listing = some listing ∧ listing.length = bd.nrZones ∧
      zenfsMinZones ≤ bd.nrZones ∧ d = Device.opened cfg bd listing := by
  unfold openDevice at opened
  split at opened
  · cases opened
  split at opened
  · rename_i failed
    simp only [Prod.mk.injEq] at opened
    simp [opened.2] at failed
  split at opened
  · cases opened
  rename_i enough
  split at opened
  · cases opened
  rename_i listing listed
  split at opened
  · cases opened
  rename_i complete
  simp only [openIOZones_eq, Prod.mk.injEq] at opened
  refine ⟨listing, listed, by simpa using complete, by simpa using enough, ?_⟩
  rw [← opened.1]
  rfl

/-- `Open` drops the status of every `Close` it sends: its device and its status are the same
whatever the backend answers to `Close`. -/
theorem openDevice_close (readonly exclusive : Bool) (bd : BackendDevice) (cfg : Config)
    (close : Nat → IOStatus) :
    openDevice readonly exclusive { bd with close := close } cfg =
      openDevice readonly exclusive bd cfg := by
  simp only [openDevice, openIOZones_eq]
  rfl

/-- The io zones come from what the meta-zone loop leaves of the listing. -/
theorem takeMetaZones_snd_sublist (m : Nat) (l : List ZoneListing) :
    List.Sublist (takeMetaZones m l).2 l := by
  induction m, l using takeMetaZones.induct with
  | case1 rest => simp [takeMetaZones]
  | case2 m => simp [takeMetaZones]
  | case3 m e rest swr zones rest' split ih =>
    simp only [takeMetaZones, swr, if_true, split] at ih ⊢
    exact ih.cons e
  | case4 m e rest swr ih => simpa [takeMetaZones, swr] using ih.cons e

/-- Every meta zone is built from a listed zone. -/
theorem mem_takeMetaZones_fst {m : Nat} {l : List ZoneListing} {z : Zone}
    (mem : z ∈ (takeMetaZones m l).1) : ∃ e ∈ l, z = Zone.ofListing e := by
  induction m, l using takeMetaZones.induct with
  | case1 rest => simp [takeMetaZones] at mem
  | case2 m => simp [takeMetaZones] at mem
  | case3 m e rest swr zones rest' split ih =>
    simp only [takeMetaZones, swr, if_true, split] at mem ih
    split at mem
    · rcases List.mem_cons.mp mem with rfl | mem
      · exact ⟨e, List.mem_cons_self _ _, rfl⟩
      · obtain ⟨e', mem', rfl⟩ := ih mem
        exact ⟨e', List.mem_cons_of_mem _ mem', rfl⟩
    · obtain ⟨e', mem', rfl⟩ := ih mem
      exact ⟨e', List.mem_cons_of_mem _ mem', rfl⟩
  | case4 m e rest swr ih =>
    simp only [takeMetaZones, swr] at mem
    obtain ⟨e', mem', rfl⟩ := ih mem
    exact ⟨e', List.mem_cons_of_mem _ mem', rfl⟩

end ZenFS
