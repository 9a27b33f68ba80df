import ZenFS.System

set_option autoImplicit false

/- Active tokens cover the partly written io zones. The count that never falls is the slack,
`active_io_zones_` minus the io zones that need a token: a partly written zone, a zone a
writer holds (it may have been handed out empty together with a fresh token), or a zone
with live data that is not full. Every call and every holder's action keeps the slack from
falling, and `Open` starts it at zero or above when the backend reports its partly written
zones as active. -/
namespace ZenFS

/-- The zone is partly written: neither empty nor full. -/
def Zone.isPartlyWritten (z : Zone) : Bool := !z.isEmpty && !z.isFull

/-- The io zone needs an active token. -/
def Zone.needsActive (z : Zone) : Bool := z.isPartlyWritten || z.busy || (z.isUsed && !z.isFull)

theorem Zone.needsActive_of_busy {z : Zone} (held : z.busy = true) : z.needsActive = true := by
  simp [needsActive, held]

theorem Zone.needsActive_of_used {z : Zone} (used : 0 < z.usedCapacity) (room : z.capacity ≠ 0) :
    z.needsActive = true := by
  simp [needsActive, isUsed, isFull, used, room]

/-- Active tokens that no zone needing one accounts for. -/
def Device.activeSlack (d : Device) : Int := d.activeIOZones - d.ioZones.countP Zone.needsActive

namespace Device

@[simp] theorem activeSlack_setZone_meta (d : Device) (i : Nat) (z : Zone) :
    (d.setZone .meta i z).activeSlack = d.activeSlack := rfl

@[simp] theorem activeSlack_setWl (d : Device) (w : WearLeveling) :
    (d.setWl w).activeSlack = d.activeSlack := rfl

@[simp] theorem activeSlack_setMigrating (d : Device) (b : Bool) :
    (d.setMigrating b).activeSlack = d.activeSlack := rfl

@[simp] theorem activeSlack_setOpenIOZones (d : Device) (n : Int) :
    (d.setOpenIOZones n).activeSlack = d.activeSlack := rfl

@[simp] theorem activeSlack_putOpenIOZoneToken (d : Device) :
    d.putOpenIOZoneToken.activeSlack = d.activeSlack := rfl

@[simp] theorem activeSlack_putActiveIOZoneToken (d : Device) :
    d.putActiveIOZoneToken.activeSlack = d.activeSlack - 1 := by
  simp only [activeSlack, putActiveIOZoneToken_activeIOZones, putActiveIOZoneToken_ioZones]
  omega

@[simp] theorem activeSlack_setActiveIOZones (d : Device) (n : Int) :
    (d.setActiveIOZones n).activeSlack = d.activeSlack + (n - d.activeIOZones) := by
  simp only [activeSlack, setActiveIOZones_activeIOZones, setActiveIOZones_ioZones]
  omega

/-- Replacing io zone `i` moves the slack by whether the old and the new zone need a token. -/
theorem activeSlack_setZone_io {d : Device} {i : Nat} {z : Zone} (z' : Zone)
    (found : d.ioZones[i]? = some z) :
    (d.setZone .io i z').activeSlack =
      d.activeSlack + (if z.needsActive then 1 else 0) - (if z'.needsActive then 1 else 0) := by
  obtain ⟨bound, rfl⟩ := List.getElem?_eq_some_iff.mp found
  have within := List.boole_getElem_le_countP Zone.needsActive d.ioZones i bound
  simp only [activeSlack, setZone_activeIOZones, setZone_eq, zones_io, ioZones_setZones_io,
    List.countP_set _ _ _ _ bound]
  split <;> split <;> simp_all <;> omega

theorem activeSlack_le_setZone {d : Device} {i : Nat} {z z' : Zone} (found : d.ioZones[i]? = some z)
    (fewer : z'.needsActive = true → z.needsActive = true) :
    d.activeSlack ≤ (d.setZone .io i z').activeSlack := by
  rw [activeSlack_setZone_io z' found]
  cases h : z'.needsActive <;> cases h' : z.needsActive <;> simp_all

theorem activeSlack_pred_le_setZone {d : Device} {i : Nat} {z : Zone} (z' : Zone)
    (found : d.ioZones[i]? = some z) : d.activeSlack - 1 ≤ (d.setZone .io i z').activeSlack := by
  rw [activeSlack_setZone_io z' found]
  split <;> split <;> omega

/-- A zone that needed a token and no longer does frees one. -/
theorem activeSlack_setZone_spent {d : Device} {i : Nat} {z z' : Zone} (found : d.ioZones[i]? = some z)
    (needed : z.needsActive = true) (spent : z'.needsActive = false) :
    (d.setZone .io i z').activeSlack = d.activeSlack + 1 := by
  rw [activeSlack_setZone_io z' found, needed, spent]
  simp

/-- Releasing a zone never lowers the slack. -/
theorem activeSlack_le_release (d : Device) (i : Nat) : d.activeSlack ≤ (d.release .io i).activeSlack := by
  rcases release_cases d .io i with same | ⟨z, found, held, released⟩
  · rw [same]
  · rw [released]
    exact activeSlack_le_setZone found fun _ => Zone.needsActive_of_busy held

theorem activeSlack_le_checkRelease {d d' : Device} {i : Nat} (success : d.checkRelease .io i = .ok d') :
    d.activeSlack ≤ d'.activeSlack := by
  unfold checkRelease at success
  split at success
  · cases success; exact le_refl _
  · rename_i z found
    split at success
    · rename_i z' released
      cases success
      unfold Zone.release at released
      split at released
      · rename_i held
        cases released
        exact activeSlack_le_setZone found fun _ => Zone.needsActive_of_busy held
      · cases released
    · cases success

/-- Finishing an idle, partly written zone spends the token it frees. -/
theorem activeSlack_finishIdle (be : Backend) {d : Device} {i : Nat} {z : Zone}
    (found : d.ioZones[i]? = some z) (free : z.busy = false) (written : z.wp ≠ z.start)
    (room : z.capacity ≠ 0) : (d.finishIdle be i z).1.activeSlack = d.activeSlack := by
  unfold finishIdle
  split
  · rename_i success
    rw [activeSlack_putActiveIOZoneToken, activeSlack_setZone_spent found
      (by simp [Zone.needsActive, Zone.isPartlyWritten, Zone.isEmpty, Zone.isFull, written, room])
      (by simp [Zone.needsActive, Zone.isPartlyWritten, Zone.isFull, Zone.finish_of_ok success, free])]
    omega
  · rfl

end Device

open Device

theorem activeSlack_getBestOpenZoneMatch (L : WriteLifeTimeHint) (m : Nat) (d : Device) :
    d.activeSlack ≤ (getBestOpenZoneMatch L m d).1.activeSlack := by
  rcases getBestOpenZoneMatch_cases L m d with same | ⟨b, z, found, -, used, room, -, held⟩
  · rw [same]
  · rw [held]
    exact activeSlack_le_setZone found fun _ => Zone.needsActive_of_used used room

theorem activeSlack_finishCheapestIOZone (be : Backend) (d : Device) :
    (finishCheapestIOZone be d).1.activeSlack = d.activeSlack := by
  rcases finishCheapestIOZone_cases be d with same | ⟨v, z, found, free, written, room, held⟩
  · rw [same]
  · rw [held]
    exact activeSlack_finishIdle be found free written room

theorem activeSlack_applyFinishThreshold (be : Backend) (d : Device) :
    (applyFinishThreshold be d).1.activeSlack = d.activeSlack :=
  applyFinishThreshold_holds be (fun d' => d'.activeSlack = d.activeSlack) rfl
    fun _ _ _ kept found free written room => (activeSlack_finishIdle be found free written room).trans kept

theorem activeSlack_resetUnusedIOZones (be : Backend) (d : Device) :
    (resetUnusedIOZones be d).1.activeSlack = d.activeSlack := by
  refine resetUnusedIOZones_holds be (fun d' => d'.activeSlack = d.activeSlack) rfl ?_
  intro d' i z kept found free written unused
  have cleared : (z.resetFields (be.reset z.start).2.1 (be.reset z.start).2.2).needsActive = false := by
    simp [Zone.needsActive, Zone.isPartlyWritten, Zone.isEmpty, Zone.isUsed, free, unused]
  by_cases full : z.capacity = 0
  · have idle : z.needsActive = false := by
      simp [Zone.needsActive, Zone.isPartlyWritten, Zone.isFull, Zone.isUsed, free, full]
    simp only [full, if_true, activeSlack_setWl, activeSlack_setZone_io _ found, idle, cleared]
    simpa using kept
  · simp only [full, if_false, activeSlack_putActiveIOZoneToken, activeSlack_setWl,
      activeSlack_setZone_spent found (by simp [Zone.needsActive, Zone.isPartlyWritten,
        Zone.isEmpty, Zone.isFull, written, full]) cleared, kept]
    omega

theorem activeSlack_allocateMetaZone (be : Backend) (d : Device) :
    (allocateMetaZone be d).1.activeSlack = d.activeSlack :=
  allocateMetaZone_holds be (fun d' => d'.activeSlack = d.activeSlack) rfl
    (fun _ _ _ kept _ _ => by simpa using kept) (fun _ _ _ kept _ _ _ _ _ => by simpa using kept)

/-- The finish loop ends with one more token than it started with, unless a finish failed. -/
theorem activeSlack_finishLoop {be : Backend} {fuel : Nat} {d : Device} {r : Device × IOStatus}
    (run : finishLoop be fuel d = some r) :
    d.activeSlack + (if r.2.isOk then 1 else 0) ≤ r.1.activeSlack :=
  finishLoop_holds be (fun d' => d.activeSlack ≤ d'.activeSlack)
    (fun d' status => d.activeSlack + (if status.isOk then 1 else 0) ≤ d'.activeSlack)
    (fun d' kept _ => by simp only [activeSlack_setActiveIOZones, IOStatus.isOk_ok, if_true]; omega)
    (fun d' kept _ _ => by dsimp only; rw [activeSlack_finishCheapestIOZone]; exact kept)
    (fun d' kept _ failed => by
      dsimp only; rw [failed, activeSlack_finishCheapestIOZone]; simpa using kept)
    fuel d r (le_refl _) run

/-- Opening a new zone spends at most the one token the caller holds or the loop gets. -/
theorem activeSlack_allocateNewZone {be : Backend} {fuel : Nat} {L : WriteLifeTimeHint}
    {gotToken : Bool} {d : Device} {r : Device × IOStatus × Option Nat}
    (run : allocateNewZone be fuel L gotToken d = some r) :
    d.activeSlack - (if gotToken then 1 else 0) ≤ r.1.activeSlack := by
  obtain ⟨d₁, status, first, ended⟩ := allocateNewZone_cases run
  have token : d.activeSlack - (if gotToken then 1 else 0) + (if status.isOk then 1 else 0) ≤
      d₁.activeSlack := by
    cases gotToken
    · simpa using activeSlack_finishLoop first
    · simp only [if_true, Option.some.injEq, Prod.mk.injEq] at first
      obtain ⟨rfl, rfl⟩ := first
      simp
  rcases ended with ⟨failed, same⟩ | ⟨success, same | ⟨b, z, found, -, -, same⟩⟩ <;> rw [same]
  · simpa [failed] using token
  · simp only [success, if_true, activeSlack_putOpenIOZoneToken,
      activeSlack_putActiveIOZoneToken] at token ⊢
    omega
  · simp only [success, if_true] at token
    exact le_trans (show _ ≤ d₁.activeSlack - 1 by omega) (activeSlack_pred_le_setZone _ found)

theorem activeSlack_allocateWorseMatch {be : Backend} {fuel : Nat} {L : WriteLifeTimeHint}
    {bestDiff : Nat} {zone : Option Nat} {d : Device} {r : Device × IOStatus × Option Nat}
    (run : allocateWorseMatch be fuel L bestDiff zone d = some r) :
    d.activeSlack ≤ r.1.activeSlack := by
  obtain ⟨gotToken, d₁, got, ended⟩ := allocateWorseMatch_cases run
  have slack : d₁.activeSlack = d.activeSlack + (if gotToken then 1 else 0) := by
    unfold getActiveIOZoneTokenIfAvailable at got
    split at got <;> cases got <;> simp
  rcases ended with ⟨d₂, start, opened⟩ | same | same
  · have released : d₁.activeSlack ≤ d₂.activeSlack := by
      rcases start with rfl | ⟨z, released⟩
      exacts [le_refl _, activeSlack_le_checkRelease released]
    have := activeSlack_allocateNewZone opened
    cases gotToken <;> simp only [Bool.false_eq_true, if_true, if_false] at slack this <;> omega
  · rw [same]; cases gotToken <;> simp at slack <;> omega
  · rw [same]; cases gotToken <;> simp at slack ⊢ <;> omega

theorem activeSlack_allocateIOZone {be : Backend} {fuel m : Nat} {L : WriteLifeTimeHint}
    {ioType : IOType} {d : Device} {r : Device × IOStatus × Option Nat}
    (run : allocateIOZone be fuel m L ioType d = some r) : d.activeSlack ≤ r.1.activeSlack := by
  rcases allocateIOZone_cases run with same | ⟨d₁, swept, ended⟩
  · rw [same]
  have sweep : d.activeSlack ≤ d₁.activeSlack := by
    rcases swept with rfl | rfl
    exacts [le_refl _, (activeSlack_applyFinishThreshold be d).ge]
  rcases ended with same | ⟨d₃, status, bestDiff, zone, found, ended⟩
  · rw [same]; exact sweep
  have best := activeSlack_getBestOpenZoneMatch L m (d₁.setOpenIOZones (d₁.openIOZones + 1))
  rw [found, activeSlack_setOpenIOZones] at best
  rcases ended with same | worse | same
  · rw [same, activeSlack_putOpenIOZoneToken]; exact sweep.trans best
  · exact sweep.trans (best.trans (activeSlack_allocateWorseMatch worse))
  · rw [same]; cases zone <;> simpa [allocateResult] using sweep.trans best

theorem activeSlack_getMigrateTargetZone {L : WriteLifeTimeHint} {m : Nat} {d : Device}
    {r : Device × IOStatus × Option Nat} (run : getMigrateTargetZone L m d = some r) :
    d.activeSlack ≤ r.1.activeSlack := by
  obtain ⟨-, d₁, waited, rfl⟩ := getMigrateTargetZone_eq_some run
  have start : d₁.activeSlack = d.activeSlack := by
    obtain ⟨-, rfl⟩ := Device.waitForOpenIOZoneToken_eq_some.mp waited
    simp
  have phase : ∀ d' : Device, d'.activeSlack = d.activeSlack →
      d.activeSlack ≤ (migrateOpenPhase L m d').1.activeSlack := by
    intro d' same
    rcases migrateOpenPhase_cases L m d' with notFound | ⟨b, z, found, -, used, room, -, -, held⟩
    · rw [notFound]; simp [same]
    · rw [held, ← same]
      exact activeSlack_le_setZone found fun _ => Zone.needsActive_of_used used room
  rcases getMigrateTargetZoneWithToken_cases L m d₁ with
    ⟨t, z, found, -, -, -, held⟩ | phase₁ | phase₁
  · rw [held]
    have := activeSlack_pred_le_setZone (d := d₁.setActiveIOZones (d₁.activeIOZones + 1))
      ({ z with lifetime := L }.setBusy true) (by simpa using found)
    simp only [activeSlack_setActiveIOZones] at this
    dsimp only
    omega
  · rw [phase₁]; exact phase d₁ start
  · rw [phase₁]; exact phase _ (by simpa using start)

theorem activeSlack_takeMigrateZone {L : WriteLifeTimeHint} {m : Nat} {d : Device}
    {r : Device × IOStatus × Option Nat} (run : takeMigrateZone L m d = some r) :
    d.activeSlack ≤ r.1.activeSlack := by
  obtain ⟨-, rfl⟩ := takeMigrateZone_eq_some run
  rcases takeMigrateZoneLocked_cases L m (d.setMigrating true) with
    none | ⟨b, z, found, -, used, room, -, held⟩
  · rw [none]; simp
  · rw [held]
    simpa using activeSlack_le_setZone found fun _ => Zone.needsActive_of_used used room

theorem activeSlack_releaseMigrateZone (zone : Option Nat) (d : Device) :
    d.activeSlack ≤ (releaseMigrateZone zone d).1.activeSlack := by
  rw [releaseMigrateZone_device]
  cases zone with
  | none => simp
  | some i => simpa using activeSlack_le_release (d.setMigrating false) i

/-- The file layer may set a zone's live bytes within what was written: that never makes a
zone need a token it did not need. -/
theorem Zone.needsActive_setUsed {z : Zone} {used : Nat} (within : used ≤ z.wp - z.start)
    (needs : ({ z with usedCapacity := used } : Zone).needsActive = true) : z.needsActive = true := by
  simp only [Zone.needsActive, Zone.isPartlyWritten, Zone.isEmpty, Zone.isFull, Zone.isUsed,
    Bool.or_eq_true, Bool.and_eq_true, Bool.not_eq_true', decide_eq_false_iff_not,
    decide_eq_true_eq] at needs ⊢
  rcases needs with (written | held) | ⟨live, room⟩
  · exact .inl (.inl written)
  · exact .inl (.inr held)
  · exact .inl (.inl ⟨by omega, room⟩)

/-- No step lowers the slack. -/
theorem activeSlack_step {c : Contract} {d d' : Device} (step : Step c d d') :
    d.activeSlack ≤ d'.activeSlack := by
  cases step with
  | allocateIOZone _ run => exact activeSlack_allocateIOZone run
  | allocateMetaZone _ => rw [activeSlack_allocateMetaZone]
  | getMigrateTargetZone run => exact activeSlack_getMigrateTargetZone run
  | takeMigrateZone run => exact activeSlack_takeMigrateZone run
  | releaseMigrateZone zone d => exact activeSlack_releaseMigrateZone zone d
  | applyFinishThreshold _ => rw [activeSlack_applyFinishThreshold]
  | finishCheapestIOZone _ => rw [activeSlack_finishCheapestIOZone]
  | resetUnusedIOZones _ => rw [activeSlack_resetUnusedIOZones]
  | logGarbageInfo d => rw [logGarbageInfo_device]
  | setZoneDeferredStatus status d =>
    unfold setZoneDeferredStatus
    split <;> exact le_refl _
  | sleepWLWorker d => exact le_refl _
  | @append k _ _ _ _ _ _ found held _ _ _ =>
    cases k with
    | meta => simp
    | io => exact activeSlack_le_setZone found fun _ => Zone.needsActive_of_busy held
  | @giveBack _ z _ putOpen putActive found held full =>
    have needed := Zone.needsActive_of_busy held
    cases putActive with
    | false =>
      have := @activeSlack_le_setZone _ _ _ (z.setBusy false) found fun _ => needed
      cases putOpen <;> simpa using this
    | true =>
      have spent : (z.setBusy false).needsActive = false := by
        simp [Zone.needsActive, Zone.isPartlyWritten, Zone.isFull, full rfl]
      have := activeSlack_setZone_spent found needed spent
      cases putOpen <;> simp [this]
  | releaseMeta _ _ => simp
  | @setUsed k _ _ _ used found within =>
    cases k with
    | meta => simp
    | io => exact activeSlack_le_setZone found (Zone.needsActive_setUsed within)

/-- The precondition on `Open`: the backend reports as active every listed zone that is
neither empty nor full. -/
def ReportsPartlyWrittenActive (bd : BackendDevice) : Prop :=
  ∀ listing, bd.listing = some listing → ∀ e ∈ listing,
    (Zone.ofListing e).isPartlyWritten = true → e.isActive = true

theorem activeSlack_opened (cfg : Config) {bd : BackendDevice} {listing : List ZoneListing}
    (reports : ReportsPartlyWrittenActive bd) (listed : bd.listing = some listing) :
    0 ≤ (Device.opened cfg bd listing).activeSlack := by
  have fewer : ∀ e ∈ (takeMetaZones zenfsMetaZones listing).2.filter ZoneListing.usable,
      (Zone.ofListing e).needsActive = true → e.isActive = true := by
    intro e mem needs
    have idle : (Zone.ofListing e).needsActive = (Zone.ofListing e).isPartlyWritten := by
      simp [Zone.needsActive, Zone.ofListing, Zone.isUsed]
    exact reports listing listed e
      ((takeMetaZones_snd_sublist _ _).subset (List.mem_filter.mp mem).1) (idle ▸ needs)
  unfold activeSlack
  rw [Device.opened_activeIOZones, Device.opened_ioZones, List.countP_map]
  exact Int.sub_nonneg_of_le (Int.ofNat_le.mpr (List.countP_mono_left fewer))

/-- Every partly written io zone is covered by an active token, in every device reachable
from `Open`. -/
theorem partlyWritten_le_activeIOZones {d : Device}
    (reach : Reachable (.free ReportsPartlyWrittenActive) (Step (.free ReportsPartlyWrittenActive)) d) :
    (d.ioZones.countP Zone.isPartlyWritten : Int) ≤ d.activeIOZones := by
  have slack := Reachable.holds (fun d => 0 ≤ d.activeSlack)
    (fun _ cfg _ reports listed _ _ => activeSlack_opened cfg reports listed)
    (fun _ _ kept step => le_trans kept (activeSlack_step step)) reach
  have covered : d.ioZones.countP Zone.isPartlyWritten ≤ d.ioZones.countP Zone.needsActive :=
    List.countP_mono_left fun z _ written => by simp [Zone.needsActive, written]
  simp only [activeSlack] at slack
  omega

theorem partlyWritten_le_activeIOZones_fresh :
    let d := Device.opened defaultConfig (freshBackend 14 14 4096 32) (freshListing 4096 32)
    (d.ioZones.countP Zone.isPartlyWritten : Int) ≤ d.activeIOZones :=
  partlyWritten_le_activeIOZones (.opened
    (fun listing listed e mem written => by
      cases listed
      obtain ⟨i, -, rfl⟩ := mem_freshListing mem
      simp [Zone.isPartlyWritten, Zone.ofListing, Zone.isEmpty] at written)
    (openDevice_freshBackend 14 14 4096 32 defaultConfig (by decide)))

end ZenFS
