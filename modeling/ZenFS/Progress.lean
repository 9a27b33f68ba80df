import ZenFS.ActiveTokens

set_option autoImplicit false

/- When `AllocateIOZone` returns: the wait for an open token must be over at once, and the loop
that alternates `GetActiveIOZoneTokenIfAvailable` with `FinishCheapestIOZone` must reach a
free active token. The loop ends when the active tokens it can still get, free or held by an
idle partly written zone that `FinishCheapestIOZone` gives back, are not used up: each pass
finishes one such zone. Also the deferred status latch, which `AllocateIOZone` checks
first. -/
namespace ZenFS

/-- An io zone `FinishCheapestIOZone` can finish: idle and partly written. -/
def Zone.isFinishable (z : Zone) : Bool := !z.busy && z.isPartlyWritten

theorem Zone.isFinishable_of {z : Zone} (free : z.busy = false) (written : z.wp ≠ z.start)
    (room : z.capacity ≠ 0) : z.isFinishable = true := by
  simp [isFinishable, isPartlyWritten, isEmpty, isFull, free, written, room]

/-- The active tokens the finish loop can still get: the free ones, and those that finishing an
idle partly written zone gives back. -/
def Device.activeHeadroom (d : Device) : Int :=
  d.maxNrActiveIOZones + d.ioZones.countP Zone.isFinishable - d.activeIOZones

namespace Device

/-- Finishing an idle partly written zone trades its token for the zone: the headroom stays,
and on success one finishable zone is gone. -/
theorem finishIdle_headroom (be : Backend) {d : Device} {i : Nat} {z : Zone}
    (found : d.ioZones[i]? = some z) (free : z.busy = false) (written : z.wp ≠ z.start)
    (room : z.capacity ≠ 0) :
    (d.finishIdle be i z).1.activeHeadroom = d.activeHeadroom ∧
      (d.finishIdle be i z).1.ioZones.length = d.ioZones.length ∧
      (d.finishIdle be i z).1.openIOZones = d.openIOZones ∧
      (d.finishIdle be i z).1.maxNrOpenIOZones = d.maxNrOpenIOZones ∧
      ((d.finishIdle be i z).2.isOk = true →
        (d.finishIdle be i z).1.ioZones.countP Zone.isFinishable + 1 =
          d.ioZones.countP Zone.isFinishable) := by
  obtain ⟨bound, rfl⟩ := List.getElem?_eq_some_iff.mp found
  unfold finishIdle
  split
  · rename_i success
    have before := Zone.isFinishable_of free written room
    have after : ((d.ioZones[i]).finish d.zoneSize (be.finish (d.ioZones[i]).start)).2.isFinishable =
        false := by
      simp [Zone.finish_of_ok success, Zone.isFinishable, Zone.isPartlyWritten, Zone.isFull]
    have within := List.boole_getElem_le_countP Zone.isFinishable d.ioZones i bound
    have zones : ∀ z' : Zone, (d.setZone .io i z').ioZones = d.ioZones.set i z' := fun _ => rfl
    simp only [before, eq_self_iff_true, if_true] at within
    simp only [activeHeadroom, putActiveIOZoneToken_activeIOZones, putActiveIOZoneToken_ioZones,
      putActiveIOZoneToken_openIOZones, putActiveIOZoneToken_maxNrActiveIOZones,
      putActiveIOZoneToken_maxNrOpenIOZones, setZone_activeIOZones, setZone_maxNrActiveIOZones,
      setZone_openIOZones, setZone_maxNrOpenIOZones, zones, List.countP_set _ _ _ _ bound, before,
      after, List.length_set, eq_self_iff_true, if_true, Bool.false_eq_true, if_false]
    refine ⟨?_, trivial, trivial, trivial, fun _ => ?_⟩ <;> omega
  · exact ⟨rfl, rfl, rfl, rfl, fun failed => absurd failed ‹_›⟩

end Device

/-- The finish loop of `AllocateIOZone` gets its token within one pass more than there are
finishable zones, as long as there is headroom: a pass either gets a free token or finishes
a zone, which keeps the headroom and leaves one finishable zone fewer. -/
theorem finishLoop_isSome (be : Backend) :
    ∀ (fuel : Nat) (d : Device), 0 < d.activeHeadroom →
      d.ioZones.countP Zone.isFinishable < fuel → (finishLoop be fuel d).isSome := by
  intro fuel
  induction fuel with
  | zero => intro d _ below; omega
  | succ fuel ih =>
    intro d headroom below
    unfold finishLoop Device.getActiveIOZoneTokenIfAvailable
    by_cases free : d.activeIOZones < d.maxNrActiveIOZones
    · simp [free]
    · have some : 0 < d.ioZones.countP Zone.isFinishable := by
        unfold Device.activeHeadroom at headroom; omega
      obtain ⟨z, mem, finishable⟩ := List.countP_pos_iff.mp some
      obtain ⟨i, found⟩ := List.getElem?_of_mem mem
      simp only [Zone.isFinishable, Zone.isPartlyWritten, Zone.isEmpty, Zone.isFull,
        Bool.and_eq_true, Bool.not_eq_true', decide_eq_false_iff_not] at finishable
      obtain ⟨v, y, found', idle, written, room, finished⟩ :=
        finishCheapestIOZone_of_partly be found finishable.1 finishable.2.1 finishable.2.2
      obtain ⟨same, -, -, -, fewer⟩ := Device.finishIdle_headroom be found' idle written room
      simp only [free, if_false, finished]
      cases status : (d.finishIdle be v y).2.isOk
      · simp [status]
      · simp only [status, Bool.not_true, Bool.false_eq_true, if_false]
        exact ih _ (same ▸ headroom) (by have := fewer status; omega)

/-- Opening a new zone returns once the loop that makes sure of an active token does. -/
theorem allocateNewZone_isSome (be : Backend) (fuel : Nat) (L : WriteLifeTimeHint)
    (gotToken : Bool) (d : Device) (loop : gotToken = false → (finishLoop be fuel d).isSome) :
    (allocateNewZone be fuel L gotToken d).isSome := by
  unfold allocateNewZone
  cases gotToken
  · simpa using loop rfl
  · simp

/-- The branch of a bad best match returns once the finish loop does, from the device the match
scan started from. -/
theorem allocateWorseMatch_isSome (be : Backend) (fuel : Nat) (L : WriteLifeTimeHint)
    (bestDiff : Nat) {d : Device} (loop : (finishLoop be fuel d).isSome) :
    (allocateWorseMatch be fuel L bestDiff none d).isSome ∧
      ∀ b z, d.ioZones[b]? = some z → z.busy = false →
        (allocateWorseMatch be fuel L bestDiff (some b) (d.setZone .io b (z.setBusy true))).isSome := by
  refine ⟨?_, fun b z found free => ?_⟩
  · unfold allocateWorseMatch Device.getActiveIOZoneTokenIfAvailable
    by_cases below : d.activeIOZones < d.maxNrActiveIOZones
    · simp only [below, if_true]
      exact allocateNewZone_isSome be fuel L true _ (by simp)
    · simp only [below, if_false]
      exact allocateNewZone_isSome be fuel L false d fun _ => loop
  · have found' : d.zone .io b = some z := found
    unfold allocateWorseMatch
    rw [Device.getActiveIOZoneTokenIfAvailable_setZone]
    unfold Device.getActiveIOZoneTokenIfAvailable
    by_cases below : d.activeIOZones < d.maxNrActiveIOZones
    · simp only [below, if_true, Bool.not_true, Bool.false_and, Bool.false_eq_true, if_false]
      rw [Device.checkRelease_held (d := d.setActiveIOZones (d.activeIOZones + 1))
        (by simpa [Device.zone_eq] using found) free]
      exact allocateNewZone_isSome be fuel L true _ (by simp)
    · simp only [below, if_false]
      split
      · simp
      · rw [Device.checkRelease_held found' free]
        exact allocateNewZone_isSome be fuel L false d fun _ => loop

/-- What `ApplyFinishThreshold` keeps of what `AllocateIOZone` needs next. -/
theorem applyFinishThreshold_keeps (be : Backend) (d : Device) :
    (applyFinishThreshold be d).1.activeHeadroom = d.activeHeadroom ∧
      (applyFinishThreshold be d).1.ioZones.length = d.ioZones.length ∧
      (applyFinishThreshold be d).1.openIOZones = d.openIOZones ∧
      (applyFinishThreshold be d).1.maxNrOpenIOZones = d.maxNrOpenIOZones :=
  applyFinishThreshold_holds be
    (fun d' => d'.activeHeadroom = d.activeHeadroom ∧ d'.ioZones.length = d.ioZones.length ∧
      d'.openIOZones = d.openIOZones ∧ d'.maxNrOpenIOZones = d.maxNrOpenIOZones)
    ⟨rfl, rfl, rfl, rfl⟩
    (fun d' i z kept found free written room => by
      obtain ⟨headroom, length, opened, limit, -⟩ := Device.finishIdle_headroom be found free written room
      exact ⟨headroom.trans kept.1, length.trans kept.2.1, opened.trans kept.2.2.1,
        limit.trans kept.2.2.2⟩)

theorem Device.waitForOpenIOZoneToken_of_lt {prioritized : Bool} {d : Device}
    (room : d.openIOZones < allocatorOpenLimit prioritized d.maxNrOpenIOZones) :
    d.waitForOpenIOZoneToken prioritized = some (d.setOpenIOZones (d.openIOZones + 1)) :=
  waitForOpenIOZoneToken_eq_some.mpr ⟨room, rfl⟩

/-- `AllocateIOZone` returns when the caller's open limit is above `open_io_zones_` and active
tokens can still be had, free or by finishing an idle partly written zone, with a finish loop
of at most one pass more than there are io zones. -/
theorem allocateIOZone_returns {be : Backend} {fuel minCapacity : Nat} {L : WriteLifeTimeHint}
    {ioType : IOType} {d : Device}
    (room : d.openIOZones < Device.allocatorOpenLimit (decide (ioType = .kWAL)) d.maxNrOpenIOZones)
    (headroom : d.activeIOZones < d.maxNrActiveIOZones + d.ioZones.countP Zone.isFinishable)
    (enough : d.ioZones.length < fuel) :
    (allocateIOZone be fuel minCapacity L ioType d).isSome := by
  unfold allocateIOZone
  split
  · simp
  generalize swept : (if ioType ≠ .kWAL then applyFinishThreshold be d else (d, .ok)) = sweep
  obtain ⟨headroom₁, length₁, open₁, limit₁⟩ : sweep.1.activeHeadroom = d.activeHeadroom ∧
      sweep.1.ioZones.length = d.ioZones.length ∧ sweep.1.openIOZones = d.openIOZones ∧
      sweep.1.maxNrOpenIOZones = d.maxNrOpenIOZones := by
    subst swept
    split
    · exact applyFinishThreshold_keeps be d
    · exact ⟨rfl, rfl, rfl, rfl⟩
  obtain ⟨d₁, status⟩ := sweep
  dsimp only at headroom₁ length₁ open₁ limit₁ ⊢
  split
  · simp
  rw [Device.waitForOpenIOZoneToken_of_lt (by rw [open₁, limit₁]; exact room), Option.some_bind]
  have loop := finishLoop_isSome be fuel (d₁.setOpenIOZones (d₁.openIOZones + 1))
    (by simp only [Device.activeHeadroom] at headroom₁ ⊢; simp; omega)
    (by have := List.countP_le_length Zone.isFinishable (l := d₁.ioZones); simp; omega)
  rcases getBestOpenZoneMatch_cases L minCapacity (d₁.setOpenIOZones (d₁.openIOZones + 1)) with
    same | ⟨b, z, found, free, -, -, -, held⟩
  · rw [same]
    simp only [IOStatus.isOk_ok, Bool.not_true, Bool.false_eq_true, if_false]
    split
    · exact (allocateWorseMatch_isSome be fuel L _ loop).1
    · simp
  · rw [held]
    simp only [IOStatus.isOk_ok, Bool.not_true, Bool.false_eq_true, if_false]
    split
    · exact (allocateWorseMatch_isSome be fuel L _ loop).2 b z found free
    · simp

theorem allocateIOZone_returns_fresh :
    freshDevice.openIOZones <
        Device.allocatorOpenLimit (decide (IOType.kData = .kWAL)) freshDevice.maxNrOpenIOZones ∧
      freshDevice.activeIOZones <
        freshDevice.maxNrActiveIOZones + freshDevice.ioZones.countP Zone.isFinishable ∧
      freshDevice.ioZones.length < 30 ∧
      (allocateIOZone (onlineBackend 4096) 30 0 .wlthMedium .kData freshDevice).isSome :=
  ⟨by decide, by decide, by decide, allocateIOZone_returns (by decide) (by decide) (by decide)⟩

/-- A fresh device whose backend allows three open zones: `Open` leaves one for io, and the
limit of a caller other than the WAL, `max_nr_open_io_zones_ - 1`, is 0. -/
def threeOpenDevice : Device :=
  Device.opened defaultConfig (freshBackend 14 3 4096 32) (freshListing 4096 32)

/-- On that device, with no zone busy and no migration, an `AllocateIOZone` for data waits for
an open token for ever, whatever the fuel of its finish loop. -/
theorem allocateIOZone_waits_on_three_open_zones :
    Reachable (.free fun _ => True) (Step (.free fun _ => True)) threeOpenDevice ∧
      threeOpenDevice.ioZones.all (fun z => !z.busy) = true ∧ threeOpenDevice.migrating = false ∧
      ∀ fuel, allocateIOZone (onlineBackend 4096) fuel 0 .wlthMedium .kData threeOpenDevice = none :=
  ⟨.opened trivial
      (openDevice_freshBackend 14 3 4096 32 defaultConfig (by decide)),
    by decide, rfl, fun _ => rfl⟩

/-- The finish loop does not end on a device with no free active token where
`FinishCheapestIOZone` finds nothing to finish: each pass fails to get a token and changes
nothing. -/
theorem finishLoop_spins (be : Backend) {d : Device}
    (spent : ¬ d.activeIOZones < d.maxNrActiveIOZones) (idle : finishCheapestIOZone be d = (d, .ok)) :
    ∀ fuel, finishLoop be fuel d = none
  | 0 => rfl
  | fuel + 1 => by
    rw [finishLoop, Device.getActiveIOZoneTokenIfAvailable, if_neg spent]
    simp only [idle, IOStatus.isOk_ok, Bool.not_true, Bool.false_eq_true, if_false]
    exact finishLoop_spins be spent idle fuel

/-- `AllocateIOZone` does not return, whatever the fuel of its finish loop, on a device with the
finish threshold off and an open token free for the caller, when no io zone holds live data, no
active token is free and every idle io zone is empty or full: there is no best match, and the
finish loop can neither get an active token nor free one. -/
theorem allocateIOZone_spins {be : Backend} {fuel minCapacity : Nat} {L : WriteLifeTimeHint}
    {ioType : IOType} {d : Device} (fine : d.getZoneDeferredStatus = .ok)
    (off : d.finishThreshold = 0)
    (room : d.openIOZones < Device.allocatorOpenLimit (decide (ioType = .kWAL)) d.maxNrOpenIOZones)
    (noLive : ∀ z ∈ d.ioZones, z.usedCapacity = 0) (spent : ¬ d.activeIOZones < d.maxNrActiveIOZones)
    (stuck : ∀ z ∈ d.ioZones, z.busy = false → z.wp = z.start ∨ z.capacity = 0) :
    allocateIOZone be fuel minCapacity L ioType d = none := by
  have sweep : (if ioType ≠ .kWAL then applyFinishThreshold be d else (d, .ok)) = (d, .ok) := by
    split <;> simp [applyFinishThreshold, off]
  generalize hD : d.setOpenIOZones (d.openIOZones + 1) = D
  have zones : D.ioZones = d.ioZones := by rw [← hD]; rfl
  have spent' : ¬ D.activeIOZones < D.maxNrActiveIOZones := by rw [← hD]; exact spent
  have idle : finishCheapestIOZone be D = (D, .ok) := by
    rcases finishCheapestIOZone_cases be D with same | ⟨v, z, found, free, written, full, -⟩
    · exact same
    · rw [zones] at found
      exact ((stuck z (List.getElem?_mem found) free).elim written full).elim
  have noMatch : getBestOpenZoneMatch L minCapacity D = (D, .ok, lifetimeDiffNotGood, none) := by
    rcases getBestOpenZoneMatch_cases L minCapacity D with same | ⟨b, z, found, -, used, -⟩
    · exact same
    · rw [zones] at found
      exact absurd (noLive z (List.getElem?_mem found)) (Nat.pos_iff_ne_zero.mp used)
  unfold allocateIOZone
  rw [fine, sweep]
  simp only [IOStatus.isOk_ok, Bool.not_true, Bool.false_eq_true, if_false,
    Device.waitForOpenIOZoneToken_of_lt room, hD, Option.some_bind, noMatch,
    show lifetimeDiffCouldBeWorse ≤ lifetimeDiffNotGood by decide, if_true, allocateWorseMatch,
    Device.getActiveIOZoneTokenIfAvailable, if_neg spent', allocateNewZone,
    finishLoop_spins be spent' idle fuel, Option.map_none']

/-- A listing of 32 zones of 4096 bytes of which only the first four are online: three meta zones
and one io zone. -/
def oneIOZoneListing : List ZoneListing :=
  (List.range 32).map fun i => ⟨i * 4096, 4096, i * 4096, true, decide (4 ≤ i), true, false, false⟩

/-- A device opened on that listing whose backend allows three active zones, which leaves one
active token for io. -/
def oneActiveDevice : Device :=
  Device.opened defaultConfig { freshBackend 3 14 4096 32 with listing := some oneIOZoneListing }
    oneIOZoneListing

/-- `oneActiveDevice` after an `AllocateIOZone` for data handed out its io zone as a new zone,
and the holder gave the zone back still empty, returning only its open token. -/
def spentActiveDevice : Device :=
  (oneActiveDevice.afterAllocateIOZone (onlineBackend 4096) 30 0 .wlthMedium .kData).giveBack
    true false 0

/-- From that state, with no zone busy, no migration and an open token free, an `AllocateIOZone`
for data spins in its finish loop for ever: the one active token is held by an empty zone, which
`FinishCheapestIOZone` does not finish. -/
theorem allocateIOZone_spins_on_spent_active_token :
    Reachable (.free fun _ => True) (Step (.free fun _ => True)) spentActiveDevice ∧
      spentActiveDevice.ioZones.all (fun z => !z.busy) = true ∧
      spentActiveDevice.migrating = false ∧
      spentActiveDevice.openIOZones <
        Device.allocatorOpenLimit (decide (IOType.kData = .kWAL)) spentActiveDevice.maxNrOpenIOZones ∧
      ¬ spentActiveDevice.activeIOZones <
        spentActiveDevice.maxNrActiveIOZones + spentActiveDevice.ioZones.countP Zone.isFinishable ∧
      ∀ fuel, allocateIOZone (onlineBackend 4096) fuel 0 .wlthMedium .kData spentActiveDevice = none :=
  ⟨Reachable.giveBack true ((Reachable.opened trivial (@openDevice_eq false true _ defaultConfig _ rfl
      rfl (by decide) rfl (by decide))).afterAllocateIOZone trivial) (by decide),
    by decide, by decide, by decide, by decide,
    fun _ => allocateIOZone_spins rfl rfl (by decide) (by decide) (by decide) (by decide)⟩

/-! ### The deferred status latch -/

/-- `SetZoneDeferredStatus` only writes over a status that is already an error: on a device whose
status is OK it changes nothing. -/
theorem Device.setZoneDeferredStatus_of_ok {d : Device} (status : IOStatus)
    (fine : d.getZoneDeferredStatus = .ok) : d.setZoneDeferredStatus status = d := by
  unfold getZoneDeferredStatus at fine
  simp [setZoneDeferredStatus, fine]

/-- After `Open` and a failed write reported with `SetZoneDeferredStatus`, the status still
reads OK and `AllocateIOZone` hands out a zone. -/
theorem zoneDeferredStatus_not_latched :
    (freshDevice.setZoneDeferredStatus (.ioError "Zone write failed")).getZoneDeferredStatus = .ok ∧
      (allocateIOZone (onlineBackend 4096) 30 0 .wlthMedium .kData
        (freshDevice.setZoneDeferredStatus (.ioError "Zone write failed"))).map (·.2) =
        some (.ok, some 0) := by
  rw [Device.setZoneDeferredStatus_of_ok (d := freshDevice) _ rfl]
  decide

end ZenFS
