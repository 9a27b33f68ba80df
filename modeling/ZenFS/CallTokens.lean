import ZenFS.Choice

set_option autoImplicit false

/- What one call does to the token counts: `AllocateIOZone`, by the zone it hands out and the
zones it finishes, and `GetMigrateTargetZone`, by the path it takes. -/
namespace ZenFS

/-- The full io zones. -/
def Device.fullIOZones (d : Device) : Nat := d.ioZones.countP Zone.isFull

/-- Every io zone with live data and room left has been written to. -/
def Device.LiveWritten (d : Device) : Prop :=
  ∀ z ∈ d.ioZones, 0 < z.usedCapacity → z.capacity ≠ 0 → z.wp ≠ z.start

/-- A device within a call that started from `d₀` and holds `opened` open and `activated`
active tokens of its own: the open count is up by `opened`, the active count plus the full io
zones by `activated` (a finish turns an active token into a full zone), and the io zones with
live data and room left are written to. -/
structure Device.Accounted (d d₀ : Device) (opened activated : Int) : Prop where
  open_eq : d.openIOZones = d₀.openIOZones + opened
  active_eq : d.activeIOZones + d.fullIOZones = d₀.activeIOZones + d₀.fullIOZones + activated
  liveWritten : d.LiveWritten

namespace Device

@[simp] theorem fullIOZones_setOpenIOZones (d : Device) (n : Int) :
    (d.setOpenIOZones n).fullIOZones = d.fullIOZones := rfl

@[simp] theorem fullIOZones_setActiveIOZones (d : Device) (n : Int) :
    (d.setActiveIOZones n).fullIOZones = d.fullIOZones := rfl

@[simp] theorem fullIOZones_putOpenIOZoneToken (d : Device) :
    d.putOpenIOZoneToken.fullIOZones = d.fullIOZones := rfl

@[simp] theorem fullIOZones_putActiveIOZoneToken (d : Device) :
    d.putActiveIOZoneToken.fullIOZones = d.fullIOZones := rfl

/-- Replacing io zone `i` moves the full zones by whether the old and the new zone are full. -/
theorem fullIOZones_setZone {d : Device} {i : Nat} {z : Zone} (z' : Zone)
    (found : d.ioZones[i]? = some z) :
    ((d.setZone .io i z').fullIOZones : Int) =
      d.fullIOZones - (if z.isFull then 1 else 0) + (if z'.isFull then 1 else 0) := by
  obtain ⟨bound, rfl⟩ := List.getElem?_eq_some_iff.mp found
  have within := List.boole_getElem_le_countP Zone.isFull d.ioZones i bound
  simp only [fullIOZones, setZone_eq, zones_io, ioZones_setZones_io, List.countP_set _ _ _ _ bound]
  split <;> split <;> simp_all

theorem LiveWritten.setZone {d : Device} {i : Nat} {z' : Zone} (live : d.LiveWritten)
    (written : 0 < z'.usedCapacity → z'.capacity ≠ 0 → z'.wp ≠ z'.start) :
    (d.setZone .io i z').LiveWritten := by
  intro z mem
  rw [setZone_eq, zones_io, ioZones_setZones_io] at mem
  rcases List.mem_or_eq_of_mem_set mem with mem | rfl
  · exact live z mem
  · exact written

namespace Accounted

variable {d d₀ : Device} {o a : Int}

theorem congr {o' a' : Int} (acc : d.Accounted d₀ o a) (ho : o = o') (ha : a = a') :
    d.Accounted d₀ o' a' := ho ▸ ha ▸ acc

theorem setOpenIOZones (acc : d.Accounted d₀ o a) :
    (d.setOpenIOZones (d.openIOZones + 1)).Accounted d₀ (o + 1) a :=
  ⟨by simp [acc.open_eq]; omega, acc.active_eq, acc.liveWritten⟩

theorem putOpenIOZoneToken (acc : d.Accounted d₀ o a) :
    d.putOpenIOZoneToken.Accounted d₀ (o - 1) a :=
  ⟨by simp [acc.open_eq]; omega, acc.active_eq, acc.liveWritten⟩

theorem setActiveIOZones (acc : d.Accounted d₀ o a) :
    (d.setActiveIOZones (d.activeIOZones + 1)).Accounted d₀ o (a + 1) :=
  ⟨acc.open_eq, by have := acc.active_eq; simp; omega, acc.liveWritten⟩

theorem putActiveIOZoneToken (acc : d.Accounted d₀ o a) :
    d.putActiveIOZoneToken.Accounted d₀ o (a - 1) :=
  ⟨acc.open_eq, by have := acc.active_eq; simp; omega, acc.liveWritten⟩

/-- Replacing io zone `i` moves the active tokens owed by whether the old and the new zone are
full. -/
theorem setZone (acc : d.Accounted d₀ o a) {i : Nat} {z : Zone} (z' : Zone)
    (found : d.ioZones[i]? = some z)
    (written : 0 < z'.usedCapacity → z'.capacity ≠ 0 → z'.wp ≠ z'.start) :
    (d.setZone .io i z').Accounted d₀ o
      (a - (if z.isFull then 1 else 0) + (if z'.isFull then 1 else 0)) := by
  refine ⟨by simp [acc.open_eq], ?_, acc.liveWritten.setZone written⟩
  rw [setZone_activeIOZones, fullIOZones_setZone z' found]
  have := acc.active_eq
  omega

/-- Taking, releasing or naming the lifetime of an io zone keeps the accounts. -/
theorem setZone_same (acc : d.Accounted d₀ o a) {i : Nat} {z : Zone} (z' : Zone)
    (found : d.ioZones[i]? = some z)
    (same : z'.usedCapacity = z.usedCapacity ∧ z'.capacity = z.capacity ∧ z'.wp = z.wp ∧
      z'.start = z.start) :
    (d.setZone .io i z').Accounted d₀ o a := by
  obtain ⟨used, room, wp, start⟩ := same
  have full : z'.isFull = z.isFull := by simp [Zone.isFull, room]
  refine (acc.setZone z' found ?_).congr rfl (by rw [full]; omega)
  rw [used, room, wp, start]
  exact acc.liveWritten z (List.mem_iff_getElem?.mpr ⟨i, found⟩)

theorem checkRelease (acc : d.Accounted d₀ o a) {i : Nat} {d' : Device}
    (released : d.checkRelease .io i = .ok d') : d'.Accounted d₀ o a := by
  rw [checkRelease_ok released]
  rcases release_cases d .io i with same | ⟨z, found, -, released⟩
  · rw [same]; exact acc
  · rw [released]
    exact acc.setZone_same _ found ⟨rfl, rfl, rfl, rfl⟩

/-- A finish turns the active token of the zone into a full zone. -/
theorem finishIdle (acc : d.Accounted d₀ o a) (be : Backend) {i : Nat} {z : Zone}
    (found : d.ioZones[i]? = some z) (room : z.capacity ≠ 0) :
    (d.finishIdle be i z).1.Accounted d₀ o a := by
  unfold Device.finishIdle
  split
  · rename_i success
    have finished := acc.setZone (z.finish d.zoneSize (be.finish z.start)).2 found
      (by simp [Zone.finish_of_ok success])
    refine finished.putActiveIOZoneToken.congr rfl ?_
    simp [Zone.isFull, room, Zone.finish_of_ok success]
  · exact acc

theorem applyFinishThreshold (acc : d.Accounted d₀ o a) (be : Backend) :
    (ZenFS.applyFinishThreshold be d).1.Accounted d₀ o a :=
  applyFinishThreshold_holds be (fun d => d.Accounted d₀ o a) acc
    fun _ _ _ acc' found _ _ room => acc'.finishIdle be found room

theorem finishCheapestIOZone (acc : d.Accounted d₀ o a) (be : Backend) :
    (ZenFS.finishCheapestIOZone be d).1.Accounted d₀ o a := by
  rcases finishCheapestIOZone_cases be d with same | ⟨v, z, found, -, -, room, finished⟩
  · rw [same]; exact acc
  · rw [finished]; exact acc.finishIdle be found room

/-- The finish loop of `AllocateIOZone` ends holding one more active token, unless a finish
failed. -/
theorem finishLoop (acc : d.Accounted d₀ o a) {be : Backend} {fuel : Nat} {d' : Device}
    {status : IOStatus} (run : ZenFS.finishLoop be fuel d = some (d', status)) :
    d'.Accounted d₀ o (a + if status.isOk then 1 else 0) :=
  finishLoop_holds be (fun d => d.Accounted d₀ o a)
    (fun d s => d.Accounted d₀ o (a + if s.isOk then 1 else 0))
    (fun _ acc _ => by simpa using acc.setActiveIOZones)
    (fun _ acc _ _ => acc.finishCheapestIOZone be)
    (fun _ acc _ failed => by simpa [failed] using acc.finishCheapestIOZone be)
    fuel d (d', status) acc run

end Accounted

end Device

/-! ### `AllocateIOZone` -/

/-- How `AllocateIOZone`, started from `d₀`, settles its tokens: it keeps the open token
exactly when it hands out a zone, and an active token exactly when that zone is empty. -/
def allocationSettled (d₀ : Device) (r : Device × IOStatus × Option Nat) : Prop :=
  r.1.Accounted d₀ (if r.2.1.isOk && r.2.2.isSome then 1 else 0)
    (if r.2.1.isOk && (r.2.2.bind fun b => r.1.ioZones[b]?).any Zone.isEmpty then 1 else 0)

theorem allocateResult_none_settled {d d₀ : Device} (acc : d.Accounted d₀ 1 0) :
    allocationSettled d₀ (allocateResult d none) :=
  acc.putOpenIOZoneToken.congr (by simp [allocateResult]) (by simp [allocateResult])

theorem allocateResult_some_settled {d d₀ : Device} {b : Nat} {z : Zone}
    (found : d.ioZones[b]? = some z) (acc : d.Accounted d₀ 1 (if z.isEmpty then 1 else 0)) :
    allocationSettled d₀ (allocateResult d (some b)) :=
  acc.congr (by simp [allocateResult]) (by simp [allocateResult, found])

/-- Opening a new zone, with the open token and, if `gotToken`, an active one. -/
theorem allocateNewZone_settled {be : Backend} {fuel : Nat} {L : WriteLifeTimeHint}
    {gotToken : Bool} {d d₀ : Device} {r : Device × IOStatus × Option Nat}
    (acc : d.Accounted d₀ 1 (if gotToken then 1 else 0))
    (run : allocateNewZone be fuel L gotToken d = some r) : allocationSettled d₀ r := by
  unfold allocateNewZone at run
  obtain ⟨⟨d₁, status⟩, first, rfl⟩ := Option.map_eq_some'.mp run
  -- the active token is held once the token loop is over, unless a finish failed
  have acc₁ : d₁.Accounted d₀ 1 (if status.isOk then 1 else 0) := by
    cases gotToken
    · exact (acc.finishLoop first).congr rfl (by simp)
    · cases first
      exact acc.congr rfl (by simp)
  dsimp only
  split
  · rename_i failed
    exact acc₁.putOpenIOZoneToken.congr (by simp) (by simp_all)
  · rename_i success
    rw [if_pos (by simpa using success)] at acc₁
    rcases allocateEmptyZone_cases L d₁ with same | ⟨b, z, found, -, empty, held⟩
    · rw [same]
      exact allocateResult_none_settled (acc₁.putActiveIOZoneToken.congr rfl (by simp))
    · rw [held]
      simp only [IOStatus.isOk_ok, Bool.not_true, Bool.false_eq_true, if_false]
      have bound := (List.getElem?_eq_some_iff.mp found).1
      rw [Device.setLifetime_setZone _ _ (by simpa using bound)]
      refine allocateResult_some_settled (z := { z.setBusy true with lifetime := L })
        (by simp [Device.setZone_eq, bound]) ?_
      exact (acc₁.setZone_same { z.setBusy true with lifetime := L } found
        ⟨rfl, rfl, rfl, rfl⟩).congr rfl (by simp [Zone.isEmpty, empty])

/-- The branch of a worse match, with the open token and the best match `zone`, held and
written to. -/
theorem allocateWorseMatch_settled {be : Backend} {fuel : Nat} {L : WriteLifeTimeHint}
    {bestDiff : Nat} {zone : Option Nat} {d d₀ : Device} {r : Device × IOStatus × Option Nat}
    (acc : d.Accounted d₀ 1 0)
    (held : ∀ b, zone = some b → ∃ z, d.ioZones[b]? = some z ∧ z.wp ≠ z.start)
    (run : allocateWorseMatch be fuel L bestDiff zone d = some r) : allocationSettled d₀ r := by
  unfold allocateWorseMatch at run
  obtain ⟨gotToken, d₁, got, acc₁, zones⟩ : ∃ gotToken d₁,
      d.getActiveIOZoneTokenIfAvailable = (gotToken, d₁) ∧
        d₁.Accounted d₀ 1 (if gotToken then 1 else 0) ∧ d₁.ioZones = d.ioZones := by
    unfold Device.getActiveIOZoneTokenIfAvailable
    by_cases below : d.activeIOZones < d.maxNrActiveIOZones
    · exact ⟨true, _, if_pos below, acc.setActiveIOZones.congr rfl (by simp), rfl⟩
    · exact ⟨false, d, if_neg below, acc.congr rfl (by simp), rfl⟩
  rw [got] at run
  dsimp only at run
  cases zone with
  | none => exact allocateNewZone_settled acc₁ run
  | some b =>
    obtain ⟨z, found, written⟩ := held b rfl
    dsimp only at run
    split at run
    · rename_i keep
      cases run
      obtain ⟨notGot, -⟩ : gotToken = false ∧ bestDiff = lifetimeDiffCouldBeWorse := by
        simpa using keep
      subst notGot
      exact allocateResult_some_settled (zones ▸ found)
        (acc₁.congr rfl (by simp [Zone.isEmpty, written]))
    · split at run
      · rename_i d₂ released
        exact allocateNewZone_settled (acc₁.checkRelease released) run
      · cases run
        cases gotToken
        · exact acc₁.putOpenIOZoneToken.congr (by simp) (by simp)
        · exact acc₁.putOpenIOZoneToken.putActiveIOZoneToken.congr (by simp) (by simp)

theorem allocateIOZone_settled {be : Backend} {fuel m : Nat} {L : WriteLifeTimeHint}
    {ioType : IOType} {d : Device} {r : Device × IOStatus × Option Nat} (live : d.LiveWritten)
    (run : allocateIOZone be fuel m L ioType d = some r) : allocationSettled d r := by
  have acc : d.Accounted d 0 0 := ⟨by simp, by simp, live⟩
  unfold allocateIOZone at run
  split at run
  · cases run
    exact acc.congr (by simp) (by simp)
  generalize swept :
    (if ioType ≠ .kWAL then applyFinishThreshold be d else (d, .ok)) = sweep at run
  obtain ⟨d₁, status⟩ := sweep
  have acc₁ : d₁.Accounted d 0 0 := by
    split at swept
    · have := acc.applyFinishThreshold be
      rwa [swept] at this
    · cases swept
      exact acc
  dsimp only at run
  split at run
  · cases run
    exact acc₁.congr (by simp) (by simp)
  obtain ⟨d₂, waited, run⟩ := Option.bind_eq_some.mp run
  obtain ⟨-, rfl⟩ := Device.waitForOpenIOZoneToken_eq_some.mp waited
  have acc₂ := acc₁.setOpenIOZones.congr (zero_add 1) rfl
  rcases getBestOpenZoneMatch_cases L m (d₁.setOpenIOZones (d₁.openIOZones + 1)) with
    same | ⟨b, z, found, -, used, room, -, best⟩
  · rw [same] at run
    simp only [IOStatus.isOk_ok, Bool.not_true, Bool.false_eq_true, if_false,
      show lifetimeDiffCouldBeWorse ≤ lifetimeDiffNotGood by decide, if_true] at run
    exact allocateWorseMatch_settled acc₂ (fun _ none' => by cases none') run
  · rw [best] at run
    simp only [IOStatus.isOk_ok, Bool.not_true, Bool.false_eq_true, if_false] at run
    have written : z.wp ≠ z.start :=
      acc₂.liveWritten z (List.mem_iff_getElem?.mpr ⟨b, found⟩) used room
    have bound : b < d₁.ioZones.length := by simpa using (List.getElem?_eq_some_iff.mp found).1
    have inHand : (d₁.setOpenIOZones (d₁.openIOZones + 1)).setZone .io b (z.setBusy true)
        |>.ioZones[b]? = some (z.setBusy true) := by
      simp [Device.setZone_eq, bound]
    have acc₃ := acc₂.setZone_same (z.setBusy true) found ⟨rfl, rfl, rfl, rfl⟩
    split at run
    · exact allocateWorseMatch_settled acc₃
        (fun _ same => by cases same; exact ⟨_, inHand, written⟩) run
    · cases run
      exact allocateResult_some_settled inHand
        (acc₃.congr rfl (by simp [Zone.isEmpty, written]))

/-- The token counts `AllocateIOZone` leaves, on every path, from a device whose io zones with
live data and room left are written to: the open count is up by one exactly when it returns
OK with a zone, and the active count is up by one exactly when it returns OK with an empty zone
(a new one), less one for each zone it finished. -/
theorem allocateIOZone_counts_of_liveWritten {be : Backend} {fuel m : Nat} {L : WriteLifeTimeHint}
    {ioType : IOType} {d : Device} {r : Device × IOStatus × Option Nat} (live : d.LiveWritten)
    (run : allocateIOZone be fuel m L ioType d = some r) :
    r.1.openIOZones = d.openIOZones + (if r.2.1.isOk && r.2.2.isSome then 1 else 0) ∧
      r.1.activeIOZones = d.activeIOZones +
          (if r.2.1.isOk && (r.2.2.bind fun b => r.1.ioZones[b]?).any Zone.isEmpty then 1 else 0) -
        ((r.1.ioZones.countP Zone.isFull : Int) - d.ioZones.countP Zone.isFull) := by
  have settled := allocateIOZone_settled live run
  refine ⟨settled.open_eq, ?_⟩
  have := settled.active_eq
  unfold Device.fullIOZones at this
  omega

/-! ### `GetMigrateTargetZone` -/

/-- What `GetMigrateTargetZone` does to the token counts, by its path. With an idle empty io
zone and a free active token it keeps an open and an active token and returns OK. With no idle
empty io zone it keeps the open token, whatever the second phase finds. With an idle empty io
zone and no free active token it gives the open token back, whatever the second phase finds. -/
theorem getMigrateTargetZone_tokens {L : WriteLifeTimeHint} {m : Nat} {d : Device}
    {r : Device × IOStatus × Option Nat} (got : getMigrateTargetZone L m d = some r) :
    (r.1.openIOZones = d.openIOZones + 1 ∧ r.1.activeIOZones = d.activeIOZones + 1 ∧
        r.2.1 = .ok) ∨
      (r.1.openIOZones = d.openIOZones + 1 ∧ r.1.activeIOZones = d.activeIOZones ∧
        ∀ z ∈ d.ioZones, z.busy = false → z.wp ≠ z.start) ∨
      (r.1.openIOZones = d.openIOZones ∧ r.1.activeIOZones = d.activeIOZones ∧
        ¬ d.activeIOZones < d.maxNrActiveIOZones) := by
  obtain ⟨-, d₁, waited, rfl⟩ := getMigrateTargetZone_eq_some got
  obtain ⟨-, rfl⟩ := Device.waitForOpenIOZoneToken_eq_some.mp waited
  -- the second phase takes or gives back no token
  have phase : ∀ D, (migrateOpenPhase L m D).1.openIOZones = D.openIOZones ∧
      (migrateOpenPhase L m D).1.activeIOZones = D.activeIOZones := fun D => by
    rcases migrateOpenPhase_cases L m D with same | ⟨b, z, -, -, -, -, -, -, same⟩ <;>
      rw [same] <;> simp
  rcases migrateEmptyScan_ranked.exec_pick
      ((d.setMigrating true).setOpenIOZones ((d.setMigrating true).openIOZones + 1)) with
    ⟨same, none⟩ | ⟨t, z, ⟨found, free, -, -⟩, kept⟩
  · unfold getMigrateTargetZoneWithToken
    rw [same]
    simp only [IOStatus.isOk_ok, Bool.not_true, Bool.false_eq_true, if_false, (phase _).1,
      (phase _).2]
    exact .inr (.inl ⟨by simp, by simp, fun z mem free => by
      simpa [Zone.isEmpty] using none z mem free⟩)
  · rw [getMigrateTargetZoneWithToken_of_kept found free kept]
    split
    · exact .inl ⟨by simp, by simp, rfl⟩
    · rename_i below
      exact .inr (.inr ⟨by simp [(phase _).1], by simp [(phase _).2], by simpa using below⟩)

/-- A listing of 32 zones of 4096 bytes, all written full, none of them active. -/
def fullListing : List ZoneListing :=
  (List.range 32).map fun i => ⟨i * 4096, 4096, i * 4096 + 4096, true, false, true, false, false⟩

/-- A device opened on a backend whose zones are all full. -/
def fullDevice : Device :=
  Device.opened defaultConfig { freshBackend 14 14 4096 32 with listing := some fullListing }
    fullListing

/-- On a device whose io zones are all full, `GetMigrateTargetZone` finds a target in neither
phase and returns `NotFound`, with the open token it took still counted. -/
theorem getMigrateTargetZone_keeps_open_token :
    Reachable (.free fun _ => True) (Step (.free fun _ => True)) fullDevice ∧
      (getMigrateTargetZone .wlthShort 0 fullDevice).map
          (fun r => (r.2, r.1.openIOZones - fullDevice.openIOZones,
            r.1.activeIOZones - fullDevice.activeIOZones)) =
        some ((.notFound "The migrate target zone was not found", none), 1, 0) :=
  ⟨.opened trivial (@openDevice_eq false true _ defaultConfig _ rfl rfl (by decide) rfl (by decide)),
    by decide⟩

end ZenFS
