import ZenFS.Select

set_option autoImplicit false

/- The loops that visit every zone and act on some of them: `ApplyFinishThreshold`,
`ResetUnusedIOZones`, `AllocateMetaZone` and `LogGarbageInfo`. -/
namespace ZenFS

/-- The loop body of `ApplyFinishThreshold`. -/
def applyFinishThresholdBody (be : Backend) (i : Nat) (d : Device) : Flow Device :=
  match d.acquire .io i with
  | none => .next d
  | some d₁ =>
    match d₁.zone .io i with
    | none => .next d₁
    | some z =>
      let withinFinishThreshold :=
        decide (z.capacity < mul64 z.maxCapacity d.finishThreshold / 100)
      if !(z.isEmpty || z.isFull) && withinFinishThreshold then
        match d₁.finishZone be .io i with
        | (finished, d₂) =>
          if !finished.isOk then .ret (d₂.release .io i) finished
          else
            match d₂.checkRelease .io i with
            | .ok d₃ => .next d₃.putActiveIOZoneToken
            | .error status => .ret d₂ status
      else
        match d₁.checkRelease .io i with
        | .ok d₂ => .next d₂
        | .error status => .ret d₁ status

/-- `ApplyFinishThreshold`: finish every idle, partly written io zone with less than
`finish_threshold_` percent of its capacity left, and give back its active token. -/
def applyFinishThreshold (be : Backend) (d : Device) : Device × IOStatus :=
  if d.finishThreshold = 0 then (d, .ok)
  else
    match forZones (applyFinishThresholdBody be) (List.range d.ioZones.length) d with
    | .next d' => (d', .ok)
    | .brk d' => (d', .ok)
    | .ret d' status => (d', status)

/-- The loop body of `ResetUnusedIOZones`. -/
def resetUnusedIOZonesBody (be : Backend) (i : Nat) (d : Device) : Flow Device :=
  match d.acquire .io i with
  | none => .next d
  | some d₁ =>
    match d₁.zone .io i with
    | none => .next d₁
    | some z =>
      if !z.isEmpty && !z.isUsed then
        let full := z.isFull
        match d₁.resetZone be .io i with
        | (resetStatus, d₂) =>
          match d₂.checkReleaseStatus .io i with
          | (releaseStatus, d₃) =>
            if !resetStatus.isOk then .ret d₃ resetStatus
            else if !releaseStatus.isOk then .ret d₃ releaseStatus
            else .next (if !full then d₃.putActiveIOZoneToken else d₃)
      else
        match d₁.checkRelease .io i with
        | .ok d₂ => .next d₂
        | .error status => .ret d₁ status

/-- `ResetUnusedIOZones`: reset every idle io zone that holds no live data and is not
empty; a zone that was not full gives back its active token. -/
def resetUnusedIOZones (be : Backend) (d : Device) : Device × IOStatus :=
  match forZones (resetUnusedIOZonesBody be) (List.range d.ioZones.length) d with
  | .next d' => (d', .ok)
  | .brk d' => (d', .ok)
  | .ret d' status => (d', status)

/-- The loop body of `AllocateMetaZone`. Its `return` of a zone is a `break` carrying the
zone. A used meta zone is acquired and then neither used nor released. -/
def allocateMetaZoneBody (be : Backend) (i : Nat) :
    Device × Option Nat → Flow (Device × Option Nat)
  | (d, _) =>
    match d.acquire .meta i with
    | none => .next (d, none)
    | some d₁ =>
      match d₁.zone .meta i with
      | none => .next (d₁, none)
      | some z =>
        if !z.isUsed then
          if !z.isEmpty then
            match d₁.resetZone be .meta i with
            | (reset, d₂) =>
              if !reset.isOk then
                match d₂.checkRelease .meta i with
                | .ok d₃ => .next (d₃, none)
                | .error status => .ret d₂ status
              else .brk (d₂, some i)
          else .brk (d₁, some i)
        else .next (d₁, none)

/-- `AllocateMetaZone`: the first meta zone it can acquire that holds no live data, reset
first unless empty. -/
def allocateMetaZone (be : Backend) (d : Device) : Device × IOStatus × Option Nat :=
  match forZones (allocateMetaZoneBody be) (List.range d.metaZones.length) (d, none) with
  | .brk (d', some i) => (d', .ok, some i)
  | .brk (d', none) => (d', .noSpace "Out of metadata zones", none)
  | .next (d', _) => (d', .noSpace "Out of metadata zones", none)
  | .ret d' status => (d', status, none)

/-- The histogram slot of a zone in `LogGarbageInfo`, `int((garbage_rate + 0.1) * 10)` with
`garbage_rate = double(garbage) / max_capacity_`, in `double`. -/
def garbageSlot (garbage maxCapacity : Nat) : Int :=
  ((((Double.ofNat garbage).div (.ofNat maxCapacity)).add .tenth).mul (.ofNat 10)).toInt

/-- The loop body of `LogGarbageInfo`: count the zone in its slot of `zone_gc_stat`. A slot
outside the array is a write outside it, undefined in C++; the model counts nothing there. -/
def logGarbageInfoBody (i : Nat) : Device × List Nat → Flow (Device × List Nat)
  | (d, stats) =>
    match d.acquire .io i with
    | none => .next (d, stats)
    | some d₁ =>
      match d₁.zone .io i with
      | none => .next (d₁, stats)
      | some z =>
        let slot :=
          if z.isEmpty then 0
          else if z.isFull then garbageSlot (sub64 z.maxCapacity z.usedCapacity) z.maxCapacity
          else garbageSlot (sub64 (sub64 z.wp z.start) z.usedCapacity) z.maxCapacity
        .next (d₁.release .io i, if 0 ≤ slot then stats.modify (· + 1) slot.toNat else stats)

/-- `LogGarbageInfo`: the twelve counters it logs, and the device. -/
def logGarbageInfo (d : Device) : Device × List Nat :=
  match forZones logGarbageInfoBody (List.range d.ioZones.length) (d, List.replicate 12 0) with
  | .next s => s
  | .brk s => s
  | .ret d' _ => (d', List.replicate 12 0)

end ZenFS

namespace ZenFS

/-- One pass of `ApplyFinishThreshold` leaves the device as it was, or finishes the idle,
partly written zone it looked at. -/
theorem applyFinishThresholdBody_cases (be : Backend) (i : Nat) (d : Device) :
    applyFinishThresholdBody be i d = .next d ∨
      ∃ z, d.ioZones[i]? = some z ∧ z.busy = false ∧ z.wp ≠ z.start ∧ z.capacity ≠ 0 ∧
        (applyFinishThresholdBody be i d = .next (d.finishIdle be i z).1 ∨
          applyFinishThresholdBody be i d = .ret (d.finishIdle be i z).1 (d.finishIdle be i z).2) := by
  unfold applyFinishThresholdBody
  cases hacq : d.acquire .io i with
  | none => exact .inl rfl
  | some d₁ =>
    obtain ⟨z, found, free, rfl⟩ := Device.acquire_eq_some.mp hacq
    have bound := (List.getElem?_eq_some_iff.mp found).1
    simp only [Device.zone_setZone_self (k := .io) _ bound]
    split
    · rename_i chosen
      simp only [Bool.and_eq_true, Bool.not_eq_true', Bool.or_eq_false_iff, Zone.isEmpty,
        Zone.isFull, decide_eq_false_iff_not, Zone.setBusy_wp, Zone.setBusy_start,
        Zone.setBusy_capacity] at chosen
      refine .inr ⟨z, found, free, chosen.1.1, chosen.1.2, ?_⟩
      rw [Device.finishZone_held found]
      unfold Device.finishIdle
      cases answer : (be.finish z.start).isOk
      · simp [answer, Zone.finish_of_not_ok answer, Device.release_held found free]
      · simp [answer, Device.checkRelease_setZone_held (k := .io) _ bound,
          Zone.setBusy_of_busy (show (z.finish d.zoneSize (be.finish z.start)).2.busy = false by
            rw [Zone.finish_busy, free])]
    · rw [Device.checkRelease_held found free]
      exact .inl rfl

/-- One pass of `ResetUnusedIOZones` leaves the device as it was, or resets the idle zone it
looked at, which held no live data and was not empty: the zone's active token goes back
unless it was full, and the wear-leveling members move. A failed reset changes nothing. -/
theorem resetUnusedIOZonesBody_cases (be : Backend) (i : Nat) (d : Device) :
    resetUnusedIOZonesBody be i d = .next d ∨
      ∃ z, d.ioZones[i]? = some z ∧ z.busy = false ∧ z.wp ≠ z.start ∧ z.usedCapacity = 0 ∧
        (resetUnusedIOZonesBody be i d = .ret d (be.reset z.start).1 ∨
          resetUnusedIOZonesBody be i d =
            .next (let d' :=
                      (d.setZone .io i (z.resetFields (be.reset z.start).2.1
                        (be.reset z.start).2.2)).setWl ((d.setZone .io i ((z.resetFields
                        (be.reset z.start).2.1 (be.reset z.start).2.2).setBusy true)).resetWearLeveling)
              if z.capacity = 0 then d' else d'.putActiveIOZoneToken)) := by
  unfold resetUnusedIOZonesBody
  cases hacq : d.acquire .io i with
  | none => exact .inl rfl
  | some d₁ =>
    obtain ⟨z, found, free, rfl⟩ := Device.acquire_eq_some.mp hacq
    have bound := (List.getElem?_eq_some_iff.mp found).1
    simp only [Device.zone_setZone_self (k := .io) _ bound]
    split
    · rename_i chosen
      simp only [Bool.and_eq_true, Bool.not_eq_true', Zone.isEmpty, Zone.isUsed,
        decide_eq_false_iff_not, Zone.setBusy_wp, Zone.setBusy_start,
        Zone.setBusy_usedCapacity, Nat.not_lt, Nat.le_zero] at chosen
      refine .inr ⟨z, found, free, chosen.1, chosen.2, ?_⟩
      rw [Device.resetZone_held found]
      cases answer : (be.reset z.start).1.isOk
      · simp [answer, Device.checkReleaseStatus, Device.checkRelease_held found free]
      · refine .inr ?_
        simp [answer, Device.checkReleaseStatus, Device.checkRelease_setZone_held (k := .io) _ bound,
          Zone.setBusy_of_busy (show (z.resetFields (be.reset z.start).2.1 (be.reset z.start).2.2).busy = false
            by rw [Zone.resetFields_busy, free]), Zone.isFull, ite_not]
    · rw [Device.checkRelease_held found free]
      exact .inl rfl

/-- The body of `AllocateMetaZone` on an idle zone: pass over it if it holds live data
(still held), hand it out if empty, else reset it and hand it out, or give it back if the
reset fails. -/
theorem allocateMetaZoneBody_of_free {be : Backend} {i : Nat} {d : Device} {z : Zone}
    (x : Option Nat) (found : d.metaZones[i]? = some z) (free : z.busy = false) :
    allocateMetaZoneBody be i (d, x) =
      if 0 < z.usedCapacity then .next (d.setZone .meta i (z.setBusy true), none)
      else if z.wp = z.start then .brk (d.setZone .meta i (z.setBusy true), some i)
      else if (be.reset z.start).1.isOk then
        .brk ((d.setZone .meta i ((z.resetFields (be.reset z.start).2.1
            (be.reset z.start).2.2).setBusy true)).setWl
          ((d.setZone .meta i ((z.resetFields (be.reset z.start).2.1
            (be.reset z.start).2.2).setBusy true)).resetWearLeveling), some i)
      else .next (d, none) := by
  have bound := (List.getElem?_eq_some_iff.mp found).1
  have found' : d.zone .meta i = some z := found
  unfold allocateMetaZoneBody
  dsimp only
  rw [Device.acquire_of_free found' free]
  simp only [Device.zone_setZone_self (k := .meta) _ bound, Zone.isUsed, Zone.isEmpty,
    Zone.setBusy_usedCapacity, Zone.setBusy_wp, Zone.setBusy_start]
  rw [Device.resetZone_held found']
  by_cases used : 0 < z.usedCapacity
  · simp [used]
  · cases answer : (be.reset z.start).1.isOk <;>
      simp [used, answer, Device.checkRelease_held found' free]

/-- One pass of `AllocateMetaZone` leaves the device as it was (also after a failed reset),
keeps an idle used zone busy and goes on, or stops at an idle zone without live data: as
it is if empty, reset otherwise. -/
theorem allocateMetaZoneBody_cases (be : Backend) (i : Nat) (d : Device) (x : Option Nat) :
    allocateMetaZoneBody be i (d, x) = .next (d, none) ∨
      ∃ z, d.metaZones[i]? = some z ∧ z.busy = false ∧
        (0 < z.usedCapacity ∧
            allocateMetaZoneBody be i (d, x) = .next (d.setZone .meta i (z.setBusy true), none) ∨
          z.usedCapacity = 0 ∧ z.wp = z.start ∧
            allocateMetaZoneBody be i (d, x) = .brk (d.setZone .meta i (z.setBusy true), some i) ∨
          z.usedCapacity = 0 ∧ z.wp ≠ z.start ∧ (be.reset z.start).1.isOk = true ∧
            allocateMetaZoneBody be i (d, x) =
              .brk ((d.setZone .meta i ((z.resetFields (be.reset z.start).2.1
                  (be.reset z.start).2.2).setBusy true)).setWl
                ((d.setZone .meta i ((z.resetFields (be.reset z.start).2.1
                  (be.reset z.start).2.2).setBusy true)).resetWearLeveling), some i)) := by
  cases hacq : d.acquire .meta i with
  | none =>
    unfold allocateMetaZoneBody
    exact .inl (by simp [hacq])
  | some d₁ =>
    obtain ⟨z, found, free, -⟩ := Device.acquire_eq_some.mp hacq
    rw [allocateMetaZoneBody_of_free x found free]
    by_cases used : 0 < z.usedCapacity
    · exact .inr ⟨z, found, free, .inl ⟨used, by simp [used]⟩⟩
    by_cases empty : z.wp = z.start
    · exact .inr ⟨z, found, free, .inr (.inl ⟨by omega, empty, by simp [used, empty]⟩)⟩
    cases answer : (be.reset z.start).1.isOk
    · exact .inl (by simp [used, empty, answer])
    · exact .inr ⟨z, found, free, .inr (.inr ⟨by omega, empty, answer, by simp [used, empty, answer]⟩)⟩

theorem logGarbageInfoBody_device (i : Nat) (d : Device) (stats : List Nat) :
    ∃ stats', logGarbageInfoBody i (d, stats) = .next (d, stats') := by
  unfold logGarbageInfoBody
  dsimp only
  cases hacq : d.acquire .io i with
  | none => exact ⟨stats, rfl⟩
  | some d₁ =>
    obtain ⟨z, found, free, rfl⟩ := Device.acquire_eq_some.mp hacq
    have bound := (List.getElem?_eq_some_iff.mp found).1
    simp [Device.zone_setZone_self (k := .io) _ bound, Device.release_held found free]

/-- `LogGarbageInfo` releases every zone it acquires: the device is as before. -/
theorem logGarbageInfo_device (d : Device) : (logGarbageInfo d).1 = d := by
  have loop := forZones_holds (fun s : Device × List Nat => s.1 = d) (fun d' _ => d' = d)
    logGarbageInfoBody (fun i s same => by
      obtain ⟨stats', pass⟩ := logGarbageInfoBody_device i s.1 s.2
      rw [pass]; exact same) (List.range d.ioZones.length) (d, List.replicate 12 0) rfl
  unfold logGarbageInfo
  split <;> rename_i heq <;> rw [heq] at loop <;> exact loop

/-- The loop rule of `ApplyFinishThreshold`: what finishing an idle, partly written zone
keeps holds of the device it leaves. -/
theorem applyFinishThreshold_holds (be : Backend) (P : Device → Prop) {d : Device} (start : P d)
    (finish : ∀ d' i z, P d' → d'.ioZones[i]? = some z → z.busy = false → z.wp ≠ z.start →
      z.capacity ≠ 0 → P (d'.finishIdle be i z).1) :
    P (applyFinishThreshold be d).1 := by
  have loop := forZones_holds P (fun d' _ => P d') (applyFinishThresholdBody be)
    (fun i d' kept => by
      rcases applyFinishThresholdBody_cases be i d' with same | ⟨z, found, free, written, room, pass | pass⟩
      · rw [same]; exact kept
      all_goals rw [pass]; exact finish d' i z kept found free written room)
    (List.range d.ioZones.length) d start
  unfold applyFinishThreshold
  split
  · exact start
  · split <;> rename_i heq <;> rw [heq] at loop <;> exact loop

/-- The loop rule of `ResetUnusedIOZones`: what resetting an idle, written zone without live
data keeps, with the wear-leveling members its trigger computes on the held zone, holds of the
device it leaves. -/
theorem resetUnusedIOZones_holds (be : Backend) (P : Device → Prop) {d : Device} (start : P d)
    (reset : ∀ d' i z, P d' → d'.ioZones[i]? = some z → z.busy = false → z.wp ≠ z.start →
      z.usedCapacity = 0 →
      P (let d'' := (d'.setZone .io i (z.resetFields (be.reset z.start).2.1
          (be.reset z.start).2.2)).setWl
            ((d'.setZone .io i ((z.resetFields (be.reset z.start).2.1
              (be.reset z.start).2.2).setBusy true)).resetWearLeveling)
        if z.capacity = 0 then d'' else d''.putActiveIOZoneToken)) :
    P (resetUnusedIOZones be d).1 := by
  have loop := forZones_holds P (fun d' _ => P d') (resetUnusedIOZonesBody be)
    (fun i d' kept => by
      rcases resetUnusedIOZonesBody_cases be i d' with
        same | ⟨z, found, free, written, unused, same | pass⟩
      · rw [same]; exact kept
      · rw [same]; exact kept
      · rw [pass]; exact reset d' i z kept found free written unused)
    (List.range d.ioZones.length) d start
  unfold resetUnusedIOZones
  split <;> rename_i heq <;> rw [heq] at loop <;> exact loop

/-- The loop rule of `AllocateMetaZone`: what holding an idle meta zone keeps, and what
resetting an idle, written meta zone without live data keeps, holds of the device it
leaves. -/
theorem allocateMetaZone_holds (be : Backend) (P : Device → Prop) {d : Device} (start : P d)
    (hold : ∀ d' i z, P d' → d'.metaZones[i]? = some z → z.busy = false →
      P (d'.setZone .meta i (z.setBusy true)))
    (reset : ∀ d' i z, P d' → d'.metaZones[i]? = some z → z.busy = false → z.usedCapacity = 0 →
      z.wp ≠ z.start → (be.reset z.start).1.isOk = true →
      P ((d'.setZone .meta i ((z.resetFields (be.reset z.start).2.1
          (be.reset z.start).2.2).setBusy true)).setWl
        ((d'.setZone .meta i ((z.resetFields (be.reset z.start).2.1
          (be.reset z.start).2.2).setBusy true)).resetWearLeveling))) :
    P (allocateMetaZone be d).1 := by
  have loop := forZones_holds (fun s : Device × Option Nat => P s.1) (fun d' _ => P d')
    (allocateMetaZoneBody be)
    (fun i s kept => by
      obtain ⟨d', x⟩ := s
      rcases allocateMetaZoneBody_cases be i d' x with
        same | ⟨z, found, free, ⟨-, pass⟩ | ⟨-, -, pass⟩ | ⟨unused, written, success, pass⟩⟩
      · rw [same]; exact kept
      · rw [pass]; exact hold d' i z kept found free
      · rw [pass]; exact hold d' i z kept found free
      · rw [pass]; exact reset d' i z kept found free unused written success)
    (List.range d.metaZones.length) (d, none) start
  unfold allocateMetaZone
  split <;> rename_i heq <;> rw [heq] at loop <;> exact loop

end ZenFS
