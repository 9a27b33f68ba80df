import ZenFS.LeastReset

set_option autoImplicit false

/- What keeps `Zone::GetZoneReclaimableSpace` in range, and the score divisions of
`GetLeastResetCountZone` and `GetMigrateTargetZone` away from zero. Both rest on the file
layer keeping `used_capacity_` within the bytes appended to the zone since its last reset, a
count the code does not keep: here it is a ghost field beside the zone, and one zone is
followed through everything that can happen to it after `Open`. -/
namespace ZenFS

/-- `Zone::Append` within the write contract moves the write pointer up and the capacity down by
the bytes it writes, and these fit the capacity. -/
theorem Zone.append_moves {zoneSize : Nat} {z : Zone} (valid : z.Valid zoneSize) {size : Nat}
    {answers : List (Except String Nat)} {r : Zone.Appended} (small : size < 2 ^ 32)
    (within : Zone.WritesWithin size answers) (run : z.append size answers = some r) :
    r.written ≤ z.capacity ∧
      r.zone = { z with wp := z.wp + r.written, capacity := z.capacity - r.written } := by
  unfold Zone.append at run
  split at run
  · cases run
    exact ⟨Nat.zero_le _, by simp⟩
  · obtain ⟨bound, shape, -⟩ := Zone.appendLoop_spec answers z 0 size r valid (by omega) small
      within run
    exact ⟨by omega, shape⟩

/-- A zone and the bytes appended to it since its last reset. -/
structure TrackedZone where
  zone : Zone
  appended : Nat

/-- What can happen to one zone of a device with zones of `zoneSize` bytes: a `Zone::Append`
within the write contract, a `Zone::Finish` whatever the backend answers, a `Zone::Reset`
whose backend reports a maximum capacity within the zone size, the file layer's update of
`used_capacity_`, and the allocator's updates of `busy_` and `lifetime_`. A failed reset
changes nothing. -/
inductive ZoneLife (zoneSize : Nat) : TrackedZone → TrackedZone → Prop
  | append {z : Zone} {appended size : Nat} {answers : List (Except String Nat)}
      {r : Zone.Appended} :
      size < 2 ^ 32 → Zone.WritesWithin size answers → z.append size answers = some r →
      ZoneLife zoneSize ⟨z, appended⟩ ⟨r.zone, appended + r.written⟩
  | finish {z : Zone} {appended : Nat} (answer : IOStatus) :
      ZoneLife zoneSize ⟨z, appended⟩ ⟨(z.finish zoneSize answer).2, appended⟩
  | reset {z : Zone} {appended : Nat} (offline : Bool) (maxCapacity : Nat) :
      maxCapacity ≤ zoneSize →
      ZoneLife zoneSize ⟨z, appended⟩ ⟨z.resetFields offline maxCapacity, 0⟩
  | setUsed {z : Zone} {appended : Nat} (used : Nat) :
      ZoneLife zoneSize ⟨z, appended⟩ ⟨{ z with usedCapacity := used }, appended⟩
  | setBusy {z : Zone} {appended : Nat} (busy : Bool) :
      ZoneLife zoneSize ⟨z, appended⟩ ⟨z.setBusy busy, appended⟩
  | setLifetime {z : Zone} {appended : Nat} (lifetime : WriteLifeTimeHint) :
      ZoneLife zoneSize ⟨z, appended⟩ ⟨{ z with lifetime := lifetime }, appended⟩

/-- The states of one zone after `Open`: the zone as the backend lists it, whose bytes appended
since its last reset lie between its start and its write pointer and fit its maximum capacity,
a `uint64_t`; then anything `ZoneLife` allows. -/
inductive ZoneReachable (zoneSize : Nat) : TrackedZone → Prop
  | opened {e : ZoneListing} {appended : Nat} :
      e.Sane zoneSize → appended ≤ e.wp - e.start → appended ≤ e.maxCapacity →
      e.maxCapacity < 2 ^ 64 → ZoneReachable zoneSize ⟨Zone.ofListing e, appended⟩
  | step {s s' : TrackedZone} :
      ZoneReachable zoneSize s → ZoneLife zoneSize s s' → ZoneReachable zoneSize s'

/-- What every reachable zone keeps: the zone invariant, a maximum capacity that is a
`uint64_t`, and appended bytes that lie between the start and the write pointer and that the
capacity has given up. -/
structure TrackedZone.Sound (zoneSize : Nat) (s : TrackedZone) : Prop where
  valid : s.zone.Valid zoneSize
  maxCapacity_lt : s.zone.maxCapacity < 2 ^ 64
  appended_le_written : s.appended ≤ s.zone.wp - s.zone.start
  appended_le_spent : s.appended + s.zone.capacity ≤ s.zone.maxCapacity

theorem TrackedZone.sound_opened {zoneSize appended : Nat} {e : ZoneListing}
    (sane : e.Sane zoneSize) (written : appended ≤ e.wp - e.start)
    (fits : appended ≤ e.maxCapacity) (maxLt : e.maxCapacity < 2 ^ 64) :
    TrackedZone.Sound zoneSize ⟨Zone.ofListing e, appended⟩ := by
  refine ⟨Zone.valid_ofListing sane, maxLt, written, ?_⟩
  dsimp only [Zone.ofListing]
  split
  · rename_i writable
    have wpLt : e.wp < 2 ^ 64 := lt_of_le_of_lt sane.wp_le_end (add64_lt _ _)
    have within := (sane.writable writable).1
    rw [sub64_of_le wpLt sane.start_le_wp, sub64_of_le maxLt within]
    omega
  · simpa using fits

/-- Every event keeps `Sound`. -/
theorem TrackedZone.Sound.step {zoneSize : Nat} {s s' : TrackedZone} (sound : s.Sound zoneSize)
    (life : ZoneLife zoneSize s s') : s'.Sound zoneSize := by
  obtain ⟨valid, maxLt, written, spent⟩ := sound
  cases life <;> dsimp only at valid maxLt written spent
  case append small within run =>
    obtain ⟨fits, shape⟩ := Zone.append_moves valid small within run
    have := valid.start_le_wp
    refine ⟨valid.append small within run, ?_, ?_, ?_⟩ <;> simp only [shape] <;> omega
  case finish answer =>
    refine ⟨valid.finish answer, ?_, ?_, ?_⟩ <;> unfold Zone.finish <;> split <;> try assumption
    · have := valid.wp_le_end
      simp only [add64_of_lt valid.end_lt]
      omega
    · simp only
      omega
  case reset offline maxCapacity fits =>
    have := valid.end_lt
    refine ⟨valid.resetFields offline maxCapacity fits, ?_, by simp [Zone.resetFields], ?_⟩ <;>
      cases offline <;> simp [Zone.resetFields] <;> omega
  all_goals exact ⟨valid.congr rfl rfl rfl rfl, maxLt, written, spent⟩

theorem ZoneReachable.sound {zoneSize : Nat} {s : TrackedZone} (reach : ZoneReachable zoneSize s) :
    s.Sound zoneSize := by
  induction reach with
  | opened sane written fits maxLt => exact TrackedZone.sound_opened sane written fits maxLt
  | step _ life ih => exact ih.step life

/-- On a zone that keeps `Sound` and holds no more live bytes than were appended since its
last reset, neither `uint64_t` subtraction of `GetZoneReclaimableSpace` wraps, the space is at
most the maximum capacity, and a zone the migration scan scores has a maximum capacity. -/
theorem TrackedZone.Sound.reclaimable {zoneSize : Nat} {s : TrackedZone}
    (sound : s.Sound zoneSize) (promise : s.zone.usedCapacity ≤ s.appended) :
    (s.zone.capacity = 0 → s.zone.usedCapacity ≤ s.zone.maxCapacity ∧
        s.zone.getZoneReclaimableSpace = s.zone.maxCapacity - s.zone.usedCapacity) ∧
      (s.zone.capacity ≠ 0 → s.zone.start ≤ s.zone.wp ∧
        s.zone.usedCapacity ≤ s.zone.wp - s.zone.start ∧
        s.zone.getZoneReclaimableSpace = s.zone.wp - s.zone.start - s.zone.usedCapacity) ∧
      s.zone.getZoneReclaimableSpace ≤ s.zone.maxCapacity ∧
      (s.zone.capacity ≠ 0 → 0 < s.zone.maxCapacity) := by
  obtain ⟨valid, maxLt, written, spent⟩ := sound
  have wpLt : s.zone.wp < 2 ^ 64 := by have := valid.wp_le_end; have := valid.end_lt; omega
  have full : s.zone.capacity = 0 → s.zone.getZoneReclaimableSpace =
      s.zone.maxCapacity - s.zone.usedCapacity := fun empty => by
    rw [Zone.getZoneReclaimableSpace, if_pos (by simpa using empty)]
    exact sub64_of_le maxLt (by omega)
  have partly : s.zone.capacity ≠ 0 → s.zone.getZoneReclaimableSpace =
      s.zone.wp - s.zone.start - s.zone.usedCapacity := fun room => by
    rw [Zone.getZoneReclaimableSpace, if_neg (by simpa using room),
      sub64_of_le wpLt valid.start_le_wp, sub64_of_le (by omega) (by omega)]
  refine ⟨fun empty => ⟨by omega, full empty⟩,
    fun room => ⟨valid.start_le_wp, by omega, partly room⟩, ?_,
    fun room => lt_of_lt_of_le (Nat.pos_of_ne_zero room) valid.capacity_le⟩
  by_cases room : s.zone.capacity = 0
  · rw [full room]
    omega
  · have := valid.written (Nat.pos_of_ne_zero room)
    rw [partly room]
    omega

/-- In every state a zone reaches after `Open`, if the file layer keeps `used_capacity_` within
the bytes appended since the last reset: `GetZoneReclaimableSpace` does not wrap (on a full
zone `max_capacity_ - used_capacity_`, otherwise `wp_ - start_ - used_capacity_`, each
subtracting no more than there is) and returns at most `max_capacity_`; the migration score
divides by a positive `max_capacity_` on every zone the second phase of
`GetMigrateTargetZone` scores, and the score of `GetLeastResetCountZone` by a positive
reclaimable space on every zone it scores. -/
theorem reclaimable_no_wrap {zoneSize : Nat} {s : TrackedZone} (reach : ZoneReachable zoneSize s)
    (promise : s.zone.usedCapacity ≤ s.appended) :
    (s.zone.capacity = 0 → s.zone.usedCapacity ≤ s.zone.maxCapacity ∧
        s.zone.getZoneReclaimableSpace = s.zone.maxCapacity - s.zone.usedCapacity) ∧
      (s.zone.capacity ≠ 0 → s.zone.start ≤ s.zone.wp ∧
        s.zone.usedCapacity ≤ s.zone.wp - s.zone.start ∧
        s.zone.getZoneReclaimableSpace = s.zone.wp - s.zone.start - s.zone.usedCapacity) ∧
      s.zone.getZoneReclaimableSpace ≤ s.zone.maxCapacity ∧
      (∀ fileLifetime minCapacity, (migrateOpenScan fileLifetime minCapacity).cand s.zone = true →
        0 < s.zone.maxCapacity) ∧
      (LeastResetCandidate s.zone → 0 < s.zone.getZoneReclaimableSpace) := by
  obtain ⟨full, partly, bound, divisor⟩ := reach.sound.reclaimable promise
  refine ⟨full, partly, bound, fun _ _ scored => divisor ?_, fun cand => ?_⟩
  · simp only [migrateOpenScan, Bool.and_eq_true, Bool.not_eq_true', Zone.isFull,
      decide_eq_false_iff_not] at scored
    exact scored.1.2
  · exact Nat.pos_of_ne_zero cand.2.2.2

/-- A listed zone with 1 KiB of its 4 KiB written, all of it appended since its last reset, of
which the file layer marks 512 bytes live. -/
theorem reclaimable_no_wrap_listed :
    let s : TrackedZone :=
      ⟨{ Zone.ofListing ⟨0, 4096, 1024, true, false, true, true, true⟩ with usedCapacity := 512 },
        1024⟩
    (s.zone.capacity = 0 → s.zone.usedCapacity ≤ s.zone.maxCapacity ∧
        s.zone.getZoneReclaimableSpace = s.zone.maxCapacity - s.zone.usedCapacity) ∧
      (s.zone.capacity ≠ 0 → s.zone.start ≤ s.zone.wp ∧
        s.zone.usedCapacity ≤ s.zone.wp - s.zone.start ∧
        s.zone.getZoneReclaimableSpace = s.zone.wp - s.zone.start - s.zone.usedCapacity) ∧
      s.zone.getZoneReclaimableSpace ≤ s.zone.maxCapacity ∧
      (∀ fileLifetime minCapacity, (migrateOpenScan fileLifetime minCapacity).cand s.zone = true →
        0 < s.zone.maxCapacity) ∧
      (LeastResetCandidate s.zone → 0 < s.zone.getZoneReclaimableSpace) :=
  @reclaimable_no_wrap 4096 _
    (.step (.opened ⟨by decide, by decide, by decide, by decide, fun _ => ⟨by decide, by decide⟩⟩
      (by decide) (by decide) (by decide)) (.setUsed 512)) (by decide)

end ZenFS
