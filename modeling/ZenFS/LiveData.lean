import ZenFS.CallTokens
import ZenFS.Reclaim
import ZenFS.Lookup

set_option autoImplicit false

/- The file layer's promise that a zone holds no more live bytes than were written to it since
its last reset, `used_capacity_ <= wp_ - start_` (invariant 5 of the spec's data model), on every
device that `Open`, the allocator's calls and the holders' actions reach. The allocator relies on
it: a zone it picks as a best match for its live data has been written to, so it is not handed
out as a new zone, and the token counts of `AllocateIOZone` come out as the spec says. -/
namespace ZenFS

/-- The zone invariant, and no more live bytes than were written since the zone's start. -/
def liveWithinWritten : ZoneInvariant geometryContract where
  holds zoneSize z := z.Valid zoneSize ∧ z.usedCapacity ≤ z.wp - z.start
  retag := fun ⟨valid, within⟩ start wp capacity maxCapacity used =>
    ⟨valid.congr start wp capacity maxCapacity, by rw [used, wp, start]; exact within⟩
  finish answer := fun ⟨valid, within⟩ => by
    refine ⟨valid.finish answer, ?_⟩
    unfold Zone.finish
    split
    · have below := valid.wp_le_end
      rw [add64_of_lt valid.end_lt]
      dsimp only
      omega
    · exact within
  reset contract unused := fun ⟨valid, _⟩ =>
    ⟨valid.resetFields _ _ (contract _), by simp [Zone.resetFields, unused]⟩

/-- A holder's `Append` within the write contract moves only the write pointer up. -/
theorem liveWithinWritten_append {zoneSize size : Nat} {z : Zone}
    {answers : List (Except String Nat)} {r : Zone.Appended}
    (kept : liveWithinWritten.holds zoneSize z) (small : size < 2 ^ 32)
    (within : Zone.WritesWithin size answers) (run : z.append size answers = some r) :
    liveWithinWritten.holds zoneSize r.zone := by
  obtain ⟨valid, live⟩ := kept
  refine ⟨valid.append small within run, ?_⟩
  rw [(Zone.append_moves valid small within run).2]
  dsimp only
  omega

/-- Every device reachable under the geometry contract by the allocator's calls and the holders'
actions keeps the zone invariant and the file layer's promise. -/
theorem keeps_liveWithinWritten {d : Device}
    (reach : Reachable geometryContract (Step geometryContract) d) :
    d.Keeps liveWithinWritten :=
  Reachable.holds (c := geometryContract) (Device.Keeps liveWithinWritten)
    (fun _ cfg _ sane listed _ _ => keeps_opened liveWithinWritten cfg fun e mem =>
      ⟨Zone.valid_ofListing (sane _ listed e mem), Nat.zero_le _⟩)
    (fun _ _ kept step => keeps_step liveWithinWritten
      (fun kept' small within run => liveWithinWritten_append kept' small within run)
      (fun _ kept' within => ⟨kept'.1.congr rfl rfl rfl rfl, within⟩) kept step)
    reach

/-- On every device that `Open`, the allocator's calls and the holders' actions reach under the
geometry contract, every meta and io zone holds no more live bytes than were written to it since
its last reset. -/
theorem live_bytes_written {d : Device}
    (reach : Reachable geometryContract (Step geometryContract) d) :
    ∀ k, ∀ z ∈ d.zones k, z.usedCapacity ≤ z.wp - z.start :=
  fun k z mem => (keeps_liveWithinWritten reach k z mem).2

theorem live_bytes_written_fresh :
    Reachable geometryContract (Step geometryContract) freshDevice ∧
      ∀ k, ∀ z ∈ freshDevice.zones k, z.usedCapacity ≤ z.wp - z.start :=
  have reach : Reachable geometryContract (Step geometryContract) freshDevice :=
    reachable_freshDevice (geometryContract_freshBackend 14 14)
  ⟨reach, live_bytes_written reach⟩

/-- The token counts `AllocateIOZone` leaves, on every path, from every device reachable under the
geometry contract: the open count is up by one exactly when it returns OK with a zone, and the
active count is up by one exactly when it returns OK with an empty zone (a new one), less one for
each zone it finished. -/
theorem allocateIOZone_token_counts {be : Backend} {fuel m : Nat} {L : WriteLifeTimeHint}
    {ioType : IOType} {d : Device} {r : Device × IOStatus × Option Nat}
    (reach : Reachable geometryContract (Step geometryContract) d)
    (run : allocateIOZone be fuel m L ioType d = some r) :
    r.1.openIOZones = d.openIOZones + (if r.2.1.isOk && r.2.2.isSome then 1 else 0) ∧
      r.1.activeIOZones = d.activeIOZones +
          (if r.2.1.isOk && (r.2.2.bind fun b => r.1.ioZones[b]?).any Zone.isEmpty then 1 else 0) -
        ((r.1.ioZones.countP Zone.isFull : Int) - d.ioZones.countP Zone.isFull) := by
  have kept := keeps_liveWithinWritten reach
  refine allocateIOZone_counts_of_liveWritten (fun z mem used _ => ?_) run
  have within := (kept .io z mem).2
  omega

theorem allocateIOZone_token_counts_fresh :
    Reachable geometryContract (Step geometryContract) freshDevice ∧
      (allocateIOZone (onlineBackend 4096) 30 0 .wlthMedium .kData freshDevice).isSome ∧
      ∀ r, allocateIOZone (onlineBackend 4096) 30 0 .wlthMedium .kData freshDevice = some r →
        r.1.openIOZones = freshDevice.openIOZones + (if r.2.1.isOk && r.2.2.isSome then 1 else 0) ∧
        r.1.activeIOZones = freshDevice.activeIOZones +
            (if r.2.1.isOk && (r.2.2.bind fun b => r.1.ioZones[b]?).any Zone.isEmpty then 1 else 0) -
          ((r.1.ioZones.countP Zone.isFull : Int) - freshDevice.ioZones.countP Zone.isFull) :=
  have reach : Reachable geometryContract (Step geometryContract) freshDevice :=
    reachable_freshDevice (geometryContract_freshBackend 14 14)
  ⟨reach, by decide, fun _ run => allocateIOZone_token_counts reach run⟩

end ZenFS
