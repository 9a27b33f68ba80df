import ZenFS.Geometry

set_option autoImplicit false

/- `ZonedBlockDevice::GetIOZone`, the io zone a byte offset falls in. The scan compares the
offset with each zone's end `start_ + GetZoneSize()` in `uint64_t`. On every device that `Open`
and the later calls reach under the geometry contract no zone's end wraps, so the scan returns
the first io zone whose bytes hold the offset, and `nullptr` only when no io zone holds it. -/
namespace ZenFS

/-- `ZonedBlockDevice::GetIOZone`: the first io zone with `start_ <= offset` and
`offset < start_ + GetZoneSize()`, the sum in `uint64_t`; `nullptr` is `none`. -/
def Device.getIOZone (d : Device) (offset : Nat) : Option Zone :=
  d.ioZones.find? fun z => z.start ≤ offset && offset < add64 z.start d.zoneSize

/-- The zone's bytes, of a zone of the given size, hold the offset. -/
def Zone.Holds (zoneSize offset : Nat) (z : Zone) : Prop :=
  z.start ≤ offset ∧ offset < z.start + zoneSize

instance (zoneSize offset : Nat) (z : Zone) : Decidable (z.Holds zoneSize offset) :=
  inferInstanceAs (Decidable (_ ∧ _))

theorem find?_congr_of_mem {α : Type} {p q : α → Bool} :
    ∀ {l : List α}, (∀ x ∈ l, p x = q x) → l.find? p = l.find? q
  | [], _ => rfl
  | x :: l, agree => by
    rw [List.find?_cons, List.find?_cons, agree x (List.mem_cons_self _ _),
      find?_congr_of_mem fun y mem => agree y (List.mem_cons_of_mem _ mem)]

/-- Under the zone invariant the scan's `uint64_t` end of every io zone is the zone's end. -/
theorem Device.getIOZone_eq_find {d : Device} (valid : d.ZonesValid) (offset : Nat) :
    d.getIOZone offset = d.ioZones.find? fun z => decide (z.Holds d.zoneSize offset) := by
  refine find?_congr_of_mem fun z mem => ?_
  have noWrap := (valid .io z mem).end_lt
  simp only [Zone.Holds, add64_of_lt noWrap, Bool.decide_and]

/-- The fresh backend of 32 zones of 4096 bytes lists only sane zones. -/
theorem geometryContract_freshBackend (maxNrActiveZones maxNrOpenZones : Nat) :
    geometryContract.device (freshBackend maxNrActiveZones maxNrOpenZones 4096 32) := by
  intro listing listed e mem
  cases listed
  obtain ⟨i, below, rfl⟩ := mem_freshListing mem
  refine ⟨?_, ?_, ?_, ?_, fun _ => ?_⟩ <;> simp [freshBackend, add64] <;> omega

/-- On every device reachable under the geometry contract, `GetIOZone` is the exact lookup: it
returns the first io zone whose bytes hold the offset, every zone it returns is an io zone that
holds the offset, and it returns `nullptr` only when no io zone holds the offset. -/
theorem getIOZone_exact {d : Device}
    (reach : Reachable geometryContract
      (fun d d' => Step geometryContract d d' ∨ ZoneCall geometryContract d d') d)
    (offset : Nat) :
    d.getIOZone offset = d.ioZones.find? (fun z => decide (z.Holds d.zoneSize offset)) ∧
      (∀ z, d.getIOZone offset = some z → z ∈ d.ioZones ∧ z.Holds d.zoneSize offset) ∧
      (d.getIOZone offset = none ↔ ∀ z ∈ d.ioZones, ¬z.Holds d.zoneSize offset) := by
  have exact := Device.getIOZone_eq_find (zonesValid_of_reachable reach) offset
  refine ⟨exact, fun z found => ?_, ?_⟩
  · rw [exact] at found
    have holds := List.find?_some found
    exact ⟨List.mem_of_find?_eq_some found, of_decide_eq_true holds⟩
  · simp only [exact, List.find?_eq_none, decide_eq_true_eq]

theorem getIOZone_exact_fresh :
    let d := Device.opened defaultConfig (freshBackend 14 14 4096 32) (freshListing 4096 32)
    d.getIOZone 20000 = d.ioZones.find? (fun z => decide (z.Holds d.zoneSize 20000)) ∧
      (∀ z, d.getIOZone 20000 = some z → z ∈ d.ioZones ∧ z.Holds d.zoneSize 20000) ∧
      (d.getIOZone 20000 = none ↔ ∀ z ∈ d.ioZones, ¬z.Holds d.zoneSize 20000) :=
  getIOZone_exact (.opened (geometryContract_freshBackend 14 14)
    (openDevice_freshBackend 14 14 4096 32 defaultConfig (by decide))) 20000

end ZenFS
