import ZenFS.System

set_option autoImplicit false

/- Open and active tokens: the io limits `Open` derives from the backend's limits, and the
counters `open_io_zones_` and `active_io_zones_` under any interleaving of
`WaitForOpenIOZoneToken`, `GetActiveIOZoneTokenIfAvailable`, `PutOpenIOZoneToken` and
`PutActiveIOZoneToken`, each put giving back a token taken earlier. -/
namespace ZenFS

/-! ### The io limits of `Open` -/

/-- For a device limit other than 1, the io limit keeps two zones back, one for metadata and
one for migration. -/
theorem ioZoneLimit_add_two {nrZones limit : Nat} (nonzero : limit ≠ 0) (notOne : limit ≠ 1)
    (fits : limit < 2 ^ 32) : ioZoneLimit nrZones limit + 2 ≤ limit := by
  unfold ioZoneLimit
  rw [if_neg nonzero, sub32_of_le fits (by omega)]
  omega

theorem ioZoneLimit_pos {nrZones limit : Nat} (enough : 1 ≤ nrZones) (openLimit : limit = 0 ∨ 3 ≤ limit)
    (fits : limit < 2 ^ 32) : 1 ≤ ioZoneLimit nrZones limit := by
  unfold ioZoneLimit
  rcases openLimit with none | above
  · simpa [none] using enough
  · rw [if_neg (by omega), sub32_of_le fits (by omega)]
    omega

theorem ioZoneLimit_lt {nrZones limit : Nat} (small : nrZones < 2 ^ 32) :
    ioZoneLimit nrZones limit < 2 ^ 32 := by
  unfold ioZoneLimit sub32
  split
  · exact small
  · exact Nat.mod_lt _ (Nat.two_pow_pos 32)

/-- The open limit a caller waits under is at most the io limit, and one below it for a caller
that is not prioritized, when the io limit is at least 1. -/
theorem allocatorOpenLimit_of_pos (prioritized : Bool) {limit : Nat} (positive : 1 ≤ limit)
    (fits : limit < 2 ^ 32) :
    Device.allocatorOpenLimit prioritized limit = if prioritized then limit else limit - 1 := by
  unfold Device.allocatorOpenLimit
  cases prioritized
  · simp only [Bool.false_eq_true, if_false]
    rw [sub32_of_le fits positive]
  · rfl

/-! ### Tokens under any interleaving -/

/-- The device and the tokens taken and not yet given back: the kind of each open token (`true`
when its `WaitForOpenIOZoneToken` was prioritized) and the number of active tokens. Which thread
holds a token does not matter to the counters, so the threads share one pool. -/
structure Tokens where
  device : Device
  openHeld : List Bool
  activeHeld : Nat

/-- One token call by some thread. A wait that cannot end has no step; a put gives back a token
taken earlier. -/
inductive TokenStep : Tokens → Tokens → Prop
  | waitForOpen {s : Tokens} {prioritized : Bool} {d : Device} :
      s.device.waitForOpenIOZoneToken prioritized = some d →
      TokenStep s ⟨d, prioritized :: s.openHeld, s.activeHeld⟩
  | getActive {s : Tokens} :
      TokenStep s ⟨s.device.getActiveIOZoneTokenIfAvailable.2, s.openHeld,
        if s.device.getActiveIOZoneTokenIfAvailable.1 then s.activeHeld + 1 else s.activeHeld⟩
  | putOpen {s : Tokens} (i : Nat) :
      i < s.openHeld.length →
      TokenStep s ⟨s.device.putOpenIOZoneToken, s.openHeld.eraseIdx i, s.activeHeld⟩
  | putActive {s : Tokens} :
      0 < s.activeHeld → TokenStep s ⟨s.device.putActiveIOZoneToken, s.openHeld, s.activeHeld - 1⟩

/-- The token states reached from the device `Open` leaves, with no token taken. -/
inductive TokenReachable (d : Device) : Tokens → Prop
  | start : TokenReachable d ⟨d, [], 0⟩
  | step {s s' : Tokens} : TokenReachable d s → TokenStep s s' → TokenReachable d s'

/-- The invariant: the limits stay those of the device `Open` left, the open count is the number
of open tokens held, and the three bounds. -/
structure Tokens.Counted (d : Device) (s : Tokens) : Prop where
  openLimit : s.device.maxNrOpenIOZones = d.maxNrOpenIOZones
  activeLimit : s.device.maxNrActiveIOZones = d.maxNrActiveIOZones
  opened : s.device.openIOZones = s.openHeld.length
  openBound : s.device.openIOZones ≤ s.device.maxNrOpenIOZones
  activeBound : s.device.activeIOZones ≤ s.device.maxNrActiveIOZones
  shared : (s.openHeld.count false : Int) ≤ s.device.maxNrOpenIOZones - 1

section
variable {d : Device} (positive : 1 ≤ d.maxNrOpenIOZones) (fits : d.maxNrOpenIOZones < 2 ^ 32)
include positive fits

theorem Tokens.Counted.step {s s' : Tokens} (inv : s.Counted d) (next : TokenStep s s') :
    s'.Counted d := by
  obtain ⟨openLimit, activeLimit, opened, openBound, activeBound, shared⟩ := inv
  have held := List.count_le_length false s.openHeld
  cases next with
  | @waitForOpen prioritized d' waited =>
    obtain ⟨room, rfl⟩ := Device.waitForOpenIOZoneToken_eq_some.mp waited
    rw [openLimit, allocatorOpenLimit_of_pos prioritized positive fits] at room
    cases prioritized <;> simp only [Bool.false_eq_true, if_false, if_true] at room <;>
      constructor <;> simp [List.count_cons] <;> omega
  | getActive =>
    unfold Device.getActiveIOZoneTokenIfAvailable
    by_cases below : s.device.activeIOZones < s.device.maxNrActiveIOZones <;>
      simp only [below, if_true, if_false] <;> constructor <;> simp <;> omega
  | @putOpen i within =>
    have fewer := (List.eraseIdx_sublist s.openHeld i).count_le false
    constructor <;> simp [List.length_eraseIdx_of_lt within] <;> omega
  | putActive _ => constructor <;> simp <;> omega

theorem Tokens.Counted.reachable (closed : d.openIOZones = 0)
    (reported : d.activeIOZones ≤ d.maxNrActiveIOZones) {s : Tokens} (reach : TokenReachable d s) :
    s.Counted d := by
  induction reach with
  | start => exact ⟨rfl, rfl, by simp [closed], by rw [closed]; omega, reported, by simp; omega⟩
  | step _ next inv => exact inv.step positive fits next

end

/-- Under any interleaving of token calls after an `Open` whose limits leave an open token to a
caller that is not prioritized and keep two zones back, and whose listing has no more active
zones than the io limit: `open_io_zones_` and `active_io_zones_` stay within their limits, and
the open tokens of callers that are not prioritized within one less. -/
theorem tokens_within_limits {readonly exclusive : Bool} {bd : BackendDevice} {cfg : Config}
    {d : Device} (opened : openDevice readonly exclusive bd cfg = (d, .ok))
    (fits : bd.nrZones < 2 ^ 32 ∧ bd.maxNrActiveZones < 2 ^ 32 ∧ bd.maxNrOpenZones < 2 ^ 32)
    (activeLimit : bd.maxNrActiveZones ≠ 1) (openLimit : bd.maxNrOpenZones = 0 ∨ 3 ≤ bd.maxNrOpenZones)
    (reported : d.activeIOZones ≤ d.maxNrActiveIOZones) {s : Tokens} (reach : TokenReachable d s) :
    s.device.openIOZones ≤ s.device.maxNrOpenIOZones ∧
      s.device.activeIOZones ≤ s.device.maxNrActiveIOZones ∧
      (s.openHeld.count false : Int) ≤ s.device.maxNrOpenIOZones - 1 ∧
      (bd.maxNrActiveZones ≠ 0 → d.maxNrActiveIOZones + 2 ≤ bd.maxNrActiveZones) ∧
      (bd.maxNrOpenZones ≠ 0 → d.maxNrOpenIOZones + 2 ≤ bd.maxNrOpenZones) := by
  obtain ⟨listing, -, -, enough, rfl⟩ := openDevice_ok opened
  have inv := Tokens.Counted.reachable
    (ioZoneLimit_pos (le_trans (by decide) enough) openLimit fits.2.2) (ioZoneLimit_lt fits.1) rfl
    reported reach
  exact ⟨inv.openBound, inv.activeBound, inv.shared,
    fun nonzero => ioZoneLimit_add_two nonzero activeLimit fits.2.1,
    fun nonzero => ioZoneLimit_add_two nonzero (by omega) fits.2.2⟩

theorem tokens_within_limits_fresh :
    openDevice false true (freshBackend 14 14 4096 32) defaultConfig = (freshDevice, .ok) ∧
      ((freshBackend 14 14 4096 32).nrZones < 2 ^ 32 ∧
        (freshBackend 14 14 4096 32).maxNrActiveZones < 2 ^ 32 ∧
        (freshBackend 14 14 4096 32).maxNrOpenZones < 2 ^ 32) ∧
      (freshBackend 14 14 4096 32).maxNrActiveZones ≠ 1 ∧
      ((freshBackend 14 14 4096 32).maxNrOpenZones = 0 ∨ 3 ≤ (freshBackend 14 14 4096 32).maxNrOpenZones) ∧
      freshDevice.activeIOZones ≤ freshDevice.maxNrActiveIOZones ∧
      TokenReachable freshDevice ⟨freshDevice.setOpenIOZones 1, [false], 0⟩ ∧
      ((freshDevice.setOpenIOZones 1).openIOZones ≤ (freshDevice.setOpenIOZones 1).maxNrOpenIOZones ∧
        (freshDevice.setOpenIOZones 1).activeIOZones ≤ (freshDevice.setOpenIOZones 1).maxNrActiveIOZones ∧
        (([false].count false : Nat) : Int) ≤ (freshDevice.setOpenIOZones 1).maxNrOpenIOZones - 1 ∧
        ((freshBackend 14 14 4096 32).maxNrActiveZones ≠ 0 →
          freshDevice.maxNrActiveIOZones + 2 ≤ (freshBackend 14 14 4096 32).maxNrActiveZones) ∧
        ((freshBackend 14 14 4096 32).maxNrOpenZones ≠ 0 →
          freshDevice.maxNrOpenIOZones + 2 ≤ (freshBackend 14 14 4096 32).maxNrOpenZones)) := by
  have opened := openDevice_freshBackend 14 14 4096 32 defaultConfig (by decide)
  have reach : TokenReachable freshDevice ⟨freshDevice.setOpenIOZones 1, [false], 0⟩ :=
    .step .start (.waitForOpen rfl)
  exact ⟨opened, by decide, by decide, by decide, by decide, reach,
    tokens_within_limits opened (by decide) (by decide) (by decide) (by decide) reach⟩

/-- Zones 3 and 4 written into and reported active and open, the rest empty. -/
def twoActiveListing : List ZoneListing :=
  (List.range 32).map fun i =>
    if i = 3 ∨ i = 4 then ⟨i * 4096, 4096, i * 4096 + 1, true, false, true, true, true⟩
    else ⟨i * 4096, 4096, i * 4096, true, false, true, false, false⟩

/-- A backend that allows three active zones and lists two. -/
def twoActiveBackend : BackendDevice := { freshBackend 3 14 4096 32 with listing := some twoActiveListing }

/-- A fresh device whose backend allows two open zones: the io limit is 0. -/
def twoOpenDevice : Device := Device.opened defaultConfig (freshBackend 14 2 4096 32) (freshListing 4096 32)

/-- The bounds fail for small limits: with three active zones allowed `Open` leaves two active
tokens against an io limit of 1; with two open zones allowed a caller that is not prioritized
takes an open token against an io limit of 0; and a limit of 1 gives an io limit of `2^32 - 1`. -/
theorem tokens_exceed_small_limits :
    (openDevice false true twoActiveBackend defaultConfig).2 = .ok ∧
      (openDevice false true twoActiveBackend defaultConfig).1.maxNrActiveIOZones <
        (openDevice false true twoActiveBackend defaultConfig).1.activeIOZones ∧
      openDevice false true (freshBackend 14 2 4096 32) defaultConfig = (twoOpenDevice, .ok) ∧
      TokenReachable twoOpenDevice ⟨twoOpenDevice.setOpenIOZones 1, [false], 0⟩ ∧
      (twoOpenDevice.setOpenIOZones 1).maxNrOpenIOZones < (twoOpenDevice.setOpenIOZones 1).openIOZones ∧
      ioZoneLimit 32 1 = 2 ^ 32 - 1 :=
  ⟨by decide, by decide, openDevice_freshBackend 14 2 4096 32 defaultConfig (by decide),
    .step .start (.waitForOpen rfl), by decide, by decide⟩

end ZenFS
