import ZenFS.System

set_option autoImplicit false

/- `GetLeastResetCountZone`, with which the wear-leveling worker picks the zone to move data
from: one pass over the io zones, reading their fields without taking them, that keeps the
lowest score `reset_count_ * max_capacity_ / reclaimable`. The product is a `uint64_t` and
wraps. `GetLifetimeZeroZone` lists, in the same way, the io zones with live data and no
lifetime hint. -/
namespace ZenFS

/-- `z->reset_count_ * z->max_capacity_ / reclaimable_space`, the score of
`GetLeastResetCountZone`. -/
def leastResetScore (z : Zone) : Nat :=
  mul64 z.resetCount z.maxCapacity / z.getZoneReclaimableSpace

/-- One pass of the loop of `GetLeastResetCountZone` on zone `z` at index `i`, with the zone
kept so far (its index and the zone) and its score. Every `continue` keeps both. -/
def leastResetCountBody (i : Nat) (z : Zone) :
    Option (Nat × Zone) × Nat → Option (Nat × Zone) × Nat
  | (best, bestScore) =>
    if z.isEmpty then (best, bestScore)
    else if z.isUsed && decide (z.lifetime = .wlthExtreme) then
      if z.getZoneReclaimableSpace ≠ 0 then
        let better := match best with
          | none => true
          | some (_, b) => decide (leastResetScore z < bestScore) ||
              (decide (leastResetScore z = bestScore) &&
                decide (b.getZoneReclaimableSpace < z.getZoneReclaimableSpace))
        if better then (some (i, z), leastResetScore z) else (best, bestScore)
      else (best, bestScore)
    else (best, bestScore)

/-- The `for (const auto z : io_zones)` loop of `GetLeastResetCountZone`, from index `i`. -/
def leastResetCountLoop :
    Nat → List Zone → Option (Nat × Zone) × Nat → Option (Nat × Zone) × Nat
  | _, [], acc => acc
  | i, z :: zs, acc => leastResetCountLoop (i + 1) zs (leastResetCountBody i z acc)

/-- `GetLeastResetCountZone(&out_zone)`: the status, and the index of the zone `*out_zone`
points to. The device does not change. -/
def getLeastResetCountZone (d : Device) : IOStatus × Option Nat :=
  match (leastResetCountLoop 0 d.ioZones (none, 0)).1 with
  | none => (.notFound "The zone with the fewest resets was not found", none)
  | some (b, _) => (.ok, some b)

/-- The io zones `GetLeastResetCountZone` scores: not empty, with live data, of extreme
lifetime, and with reclaimable space. -/
def LeastResetCandidate (z : Zone) : Prop :=
  z.wp ≠ z.start ∧ 0 < z.usedCapacity ∧ z.lifetime = .wlthExtreme ∧
    z.getZoneReclaimableSpace ≠ 0

instance : DecidablePred LeastResetCandidate := fun _ =>
  inferInstanceAs (Decidable (_ ∧ _ ∧ _ ∧ _))

/-- Zone `z` at `b` comes no later than zone `z'` at `j` in the order of
`GetLeastResetCountZone`: a lower score, then more reclaimable space, then the earlier index. -/
def LeastResetFirst (b : Nat) (z : Zone) (j : Nat) (z' : Zone) : Prop :=
  leastResetScore z < leastResetScore z' ∨ leastResetScore z = leastResetScore z' ∧
    (z'.getZoneReclaimableSpace < z.getZoneReclaimableSpace ∨
      z'.getZoneReclaimableSpace = z.getZoneReclaimableSpace ∧ b ≤ j)

theorem leastResetCountBody_of_not {i : Nat} {z : Zone} (skip : ¬ LeastResetCandidate z)
    (acc : Option (Nat × Zone) × Nat) : leastResetCountBody i z acc = acc := by
  obtain ⟨best, bestScore⟩ := acc
  unfold LeastResetCandidate at skip
  by_cases empty : z.wp = z.start
  · simp [leastResetCountBody, Zone.isEmpty, empty]
  · by_cases picked : 0 < z.usedCapacity ∧ z.lifetime = .wlthExtreme
    · have none : z.getZoneReclaimableSpace = 0 := by tauto
      simp [leastResetCountBody, Zone.isEmpty, empty, none]
    · simp only [leastResetCountBody, Zone.isEmpty, Zone.isUsed, empty, decide_False,
        Bool.false_eq_true, if_false]
      rw [if_neg (by simpa using picked)]

theorem leastResetCountBody_of_candidate {i : Nat} {z : Zone} (cand : LeastResetCandidate z)
    (best : Option (Nat × Zone)) (bestScore : Nat) :
    leastResetCountBody i z (best, bestScore) =
      if (match best with
          | none => true
          | some (_, b) => decide (leastResetScore z < bestScore) ||
              (decide (leastResetScore z = bestScore) &&
                decide (b.getZoneReclaimableSpace < z.getZoneReclaimableSpace)))
      then (some (i, z), leastResetScore z) else (best, bestScore) := by
  obtain ⟨written, used, extreme, room⟩ := cand
  simp [leastResetCountBody, Zone.isEmpty, written, used, extreme, room]

/-- What the loop knows once it has passed the zones below `k`: none of them is a candidate,
or it keeps the first of them in the order, with its score. -/
def LeastSeen (zs : List Zone) (k : Nat) : Option (Nat × Zone) × Nat → Prop
  | (none, _) => ∀ j z, j < k → zs[j]? = some z → ¬ LeastResetCandidate z
  | (some (b, z), score) => b < k ∧ zs[b]? = some z ∧ LeastResetCandidate z ∧
      score = leastResetScore z ∧
      ∀ j z', j < k → zs[j]? = some z' → LeastResetCandidate z' → LeastResetFirst b z j z'

/-- Passing zone `k` with what is kept unchanged: zone `k` is no candidate, or it comes after
the zone kept. -/
theorem LeastSeen.pass {zs : List Zone} {k : Nat} {z : Zone} {acc : Option (Nat × Zone) × Nat}
    (seen : LeastSeen zs k acc) (found : zs[k]? = some z)
    (after : LeastResetCandidate z → ∃ b zb, acc.1 = some (b, zb) ∧ LeastResetFirst b zb k z) :
    LeastSeen zs (k + 1) acc := by
  obtain ⟨_ | ⟨b, zb⟩, score⟩ := acc
  · intro j z' below found' cand'
    rcases Nat.lt_succ_iff_lt_or_eq.mp below with below | rfl
    · exact seen j z' below found' cand'
    · rw [found] at found'
      cases found'
      obtain ⟨_, _, none', _⟩ := after cand'
      cases none'
  · obtain ⟨before, foundBest, candBest, rfl, first⟩ := seen
    refine ⟨by omega, foundBest, candBest, rfl, fun j z' below found' cand' => ?_⟩
    rcases Nat.lt_succ_iff_lt_or_eq.mp below with below | rfl
    · exact first j z' below found' cand'
    · rw [found] at found'
      cases found'
      obtain ⟨_, _, same, later⟩ := after cand'
      cases same
      exact later

/-- Keeping zone `k`: a candidate that comes before every candidate seen so far. -/
theorem LeastSeen.take {zs : List Zone} {k : Nat} {z : Zone} (found : zs[k]? = some z)
    (cand : LeastResetCandidate z)
    (first : ∀ j z', j < k → zs[j]? = some z' → LeastResetCandidate z' → LeastResetFirst k z j z') :
    LeastSeen zs (k + 1) (some (k, z), leastResetScore z) := by
  refine ⟨by omega, found, cand, rfl, fun j z' below found' cand' => ?_⟩
  rcases Nat.lt_succ_iff_lt_or_eq.mp below with below | rfl
  · exact first j z' below found' cand'
  · rw [found] at found'
    cases found'
    exact .inr ⟨rfl, .inr ⟨rfl, le_refl _⟩⟩

/-- One pass of the loop keeps `LeastSeen`: a candidate that comes before the zone kept, in
score and then in reclaimable space, replaces it. -/
theorem LeastSeen.body {zs : List Zone} {k : Nat} {z : Zone} {acc : Option (Nat × Zone) × Nat}
    (seen : LeastSeen zs k acc) (found : zs[k]? = some z) :
    LeastSeen zs (k + 1) (leastResetCountBody k z acc) := by
  by_cases cand : LeastResetCandidate z
  · obtain ⟨_ | ⟨b, zb⟩, score⟩ := acc
    · rw [leastResetCountBody_of_candidate cand, if_pos rfl]
      exact LeastSeen.take found cand fun j z' below found' cand' =>
        absurd cand' (seen j z' below found')
    · obtain ⟨before, foundBest, candBest, rfl, first⟩ := seen
      rw [leastResetCountBody_of_candidate cand]
      by_cases better : leastResetScore z < leastResetScore zb ∨
          leastResetScore z = leastResetScore zb ∧
            zb.getZoneReclaimableSpace < z.getZoneReclaimableSpace
      · rw [if_pos (by simpa using better)]
        refine LeastSeen.take found cand fun j z' below found' cand' => ?_
        have := first j z' below found' cand'
        unfold LeastResetFirst at this ⊢
        omega
      · rw [if_neg (by simpa using better)]
        refine LeastSeen.pass ⟨before, foundBest, candBest, rfl, first⟩ found fun _ =>
          ⟨b, zb, rfl, ?_⟩
        unfold LeastResetFirst
        omega
  · rw [leastResetCountBody_of_not cand]
    exact seen.pass found fun cand' => absurd cand' cand

/-- The whole loop from zone `k` on. -/
theorem LeastSeen.loop {zs : List Zone} :
    ∀ (rest : List Zone) (k : Nat) (acc : Option (Nat × Zone) × Nat),
      zs.drop k = rest → LeastSeen zs k acc →
        LeastSeen zs (k + rest.length) (leastResetCountLoop k rest acc)
  | [], k, acc, _, seen => seen
  | z :: rest, k, acc, after, seen => by
    have found : zs[k]? = some z := by
      rw [← Nat.add_zero k, ← List.getElem?_drop, after, List.getElem?_cons_zero]
    have next : zs.drop (k + 1) = rest := by
      rw [← List.drop_drop, after]
      rfl
    have := LeastSeen.loop rest (k + 1) _ next (seen.body found)
    rwa [List.length_cons, ← Nat.add_assoc, Nat.add_right_comm k rest.length 1]

/-- `GetLeastResetCountZone` returns the io zone with the lowest score
`(reset_count_ * max_capacity_ mod 2^64) / reclaimable` among the zones that are not empty, hold
live data, have extreme lifetime and reclaimable space; a tie goes to the zone with more
reclaimable space, then to the earlier zone. It returns `NotFound` exactly when there is no
such zone. -/
theorem getLeastResetCountZone_least (d : Device) :
    (getLeastResetCountZone d = (.notFound "The zone with the fewest resets was not found", none) ∧
        ∀ z ∈ d.ioZones, ¬ LeastResetCandidate z) ∨
      ∃ b z, d.ioZones[b]? = some z ∧ LeastResetCandidate z ∧
        (∀ j z', d.ioZones[j]? = some z' → LeastResetCandidate z' → LeastResetFirst b z j z') ∧
        getLeastResetCountZone d = (.ok, some b) := by
  have seen := LeastSeen.loop d.ioZones 0 (none, 0) rfl fun _ _ below => absurd below (by omega)
  rw [Nat.zero_add] at seen
  have bound : ∀ {j z}, d.ioZones[j]? = some z → j < d.ioZones.length := fun found =>
    (List.getElem?_eq_some_iff.mp found).1
  unfold getLeastResetCountZone
  generalize leastResetCountLoop 0 d.ioZones (none, 0) = acc at seen ⊢
  obtain ⟨_ | ⟨b, z⟩, score⟩ := acc
  · refine .inl ⟨rfl, fun z mem => ?_⟩
    obtain ⟨j, found⟩ := List.getElem?_of_mem mem
    exact seen j z (bound found) found
  · obtain ⟨-, found, cand, -, first⟩ := seen
    exact .inr ⟨b, z, found, cand, fun j z' found' => first j z' (bound found') found', rfl⟩

/-- A device of 8 GiB zones with two io zones of extreme lifetime, each with 2 KiB written and
one live byte: the first reset once, the second `2^31` times. -/
def wrappedScoreDevice : Device :=
  { freshDevice with
    zoneSize := 2 ^ 33
    ioZones :=
      [⟨0, 2 ^ 33, 2048, 2 ^ 33 - 2048, 1, .wlthExtreme, 1, false⟩,
        ⟨2 ^ 33, 2 ^ 33, 2 ^ 33 + 2048, 2 ^ 33 - 2048, 1, .wlthExtreme, 2 ^ 31, false⟩] }

/-- `GetLeastResetCountZone` picks the zone reset `2^31` times: the `uint64_t` product
`2^31 * 2^33` wraps to 0, so that zone scores 0, while its exact score is far above the other
zone's. -/
theorem getLeastResetCountZone_wrapped_product :
    (∀ z ∈ wrappedScoreDevice.ioZones, LeastResetCandidate z) ∧
      wrappedScoreDevice.ioZones.map
          (fun z => z.resetCount * z.maxCapacity / z.getZoneReclaimableSpace) =
        [4196353, 9011599449784832] ∧
      getLeastResetCountZone wrappedScoreDevice = (.ok, some 1) := by
  decide

/-! ### `GetLifetimeZeroZone` -/

/-- `GetLifetimeZeroZone`: appends to `zeroLifetimeZones` each io zone, in order, that holds
live data and has no lifetime hint. -/
def getLifetimeZeroZone (d : Device) (zeroLifetimeZones : List Nat) : List Nat :=
  zeroLifetimeZones ++ (List.range d.ioZones.length).filter fun i =>
    (d.ioZones[i]?).any fun z => z.isUsed && decide (z.lifetime = .wlthNotSet)

/-- `GetLifetimeZeroZone` keeps what the vector held and appends, in order and once each,
exactly the io zones with live data and no lifetime hint. -/
theorem getLifetimeZeroZone_spec (d : Device) (zeroLifetimeZones : List Nat) :
    ∃ added, getLifetimeZeroZone d zeroLifetimeZones = zeroLifetimeZones ++ added ∧
      added.Pairwise (· < ·) ∧
      ∀ i, i ∈ added ↔ ∃ z, d.ioZones[i]? = some z ∧ 0 < z.usedCapacity ∧
        z.lifetime = .wlthNotSet := by
  refine ⟨_, rfl, (List.pairwise_lt_range _).filter _, fun i => ?_⟩
  rw [List.mem_filter, List.mem_range]
  constructor
  · rintro ⟨-, chosen⟩
    cases found : d.ioZones[i]? with
    | none => simp [found] at chosen
    | some z => simpa [found, Zone.isUsed] using chosen
  · rintro ⟨z, found, used, unset⟩
    exact ⟨(List.getElem?_eq_some_iff.mp found).1, by simp [found, Zone.isUsed, used, unset]⟩

end ZenFS
