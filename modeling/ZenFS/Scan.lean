import ZenFS.Device

set_option autoImplicit false

/- The io-zone scans that keep the best zone seen so far busy while they look at the rest:
`GetBestOpenZoneMatch`, both overloads of `AllocateEmptyZone`, `FinishCheapestIOZone`, and
the two phases of `GetMigrateTargetZone`. Each is one instance of `Scan`. -/
namespace ZenFS

/-- What tells the scans apart: which zones they compare, how a zone beats the current
best (given with the score kept for it), the score, the `break` after a new best, the work
done on every early `return`, and whether a failed release of the best also releases the
zone in hand. -/
structure Scan where
  cand : Zone → Bool
  beats : Zone → Option Zone → Nat → Bool
  key : Zone → Nat
  halt : Zone → Bool
  onError : Device → Device
  releaseBoth : Bool

/-- The io zones with only the zone a scan holds marked busy. -/
def holdZones (zs : List Zone) (best : Option Nat) : List Zone :=
  zs.mapIdx fun j z => if best = some j then z.setBusy true else z

@[simp] theorem holdZones_none (zs : List Zone) : holdZones zs none = zs := by
  apply List.ext_getElem?
  simp [holdZones, List.getElem?_mapIdx]

@[simp] theorem length_holdZones (zs : List Zone) (best : Option Nat) :
    (holdZones zs best).length = zs.length := by
  simp [holdZones]

theorem getElem?_holdZones (zs : List Zone) (best : Option Nat) (j : Nat) :
    (holdZones zs best)[j]? = zs[j]?.map fun z => if best = some j then z.setBusy true else z := by
  simp [holdZones, List.getElem?_mapIdx]

theorem getElem?_holdZones_ne {zs : List Zone} {b j : Nat} (other : b ≠ j) :
    (holdZones zs (some b))[j]? = zs[j]? := by
  simp [getElem?_holdZones, other]

theorem getElem?_holdZones_self {zs : List Zone} {b : Nat} {z : Zone}
    (found : zs[b]? = some z) : (holdZones zs (some b))[b]? = some (z.setBusy true) := by
  simp [getElem?_holdZones, found]

theorem holdZones_take {zs : List Zone} {i : Nat} {z : Zone}
    (found : zs[i]? = some z) : zs.set i (z.setBusy true) = holdZones zs (some i) := by
  apply List.ext_getElem?
  intro j
  rw [getElem?_holdZones, List.getElem?_set]
  by_cases same : i = j
  · subst same
    simp [found, (List.getElem?_eq_some_iff.mp found).1]
  · simp [same]

theorem holdZones_switch {zs : List Zone} {i b : Nat} {z zb : Zone}
    (found : zs[i]? = some z) (foundBest : zs[b]? = some zb) (other : b ≠ i) :
    ((holdZones zs (some b)).set i (z.setBusy true)).set b zb = holdZones zs (some i) := by
  apply List.ext_getElem?
  intro j
  rw [getElem?_holdZones, List.getElem?_set, List.getElem?_set, getElem?_holdZones]
  by_cases hb : b = j
  · subst hb
    simp [foundBest, Ne.symm other, (List.getElem?_eq_some_iff.mp foundBest).1]
  · by_cases hi : i = j
    · subst hi
      simp [found, hb, (List.getElem?_eq_some_iff.mp found).1]
    · simp [hb, hi, Ne.symm hb]

namespace Scan

/-- Zone `i` becomes the best; `break` if the scan stops there. -/
def keep (sc : Scan) (d : Device) (i : Nat) (z : Zone) : Flow (Device × Option Nat × Nat) :=
  if sc.halt z then .brk (d, some i, sc.key z) else .next (d, some i, sc.key z)

/-- One pass of the loop body, on the device, the best zone and its score. -/
def body (sc : Scan) (i : Nat) : Device × Option Nat × Nat → Flow (Device × Option Nat × Nat)
  | (d, best, score) =>
    match d.acquire .io i with
    | none => .next (d, best, score)
    | some d₁ =>
      match d₁.zone .io i with
      | none => .next (d₁, best, score)
      | some z =>
        if sc.cand z && sc.beats z (best.bind (d₁.zone .io)) score then
          match best with
          | none => sc.keep d₁ i z
          | some b =>
            match d₁.checkRelease .io b with
            | .ok d₂ => sc.keep d₂ i z
            | .error s =>
              if sc.releaseBoth then
                match d₁.checkRelease .io i with
                | .ok d₃ => .ret (sc.onError d₃) s
                | .error s' => .ret (sc.onError d₁) s'
              else .ret (sc.onError d₁) s
        else
          match d₁.checkRelease .io i with
          | .ok d₂ => .next (d₂, best, score)
          | .error s => .ret (sc.onError d₁) s

/-- The whole `for (const auto z : io_zones)` loop, from no best zone and a first score. -/
def run (sc : Scan) (d : Device) (score : Nat) : Flow (Device × Option Nat × Nat) :=
  forZones sc.body (List.range d.ioZones.length) (d, none, score)

/-- What holds between two passes: only the best zone is held, and it was free, worth
comparing, beat some earlier best and carries its own score. -/
def Holding (sc : Scan) (d : Device) (score₀ : Nat) : Device × Option Nat × Nat → Prop
  | (d', none, score) => d' = d ∧ score = score₀
  | (d', some b, score) =>
    d' = d.setZones .io (holdZones d.ioZones (some b)) ∧
      ∃ z, d.ioZones[b]? = some z ∧ z.busy = false ∧ sc.cand (z.setBusy true) = true ∧
        score = sc.key (z.setBusy true) ∧ ∃ c s, sc.beats (z.setBusy true) c s = true

theorem keep_holds (sc : Scan) {P : Device × Option Nat × Nat → Prop}
    {Q : Device → IOStatus → Prop} {d : Device} {i : Nat} {z : Zone}
    (kept : P (d, some i, sc.key z)) : (sc.keep d i z).Holds P Q := by
  unfold keep; split <;> exact kept

/-- An idle zone of a state that `Holding` describes is as the scan found it, and is not the
best, which is held. -/
theorem Holding.idle {sc : Scan} {d : Device} {score₀ k : Nat} {s : Device × Option Nat × Nat}
    {z : Zone} (held : sc.Holding d score₀ s) (found : s.1.zone .io k = some z)
    (free : z.busy = false) : d.ioZones[k]? = some z ∧ ∀ b, s.2.1 = some b → b ≠ k := by
  obtain ⟨d', best, score⟩ := s
  cases best with
  | none => exact ⟨held.1 ▸ found, by simp⟩
  | some b =>
    rw [held.1, Device.zone_setZones, getElem?_holdZones] at found
    obtain ⟨z₀, found₀, marked⟩ := Option.map_eq_some'.mp found
    by_cases same : b = k
    · subst same marked
      simp at free
    · simp only [Option.some.injEq, same, if_false] at marked
      exact ⟨marked ▸ found₀, fun b' h => by cases h; exact same⟩

/-- The inversion lemma of one pass, from a state that `Holding` describes: zone `k` is busy
or absent, or it is idle and not chosen, and the pass goes on unchanged; or it is idle and
chosen, and becomes the only zone held. -/
theorem body_eq {sc : Scan} {d : Device} {score₀ k : Nat} {s : Device × Option Nat × Nat}
    (held : sc.Holding d score₀ s) :
    ((∀ z, s.1.ioZones[k]? = some z → z.busy = true) ∧ sc.body k s = .next s) ∨
      ∃ z, s.1.ioZones[k]? = some z ∧ z.busy = false ∧
        ((sc.cand (z.setBusy true) && sc.beats (z.setBusy true) (s.2.1.bind (s.1.zone .io)) s.2.2)
            = false ∧ sc.body k s = .next s ∨
          (sc.cand (z.setBusy true) && sc.beats (z.setBusy true) (s.2.1.bind (s.1.zone .io)) s.2.2)
            = true ∧
            sc.body k s = sc.keep (d.setZones .io (holdZones d.ioZones (some k))) k (z.setBusy true)) := by
  obtain ⟨d', best, score⟩ := s
  cases hacq : d'.acquire .io k with
  | none => exact .inl ⟨fun z found => Device.acquire_eq_none.mp hacq z found, by simp [body, hacq]⟩
  | some d₁ =>
    obtain ⟨z, inList, free, rfl⟩ := Device.acquire_eq_some.mp hacq
    obtain ⟨found, other⟩ := held.idle inList free
    have bound : k < d'.ioZones.length := (List.getElem?_eq_some_iff.mp inList).1
    have inHand : (d'.setZone .io k (z.setBusy true)).zone .io k = some (z.setBusy true) :=
      Device.zone_setZone_self _ bound
    have bestSame :
        best.bind ((d'.setZone .io k (z.setBusy true)).zone .io) = best.bind (d'.zone .io) := by
      cases best with
      | none => rfl
      | some b => simp [Device.setZone_eq, Device.zone_eq, List.getElem?_set, Ne.symm (other b rfl)]
    refine .inr ⟨z, inList, free, ?_⟩
    simp only [body, hacq, inHand, bestSame]
    by_cases chosen :
        (sc.cand (z.setBusy true) && sc.beats (z.setBusy true) (best.bind (d'.zone .io)) score) = true
    · refine .inr ⟨chosen, ?_⟩
      rw [if_pos chosen]
      cases best with
      | none =>
        obtain ⟨rfl, rfl⟩ := held
        show sc.keep _ k _ = _
        rw [Device.setZone_eq, Device.zones_io, holdZones_take found]
      | some b =>
        obtain ⟨rfl, zb, foundBest, freeBest, -⟩ := held
        have apart := other b rfl
        have bestInHand : ((d.setZones .io (holdZones d.ioZones (some b))).setZone .io k
            (z.setBusy true)).zone .io b = some (zb.setBusy true) := by
          simp [Device.setZone_eq, Device.zone_eq, List.getElem?_set, Ne.symm apart,
            getElem?_holdZones_self foundBest]
        simp only [Device.checkRelease_of_busy bestInHand rfl, Zone.setBusy_setBusy,
          Zone.setBusy_of_busy freeBest]
        rw [Device.setZone_eq, Device.setZone_eq, Device.zones_setZones, Device.zones_setZones,
          Device.setZones_setZones, Device.setZones_setZones, holdZones_switch found foundBest apart]
    · refine .inl ⟨by simpa using chosen, ?_⟩
      rw [if_neg chosen, Device.checkRelease_held inList free]

/-- One pass of any scan keeps `Holding`, and never takes an early `return`: every
`CheckRelease` it makes is on a zone it holds. -/
theorem body_holding (sc : Scan) (d : Device) (score₀ i : Nat) (s : Device × Option Nat × Nat)
    (held : sc.Holding d score₀ s) :
    (sc.body i s).Holds (sc.Holding d score₀) (fun _ _ => False) := by
  rcases body_eq (k := i) held with ⟨-, pass⟩ | ⟨z, found, free, ⟨-, pass⟩ | ⟨chosen, pass⟩⟩
  · rw [pass]; exact held
  · rw [pass]; exact held
  · rw [pass]
    rw [Bool.and_eq_true] at chosen
    exact keep_holds sc ⟨rfl, z, (held.idle found free).1, free, chosen.1, rfl, _, _, chosen.2⟩

theorem run_holding (sc : Scan) (d : Device) (score₀ : Nat) :
    (sc.run d score₀).Holds (sc.Holding d score₀) (fun _ _ => False) :=
  forZones_holds _ _ sc.body (body_holding sc d score₀) _ _ ⟨rfl, rfl⟩

/-- How a scan ends: the device, the status, the score and the zone it holds. On an early
`return` the callee writes no output, and its callers then see no zone. -/
def exec (sc : Scan) (d : Device) (score₀ : Nat) : Device × IOStatus × Nat × Option Nat :=
  match sc.run d score₀ with
  | .next (d', best, score) => (d', .ok, score, best)
  | .brk (d', best, score) => (d', .ok, score, best)
  | .ret d' status => (d', status, score₀, none)

/-- Every scan returns OK, holding at most the zone it hands out. -/
theorem exec_holding (sc : Scan) (d : Device) (score₀ : Nat) :
    (sc.exec d score₀).2.1 = .ok ∧
      sc.Holding d score₀ ((sc.exec d score₀).1, (sc.exec d score₀).2.2.2,
        (sc.exec d score₀).2.2.1) := by
  have held := sc.run_holding d score₀
  unfold exec
  split <;> rename_i heq <;> rw [heq] at held <;> simp_all [Flow.Holds]

/-- The inversion lemma of every scan: it holds nothing and changes nothing, or it holds
one zone that was free and worth comparing, with that zone's score. -/
theorem exec_cases (sc : Scan) (d : Device) (score₀ : Nat) :
    sc.exec d score₀ = (d, .ok, score₀, none) ∨
      ∃ b z, d.ioZones[b]? = some z ∧ z.busy = false ∧ sc.cand (z.setBusy true) = true ∧
        (∃ c s, sc.beats (z.setBusy true) c s = true) ∧
        sc.exec d score₀ = (d.setZone .io b (z.setBusy true), .ok, sc.key (z.setBusy true), some b) := by
  obtain ⟨ok, held⟩ := exec_holding sc d score₀
  revert ok held
  generalize sc.exec d score₀ = r
  obtain ⟨d', status, score, best⟩ := r
  rintro rfl held
  cases best with
  | none =>
    obtain ⟨rfl, rfl⟩ := held
    exact .inl rfl
  | some b =>
    obtain ⟨rfl, z, found, free, cand, rfl, beats⟩ := held
    refine .inr ⟨b, z, found, free, cand, beats, ?_⟩
    rw [Device.setZone_eq, Device.zones_io, holdZones_take found]

/-- `keep` makes zone `i` the best. -/
theorem keep_best {sc : Scan} {d : Device} {i : Nat} {z : Zone} {s : Device × Option Nat × Nat}
    (kept : sc.keep d i z = .next s ∨ sc.keep d i z = .brk s) : s.2.1 = some i := by
  unfold keep at kept
  split at kept <;> rcases kept with kept | kept <;> cases kept <;> rfl

/-- A pass that goes on keeps a best zone once there is one, and a `break` comes right after a
new best. -/
theorem body_best {sc : Scan} {d : Device} {score₀ i : Nat} {s : Device × Option Nat × Nat}
    (held : sc.Holding d score₀ s) :
    match sc.body i s with
    | .next s' => s.2.1.isSome → s'.2.1.isSome
    | .brk s' => s'.2.1.isSome
    | .ret _ _ => True := by
  rcases body_eq (k := i) held with ⟨-, pass⟩ | ⟨z, -, -, ⟨-, pass⟩ | ⟨-, pass⟩⟩ <;> rw [pass]
  · exact id
  · exact id
  · by_cases halt : sc.halt (z.setBusy true) <;> simp [keep, halt]

/-- The first idle zone worth comparing becomes the best at once, when any zone beats no
best at all. -/
theorem body_of_cand (sc : Scan) (first : ∀ z score, sc.beats z none score = true) {d : Device}
    {i score : Nat} {z : Zone} (found : d.ioZones[i]? = some z) (free : z.busy = false)
    (cand : sc.cand (z.setBusy true) = true) :
    sc.body i (d, none, score) = sc.keep (d.setZone .io i (z.setBusy true)) i (z.setBusy true) := by
  have found' : d.zone .io i = some z := found
  have bound := (List.getElem?_eq_some_iff.mp found).1
  simp [body, Device.acquire_of_free found' free, Device.zone_setZone_self (k := .io) _ bound, cand,
    first]

/-- A scan in which any zone beats no best at all ends holding a zone whenever some io zone is
idle and worth comparing. -/
theorem exec_finds (sc : Scan) (first : ∀ z score, sc.beats z none score = true) {d : Device}
    {score₀ i : Nat} {z : Zone} (found : d.ioZones[i]? = some z) (free : z.busy = false)
    (cand : sc.cand (z.setBusy true) = true) : (sc.exec d score₀).2.2.2.isSome := by
  have loop : ∀ is s, sc.Holding d score₀ s → (s.2.1 = none → i ∈ is) →
      (forZones sc.body is s).Holds (fun s' => s'.2.1.isSome) (fun _ _ => False) := by
    intro is
    induction is with
    | nil =>
      intro s _ pending
      show s.2.1.isSome
      cases h : s.2.1 with
      | none => exact absurd (pending h) (List.not_mem_nil i)
      | some _ => rfl
    | cons j is ih =>
      intro s held pending
      have once := sc.body_holding d score₀ j s held
      have best := body_best (i := j) held
      simp only [forZones]
      split
      · rename_i s' pass
        rw [pass] at once best
        refine ih s' once fun none' => ?_
        obtain ⟨d', best', score⟩ := s
        cases best' with
        | some _ => simp [none'] at best
        | none =>
          obtain ⟨rfl, rfl⟩ := held
          rcases List.mem_cons.mp (pending rfl) with same | later
          · subst same
            rw [body_of_cand sc first found free cand] at pass
            simp [keep_best (.inl pass)] at none'
          · exact later
      · rename_i s' pass
        rw [pass] at best
        exact best
      · rename_i _ _ pass
        rw [pass] at once
        exact once.elim
  have ran : (sc.run d score₀).Holds (fun s' => s'.2.1.isSome) (fun _ _ => False) :=
    loop _ (d, none, score₀) ⟨rfl, rfl⟩
      (fun _ => List.mem_range.mpr (List.getElem?_eq_some_iff.mp found).1)
  unfold exec
  split <;> rename_i heq <;> rw [heq] at ran
  exacts [ran, ran, ran.elim]

/-! ### Which zone a scan picks -/

section Ranked

variable {K : Type} [LinearOrder K]

/-- Zone `z'` at `j` loses to the pick `z` at `b`: it ranks no higher, and strictly lower on
the side the tie rule gives to `b` (the zones before it when a tie keeps the earlier zone,
those after it when a tie goes to the later one). -/
def Loses (rank : Zone → K) (ties : Bool) (b : Nat) (z : Zone) (j : Nat) (z' : Zone) : Prop :=
  rank z' ≤ rank z ∧ ((if ties then b < j else j < b) → rank z' < rank z)

/-- Zone `b` of `zs`, found as `z`, is the pick among the idle zones that `ok` accepts. -/
def IsPick (zs : List Zone) (ok : Zone → Bool) (rank : Zone → K) (ties : Bool) (b : Nat)
    (z : Zone) : Prop :=
  zs[b]? = some z ∧ z.busy = false ∧ ok z = true ∧
    ∀ j z', zs[j]? = some z' → z'.busy = false → ok z' = true → Loses rank ties b z j z'

/-- A scan that picks by rank among the zones `ok` accepts: a zone beats no best at all when
it is acceptable, and beats a best when it is acceptable and ranks above it, or at least as
high when `ties` is set. A `break` comes only at a zone no acceptable zone outranks.
Acceptance and rank do not read the busy flag. -/
structure Ranked (sc : Scan) (score₀ : Nat) (ok : Zone → Bool) (rank : Zone → K) (ties : Bool) :
    Prop where
  ok_setBusy : ∀ z, ok (z.setBusy true) = ok z
  rank_setBusy : ∀ z, rank (z.setBusy true) = rank z
  first : ∀ z, (sc.cand z && sc.beats z none score₀) = ok z
  next : ∀ z b, (sc.cand z && sc.beats z (some b) (sc.key b)) =
    (ok z && if ties then decide (rank b ≤ rank z) else decide (rank b < rank z))
  halt_top : ∀ z z', sc.halt z = true → ok z' = true →
    rank z' ≤ rank z ∧ (ties = true → rank z' < rank z)

/-- What a ranked scan knows once it has passed the zones below `k`: none of them is idle and
acceptable, or the zone it holds is the pick among them. -/
def Seen (zs : List Zone) (ok : Zone → Bool) (rank : Zone → K) (ties : Bool) (k : Nat) :
    Option Nat → Prop
  | none => ∀ j z, j < k → zs[j]? = some z → z.busy = false → ok z = false
  | some b => b < k ∧ ∃ z, zs[b]? = some z ∧ z.busy = false ∧ ok z = true ∧
      ∀ j z', j < k → zs[j]? = some z' → z'.busy = false → ok z' = true → Loses rank ties b z j z'

variable {zs : List Zone} {ok : Zone → Bool} {rank : Zone → K} {ties : Bool}

/-- Passing zone `k` with the best unchanged: it is not idle and acceptable, or it loses. -/
theorem Seen.pass {k : Nat} {best : Option Nat} (seen : Seen zs ok rank ties k best)
    (passed : ∀ z, zs[k]? = some z → z.busy = false → ok z = true →
      ∃ b zb, best = some b ∧ zs[b]? = some zb ∧ Loses rank ties b zb k z) :
    Seen zs ok rank ties (k + 1) best := by
  cases best with
  | none =>
    intro j z below found free
    rcases Nat.lt_succ_iff_lt_or_eq.mp below with below | rfl
    · exact seen j z below found free
    · cases accepted : ok z
      · rfl
      · obtain ⟨b, -, none', -⟩ := passed z found free accepted
        cases none'
  | some b =>
    obtain ⟨before, zb, foundBest, freeBest, okBest, loses⟩ := seen
    refine ⟨by omega, zb, foundBest, freeBest, okBest, fun j z below found free accepted => ?_⟩
    rcases Nat.lt_succ_iff_lt_or_eq.mp below with below | rfl
    · exact loses j z below found free accepted
    · obtain ⟨b', zb', same, foundBest', lost⟩ := passed z found free accepted
      cases same
      rw [foundBest] at foundBest'
      cases foundBest'
      exact lost

/-- Zone `k` becomes the best when it is idle, acceptable and beats the best so far. -/
theorem Seen.take {k : Nat} {best : Option Nat} {z : Zone} (seen : Seen zs ok rank ties k best)
    (found : zs[k]? = some z) (free : z.busy = false) (accepted : ok z = true)
    (wins : ∀ b zb, best = some b → zs[b]? = some zb →
      if ties then rank zb ≤ rank z else rank zb < rank z) :
    Seen zs ok rank ties (k + 1) (some k) := by
  refine ⟨by omega, z, found, free, accepted, fun j z' below found' free' accepted' => ?_⟩
  rcases Nat.lt_succ_iff_lt_or_eq.mp below with below | rfl
  · cases best with
    | none => exact absurd (seen j z' below found' free') (by simp [accepted'])
    | some b =>
      obtain ⟨-, zb, foundBest, -, -, loses⟩ := seen
      obtain ⟨le, lt⟩ := loses j z' below found' free' accepted'
      have beaten := wins b zb rfl foundBest
      cases ties
      · exact ⟨le.trans (le_of_lt beaten), fun _ => lt_of_le_of_lt le beaten⟩
      · exact ⟨le.trans beaten, fun side => absurd side (by simp; omega)⟩
  · rw [found] at found'
    cases found'
    exact ⟨le_refl _, fun side => absurd side (by split <;> omega)⟩

theorem Seen.isPick {b : Nat} (seen : Seen zs ok rank ties zs.length (some b)) :
    ∃ z, IsPick zs ok rank ties b z := by
  obtain ⟨-, z, found, free, accepted, loses⟩ := seen
  exact ⟨z, found, free, accepted, fun j z' found' =>
    loses j z' (List.getElem?_eq_some_iff.mp found').1 found'⟩

theorem Seen.none_ok (seen : Seen zs ok rank ties zs.length none) :
    ∀ z ∈ zs, z.busy = false → ok z = false := by
  intro z mem free
  obtain ⟨j, found⟩ := List.getElem?_of_mem mem
  exact seen j z (List.getElem?_eq_some_iff.mp found).1 found free

/-- Two picks of the same zones are the same zone. -/
theorem IsPick.unique {b b' : Nat} {z z' : Zone} (pick : IsPick zs ok rank ties b z)
    (pick' : IsPick zs ok rank ties b' z') : b = b' := by
  have beats : ∀ {b b' : Nat} {z z' : Zone}, IsPick zs ok rank ties b z →
      IsPick zs ok rank ties b' z' → ¬ b < b' := by
    intro b b' z z' pick pick' before
    obtain ⟨le, lt⟩ := pick.2.2.2 b' z' pick'.1 pick'.2.1 pick'.2.2.1
    obtain ⟨le', lt'⟩ := pick'.2.2.2 b z pick.1 pick.2.1 pick.2.2.1
    cases ties
    · exact absurd (lt' (by simpa using before)) (not_lt_of_le le)
    · exact absurd (lt (by simpa using before)) (not_lt_of_le le')
  rcases lt_trichotomy b b' with before | same | after
  · exact absurd before (beats pick pick')
  · exact same
  · exact absurd after (beats pick' pick)

variable {sc : Scan} {score₀ : Nat}

/-- When a pass chooses the idle zone in hand: it is acceptable and beats the best so far. -/
theorem Ranked.chosen (ranked : sc.Ranked score₀ ok rank ties) {d d' : Device}
    {best : Option Nat} {score : Nat} (held : sc.Holding d score₀ (d', best, score)) (z : Zone) :
    (sc.cand (z.setBusy true) && sc.beats (z.setBusy true) (best.bind (d'.zone .io)) score) = true ↔
      ok z = true ∧ ∀ b zb, best = some b → d.ioZones[b]? = some zb →
        if ties then rank zb ≤ rank z else rank zb < rank z := by
  cases best with
  | none =>
    obtain ⟨-, rfl⟩ := held
    simp [ranked.first, ranked.ok_setBusy]
  | some b =>
    obtain ⟨rfl, zb, foundBest, -, -, rfl, -⟩ := held
    have inHand :
        (d.setZones .io (holdZones d.ioZones (some b))).zone .io b = some (zb.setBusy true) := by
      simp [Device.zone_eq, getElem?_holdZones_self foundBest]
    rw [Option.some_bind, inHand, ranked.next]
    simp only [ranked.ok_setBusy, ranked.rank_setBusy, Bool.and_eq_true, Option.some.injEq]
    constructor
    · rintro ⟨accepted, wins⟩
      refine ⟨accepted, fun b' zb' same foundBest' => ?_⟩
      subst same
      rw [foundBest] at foundBest'
      cases foundBest'
      cases ties <;> simpa using wins
    · rintro ⟨accepted, wins⟩
      refine ⟨accepted, ?_⟩
      have := wins b zb rfl foundBest
      cases ties <;> simpa using this

/-- One pass of a ranked scan: what it knows grows by zone `k`, and a `break` comes at the
pick of all the zones. -/
theorem Ranked.body_seen (ranked : sc.Ranked score₀ ok rank ties) {d : Device} {k : Nat}
    {s : Device × Option Nat × Nat} (held : sc.Holding d score₀ s)
    (seen : Seen d.ioZones ok rank ties k s.2.1) :
    match sc.body k s with
    | .next s' => Seen d.ioZones ok rank ties (k + 1) s'.2.1
    | .brk s' => ∃ b z, s'.2.1 = some b ∧ IsPick d.ioZones ok rank ties b z
    | .ret _ _ => True := by
  obtain ⟨d', best, score⟩ := s
  -- zone `k` is as in the input: the best held so far is below `k`
  have same : d'.ioZones[k]? = d.ioZones[k]? := by
    cases best with
    | none => rw [held.1]
    | some b =>
      rw [held.1, Device.ioZones_setZones_io]
      exact getElem?_holdZones_ne (Nat.ne_of_lt seen.1)
  rcases body_eq held with ⟨busy, pass⟩ | ⟨z, found, free, ⟨lost, pass⟩ | ⟨won, pass⟩⟩
  · rw [pass]
    exact seen.pass fun z found free _ => absurd (busy z (same ▸ found)) (by simp [free])
  · rw [pass]
    rw [same] at found
    refine seen.pass fun z' found' _ accepted => ?_
    rw [found] at found'
    cases found'
    have lost' := mt (ranked.chosen held z).mpr (by simpa using lost)
    push_neg at lost'
    obtain ⟨b, zb, rfl, foundBest, beaten⟩ := lost' accepted
    have before : b < k := seen.1
    refine ⟨b, zb, rfl, foundBest, ?_⟩
    cases ties
    · exact ⟨by simpa using beaten, fun side => absurd side (by simp; omega)⟩
    · have beaten' : rank z < rank zb := by simpa using beaten
      exact ⟨le_of_lt beaten', fun _ => beaten'⟩
  · rw [same] at found
    obtain ⟨accepted, wins⟩ := (ranked.chosen held z).mp won
    have next := seen.take found free accepted wins
    rw [pass]
    by_cases stop : sc.halt (z.setBusy true) = true
    · rw [keep, if_pos stop]
      refine ⟨k, z, rfl, ?_⟩
      obtain ⟨-, z', found', free', accepted', loses⟩ := next
      rw [found] at found'
      cases found'
      refine ⟨found, free', accepted', fun j z'' found'' free'' accepted'' => ?_⟩
      by_cases below : j < k + 1
      · exact loses j z'' below found'' free'' accepted''
      · obtain ⟨le, lt⟩ := ranked.halt_top _ z'' stop accepted''
        rw [ranked.rank_setBusy] at le lt
        exact ⟨le, fun side => by cases ties <;> simp_all; omega⟩
    · rw [keep, if_neg stop]
      exact next

/-- A ranked scan returns OK, holding the pick of the idle zones it accepts with its score,
or, when it accepts none, holding nothing and changing nothing. -/
theorem Ranked.exec_pick (ranked : sc.Ranked score₀ ok rank ties) (d : Device) :
    (sc.exec d score₀ = (d, .ok, score₀, none) ∧ ∀ z ∈ d.ioZones, z.busy = false → ok z = false) ∨
      ∃ b z, IsPick d.ioZones ok rank ties b z ∧
        sc.exec d score₀ = (d.setZone .io b (z.setBusy true), .ok, sc.key (z.setBusy true), some b) := by
  have loop := forZones_range'_holds
    (fun k s => sc.Holding d score₀ s ∧ Seen d.ioZones ok rank ties k s.2.1)
    (fun s => ∃ b z, s.2.1 = some b ∧ IsPick d.ioZones ok rank ties b z) (fun _ _ => False) sc.body
    (fun k s ⟨held, seen⟩ => by
      have holds := sc.body_holding d score₀ k s held
      have picks := ranked.body_seen held seen
      generalize sc.body k s = f at holds picks
      cases f with
      | next s' => exact ⟨holds, picks⟩
      | brk s' => exact picks
      | ret _ _ => exact holds)
    d.ioZones.length 0 (d, none, score₀)
    ⟨⟨rfl, rfl⟩, fun j _ below => absurd below (Nat.not_lt_zero j)⟩
  have final : Seen d.ioZones ok rank ties d.ioZones.length (sc.exec d score₀).2.2.2 ∨
      ∃ b z, (sc.exec d score₀).2.2.2 = some b ∧ IsPick d.ioZones ok rank ties b z := by
    unfold exec run
    rw [List.range_eq_range']
    split <;> rename_i heq <;> rw [heq] at loop
    · simpa using loop.imp_left And.right
    · simpa using loop.imp_left And.right
    · exact loop.elim
  rcases exec_cases sc d score₀ with same | ⟨b, z, found, -, -, -, held⟩
  · rw [same] at final
    refine .inl ⟨same, ?_⟩
    rcases final with none' | ⟨b, z, absurd', -⟩
    · exact Seen.none_ok none'
    · cases absurd'
  · rw [held] at final
    obtain ⟨z', pick⟩ : ∃ z', IsPick d.ioZones ok rank ties b z' :=
      final.elim Seen.isPick fun ⟨_, z', same, pick⟩ => by cases same; exact ⟨z', pick⟩
    cases pick.1.symm.trans found
    exact .inr ⟨b, _, pick, held⟩

/-- Two scans that pick by the same rank among the same zones end alike, whatever else tells
them apart (an early `break`, say). -/
theorem Ranked.exec_eq {sc' : Scan} (ranked : sc.Ranked score₀ ok rank ties)
    (ranked' : sc'.Ranked score₀ ok rank ties) (keys : sc.key = sc'.key) (d : Device) :
    sc.exec d score₀ = sc'.exec d score₀ := by
  have none_pick : ∀ {b z}, (∀ z ∈ d.ioZones, z.busy = false → ok z = false) →
      ¬ IsPick d.ioZones ok rank ties b z := fun none ⟨found, free, accepted, _⟩ => by
    simp [none _ (List.mem_iff_getElem?.mpr ⟨_, found⟩) free] at accepted
  rcases ranked.exec_pick d with ⟨same, none⟩ | ⟨b, z, pick, held⟩ <;>
    rcases ranked'.exec_pick d with ⟨same', none'⟩ | ⟨b', z', pick', held'⟩
  · rw [same, same']
  · exact absurd pick' (none_pick none)
  · exact absurd pick (none_pick none')
  · cases pick.unique pick'
    cases pick.1.symm.trans pick'.1
    rw [held, held', keys]

end Ranked

end Scan

end ZenFS