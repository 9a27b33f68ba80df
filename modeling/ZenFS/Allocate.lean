import ZenFS.Sweep
import ZenFS.Migrate

set_option autoImplicit false

/- `AllocateIOZone`, the allocator's entry point. Its `while` loop, which alternates
`GetActiveIOZoneTokenIfAvailable` with `FinishCheapestIOZone`, runs on fuel; `none` is a
call that does not return, on an open token or in that loop. -/
namespace ZenFS

/-- The loop `while (!got_token && !GetActiveIOZoneTokenIfAvailable())`, entered with
`got_token` false: the device once a token is taken, or the failing status of
`FinishCheapestIOZone`. -/
def finishLoop (be : Backend) : Nat → Device → Option (Device × IOStatus)
  | 0, _ => none
  | fuel + 1, d =>
    match d.getActiveIOZoneTokenIfAvailable with
    | (true, d') => some (d', .ok)
    | (false, d') =>
      match finishCheapestIOZone be d' with
      | (d'', status) => if !status.isOk then some (d'', status) else finishLoop be fuel d''

/-- The tail of `AllocateIOZone` once an open token is held and `allocated_zone` decided:
without a zone the open token goes back. -/
def allocateResult (d : Device) : Option Nat → Device × IOStatus × Option Nat
  | none => (d.putOpenIOZoneToken, .ok, none)
  | some z => (d, .ok, some z)

/-- Opening a new zone in `AllocateIOZone`: make sure of an active token, then take an empty
zone and give it the file's lifetime. -/
def allocateNewZone (be : Backend) (fuel : Nat) (fileLifetime : WriteLifeTimeHint)
    (gotToken : Bool) (d : Device) : Option (Device × IOStatus × Option Nat) :=
  (if gotToken then some (d, .ok) else finishLoop be fuel d).map fun (d₁, status) =>
    if !status.isOk then (d₁.putOpenIOZoneToken, status, none)
    else
      match allocateEmptyZone fileLifetime d₁ with
      | (d₂, status, zone) =>
        if !status.isOk then (d₂.putActiveIOZoneToken.putOpenIOZoneToken, status, none)
        else
          match zone with
          | some z => allocateResult (d₂.setLifetime z fileLifetime) (some z)
          | none => allocateResult d₂.putActiveIOZoneToken none

/-- The branch `best_diff >= LIFETIME_DIFF_COULD_BE_WORSE` of `AllocateIOZone`. -/
def allocateWorseMatch (be : Backend) (fuel : Nat) (fileLifetime : WriteLifeTimeHint)
    (bestDiff : Nat) (zone : Option Nat) (d : Device) : Option (Device × IOStatus × Option Nat) :=
  match d.getActiveIOZoneTokenIfAvailable with
  | (gotToken, d₁) =>
    match zone with
    | none => allocateNewZone be fuel fileLifetime gotToken d₁
    | some z =>
      if !gotToken && bestDiff = lifetimeDiffCouldBeWorse then some (allocateResult d₁ (some z))
      else
        match d₁.checkRelease .io z with
        | .ok d₂ => allocateNewZone be fuel fileLifetime gotToken d₂
        | .error status =>
          let d₂ := d₁.putOpenIOZoneToken
          some (if gotToken then d₂.putActiveIOZoneToken else d₂, status, none)

/-- `AllocateIOZone(file_lifetime, io_type, out_zone)`. `minCapacity` is the default argument
of `GetBestOpenZoneMatch`, declared in the header, which is not under src/. -/
def allocateIOZone (be : Backend) (fuel minCapacity : Nat) (fileLifetime : WriteLifeTimeHint)
    (ioType : IOType) (d : Device) : Option (Device × IOStatus × Option Nat) :=
  if !d.getZoneDeferredStatus.isOk then some (d, d.getZoneDeferredStatus, none)
  else
    match (if ioType ≠ .kWAL then applyFinishThreshold be d else (d, .ok)) with
    | (d₁, status) =>
      if !status.isOk then some (d₁, status, none)
      else
        (d₁.waitForOpenIOZoneToken (decide (ioType = .kWAL))).bind fun d₂ =>
          match getBestOpenZoneMatch fileLifetime minCapacity d₂ with
          | (d₃, status, bestDiff, zone) =>
            if !status.isOk then some (d₃.putOpenIOZoneToken, status, none)
            else if lifetimeDiffCouldBeWorse ≤ bestDiff then
              allocateWorseMatch be fuel fileLifetime bestDiff zone d₃
            else some (allocateResult d₃ zone)

end ZenFS

namespace ZenFS

/-- The loop rule of the finish loop of `AllocateIOZone`: `P` holds between passes, and `Q`
when the loop ends, with a token or with the status of a failed `FinishCheapestIOZone`. -/
theorem finishLoop_holds (be : Backend) (P : Device → Prop) (Q : Device → IOStatus → Prop)
    (got : ∀ d, P d → d.activeIOZones < d.maxNrActiveIOZones →
      Q (d.setActiveIOZones (d.activeIOZones + 1)) .ok)
    (finished : ∀ d, P d → ¬d.activeIOZones < d.maxNrActiveIOZones →
      (finishCheapestIOZone be d).2.isOk = true → P (finishCheapestIOZone be d).1)
    (failed : ∀ d, P d → ¬d.activeIOZones < d.maxNrActiveIOZones →
      (finishCheapestIOZone be d).2.isOk = false →
      Q (finishCheapestIOZone be d).1 (finishCheapestIOZone be d).2) :
    ∀ (fuel : Nat) (d : Device) (r : Device × IOStatus), P d → finishLoop be fuel d = some r →
      Q r.1 r.2 := by
  intro fuel
  induction fuel with
  | zero => intro d r _ run; cases run
  | succ fuel ih =>
    intro d r kept run
    unfold finishLoop Device.getActiveIOZoneTokenIfAvailable at run
    by_cases below : d.activeIOZones < d.maxNrActiveIOZones
    · simp only [below, if_true, Option.some.injEq] at run
      rw [← run]
      exact got d kept below
    · simp only [below, if_false] at run
      cases status : (finishCheapestIOZone be d).2.isOk
      · have done : r = finishCheapestIOZone be d := by
          rw [← Option.some.injEq]; rw [← run]; simp [status]
        rw [done]
        exact failed d kept below status
      · exact ih _ r (finished d kept below status) (by simpa [status] using run)

/-- Opening a new zone: the token loop fails and the open token goes back, or the active token
goes back as well when there is no empty zone, or an idle empty zone is taken with the file's
lifetime. -/
theorem allocateNewZone_cases {be : Backend} {fuel : Nat} {L : WriteLifeTimeHint}
    {gotToken : Bool} {d : Device} {r : Device × IOStatus × Option Nat}
    (run : allocateNewZone be fuel L gotToken d = some r) :
    ∃ d₁ status, (if gotToken then some (d, .ok) else finishLoop be fuel d) = some (d₁, status) ∧
      (status.isOk = false ∧ r.1 = d₁.putOpenIOZoneToken ∨
        status.isOk = true ∧ (r.1 = d₁.putActiveIOZoneToken.putOpenIOZoneToken ∨
          ∃ b z, d₁.ioZones[b]? = some z ∧ z.busy = false ∧ z.wp = z.start ∧
            r.1 = d₁.setZone .io b ({ z with lifetime := L }.setBusy true))) := by
  unfold allocateNewZone at run
  obtain ⟨⟨d₁, status⟩, first, rfl⟩ := Option.map_eq_some'.mp run
  refine ⟨d₁, status, first, ?_⟩
  cases success : status.isOk
  · exact .inl ⟨rfl, by simp [success]⟩
  refine .inr ⟨rfl, ?_⟩
  simp only [success, Bool.not_true, Bool.false_eq_true, if_false]
  rcases allocateEmptyZone_cases L d₁ with same | ⟨b, z, found, free, empty, held⟩
  · exact .inl (by rw [same]; rfl)
  · refine .inr ⟨b, z, found, free, empty, ?_⟩
    rw [held]
    exact Device.setLifetime_setZone _ _ (List.getElem?_eq_some_iff.mp found).1

/-- The branch of a worse match, with the active token it tried to get: it opens a new zone,
after releasing the best match if there is one, keeps the best match, or gives its tokens back
when that release fails. -/
theorem allocateWorseMatch_cases {be : Backend} {fuel : Nat} {L : WriteLifeTimeHint}
    {bestDiff : Nat} {zone : Option Nat} {d : Device} {r : Device × IOStatus × Option Nat}
    (run : allocateWorseMatch be fuel L bestDiff zone d = some r) :
    ∃ gotToken d₁, d.getActiveIOZoneTokenIfAvailable = (gotToken, d₁) ∧
      ((∃ d₂, (d₂ = d₁ ∨ ∃ z, d₁.checkRelease .io z = .ok d₂) ∧
          allocateNewZone be fuel L gotToken d₂ = some r) ∨
        r.1 = d₁ ∨
        r.1 = if gotToken then d₁.putOpenIOZoneToken.putActiveIOZoneToken else d₁.putOpenIOZoneToken) := by
  unfold allocateWorseMatch at run
  generalize d.getActiveIOZoneTokenIfAvailable = got at run ⊢
  obtain ⟨gotToken, d₁⟩ := got
  refine ⟨gotToken, d₁, rfl, ?_⟩
  cases zone with
  | none => exact .inl ⟨d₁, .inl rfl, run⟩
  | some z =>
    dsimp only at run
    split at run
    · exact .inr (.inl (by cases run; rfl))
    split at run
    · exact .inl ⟨_, .inr ⟨z, ‹_›⟩, run⟩
    · exact .inr (.inr (by cases run; rfl))

/-- The inversion lemma of `AllocateIOZone`: it returns at the deferred status, or from the
device the sweep left, at the sweep's status or once it holds an open token; then from the
device `GetBestOpenZoneMatch` left, with the token back, by the branch of a worse match, or
with the best match. -/
theorem allocateIOZone_cases {be : Backend} {fuel m : Nat} {L : WriteLifeTimeHint}
    {ioType : IOType} {d : Device} {r : Device × IOStatus × Option Nat}
    (run : allocateIOZone be fuel m L ioType d = some r) :
    r.1 = d ∨ ∃ d₁, (d₁ = d ∨ d₁ = (applyFinishThreshold be d).1) ∧
      (r.1 = d₁ ∨ ∃ d₃ status bestDiff zone,
        getBestOpenZoneMatch L m (d₁.setOpenIOZones (d₁.openIOZones + 1)) =
          (d₃, status, bestDiff, zone) ∧
        (r.1 = d₃.putOpenIOZoneToken ∨ allocateWorseMatch be fuel L bestDiff zone d₃ = some r ∨
          r = allocateResult d₃ zone)) := by
  unfold allocateIOZone at run
  split at run
  · exact .inl (by cases run; rfl)
  generalize swept : (if ioType ≠ .kWAL then applyFinishThreshold be d else (d, .ok)) = sweep at run
  obtain ⟨d₁, status⟩ := sweep
  refine .inr ⟨d₁, ?_, ?_⟩
  · split at swept
    · exact .inr (by rw [swept])
    · exact .inl (by cases swept; rfl)
  dsimp only at run
  split at run
  · exact .inl (by cases run; rfl)
  obtain ⟨d₂, waited, run⟩ := Option.bind_eq_some.mp run
  obtain ⟨-, rfl⟩ := Device.waitForOpenIOZoneToken_eq_some.mp waited
  generalize getBestOpenZoneMatch L m _ = best at run
  obtain ⟨d₃, status₃, bestDiff, zone⟩ := best
  refine .inr ⟨d₃, status₃, bestDiff, zone, rfl, ?_⟩
  dsimp only at run
  split at run
  · exact .inl (by cases run; rfl)
  split at run
  · exact .inr (.inl run)
  · exact .inr (.inr (Option.some.inj run).symm)

end ZenFS
