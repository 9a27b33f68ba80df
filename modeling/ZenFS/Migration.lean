import ZenFS.System

set_option autoImplicit false

/- Migration targets as the wear-leveling and garbage-collection threads see them: the lifetime
of the zone a take hands out, and mutual exclusion on `migrating_` over every interleaving of
threads calling `TakeMigrateZone`, `GetMigrateTargetZone` and `ReleaseMigrateZone`. -/
namespace ZenFS

theorem Device.waitForOpenIOZoneToken_migrating {prioritized : Bool} {d d' : Device}
    (waited : d.waitForOpenIOZoneToken prioritized = some d') : d'.migrating = d.migrating := by
  obtain ⟨-, rfl⟩ := waitForOpenIOZoneToken_eq_some.mp waited
  rfl

@[simp] theorem Device.release_migrating (d : Device) (k : ZoneKind) (i : Nat) :
    (d.release k i).migrating = d.migrating := by
  unfold release
  split <;> simp

/-! ### The zone a take hands out -/

/-- `GetMigrateTargetZone` hands out an empty zone with the file's lifetime, or one whose
lifetime is not a bad match. -/
theorem getMigrateTargetZone_lifetime {L : WriteLifeTimeHint} {m : Nat} {d d' : Device}
    {status : IOStatus} {b : Nat} (got : getMigrateTargetZone L m d = some (d', status, some b)) :
    ∃ z, d'.ioZones[b]? = some z ∧
      (z.wp = z.start ∧ z.lifetime = L ∨ getLifeTimeDiff z.lifetime L ≠ lifetimeDiffNotGood) := by
  obtain ⟨-, d₁, -, run⟩ := getMigrateTargetZone_eq_some got
  have openPhase : ∀ d₂, migrateOpenPhase L m d₂ = (d', status, some b) →
      ∃ z, d'.ioZones[b]? = some z ∧
        (z.wp = z.start ∧ z.lifetime = L ∨ getLifeTimeDiff z.lifetime L ≠ lifetimeDiffNotGood) := by
    intro d₂ phase
    rcases migrateOpenPhase_cases L m d₂ with none | ⟨c, z, found, -, -, -, -, good, found'⟩
    · rw [none] at phase; cases phase
    · rw [found'] at phase
      cases phase
      exact ⟨z.setBusy true, by simp [Device.setZone_eq, (List.getElem?_eq_some_iff.mp found).1],
        .inr (by simpa using good)⟩
  rcases getMigrateTargetZoneWithToken_cases L m d₁ with
    ⟨t, z, found, -, empty, -, kept⟩ | phase | phase
  · rw [kept] at run
    cases run
    exact ⟨{ z with lifetime := L }.setBusy true,
      by simp [Device.setZone_eq, (List.getElem?_eq_some_iff.mp found).1], .inl ⟨by simpa using empty, by simp⟩⟩
  · exact openPhase d₁ (phase ▸ run.symm)
  · exact openPhase _ (phase ▸ run.symm)

/-- An empty io zone taken as a migration target for short-lived data, written to, given back,
and with its byte live. -/
def shortLivedDevice : Device :=
  ((releaseMigrateZone (some 0)
    ((getMigrateTargetZoneWithToken .wlthShort 0
      ((freshDevice.setMigrating true).setOpenIOZones 1)).1.appendOnce .io 0 1)).1).setUsedCapacity
    .io 0 1

theorem reachable_shortLivedDevice :
    Reachable (.free fun _ => True) (Step (.free fun _ => True)) shortLivedDevice :=
  (((reachable_freshDevice trivial).step (@Step.getMigrateTargetZone _ .wlthShort 0 _ _ rfl)).appendOnce
    (by decide) (by decide) trivial |>.step (.releaseMigrateZone (some 0) _)).setUsedCapacity
    (by decide)

/-- `TakeMigrateZone` for long-lived data hands out an io zone with live short-lived data:
`GetBestOpenZoneMatch` starts from `LIFETIME_DIFF_NOT_GOOD` and accepts a zone at that
distance. -/
theorem takeMigrateZone_hands_out_bad_lifetime :
    Reachable (.free fun _ => True) (Step (.free fun _ => True)) shortLivedDevice ∧
      shortLivedDevice.ioZones[0]?.map (fun z => (z.wp - z.start, z.usedCapacity, z.lifetime)) =
        some (1, 1, .wlthShort) ∧
      (takeMigrateZone .wlthLong 0 shortLivedDevice).map (·.2) = some (.ok, some 0) ∧
      getLifeTimeDiff .wlthShort .wlthLong = lifetimeDiffNotGood :=
  ⟨reachable_shortLivedDevice, by decide, by decide, by decide⟩

/-! ### `migrating_` over the calls that take and give back a target -/

theorem migrating_migrateOpenPhase (L : WriteLifeTimeHint) (m : Nat) {d : Device}
    (migrating : d.migrating = true) :
    (migrateOpenPhase L m d).1.migrating = (migrateOpenPhase L m d).2.2.isSome := by
  rcases migrateOpenPhase_cases L m d with same | ⟨b, z, -, -, -, -, -, -, same⟩ <;>
    rw [same] <;> simp [migrating]

theorem migrating_getMigrateTargetZoneWithToken (L : WriteLifeTimeHint) (m : Nat) {d : Device}
    (migrating : d.migrating = true) :
    (getMigrateTargetZoneWithToken L m d).1.migrating =
      (getMigrateTargetZoneWithToken L m d).2.2.isSome := by
  rcases getMigrateTargetZoneWithToken_cases L m d with ⟨t, z, -, -, -, -, same⟩ | same | same <;>
    rw [same]
  · simp [migrating]
  · exact migrating_migrateOpenPhase L m migrating
  · exact migrating_migrateOpenPhase L m (by simpa using migrating)

/-- A `TakeMigrateZone` that returns found `migrating_` clear, and leaves it set exactly when
it hands out a zone. -/
theorem takeMigrateZone_migrating {L : WriteLifeTimeHint} {m : Nat} {d : Device}
    {r : Device × IOStatus × Option Nat} (taken : takeMigrateZone L m d = some r) :
    d.migrating = false ∧ r.1.migrating = r.2.2.isSome := by
  obtain ⟨idle, rfl⟩ := takeMigrateZone_eq_some taken
  refine ⟨idle, ?_⟩
  rcases takeMigrateZoneLocked_cases L m (d.setMigrating true) with
    same | ⟨b, z, -, -, -, -, -, same⟩ <;> rw [same] <;> simp

/-- The same for `GetMigrateTargetZone`. -/
theorem getMigrateTargetZone_migrating {L : WriteLifeTimeHint} {m : Nat} {d : Device}
    {r : Device × IOStatus × Option Nat} (got : getMigrateTargetZone L m d = some r) :
    d.migrating = false ∧ r.1.migrating = r.2.2.isSome := by
  obtain ⟨idle, d₁, waited, rfl⟩ := getMigrateTargetZone_eq_some got
  exact ⟨idle, migrating_getMigrateTargetZoneWithToken L m
    (by rw [Device.waitForOpenIOZoneToken_migrating waited]; rfl)⟩

/-! ### Threads -/

/-- Where a thread stands with the migration target: outside the calls, inside
`GetMigrateTargetZone` after `migrating_ = true` and waiting for an open token (with
`migrate_zone_mtx_` held), or holding the zone a take handed out. -/
inductive MigrateThread where
  | idle
  | waiting
  | holding (zone : Nat)
  deriving DecidableEq, Repr

/-- The thread's state after a take that hands out `zone`. -/
def MigrateThread.ofTaken : Option Nat → MigrateThread
  | none => .idle
  | some zone => .holding zone

@[simp] theorem MigrateThread.ofTaken_eq_idle (zone : Option Nat) :
    MigrateThread.ofTaken zone = .idle ↔ zone = none := by
  cases zone <;> simp [MigrateThread.ofTaken]

/-- The device and a state per thread. -/
structure Migration (ι : Type) where
  device : Device
  thread : ι → MigrateThread

/-- No call holds `migrate_zone_mtx_`: no thread waits inside `GetMigrateTargetZone`. -/
def Migration.Quiet {ι : Type} (s : Migration ι) : Prop := ∀ t, s.thread t ≠ .waiting

/-- The invariant: at most one thread is inside a migration, and `migrating_` is set exactly
while one is. -/
structure Migration.Exclusive {ι : Type} (s : Migration ι) : Prop where
  single : ∀ t u, s.thread t ≠ .idle → s.thread u ≠ .idle → t = u
  migrating : s.device.migrating = true ↔ ∃ t, s.thread t ≠ .idle

theorem Migration.Exclusive.others_idle {ι : Type} {s : Migration ι} (inv : s.Exclusive) {t : ι}
    (busy : s.thread t ≠ .idle) (u : ι) (other : u ≠ t) : s.thread u = .idle := by
  by_contra active
  exact other (inv.single u t active busy)

theorem Migration.Exclusive.all_idle {ι : Type} {s : Migration ι} (inv : s.Exclusive)
    (clear : s.device.migrating = false) (u : ι) : s.thread u = .idle := by
  by_contra active
  have := inv.migrating.mpr ⟨u, active⟩
  simp [clear] at this

variable {ι : Type} [DecidableEq ι]

/-- One step of the threads. A take or a release runs under `migrate_zone_mtx_`, so only while
no `GetMigrateTargetZone` waits for its token; a take blocked on `migrating_` has no step.
`GetMigrateTargetZone` is two steps, around its wait for an open token. Any other thread may
change the device but not `migrating_`, which only these calls write. -/
inductive MigrateStep : Migration ι → Migration ι → Prop
  | take {s : Migration ι} {t : ι} {L : WriteLifeTimeHint} {m : Nat}
      {r : Device × IOStatus × Option Nat} :
      s.thread t = .idle → s.Quiet → takeMigrateZone L m s.device = some r →
      MigrateStep s ⟨r.1, Function.update s.thread t (.ofTaken r.2.2)⟩
  | enterGet {s : Migration ι} {t : ι} :
      s.thread t = .idle → s.Quiet → s.device.migrating = false →
      MigrateStep s ⟨s.device.setMigrating true, Function.update s.thread t .waiting⟩
  | finishGet {s : Migration ι} {t : ι} {L : WriteLifeTimeHint} {m : Nat} {d : Device} :
      s.thread t = .waiting → s.device.waitForOpenIOZoneToken true = some d →
      MigrateStep s ⟨(getMigrateTargetZoneWithToken L m d).1,
        Function.update s.thread t (.ofTaken (getMigrateTargetZoneWithToken L m d).2.2)⟩
  | release {s : Migration ι} {t : ι} {zone : Nat} :
      s.thread t = .holding zone → s.Quiet →
      MigrateStep s ⟨(releaseMigrateZone (some zone) s.device).1, Function.update s.thread t .idle⟩
  | other {s : Migration ι} {d : Device} :
      d.migrating = s.device.migrating → MigrateStep s ⟨d, s.thread⟩

/-- A `GetMigrateTargetZone` that returns, with no other thread in between, is its two steps. -/
theorem getMigrateTargetZone_steps {s : Migration ι} {t : ι} {L : WriteLifeTimeHint} {m : Nat}
    {r : Device × IOStatus × Option Nat} (idle : s.thread t = .idle) (quiet : s.Quiet)
    (got : getMigrateTargetZone L m s.device = some r) :
    ∃ s₁, MigrateStep s s₁ ∧
      MigrateStep s₁ ⟨r.1, Function.update s.thread t (.ofTaken r.2.2)⟩ := by
  obtain ⟨free, d, waited, rfl⟩ := getMigrateTargetZone_eq_some got
  refine ⟨_, .enterGet idle quiet free, ?_⟩
  have finished := MigrateStep.finishGet (t := t) (L := L) (m := m)
    (s := ⟨s.device.setMigrating true, Function.update s.thread t .waiting⟩)
    (by simp) waited
  simpa using finished

/-- The states the threads reach from a successful `Open`, every thread idle. -/
inductive MigrationReachable : Migration ι → Prop
  | opened {readonly exclusive : Bool} {bd : BackendDevice} {cfg : Config} {d : Device} :
      openDevice readonly exclusive bd cfg = (d, .ok) → MigrationReachable ⟨d, fun _ => .idle⟩
  | step {s s' : Migration ι} : MigrationReachable s → MigrateStep s s' → MigrationReachable s'

/-- A thread that is the only one inside a migration moves to `x`, with `migrating_` set
exactly when `x` is inside one. -/
theorem Migration.Exclusive.update {s : Migration ι} {t : ι}
    (others : ∀ u, u ≠ t → s.thread u = .idle) (d : Device) (x : MigrateThread)
    (migrating : d.migrating = true ↔ x ≠ .idle) :
    Migration.Exclusive ⟨d, Function.update s.thread t x⟩ := by
  have only : ∀ u, Function.update s.thread t x u ≠ .idle → u = t := by
    intro u active
    by_contra other
    simp [Function.update_noteq other, others u other] at active
  refine ⟨fun u v hu hv => (only u hu).trans (only v hv).symm, ?_⟩
  rw [migrating]
  constructor
  · intro active; exact ⟨t, by simpa using active⟩
  · rintro ⟨u, active⟩
    have := only u active
    subst this
    simpa using active

theorem Migration.Exclusive.step {s s' : Migration ι} (inv : s.Exclusive) (next : MigrateStep s s') :
    s'.Exclusive := by
  cases next with
  | @take t L m r idle _ taken =>
    obtain ⟨clear, migrating⟩ := takeMigrateZone_migrating taken
    exact Migration.Exclusive.update (fun u _ => inv.all_idle clear u) _ _
      (by rw [migrating]; cases r.2.2 <;> simp [MigrateThread.ofTaken])
  | @enterGet t idle _ clear =>
    exact Migration.Exclusive.update (fun u _ => inv.all_idle clear u) _ _ (by simp)
  | @finishGet t L m d waiting waited =>
    have set : d.migrating = true := by
      rw [Device.waitForOpenIOZoneToken_migrating waited]
      exact inv.migrating.mpr ⟨t, by simp [waiting]⟩
    exact Migration.Exclusive.update (inv.others_idle (by simp [waiting])) _ _
      (by rw [migrating_getMigrateTargetZoneWithToken L m set]
          cases (getMigrateTargetZoneWithToken L m d).2.2 <;> simp [MigrateThread.ofTaken])
  | @release t zone holding _ =>
    exact Migration.Exclusive.update (inv.others_idle (by simp [holding])) _ _
      (by simp [releaseMigrateZone_device])
  | other same => exact ⟨inv.single, by rw [same]; exact inv.migrating⟩

theorem Migration.Exclusive.reachable {s : Migration ι} (reach : MigrationReachable s) :
    s.Exclusive := by
  induction reach with
  | opened success =>
    obtain ⟨_, _, _, _, rfl⟩ := openDevice_ok success
    exact ⟨fun _ _ active => absurd rfl active, by simp⟩
  | step _ next inv => exact inv.step next

/-- Mutual exclusion on migration targets: in every state the threads reach, at most one holds
a target; while no call is in progress `migrating_` is set exactly when one does; and a take
that hands out nothing leaves `migrating_` clear. -/
theorem migration_exclusive {s : Migration ι} (reach : MigrationReachable s) :
    (∀ t u zone zone', s.thread t = .holding zone → s.thread u = .holding zone' → t = u) ∧
      (s.Quiet → (s.device.migrating = true ↔ ∃ t zone, s.thread t = .holding zone)) ∧
      (∀ L m d (r : Device × IOStatus × Option Nat), takeMigrateZone L m d = some r →
        r.2.2 = none → r.1.migrating = false) ∧
      (∀ L m d (r : Device × IOStatus × Option Nat), getMigrateTargetZone L m d = some r →
        r.2.2 = none → r.1.migrating = false) := by
  have inv := Migration.Exclusive.reachable reach
  refine ⟨fun t u _ _ ht hu => inv.single t u (by simp [ht]) (by simp [hu]), fun quiet => ?_,
    fun L m d r taken nothing => ?_, fun L m d r got nothing => ?_⟩
  · rw [inv.migrating]
    constructor
    · rintro ⟨t, active⟩
      cases held : s.thread t with
      | idle => exact absurd held active
      | waiting => exact absurd held (quiet t)
      | holding zone => exact ⟨t, zone, held⟩
    · rintro ⟨t, zone, held⟩
      exact ⟨t, by simp [held]⟩
  · simpa [nothing] using (takeMigrateZone_migrating taken).2
  · simpa [nothing] using (getMigrateTargetZone_migrating got).2

/-- Two threads on a fresh device, the first holding the target its `GetMigrateTargetZone`
handed out. -/
def heldMigration : Migration (Fin 2) :=
  ⟨(getMigrateTargetZoneWithToken .wlthShort 0 ((freshDevice.setMigrating true).setOpenIOZones 1)).1,
    Function.update (fun _ => .idle) 0
      (.ofTaken (getMigrateTargetZoneWithToken .wlthShort 0
        ((freshDevice.setMigrating true).setOpenIOZones 1)).2.2)⟩

theorem migration_exclusive_held :
    (∀ t u zone zone', heldMigration.thread t = .holding zone →
        heldMigration.thread u = .holding zone' → t = u) ∧
      (heldMigration.Quiet →
        (heldMigration.device.migrating = true ↔ ∃ t zone, heldMigration.thread t = .holding zone)) ∧
      (∀ L m d (r : Device × IOStatus × Option Nat), takeMigrateZone L m d = some r →
        r.2.2 = none → r.1.migrating = false) ∧
      (∀ L m d (r : Device × IOStatus × Option Nat), getMigrateTargetZone L m d = some r →
        r.2.2 = none → r.1.migrating = false) := by
  obtain ⟨s₁, first, second⟩ := getMigrateTargetZone_steps (s := ⟨freshDevice, fun _ => .idle⟩)
    (t := (0 : Fin 2)) (L := .wlthShort) (m := 0) rfl (fun _ => by simp) rfl
  exact migration_exclusive (((MigrationReachable.opened
    (openDevice_freshBackend 14 14 4096 32 defaultConfig (by decide))).step first).step second)

end ZenFS
