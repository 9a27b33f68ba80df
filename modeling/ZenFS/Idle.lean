import ZenFS.Basic

set_option autoImplicit false

/- `ZonedBlockDevice::JudgeQpsTrend`, the idle detector that gates wear leveling. It samples the
write and read QPS twice, keeps the largest samples of a window, raises its idle thresholds
halfway to the window's maxima after five failed verdicts, puts them back to 76 and 5000 after
five successful ones, and answers 1 when the device is idle enough to wear-level. The QPS meters
and the worker that counts the verdicts are not under src/: the samples and the counts are
inputs. -/
namespace ZenFS

/-- The idle detector's members of `ZonedBlockDevice`. The header that declares them is not under
src/; they hold the `uint64_t` samples they are compared with and assigned from. -/
structure QpsWindow where
  windowQpsWriteMax : Nat
  windowQpsReadMax : Nat
  idleQpsFailCount : Nat
  idleQpsSuccessiveCount : Nat
  idleQpsWriteThreshold : Nat
  idleQpsReadThreshold : Nat
  deriving DecidableEq, Repr

namespace QpsWindow

/-- Modelled from the spec: the members when the device is made, an empty window, no verdict
counted, and the configured idle thresholds. -/
def initial (writeThreshold readThreshold : Nat) : QpsWindow :=
  ⟨0, 0, 0, 0, writeThreshold, readThreshold⟩

/-- A window maximum after the two samples of a call: the larger sample, if it is larger. -/
def windowMax (current qps1 qps2 : Nat) : Nat :=
  if qps2 > qps1 then if qps2 > current then qps2 else current
  else if qps1 > current then qps1 else current

/-- The first part of `JudgeQpsTrend`: both window maxima take in the call's samples. -/
@[simps] def record (s : QpsWindow) (w1 r1 w2 r2 : Nat) : QpsWindow :=
  { s with
    windowQpsWriteMax := windowMax s.windowQpsWriteMax w1 w2
    windowQpsReadMax := windowMax s.windowQpsReadMax r1 r2 }

/-- An idle threshold after five failed verdicts: halfway to the window maximum, a `uint64_t`
sum, when that is larger. -/
def raiseThreshold (threshold windowMax : Nat) : Nat :=
  if windowMax > threshold then add64 threshold windowMax / 2 else threshold

/-- After five failed verdicts: both thresholds raised, the window and the count cleared. -/
def raise (s : QpsWindow) : QpsWindow :=
  if s.idleQpsFailCount ≥ 5 then
    { s with
      idleQpsWriteThreshold := raiseThreshold s.idleQpsWriteThreshold s.windowQpsWriteMax
      idleQpsReadThreshold := raiseThreshold s.idleQpsReadThreshold s.windowQpsReadMax
      windowQpsWriteMax := 0
      windowQpsReadMax := 0
      idleQpsFailCount := 0 }
  else s

/-- After five successful verdicts with a threshold off its default: both back to 76 and
5000. -/
def restore (s : QpsWindow) : QpsWindow :=
  if (s.idleQpsWriteThreshold ≠ 76 ∨ s.idleQpsReadThreshold ≠ 5000) ∧
      s.idleQpsSuccessiveCount ≥ 5 then
    { s with idleQpsWriteThreshold := 76, idleQpsReadThreshold := 5000, idleQpsSuccessiveCount := 0 }
  else s

/-- What the wear-leveling worker, outside src/, does between calls: it sets the counts of
failed and of successful verdicts. -/
@[simps] def setCounts (s : QpsWindow) (fail successive : Nat) : QpsWindow :=
  { s with idleQpsFailCount := fail, idleQpsSuccessiveCount := successive }

end QpsWindow

/-- The verdict of `JudgeQpsTrend` from the thresholds and the samples `qps_write1`,
`qps_read1`, `qps_write2`, `qps_read2`: 1 when the device is idle enough to wear-level. -/
def qpsVerdict (writeThreshold readThreshold w1 r1 w2 r2 : Nat) : Nat :=
  if w1 < writeThreshold ∧ w2 < writeThreshold then
    if r1 < readThreshold ∧ r2 < readThreshold then 1
    else if r2 > r1 then 0
    else if mul64 100 (sub64 r1 r2) > mul64 readThreshold 5 then 1
    else 0
  else if w2 > w1 then 0
  else if r1 < readThreshold ∧ r2 < readThreshold then
    if mul64 100 (sub64 w1 w2) > mul64 writeThreshold 5 then 1 else 0
  else 0

/-- `ZonedBlockDevice::JudgeQpsTrend`, from the samples its two sleeps end with: the verdict and
the members it leaves. -/
def judgeQpsTrend (s : QpsWindow) (w1 r1 w2 r2 : Nat) : Nat × QpsWindow :=
  let s' := ((s.record w1 r1 w2 r2).raise).restore
  (qpsVerdict s'.idleQpsWriteThreshold s'.idleQpsReadThreshold w1 r1 w2 r2, s')

/-- The states of the idle detector of a device made with the idle thresholds `writeThreshold`
and `readThreshold`, when every QPS sample is below `limit`: calls of `JudgeQpsTrend` and the
worker's counts, in any order. The lists hold the write and the read samples taken since the
window was last cleared. -/
inductive QpsReachable (writeThreshold readThreshold limit : Nat) :
    QpsWindow → List Nat → List Nat → Prop
  | init : QpsReachable writeThreshold readThreshold limit
      (.initial writeThreshold readThreshold) [] []
  | judge {s : QpsWindow} {ws rs : List Nat} {w1 r1 w2 r2 : Nat} :
      QpsReachable writeThreshold readThreshold limit s ws rs →
      w1 < limit → r1 < limit → w2 < limit → r2 < limit →
      QpsReachable writeThreshold readThreshold limit (judgeQpsTrend s w1 r1 w2 r2).2
        (if s.idleQpsFailCount ≥ 5 then [] else w1 :: w2 :: ws)
        (if s.idleQpsFailCount ≥ 5 then [] else r1 :: r2 :: rs)
  | count {s : QpsWindow} {ws rs : List Nat} (fail successive : Nat) :
      QpsReachable writeThreshold readThreshold limit s ws rs →
      QpsReachable writeThreshold readThreshold limit (s.setCounts fail successive) ws rs

namespace QpsWindow

theorem windowMax_eq (current qps1 qps2 : Nat) :
    windowMax current qps1 qps2 = max current (max qps1 qps2) := by
  unfold windowMax
  split <;> split <;> omega

@[simp] theorem raise_windowQpsWriteMax (s : QpsWindow) :
    s.raise.windowQpsWriteMax = if s.idleQpsFailCount ≥ 5 then 0 else s.windowQpsWriteMax := by
  unfold raise; split <;> rfl

@[simp] theorem raise_windowQpsReadMax (s : QpsWindow) :
    s.raise.windowQpsReadMax = if s.idleQpsFailCount ≥ 5 then 0 else s.windowQpsReadMax := by
  unfold raise; split <;> rfl

@[simp] theorem restore_windowQpsWriteMax (s : QpsWindow) :
    s.restore.windowQpsWriteMax = s.windowQpsWriteMax := by
  unfold restore; split <;> rfl

@[simp] theorem restore_windowQpsReadMax (s : QpsWindow) :
    s.restore.windowQpsReadMax = s.windowQpsReadMax := by
  unfold restore; split <;> rfl

end QpsWindow

/-- The window maxima of `JudgeQpsTrend` are the largest write and the largest read sample taken
since the window was last cleared, 0 when there is none. -/
theorem qpsWindow_max {wt rt limit : Nat} {s : QpsWindow} {ws rs : List Nat}
    (reach : QpsReachable wt rt limit s ws rs) :
    s.windowQpsWriteMax = ws.foldr max 0 ∧ s.windowQpsReadMax = rs.foldr max 0 := by
  induction reach with
  | init => exact ⟨rfl, rfl⟩
  | judge _ _ _ _ _ ih =>
    obtain ⟨write, read⟩ := ih
    simp only [judgeQpsTrend, QpsWindow.restore_windowQpsWriteMax,
      QpsWindow.restore_windowQpsReadMax, QpsWindow.raise_windowQpsWriteMax,
      QpsWindow.raise_windowQpsReadMax, QpsWindow.record_windowQpsWriteMax,
      QpsWindow.record_windowQpsReadMax, QpsWindow.record_idleQpsFailCount,
      QpsWindow.windowMax_eq, write, read]
    split_ifs
    · exact ⟨rfl, rfl⟩
    · simp only [List.foldr_cons]
      constructor <;> rw [Nat.max_comm, Nat.max_assoc]
  | count _ _ _ ih => exact ih

/-- After one call on samples below 10000, the window holds the larger write and read sample. -/
theorem qpsWindow_max_first_call :
    (judgeQpsTrend (.initial 76 5000) 100 6000 200 7000).2.windowQpsWriteMax = [100, 200].foldr max 0 ∧
      (judgeQpsTrend (.initial 76 5000) 100 6000 200 7000).2.windowQpsReadMax =
        [6000, 7000].foldr max 0 :=
  qpsWindow_max (@QpsReachable.judge 76 5000 10000 _ _ _ 100 6000 200 7000 .init
    (by decide) (by decide) (by decide) (by decide))

/-! ### The thresholds stay in range -/

namespace QpsWindow

variable {wt rt limit : Nat}

/-- What every state of a run keeps when its samples are below `limit`: each threshold between
the smaller of its initial value and its default and the largest of these and `limit`, and window
maxima up to `limit`. -/
structure Bounded (wt rt limit : Nat) (s : QpsWindow) : Prop where
  write_ge : min wt 76 ≤ s.idleQpsWriteThreshold
  write_le : s.idleQpsWriteThreshold ≤ max (max wt 76) limit
  read_ge : min rt 5000 ≤ s.idleQpsReadThreshold
  read_le : s.idleQpsReadThreshold ≤ max (max rt 5000) limit
  windowWrite_le : s.windowQpsWriteMax ≤ limit
  windowRead_le : s.windowQpsReadMax ≤ limit

/-- Raising a threshold toward a window maximum no larger than `hi ≤ 2^63`: the `uint64_t` sum
does not wrap, so the threshold only moves up, and not past `hi`. -/
theorem raiseThreshold_within {lo hi t m : Nat} (small : hi ≤ 2 ^ 63) (ge : lo ≤ t)
    (le : t ≤ hi) (within : m ≤ hi) : lo ≤ raiseThreshold t m ∧ raiseThreshold t m ≤ hi := by
  unfold raiseThreshold
  split
  · rw [add64_of_lt (by omega)]
    omega
  · exact ⟨ge, le⟩

theorem bounded_initial : (initial wt rt).Bounded wt rt limit :=
  ⟨Nat.min_le_left _ _, (Nat.le_max_left _ _).trans (Nat.le_max_left _ _), Nat.min_le_left _ _,
    (Nat.le_max_left _ _).trans (Nat.le_max_left _ _), Nat.zero_le _, Nat.zero_le _⟩

theorem Bounded.record {s : QpsWindow} (bounded : s.Bounded wt rt limit) {w1 r1 w2 r2 : Nat}
    (hw1 : w1 ≤ limit) (hr1 : r1 ≤ limit) (hw2 : w2 ≤ limit) (hr2 : r2 ≤ limit) :
    (s.record w1 r1 w2 r2).Bounded wt rt limit := by
  have := bounded.windowWrite_le
  have := bounded.windowRead_le
  refine { bounded with windowWrite_le := ?_, windowRead_le := ?_ } <;>
    simp only [record_windowQpsWriteMax, record_windowQpsReadMax, windowMax_eq] <;> omega

theorem Bounded.raise (small : limit ≤ 2 ^ 63) (wtSmall : wt < 2 ^ 63) (rtSmall : rt < 2 ^ 63)
    {s : QpsWindow} (bounded : s.Bounded wt rt limit) : s.raise.Bounded wt rt limit := by
  unfold QpsWindow.raise
  split
  · have := bounded.windowWrite_le
    have := bounded.windowRead_le
    obtain ⟨writeGe, writeLe⟩ := raiseThreshold_within (m := s.windowQpsWriteMax) (by omega)
      bounded.write_ge bounded.write_le (by omega)
    obtain ⟨readGe, readLe⟩ := raiseThreshold_within (m := s.windowQpsReadMax) (by omega)
      bounded.read_ge bounded.read_le (by omega)
    exact ⟨writeGe, writeLe, readGe, readLe, Nat.zero_le _, Nat.zero_le _⟩
  · exact bounded

theorem Bounded.restore {s : QpsWindow} (bounded : s.Bounded wt rt limit) :
    s.restore.Bounded wt rt limit := by
  unfold QpsWindow.restore
  split
  · exact { bounded with
      write_ge := by dsimp only; omega
      write_le := by dsimp only; omega
      read_ge := by dsimp only; omega
      read_le := by dsimp only; omega }
  · exact bounded

theorem Bounded.setCounts {s : QpsWindow} (bounded : s.Bounded wt rt limit) (fail successive : Nat) :
    (s.setCounts fail successive).Bounded wt rt limit :=
  { bounded with }

theorem Bounded.judge (small : limit ≤ 2 ^ 63) (wtSmall : wt < 2 ^ 63) (rtSmall : rt < 2 ^ 63)
    {s : QpsWindow} (bounded : s.Bounded wt rt limit) {w1 r1 w2 r2 : Nat} (hw1 : w1 < limit)
    (hr1 : r1 < limit) (hw2 : w2 < limit) (hr2 : r2 < limit) :
    (judgeQpsTrend s w1 r1 w2 r2).2.Bounded wt rt limit :=
  ((bounded.record hw1.le hr1.le hw2.le hr2.le).raise small wtSmall rtSmall).restore

end QpsWindow

theorem QpsReachable.bounded {wt rt limit : Nat} (small : limit ≤ 2 ^ 63) (wtSmall : wt < 2 ^ 63)
    (rtSmall : rt < 2 ^ 63) {s : QpsWindow} {ws rs : List Nat}
    (reach : QpsReachable wt rt limit s ws rs) : s.Bounded wt rt limit := by
  induction reach with
  | init => exact QpsWindow.bounded_initial
  | judge _ hw1 hr1 hw2 hr2 ih => exact ih.judge small wtSmall rtSmall hw1 hr1 hw2 hr2
  | count fail successive _ ih => exact ih.setCounts fail successive

/-- Along every run whose QPS samples are below `limit ≤ 2^63`, from idle thresholds below
`2^63`, no threshold falls below the smaller of its initial value and its default (76 writes,
5000 reads), or rises above the largest of its initial value, its default and `limit`: the
`uint64_t` sum of a raise never wraps, a raise only moves a threshold up toward a window maximum,
and a reset puts the default back. -/
theorem qpsThresholds_within {wt rt limit : Nat} (small : limit ≤ 2 ^ 63) (wtSmall : wt < 2 ^ 63)
    (rtSmall : rt < 2 ^ 63) {s : QpsWindow} {ws rs : List Nat}
    (reach : QpsReachable wt rt limit s ws rs) :
    min wt 76 ≤ s.idleQpsWriteThreshold ∧ s.idleQpsWriteThreshold ≤ max (max wt 76) limit ∧
      min rt 5000 ≤ s.idleQpsReadThreshold ∧ s.idleQpsReadThreshold ≤ max (max rt 5000) limit :=
  let bounded := reach.bounded small wtSmall rtSmall
  ⟨bounded.write_ge, bounded.write_le, bounded.read_ge, bounded.read_le⟩

/-- A run on samples below 10000 from the default thresholds: one call, five failed verdicts
counted, and a call that raises both thresholds toward the window's maxima. -/
theorem qpsThresholds_within_raised :
    let s := (judgeQpsTrend ((judgeQpsTrend (.initial 76 5000) 100 6000 200 7000).2.setCounts 5 0)
      50 100 60 90).2
    min 76 76 ≤ s.idleQpsWriteThreshold ∧ s.idleQpsWriteThreshold ≤ max (max 76 76) 10000 ∧
      min 5000 5000 ≤ s.idleQpsReadThreshold ∧ s.idleQpsReadThreshold ≤ max (max 5000 5000) 10000 :=
  qpsThresholds_within (by decide) (by decide) (by decide)
    (.judge (.count 5 0 (.judge .init (by decide) (by decide) (by decide) (by decide)))
      (by decide) (by decide) (by decide) (by decide))

/-! ### The spec's protocol, in exact arithmetic -/

/-- Modelled from the spec (§4.F, step 6): the verdict table, in exact arithmetic. -/
def qpsVerdictSpec (writeThreshold readThreshold w1 r1 w2 r2 : Nat) : Nat :=
  if (w1 < writeThreshold ∧ w2 < writeThreshold) ∧ (r1 < readThreshold ∧ r2 < readThreshold) then 1
  else if (w1 < writeThreshold ∧ w2 < writeThreshold) ∧ r2 > r1 then 0
  else if (w1 < writeThreshold ∧ w2 < writeThreshold) ∧
      100 * ((r1 : Int) - r2) > 5 * readThreshold then 1
  else if w2 > w1 then 0
  else if 100 * ((w1 : Int) - w2) > 5 * writeThreshold ∧
      (r1 < readThreshold ∧ r2 < readThreshold) then 1
  else 0

namespace QpsWindow

/-- Modelled from the spec (§4.F, steps 3 and 4): the window maxima take in the samples; after
five failed verdicts each threshold is raised toward its window maximum, to
`(threshold + window_max) ÷ 2` when that is higher, and the window is cleared. -/
def takeSpec (s : QpsWindow) (w1 r1 w2 r2 : Nat) : QpsWindow :=
  let writeMax := max s.windowQpsWriteMax (max w1 w2)
  let readMax := max s.windowQpsReadMax (max r1 r2)
  if 5 ≤ s.idleQpsFailCount then
    { s with
      idleQpsWriteThreshold :=
        max s.idleQpsWriteThreshold ((s.idleQpsWriteThreshold + writeMax) / 2)
      idleQpsReadThreshold := max s.idleQpsReadThreshold ((s.idleQpsReadThreshold + readMax) / 2)
      windowQpsWriteMax := 0
      windowQpsReadMax := 0
      idleQpsFailCount := 0 }
  else { s with windowQpsWriteMax := writeMax, windowQpsReadMax := readMax }

/-- Modelled from the spec (§4.F, step 5): after five successful verdicts against thresholds off
their defaults, both go back to 76 and 5000. -/
def restoreSpec (s : QpsWindow) : QpsWindow :=
  if 5 ≤ s.idleQpsSuccessiveCount ∧
      (s.idleQpsWriteThreshold ≠ 76 ∨ s.idleQpsReadThreshold ≠ 5000) then
    { s with idleQpsWriteThreshold := 76, idleQpsReadThreshold := 5000, idleQpsSuccessiveCount := 0 }
  else s

end QpsWindow

/-- Modelled from the spec (§4.F, steps 3 to 6): one call of the idle detector in exact
arithmetic, the verdict after the thresholds have moved. -/
def judgeQpsTrendSpec (s : QpsWindow) (w1 r1 w2 r2 : Nat) : Nat × QpsWindow :=
  let s' := (s.takeSpec w1 r1 w2 r2).restoreSpec
  (qpsVerdictSpec s'.idleQpsWriteThreshold s'.idleQpsReadThreshold w1 r1 w2 r2, s')

/-- The sharp-drop test of `JudgeQpsTrend`, `100 * (qps1 - qps2) > threshold * 5` in
`uint64_t`, is the exact one when the samples and the threshold are at most `2^57`. -/
theorem sharpDrop_exact {a b t : Nat} (ha : a < 2 ^ 57) (order : b ≤ a) (ht : t ≤ 2 ^ 57) :
    mul64 100 (sub64 a b) > mul64 t 5 ↔ 100 * ((a : Int) - b) > 5 * t := by
  rw [sub64_of_le (by omega) order]
  unfold mul64
  rw [Nat.mod_eq_of_lt (by omega), Nat.mod_eq_of_lt (by omega)]
  omega

theorem qpsVerdict_eq_spec {wt rt w1 r1 w2 r2 : Nat} (wtSmall : wt ≤ 2 ^ 57)
    (rtSmall : rt ≤ 2 ^ 57) (hw1 : w1 < 2 ^ 57) (hr1 : r1 < 2 ^ 57) :
    qpsVerdict wt rt w1 r1 w2 r2 = qpsVerdictSpec wt rt w1 r1 w2 r2 := by
  unfold qpsVerdict qpsVerdictSpec
  by_cases writes : w1 < wt ∧ w2 < wt
  · rw [if_pos writes]
    by_cases reads : r1 < rt ∧ r2 < rt
    · simp only [writes, reads, and_self, if_true]
    · by_cases rising : r2 > r1
      · simp only [writes, reads, rising, and_self, true_and, if_true, if_false]
      · simp only [writes, reads, rising, true_and, and_false, if_false, ite_self,
          sharpDrop_exact hr1 (Nat.le_of_not_lt rising) rtSmall]
  · rw [if_neg writes]
    by_cases rising : w2 > w1
    · simp only [writes, rising, false_and, if_true, if_false]
    · by_cases reads : r1 < rt ∧ r2 < rt
      · simp only [writes, rising, reads, false_and, and_true, if_true, if_false,
          sharpDrop_exact hw1 (Nat.le_of_not_lt rising) wtSmall]
      · simp only [writes, rising, reads, false_and, and_false, if_false]

namespace QpsWindow

theorem raiseThreshold_eq_max {t m : Nat} (fits : t + m < 2 ^ 64) :
    raiseThreshold t m = max t ((t + m) / 2) := by
  unfold raiseThreshold
  split
  · rw [add64_of_lt fits]
    omega
  · omega

theorem restoreSpec_eq (s : QpsWindow) : s.restoreSpec = s.restore := by
  simp only [restoreSpec, restore, and_comm]

/-- Taking in the samples and raising the thresholds, when no sum wraps, is the spec's step. -/
theorem raise_record_eq_takeSpec {s : QpsWindow} {w1 r1 w2 r2 : Nat}
    (writeFits : s.idleQpsWriteThreshold + max s.windowQpsWriteMax (max w1 w2) < 2 ^ 64)
    (readFits : s.idleQpsReadThreshold + max s.windowQpsReadMax (max r1 r2) < 2 ^ 64) :
    (s.record w1 r1 w2 r2).raise = s.takeSpec w1 r1 w2 r2 := by
  unfold QpsWindow.raise takeSpec
  simp only [record_idleQpsFailCount, record_windowQpsWriteMax, record_windowQpsReadMax,
    record_idleQpsWriteThreshold, record_idleQpsReadThreshold, windowMax_eq]
  split
  · rw [raiseThreshold_eq_max writeFits, raiseThreshold_eq_max readFits]
    rfl
  · simp only [record, windowMax_eq]

end QpsWindow

/-- One call from a state that keeps the run invariant, with the samples, the initial thresholds
and the bound all at most `2^57`: the code's call is the spec's. -/
theorem judgeQpsTrend_eq_spec_of_bounded {wt rt limit : Nat} (small : limit ≤ 2 ^ 57)
    (wtSmall : wt < 2 ^ 57) (rtSmall : rt < 2 ^ 57) {s : QpsWindow}
    (bounded : s.Bounded wt rt limit) {w1 r1 w2 r2 : Nat} (hw1 : w1 < limit) (hr1 : r1 < limit)
    (hw2 : w2 < limit) (hr2 : r2 < limit) :
    judgeQpsTrend s w1 r1 w2 r2 = judgeQpsTrendSpec s w1 r1 w2 r2 := by
  have fits : ∀ {t m : Nat}, t ≤ 2 ^ 57 → m ≤ 2 ^ 57 → t + m < 2 ^ 64 :=
    fun ht hm => (Nat.add_le_add ht hm).trans_lt (by decide)
  have writeBound : max (max wt 76) limit ≤ 2 ^ 57 := max_le (max_le wtSmall.le (by decide)) small
  have readBound : max (max rt 5000) limit ≤ 2 ^ 57 :=
    max_le (max_le rtSmall.le (by decide)) small
  have writeWindow : max s.windowQpsWriteMax (max w1 w2) ≤ 2 ^ 57 :=
    max_le (bounded.windowWrite_le.trans small) (max_le (hw1.le.trans small) (hw2.le.trans small))
  have readWindow : max s.windowQpsReadMax (max r1 r2) ≤ 2 ^ 57 :=
    max_le (bounded.windowRead_le.trans small) (max_le (hr1.le.trans small) (hr2.le.trans small))
  have state : ((s.record w1 r1 w2 r2).raise).restore = (s.takeSpec w1 r1 w2 r2).restoreSpec := by
    rw [QpsWindow.raise_record_eq_takeSpec (fits (bounded.write_le.trans writeBound) writeWindow)
      (fits (bounded.read_le.trans readBound) readWindow), QpsWindow.restoreSpec_eq]
  have after := bounded.judge (small.trans (by decide)) (wtSmall.trans (by decide))
    (rtSmall.trans (by decide)) hw1 hr1 hw2 hr2
  simp only [judgeQpsTrend, state] at after ⊢
  rw [qpsVerdict_eq_spec (after.write_le.trans writeBound) (after.read_le.trans readBound)
    (hw1.trans_le small) (hr1.trans_le small)]
  rfl

/-- Along every run whose QPS samples are below `limit ≤ 2^57`, from idle thresholds below
`2^57`, no `uint64_t` operation of `JudgeQpsTrend` wraps: every call returns the verdict and
leaves the members of the spec's protocol computed in exact arithmetic. -/
theorem judgeQpsTrend_refines_spec {wt rt limit : Nat} (small : limit ≤ 2 ^ 57)
    (wtSmall : wt < 2 ^ 57) (rtSmall : rt < 2 ^ 57) {s : QpsWindow} {ws rs : List Nat}
    (reach : QpsReachable wt rt limit s ws rs) {w1 r1 w2 r2 : Nat} (hw1 : w1 < limit)
    (hr1 : r1 < limit) (hw2 : w2 < limit) (hr2 : r2 < limit) :
    judgeQpsTrend s w1 r1 w2 r2 = judgeQpsTrendSpec s w1 r1 w2 r2 :=
  judgeQpsTrend_eq_spec_of_bounded small wtSmall rtSmall
    (reach.bounded (by omega) (by omega) (by omega)) hw1 hr1 hw2 hr2

/-- After a call that raises both thresholds, the next call is the spec's. -/
theorem judgeQpsTrend_refines_spec_raised :
    let s := (judgeQpsTrend ((judgeQpsTrend (.initial 76 5000) 100 6000 200 7000).2.setCounts 5 0)
      50 100 60 90).2
    judgeQpsTrend s 10 20 30 40 = judgeQpsTrendSpec s 10 20 30 40 :=
  @judgeQpsTrend_refines_spec 76 5000 10000 (by decide) (by decide) (by decide) _ _ _
    (.judge (.count 5 0 (.judge .init (by decide) (by decide) (by decide) (by decide)))
      (by decide) (by decide) (by decide) (by decide))
    _ _ _ _ (by decide) (by decide) (by decide) (by decide)

end ZenFS
