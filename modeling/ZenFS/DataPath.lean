import Mathlib.Algebra.Order.Ring.Nat
import ZenFS.Zone

set_option autoImplicit false

/- The data path: what `Zone::Append` and `ZonedBlockDevice::Read` make of the answers of the
backend's `Write` and `Read` calls, over every split of a request into partial answers, and
what `ZonedBlockDevice::InvalidateCache` makes of the backend's answer. -/
namespace ZenFS

/-! ### `Zone::Append` -/

namespace Zone

/-- Modelled from the spec: the `Write` calls of an append of `left` bytes from buffer position
`ptr` at device offset `wp` when the backend acknowledges the counts `acked` in turn. Each call
asks for what is left, from where the one before stopped. -/
def consecutiveWrites : Nat → Nat → Nat → List Nat → List WriteCall
  | _, _, _, [] => []
  | ptr, left, wp, n :: acked =>
    ⟨ptr, left, wp⟩ :: consecutiveWrites (ptr + n) (left - n) (add64 wp n) acked

/-- The append loop moves the write pointer up and the capacity down by the bytes the backend
acknowledged, and passes them to `AddBytesWritten`. It ends OK when they make up the request,
and otherwise at the first failed `Write`, asked from where the acknowledged bytes end. -/
theorem appendLoop_acknowledged (answers : List (Except String Nat)) :
    ∀ (z : Zone) (ptr left : Nat) (r : Appended), z.wp < 2 ^ 64 → z.capacity < 2 ^ 64 →
      left < 2 ^ 32 → WritesWithin left answers → appendLoop z ptr left answers = some r →
      ∃ acked : List Nat, r.written = acked.sum ∧
        r.zone = { z with wp := add64 z.wp acked.sum, capacity := sub64 z.capacity acked.sum } ∧
        ((r.status = .ok ∧ acked.sum = left ∧ answers.take acked.length = acked.map .ok ∧
            r.calls = consecutiveWrites ptr left z.wp acked) ∨
          ∃ msg, r.status = .ioError msg ∧ acked.sum < left ∧
            answers.take (acked.length + 1) = acked.map .ok ++ [.error msg] ∧
            r.calls = consecutiveWrites ptr left z.wp acked ++
              [⟨ptr + acked.sum, left - acked.sum, add64 z.wp acked.sum⟩]) := by
  intro z ptr left
  induction z, ptr, left, answers using appendLoop.induct with
  | case1 _ z _ =>
    intro r wpFits capacityFits _ _ run
    rw [appendLoop] at run
    cases run
    exact ⟨[], rfl, by simp [add64_zero wpFits, sub64_zero capacityFits],
      .inl ⟨rfl, rfl, rfl, rfl⟩⟩
  | case2 => intro r _ _ _ _ run; cases run
  | case3 z ptr left msg rest =>
    intro r wpFits capacityFits _ _ run
    cases run
    refine ⟨[], rfl, by simp [add64_zero wpFits, sub64_zero capacityFits],
      .inr ⟨msg, rfl, by simp, rfl, ?_⟩⟩
    simp [consecutiveWrites, add64_zero wpFits]
  | case4 z ptr left n rest ih =>
    intro r _ _ small ⟨le, contract⟩ run
    obtain ⟨r', run', rfl⟩ := Option.map_eq_some'.mp run
    rw [sub32_of_le small le] at ih run'
    obtain ⟨acked, written, zone, ending⟩ :=
      ih r' (add64_lt _ _) (sub64_lt _ _) (by omega) contract run'
    refine ⟨n :: acked, by simp [written], by simp [zone, add64_add64, sub64_sub64], ?_⟩
    rcases ending with ⟨ok, sum, taken, calls⟩ | ⟨msg, failed, short, taken, calls⟩
    · refine .inl ⟨ok, by simp; omega, by simp [taken], ?_⟩
      simp [calls, consecutiveWrites]
    · refine .inr ⟨msg, failed, by simp; omega, by simp [taken], ?_⟩
      simp only [calls, consecutiveWrites, List.sum_cons, List.cons_append, add64_add64,
        Nat.add_assoc, Nat.sub_sub]

/-- `Zone::Append(data, size)` on a zone of `uint64_t` fields. With less capacity than `size`
it returns `NoSpace`, changes nothing and calls nothing. Otherwise the write pointer and the
capacity move by the bytes the backend acknowledged, so that their sum stays, and so does the
bytes-written counter. The append is OK when the acknowledged bytes make up `size`, written at
consecutive offsets from `wp_` and consecutive buffer positions; otherwise it stops with the
`IOError` of the first failed `Write`, asked from where the acknowledged bytes end. -/
theorem append_acknowledged {z : Zone} {size : Nat} {answers : List (Except String Nat)}
    (wpFits : z.wp < 2 ^ 64) (capacityFits : z.capacity < 2 ^ 64)
    (small : size < 2 ^ 32) (within : WritesWithin size answers) :
    (z.capacity < size →
        z.append size answers = some ⟨.noSpace "Not enough capacity for append", z, 0, []⟩) ∧
      ∀ r, size ≤ z.capacity → z.append size answers = some r →
        ∃ acked : List Nat, r.written = acked.sum ∧
          r.zone = { z with wp := add64 z.wp acked.sum, capacity := sub64 z.capacity acked.sum } ∧
          add64 r.zone.wp r.zone.capacity = add64 z.wp z.capacity ∧
          ((r.status = .ok ∧ acked.sum = size ∧ answers.take acked.length = acked.map .ok ∧
              r.calls = consecutiveWrites 0 size z.wp acked) ∨
            ∃ msg, r.status = .ioError msg ∧ acked.sum < size ∧
              answers.take (acked.length + 1) = acked.map .ok ++ [.error msg] ∧
              r.calls = consecutiveWrites 0 size z.wp acked ++
                [⟨acked.sum, size - acked.sum, add64 z.wp acked.sum⟩]) := by
  refine ⟨fun short => by rw [append, if_pos short], fun r fits run => ?_⟩
  rw [append, if_neg (Nat.not_lt.mpr fits)] at run
  obtain ⟨acked, written, zone, ending⟩ :=
    appendLoop_acknowledged answers z 0 size r wpFits capacityFits small within run
  exact ⟨acked, written, zone, by rw [zone]; exact add64_add64_sub64 _ _ _, by simpa using ending⟩

/-- An append of one block in two partial writes. -/
theorem append_acknowledged_in_two_writes :
    let z : Zone := ⟨16384, 4096, 16384, 4096, 0, .wlthNotSet, 0, true⟩
    let answers : List (Except String Nat) := [.ok 1024, .ok 3072]
    (z.capacity < 4096 →
        z.append 4096 answers = some ⟨.noSpace "Not enough capacity for append", z, 0, []⟩) ∧
      ∀ r, 4096 ≤ z.capacity → z.append 4096 answers = some r →
        ∃ acked : List Nat, r.written = acked.sum ∧
          r.zone = { z with wp := add64 z.wp acked.sum, capacity := sub64 z.capacity acked.sum } ∧
          add64 r.zone.wp r.zone.capacity = add64 z.wp z.capacity ∧
          ((r.status = .ok ∧ acked.sum = 4096 ∧ answers.take acked.length = acked.map .ok ∧
              r.calls = consecutiveWrites 0 4096 z.wp acked) ∨
            ∃ msg, r.status = .ioError msg ∧ acked.sum < 4096 ∧
              answers.take (acked.length + 1) = acked.map .ok ++ [.error msg] ∧
              r.calls = consecutiveWrites 0 4096 z.wp acked ++
                [⟨acked.sum, 4096 - acked.sum, add64 z.wp acked.sum⟩]) :=
  append_acknowledged (by decide) (by decide) (by decide) ⟨by decide, by decide, trivial⟩

/-- A `Write` that returns 0 leaves the append loop where it was. -/
theorem appendLoop_zero_writes (left : Nat) (pos : 0 < left) (small : left < 2 ^ 32) :
    ∀ (k : Nat) (z : Zone) (ptr : Nat), appendLoop z ptr left (List.replicate k (.ok 0)) = none := by
  obtain ⟨left, rfl⟩ : ∃ l, left = l + 1 := ⟨left - 1, by omega⟩
  intro k
  induction k with
  | zero => intro z ptr; rfl
  | succ k ih =>
    intro z ptr
    rw [List.replicate_succ, appendLoop, sub32_of_le small (Nat.zero_le _), Nat.sub_zero, ih]
    rfl

/-- A backend `Write` may return 0, and the append loop then asks again for the same bytes:
however many such answers come, `Zone::Append` of a nonempty block that fits never returns. -/
theorem append_never_returns_on_zero_writes {z : Zone} {size : Nat} (pos : 0 < size)
    (fits : size ≤ z.capacity) (small : size < 2 ^ 32) (k : Nat) :
    WritesWithin size (List.replicate k (.ok 0)) ∧ z.append size (List.replicate k (.ok 0)) = none := by
  refine ⟨?_, ?_⟩
  · induction k with
    | zero => match size, pos with | _ + 1, _ => trivial
    | succ k ih => match size, pos, ih with | _ + 1, _, ih => exact ⟨Nat.zero_le _, ih⟩
  · rw [append, if_neg (Nat.not_lt.mpr fits)]
    exact appendLoop_zero_writes size pos small k z 0

theorem append_never_returns_on_zero_writes_block :
    0 < 4096 ∧ 4096 ≤ (⟨16384, 4096, 16384, 4096, 0, .wlthNotSet, 0, true⟩ : Zone).capacity ∧
      4096 < 2 ^ 32 ∧
      WritesWithin 4096 (List.replicate 3 (.ok 0)) ∧
        (⟨16384, 4096, 16384, 4096, 0, .wlthNotSet, 0, true⟩ : Zone).append 4096
          (List.replicate 3 (.ok 0)) = none :=
  ⟨by decide, by decide, by decide,
    append_never_returns_on_zero_writes (by decide) (by decide) (by decide) 3⟩

end Zone

/-! ### `ZonedBlockDevice::Read` -/

/-- The backend's answer to one `Read`: what it returns, and whether `errno` is then `EINTR`. -/
structure ReadAnswer where
  ret : Int
  eintr : Bool
  deriving DecidableEq, Repr

/-- One `Read(buf, left, offset, direct)` call of the loop: buffer position, length, device
offset and the direct flag. -/
structure ReadCall where
  bufPos : Nat
  length : Int
  offset : Nat
  direct : Bool
  deriving DecidableEq, Repr

/-- What `ZonedBlockDevice::Read` returns, and the backend calls it made, in order. -/
structure ReadResult where
  ret : Int
  calls : List ReadCall
  deriving DecidableEq, Repr

/-- The `while (left)` loop of `ZonedBlockDevice::Read` and the returns after it, from the bytes
read so far `ret`, the bytes left, the last backend result `r`, the buffer position and the
device offset. `none`: the loop asks for more answers than were given. -/
def readLoop (direct : Bool) (ret left r : Int) (pos offset : Nat) (answers : List ReadAnswer) :
    Option ReadResult :=
  if left = 0 then some ⟨if r < 0 then r else ret, []⟩
  else
    match answers with
    | [] => none
    | a :: rest =>
      let call : ReadCall := ⟨pos, left, offset, direct⟩
      if a.ret ≤ 0 then
        if a.ret = -1 ∧ a.eintr = true then
          (readLoop direct ret left a.ret pos offset rest).map
            fun res => { res with calls := call :: res.calls }
        else some ⟨if a.ret < 0 then a.ret else ret, [call]⟩
      else
        (readLoop direct (ret + a.ret) (left - a.ret) a.ret (pos + a.ret.toNat)
            (add64 offset a.ret.toNat) rest).map
          fun res => { res with calls := call :: res.calls }

/-- `ZonedBlockDevice::Read(buf, offset, n, direct)`, from `ret = 0`, `left = n` and `r = -1`.
The QPS report is not modelled. -/
def read (offset : Nat) (n : Int) (direct : Bool) (answers : List ReadAnswer) : Option ReadResult :=
  readLoop direct 0 n (-1) 0 offset answers

/-- The backend's read contract along a run of the loop: while bytes are left, each `Read`
returns `-1`, or between 0 and the length asked. -/
def ReadsWithin : Int → List ReadAnswer → Prop
  | _, [] => True
  | left, a :: rest =>
    left ≠ 0 → (a.ret = -1 ∨ 0 ≤ a.ret ∧ a.ret ≤ left) ∧
      (0 < a.ret → ReadsWithin (left - a.ret) rest) ∧
      (a.ret = -1 ∧ a.eintr = true → ReadsWithin left rest)

/-- Modelled from the spec: the `Read` calls of a read of `left` bytes into buffer position
`pos` at device offset `offset` when the backend returns `rets` in turn. Each call asks for what
is left, from where the one before stopped; a call that read nothing is asked again in place. -/
def consecutiveReads (direct : Bool) : Nat → Int → Nat → List Int → List ReadCall
  | _, _, _, [] => []
  | pos, left, offset, r :: rets =>
    ⟨pos, left, offset, direct⟩ ::
      if 0 < r then consecutiveReads direct (pos + r.toNat) (left - r) (add64 offset r.toNat) rets
      else consecutiveReads direct pos left offset rets

/-- The read loop, from any state with bytes left or a last result that is not an error: the
answers it used are a prefix of those given, its calls are consecutive, and it returns the
error of its last call when that failed other than by `EINTR`, and otherwise what it had read
plus what the backend delivered. -/
theorem readLoop_delivered (direct : Bool) (answers : List ReadAnswer) :
    ∀ (ret left r : Int) (pos offset : Nat) (res : ReadResult), 0 ≤ left → (left = 0 → 0 ≤ r) →
      ReadsWithin left answers → readLoop direct ret left r pos offset answers = some res →
      ∃ used, used <+: answers ∧
        res.calls = consecutiveReads direct pos left offset (used.map ReadAnswer.ret) ∧
        ((∃ a, used.getLast? = some a ∧ a.ret < 0 ∧ ¬ (a.ret = -1 ∧ a.eintr = true) ∧
            res.ret = a.ret) ∨
          (res.ret = ret + ((used.map ReadAnswer.ret).filter (0 < ·)).sum ∧ ret ≤ res.ret ∧
            res.ret ≤ ret + left)) := by
  intro ret left r pos offset
  induction ret, left, r, pos, offset, answers using readLoop.induct direct with
  | case1 answers ret r pos offset =>
    intro res _ done _ run
    rw [readLoop.eq_def, if_pos rfl] at run
    cases run
    refine ⟨[], List.nil_prefix, rfl, .inr ?_⟩
    simp [show ¬ r < 0 by have := done rfl; omega]
  | case2 ret left r pos offset busy => simp [readLoop, busy]
  | case3 ret left r pos offset busy a rest none' retry ih =>
    intro res nonneg _ contract run
    rw [readLoop, if_neg busy] at run
    dsimp only at run
    rw [if_pos none', if_pos retry] at run
    obtain ⟨res', run', rfl⟩ := Option.map_eq_some'.mp run
    obtain ⟨used, before, calls, ending⟩ :=
      ih res' nonneg (fun e => absurd e busy) ((contract busy).2.2 retry) run'
    refine ⟨a :: used, List.prefix_cons_inj a |>.mpr before, ?_, ?_⟩
    · simp [calls, consecutiveReads, show ¬ 0 < a.ret by omega]
    · rcases ending with ⟨b, last, failed, other, same⟩ | ⟨sum, low, high⟩
      · exact .inl ⟨b, by rw [List.getLast?_cons, last]; rfl, failed, other, same⟩
      · exact .inr ⟨by simp [sum, show ¬ 0 < a.ret by omega], low, high⟩
  | case4 ret left r pos offset busy a rest none' stop =>
    intro res _ _ _ run
    rw [readLoop, if_neg busy] at run
    dsimp only at run
    rw [if_pos none', if_neg stop] at run
    cases run
    refine ⟨[a], List.prefix_cons_inj a |>.mpr List.nil_prefix,
      by simp [consecutiveReads, show ¬ 0 < a.ret by omega], ?_⟩
    by_cases failed : a.ret < 0
    · exact .inl ⟨a, rfl, failed, stop, by simp [failed]⟩
    · exact .inr ⟨by simp [failed, show ¬ 0 < a.ret by omega], by simp [failed],
        by simp [failed]; omega⟩
  | case5 ret left r pos offset busy a rest delivered ih =>
    intro res nonneg _ contract run
    have got : 0 < a.ret := by omega
    rw [readLoop, if_neg busy] at run
    dsimp only at run
    rw [if_neg delivered] at run
    obtain ⟨res', run', rfl⟩ := Option.map_eq_some'.mp run
    obtain ⟨range, more, -⟩ := contract busy
    obtain ⟨used, before, calls, ending⟩ :=
      ih res' (by omega) (fun _ => by omega) (more got) run'
    refine ⟨a :: used, List.prefix_cons_inj a |>.mpr before, ?_, ?_⟩
    · simp [calls, consecutiveReads, got]
    · rcases ending with ⟨b, last, failed, other, same⟩ | ⟨sum, low, high⟩
      · exact .inl ⟨b, by rw [List.getLast?_cons, last]; rfl, failed, other, same⟩
      · refine .inr ⟨?_, by dsimp only; omega, by dsimp only; omega⟩
        simp [sum, got, List.filter_cons]
        omega

/-- `ZonedBlockDevice::Read(buf, offset, n, direct)` for `n ≥ 0`, under the backend's read
contract, when it returns. A read of 0 bytes returns `-1` and calls nothing: the loop does not
run and `r` keeps its first value. A longer read uses a prefix of the answers, with its calls at
consecutive offsets and buffer positions. It returns the error of its last call when that call
failed other than by `EINTR`, and otherwise the bytes the backend delivered, between 0 and
`n`. -/
theorem read_returns {offset : Nat} {n : Int} {direct : Bool} {answers : List ReadAnswer}
    {res : ReadResult} (nonneg : 0 ≤ n) (within : ReadsWithin n answers)
    (run : read offset n direct answers = some res) :
    (n = 0 ∧ res = ⟨-1, []⟩) ∨
      0 < n ∧ ∃ used, used <+: answers ∧
        res.calls = consecutiveReads direct 0 n offset (used.map ReadAnswer.ret) ∧
        ((∃ a, used.getLast? = some a ∧ a.ret < 0 ∧ ¬ (a.ret = -1 ∧ a.eintr = true) ∧
            res.ret = a.ret) ∨
          (res.ret = ((used.map ReadAnswer.ret).filter (0 < ·)).sum ∧ 0 ≤ res.ret ∧
            res.ret ≤ n)) := by
  rcases nonneg.lt_or_eq with pos | zero
  · obtain ⟨used, before, calls, ending⟩ := readLoop_delivered direct answers 0 n (-1) 0 offset
      res nonneg (fun e => absurd e (Int.ne_of_gt pos)) within run
    exact .inr ⟨pos, used, before, calls,
      ending.imp_right fun ⟨sum, low, high⟩ => ⟨by simpa using sum, low, by simpa using high⟩⟩
  · subst zero
    unfold read readLoop at run
    exact .inl ⟨rfl, (Option.some.inj run).symm⟩

/-- A read of 0 bytes reports an error: the loop does not run, `r` keeps its first value `-1`,
and no backend call is made, whatever the offset, the direct flag and the backend's answers. -/
theorem read_zero_bytes_fails (offset : Nat) (direct : Bool) (answers : List ReadAnswer) :
    read offset 0 direct answers = some ⟨-1, []⟩ := by
  unfold read readLoop
  rfl

/-! ### `ZonedBlockDevice::InvalidateCache` -/

/-- `ZonedBlockDevice::InvalidateCache(pos, size)`, given the backend's `InvalidateCache`: OK
when it returns 0, an I/O error otherwise. -/
def invalidateCache (backend : Nat → Nat → Int) (pos size : Nat) : IOStatus :=
  if backend pos size ≠ 0 then .ioError "Failed to invalidate cache" else .ok

end ZenFS
