import NoOS.Util.CircularBufferRun

/-!
# `cb_size` interrupted by the end of a write

The reader computes the fill level from several loads, and the interrupt of the writer may
end its transaction between any two of them. The level is right unless the interrupt wraps
the write index after its spin count was loaded and before the index is.
-/

namespace NoOS
open RingWindow Word

/-- `cb_size` with load `k` of the pointer fields, in the order of the source, seeing the
descriptor `mem k`. -/
def cbSizeLoads (mem : ℕ → CircularBuffer) : Int × UInt32 :=
  let nbSpins :=
    if (mem 0).write.spinCount > (mem 1).read.spinCount then
      (mem 2).write.spinCount - (mem 3).read.spinCount
    else 0xFFFFFFFF - (mem 2).read.spinCount + (mem 3).write.spinCount + 1
  clampSize (mem 0).size (unread (mem 0).size nbSpins (mem 4).write.idx (mem 5).read.idx)

/-- `cb_size` with `cb_end_async_write` run by an interrupt after `p` of its loads. -/
def cbSizeInterrupted (desc : CircularBuffer) (p : ℕ) : Int × UInt32 :=
  cbSizeLoads fun k => if k < p then desc else (cbEndAsyncWrite desc).2

/-- The interrupt comes between the loads of `write.spin_count` and of `write.idx`. -/
def SplitsWritePtr (desc : CircularBuffer) (p : ℕ) : Prop :=
  (if desc.write.spinCount > desc.read.spinCount then 2 else 3) < p ∧ p ≤ 4

instance (desc : CircularBuffer) (p : ℕ) : Decidable (SplitsWritePtr desc p) :=
  inferInstanceAs (Decidable (_ ∧ _))

/-- The end of the started write leaves `write.idx` short of the end of the buffer. -/
def StaysInLap (desc : CircularBuffer) : Prop :=
  desc.write.idx.toNat + desc.write.asyncSize.toNat < desc.size.toNat

instance (desc : CircularBuffer) : Decidable (StaysInLap desc) := Nat.decLt _ _

variable {n : ℕ} {s : CbHistory} {p : ℕ}

namespace CbHistory

/-- The committed bytes are at most `n` ahead of the ended reads. -/
def NoOverrun (n : ℕ) (s : CbHistory) : Prop := s.committed.length ≤ s.handed.length + n

instance : DecidablePred (NoOverrun n) := fun _ => Nat.decLe _ _

/-- A fill level between the ones before and after the interrupt. -/
def LevelOk (s : CbHistory) (r : Int × UInt32) : Prop :=
  r.1 = SUCCESS ∧ s.committed.length - s.handed.length ≤ r.2.toNat ∧
    r.2.toNat ≤ s.endWrite.committed.length - s.handed.length

instance (r : Int × UInt32) : Decidable (s.LevelOk r) := inferInstanceAs (Decidable (_ ∧ _ ∧ _))

end CbHistory

lemma cbEndAsyncWrite_desc (desc : CircularBuffer) :
    ∃ w, (cbEndAsyncWrite desc).2 = { desc with write := w } := by
  simp only [cbEndAsyncWrite, cbEndAsyncOperation]
  split
  · exact ⟨desc.write, rfl⟩
  · exact ⟨_, rfl⟩

/-- What an interrupted `cb_size` computes: the write pointer is the old one, the new one or,
when it is split, the old spin count with the new index. -/
lemma cbSizeInterrupted_eq (desc : CircularBuffer) (p : ℕ) :
    let new := (cbEndAsyncWrite desc).2.write
    let spin := if SplitsWritePtr desc p ∨ 4 < p then desc.write.spinCount else new.spinCount
    let idx := if 4 < p then desc.write.idx else new.idx
    cbSizeInterrupted desc p = clampSize desc.size
      (unread desc.size (nbSpins spin desc.read.spinCount) idx desc.read.idx) := by
  obtain ⟨w, hw⟩ := cbEndAsyncWrite_desc desc
  simp only [cbSizeInterrupted, cbSizeLoads, hw, SplitsWritePtr, nbSpins_eq, spins_wrap]
  match p with
  | 0 | 1 | 2 | 3 | 4 =>
    by_cases hgt : desc.write.spinCount > desc.read.spinCount <;> simp [hgt]
  | 5 => simp
  | p + 6 => simp

namespace CbHistory

variable {n : ℕ} {s : CbHistory}

/-- A write pointer seen as a whole, before or after the interrupt, gives a right level. -/
lemma levelOk_whole (h : s.Counts n) (hn : 0 < n) {q : CbPtr} {w : ℕ} (hq : q.At n w)
    (hlo : s.committed.length ≤ w) (hhi : w ≤ s.endWrite.committed.length)
    (hlap : w ≤ s.handed.length + n) :
    s.LevelOk (clampSize s.desc.size (unread s.desc.size
      (nbSpins q.spinCount s.desc.read.spinCount) q.idx s.desc.read.idx)) := by
  have hle : s.handed.length ≤ s.committed.length := (Nat.le_add_right _ _).trans h.ahead
  have hval := unread_of_le h.size hn hq h.read (hle.trans hlo) hlap
  have hsize := h.size
  rw [clampSize_of_le (by lia)]
  refine ⟨rfl, ?_, ?_⟩
  · simp only [hval]
    lia
  · simp only [hval]
    lia

/-- The old spin count with an index that the interrupt has wrapped. -/
lemma levelOk_split (h : s.Counts n) (hn : 0 < n) (hend : s.endWrite.NoOverrun n)
    (hst : s.desc.write.asyncStarted = true)
    (hwrap : s.committed.length % n + s.desc.write.asyncSize.toNat = n) :
    s.LevelOk (clampSize s.desc.size (unread s.desc.size
      (nbSpins s.desc.write.spinCount s.desc.read.spinCount) 0 s.desc.read.idx)) ↔
      s.desc.write.idx = 0 := by
  have hle : s.handed.length ≤ s.committed.length := (Nat.le_add_right _ _).trans h.ahead
  have hlen := h.bytes_length h.write
  have hcom : s.endWrite.committed.length = s.committed.length + s.desc.write.asyncSize.toNat := by
    rw [endWrite_started hst, List.length_append, hlen]
  have hidx : s.desc.write.idx = 0 ↔ s.committed.length % n = 0 := by
    rw [← UInt32.toNat_inj, h.write.idx, UInt32.toNat_zero]
  have hover : s.endWrite.committed.length ≤ s.handed.length + n := hend
  have hdist := Lap.sub_eq (n := n) hle
  have hwm := Nat.mod_lt s.committed.length hn
  have hrm := Nat.mod_lt s.handed.length hn
  have hsize := s.desc.size.toNat_lt
  have hs := h.size
  -- the reader cannot be a lap behind, or the interrupt would overrun it
  have hlap : s.committed.length / n = s.handed.length / n := by
    rcases Lap.laps_le_one hn hle (by lia) with hl | hl
    · exact hl
    · rw [hl, Nat.add_sub_cancel_left, Nat.mul_one] at hdist
      lia
  have hspins := nbSpins_toNat h.write h.read hle
  rw [hlap, Nat.sub_self, Nat.zero_mod] at hspins
  rw [hlap, Nat.sub_self, Nat.mul_zero] at hdist
  have hval := unread_toNat s.desc.size (nbSpins s.desc.write.spinCount s.desc.read.spinCount) 0
    s.desc.read.idx
  rw [hspins, if_neg (Nat.lt_irrefl 0), h.read.idx, UInt32.toNat_zero, Nat.zero_add] at hval
  rw [hidx]
  constructor
  · rintro ⟨hret, hlo, hhi⟩
    by_cases hfull : (unread s.desc.size (nbSpins s.desc.write.spinCount s.desc.read.spinCount) 0
        s.desc.read.idx).toNat ≤ s.desc.size.toNat
    · rw [clampSize_of_le hfull] at hlo hhi
      simp only at hlo hhi
      lia
    · rw [clampSize_of_lt (by lia)] at hret
      simp [SUCCESS, EOVERRUN] at hret
  · intro hz
    rw [clampSize_of_le (by lia)]
    refine ⟨rfl, ?_, ?_⟩
    · simp only
      lia
    · simp only
      lia

lemma counts_of_noOverrun {size : UInt32} {calls : List CbCall}
    {desc : CircularBuffer} (hn : 0 < size.toNat)
    (hdesc : desc = { size := size, buff := List.replicate size.toNat 0 })
    (hno : Trace.Always step (NoOverrun size.toNat) { desc := desc } calls) :
    (Trace.run step { desc := desc } calls).Counts size.toNat := by
  subst hdesc
  exact (hno.strengthen Counts.init (fun t c ht hover _ => ht.step hn hover c)).last

/-- The level of an interrupted `cb_size` is right exactly if the interrupt does not split the
loads of a write pointer that it wraps; a pointer at index 0 does no harm. -/
lemma levelOk_iff (h : s.Counts n) (hn : 0 < n) (hno : s.NoOverrun n) (hend : s.endWrite.NoOverrun n)
    (p : ℕ) :
    s.LevelOk (cbSizeInterrupted s.desc p) ↔
      (SplitsWritePtr s.desc p → StaysInLap s.desc ∨ s.desc.write.idx = 0) := by
  have heq := cbSizeInterrupted_eq s.desc p
  have hidx := h.write.idx
  have hsize := h.size
  have hgrow : s.committed.length ≤ s.endWrite.committed.length := by
    change _ ≤ (s.committed ++ _).length
    rw [List.length_append]
    exact Nat.le_add_right _ _
  have hold := levelOk_whole h hn h.write (Nat.le_refl _) hgrow hno
  have hnew := levelOk_whole h hn (h.endWrite hn).write hgrow (Nat.le_refl _) hend
  have hnewPtr : (cbEndAsyncWrite s.desc).2.write = s.endWrite.desc.write := rfl
  simp only [hnewPtr] at heq
  rw [heq]
  by_cases hp : 4 < p
  · have hns : ¬SplitsWritePtr s.desc p := fun hsp => absurd hsp.2 (by lia)
    simp only [hp, or_true, if_true]
    exact ⟨fun _ hsp => absurd hsp hns, fun _ => hold⟩
  · by_cases hsp : SplitsWritePtr s.desc p
    · simp only [hp, hsp, true_or, if_true, if_false, forall_const]
      cases hst : s.desc.write.asyncStarted with
      | false =>
        rw [h.endWrite_idle hst] at hnew ⊢
        have hz := h.write.idle hst
        have hlt := Nat.mod_lt s.committed.length hn
        refine ⟨fun _ => .inl ?_, fun _ => hold⟩
        unfold StaysInLap
        rw [hz, UInt32.toNat_zero]
        lia
      | true =>
        have hfits := h.write.fits
        have hlt := s.desc.size.toNat_lt
        have hval : (s.desc.write.idx + s.desc.write.asyncSize).toNat =
            s.desc.write.idx.toNat + s.desc.write.asyncSize.toNat := toNat_add_of_lt (by lia)
        have hge : s.desc.write.idx + s.desc.write.asyncSize ≥ s.desc.size ↔
            ¬StaysInLap s.desc := by
          rw [ge_iff_le, UInt32.le_iff_toNat_le, hval]
          unfold StaysInLap
          lia
        rw [endWrite_started hst] at hnew ⊢
        simp only [CbPtr.finish] at hnew ⊢
        by_cases hstay : StaysInLap s.desc
        · rw [if_neg (fun hc => hge.mp hc hstay), if_neg (fun hc => hge.mp hc hstay)] at hnew
          rw [if_neg (fun hc => hge.mp hc hstay)]
          exact ⟨fun _ => .inl hstay, fun _ => hnew⟩
        · have hwrap : s.committed.length % n + s.desc.write.asyncSize.toNat = n := by
            unfold StaysInLap at hstay
            lia
          have hzero : (s.desc.write.idx + s.desc.write.asyncSize) % s.desc.size = 0 := by
            rw [← UInt32.toNat_inj, UInt32.toNat_mod, hval, hidx, hwrap, hsize, Nat.mod_self]
            rfl
          rw [if_pos (hge.mpr hstay), hzero, levelOk_split h hn hend hst hwrap]
          exact ⟨.inr, fun hor => hor.resolve_left hstay⟩
    · simp only [hp, hsp, or_false, if_false]
      exact ⟨fun _ hc => hc.elim, fun _ => hnew⟩

end CbHistory

/-- In every state reached without an overrun, and with an interrupt that causes none, an
interrupted `cb_size` returns a level between the old and the new one exactly if the
interrupt does not wrap a write pointer whose two fields it splits. -/
theorem cb_size_interrupted_iff {size : UInt32} {mem : CbAlloc} {desc : CircularBuffer}
    (hinit : cbInit size mem = (SUCCESS, some desc)) (calls : List CbCall)
    (hno : Trace.Always CbHistory.step (CbHistory.NoOverrun size.toNat) { desc := desc } calls)
    (hend : (Trace.run CbHistory.step { desc := desc } calls).endWrite.NoOverrun size.toNat)
    (p : ℕ) :
    let s := Trace.run CbHistory.step { desc := desc } calls
    s.LevelOk (cbSizeInterrupted s.desc p) ↔
      (SplitsWritePtr s.desc p → StaysInLap s.desc ∨ s.desc.write.idx = 0) := by
  obtain ⟨hn, hdesc⟩ := cbInit_success hinit
  exact CbHistory.levelOk_iff (CbHistory.counts_of_noOverrun hn hdesc hno) hn hno.last hend p

/-- Three bytes written and read in a buffer of four bytes, and a fourth one on its way. -/
def wrapCalls : List CbCall :=
  [.write 2 ⟨[1, 2, 3], by decide⟩, .read 2 3, .prepareAsyncWrite 1, .fill 0 4]

def wrapHistory : CbHistory :=
  Trace.run CbHistory.step { desc := { size := 4, buff := [0, 0, 0, 0] } } wrapCalls

theorem cb_size_interrupted_early :
    wrapHistory.LevelOk (cbSizeInterrupted wrapHistory.desc 3) ↔
      (SplitsWritePtr wrapHistory.desc 3 →
        StaysInLap wrapHistory.desc ∨ wrapHistory.desc.write.idx = 0) :=
  cb_size_interrupted_iff (by decide : cbInit 4 {} = _) wrapCalls (by decide) (by decide) 3

/-- The interrupt commits the fourth byte between the two loads, and `cb_size` reports an
overrun of a buffer that holds one byte. -/
theorem cb_size_interrupted_wrap :
    Trace.Always CbHistory.step (CbHistory.NoOverrun 4)
        { desc := { size := 4, buff := [0, 0, 0, 0] } } wrapCalls ∧
      wrapHistory.endWrite.NoOverrun 4 ∧
      cbSizeInterrupted wrapHistory.desc 4 = (-EOVERRUN, 4) ∧
      ¬wrapHistory.LevelOk (cbSizeInterrupted wrapHistory.desc 4) := by
  decide

end NoOS
