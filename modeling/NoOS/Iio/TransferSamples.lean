import NoOS.Iio.Transfer

/-!
# The number of samples of a transfer

`bytes_to_samples` takes the storage size of the channel whose number is one less than that of the open channels.
-/

namespace NoOS.IioTransfer

open SetBits

/-- Samples are of whole bytes, and the open channels are channels of the device. -/
structure Valid (x : IioTransfer) : Prop where
  bits : ∀ s ∈ x.storagebits, 0 < s.toNat ∧ 8 ∣ s.toNat
  mask : x.chMask.toNat < 2 ^ x.storagebits.length

variable {x : IioTransfer} {i : ℕ} {mask : UInt32} {buffer : Option UInt32} {hasDev : Bool} {ret : Int}
  {bytesCount : UInt32} {call : TransferCall} {calls : List TransferCall}

lemma iterate_count (k : ℕ) : ActiveScan.count^[k] ⟨0, false, 0⟩ =
    ⟨UInt32.ofNat (k - 1), decide (0 < k), UInt32.ofNat k⟩ := by
  induction k with
  | zero => rfl
  | succ k ih =>
    rw [Function.iterate_succ_apply', ih, ActiveScan.count]
    cases k with
    | zero => rfl
    | succ k =>
      have hfound : (!decide (0 < k + 1)) = false := by simp
      have hfirst : UInt32.ofNat (k + 1 - 1) + 1 = UInt32.ofNat (k + 1 + 1 - 1) := by
        rw [Nat.add_sub_cancel, Nat.add_sub_cancel, UInt32.ofNat_add]
        rfl
      have hnb : UInt32.ofNat (k + 1) + 1 = UInt32.ofNat (k + 1 + 1) := by
        rw [UInt32.ofNat_add (k + 1)]
        rfl
      rw [hfirst, hnb]
      simp only [hfound, Bool.false_eq_true, if_false]
      simp

lemma scan_eq (x : IioTransfer) : walk ActiveScan.count 32 x.chMask ⟨0, false, 0⟩ =
    ⟨UInt32.ofNat (x.active.length - 1), decide (0 < x.active.length), UInt32.ofNat x.active.length⟩ := by
  rw [walk_eq x.chMask.toNat_lt, iterate_count]
  rfl

lemma length_active_le (x : IioTransfer) : x.active.length ≤ 32 := length_setBits_le ..

lemma Valid.length_active (h : x.Valid) : x.active.length ≤ x.storagebits.length := length_setBits_le_of_lt h.mask 32

lemma toNat_ofNat_small {k : ℕ} (h : k ≤ 32) : (UInt32.ofNat k).toNat = k :=
  UInt32.toNat_ofNat_of_lt' (h.trans_lt (by decide))

lemma Valid.sampleSize_pos (h : x.Valid) (hi : i < x.storagebits.length) : 0 < x.sampleSize i := by
  obtain ⟨hpos, hdvd⟩ := h.bits _ (List.getElem_mem hi)
  rw [sampleSize, List.getD_eq_getElem _ _ hi]
  exact Nat.div_pos (Nat.le_of_dvd hpos hdvd) (by decide)

lemma sampleSize_lt (x : IioTransfer) (i : ℕ) : x.sampleSize i < 32 := by
  have hlt := (x.storagebits.getD i 0).toNat_lt
  rw [sampleSize]
  lia

lemma Valid.firstSize_pos (h : x.Valid) (hne : x.active ≠ []) : 0 < x.firstSize := by
  apply h.sampleSize_pos
  obtain ⟨i, rest, hcons⟩ := List.exists_cons_of_ne_nil hne
  have hmem : i ∈ x.active := by
    rw [hcons]
    exact List.mem_cons_self ..
  rw [hcons, List.headD_cons]
  exact lt_of_mem h.mask hmem

lemma Valid.bytesToSamples_eq (h : x.Valid) (hne : x.active ≠ []) (bytes : UInt32) : ∃ samples,
    x.bytesToSamples bytes = .ok samples ∧
      samples.toNat = bytes.toNat / (x.sampleSize (x.active.length - 1) * x.active.length) := by
  have hpos : 0 < x.active.length := List.length_pos_iff.mpr hne
  have hle := length_active_le x
  have hindex : x.active.length - 1 < x.storagebits.length := by
    have := h.length_active
    lia
  have hsize := h.sampleSize_pos hindex
  have hword : (x.storagebits[x.active.length - 1].toUInt32 / 8).toNat = x.sampleSize (x.active.length - 1) := by
    rw [UInt32.toNat_div, UInt8.toNat_toUInt32, sampleSize, List.getD_eq_getElem _ _ hindex]
    rfl
  have hnot : ¬(x.storagebits[x.active.length - 1].toUInt32 / 8 = 0 ∨ UInt32.ofNat x.active.length = 0) := by
    rintro (hzero | hzero)
    · rw [hzero] at hword
      exact absurd hword.symm hsize.ne'
    · have hcount := toNat_ofNat_small hle
      rw [hzero] at hcount
      exact absurd hcount.symm hpos.ne'
  refine ⟨bytes / (x.storagebits[x.active.length - 1].toUInt32 / 8) / UInt32.ofNat x.active.length, ?_, ?_⟩
  · rw [bytesToSamples, scan_eq]
    dsimp only
    rw [toNat_ofNat_small (by lia), List.getElem?_eq_getElem hindex]
    exact if_neg hnot
  · rw [UInt32.toNat_div, UInt32.toNat_div, hword, toNat_ofNat_small hle, Nat.div_div_eq_div_mul]

/-- Quotients by different sizes differ for some number of bytes. -/
lemma eq_of_div_eq {s t k : ℕ} (hs : 0 < s) (ht : 0 < t) (hk : 0 < k)
    (h : ∀ b ≤ s * k, b / (s * k) = b / (t * k)) (h' : ∀ b ≤ t * k, b / (s * k) = b / (t * k)) : s = t := by
  rcases Nat.lt_trichotomy s t with hlt | heq | hgt
  · have hzero : s * k / (t * k) = 0 := Nat.div_eq_of_lt (Nat.mul_lt_mul_of_pos_right hlt hk)
    have hone : s * k / (s * k) = 1 := Nat.div_self (Nat.mul_pos hs hk)
    have := h _ le_rfl
    lia
  · exact heq
  · have hzero : t * k / (s * k) = 0 := Nat.div_eq_of_lt (Nat.mul_lt_mul_of_pos_right hgt hk)
    have hone : t * k / (t * k) = 1 := Nat.div_self (Nat.mul_pos ht hk)
    have := h' _ le_rfl
    lia

theorem Valid.counts_iff (h : x.Valid) : x.Counts ↔ x.Uniform := by
  constructor
  · rintro ⟨hne, hcount⟩
    have hpos : 0 < x.active.length := List.length_pos_iff.mpr hne
    have hle := length_active_le x
    have hindex : x.active.length - 1 < x.storagebits.length := by
      have := h.length_active
      lia
    have hsame : ∀ b < 2 ^ 32, b / (x.sampleSize (x.active.length - 1) * x.active.length) =
        b / (x.firstSize * x.active.length) := by
      intro b hb
      obtain ⟨samples, hrun, hval⟩ := h.bytesToSamples_eq hne (UInt32.ofNat b)
      obtain ⟨samples', hrun', hval'⟩ := hcount (UInt32.ofNat b)
      obtain rfl := Except.ok.inj (hrun.symm.trans hrun')
      rwa [hval, UInt32.toNat_ofNat_of_lt' hb] at hval'
    have hbound : ∀ i, x.sampleSize i * x.active.length < 2 ^ 32 := by
      intro i
      have hlt := Nat.mul_le_mul (sampleSize_lt x i).le hle
      omega
    refine ⟨hne, eq_of_div_eq (h.sampleSize_pos hindex) (h.firstSize_pos hne) hpos ?_ ?_⟩
    · exact fun b hb => hsame b (hb.trans_lt (hbound _))
    · exact fun b hb => hsame b (hb.trans_lt (hbound _))
  · rintro ⟨hne, hsize⟩
    refine ⟨hne, fun bytes => ?_⟩
    rw [← hsize]
    exact h.bytesToSamples_eq hne bytes

lemma Valid.transferRight_iff (h : x.Valid) : x.TransferRight buffer hasDev ret bytesCount ↔
    (Transfers buffer hasDev bytesCount → x.Uniform) := by
  constructor
  · rintro hright ⟨size, hsize, hdev, hle⟩
    exact h.counts_iff.mp (hright size hsize hdev hle).1
  · intro huniform size hsize hdev hle
    have hcounts := h.counts_iff.mpr (huniform ⟨size, hsize, hdev, hle⟩)
    obtain ⟨samples, hrun, hval⟩ := hcounts.2 bytesCount
    refine ⟨hcounts, if ret < 0 then ret else bytesCount.toNat, samples, ?_, ?_⟩
    · obtain rfl := Option.mem_def.mp hsize
      have hnot : ¬bytesCount > size := UInt32.not_lt.mpr hle
      have hdo : ¬(!true) = true := by decide
      rw [transfer, hdev]
      rw [if_neg hdo, if_neg hnot, hrun]
      rfl
    · rw [Nat.mul_assoc, hval]
      exact (Nat.div_mul_le_self _ _).trans hle

lemma toNat_channelMask {n : ℕ} (hpos : 1 ≤ n) (hle : n ≤ 32) :
    ((0xFFFFFFFF : UInt32) >>> UInt32.ofNat (32 - n)).toNat = 2 ^ n - 1 := by
  have hshift : (UInt32.ofNat (32 - n)).toNat % 32 = 32 - n := by
    rw [toNat_ofNat_small (Nat.sub_le ..), Nat.mod_eq_of_lt (by lia)]
  have hsplit : 2 ^ n * 2 ^ (32 - n) = 2 ^ 32 := by rw [← Nat.pow_add, Nat.add_sub_cancel' hle]
  have hn := Nat.two_pow_pos n
  have hk := Nat.two_pow_pos (32 - n)
  rw [UInt32.toNat_shiftRight, hshift, Nat.shiftRight_eq_div_pow]
  change (2 ^ 32 - 1) / 2 ^ (32 - n) = 2 ^ n - 1
  apply Nat.div_eq_of_lt_le
  · rw [Nat.sub_mul, hsplit]
    lia
  · rw [Nat.sub_add_cancel hn, hsplit]
    omega

lemma openDev_mask {n : ℕ} (hpos : 1 ≤ n) (hle : n ≤ 32)
    (hmask : mask &&& ~~~((0xFFFFFFFF : UInt32) >>> UInt32.ofNat (32 - n)) = 0) : mask.toNat < 2 ^ n := by
  apply Nat.lt_pow_two_of_testBit
  intro i hi
  by_cases hlt : i < 32
  · have hbit := congrArg (fun w : UInt32 => w.toNat.testBit i) hmask
    have hlow : (2 ^ n - 1).testBit i = false := by
      rw [Nat.testBit_two_pow_sub_one]
      exact decide_eq_false (Nat.not_lt.mpr hi)
    have hmax : 2 ^ n - 1 < 2 ^ 32 := by
      have := Nat.pow_le_pow_right Nat.two_pos hle
      lia
    have hnot : (~~~((0xFFFFFFFF : UInt32) >>> UInt32.ofNat (32 - n))).toNat = 2 ^ 32 - (2 ^ n - 1 + 1) := by
      rw [UInt32.toNat_not, toNat_channelMask hpos hle]
      simp only [UInt32.size]
      lia
    rw [UInt32.toNat_and, Nat.testBit_and, hnot, Nat.testBit_two_pow_sub_succ hmax, hlow, UInt32.toNat_zero,
      Nat.zero_testBit] at hbit
    simpa [hlt] using hbit
  · exact Nat.testBit_lt_two_pow (mask.toNat_lt.trans_le (Nat.pow_le_pow_right Nat.two_pos (Nat.le_of_not_lt hlt)))

lemma openDev_right_iff {prepared : Option Int} : (∃ r, x.openDev mask prepared = .ok r) ↔
    1 ≤ x.storagebits.length ∧ x.storagebits.length ≤ 32 := by
  rw [openDev]
  constructor
  · rintro ⟨r, hr⟩
    split_ifs at hr with hlen
    lia
  · intro hlen
    have hnot : ¬(x.storagebits.length = 0 ∨ 32 < x.storagebits.length) := by lia
    rw [if_neg hnot]
    dsimp only
    split_ifs
    · exact ⟨_, rfl⟩
    · exact ⟨_, rfl⟩

lemma Valid.right_iff (h : x.Valid) : x.Right call ↔ x.Sound call := by
  cases call with
  | openDev mask prepared => exact openDev_right_iff
  | closeDev ended => exact Iff.rfl
  | devToMem ret bytesCount => exact h.transferRight_iff
  | memToDev ret bytesCount => exact h.transferRight_iff

lemma unless_map {α : Type} {y : IioTransfer} (hy : y.Valid) (r : Except TransferFault α) :
    Trace.Unless (fun _ => True) Valid (r.map fun _ => y) := by
  cases r with
  | error f => trivial
  | ok a => exact hy

/-- The mask is one of the channels of the device, also after a refused call. -/
lemma Valid.step (h : x.Valid) : Trace.Unless (fun _ => True) Valid (x.step call) := by
  cases call with
  | openDev mask prepared =>
    rw [IioTransfer.step, openDev]
    dsimp only
    split_ifs with hlen hmask
    · trivial
    · exact h
    · have hpos : 1 ≤ x.storagebits.length := by lia
      have hle : x.storagebits.length ≤ 32 := by omega
      exact ⟨h.bits, openDev_mask hpos hle (not_not.mp hmask)⟩
  | closeDev ended => exact ⟨h.bits, Nat.two_pow_pos _⟩
  | devToMem ret bytesCount => exact unless_map h _
  | memToDev ret bytesCount => exact unless_map h _

/-- In every run of calls from a device without open channels, all calls are right if and only if each open call is for
a device with 1 to 32 channels and each transfer meets open channels of which the first is as large as the channel that
is looked at. -/
theorem transfers_right_iff (hbits : ∀ s ∈ x.storagebits, 0 < s.toNat ∧ 8 ∣ s.toNat) (hclosed : x.chMask = 0) :
    Trace.Guarded (Trace.orFault step) (Trace.untilFault Right) (.ok x) calls ↔
      Trace.Guarded (Trace.orFault step) (Trace.untilFault Sound) (.ok x) calls := by
  have hvalid : x.Valid := ⟨hbits, by
    rw [hclosed]
    exact Nat.two_pow_pos _⟩
  have hstart : Trace.Unless (fun _ : TransferFault => True) Valid (.ok x) := hvalid
  refine Trace.guarded_congr hstart ?_ ?_
  · intro r call hr
    cases r with
    | error f => trivial
    | ok y => exact Valid.step hr
  · intro r call hr
    cases r with
    | error f => exact Iff.rfl
    | ok y => exact Valid.right_iff hr

/-- Two channels of 16 bits: open both, transfer, close -/
theorem transfers_right_two : Trace.Guarded (Trace.orFault step) (Trace.untilFault Right)
    (.ok ⟨[16, 16], true, false, some 64, none, 0⟩)
    [.openDev 3 (some 0), .devToMem 0 64, .closeDev none] := by
  have hbits : ∀ s ∈ [(16 : UInt8), 16], 0 < s.toNat ∧ 8 ∣ s.toNat :=
    List.forall_mem_cons.mpr ⟨by decide, List.forall_mem_cons.mpr ⟨by decide, List.forall_mem_nil _⟩⟩
  have huniform : Uniform ⟨[16, 16], true, false, some 64, none, 3⟩ := ⟨by decide, by decide⟩
  refine (transfers_right_iff hbits rfl).mpr ?_
  refine Trace.guarded_cons.mpr ⟨⟨by decide, by decide⟩, Trace.guarded_cons.mpr ⟨fun _ => huniform, ?_⟩⟩
  exact Trace.guarded_cons.mpr ⟨trivial, Trace.guarded_nil⟩

/-- Of channels with 32, 8 and 32 bits, 0 and 2 are open. The size of channel 1 is looked at, and 256 bytes are asked for. -/
theorem transfers_not_right : ¬∀ (x : IioTransfer) (calls : List TransferCall),
    (∀ s ∈ x.storagebits, 0 < s.toNat ∧ 8 ∣ s.toNat) → x.chMask = 0 →
      Trace.Guarded (Trace.orFault step) (Trace.untilFault Right) (.ok x) calls := by
  intro h
  have hbits : ∀ s ∈ [(32 : UInt8), 8, 32], 0 < s.toNat ∧ 8 ∣ s.toNat :=
    List.forall_mem_cons.mpr ⟨by decide, List.forall_mem_cons.mpr ⟨by decide,
      List.forall_mem_cons.mpr ⟨by decide, List.forall_mem_nil _⟩⟩⟩
  have hrun := h ⟨[32, 8, 32], true, false, some 64, none, 0⟩ [.openDev 5 none, .devToMem 0 64] hbits rfl
  have hright : Right ⟨[32, 8, 32], true, false, some 64, none, 5⟩ (.devToMem 0 64) :=
    (Trace.guarded_cons.mp (Trace.guarded_cons.mp hrun).2).1
  obtain ⟨-, r, samples, htransfer, hle⟩ := hright 64 rfl rfl (by decide)
  have hasked : iioTransferDevToMem ⟨[32, 8, 32], true, false, some 64, none, 5⟩ 0 64 = .ok (64, some 32) := by decide
  obtain ⟨-, hsamples⟩ := Prod.mk.inj (Except.ok.inj (hasked.symm.trans htransfer))
  obtain rfl := Option.some.inj hsamples
  exact absurd hle (by decide)

end NoOS.IioTransfer
