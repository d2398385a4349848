import NoOS.Drivers.Ad7606

/-!
# The samples that a read returns

Each pass of an unpacking loop writes the slices of the stream that its bytes hold, so that the samples come out in
order. A frame that is changed by a burst of up to 16 bits does not have its checksum.
-/

namespace NoOS

open BitStream

lemma foldl_fill {α : Type} {step : (ℕ → α) → ℕ → ℕ → α} {v : ℕ → α} {c n : ℕ}
    (hstep : ∀ d g, g < n → step d g = fun i => if c * g ≤ i ∧ i < c * g + c then v i else d i) (d : ℕ → α) :
    (List.range n).foldl step d = fun i => if i < c * n then v i else d i := by
  induction n with
  | zero =>
    funext i
    rw [Nat.mul_zero, if_neg (Nat.not_lt_zero i)]
    rfl
  | succ n ih =>
    rw [List.range_succ, List.foldl_append, ih fun d g hg => hstep d g (by lia), List.foldl_cons, List.foldl_nil,
      hstep _ n (Nat.lt_succ_self n)]
    funext i
    have hnext : c * (n + 1) = c * n + c := Nat.mul_succ c n
    by_cases hnew : c * n ≤ i ∧ i < c * n + c
    · rw [if_pos hnew, if_pos (by lia)]
    · by_cases hold : i < c * n
      · rw [if_neg hnew, if_pos hold, if_pos (by lia)]
      · rw [if_neg hnew, if_neg hold, if_neg (by lia)]

lemma update_four {α : Type} {d v : ℕ → α} {j : ℕ} {w₀ w₁ w₂ w₃ : α} (h₀ : w₀ = v (j + 0)) (h₁ : w₁ = v (j + 1))
    (h₂ : w₂ = v (j + 2)) (h₃ : w₃ = v (j + 3)) :
    Function.update (Function.update (Function.update (Function.update d (j + 0) w₀) (j + 1) w₁) (j + 2) w₂)
      (j + 3) w₃ = fun i => if j ≤ i ∧ i < j + 4 then v i else d i := by
  funext i
  by_cases hi : j ≤ i ∧ i < j + 4
  · rw [if_pos hi, h₀, h₁, h₂, h₃]
    have hcases : i = j + 0 ∨ i = j + 1 ∨ i = j + 2 ∨ i = j + 3 := by lia
    rcases hcases with rfl | rfl | rfl | rfl
    all_goals simp [Function.update]
  · rw [if_neg hi, Function.update_of_ne (by lia), Function.update_of_ne (by lia),
      Function.update_of_ne (by lia), Function.update_of_ne (by lia)]

variable {fb : List Bool} {offset m : ℕ} {a b c d : UInt8}

/-- A sample of 18 bits begins in a byte of which it takes the lowest `n` bits. -/
lemma join18 (n : ℕ) (hsum : m + n = 8) (hn : 2 ≤ n) (hlen : offset + 24 ≤ fb.length)
    (ha : a.toNat = slice fb offset 8) (hb : b.toNat = slice fb (offset + 8) 8)
    (hc : c.toNat = slice fb (offset + 16) 8) :
    (a &&& UInt8.ofNat (2 ^ n - 1)).toUInt32 <<< UInt32.ofNat (18 - n) ||| b.toUInt32 <<< UInt32.ofNat (10 - n) |||
      c.toUInt32 >>> UInt32.ofNat (n - 2) = UInt32.ofNat (slice fb (offset + m) 18) := by
  have hfirst := (Holds.low n ha hsum (by lia)).shift (18 - n) (by lia) (by lia)
  have hsecond := (Holds.byte hb).shift (10 - n) (by lia) (by lia)
  have hlast : Holds fb (offset + 16) (10 - n) 0 _ := Holds.high (n - 2) hc (by lia) (by omega)
  have htwo : Holds fb (offset + m) (n + 8) (10 - n) _ :=
    hfirst.or hsecond (by lia) (by lia) rfl (by lia)
  exact (htwo.or hlast (by lia) (by lia) (by lia) (by lia)).eq_ofNat

lemma join26 (n : ℕ) (hsum : m + n = 8) (hn : 2 ≤ n) (hlen : offset + 32 ≤ fb.length)
    (ha : a.toNat = slice fb offset 8) (hb : b.toNat = slice fb (offset + 8) 8)
    (hc : c.toNat = slice fb (offset + 16) 8) (hd : d.toNat = slice fb (offset + 24) 8) :
    (a &&& UInt8.ofNat (2 ^ n - 1)).toUInt32 <<< UInt32.ofNat (26 - n) ||| b.toUInt32 <<< UInt32.ofNat (18 - n) |||
      c.toUInt32 <<< UInt32.ofNat (10 - n) ||| d.toUInt32 >>> UInt32.ofNat (n - 2) =
      UInt32.ofNat (slice fb (offset + m) 26) := by
  have hfirst := (Holds.low n ha hsum (by lia)).shift (26 - n) (by lia) (by lia)
  have hsecond := (Holds.byte hb).shift (18 - n) (by lia) (by lia)
  have hthird := (Holds.byte hc).shift (10 - n) (by lia) (by lia)
  have hlast : Holds fb (offset + 24) (10 - n) 0 _ := Holds.high (n - 2) hd (by lia) (by omega)
  have htwo : Holds fb (offset + m) (n + 8) (18 - n) _ :=
    hfirst.or hsecond (by lia) (by lia) rfl (by lia)
  have hthree : Holds fb (offset + m) (n + 16) (10 - n) _ :=
    htwo.or hthird (by lia) (by lia) (by lia) (by lia)
  exact (hthree.or hlast (by lia) (by lia) (by lia) (by lia)).eq_ofNat

variable {psrc : ℕ → UInt8}

/-- The bytes are those of the stream. -/
def Carries (psrc : ℕ → UInt8) (fb : List Bool) : Prop :=
  ∀ k, 8 * k + 8 ≤ fb.length → (psrc k).toNat = slice fb (8 * k) 8

/-- The sample `i` of `n` bits. -/
def sampleAt (fb : List Bool) (n i : ℕ) : UInt32 := UInt32.ofNat (slice fb (n * i) n)

lemma cpy18b32bStep_eq (hcarries : Carries psrc fb) {g : ℕ} (hlen : 72 * g + 72 ≤ fb.length) (pdst : ℕ → UInt32) :
    cpy18b32bStep psrc pdst g = fun i => if 4 * g ≤ i ∧ i < 4 * g + 4 then sampleAt fb 18 i else pdst i := by
  have hbyte : ∀ k, k < 9 → (psrc (9 * g + k)).toNat = slice fb (72 * g + 8 * k) 8 := by
    intro k hk
    rw [hcarries _ (by lia), show 8 * (9 * g + k) = 72 * g + 8 * k by lia]
  rw [cpy18b32bStep, show 9 * g / 9 = g by lia]
  apply update_four
  · rw [sampleAt, show 18 * (4 * g + 0) = 72 * g + 8 * 0 + 0 by lia]
    exact join18 8 rfl (by omega) (by lia) (hbyte 0 (by omega)) (hbyte 1 (by omega)) (hbyte 2 (by omega))
  · rw [sampleAt, show 18 * (4 * g + 1) = 72 * g + 8 * 2 + 2 by lia]
    exact join18 6 rfl (by omega) (by lia) (hbyte 2 (by omega)) (hbyte 3 (by omega)) (hbyte 4 (by omega))
  · rw [sampleAt, show 18 * (4 * g + 2) = 72 * g + 8 * 4 + 4 by lia]
    exact join18 4 rfl (by omega) (by lia) (hbyte 4 (by omega)) (hbyte 5 (by omega)) (hbyte 6 (by omega))
  · rw [sampleAt, show 18 * (4 * g + 3) = 72 * g + 8 * 6 + 6 by lia]
    exact join18 2 rfl (by omega) (by omega) (hbyte 6 (by omega)) (hbyte 7 (by omega)) (hbyte 8 (by omega))

lemma cpy26b32bStep_eq (hcarries : Carries psrc fb) {g : ℕ} (hlen : 104 * g + 104 ≤ fb.length) (pdst : ℕ → UInt32) :
    cpy26b32bStep psrc pdst g = fun i => if 4 * g ≤ i ∧ i < 4 * g + 4 then sampleAt fb 26 i else pdst i := by
  have hbyte : ∀ k, k < 13 → (psrc (13 * g + k)).toNat = slice fb (104 * g + 8 * k) 8 := by
    intro k hk
    rw [hcarries _ (by lia), show 8 * (13 * g + k) = 104 * g + 8 * k by lia]
  rw [cpy26b32bStep, show 13 * g / 13 = g by lia]
  apply update_four
  · rw [sampleAt, show 26 * (4 * g + 0) = 104 * g + 8 * 0 + 0 by lia]
    exact join26 8 rfl (by omega) (by lia) (hbyte 0 (by omega)) (hbyte 1 (by omega)) (hbyte 2 (by omega))
      (hbyte 3 (by omega))
  · rw [sampleAt, show 26 * (4 * g + 1) = 104 * g + 8 * 3 + 2 by lia]
    exact join26 6 rfl (by omega) (by lia) (hbyte 3 (by omega)) (hbyte 4 (by omega)) (hbyte 5 (by omega))
      (hbyte 6 (by omega))
  · rw [sampleAt, show 26 * (4 * g + 2) = 104 * g + 8 * 6 + 4 by lia]
    exact join26 4 rfl (by omega) (by lia) (hbyte 6 (by omega)) (hbyte 7 (by omega)) (hbyte 8 (by omega))
      (hbyte 9 (by omega))
  · rw [sampleAt, show 26 * (4 * g + 3) = 104 * g + 8 * 9 + 6 by lia]
    exact join26 2 rfl (by omega) (by omega) (hbyte 9 (by omega)) (hbyte 10 (by omega)) (hbyte 11 (by omega))
      (hbyte 12 (by omega))

lemma ad7606Sample16_eq {dev : Ad7606Dev} (hcarries : Carries dev.data fb) {g : ℕ}
    (hlen : (16 + if dev.statusHeader then 8 else 0) * (g + 1) ≤ fb.length) (data : ℕ → UInt32) :
    ad7606Sample16 dev data g = fun i =>
      if 1 * g ≤ i ∧ i < 1 * g + 1 then sampleAt fb (16 + if dev.statusHeader then 8 else 0) i else data i := by
  have hvalue : ad7606Sample16 dev data g =
      Function.update data g (sampleAt fb (16 + if dev.statusHeader then 8 else 0) g) := by
    unfold ad7606Sample16 sampleAt
    by_cases hheader : dev.statusHeader = true
    · simp only [hheader, if_true] at hlen ⊢
      have hbyte : ∀ k, k < 3 → (dev.data (g * 3 + k)).toNat = slice fb (24 * g + 8 * k) 8 := by
        intro k hk
        rw [hcarries _ (by lia), show 8 * (g * 3 + k) = 24 * g + 8 * k by lia]
      have hfirst := (Holds.byte (hbyte 0 (by omega))).shift 16 (by omega) (by omega)
      have hsecond := (Holds.byte (hbyte 1 (by omega))).shift 8 (by omega) (by omega)
      have htwo : Holds fb (24 * g) 16 8 _ := hfirst.or hsecond (by omega) (by lia) rfl (by lia)
      have hall : Holds fb (24 * g) 24 0 _ :=
        htwo.or (Holds.byte (hbyte 2 (by omega))) (by omega) (by lia) rfl (by omega)
      rw [Function.update_idem, Function.update_self, Function.update_idem, Function.update_self, ← hall.eq_ofNat]
      rfl
    · simp only [Bool.not_eq_true] at hheader
      simp only [hheader, Bool.false_eq_true, if_false] at hlen ⊢
      have hbyte : ∀ k, k < 2 → (dev.data (g * 2 + k)).toNat = slice fb (16 * g + 8 * k) 8 := by
        intro k hk
        rw [hcarries _ (by lia), show 8 * (g * 2 + k) = 16 * g + 8 * k by lia]
      have hfirst := (Holds.byte (hbyte 0 (by omega))).shift 8 (by omega) (by omega)
      have hall : Holds fb (16 * g) 16 0 _ :=
        hfirst.or (Holds.byte (hbyte 1 (by omega))) (by omega) (by lia) rfl (by omega)
      rw [Function.update_idem, Function.update_self]
      rw [← hall.eq_ofNat]
      rfl
  rw [hvalue]
  funext i
  by_cases hi : i = g
  · rw [hi, Function.update_self, if_pos (by lia : 1 * g ≤ g ∧ g < 1 * g + 1)]
  · rw [Function.update_of_ne hi, if_neg (by lia : ¬ (1 * g ≤ i ∧ i < 1 * g + 1))]

lemma ad7606ChipInfoTbl_cases (id : Ad7606DeviceId) :
    (ad7606ChipInfoTbl id).bits = 18 ∧ (ad7606ChipInfoTbl id).numChannels = 8 ∨
      (ad7606ChipInfoTbl id).bits = 16 ∧ (ad7606ChipInfoTbl id).numChannels % 2 = 0 ∧
        (ad7606ChipInfoTbl id).numChannels ≤ 8 := by
  cases id <;> decide

/-- The bits that a channel has in a frame. -/
def Ad7606Dev.sampleBits (dev : Ad7606Dev) : ℕ :=
  (ad7606ChipInfoTbl dev.deviceId).bits + if dev.statusHeader then 8 else 0

def Ad7606Dev.numChannels (dev : Ad7606Dev) : ℕ := (ad7606ChipInfoTbl dev.deviceId).numChannels

lemma ad7606SampleBytes_eq (dev : Ad7606Dev) :
    8 * ad7606SampleBytes dev = dev.numChannels * dev.sampleBits ∧ ad7606SampleBytes dev ≤ 26 := by
  unfold ad7606SampleBytes Ad7606Dev.numChannels Ad7606Dev.sampleBits
  rcases ad7606ChipInfoTbl_cases dev.deviceId with ⟨hbits, hnum⟩ | ⟨hbits, heven, hle⟩
  · rw [hbits, hnum]
    cases dev.statusHeader <;> decide
  · rw [hbits]
    cases dev.statusHeader with
    | false => simp only [Bool.false_eq_true, if_false]; lia
    | true => simp only [if_true]; lia

lemma ad7606Unpack_eq {dev : Ad7606Dev} (hcarries : Carries dev.data fb)
    (hlen : fb.length = dev.numChannels * dev.sampleBits) (data : ℕ → UInt32) :
    ad7606Unpack dev (ad7606SampleBytes dev) SUCCESS data =
      (SUCCESS, fun i => if i < dev.numChannels then sampleAt fb dev.sampleBits i else data i) := by
  obtain ⟨hbytes, hmax⟩ := ad7606SampleBytes_eq dev
  rw [← hlen] at hbytes
  unfold Ad7606Dev.sampleBits Ad7606Dev.numChannels at *
  unfold ad7606Unpack
  dsimp only
  rcases ad7606ChipInfoTbl_cases dev.deviceId with ⟨hbits, hnum⟩ | ⟨hbits, -, -⟩
  · rw [hbits, hnum] at hlen ⊢
    rw [if_pos rfl]
    by_cases hheader : dev.statusHeader = true
    · rw [if_pos hheader] at hlen ⊢
      rw [if_pos hheader, show ad7606SampleBytes dev = 26 by lia, cpy26b32b, if_neg (by decide),
        foldl_fill (fun pdst g hg => cpy26b32bStep_eq hcarries (by lia) pdst)]
    · rw [if_neg hheader] at hlen ⊢
      rw [if_neg hheader, show ad7606SampleBytes dev = 18 by lia, cpy18b32b, if_neg (by decide),
        foldl_fill (fun pdst g hg => cpy18b32bStep_eq hcarries (by lia) pdst)]
  · rw [hbits] at hlen ⊢
    rw [if_neg (by omega), if_pos rfl, foldl_fill (fun data g hg => ad7606Sample16_eq hcarries
      (by rw [hlen, Nat.mul_comm]; exact Nat.mul_le_mul_right _ hg) data), Nat.one_mul]

structure Ad7606Sample (n : ℕ) where
  value : BitVec n
  status : BitVec 8

namespace Ad7606Sample

variable {n : ℕ}

def stream (statusHeader : Bool) (s : Ad7606Sample n) : List Bool :=
  bits n s.value.toNat ++ if statusHeader then bits 8 s.status.toNat else []

/-- The sample as the caller gets it, with the status in the lowest bits. -/
def word (statusHeader : Bool) (s : Ad7606Sample n) : UInt32 :=
  if statusHeader then UInt32.ofNat (s.value.toNat * 2 ^ 8 + s.status.toNat) else UInt32.ofNat s.value.toNat

lemma length_stream (statusHeader : Bool) (s : Ad7606Sample n) :
    (s.stream statusHeader).length = n + if statusHeader then 8 else 0 := by
  cases statusHeader with
  | false => simp [stream, length_bits]
  | true => simp [stream, length_bits]

lemma value_stream (statusHeader : Bool) (s : Ad7606Sample n) :
    UInt32.ofNat (BitStream.value (s.stream statusHeader)) = s.word statusHeader := by
  have hvalue : BitStream.value (bits n s.value.toNat) = s.value.toNat := by
    rw [value_bits, Nat.mod_eq_of_lt s.value.isLt]
  have hstatus : BitStream.value (bits 8 s.status.toNat) = s.status.toNat := by
    rw [value_bits, Nat.mod_eq_of_lt s.status.isLt]
  cases statusHeader with
  | false => simp [stream, word, hvalue]
  | true => simp [stream, word, value_append, hvalue, hstatus, length_bits]

end Ad7606Sample

namespace Ad7606Dev

variable (dev : Ad7606Dev)

/-- A sample for each channel. -/
abbrev Samples : Type := Fin dev.numChannels → Ad7606Sample (ad7606ChipInfoTbl dev.deviceId).bits

def stream (samples : dev.Samples) : List Bool := (List.ofFn samples).flatMap (Ad7606Sample.stream dev.statusHeader)

def checksum (data : List UInt8) : List UInt8 :=
  let crc := Crc.feed 0x755B#16 0#16 (bitsOf data)
  [UInt8.ofNat (crc.toNat / 256), UInt8.ofNat (crc.toNat % 256)]

/-- The bytes of a frame. -/
def frame (samples : dev.Samples) : List UInt8 :=
  bytes (dev.stream samples) ++ if dev.intCrcErrEn then checksum (bytes (dev.stream samples)) else []

/-- The buffer of the caller after a frame. -/
def result (samples : dev.Samples) (data : ℕ → UInt32) (i : ℕ) : UInt32 :=
  if h : i < dev.numChannels then (samples ⟨i, h⟩).word dev.statusHeader else data i

variable {dev} {samples : dev.Samples}

lemma length_stream : (dev.stream samples).length = dev.numChannels * dev.sampleBits := by
  have hlen : ∀ l : List (Ad7606Sample (ad7606ChipInfoTbl dev.deviceId).bits),
      (l.flatMap (Ad7606Sample.stream dev.statusHeader)).length = l.length * dev.sampleBits := by
    intro l
    induction l with
    | nil => exact (Nat.zero_mul _).symm
    | cons s l ih =>
      rw [List.flatMap_cons, List.length_append, Ad7606Sample.length_stream, ih, List.length_cons, Nat.succ_mul,
        Nat.add_comm]
      rfl
  rw [stream, hlen, List.length_ofFn]

lemma sampleAt_stream (data : ℕ → UInt32) :
    (fun i => if i < dev.numChannels then sampleAt (dev.stream samples) dev.sampleBits i else data i) =
      dev.result samples data := by
  funext i
  unfold result
  by_cases hi : i < dev.numChannels
  · have hslice := slice_flatMap (Ad7606Sample.length_stream dev.statusHeader) (List.ofFn samples)
      (hi.trans_eq (List.length_ofFn).symm)
    rw [if_pos hi, dif_pos hi, ← Ad7606Sample.value_stream, sampleAt]
    exact congrArg UInt32.ofNat (hslice.trans (by rw [List.get_ofFn]; rfl))
  · rw [if_neg hi, dif_neg hi]

lemma length_bytes_stream : (bytes (dev.stream samples)).length = ad7606SampleBytes dev := by
  have hbytes := (ad7606SampleBytes_eq dev).1
  rw [BitStream.length_bytes, length_stream]
  lia

lemma length_frame : (dev.frame samples).length = ad7606SampleBytes dev + if dev.intCrcErrEn then 2 else 0 := by
  rw [frame, List.length_append, length_bytes_stream]
  cases dev.intCrcErrEn <;> rfl

lemma map_fill {rx : List UInt8} {n : ℕ} (hn : n ≤ rx.length) : (List.range n).map (dev.fill rx).data = rx.take n := by
  apply List.ext_getElem
  · rw [List.length_map, List.length_range, List.length_take, Nat.min_eq_left hn]
  · intro i hi hi'
    rw [List.getElem_map, List.getElem_range, List.getElem_take]
    exact List.getD_eq_getElem _ _ _

variable (dev) in
/-- The device structure with a received frame in its buffer. -/
def received (rx : List UInt8) : Ad7606Dev := (dev.fill (List.replicate rx.length 0)).fill rx

lemma spiDataRead_unchecked (hcrc : dev.intCrcErrEn = false) {rx : List UInt8} (data : ℕ → UInt32)
    (hlen : rx.length = ad7606SampleBytes dev) :
    ad7606SpiDataRead (fun _ => (SUCCESS, rx)) dev data =
      ⟨rx.length, (ad7606Unpack (dev.received rx) (ad7606SampleBytes dev) SUCCESS data).1, dev.received rx,
        (ad7606Unpack (dev.received rx) (ad7606SampleBytes dev) SUCCESS data).2⟩ := by
  have htake : rx.take (ad7606SampleBytes dev) = rx := List.take_of_length_le hlen.le
  simp only [ad7606SpiDataRead, hcrc, Bool.false_eq_true, if_false, htake, received, fill, hlen]
  rw [if_neg (by decide)]

/-- The two bytes at the end are taken for the checksum of the others. -/
lemma spiDataRead_checked (hcrc : dev.intCrcErrEn = true) {sent : List UInt8} {hi lo : UInt8} (data : ℕ → UInt32)
    (hlen : sent.length = ad7606SampleBytes dev) :
    ad7606SpiDataRead (fun _ => (SUCCESS, sent ++ [hi, lo])) dev data =
      if hi.toUInt16 <<< 8 ||| lo.toUInt16 ≠ crc16 ad7606Crc16 sent 0 then
        ⟨sent.length + 2, -EBADMSG, dev.received (sent ++ [hi, lo]), data⟩
      else
        ⟨sent.length + 2, (ad7606Unpack (dev.received (sent ++ [hi, lo])) (ad7606SampleBytes dev) SUCCESS data).1,
          dev.received (sent ++ [hi, lo]),
          (ad7606Unpack (dev.received (sent ++ [hi, lo])) (ad7606SampleBytes dev) SUCCESS data).2⟩ := by
  have hall : (sent ++ [hi, lo]).length = ad7606SampleBytes dev + 2 := by rw [List.length_append, hlen]; rfl
  have htake : (sent ++ [hi, lo]).take (ad7606SampleBytes dev + 2) = sent ++ [hi, lo] :=
    List.take_of_length_le hall.le
  have hdev : (dev.fill (List.replicate (ad7606SampleBytes dev + 2) 0)).fill (sent ++ [hi, lo]) =
      dev.received (sent ++ [hi, lo]) := by rw [received, hall]
  have hsent : (List.range (ad7606SampleBytes dev)).map (dev.received (sent ++ [hi, lo])).data = sent := by
    rw [received, map_fill (by lia), ← hlen, List.take_left]
  have hhi : (dev.received (sent ++ [hi, lo])).data (ad7606SampleBytes dev) = hi := by
    rw [← hlen]
    simp [received, fill]
  have hlo : (dev.received (sent ++ [hi, lo])).data (ad7606SampleBytes dev + 1) = lo := by
    rw [← hlen]
    simp [received, fill]
  unfold ad7606SpiDataRead
  simp only [hcrc, if_true, htake, hdev, Nat.add_sub_cancel, hsent, hhi, hlo, hlen]
  rw [if_neg (by decide)]
  exact if_pos hcrc

lemma received_carries {rx extra : List UInt8} (hrx : rx = bytes fb ++ extra) : Carries (dev.received rx).data fb := by
  intro k hk
  have hlt : k < (bytes fb).length := by rw [BitStream.length_bytes]; lia
  rw [← getD_bytes hk 0]
  congr 1
  simp [received, fill, hrx, List.getElem?_append_left hlt, hlt]

lemma unpack_received {rx extra : List UInt8} (hrx : rx = bytes (dev.stream samples) ++ extra) (data : ℕ → UInt32) :
    ad7606Unpack (dev.received rx) (ad7606SampleBytes dev) SUCCESS data = (SUCCESS, dev.result samples data) := by
  have hunpack := @ad7606Unpack_eq (dev.stream samples) (dev.received rx) (received_carries hrx) length_stream data
  rw [← sampleAt_stream]
  exact hunpack

lemma checksum_eq (sent : List UInt8) : ∃ hi lo, checksum sent = [hi, lo] ∧
    hi.toUInt16 <<< 8 ||| lo.toUInt16 = crc16 ad7606Crc16 sent 0 := by
  have hcrc : (crc16 ad7606Crc16 sent 0).toNat = (Crc.feed 0x755B#16 0#16 (bitsOf sent)).toNat :=
    congrArg BitVec.toNat (crc16_toBitVec 0x755B sent 0)
  refine ⟨_, _, rfl, UInt16.toNat_inj.mp ?_⟩
  have hlt := (Crc.feed 0x755B#16 0#16 (bitsOf sent)).isLt
  rw [hcrc, UInt16.toNat_or, UInt16.toNat_shiftLeft, UInt8.toNat_toUInt16, UInt8.toNat_toUInt16,
    UInt8.toNat_ofNat_of_lt' (by simp only [UInt8.size]; lia), UInt8.toNat_ofNat_of_lt' (Nat.mod_lt _ (by decide)),
    show (UInt16.toNat 8 % 16) = 8 from rfl, Nat.shiftLeft_eq, Nat.mod_eq_of_lt (by lia), Nat.mul_comm,
    ← Nat.two_pow_add_eq_or_of_lt (Nat.mod_lt _ (by decide)), Nat.div_add_mod]

end Ad7606Dev

lemma ad7606Crc16_odd : (UInt16.toBitVec 0x755B).getLsbD 0 = true := rfl

lemma eq_append_two {l : List UInt8} {n : ℕ} (hlen : l.length = n + 2) :
    ∃ sent hi lo, l = sent ++ [hi, lo] ∧ sent.length = n := by
  have htake := List.take_append_drop n l
  have hdrop : (l.drop n).length = 2 := by rw [List.length_drop]; lia
  obtain ⟨hi, lo, hpair⟩ := List.length_eq_two.mp hdrop
  exact ⟨l.take n, hi, lo, by rw [← hpair, htake], by rw [List.length_take]; lia⟩

open Ad7606Dev

lemma spiDataRead_frame (dev : Ad7606Dev) (samples : dev.Samples) (data : ℕ → UInt32) :
    ad7606SpiDataRead (fun _ => (SUCCESS, dev.frame samples)) dev data =
      ⟨(dev.frame samples).length, SUCCESS, dev.received (dev.frame samples), dev.result samples data⟩ := by
  have hlen := @length_frame dev samples
  cases hcrc : dev.intCrcErrEn with
  | false =>
    rw [hcrc, if_neg Bool.false_ne_true, Nat.add_zero] at hlen
    have hframe : dev.frame samples = bytes (dev.stream samples) ++ [] := by
      rw [frame, hcrc, if_neg Bool.false_ne_true]
    rw [spiDataRead_unchecked hcrc data hlen, unpack_received hframe]
  | true =>
    obtain ⟨hi, lo, hsum, hcheck⟩ := checksum_eq (bytes (dev.stream samples))
    have hframe : dev.frame samples = bytes (dev.stream samples) ++ [hi, lo] := by rw [frame, hcrc, if_pos rfl, hsum]
    rw [hframe, spiDataRead_checked hcrc data length_bytes_stream, if_neg (not_not_intro hcheck),
      unpack_received rfl, List.length_append]
    rfl

/-- Every read of a frame returns the samples in it, and a frame that is changed by a burst is refused. -/
theorem ad7606_samples_returned (dev : Ad7606Dev) (samples : dev.Samples) (data : ℕ → UInt32) :
    ((ad7606SpiDataRead (fun _ => (SUCCESS, dev.frame samples)) dev data).requested = (dev.frame samples).length ∧
      (dev.frame samples).length ≤ 28 ∧
      (ad7606SpiDataRead (fun _ => (SUCCESS, dev.frame samples)) dev data).ret = SUCCESS ∧
      (ad7606SpiDataRead (fun _ => (SUCCESS, dev.frame samples)) dev data).data = dev.result samples data) ∧
    (dev.intCrcErrEn = true → ∀ rx : List UInt8, rx.length = (dev.frame samples).length → rx ≠ dev.frame samples →
      Crc.IsBurst 16 (List.zipWith Bool.xor (bitsOf (dev.frame samples)) (bitsOf rx)) →
      (ad7606SpiDataRead (fun _ => (SUCCESS, rx)) dev data).ret = -EBADMSG ∧
      (ad7606SpiDataRead (fun _ => (SUCCESS, rx)) dev data).data = data) := by
  rw [spiDataRead_frame]
  refine ⟨⟨rfl, ?_, rfl, rfl⟩, ?_⟩
  · have hlen := @length_frame dev samples
    have hmax := (ad7606SampleBytes_eq dev).2
    cases hcrc : dev.intCrcErrEn <;> rw [hcrc] at hlen <;> simp at hlen <;> omega
  · intro hcrc rx hlen hne hburst
    have hframeLen := @length_frame dev samples
    rw [hcrc, if_pos rfl] at hframeLen
    obtain ⟨sent, hi, lo, rfl, hsent⟩ := eq_append_two (hlen.trans hframeLen)
    obtain ⟨hi', lo', hsum, hcheck⟩ := checksum_eq (bytes (dev.stream samples))
    have hframe : dev.frame samples = bytes (dev.stream samples) ++ [hi', lo'] := by rw [frame, hcrc, if_pos rfl, hsum]
    have hbad : hi.toUInt16 <<< 8 ||| lo.toUInt16 ≠ crc16 ad7606Crc16 sent 0 := by
      intro heq
      apply hne
      apply crc16_burst ad7606Crc16_odd hlen.symm hburst
      · rw [hframe]
        exact (crc16_append ad7606Crc16_odd _ _ _).mpr hcheck.symm
      · exact (crc16_append ad7606Crc16_odd _ _ _).mpr heq.symm
    rw [spiDataRead_checked hcrc data hsent, if_pos hbad]
    exact ⟨rfl, rfl⟩

/-- An AD7608 with the status behind every sample and a checksum at the end. -/
def checkedDev : Ad7606Dev := ⟨.ID_AD7608, true, true, fun _ => 0⟩

def steppedSamples : checkedDev.Samples := fun i => ⟨BitVec.ofNat 18 (0x2A5C3 + 0x1001 * i.val), BitVec.ofNat 8 i.val⟩

/-- Eight samples come back, and two inverted bits next to each other are found. -/
theorem ad7606_samples_returned_at :
    (List.range 9).map (ad7606SpiDataRead (fun _ => (SUCCESS, [169, 112, 192, 43, 92, 64, 27, 23, 20, 10, 213, 198, 3, 185,
        113, 193, 47, 92, 128, 92, 23, 36, 27, 21, 202, 7, 27, 209])) checkedDev fun _ => 7).data =
      [44417792, 45466625, 46515458, 47564291, 48613124, 49661957, 50710790, 51759623, 7] ∧
    (ad7606SpiDataRead (fun _ => (SUCCESS, [168, 240, 192, 43, 92, 64, 27, 23, 20, 10, 213, 198, 3, 185, 113, 193, 47, 92,
        128, 92, 23, 36, 27, 21, 202, 7, 27, 209])) checkedDev fun _ => 7).ret = -EBADMSG := by
  have hframe : checkedDev.frame steppedSamples = [169, 112, 192, 43, 92, 64, 27, 23, 20, 10, 213, 198, 3, 185, 113, 193,
      47, 92, 128, 92, 23, 36, 27, 21, 202, 7, 27, 209] := by decide +kernel
  obtain ⟨⟨-, -, -, hdata⟩, hburst⟩ := ad7606_samples_returned checkedDev steppedSamples fun _ => 7
  rw [hframe] at hdata hburst
  constructor
  · rw [hdata]
    decide +kernel
  · refine (hburst rfl _ ?_ ?_ ⟨7, ?_, ?_⟩).1
    · rfl
    · decide
    · decide
    · decide

end NoOS
