import NoOS.Drivers.Adxl372

/-!
# Servicing the FIFO of the ADXL372

A call takes all samples but one set out of the FIFO. It does so in whole sets only if there are whole sets in the
FIFO, and it can only do so if what it takes fits into one transfer.
-/

namespace NoOS

/-- The sets of the samples from an x sample on. -/
def sampleSets : List UInt16 → List Adxl372XyzAccelData
  | x :: y :: z :: samples => ⟨x >>> 4, y >>> 4, z >>> 4⟩ :: sampleSets samples
  | _ => []

/-- A call that went as it should, on a FIFO that starts at an x sample: it has taken whole sets, and left one, or it
has failed and done nothing. -/
inductive ServiceResult.Right (fifo : List UInt16) (r : ServiceResult) : Prop
  | done (k : ℕ) (hret : r.ret = 0) (hle : k ≤ fifo.length) (hfifo : r.fifo = fifo.drop k) (hsets : 3 ∣ k)
      (hdata : r.fifoData = sampleSets (fifo.take k)) (hleft : k = 0 ∨ 3 ≤ r.fifo.length)
  | failed (hret : r.ret ≠ 0) (hdata : r.fifoData = []) (hfifo : r.fifo = fifo)

/-- The FIFO is to be serviced: the status says so, there is no overrun, and the transfers succeed. -/
def ServiceCall.Ready (c : ServiceCall) (dev : Adxl372Dev) : Prop :=
  dev.fifoMode ≠ .bypassed ∧ fifoOvr c.status1 = false ∧ (fifoRdy c.status1 ∨ fifoFull c.status1) ∧
    c.statusBus.Succeed dev.commType

instance (c : ServiceCall) (dev : Adxl372Dev) : Decidable (c.Ready dev) := inferInstanceAs (Decidable (_ ∧ _))

/-- A FIFO that is to be serviced is not full, and it has whole sets if what is taken fits into one transfer and
arrives. Over I2C it has more than one set. -/
def ServiceCall.Allowed (c : ServiceCall) (dev : Adxl372Dev) (fifo : List UInt16) : Prop :=
  c.Ready dev → 3 ≤ fifo.length → (dev.commType = .i2c → fifo.length ≠ 3) ∧
    (c.dataBus.Succeed dev.commType → fifo.length ≠ 512 ∧ (fifo.length ≤ 259 → 3 ∣ fifo.length))

instance ServiceCall.decidableAllowed (c : ServiceCall) (dev : Adxl372Dev) (fifo : List UInt16) : Decidable (c.Allowed dev fifo) :=
  inferInstanceAs (Decidable (_ → _))

/-- The last call, if any: no fault, the right result, and a full FIFO was serviced. -/
def CallRight (dev : Adxl372Dev) (fifo : List UInt16) (c : ServiceCall) (r : Except Adxl372Fault ServiceResult) : Prop :=
  ∃ res, r = .ok res ∧ res.Right fifo ∧
    (fifo.length = 512 → c.Ready dev → c.dataBus.Succeed dev.commType → res.ret = 0 ∧ res.fifo.length < 512)

/-- The FIFO, how many samples have been taken out of it, and the last call with the FIFO it has found. -/
structure FifoSession where
  fifo : List UInt16
  taken : ℕ := 0
  last : Option (List UInt16 × ServiceCall × Except Adxl372Fault ServiceResult) := none

inductive FifoEvent
  /-- Samples that the device stores as far as they fit -/
  | arrive (samples : List UInt16)
  | service (c : ServiceCall) (fifoEntries : UInt16)

namespace FifoSession

def step (dev : Adxl372Dev) (s : FifoSession) : FifoEvent → FifoSession
  | .arrive samples => if s.fifo.length + samples.length ≤ 512 then { s with fifo := s.fifo ++ samples } else s
  | .service c fifoEntries =>
    let r := dev.serviceFifoEv s.fifo c fifoEntries
    match r with
    | .ok res => ⟨res.fifo, s.taken + (s.fifo.length - res.fifo.length), some (s.fifo, c, r)⟩
    | .error _ => { s with last := some (s.fifo, c, r) }

/-- The last call was right, and the FIFO starts at an x sample. -/
structure Serviced (dev : Adxl372Dev) (s : FifoSession) : Prop where
  last : ∀ fifo c r, s.last = some (fifo, c, r) → CallRight dev fifo c r
  aligned : 3 ∣ s.taken

def Allowed (dev : Adxl372Dev) (s : FifoSession) : FifoEvent → Prop
  | .arrive _ => True
  | .service c _ => c.Allowed dev s.fifo

instance decidableAllowed (dev : Adxl372Dev) (s : FifoSession) : (e : FifoEvent) → Decidable (s.Allowed dev e)
  | .arrive _ => .isTrue trivial
  | .service c _ => inferInstanceAs (Decidable (c.Allowed dev s.fifo))

end FifoSession

variable {dev : Adxl372Dev} {fifo samples : List UInt16} {c : ServiceCall} {buf pre post : List UInt8}

/-- The twelve bits of a sample stand in the upper bits of its bytes. -/
lemma axis_sample (w : UInt16) : ((w >>> (8 : UInt16)).toUInt8.toUInt16 <<< (4 : UInt16)) |||
    (w.toUInt8 >>> (4 : UInt8)).toUInt16 = w >>> (4 : UInt16) := by
  apply UInt16.toNat_inj.mp
  rw [UInt16.toNat_or, UInt16.toNat_shiftLeft, UInt8.toNat_toUInt16, UInt16.toNat_toUInt8, UInt8.toNat_toUInt16, UInt8.toNat_shiftRight,
    UInt16.toNat_shiftRight, UInt16.toNat_shiftRight, UInt16.toNat_toUInt8]
  have h := w.toNat_lt
  change ((w.toNat >>> 8 % 2 ^ 8) <<< 4) % 2 ^ 16 ||| (w.toNat % 2 ^ 8) >>> 4 = w.toNat >>> 4
  have hlow : (w.toNat % 2 ^ 8) >>> 4 < 2 ^ 4 := by
    rw [Nat.shiftRight_eq_div_pow]
    lia
  have hhigh : ((w.toNat >>> 8 % 2 ^ 8) <<< 4) % 2 ^ 16 = (w.toNat >>> 8) <<< 4 := by
    rw [Nat.shiftRight_eq_div_pow, Nat.shiftLeft_eq]
    omega
  rw [hhigh, ← Nat.shiftLeft_add_eq_or_of_lt hlow]
  simp only [Nat.shiftRight_eq_div_pow, Nat.shiftLeft_eq]
  lia

lemma sampleBytes_cons (w : UInt16) (samples : List UInt16) :
    sampleBytes (w :: samples) = (w >>> (8 : UInt16)).toUInt8 :: w.toUInt8 :: sampleBytes samples := rfl

lemma take_sampleBytes (samples : List UInt16) (k : ℕ) :
    (sampleBytes samples).take (2 * k) = sampleBytes (samples.take k) := by
  induction samples generalizing k with
  | nil => simp [sampleBytes]
  | cons w samples ih =>
    cases k with
    | zero => rfl
    | succ k => rw [sampleBytes_cons, Nat.mul_succ, List.take_succ_cons, List.take_succ_cons, ih k]; rfl

lemma axisAt_sample (w : UInt16) (samples : List UInt16) :
    axisAt (pre ++ (sampleBytes (w :: samples) ++ post)) pre.length = .ok (w >>> (4 : UInt16)) := by
  have hhi : (pre ++ (sampleBytes (w :: samples) ++ post))[pre.length]? = some (w >>> (8 : UInt16)).toUInt8 := by
    rw [List.getElem?_append_right (Nat.le_refl _), Nat.sub_self]
    rfl
  have hlo : (pre ++ (sampleBytes (w :: samples) ++ post))[pre.length + 1]? = some w.toUInt8 := by
    have hsub : pre.length + 1 - pre.length = 1 := by lia
    rw [List.getElem?_append_right (Nat.le_succ _), hsub]
    rfl
  unfold axisAt
  rw [hhi, hlo]
  exact congrArg Except.ok (axis_sample w)

lemma append_sampleBytes (w : UInt16) (samples : List UInt16) : pre ++ (sampleBytes (w :: samples) ++ post) =
    (pre ++ sampleBytes [w]) ++ (sampleBytes samples ++ post) := by
  rw [List.append_assoc]
  rfl

lemma setAt_samples (x y z : UInt16) (samples : List UInt16) :
    setAt (pre ++ (sampleBytes (x :: y :: z :: samples) ++ post)) pre.length =
      .ok ⟨x >>> 4, y >>> 4, z >>> 4⟩ := by
  have hx := @axisAt_sample pre post x (y :: z :: samples)
  have hy := @axisAt_sample (pre ++ sampleBytes [x]) post y (z :: samples)
  have hz := @axisAt_sample (pre ++ sampleBytes [x] ++ sampleBytes [y]) post z samples
  rw [← append_sampleBytes, ← append_sampleBytes] at hz
  rw [← append_sampleBytes] at hy
  have hlen2 : (pre ++ sampleBytes [x]).length = pre.length + 2 := List.length_append
  have hlen4 : (pre ++ sampleBytes [x] ++ sampleBytes [y]).length = pre.length + 4 := by
    rw [List.length_append, hlen2]
    rfl
  rw [hlen2] at hy
  rw [hlen4] at hz
  unfold setAt
  rw [hx, hy, hz]
  rfl

lemma decodeFrom_sets {fuel k : ℕ} (hsets : 3 ∣ samples.length) (hfuel : samples.length ≤ 3 * fuel)
    (hk : 3 * k + samples.length ≤ 510) :
    decodeFrom (pre ++ (sampleBytes samples ++ post)) (pre.length + 2 * samples.length) fuel pre.length k =
      .ok (sampleSets samples) := by
  induction fuel generalizing samples pre k with
  | zero =>
    obtain rfl := List.eq_nil_of_length_eq_zero (by lia : samples.length = 0)
    rfl
  | succ fuel ih =>
    match samples, hsets, hfuel, hk with
    | [], _, _, _ =>
      unfold decodeFrom
      rw [if_neg (by simp)]
      rfl
    | [_], hsets, _, _ =>
      rw [List.length_singleton] at hsets
      omega
    | [_, _], hsets, _, _ =>
      change 3 ∣ 2 at hsets
      omega
    | x :: y :: z :: samples, hsets, hfuel, hk =>
      simp only [List.length_cons] at hsets hfuel hk ⊢
      have hrest := @ih samples (pre ++ sampleBytes [x] ++ sampleBytes [y] ++ sampleBytes [z]) (k + 1)
        (by lia) (by lia) (by lia)
      have hlen : (pre ++ sampleBytes [x] ++ sampleBytes [y] ++ sampleBytes [z]).length = pre.length + 6 := by
        simp only [List.length_append]
        rfl
      have hbound : pre.length + 6 + 2 * samples.length = pre.length + 2 * (samples.length + 1 + 1 + 1) := by lia
      rw [hlen, hbound, ← append_sampleBytes, ← append_sampleBytes, ← append_sampleBytes] at hrest
      unfold decodeFrom
      rw [if_pos (by lia), setAt_samples]
      dsimp only
      rw [if_pos (by lia), hrest]
      rfl

lemma entries_eq : ∀ n ≤ 512, ((UInt8.ofNat (n / 256) &&& 0x3).toUInt16 <<< (8 : UInt16)) ||| (UInt8.ofNat n).toUInt16 =
    UInt16.ofNat n := by decide +kernel

lemma readRegMultiple_ok {comm : CommType} {bus : BusCodes} {count : UInt16} (bytes : List UInt8) (hcount : ¬count > 512)
    (hzero : comm = .i2c → count ≠ 0) :
    (bus.Succeed comm → readRegMultiple comm bus count bytes = .ok (0, bytes.take count.toNat)) ∧
      (¬bus.Succeed comm → ∃ ret < 0, readRegMultiple comm bus count bytes = .ok (ret, [])) := by
  have hread := bus.read.2
  have hwrite := bus.write.2
  unfold readRegMultiple
  rw [if_neg hcount]
  constructor
  · rintro ⟨hr, hw⟩
    rw [hr]
    cases comm with
    | spi => rfl
    | i2c =>
      dsimp only
      rw [if_neg (hzero rfl), hw rfl]
      rfl
  · intro hfail
    cases comm with
    | spi =>
      have hr : bus.read.1 < 0 := by
        by_contra hr
        exact hfail ⟨by lia, nofun⟩
      dsimp only
      rw [if_pos hr]
      exact ⟨_, hr, rfl⟩
    | i2c =>
      dsimp only
      rw [if_neg (hzero rfl)]
      by_cases hw : bus.write.1 < 0
      · rw [if_pos hw]
        exact ⟨_, hw, rfl⟩
      · have hr : bus.read.1 < 0 := by
          by_contra hr
          exact hfail ⟨by lia, fun _ => by lia⟩
        rw [if_neg hw, if_pos hr]
        exact ⟨_, hr, rfl⟩

lemma getStatus_eq (hlen : fifo.length ≤ 512) :
    (c.statusBus.Succeed dev.commType →
      dev.getStatus fifo c = .ok (0, some (c.status1, UInt16.ofNat fifo.length))) ∧
    (¬c.statusBus.Succeed dev.commType → ∃ ret < 0, dev.getStatus fifo c = .ok (ret, none)) := by
  obtain ⟨hok, hfail⟩ := @readRegMultiple_ok dev.commType c.statusBus 4 ([c.status1, c.status2] ++ entriesBytes fifo)
    (by decide) fun _ => by decide
  unfold Adxl372Dev.getStatus
  constructor
  · intro hbus
    rw [hok hbus]
    change Except.ok (0, some (c.status1, _)) = _
    rw [entries_eq fifo.length hlen]
  · intro hbus
    obtain ⟨ret, hneg, hret⟩ := hfail hbus
    rw [hret]
    exact ⟨ret, hneg, rfl⟩

lemma serviceFifoEv_idle (hlen : fifo.length ≤ 512) (h : ¬c.Ready dev) (e : UInt16) :
    ∃ r, dev.serviceFifoEv fifo c e = .ok r ∧ r.fifoData = [] ∧ r.fifo = fifo := by
  obtain ⟨hok, hfail⟩ := @getStatus_eq dev fifo c hlen
  unfold Adxl372Dev.serviceFifoEv
  by_cases hbus : c.statusBus.Succeed dev.commType
  · rw [hok hbus]
    dsimp only
    rw [if_neg (by simp)]
    by_cases hovr : fifoOvr c.status1 = true
    · rw [if_pos hovr]
      exact ⟨_, rfl, rfl, rfl⟩
    · rw [if_neg hovr, if_neg]
      · exact ⟨_, rfl, rfl, rfl⟩
      · rintro ⟨hmode, hrdy⟩
        exact h ⟨hmode, Bool.eq_false_iff.mpr hovr, hrdy, hbus⟩
  · obtain ⟨ret, -, hret⟩ := hfail hbus
    rw [hret]
    exact ⟨_, rfl, rfl, rfl⟩

lemma serviceFifoEv_ready (hlen : fifo.length ≤ 512) (h : c.Ready dev) (e : UInt16) : dev.serviceFifoEv fifo c e =
    match dev.getFifoXyzData fifo c (UInt16.ofNat fifo.length - 3) with
    | .error f => .error f
    | .ok (ret, sets, fifo') => .ok ⟨ret, UInt16.ofNat fifo.length - 3, sets, fifo'⟩ := by
  obtain ⟨hmode, hovr, hrdy, hbus⟩ := h
  unfold Adxl372Dev.serviceFifoEv
  rw [(@getStatus_eq dev fifo c hlen).1 hbus]
  dsimp only
  rw [if_neg (by simp), if_neg (by simp [hovr])]
  exact if_pos ⟨hmode, hrdy⟩

lemma getFifoXyzData_refused (hlen : fifo.length ≤ 512) (h : fifo.length < 3 ∨ 259 < fifo.length) :
    ∃ ret < 0, dev.getFifoXyzData fifo c (UInt16.ofNat fifo.length - 3) = .ok (ret, [], fifo) := by
  have hcnt : (UInt16.ofNat fifo.length - 3).toNat = (fifo.length + 65533) % 65536 := by
    rw [UInt16.toNat_sub, UInt16.toNat_ofNat']
    change (2 ^ 16 - 3 + fifo.length % 2 ^ 16) % 2 ^ 16 = _
    lia
  unfold Adxl372Dev.getFifoXyzData
  rcases h with hfew | hmany
  · have hbig : UInt16.ofNat fifo.length - 3 > 512 := by
      rw [gt_iff_lt, UInt16.lt_iff_toNat_lt, hcnt]
      change 512 < _
      lia
    rw [if_pos hbig]
    exact ⟨-1, by decide, rfl⟩
  · have hsmall : ¬UInt16.ofNat fifo.length - 3 > 512 := by
      rw [gt_iff_lt, UInt16.lt_iff_toNat_lt, hcnt]
      change ¬512 < _
      lia
    have hcount : (UInt16.ofNat fifo.length - 3) * 2 > 512 := by
      rw [gt_iff_lt, UInt16.lt_iff_toNat_lt, UInt16.toNat_mul, hcnt]
      change 512 < _ * 2 % 2 ^ 16
      lia
    have hread : readRegMultiple dev.commType c.dataBus ((UInt16.ofNat fifo.length - 3) * 2) (sampleBytes fifo) =
        .ok (FAILURE, []) := if_pos hcount
    rw [if_neg hsmall, hread]
    exact ⟨FAILURE, by decide, rfl⟩

section Transfer

variable (hmin : 3 ≤ fifo.length) (hmax : fifo.length ≤ 259)
include hmin hmax

lemma toNat_cnt : (UInt16.ofNat fifo.length - 3).toNat = fifo.length - 3 ∧
    ((UInt16.ofNat fifo.length - 3) * 2).toNat = 2 * (fifo.length - 3) := by
  have hcnt : (UInt16.ofNat fifo.length - 3).toNat = fifo.length - 3 := by
    rw [UInt16.toNat_sub, UInt16.toNat_ofNat']
    change (2 ^ 16 - 3 + fifo.length % 2 ^ 16) % 2 ^ 16 = _
    lia
  refine ⟨hcnt, ?_⟩
  rw [UInt16.toNat_mul, hcnt]
  change (fifo.length - 3) * 2 % 2 ^ 16 = _
  lia

/-- The samples are read in one transfer, which over I2C must not be empty. -/
lemma getFifoXyzData_eq : dev.getFifoXyzData fifo c (UInt16.ofNat fifo.length - 3) =
    if dev.commType = .i2c ∧ fifo.length = 3 then .error .memsetLength
    else
      match readRegMultiple dev.commType c.dataBus ((UInt16.ofNat fifo.length - 3) * 2) (sampleBytes fifo) with
      | .error f => .error f
      | .ok (ret, bytes) =>
        if ret < 0 then .ok (ret, [], fifo)
        else
          match decodeFrom (bytes ++ c.junk.1.drop bytes.length) (2 * (fifo.length - 3)) (2 * (fifo.length - 3)) 0 0 with
          | .error f => .error f
          | .ok sets => .ok (ret, sets, fifo.drop (fifo.length - 3)) := by
  obtain ⟨hcnt, hcount⟩ := toNat_cnt hmin hmax
  have hsmall : ¬UInt16.ofNat fifo.length - 3 > 512 := by
    rw [gt_iff_lt, UInt16.lt_iff_toNat_lt, hcnt]
    change ¬512 < _
    lia
  have hhalf : 2 * (fifo.length - 3) / 2 = fifo.length - 3 := by lia
  unfold Adxl372Dev.getFifoXyzData
  rw [if_neg hsmall, hcount, hhalf]
  by_cases hzero : dev.commType = .i2c ∧ fifo.length = 3
  · rw [if_pos hzero]
    have hread : readRegMultiple dev.commType c.dataBus ((UInt16.ofNat fifo.length - 3) * 2) (sampleBytes fifo) =
        .error .memsetLength := by
      rw [hzero.1, hzero.2]
      rfl
    rw [hread]
  · exact (if_neg hzero).symm

lemma getFifoXyzData_bus (hzero : ¬(dev.commType = .i2c ∧ fifo.length = 3)) :
    (c.dataBus.Succeed dev.commType → readRegMultiple dev.commType c.dataBus ((UInt16.ofNat fifo.length - 3) * 2)
      (sampleBytes fifo) = .ok (0, sampleBytes (fifo.take (fifo.length - 3)))) ∧
    (¬c.dataBus.Succeed dev.commType →
      ∃ ret < 0, dev.getFifoXyzData fifo c (UInt16.ofNat fifo.length - 3) = .ok (ret, [], fifo)) := by
  obtain ⟨hcnt, hcount⟩ := toNat_cnt hmin hmax
  have hfits : ¬(UInt16.ofNat fifo.length - 3) * 2 > 512 := by
    rw [gt_iff_lt, UInt16.lt_iff_toNat_lt, hcount]
    change ¬512 < _
    lia
  have hne : dev.commType = .i2c → (UInt16.ofNat fifo.length - 3) * 2 ≠ 0 := by
    intro hcomm hc
    have hc' := congrArg UInt16.toNat hc
    rw [hcount, UInt16.toNat_zero] at hc'
    exact hzero ⟨hcomm, by lia⟩
  obtain ⟨hok, hfail⟩ := @readRegMultiple_ok dev.commType c.dataBus _ (sampleBytes fifo) hfits hne
  constructor
  · intro hbus
    rw [hok hbus, hcount, take_sampleBytes]
  · intro hbus
    obtain ⟨ret, hneg, hret⟩ := hfail hbus
    rw [getFifoXyzData_eq hmin hmax, if_neg hzero, hret]
    dsimp only
    rw [if_pos hneg]
    exact ⟨ret, hneg, rfl⟩

lemma getFifoXyzData_sets (hzero : ¬(dev.commType = .i2c ∧ fifo.length = 3)) (hbus : c.dataBus.Succeed dev.commType)
    (hsets : 3 ∣ fifo.length) : dev.getFifoXyzData fifo c (UInt16.ofNat fifo.length - 3) =
      .ok (0, sampleSets (fifo.take (fifo.length - 3)), fifo.drop (fifo.length - 3)) := by
  have hlen : (fifo.take (fifo.length - 3)).length = fifo.length - 3 := by
    rw [List.length_take]
    lia
  have hdecode := @decodeFrom_sets (fifo.take (fifo.length - 3)) []
    (c.junk.1.drop (sampleBytes (fifo.take (fifo.length - 3))).length) (2 * (fifo.length - 3)) 0
    (by lia) (by lia) (by lia)
  rw [List.nil_append, List.length_nil, Nat.zero_add, hlen] at hdecode
  rw [getFifoXyzData_eq hmin hmax, if_neg hzero, (getFifoXyzData_bus hmin hmax hzero).1 hbus]
  dsimp only
  rw [if_neg (by decide), hdecode]

lemma getFifoXyzData_taken (hbus : c.dataBus.Succeed dev.commType) {ret : Int} {sets : List Adxl372XyzAccelData}
    {fifo' : List UInt16} (h : dev.getFifoXyzData fifo c (UInt16.ofNat fifo.length - 3) = .ok (ret, sets, fifo')) :
    ret = 0 ∧ fifo' = fifo.drop (fifo.length - 3) := by
  rw [getFifoXyzData_eq hmin hmax] at h
  by_cases hzero : dev.commType = .i2c ∧ fifo.length = 3
  · rw [if_pos hzero] at h
    exact absurd h nofun
  · rw [if_neg hzero, (getFifoXyzData_bus hmin hmax hzero).1 hbus] at h
    dsimp only at h
    rw [if_neg (by decide)] at h
    split at h
    · exact absurd h nofun
    · obtain ⟨rfl, h'⟩ := Prod.mk.inj (Except.ok.inj h)
      exact ⟨rfl, (Prod.mk.inj h').2.symm⟩

end Transfer

lemma right_of_untouched {r : ServiceResult} (hdata : r.fifoData = []) (hfifo : r.fifo = fifo) : r.Right fifo := by
  by_cases hret : r.ret = 0
  · exact .done 0 hret (Nat.zero_le _) hfifo (Nat.dvd_zero 3) hdata (.inl rfl)
  · exact .failed hret hdata hfifo

/-- A call is right if and only if it is allowed, and then it leaves the FIFO at an x sample. -/
lemma callRight_iff (hlen : fifo.length ≤ 512) (c : ServiceCall) (e : UInt16) :
    CallRight dev fifo c (dev.serviceFifoEv fifo c e) ↔ c.Allowed dev fifo := by
  by_cases hready : c.Ready dev
  · have hservice := serviceFifoEv_ready hlen hready e
    by_cases hmid : 3 ≤ fifo.length ∧ fifo.length ≤ 259
    · obtain ⟨hmin, hmax⟩ := hmid
      by_cases hzero : dev.commType = .i2c ∧ fifo.length = 3
      · have herr : dev.serviceFifoEv fifo c e = .error .memsetLength := by
          rw [hservice, getFifoXyzData_eq hmin hmax, if_pos hzero]
        constructor
        · rintro ⟨res, hres, -⟩
          rw [herr] at hres
          exact absurd hres nofun
        · intro hok
          exact absurd hzero.2 ((hok hready hmin).1 hzero.1)
      · by_cases hbus : c.dataBus.Succeed dev.commType
        · constructor
          · rintro ⟨res, hres, hright, -⟩
            refine fun _ _ => ⟨fun hcomm hlen3 => hzero ⟨hcomm, hlen3⟩, fun _ => ⟨by lia, fun _ => ?_⟩⟩
            rw [hservice] at hres
            cases hget : dev.getFifoXyzData fifo c (UInt16.ofNat fifo.length - 3) with
            | error f =>
              rw [hget] at hres
              exact absurd hres nofun
            | ok q =>
              obtain ⟨hret, hfifo⟩ := getFifoXyzData_taken hmin hmax hbus hget
              rw [hget] at hres
              obtain rfl := Except.ok.inj hres
              cases hright with
              | failed hne _ _ => exact absurd hret hne
              | done k _ hle hdrop hdvd _ _ =>
                have hlens := congrArg List.length (hfifo.symm.trans hdrop)
                rw [List.length_drop, List.length_drop] at hlens
                lia
          · intro hok
            have hsets := ((hok hready hmin).2 hbus).2 hmax
            refine ⟨⟨0, UInt16.ofNat fifo.length - 3, sampleSets (fifo.take (fifo.length - 3)),
              fifo.drop (fifo.length - 3)⟩, ?_, .done (fifo.length - 3) rfl (by lia) rfl (by lia) rfl (.inr ?_), by lia⟩
            · rw [hservice, getFifoXyzData_sets hmin hmax hzero hbus hsets]
            · rw [List.length_drop]
              lia
        · obtain ⟨ret, hneg, hget⟩ := (getFifoXyzData_bus hmin hmax hzero).2 hbus
          constructor
          · exact fun _ _ _ => ⟨fun hcomm hlen3 => hzero ⟨hcomm, hlen3⟩, fun hb => absurd hb hbus⟩
          · intro _
            refine ⟨⟨ret, UInt16.ofNat fifo.length - 3, [], fifo⟩, ?_, right_of_untouched rfl rfl, by lia⟩
            rw [hservice, hget]
    · obtain ⟨ret, hneg, hget⟩ := @getFifoXyzData_refused dev fifo c hlen (by lia)
      have hres : dev.serviceFifoEv fifo c e = .ok ⟨ret, UInt16.ofNat fifo.length - 3, [], fifo⟩ := by
        rw [hservice, hget]
      constructor
      · rintro ⟨res, hres', -, hfull⟩
        rw [hres] at hres'
        obtain rfl := Except.ok.inj hres'
        intro _ hmin
        refine ⟨fun _ => by lia, fun hbus => ⟨fun h512 => ?_, fun _ => by lia⟩⟩
        have hret := (hfull h512 hready hbus).1
        dsimp only at hret
        omega
      · intro hok
        refine ⟨_, hres, right_of_untouched rfl rfl, fun h512 _ hbus => ?_⟩
        exact absurd h512 ((hok hready (by omega)).2 hbus).1
  · obtain ⟨r, hr, hdata, hfifo⟩ := @serviceFifoEv_idle dev fifo c hlen hready e
    constructor
    · exact fun _ hc => absurd hc hready
    · exact fun _ => ⟨r, hr, right_of_untouched hdata hfifo, fun _ hc => absurd hc hready⟩

lemma ServiceResult.Right.taken {r : ServiceResult} (h : r.Right fifo) :
    3 ∣ fifo.length - r.fifo.length ∧ r.fifo.length ≤ fifo.length := by
  cases h with
  | done k _ hle hfifo hsets _ _ =>
    rw [hfifo, List.length_drop]
    lia
  | failed _ _ hfifo =>
    rw [hfifo]
    lia

/-- From a FIFO with up to 512 samples that starts at an x sample, every call goes as it should, in runs of any length
and with samples arriving in any number, exactly if each call is allowed. -/
theorem fifo_serviced_iff (dev : Adxl372Dev) (fifo : { samples : List UInt16 // samples.length ≤ 512 })
    (events : List FifoEvent) :
    Trace.Always (FifoSession.step dev) (FifoSession.Serviced dev) { fifo := fifo.1 } events ↔
      Trace.Guarded (FifoSession.step dev) (FifoSession.Allowed dev) { fifo := fifo.1 } events := by
  apply Trace.always_iff_guarded (Q := fun s : FifoSession => s.Serviced dev ∧ s.fifo.length ≤ 512)
  · exact ⟨⟨fun _ _ _ h => absurd h nofun, Nat.dvd_zero 3⟩, fifo.2⟩
  · exact fun _ h => h.1
  · rintro s e ⟨hs, hlen⟩ hok
    cases e with
    | arrive samples =>
      unfold FifoSession.step
      dsimp only
      by_cases hfit : s.fifo.length + samples.length ≤ 512
      · rw [if_pos hfit]
        refine ⟨⟨hs.last, hs.aligned⟩, ?_⟩
        rw [List.length_append]
        exact hfit
      · rw [if_neg hfit]
        exact ⟨hs, hlen⟩
    | service c entries =>
      have hright := (callRight_iff hlen c entries).mpr hok
      obtain ⟨res, hres, hres', hfull⟩ := hright
      obtain ⟨hsets, hle⟩ := hres'.taken
      unfold FifoSession.step
      dsimp only
      rw [hres]
      dsimp only
      refine ⟨⟨fun fifo' c' r' h => ?_, Nat.dvd_add hs.aligned hsets⟩, hle.trans hlen⟩
      obtain ⟨rfl, h'⟩ := Prod.mk.inj (Option.some.inj h)
      obtain ⟨rfl, rfl⟩ := Prod.mk.inj h'
      exact ⟨res, rfl, hres', hfull⟩
  · rintro s e ⟨hs, hlen⟩ h
    cases e with
    | arrive samples => trivial
    | service c entries =>
      refine (callRight_iff hlen c entries).mp ?_
      apply h.last
      unfold FifoSession.step
      dsimp only
      split
      · rename_i res hres
        rw [hres]
      · rename_i f hres
        rw [hres]

/-- The FIFO is ready, and all transfers succeed. -/
def readyCall : ServiceCall where
  status1 := 0x2
  status2 := 0
  statusBus := ⟨⟨0, by decide⟩, ⟨0, by decide⟩⟩
  dataBus := ⟨⟨0, by decide⟩, ⟨0, by decide⟩⟩
  junk := ⟨List.replicate 1024 0, List.length_replicate⟩

/-- Four samples, of which the first is taken alone, a full FIFO, and one set over I2C. -/
theorem fifo_not_serviced : [(CommType.spi, 4), (CommType.spi, 512), (CommType.i2c, 3)].Forall fun q =>
    ¬Trace.Always (FifoSession.step ⟨q.1, .streamed⟩) (FifoSession.Serviced ⟨q.1, .streamed⟩)
      { fifo := List.replicate q.2 0 } [.service readyCall 0] := by
  rw [List.forall_iff_forall_mem]
  intro q hq h
  have hlen : (List.replicate q.2 (0 : UInt16)).length ≤ 512 := by
    rw [List.length_replicate]
    have hall : ∀ q ∈ [(CommType.spi, 4), (CommType.spi, 512), (CommType.i2c, 3)], q.2 ≤ 512 := by decide
    exact hall q hq
  have hright : CallRight ⟨q.1, .streamed⟩ (List.replicate q.2 0) readyCall
      (Adxl372Dev.serviceFifoEv ⟨q.1, .streamed⟩ (List.replicate q.2 0) readyCall 0) := by
    apply h.last.last
    rw [Trace.run_cons, Trace.run_nil]
    unfold FifoSession.step
    dsimp only
    split
    · rename_i res hres
      rw [hres]
    · rename_i f hres
      rw [hres]
  have hallowed := (callRight_iff hlen readyCall 0).mp hright
  unfold ServiceCall.Allowed at hallowed
  rw [List.length_replicate] at hallowed
  simp only [List.mem_cons, List.not_mem_nil, or_false] at hq
  rcases hq with rfl | rfl | rfl
  · exact absurd hallowed (by decide)
  · exact absurd hallowed (by decide)
  · exact absurd hallowed (by decide)

end NoOS
