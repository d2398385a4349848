import NoOS.Drivers.Adf5902Param
import NoOS.Lib.PackedWord
import NoOS.Lib.RegisterFile
import NoOS.Lib.Trace
import Mathlib.Data.Rat.Floor
import Mathlib.Tactic.FieldSimp

/-!
# The output frequency that the registers of the ADF5902 stand for

The fraction is computed for the divider by two of the settings. In normal operation register 7 is always written
without that divider.
-/

namespace NoOS
open Fallible PackedWord

namespace Adf5902

/-- The frequency of the phase detector by the bits of register 7. -/
def pfd (s : Adf5902) : ℚ :=
  s.dev.refIn.toNat * (1 + (unpack 10 1 (s.regs 7)).toNat) /
    ((unpack 5 5 (s.regs 7)).toNat * (1 + (unpack 11 1 (s.regs 7)).toNat))

/-- `INT * 2 ^ 25 + FRAC` by the registers 5 and 6. -/
def tuningWord (s : Adf5902) : ℕ :=
  (unpack 17 12 (s.regs 5)).toNat * 2 ^ 25 +
    ((unpack 5 12 (s.regs 5)).toNat * 2 ^ 13 + (unpack 5 13 (s.regs 6)).toNat)

def outputFrequency (s : Adf5902) : ℚ := 2 * s.pfd * (s.tuningWord / 2 ^ 25)

/-- The registers realise the requested frequency, and the parameters fit into their fields. -/
structure Realises (s : Adf5902) : Prop where
  near : |s.outputFrequency - s.dev.rfOut.toNat| ≤ 2 * s.pfd / 2 ^ 25 + s.dev.rfOut.toNat / s.dev.fPfd.toNat
  exact : s.tuningWord = s.dev.rfOut.toNat * 2 ^ 25 / (2 * s.dev.fPfd.toNat)
  factor : s.dev.refDivFactor.toNat ≤ 0x1F
  int : s.dev.intDiv.toNat ≤ 0xFFF
  freqCalDiv : s.dev.freqCalDiv.toNat ≤ 0x3FF
  clk1Div : s.dev.clk1Div.toNat ≤ 0xFFF
  adcClkDiv : s.dev.adcClkDiv.toNat ≤ 0xFF
  returns : s.dev.vcoFreqParam.isSome

/-- The words of the registers 5 and 6. -/
structure Tuned (s : Adf5902) : Prop where
  int : unpack 17 12 (s.regs 5) = s.dev.intDiv.toUInt32
  fracMsb : unpack 5 12 (s.regs 5) = s.dev.fracMsb.toUInt32
  fracLsb : unpack 5 13 (s.regs 6) = s.dev.fracLsb.toUInt32

/-- The word of register 7, without the divider by two. -/
structure Referenced (s : Adf5902) : Prop where
  factor : unpack 5 5 (s.regs 7) = s.dev.refDivFactor.toUInt32
  doubler : unpack 10 1 (s.regs 7) = s.dev.refDoublerEn.toUInt32
  div2 : unpack 11 1 (s.regs 7) = 0

/-- What every call that succeeds leaves behind. -/
structure Locked (s : Adf5902) : Prop where
  inRange : s.dev.toAdf5902Settings.InRange
  solved : s.dev.Solved
  tuned : s.Tuned
  referenced : s.Referenced

variable {s t : Adf5902}

/-- The word splits `rf` into multiples of twice the frequency `f`, to which `pfd` was cut off. -/
lemma output_near {pfd f w rf : ℚ} (hf : 0 < f) (hw : 0 ≤ w) (hlow : f ≤ pfd) (hhigh : pfd ≤ f + 1)
    (hle : w * (2 * f) ≤ rf * 2 ^ 25) (hlt : rf * 2 ^ 25 < (w + 1) * (2 * f)) :
    |2 * pfd * (w / 2 ^ 25) - rf| ≤ 2 * pfd / 2 ^ 25 + rf / f := by
  have hrf : 0 ≤ rf := by
    have hpos : 0 ≤ w * (2 * f) := by positivity
    linarith
  have hbelow : rf - 2 * pfd / 2 ^ 25 ≤ 2 * pfd * (w / 2 ^ 25) := by
    have hmul : (w + 1) * (2 * f) ≤ (w + 1) * (2 * pfd) := by gcongr
    linarith
  have habove : 2 * pfd * (w / 2 ^ 25) ≤ rf + rf / f := by
    have hquot : 2 * (w / 2 ^ 25) ≤ rf / f := by
      rw [le_div_iff₀ hf]
      linarith
    calc 2 * pfd * (w / 2 ^ 25) = pfd * (2 * (w / 2 ^ 25)) := by ring
      _ ≤ (f + 1) * (rf / f) := by gcongr
      _ = rf + rf / f := by field_simp
  have hpfd : 0 ≤ 2 * pfd / 2 ^ 25 := by
    have hpos : 0 ≤ pfd := hf.le.trans hlow
    positivity
  have hquot : 0 ≤ rf / f := by positivity
  exact abs_le.mpr ⟨by linarith, by linarith⟩

/-- Without the divider by two that `f` was computed with, the frequency is twice as high. -/
lemma output_far {pfd f w rf : ℚ} (hf : 5000000 ≤ f) (hf' : f ≤ 110000000) (hw : 0 ≤ w) (hlow : 2 * f ≤ pfd)
    (hhigh : pfd ≤ 2 * (f + 1)) (hrf : 24000000000 ≤ rf) (hrf' : rf ≤ 24250000000)
    (hlt : rf * 2 ^ 25 < (w + 1) * (2 * f)) :
    2 * pfd / 2 ^ 25 + rf / f < |2 * pfd * (w / 2 ^ 25) - rf| := by
  have hquot : rf / f ≤ 4850 := by
    rw [div_le_iff₀ (by linarith)]
    linarith
  have hbelow : 2 * rf - 4 * f / 2 ^ 25 ≤ 2 * pfd * (w / 2 ^ 25) := by
    have hmul : 2 * (2 * f) * (w / 2 ^ 25) ≤ 2 * pfd * (w / 2 ^ 25) := by gcongr
    linarith
  exact lt_of_lt_of_le (by linarith) (le_abs_self _)

/-- The bits of the address are 0. -/
def Clear (d : UInt32) : Prop := d &&& 0x1F = 0

instance (d : UInt32) : Decidable (Clear d) := inferInstanceAs (Decidable (_ = _))

lemma address_or (a b : UInt32) : (a ||| b) &&& 0x1F = (a &&& 0x1F) ||| (b &&& 0x1F) := by
  apply RegisterFile.ext_bits
  intro k hk
  simp [Bool.and_or_distrib_right]

lemma clear_or {a b : UInt32} (ha : Clear a) (hb : Clear b) : Clear (a ||| b) := by
  rw [Clear, address_or, ha, hb]
  rfl

lemma clear_shift (x k : UInt32) (hk : 5 ≤ k.toNat) (hk' : k.toNat < 32) : Clear (x <<< k) := by
  apply UInt32.toNat_inj.mp
  rw [UInt32.toNat_and, UInt32.toNat_shiftLeft, Nat.mod_eq_of_lt hk', Nat.shiftLeft_eq]
  change x.toNat * 2 ^ k.toNat % 2 ^ 32 &&& 2 ^ 5 - 1 = 0
  rw [Nat.and_two_pow_sub_one_eq_mod, Nat.mod_mod_of_dvd _ (by decide : 2 ^ 5 ∣ 2 ^ 32)]
  exact Nat.mod_eq_zero_of_dvd ((pow_dvd_pow 2 hk).mul_left _)

lemma address_word {d r : UInt32} (hd : Clear d) (hr : r &&& 0x1F = r) : (d ||| r) &&& 0x1F = r := by
  rw [address_or, hd, hr, UInt32.zero_or]

lemma clear_reg5 (dev : Adf5902Dev) : Clear (reg5 dev) :=
  clear_or (clear_or (clear_or (by decide) (clear_shift _ _ (by decide) (by decide)))
    (clear_shift _ _ (by decide) (by decide))) (by decide)

lemma clear_reg6 (dev : Adf5902Dev) : Clear (reg6 dev) :=
  clear_or (by decide) (clear_shift _ _ (by decide) (by decide))

lemma clear_reg7 (dev : Adf5902Dev) (div2 : UInt8) (clkDiv : UInt16) : Clear (reg7 dev div2 clkDiv) :=
  clear_or (clear_or (clear_or (clear_or (clear_or (by decide) (clear_shift _ _ (by decide) (by decide)))
    (clear_shift _ _ (by decide) (by decide))) (clear_shift _ _ (by decide) (by decide)))
    (clear_shift _ _ (by decide) (by decide))) (by decide)

lemma clear_reg13 (clk2Div : UInt16) (sel : ℕ) (mode leSel : UInt8) : Clear (reg13 clk2Div sel mode leSel) :=
  clear_or (clear_or (clear_or (clear_or (by decide) (clear_shift _ _ (by decide) (by decide)))
    (clear_shift _ _ (by decide) (by decide))) (clear_shift _ _ (by decide) (by decide)))
    (clear_shift _ _ (by decide) (by decide))

/-- The registers `A` and the driver are as they were. -/
def Keeps (A : List UInt32) (s t : Adf5902) : Prop := t.dev = s.dev ∧ ∀ i ∈ A, t.regs i = s.regs i

variable {A : List UInt32}

lemma Keeps.refl (A : List UInt32) (s : Adf5902) : Keeps A s s := ⟨rfl, fun _ _ => rfl⟩

lemma Keeps.trans {u : Adf5902} (h : Keeps A s t) (h' : Keeps A t u) : Keeps A s u :=
  ⟨h'.1.trans h.1, fun i hi => (h'.2 i hi).trans (h.2 i hi)⟩

lemma Keeps.tuned (h : Keeps A s t) (h5 : 5 ∈ A) (h6 : 6 ∈ A) (hs : s.Tuned) : t.Tuned := by
  constructor
  · rw [h.2 5 h5, h.1, hs.int]
  · rw [h.2 5 h5, h.1, hs.fracMsb]
  · rw [h.2 6 h6, h.1, hs.fracLsb]

lemma Keeps.referenced (h : Keeps A s t) (h7 : 7 ∈ A) (hs : s.Referenced) : t.Referenced := by
  constructor
  · rw [h.2 7 h7, h.1, hs.factor]
  · rw [h.2 7 h7, h.1, hs.doubler]
  · rw [h.2 7 h7, hs.div2]

lemma moves_transfer {word : UInt32} (h : word &&& 0x1F ∉ A) : Moves (Keeps A) (transfer word) := by
  intro s
  unfold transfer
  dsimp only
  split
  · refine ⟨rfl, fun i hi => ?_⟩
    apply Function.update_of_ne
    rintro rfl
    exact h hi
  · exact Keeps.refl A s

lemma ensures_transfer (word : UInt32) (s : Adf5902) :
    Ensures (transfer word) s fun _ t => t.dev = s.dev ∧ t.regs = latch s.regs word := by
  intro _ t hrun
  unfold transfer at hrun
  dsimp only at hrun
  split at hrun
  · obtain ⟨-, rfl⟩ := Prod.mk.inj hrun
    exact ⟨rfl, rfl⟩
  · exact absurd (Prod.mk.inj hrun).1 nofun

lemma moves_write {r d : UInt32} (hd : Clear d) (hr : r &&& 0x1F = r) (h : r ∉ A) : Moves (Keeps A) (write r d) :=
  moves_transfer (by rwa [address_word hd hr])

lemma ensures_write {r d : UInt32} (hd : Clear d) (hr : r &&& 0x1F = r) (s : Adf5902) :
    Ensures (write r d) s fun _ t => t.dev = s.dev ∧ t.regs = Function.update s.regs r (d ||| r) := by
  have h := ensures_transfer (d ||| r) s
  rwa [latch, address_word hd hr] at h

lemma moves_bind {α β : Type} {x : Fallible Adf5902 α} {f : α → Fallible Adf5902 β} (hx : Moves (Keeps A) x)
    (hf : ∀ a, Moves (Keeps A) (f a)) : Moves (Keeps A) (x >>= f) := Moves.bind (fun _ _ _ => Keeps.trans) hx hf

lemma moves_getDev : Moves (Keeps A) getDev := Keeps.refl A

lemma moves_readback {regAddr : UInt8} {data : UInt32} (hdata : data &&& 0xFFFF0000 = 0)
    (hreg : ((0x3 : UInt8) ||| (regAddr <<< (5 : UInt8))).toUInt32 &&& 0x1F = 3) (h3 : 3 ∉ A) (h0 : 0 ∉ A) :
    Moves (Keeps A) (readback regAddr data) := by
  apply moves_bind
  · apply moves_transfer
    have hshift := clear_shift ((data >>> (8 : UInt32)).toUInt8 ||| (regAddr >>> (3 : UInt8))).toUInt32 8
      (by decide) (by decide)
    rw [hdata, UInt32.zero_or, address_or, hshift, hreg, UInt32.zero_or]
    exact h3
  · exact fun _ => moves_transfer h0

lemma moves_writeAll {ws : List (UInt32 × UInt32)}
    (h : ∀ w ∈ ws, Clear w.2 ∧ w.1 &&& 0x1F = w.1 ∧ w.1 ∉ A) : Moves (Keeps A) (writeAll ws) := by
  induction ws with
  | nil => exact Moves.pure (Keeps.refl A)
  | cons w ws ih =>
    obtain ⟨hclear, haddr, hnot⟩ := h w (List.mem_cons_self ..)
    apply moves_bind (moves_write hclear haddr hnot)
    exact fun _ => ih fun w hw => h w (List.mem_cons_of_mem _ hw)

lemma ensures_getDev (s : Adf5902) : Ensures getDev s fun dev t => dev = s.dev ∧ t = s := by
  intro dev t hrun
  obtain ⟨hdev, rfl⟩ := Prod.mk.inj hrun
  exact ⟨(Except.ok.inj hdev).symm, rfl⟩

/-- The driver has the settings `p`. -/
def Of (p : Adf5902Settings) (s : Adf5902) : Prop := s.dev.toAdf5902Settings.base = p.base

variable {p : Adf5902Settings}

lemma moves_of {α : Type} {x : Fallible Adf5902 α} (hx : Moves (Keeps []) x) :
    Moves (fun s t => Of p s → Of p t) x := by
  intro s hs
  rw [Of, (hx s).1]
  exact hs

lemma moves_of_vcoFreqParam : Moves (fun s t => Of p s → Of p t) vcoFreqParam := by
  intro s hs
  unfold vcoFreqParam
  split
  · exact hs
  · rename_i ret dev h
    have hsettings := Adf5902Dev.vcoFreqParam_settings h
    split <;> exact (congrArg _ hsettings).trans hs

lemma moves_of_setRefDiv2En (div2 : UInt8) : Moves (fun s t => Of p s → Of p t) (setRefDiv2En div2) := fun _ hs => hs

lemma ensures_setRefDiv2En (hs : Of p s) :
    Ensures (setRefDiv2En p.refDiv2En) s fun _ t => t.dev.toAdf5902Settings = p := by
  intro _ t hrun
  obtain ⟨-, rfl⟩ := Prod.mk.inj hrun
  have h := congrArg (fun q : Adf5902Settings => { q with refDiv2En := p.refDiv2En }) hs
  exact h

lemma ensures_vcoFreqParam (hp : p.InRange) (hs : s.dev.toAdf5902Settings = p) :
    Ensures vcoFreqParam s fun _ t => t.dev.toAdf5902Settings = p ∧ t.dev.Solved := by
  intro _ t hrun
  obtain ⟨ret, dev', hparam, hsettings, hsolved⟩ := @Adf5902Dev.vcoFreqParam_spec s.dev (by rwa [hs])
  unfold vcoFreqParam at hrun
  rw [hparam] at hrun
  dsimp only at hrun
  split at hrun
  · obtain ⟨-, rfl⟩ := Prod.mk.inj hrun
    exact ⟨hsettings.trans hs, hsolved ‹_›⟩
  · exact absurd (Prod.mk.inj hrun).1 nofun

lemma moves_any (r d : UInt32) : Moves (Keeps []) (write r d) := moves_transfer List.not_mem_nil

lemma moves_any_writeAll (ws : List (UInt32 × UInt32)) : Moves (Keeps []) (writeAll ws) := by
  induction ws with
  | nil => exact Moves.pure (Keeps.refl [])
  | cons w ws ih => exact moves_bind (moves_any _ _) fun _ => ih

lemma moves_vcoFreqCalib : Moves (Keeps []) vcoFreqCalib := by
  unfold vcoFreqCalib
  refine moves_bind moves_getDev fun dev => ?_
  iterate 11 refine moves_bind (moves_any _ _) fun _ => ?_
  exact moves_any _ _

def slotsFive (dev : Adf5902Dev) : List Slot :=
  [⟨5, 12, dev.fracMsb.toUInt32 &&& UInt32.ofNat (2 ^ 12 - 1)⟩,
    ⟨17, 12, dev.intDiv.toUInt32 &&& UInt32.ofNat (2 ^ 12 - 1)⟩, ⟨0, 5, 5⟩]

def slotsSix (dev : Adf5902Dev) : List Slot :=
  [⟨5, 13, dev.fracLsb.toUInt32 &&& UInt32.ofNat (2 ^ 13 - 1)⟩, ⟨0, 5, 6⟩]

def slotsSeven (dev : Adf5902Dev) (div2 : UInt8) (clkDiv : UInt16) : List Slot :=
  [⟨24, 1, 1⟩, ⟨5, 5, dev.refDivFactor.toUInt32 &&& UInt32.ofNat (2 ^ 5 - 1)⟩,
    ⟨10, 1, dev.refDoublerEn.toUInt32 &&& UInt32.ofNat (2 ^ 1 - 1)⟩,
    ⟨11, 1, div2.toUInt32 &&& UInt32.ofNat (2 ^ 1 - 1)⟩,
    ⟨12, 12, clkDiv.toUInt32 &&& UInt32.ofNat (2 ^ 12 - 1)⟩, ⟨0, 5, 7⟩]

lemma reg5_eq (dev : Adf5902Dev) : reg5 dev ||| 0x5 = pack (slotsFive dev) := by
  have h0 : ADF5902_REG5_RESERVED = 0 := by decide
  have hramp : ADF5902_REG5_RAMP_ON 0 = 0 := by decide
  rw [reg5, h0, hramp, UInt32.zero_or, UInt32.or_zero, UInt32.or_assoc]
  rfl

lemma reg6_eq (dev : Adf5902Dev) : reg6 dev ||| 0x6 = pack (slotsSix dev) := by
  have h0 : ADF5902_REG6_RESERVED = 0 := by decide
  rw [reg6, h0, UInt32.zero_or]
  rfl

lemma reg7_eq (dev : Adf5902Dev) (div2 : UInt8) (clkDiv : UInt16) :
    reg7 dev div2 clkDiv ||| 0x7 = pack (slotsSeven dev div2 clkDiv) := by
  have hreset : ADF5902_REG7_MASTER_RESET 0 = 0 := by decide
  rw [reg7, hreset, UInt32.or_zero]
  simp only [UInt32.or_assoc]
  rfl

lemma reg5_fields {dev : Adf5902Dev} (h : dev.Solved) :
    unpack 17 12 (reg5 dev ||| 0x5) = dev.intDiv.toUInt32 ∧
      unpack 5 12 (reg5 dev ||| 0x5) = dev.fracMsb.toUInt32 := by
  have hfits : ∀ f ∈ slotsFive dev, f.Fits := by
    simp only [slotsFive, List.forall_mem_cons, List.not_mem_nil, false_implies, implies_true, and_true]
    exact ⟨fits_masked _ (by decide) (by decide) (by decide), fits_masked _ (by decide) (by decide) (by decide),
      by decide, by decide, by decide, by decide⟩
  have hapart : (slotsFive dev).Pairwise fun f g => Apart f.offset f.width g.offset g.width := by
    simp [slotsFive, Apart]
  have hint := h.int_le
  have hmsb := h.fracMsb_le
  rw [reg5_eq]
  constructor
  · rw [unpack_pack (f := ⟨17, 12, _⟩) hfits hapart (List.mem_cons_of_mem _ (List.mem_cons_self ..))]
    exact masked_of_lt (by decide) (by rw [UInt16.toNat_toUInt32]; omega)
  · rw [unpack_pack (f := ⟨5, 12, _⟩) hfits hapart (List.mem_cons_self ..)]
    exact masked_of_lt (by decide) (by rw [UInt16.toNat_toUInt32]; omega)

lemma reg6_fields {dev : Adf5902Dev} (h : dev.Solved) : unpack 5 13 (reg6 dev ||| 0x6) = dev.fracLsb.toUInt32 := by
  have hfits : ∀ f ∈ slotsSix dev, f.Fits := by
    simp only [slotsSix, List.forall_mem_cons, List.not_mem_nil, false_implies, implies_true, and_true]
    exact ⟨fits_masked _ (by decide) (by decide) (by decide), by decide, by decide, by decide, by decide⟩
  have hapart : (slotsSix dev).Pairwise fun f g => Apart f.offset f.width g.offset g.width := by
    simp [slotsSix, Apart]
  have hlsb := h.fracLsb_le
  rw [reg6_eq, unpack_pack (f := ⟨5, 13, _⟩) hfits hapart (List.mem_cons_self ..)]
  exact masked_of_lt (by decide) (by rw [UInt16.toNat_toUInt32]; omega)

lemma reg7_fields {dev : Adf5902Dev} (h : dev.Solved) (hp : dev.toAdf5902Settings.InRange) (div2 : UInt8)
    (hdiv2 : div2.toNat ≤ 1) (clkDiv : UInt16) :
    unpack 5 5 (reg7 dev div2 clkDiv ||| 0x7) = dev.refDivFactor.toUInt32 ∧
      unpack 10 1 (reg7 dev div2 clkDiv ||| 0x7) = dev.refDoublerEn.toUInt32 ∧
      unpack 11 1 (reg7 dev div2 clkDiv ||| 0x7) = div2.toUInt32 := by
  have hfits : ∀ f ∈ slotsSeven dev div2 clkDiv, f.Fits := by
    simp only [slotsSeven, List.forall_mem_cons, List.not_mem_nil, false_implies, implies_true, and_true]
    exact ⟨⟨by decide, by decide, by decide, by decide⟩, fits_masked _ (by decide) (by decide) (by decide),
      fits_masked _ (by decide) (by decide) (by decide), fits_masked _ (by decide) (by decide) (by decide),
      fits_masked _ (by decide) (by decide) (by decide), by decide, by decide, by decide, by decide⟩
  have hapart : (slotsSeven dev div2 clkDiv).Pairwise fun f g => Apart f.offset f.width g.offset g.width := by
    simp [slotsSeven, Apart]
  have hfactor := h.factor_le
  have hdoubler := hp.doubler
  rw [reg7_eq]
  refine ⟨?_, ?_, ?_⟩
  · rw [unpack_pack (f := ⟨5, 5, _⟩) hfits hapart (List.mem_of_getElem? (i := 1) rfl)]
    exact masked_of_lt (by decide) (by rw [UInt8.toNat_toUInt32]; omega)
  · rw [unpack_pack (f := ⟨10, 1, _⟩) hfits hapart (List.mem_of_getElem? (i := 2) rfl)]
    exact masked_of_lt (by decide) (by rw [UInt8.toNat_toUInt32]; omega)
  · rw [unpack_pack (f := ⟨11, 1, _⟩) hfits hapart (List.mem_of_getElem? (i := 3) rfl)]
    exact masked_of_lt (by decide) (by rw [UInt8.toNat_toUInt32]; omega)

lemma tuned_of_words (h : s.dev.Solved) (h5 : s.regs 5 = reg5 s.dev ||| 0x5) (h6 : s.regs 6 = reg6 s.dev ||| 0x6) :
    s.Tuned where
  int := by rw [h5, (reg5_fields h).1]
  fracMsb := by rw [h5, (reg5_fields h).2]
  fracLsb := by rw [h6, reg6_fields h]

lemma referenced_of_word (h : s.dev.Solved) (hp : s.dev.toAdf5902Settings.InRange) {clkDiv : UInt16}
    (h7 : s.regs 7 = reg7 s.dev ADF5902_R_DIV_2_DISABLE clkDiv ||| 0x7) : s.Referenced := by
  obtain ⟨hfactor, hdoubler, hdiv2⟩ := reg7_fields h hp ADF5902_R_DIV_2_DISABLE (by decide) clkDiv
  exact ⟨by rw [h7, hfactor], by rw [h7, hdoubler], by rw [h7, hdiv2]; rfl⟩

/-- What is left of `adf5902_vco_normal_op` once the parameters are computed. -/
lemma ensures_vcoNormalOp (hp : p.InRange) (hs : s.dev.toAdf5902Settings = p) :
    Ensures vcoNormalOp s fun _ t => t.dev.toAdf5902Settings = p ∧ t.Locked := by
  have hreg5 : ∀ dev : Adf5902Dev, ADF5902_REG5_RESERVED ||| ADF5902_REG5_FRAC_MSB_WORD dev.fracMsb.toUInt32 |||
      ADF5902_REG5_INTEGER_WORD dev.intDiv.toUInt32 = reg5 dev := fun dev => by
    rw [reg5, show ADF5902_REG5_RAMP_ON 0 = 0 by decide, UInt32.or_zero]
  unfold vcoNormalOp
  refine Ensures.bind_of ((moves_any _ _).ensures s) ?_
  intro _ s₁ h₁
  refine Ensures.bind_of (ensures_vcoFreqParam hp (by rw [h₁.1, hs])) ?_
  rintro _ s₂ ⟨hsettings, hsolved⟩
  refine Ensures.bind_of (ensures_getDev s₂) ?_
  rintro _ s₂ ⟨rfl, rfl⟩
  rw [hreg5]
  refine Ensures.bind_of (ensures_write (clear_reg7 ..) (by decide) s₂) ?_
  rintro _ s₃ ⟨hdev₃, hregs₃⟩
  refine Ensures.bind_of (ensures_write (clear_reg6 _) (by decide) s₃) ?_
  rintro _ s₄ ⟨hdev₄, hregs₄⟩
  refine Ensures.bind_of (ensures_write (clear_reg5 _) (by decide) s₄) ?_
  rintro _ s₅ ⟨hdev₅, hregs₅⟩
  have hdev : s₅.dev = s₂.dev := by rw [hdev₅, hdev₄, hdev₃]
  have h7 : s₅.regs 7 = reg7 s₂.dev ADF5902_R_DIV_2_DISABLE s₂.dev.clk1DivRamp ||| 0x7 := by
    rw [hregs₅, Function.update_of_ne (by decide), hregs₄, Function.update_of_ne (by decide), hregs₃,
      Function.update_self]
  have h6 : s₅.regs 6 = reg6 s₂.dev ||| 0x6 := by
    rw [hregs₅, Function.update_of_ne (by decide), hregs₄, Function.update_self]
  have h5 : s₅.regs 5 = reg5 s₂.dev ||| 0x5 := by rw [hregs₅, Function.update_self]
  rw [← hdev] at hsettings hsolved h7 h6 h5
  have hrest : Moves (Keeps [5, 6, 7]) (do
      write 0x4 (ADF5902_REG4_RESERVED ||| ADF5902_REG4_TEST_BUS s₂.dev.rampStatus.toUInt32)
      write 0x3 (ADF5902_REG3_RESERVED ||| ADF5902_REG3_READBACK_CTRL ADF5902_REG_RB_NONE ||| ADF5902_REG3_IO_LVL 1 |||
        ADF5902_REG3_MUXOUT ADF5902_MUXOUT_RAMP_STATUS)
      write 0xB (ADF5902_REG11_RESERVED ||| ADF5902_REG11_RAMP_MODE s₂.dev.rampMode.toUInt32)) := by
    apply moves_bind (moves_write (clear_or (by decide) (clear_shift _ _ (by decide) (by decide))) (by decide)
      (by decide))
    intro _
    apply moves_bind (moves_write (by decide) (by decide) (by decide))
    intro _
    exact moves_write (clear_or (by decide) (clear_shift _ _ (by decide) (by decide))) (by decide) (by decide)
  refine (hrest.ensures s₅).mono fun _ t ht => ?_
  have hrange : s₅.dev.toAdf5902Settings.InRange := by rwa [hsettings]
  exact ⟨by rw [ht.1, hsettings], by rwa [ht.1], by rwa [ht.1],
    ht.tuned (by decide) (by decide) (tuned_of_words hsolved h5 h6),
    ht.referenced (by decide) (referenced_of_word hsolved hrange h7)⟩

lemma ensures_relock (hp : p.InRange) (hs : Of p s) :
    Ensures (do setRefDiv2En p.refDiv2En; vcoFreqParam; vcoNormalOp) s fun _ t =>
      t.dev.toAdf5902Settings = p ∧ t.Locked := by
  refine Ensures.bind_of (ensures_setRefDiv2En hs) ?_
  intro _ s₁ h₁
  refine Ensures.bind_of (ensures_vcoFreqParam hp h₁) ?_
  rintro _ s₂ ⟨h₂, -⟩
  exact ensures_vcoNormalOp hp h₂

lemma ensures_init (hp : p.InRange) (hs : Of p s) :
    Ensures (init p) s fun _ t => t.dev.toAdf5902Settings = p ∧ t.Locked := by
  unfold init
  refine Ensures.after (moves_of_setRefDiv2En _) hs fun _ s hs => ?_
  refine Ensures.after moves_of_vcoFreqParam hs fun _ s hs => ?_
  refine Ensures.after (moves_of moves_getDev) hs fun dev s hs => ?_
  iterate 8 refine Ensures.after (moves_of (moves_any _ _)) hs fun _ s hs => ?_
  refine Ensures.after (moves_of moves_vcoFreqCalib) hs fun _ s hs => ?_
  refine Ensures.after (moves_of (moves_any _ _)) hs fun _ s hs => ?_
  iterate 3 refine Ensures.after (moves_of (moves_any_writeAll _)) hs fun _ s hs => ?_
  refine Ensures.after (moves_of (moves_any _ _)) hs fun _ s hs => ?_
  exact ensures_relock hp hs

lemma ensures_recalibrate (hp : p.InRange) (hs : s.dev.toAdf5902Settings = p) :
    Ensures recalibrate s fun _ t => t.dev.toAdf5902Settings = p ∧ t.Locked := by
  unfold recalibrate
  refine Ensures.bind_of (ensures_getDev s) ?_
  rintro _ s ⟨rfl, rfl⟩
  rw [hs]
  have hof : Of p s := congrArg _ hs
  refine Ensures.after moves_of_vcoFreqParam hof fun _ s hs => ?_
  iterate 2 refine Ensures.after (moves_of (moves_any _ _)) hs fun _ s hs => ?_
  refine Ensures.after (moves_of moves_vcoFreqCalib) hs fun _ s hs => ?_
  refine Ensures.after (moves_of (moves_any _ _)) hs fun _ s hs => ?_
  exact ensures_relock hp hs

lemma Keeps.locked (h : Keeps [5, 6, 7] s t) (hs : s.Locked) : t.Locked := by
  obtain ⟨hrange, hsolved, htuned, href⟩ := hs
  exact ⟨by rwa [h.1], by rwa [h.1], h.tuned (by decide) (by decide) htuned, h.referenced (by decide) href⟩

lemma moves_reg2 (start : UInt32) (dev : Adf5902Dev) : Moves (Keeps [5, 6, 7]) (write 0x2 (reg2 dev start)) := by
  refine moves_write ?_ (by decide) (by decide)
  exact clear_or (clear_or (clear_or (by decide) (clear_shift _ _ (by decide) (by decide)))
    (clear_shift _ _ (by decide) (by decide))) (clear_shift _ _ (by decide) (by decide))

lemma moves_readTemp : Moves (Keeps [5, 6, 7]) readTemp := by
  unfold readTemp
  refine moves_bind moves_getDev fun dev => ?_
  refine moves_bind (moves_write (by decide) (by decide) (by decide)) fun _ => ?_
  refine moves_bind (moves_reg2 1 dev) fun _ => ?_
  refine moves_bind (moves_readback (by decide) (by decide) (by decide) (by decide)) fun _ => ?_
  refine moves_bind (moves_write (by decide) (by decide) (by decide)) fun _ => ?_
  exact moves_reg2 0 dev

lemma moves_clk2 (A : List UInt32) (hA : 0xD ∉ A) (dev : Adf5902Dev) (w : ℕ → UInt16 → UInt16) (mode : UInt8) :
    Moves (Keeps A) (writeAll (dev.clk2Div.zipIdx.map fun x =>
      (0xD, reg13 (w x.2 x.1) x.2 mode dev.leSel))) := by
  apply moves_writeAll
  intro x hx
  obtain ⟨y, -, rfl⟩ := List.mem_map.mp hx
  exact ⟨clear_reg13 .., (by decide : (0xD : UInt32) &&& 0x1F = 0xD), hA⟩

/-- A word for register 5 has the fields that are there already, whether it arrives or not. -/
lemma tuned_rewrite (hs : s.Tuned) (hsolved : s.dev.Solved) : (write 0x5 (reg5 s.dev) s).2.Tuned := by
  unfold write transfer
  dsimp only
  split
  · obtain ⟨hint, hmsb⟩ := reg5_fields hsolved
    have h5 : latch s.regs (reg5 s.dev ||| 0x5) 5 = reg5 s.dev ||| 0x5 := by
      rw [latch, address_word (clear_reg5 _) (by decide), Function.update_self]
    have h6 : latch s.regs (reg5 s.dev ||| 0x5) 6 = s.regs 6 := by
      rw [latch, address_word (clear_reg5 _) (by decide), Function.update_of_ne (by decide)]
    exact ⟨(congrArg _ h5).trans hint, (congrArg _ h5).trans hmsb, (congrArg _ h6).trans hs.fracLsb⟩
  · exact ⟨hs.int, hs.fracMsb, hs.fracLsb⟩

lemma ensures_computeFrequency (hs : s.Locked) :
    Ensures computeFrequency s fun _ t => t.dev = s.dev ∧ t.Locked := by
  obtain ⟨hrange, hsolved, htuned, -⟩ := hs
  have hne : s.dev.fPfd ≠ 0 := by
    intro hzero
    have hlow := hsolved.le_fPfd
    rw [hzero] at hlow
    exact absurd hlow (by decide)
  unfold computeFrequency
  refine Ensures.bind_of (ensures_getDev s) ?_
  rintro _ s ⟨rfl, rfl⟩
  rw [if_neg hne]
  refine Ensures.bind_of ((moves_readback (A := [5, 6]) (by decide) (by decide) (by decide) (by decide)).ensures s) ?_
  intro _ s₁ h₁
  refine Ensures.bind_of ((moves_clk2 [5, 6] (by decide) s.dev (fun _ _ => 10) ADF5902_CLK_DIV_OFF).ensures s₁) ?_
  intro _ s₂ h₂
  refine Ensures.bind_of ((moves_write (A := [5, 6]) (clear_reg7 ..) (by decide) (by decide)).ensures s₂) ?_
  intro _ s₃ h₃
  have hkept := (h₁.trans h₂).trans h₃
  have htuned₃ : s₃.Tuned := hkept.tuned (by decide) (by decide) htuned
  have hignore : Ensures (Fallible.ignore (write 0x5 (reg5 s.dev))) s₃ fun _ t => t.dev = s.dev ∧ t.Tuned := by
    apply Ensures.ignore
    rw [← hkept.1]
    exact ⟨(moves_any _ _ s₃).1, tuned_rewrite htuned₃ (by rwa [hkept.1])⟩
  refine Ensures.bind_of hignore ?_
  intro _ s₄ h₄
  refine Ensures.bind_of ((moves_clk2 [5, 6] (by decide) s.dev (fun _ _ => 10) ADF5902_FREQ_MEASURE).ensures s₄) ?_
  intro _ s₅ h₅
  refine Ensures.bind_of ((moves_readback (A := [5, 6]) (by decide) (by decide) (by decide) (by decide)).ensures s₅) ?_
  intro _ s₆ h₆
  have htuned₆ : s₆.Tuned := (h₅.trans h₆).tuned (by decide) (by decide) h₄.2
  have hdev₆ : s₆.dev = s.dev := (h₅.trans h₆).1.trans h₄.1
  refine Ensures.bind ?_
  intro _ s₇ hrun
  have h₇ := (moves_write (A := [5, 6]) (clear_reg7 ..) (by decide) (by decide)).ensures s₆ _ _ hrun
  have hregs₇ := (ensures_write (clear_reg7 ..) (by decide) s₆ _ _ hrun).2
  have hdev₇ : s₇.dev = s.dev := h₇.1.trans hdev₆
  have href₇ : s₇.Referenced := by
    refine @referenced_of_word s₇ (by rwa [hdev₇]) (by rwa [hdev₇]) s.dev.clk1DivRamp ?_
    rw [hregs₇, Function.update_self, hdev₇]
  have hlocked : s₇.Locked :=
    ⟨by rwa [hdev₇], by rwa [hdev₇], h₇.tuned (by decide) (by decide) htuned₆, href₇⟩
  refine ((moves_clk2 [5, 6, 7] (by decide) s.dev (fun _ w => w) s.dev.clkDivMode).ensures s₇).mono fun _ t ht => ?_
  exact ⟨ht.1.trans hdev₇, ht.locked hlocked⟩

end Adf5902

inductive Adf5902Call
  | recalibrate
  | readTemp
  | computeFrequency
deriving DecidableEq, Repr

def Adf5902Call.run : Adf5902Call → Fallible Adf5902 Unit
  | recalibrate => Adf5902.recalibrate
  | readTemp => Adf5902.readTemp
  | computeFrequency => Adf5902.computeFrequency

namespace Adf5902

variable {s t : Adf5902} {p : Adf5902Settings}

/-- A call that fails ends the run. -/
def step (s : Adf5902) (c : Adf5902Call) : Except Int Adf5902 :=
  match c.run s with
  | (.ok _, t) => .ok t
  | (.error e, _) => .error e

/-- The driver of `calloc`, with the settings of the parameters. -/
def new (p : Adf5902Settings) (regs : UInt32 → UInt32) (codes : ℕ → Int) : Adf5902 where
  dev := { p with
    fPfd := 0, refDivFactor := 0, intDiv := 0, fracMsb := 0, fracLsb := 0, freqCalDiv := 0, clk1Div := 0,
    adcClkDiv := 0 }
  regs := regs
  codes := codes
  transfers := 0

/-- `adf5902_init`, `none` for parameters that are refused. -/
def start (p : Adf5902Settings) (regs : UInt32 → UInt32) (codes : ℕ → Int) : Except Int Adf5902 :=
  if p.Checked then
    match init p (new p regs codes) with
    | (.ok _, s) => .ok s
    | (.error e, _) => .error e
  else .error (-EINVAL)

lemma start_locked {regs : UInt32 → UInt32} {codes : ℕ → Int} (h : start p regs codes = .ok s) :
    p.InRange ∧ s.dev.toAdf5902Settings = p ∧ s.Locked := by
  unfold start at h
  split at h
  · rename_i hp
    split at h
    · rename_i hrun
      obtain rfl := Except.ok.inj h
      exact ⟨hp.inRange, ensures_init (s := new p regs codes) hp.inRange rfl _ _ hrun⟩
    · exact absurd h nofun
  · exact absurd h nofun

lemma step_locked (hp : p.InRange) (hs : s.dev.toAdf5902Settings = p) (hlocked : s.Locked) {c : Adf5902Call}
    (h : step s c = .ok t) : t.dev.toAdf5902Settings = p ∧ t.Locked := by
  unfold step at h
  split at h
  · rename_i hrun
    obtain rfl := Except.ok.inj h
    cases c with
    | recalibrate => exact ensures_recalibrate hp hs _ _ hrun
    | readTemp =>
      have hkept := moves_readTemp.ensures s _ _ hrun
      exact ⟨by rw [hkept.1, hs], hkept.locked hlocked⟩
    | computeFrequency =>
      obtain ⟨hdev, ht⟩ := ensures_computeFrequency hlocked _ _ hrun
      exact ⟨by rw [hdev, hs], ht⟩
  · exact absurd h nofun

lemma Locked.tuningWord (h : s.Locked) : s.tuningWord = s.dev.rfOut.toNat * 2 ^ 25 / (2 * s.dev.fPfd.toNat) := by
  rw [Adf5902.tuningWord, h.tuned.int, h.tuned.fracMsb, h.tuned.fracLsb, UInt16.toNat_toUInt32,
    UInt16.toNat_toUInt32, UInt16.toNat_toUInt32, h.solved.word_eq, Nat.mul_comm 2]

lemma Locked.pfd (h : s.Locked) :
    s.pfd = (s.dev.refIn.toNat * (1 + s.dev.refDoublerEn.toNat) : ℕ) / (s.dev.refDivFactor.toNat : ℚ) := by
  rw [Adf5902.pfd, h.referenced.doubler, h.referenced.factor, h.referenced.div2, UInt8.toNat_toUInt32,
    UInt8.toNat_toUInt32, UInt32.toNat_zero]
  push_cast
  rw [add_zero, mul_one]

/-- With the divider by two disabled the frequency is the requested one, otherwise it is twice as high. -/
lemma Locked.realises_iff (h : s.Locked) : s.Realises ↔ s.dev.refDiv2En = 0 := by
  have hsolved := h.solved
  have hword := h.tuningWord
  have hpos : (0 : ℚ) < s.dev.refDivFactor.toNat := by exact_mod_cast hsolved.factor_pos
  have hlow : (5000000 : ℚ) ≤ s.dev.fPfd.toNat := by exact_mod_cast hsolved.le_fPfd
  have hhigh : (s.dev.fPfd.toNat : ℚ) ≤ 110000000 := by exact_mod_cast hsolved.fPfd_le
  have hwpos : (0 : ℚ) ≤ s.tuningWord := by positivity
  have hfpos : 0 < 2 * s.dev.fPfd.toNat := by
    have := hsolved.le_fPfd
    lia
  have hle : (s.tuningWord : ℚ) * (2 * s.dev.fPfd.toNat) ≤ s.dev.rfOut.toNat * 2 ^ 25 := by
    have hnat := Nat.div_mul_le_self (s.dev.rfOut.toNat * 2 ^ 25) (2 * s.dev.fPfd.toNat)
    rw [← hword] at hnat
    exact_mod_cast hnat
  have hlt : (s.dev.rfOut.toNat : ℚ) * 2 ^ 25 < (s.tuningWord + 1) * (2 * s.dev.fPfd.toNat) := by
    have hnat := Nat.lt_div_mul_add hfpos (a := s.dev.rfOut.toNat * 2 ^ 25)
    rw [← hword, ← Nat.succ_mul] at hnat
    exact_mod_cast hnat
  -- the frequency of the phase detector by the registers, which have no divider by two
  have hfloor := hsolved.fPfd_eq
  have hdivisor : 0 < s.dev.refDivFactor.toNat * (1 + s.dev.refDiv2En.toNat) :=
    Nat.mul_pos hsolved.factor_pos (Nat.add_pos_left Nat.one_pos _)
  have hbelow : (s.dev.fPfd.toNat : ℚ) * (1 + s.dev.refDiv2En.toNat) ≤ s.pfd := by
    have hnat := Nat.div_mul_le_self (s.dev.refIn.toNat * (1 + s.dev.refDoublerEn.toNat))
      (s.dev.refDivFactor.toNat * (1 + s.dev.refDiv2En.toNat))
    rw [← hfloor, Nat.mul_comm s.dev.refDivFactor.toNat, ← Nat.mul_assoc] at hnat
    rw [h.pfd, le_div_iff₀ hpos]
    exact_mod_cast hnat
  have habove : s.pfd ≤ ((s.dev.fPfd.toNat : ℚ) + 1) * (1 + s.dev.refDiv2En.toNat) := by
    have hnat := Nat.lt_div_mul_add hdivisor (a := s.dev.refIn.toNat * (1 + s.dev.refDoublerEn.toNat))
    rw [← hfloor, ← Nat.succ_mul, Nat.mul_comm s.dev.refDivFactor.toNat, ← Nat.mul_assoc] at hnat
    rw [h.pfd, div_le_iff₀ hpos]
    exact_mod_cast hnat.le
  constructor
  · intro hreal
    by_contra hne
    have hone : s.dev.refDiv2En.toNat = 1 := by
      have hdiv2 := h.inRange.div2
      have hnat : s.dev.refDiv2En.toNat ≠ 0 := fun hzero => hne (UInt8.toNat_inj.mp hzero)
      lia
    rw [hone, Nat.cast_one, one_add_one_eq_two] at hbelow habove
    have hrf : (24000000000 : ℚ) ≤ s.dev.rfOut.toNat := by exact_mod_cast h.inRange.le_rfOut
    have hrf' : (s.dev.rfOut.toNat : ℚ) ≤ 24250000000 := by exact_mod_cast h.inRange.rfOut_le
    have hfar := output_far hlow hhigh hwpos (by linarith) (by linarith) hrf hrf' hlt
    exact absurd hreal.near (not_le.mpr hfar)
  · intro hzero
    rw [hzero, UInt8.toNat_zero, Nat.cast_zero, add_zero, mul_one] at hbelow habove
    obtain ⟨ret, dev', hparam, -⟩ := Adf5902Dev.vcoFreqParam_spec h.inRange
    exact ⟨output_near (by linarith) hwpos hbelow habove hle hlt, hword, hsolved.factor_le, hsolved.int_le,
      hsolved.freqCalDiv_le, hsolved.clk1Div_le, hsolved.adcClkDiv_le, by rw [hparam]; rfl⟩

end Adf5902

/-- For all parameters that are accepted the function returns, and what it computes fits and is exact. In every run of
calls that succeed after an initialisation that succeeds, the registers realise the requested frequency in every
state if and only if the divider by two is not asked for. -/
theorem frequency_realised_iff (p : Adf5902Settings) (hp : p.Checked) :
    (∀ dev : Adf5902Dev, dev.toAdf5902Settings = p ∨
        dev.toAdf5902Settings = { p with refDiv2En := ADF5902_R_DIV_2_ENABLE } →
      ∃ ret dev', dev.vcoFreqParam = some (ret, dev') ∧ (ret = SUCCESS → dev'.Solved)) ∧
    ∀ regs codes s, Adf5902.start p regs codes = .ok s → ∀ calls,
      (Trace.Always (Trace.orFault Adf5902.step) (Trace.Unless (fun _ => True) Adf5902.Realises) (.ok s) calls ↔
        p.refDiv2En = 0) := by
  have hrange := hp.inRange
  constructor
  · intro dev hdev
    have hin : dev.toAdf5902Settings.InRange := by
      rcases hdev with h | h
      · rwa [h]
      · rw [h]
        exact { hrange with div2 := (by decide : ADF5902_R_DIV_2_ENABLE.toNat ≤ 1) }
    obtain ⟨ret, dev', hparam, -, hsolved⟩ := Adf5902Dev.vcoFreqParam_spec hin
    exact ⟨ret, dev', hparam, hsolved⟩
  · intro regs codes s hstart calls
    obtain ⟨-, hsettings, hlocked⟩ := Adf5902.start_locked hstart
    have hiff : ∀ t : Adf5902, t.dev.toAdf5902Settings = p ∧ t.Locked → (t.Realises ↔ p.refDiv2En = 0) := by
      rintro t ⟨ht, hlocked⟩
      rw [hlocked.realises_iff, ht]
    constructor
    · intro h
      exact (hiff s ⟨hsettings, hlocked⟩).mp h.first
    · intro hzero pre _
      have hrun : Trace.Unless (fun _ => True) (fun t : Adf5902 => t.dev.toAdf5902Settings = p ∧ t.Locked)
          (Trace.run (Trace.orFault Adf5902.step) (.ok s) pre) := by
        apply Trace.run_induction (P := Trace.Unless (fun _ => True) _)
        · exact ⟨hsettings, hlocked⟩
        · rintro (e | t) c h
          · exact h
          · rw [Trace.orFault_ok]
            cases hc : t.step c with
            | error e => exact trivial
            | ok u => exact Adf5902.step_locked hrange h.1 h.2 hc
      cases hend : Trace.run (Trace.orFault Adf5902.step) (.ok s) pre with
      | error e => exact trivial
      | ok t =>
        rw [hend] at hrun
        exact (hiff t hrun).mpr hzero

/-- A reference of 100 MHz and an output of 24.125 GHz. -/
def settingsAt (refDiv2En : UInt8) : Adf5902Settings where
  refIn := 100000000
  rfOut := 24125000000
  refDoublerEn := 0
  refDiv2En := refDiv2En
  adcAvg := 0
  txAmpCalRef := 0x9C
  rampDelayEn := 0
  txTrigEn := 0
  delayWd := []
  slopes := []
  txRampClk := 0
  txDataInvert := 0
  rampStatus := 0
  clk1DivRamp := 2
  clk2Div := [10]
  leSel := 0
  clkDivMode := ADF5902_RAMP_DIV
  cpCurrent := 7
  cpTristateEn := 0
  rampMode := 0

lemma exists_start {p : Adf5902Settings} (hok : (Adf5902.start p (fun _ => 0) (fun _ => 0)).isOk = true) :
    ∃ s, Adf5902.start p (fun _ => 0) (fun _ => 0) = .ok s := by
  cases hs : Adf5902.start p (fun _ => 0) (fun _ => 0) with
  | error e => rw [hs] at hok; exact absurd hok nofun
  | ok s => exact ⟨s, rfl⟩

theorem frequency_realised_at : ∃ s, Adf5902.start (settingsAt 0) (fun _ => 0) (fun _ => 0) = .ok s ∧
    Trace.Always (Trace.orFault Adf5902.step) (Trace.Unless (fun _ => True) Adf5902.Realises) (.ok s)
      [.recalibrate, .readTemp, .computeFrequency] := by
  obtain ⟨s, hs⟩ := exists_start (p := settingsAt 0) (by decide +kernel)
  exact ⟨s, hs, ((frequency_realised_iff (settingsAt 0) (by decide)).2 _ _ s hs _).mpr rfl⟩

/-- With the divider by two the output is at 48.25 GHz. -/
theorem frequency_not_realised : ∃ s, Adf5902.start (settingsAt 1) (fun _ => 0) (fun _ => 0) = .ok s ∧
    ¬Trace.Always (Trace.orFault Adf5902.step) (Trace.Unless (fun _ => True) Adf5902.Realises) (.ok s) [] := by
  obtain ⟨s, hs⟩ := exists_start (p := settingsAt 1) (by decide +kernel)
  obtain ⟨-, hsettings, hlocked⟩ := Adf5902.start_locked hs
  refine ⟨s, hs, fun h => ?_⟩
  have hreal : s.Realises := h.first
  rw [hlocked.realises_iff, hsettings] at hreal
  exact absurd hreal (by decide)

end NoOS
