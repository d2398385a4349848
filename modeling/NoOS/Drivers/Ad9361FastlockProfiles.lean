import NoOS.Drivers.Ad9361Fastlock
import NoOS.Lib.Trace

/-!
# The profiles of the synthesizers

A profile is stored from the registers of its synthesizer, which do not show the profile that is in use. The driver
takes the ALC word of the profile in use from its own copy, which a load of that profile changes.
-/

namespace NoOS

lemma byte_cases {P : UInt8 → Prop} (h : ∀ n < 256, P (UInt8.ofNat n)) (x : UInt8) : P x := by
  have hx := h x.toNat x.toNat_lt
  rwa [UInt8.ofNat_toNat] at hx

lemma byte_fields (x : UInt8) : ((x &&& 0x7F) >>> 0 <<< 1) >>> 1 = (x &&& 0x7F) >>> 0 ∧ (x + 2) >>> 1 ≠ x >>> 1 ∧
    (x <<< 4) &&& (0xF : UInt8) = 0 ∧ ((x &&& 0xF) >>> 0) &&& (0xF : UInt8) = (x &&& 0xF) >>> 0 ∧
    ((x &&& 0xF0) >>> 4) &&& (0xF : UInt8) = (x &&& 0xF0) >>> 4 := by
  revert x
  apply byte_cases
  decide +kernel

lemma alc_shift (x : UInt8) : ((x &&& 0x7F) >>> 0 <<< 1) >>> 1 = (x &&& 0x7F) >>> 0 := (byte_fields x).1

lemma alc_next (x : UInt8) : (x + 2) >>> 1 ≠ x >>> 1 := (byte_fields x).2.1

lemma high_and_low (x : UInt8) : (x <<< 4) &&& (0xF : UInt8) = 0 := (byte_fields x).2.2.1

lemma or_and_mask (x y mask : UInt8) : (x ||| y) &&& mask = (x &&& mask) ||| (y &&& mask) := by
  apply UInt8.toBitVec_inj.mp
  ext i
  simp only [UInt8.toBitVec_and, UInt8.toBitVec_or, BitVec.getElem_and, BitVec.getElem_or]
  grind

lemma rxDivider_and (x : UInt8) : ((x &&& 0xF) >>> 0) &&& (0xF : UInt8) = (x &&& 0xF) >>> 0 := (byte_fields x).2.2.2.1

lemma txDivider_and (x : UInt8) : ((x &&& 0xF0) >>> 4) &&& (0xF : UInt8) = (x &&& 0xF0) >>> 4 := (byte_fields x).2.2.2.2

lemma toNat_profileAddr (p : Profile) (i : ℕ) (hi : i < 16) : (profileAddr p i).toNat = p * 16 + i := by
  have hall : ∀ p : Fin 8, ∀ i : Fin 16, (profileAddr p i).toNat = p * 16 + i := by decide
  exact hall p ⟨i, hi⟩

lemma profileAddr_inj {p q : Profile} {i j : ℕ} (hi : i < 16) (hj : j < 16) (h : profileAddr p i = profileAddr q j) :
    p = q ∧ i = j := by
  have hnat := congrArg UInt8.toNat h
  rw [toNat_profileAddr p i hi, toNat_profileAddr q j hj] at hnat
  constructor
  · apply Fin.ext
    lia
  · lia

/-- The words below `n` of a profile. -/
def programmed (old : UInt8 → UInt8) (p : Profile) (values : ℕ → UInt8) : ℕ → UInt8 → UInt8
  | 0 => old
  | n + 1 => Function.update (programmed old p values n) (profileAddr p n) (values n)

section Programmed

variable {old : UInt8 → UInt8} {p : Profile} {values : ℕ → UInt8}

lemma programmed_apply {n i : ℕ} (hn : n ≤ 16) (hi : i < n) : programmed old p values n (profileAddr p i) = values i := by
  induction n with
  | zero => exact absurd hi (Nat.not_lt_zero i)
  | succ n ih =>
    rw [programmed]
    rcases Nat.lt_succ_iff_lt_or_eq.mp hi with hlt | rfl
    · have hne : profileAddr p i ≠ profileAddr p n := by
        intro h
        exact hlt.ne (profileAddr_inj (by lia) (by omega) h).2
      rw [Function.update_of_ne hne]
      exact ih (by omega) hlt
    · exact Function.update_self _ _ _

lemma programmed_of_ne {n i : ℕ} {q : Profile} (hn : n ≤ 16) (hi : i < 16) (hq : q ≠ p) :
    programmed old p values n (profileAddr q i) = old (profileAddr q i) := by
  induction n with
  | zero => rfl
  | succ n ih =>
    have hne : profileAddr q i ≠ profileAddr p n := by
      intro h
      exact hq (profileAddr_inj hi (by lia) h).1
    rw [programmed, Function.update_of_ne hne]
    exact ih (by omega)

end Programmed

namespace FastlockDevice

variable {dev : FastlockDevice} {tx : Bool} {p : Profile} {reg : UInt32} {val : UInt8} {values : ℕ → UInt8}

/-- A register that does not control a memory. -/
def Plain (reg : UInt32) : Prop := ∀ tx, reg ≠ REG_RX_FAST_LOCK_PROGRAM_CTRL + fastlockOffs tx

instance : DecidablePred Plain := fun _ => inferInstanceAs (Decidable (∀ _ : Bool, _))

lemma write_mem (h : Plain reg) : (dev.write reg val).mem = dev.mem := by
  funext tx
  exact if_neg fun hc => h tx hc.1

lemma write_mem_zero : (dev.write reg 0).mem = dev.mem := by
  funext tx
  exact if_neg fun hc => hc.2 rfl

lemma writef_mem {mask offset : UInt8} (h : Plain reg) : (dev.writef reg mask offset val).mem = dev.mem := write_mem h

lemma plain_port (tx : Bool) : Plain (REG_RX_FAST_LOCK_PROGRAM_ADDR + fastlockOffs tx) ∧
    Plain (REG_RX_FAST_LOCK_PROGRAM_DATA + fastlockOffs tx) ∧
    Plain (REG_RX_FAST_LOCK_PROGRAM_READ + fastlockOffs tx) := by
  cases tx <;> decide

lemma ctrl_inj {tx tx' : Bool}
    (h : REG_RX_FAST_LOCK_PROGRAM_CTRL + fastlockOffs tx = REG_RX_FAST_LOCK_PROGRAM_CTRL + fastlockOffs tx') : tx = tx' := by
  revert h
  cases tx <;> cases tx' <;> decide

lemma commit_mem : (dev.write (REG_RX_FAST_LOCK_PROGRAM_CTRL + fastlockOffs tx)
      (RX_FAST_LOCK_PROGRAM_WRITE ||| RX_FAST_LOCK_PROGRAM_CLOCK_ENABLE)).mem =
    Function.update dev.mem tx (Function.update (dev.mem tx) (dev.regs (REG_RX_FAST_LOCK_PROGRAM_ADDR + fastlockOffs tx))
      (dev.regs (REG_RX_FAST_LOCK_PROGRAM_DATA + fastlockOffs tx))) := by
  have hbit : (RX_FAST_LOCK_PROGRAM_WRITE ||| RX_FAST_LOCK_PROGRAM_CLOCK_ENABLE) &&& RX_FAST_LOCK_PROGRAM_WRITE ≠ 0 := by
    decide
  funext tx'
  by_cases h : tx' = tx
  · rw [h, Function.update_self]
    exact if_pos ⟨rfl, hbit⟩
  · rw [Function.update_of_ne h]
    exact if_neg fun hc => h (ctrl_inj hc.1).symm

lemma fastlockReadval_eq (dev : FastlockDevice) (tx : Bool) (p : Profile) (i : ℕ) :
    (dev.fastlockReadval tx p i).1 = dev.mem tx (profileAddr p i) ∧ (dev.fastlockReadval tx p i).2.mem = dev.mem := by
  have hmem := @write_mem dev _ (profileAddr p i) (plain_port tx).1
  refine ⟨?_, hmem⟩
  unfold fastlockReadval
  dsimp only
  cases tx with
  | false =>
    unfold read
    rw [if_pos rfl, hmem]
    congr 1
  | true =>
    have hne : REG_RX_FAST_LOCK_PROGRAM_READ + fastlockOffs true ≠ REG_RX_FAST_LOCK_PROGRAM_READ + fastlockOffs false := by
      decide
    unfold read
    rw [if_neg hne, if_pos rfl, hmem]
    congr 1

/-- One transfer of a load: the word before is taken, the next one waits. -/
lemma writem_load (addr data : UInt8) :
    (dev.writem (REG_RX_FAST_LOCK_PROGRAM_CTRL + fastlockOffs tx)
      [RX_FAST_LOCK_PROGRAM_WRITE ||| RX_FAST_LOCK_PROGRAM_CLOCK_ENABLE, 0, data, addr]).mem =
      Function.update dev.mem tx (Function.update (dev.mem tx)
        (dev.regs (REG_RX_FAST_LOCK_PROGRAM_ADDR + fastlockOffs tx))
        (dev.regs (REG_RX_FAST_LOCK_PROGRAM_DATA + fastlockOffs tx))) ∧
    (dev.writem (REG_RX_FAST_LOCK_PROGRAM_CTRL + fastlockOffs tx)
      [RX_FAST_LOCK_PROGRAM_WRITE ||| RX_FAST_LOCK_PROGRAM_CLOCK_ENABLE, 0, data, addr]).regs
        (REG_RX_FAST_LOCK_PROGRAM_ADDR + fastlockOffs tx) = addr ∧
    (dev.writem (REG_RX_FAST_LOCK_PROGRAM_CTRL + fastlockOffs tx)
      [RX_FAST_LOCK_PROGRAM_WRITE ||| RX_FAST_LOCK_PROGRAM_CLOCK_ENABLE, 0, data, addr]).regs
        (REG_RX_FAST_LOCK_PROGRAM_DATA + fastlockOffs tx) = data := by
  have hread : REG_RX_FAST_LOCK_PROGRAM_CTRL + fastlockOffs tx - 1 = REG_RX_FAST_LOCK_PROGRAM_READ + fastlockOffs tx := by
    cases tx <;> decide
  have hdata : REG_RX_FAST_LOCK_PROGRAM_READ + fastlockOffs tx - 1 = REG_RX_FAST_LOCK_PROGRAM_DATA + fastlockOffs tx := by
    cases tx <;> decide
  have haddr : REG_RX_FAST_LOCK_PROGRAM_DATA + fastlockOffs tx - 1 = REG_RX_FAST_LOCK_PROGRAM_ADDR + fastlockOffs tx := by
    cases tx <;> decide
  have hne : REG_RX_FAST_LOCK_PROGRAM_DATA + fastlockOffs tx ≠ REG_RX_FAST_LOCK_PROGRAM_ADDR + fastlockOffs tx := by
    cases tx <;> decide
  obtain ⟨hpa, hpd, hpr⟩ := plain_port tx
  simp only [writem, hread, hdata, haddr]
  refine ⟨?_, ?_, ?_⟩
  · rw [write_mem hpa, write_mem hpd, write_mem hpr, commit_mem]
  · exact Function.update_self _ _ _
  · exact (Function.update_of_ne hne _ _).trans (Function.update_self _ _ _)

/-- The state between two transfers of a load, with the words below `n` taken. -/
structure Loading (old dev : FastlockDevice) (tx : Bool) (p : Profile) (values : ℕ → UInt8) (n : ℕ) : Prop where
  mem : dev.mem = Function.update old.mem tx (programmed (old.mem tx) p values n)
  addr : dev.regs (REG_RX_FAST_LOCK_PROGRAM_ADDR + fastlockOffs tx) = profileAddr p n
  data : dev.regs (REG_RX_FAST_LOCK_PROGRAM_DATA + fastlockOffs tx) = values n

lemma Loading.next {old : FastlockDevice} {n : ℕ} (h : Loading old dev tx p values n) :
    Loading old (dev.writem (REG_RX_FAST_LOCK_PROGRAM_CTRL + fastlockOffs tx)
      [RX_FAST_LOCK_PROGRAM_WRITE ||| RX_FAST_LOCK_PROGRAM_CLOCK_ENABLE, 0, values (n + 1), profileAddr p (n + 1)])
      tx p values (n + 1) := by
  obtain ⟨hmem, haddr, hdata⟩ := @writem_load dev tx (profileAddr p (n + 1)) (values (n + 1))
  refine ⟨?_, haddr, hdata⟩
  rw [hmem, h.addr, h.data, h.mem, Function.update_idem, Function.update_self]
  rfl

lemma loadWords_mem (dev : FastlockDevice) (tx : Bool) (p : Profile) (values : ℕ → UInt8) :
    (dev.loadWords tx p values).mem = Function.update dev.mem tx (programmed (dev.mem tx) p values 16) := by
  obtain ⟨hpa, hpd, -⟩ := plain_port tx
  have haddr : REG_RX_FAST_LOCK_PROGRAM_DATA + fastlockOffs tx - 1 = REG_RX_FAST_LOCK_PROGRAM_ADDR + fastlockOffs tx := by
    cases tx <;> decide
  have hne : REG_RX_FAST_LOCK_PROGRAM_DATA + fastlockOffs tx ≠ REG_RX_FAST_LOCK_PROGRAM_ADDR + fastlockOffs tx := by
    cases tx <;> decide
  have hstart : Loading dev (dev.writem (REG_RX_FAST_LOCK_PROGRAM_DATA + fastlockOffs tx)
      [values 0, profileAddr p 0]) tx p values 0 := by
    simp only [writem, haddr]
    constructor
    · rw [write_mem hpa, write_mem hpd, programmed, Function.update_eq_self]
    · exact Function.update_self _ _ _
    · exact (Function.update_of_ne hne _ _).trans (Function.update_self _ _ _)
  have hloop : ∀ n, Loading dev ((List.range n).foldl (fun dev i =>
      dev.writem (REG_RX_FAST_LOCK_PROGRAM_CTRL + fastlockOffs tx)
        [RX_FAST_LOCK_PROGRAM_WRITE ||| RX_FAST_LOCK_PROGRAM_CLOCK_ENABLE, 0, values (i + 1), profileAddr p (i + 1)])
      (dev.writem (REG_RX_FAST_LOCK_PROGRAM_DATA + fastlockOffs tx) [values 0, profileAddr p 0])) tx p values n := by
    intro n
    induction n with
    | zero => exact hstart
    | succ n ih =>
      rw [List.range_succ, List.foldl_append]
      exact ih.next
  have hend := hloop (RX_FAST_LOCK_CONFIG_WORD_NUM - 1)
  unfold loadWords
  dsimp only
  rw [write_mem_zero, commit_mem, hend.addr, hend.data, hend.mem, Function.update_idem, Function.update_self]
  rfl

lemma fastlockWriteval_mem (dev : FastlockDevice) (tx : Bool) (p : Profile) (i : ℕ) (val : UInt8) :
    (dev.fastlockWriteval tx p i val true).mem =
      Function.update dev.mem tx (Function.update (dev.mem tx) (profileAddr p i) val) := by
  obtain ⟨hpa, hpd, -⟩ := plain_port tx
  have hne : REG_RX_FAST_LOCK_PROGRAM_ADDR + fastlockOffs tx ≠ REG_RX_FAST_LOCK_PROGRAM_DATA + fastlockOffs tx := by
    cases tx <;> decide
  unfold fastlockWriteval
  dsimp only
  rw [if_pos rfl, write_mem_zero, commit_mem, write_mem hpd, write_mem hpa]
  congr 2
  · exact (Function.update_of_ne hne _ _).trans (Function.update_self _ _ _)
  · exact Function.update_self _ _ _

end FastlockDevice

namespace Fastlock
open FastlockDevice

variable {phy : Fastlock} {tx : Bool} {p : Profile} {values : ℕ → UInt8}

/-- The dividers in the memory of a profile. -/
def memDividers (mem : Bool → UInt8 → UInt8) (tx : Bool) (p : Profile) : RfpllDividers :=
  .ofBytes (mem tx (profileAddr p 4)) (mem tx (profileAddr p 3)) (mem tx (profileAddr p 2)) (mem tx (profileAddr p 1))
    (mem tx (profileAddr p 0)) (mem tx (profileAddr p 12) &&& 0xF)

/-- The dividers in the registers of a synthesizer. -/
def regDividers (dev : FastlockDevice) (tx : Bool) : RfpllDividers :=
  let reg := REG_RX_FRACT_BYTE_2 + fastlockOffs tx
  .ofBytes (dev.read reg) (dev.read (reg - 1)) (dev.read (reg - 2)) (dev.read (reg - 3)) (dev.read (reg - 4))
    (dev.vcoDivider tx)

lemma readDividers_eq (phy : Fastlock) (tx : Bool) : (phy.readDividers tx).1 =
    match phy.currentProfile tx with
    | none => regDividers phy.dev tx
    | some p => memDividers phy.dev.mem tx p := by
  unfold readDividers
  cases phy.currentProfile tx with
  | none => rfl
  | some p => simp only [memDividers, fastlockReadval_eq]

/-- The words of a stored profile have the dividers of the registers. -/
lemma storeWords_dividers (dev : FastlockDevice) (tx : Bool) :
    RfpllDividers.ofBytes (dev.storeWords tx 4) (dev.storeWords tx 3) (dev.storeWords tx 2) (dev.storeWords tx 1)
      (dev.storeWords tx 0) (dev.storeWords tx 12 &&& 0xF) = regDividers dev tx := by
  have hdiv : dev.storeWords tx 12 &&& 0xF = dev.vcoDivider tx := by
    have hlow : dev.vcoDivider tx &&& 0xF = dev.vcoDivider tx := by
      unfold vcoDivider readf
      cases tx
      · exact rxDivider_and _
      · exact txDivider_and _
    change ((dev.readf (REG_RX_VCO_VARACTOR_CTRL_0 + fastlockOffs tx) 0x70 4 <<< 4) ||| dev.vcoDivider tx) &&&
      (0xF : UInt8) = _
    rw [or_and_mask, high_and_low, hlow, UInt8.zero_or]
  rw [hdiv]
  unfold regDividers
  cases tx <;> rfl

lemma load_mem (phy : Fastlock) (tx : Bool) (p : Profile) (values : ℕ → UInt8) :
    (phy.load tx p values).dev.mem = Function.update phy.dev.mem tx (programmed (phy.dev.mem tx) p values 16) :=
  loadWords_mem phy.dev tx p values

lemma load_entry (phy : Fastlock) (tx : Bool) (p : Profile) (values : ℕ → UInt8) :
    (phy.load tx p values).entry tx p = ⟨FASTLOOK_INIT, values 15, values 15⟩ := by
  unfold load setEntry
  dsimp only
  rw [Function.update_self, Function.update_self]

lemma setEntry_of_ne {e : FastlockEntry} {tx' : Bool} {q : Profile} (h : ¬(tx' = tx ∧ q = p)) :
    (phy.setEntry tx p e).entry tx' q = phy.entry tx' q := by
  unfold setEntry
  dsimp only
  by_cases htx : tx' = tx
  · subst htx
    have hq : q ≠ p := fun hq => h ⟨rfl, hq⟩
    rw [Function.update_self, Function.update_of_ne hq]
  · rw [Function.update_of_ne htx]

lemma prepare_mem (phy : Fastlock) (tx : Bool) (profile : Option Profile) :
    (phy.prepare tx profile).dev.mem = phy.dev.mem ∧ (phy.prepare tx profile).entry = phy.entry := by
  have hplain : ∀ tx, Plain (REG_RX_FAST_LOCK_SETUP_INIT_DELAY + fastlockOffs tx) ∧
      Plain (REG_RX_FAST_LOCK_SETUP + fastlockOffs tx) ∧ Plain (REG_RX_FORCE_ALC + fastlockOffs tx) ∧
      Plain (REG_RX_FORCE_VCO_TUNE_1 + fastlockOffs tx) ∧
      Plain (if tx then REG_TX_PFD_CONFIG else REG_RX_PFD_CONFIG) := by decide
  have hensm : Plain REG_ENSM_CONFIG_2 := by decide
  obtain ⟨hdelay, hsetup, halc, htune, hpfd⟩ := hplain tx
  unfold prepare trxVcoCalControl
  cases profile with
  | none =>
    cases phy.currentProfile tx with
    | none => exact ⟨rfl, rfl⟩
    | some q =>
      refine ⟨?_, rfl⟩
      dsimp only
      rw [writef_mem hensm, writef_mem hpfd, writef_mem htune, writef_mem halc, writef_mem htune, writef_mem halc,
        write_mem hsetup]
  | some q =>
    cases phy.currentProfile tx with
    | none =>
      refine ⟨?_, rfl⟩
      dsimp only
      rw [writef_mem hpfd, writef_mem hensm, write_mem_zero, write_mem hsetup, write_mem hdelay]
    | some q' => exact ⟨rfl, rfl⟩

lemma prepare_currentProfile (phy : Fastlock) (tx : Bool) (p : Profile) :
    (phy.prepare tx (some p)).currentProfile = phy.currentProfile := by
  unfold prepare
  cases phy.currentProfile tx <;> rfl

lemma exit_currentProfile (phy : Fastlock) (tx : Bool) :
    (phy.prepare tx none).currentProfile = Function.update phy.currentProfile tx none := by
  unfold prepare
  cases h : phy.currentProfile tx with
  | none =>
    funext tx'
    by_cases htx : tx' = tx
    · rw [htx, Function.update_self]
      exact h
    · rw [Function.update_of_ne htx]
  | some q => rfl

lemma changeAlc_currentProfile (phy : Fastlock) (tx : Bool) (p : Profile) :
    (phy.changeAlc tx p).currentProfile = phy.currentProfile := by
  unfold changeAlc
  dsimp only
  split_ifs <;> rfl

lemma changeAlc_other {tx' : Bool} {q : Profile} (h : ¬(tx' = tx ∧ q = p)) :
    (phy.changeAlc tx p).entry tx' q = phy.entry tx' q ∧
      ∀ i < 16, (phy.changeAlc tx p).dev.mem tx' (profileAddr q i) = phy.dev.mem tx' (profileAddr q i) := by
  unfold changeAlc
  dsimp only
  split_ifs
  all_goals first | exact ⟨rfl, fun _ _ => rfl⟩ | skip
  all_goals
    refine ⟨setEntry_of_ne h, fun i hi => ?_⟩
    change (phy.dev.fastlockWriteval tx p 0xF _ true).mem tx' _ = _
    rw [fastlockWriteval_mem]
    by_cases htx : tx' = tx
    · subst htx
      have hne : profileAddr q i ≠ profileAddr p 15 := by
        intro heq
        exact h ⟨rfl, (profileAddr_inj hi (by omega) heq).1⟩
      rw [Function.update_self, Function.update_of_ne hne]
    · rw [Function.update_of_ne htx]

/-- The word of the profile itself is changed together with its copy, to another one than the active word. -/
lemma changeAlc_self (hmem : phy.dev.mem tx (profileAddr p 15) = (phy.entry tx p).alcWritten) :
    ((phy.changeAlc tx p).entry tx p).flags = (phy.entry tx p).flags ∧
      (phy.changeAlc tx p).dev.mem tx (profileAddr p 15) = ((phy.changeAlc tx p).entry tx p).alcWritten ∧
      ((phy.changeAlc tx p).entry tx p).alcWritten >>> 1 ≠ phy.currAlc tx >>> 1 ∧
      ∀ i < 15, (phy.changeAlc tx p).dev.mem tx (profileAddr p i) = phy.dev.mem tx (profileAddr p i) := by
  unfold changeAlc
  dsimp only
  by_cases hsame : phy.currAlc tx >>> 1 = (phy.entry tx p).alcWritten >>> 1
  · rw [if_pos hsame]
    have hentry : ∀ (phy : Fastlock) (e : FastlockEntry), (phy.setEntry tx p e).entry tx p = e := by
      intro phy e
      unfold setEntry
      dsimp only
      rw [Function.update_self, Function.update_self]
    have hdev : ∀ (phy : Fastlock) (e : FastlockEntry), (phy.setEntry tx p e).dev = phy.dev := fun _ _ => rfl
    rw [hentry, hdev]
    dsimp only
    rw [fastlockWriteval_mem, Function.update_self]
    refine ⟨rfl, Function.update_self _ _ _, ?_, fun i hi => ?_⟩
    · rw [hsame]
      by_cases horig : (phy.entry tx p).alcOrig >>> 1 = (phy.entry tx p).alcWritten >>> 1
      · rw [if_pos horig]
        exact alc_next _
      · rw [if_neg horig]
        exact horig
    · have hne : profileAddr p i ≠ profileAddr p 15 := by
        intro heq
        exact hi.ne (profileAddr_inj (by omega) (by omega) heq).2
      exact Function.update_of_ne hne _ _
  · rw [if_neg hsame]
    exact ⟨rfl, hmem, fun h => hsame h.symm, fun _ _ => rfl⟩

lemma recall_eq (h : (phy.entry tx p).flags = FASTLOOK_INIT) :
    (phy.fastlockRecall tx p).1 = 0 ∧ (phy.fastlockRecall tx p).2.dev.mem = (phy.changeAlc tx p).dev.mem ∧
      (phy.fastlockRecall tx p).2.entry = (phy.changeAlc tx p).entry ∧
      (phy.fastlockRecall tx p).2.currentProfile = Function.update phy.currentProfile tx (some p) := by
  have hplain : ∀ tx, Plain (REG_RX_FAST_LOCK_SETUP + fastlockOffs tx) := by decide
  obtain ⟨hmem, hentry⟩ := prepare_mem (phy.changeAlc tx p) tx (some p)
  unfold fastlockRecall
  rw [if_neg (not_not.mpr h)]
  dsimp only
  refine ⟨rfl, ?_, hentry, ?_⟩
  · rw [write_mem (hplain tx)]
    exact hmem
  · rw [prepare_currentProfile, changeAlc_currentProfile]

lemma saveFrom_eq (tx : Bool) (p : Profile) (n word : ℕ) (dev : FastlockDevice) :
    (saveFrom dev tx p n word).1 = (List.range' word n).map (fun i => dev.mem tx (profileAddr p i)) ∧
      (saveFrom dev tx p n word).2.mem = dev.mem := by
  induction n generalizing word dev with
  | zero => exact ⟨rfl, rfl⟩
  | succ n ih =>
    obtain ⟨hval, hmem⟩ := fastlockReadval_eq dev tx p word
    obtain ⟨hrest, hmem'⟩ := ih (word + 1) (dev.fastlockReadval tx p word).2
    unfold saveFrom
    dsimp only
    rw [hrest, hmem', hmem, hval]
    exact ⟨rfl, rfl⟩

lemma save_load (phy : Fastlock) (tx : Bool) (p : Profile) (values : ℕ → UInt8) :
    ((phy.load tx p values).save tx p).1 = (List.range 16).map values := by
  unfold save
  dsimp only
  rw [(saveFrom_eq tx p _ 0 _).1, load_mem, Function.update_self, List.range_eq_range']
  apply List.map_congr_left
  intro i hi
  have hlt : i < 16 := by
    have hmem := List.mem_range'_1.mp hi
    change 0 ≤ i ∧ i < 0 + 16 at hmem
    omega
  exact programmed_apply (le_refl 16) hlt

end Fastlock

/-- A write of a synthesizer that is tuned, apart from the control registers of the profile memories. -/
def SynthWrite : Type := { w : UInt32 × UInt8 // FastlockDevice.Plain w.1 }

inductive FastlockCall where
  | load (tx : Bool) (profile : Profile) (values : ℕ → UInt8)
  | store (tx : Bool) (profile : Profile)
  | fastlockRecall (tx : Bool) (profile : Profile)
  | save (tx : Bool) (profile : Profile)
  | recalcRate (tx : Bool) (parentRate : UInt32)
  /-- `ad9361_rfpll_int_set_rate`, with any writes of the registers of the synthesizers -/
  | setRate (tx : Bool) (writes : List SynthWrite)

/-- The driver with the device, the dividers that were seen when a profile was stored, and the ALC word of the profile
in use from the time of its recall. -/
structure FastlockSession where
  phy : Fastlock
  stored : Bool → Profile → Option RfpllDividers
  alc : Bool → UInt8

namespace FastlockSession
open FastlockDevice Fastlock

def setStored (s : FastlockSession) (tx : Bool) (p : Profile) (d : Option RfpllDividers) : Bool → Profile → Option RfpllDividers :=
  Function.update s.stored tx (Function.update (s.stored tx) p d)

def tune (phy : Fastlock) (tx : Bool) (writes : List SynthWrite) : Fastlock :=
  let phy := phy.prepare tx none
  { phy with dev := writes.foldl (fun dev w => dev.write w.1.1 w.1.2) phy.dev }

def step (s : FastlockSession) : FastlockCall → FastlockSession
  | .load tx p values => { s with phy := s.phy.load tx p values, stored := s.setStored tx p none }
  | .store tx p => { s with phy := s.phy.store tx p, stored := s.setStored tx p (some (s.phy.readDividers tx).1) }
  | .fastlockRecall tx p =>
    let (ret, phy) := s.phy.fastlockRecall tx p
    { s with
      phy := phy
      alc := if ret = 0 then Function.update s.alc tx (phy.dev.mem tx (profileAddr p 15) >>> 1) else s.alc }
  | .save tx p => { s with phy := (s.phy.save tx p).2 }
  | .recalcRate tx parentRate => { s with phy := (s.phy.rfpllIntRecalcRate tx parentRate).2 }
  | .setRate tx writes => { s with phy := tune s.phy tx writes }

/-- The initialised driver with a device in any state. -/
def start (dev : FastlockDevice) (delayNs : Bool → UInt32) (pinctrlEn : Bool → Bool) : FastlockSession :=
  ⟨⟨dev, fun _ _ => ⟨0, 0, 0⟩, fun _ => none, delayNs, pinctrlEn⟩, fun _ _ => none, fun _ => 0⟩

/-- The ALC word that is active. -/
def activeAlc (s : FastlockSession) (tx : Bool) : UInt8 :=
  match s.phy.currentProfile tx with
  | none => s.phy.dev.readf (REG_RX_FORCE_ALC + fastlockOffs tx) 0x7F 0
  | some _ => s.alc tx

def Initialised (s : FastlockSession) (tx : Bool) (p : Profile) : Prop := (s.phy.entry tx p).flags = FASTLOOK_INIT

/-- What the profiles promise: a recall gives the rate from the time of the store and another ALC word, a loaded
profile is saved as it was, and the driver knows the ALC words of the device. -/
structure Reproduces (s : FastlockSession) : Prop where
  rate : ∀ tx p d, s.stored tx p = some d → (s.phy.fastlockRecall tx p).1 = 0 ∧ ∀ parentRate,
    ((s.phy.fastlockRecall tx p).2.rfpllIntRecalcRate tx parentRate).1 =
      (calcRfpllIntFreq parentRate.toUInt64 d >>> 1).toUInt32
  alc : ∀ tx p, s.Initialised tx p → (s.step (.fastlockRecall tx p)).activeAlc tx ≠ s.activeAlc tx
  saved : ∀ tx p values, ((s.phy.load tx p values).save tx p).1 = (List.range 16).map values
  written : ∀ tx p, s.Initialised tx p → s.phy.dev.mem tx (profileAddr p 15) = (s.phy.entry tx p).alcWritten

/-- Loading the profile in use keeps its ALC word. -/
def MayLoad (s : FastlockSession) (tx : Bool) (p : Profile) (values : ℕ → UInt8) : Prop :=
  s.phy.currentProfile tx = some p → values 15 >>> 1 = s.alc tx

/-- A profile is stored while its synthesizer uses none, or one with the dividers of the registers. -/
def Allowed (s : FastlockSession) : FastlockCall → Prop
  | .load tx p values => s.MayLoad tx p values
  | .store tx p => s.MayLoad tx p (s.phy.dev.storeWords tx) ∧
      (s.phy.currentProfile tx = none ∨ regDividers s.phy.dev tx = (s.phy.readDividers tx).1)
  | _ => True

structure Inv (s : FastlockSession) : Prop where
  written : ∀ tx p, s.Initialised tx p → s.phy.dev.mem tx (profileAddr p 15) = (s.phy.entry tx p).alcWritten
  current : ∀ tx p, s.phy.currentProfile tx = some p → s.Initialised tx p ∧ (s.phy.entry tx p).alcWritten >>> 1 = s.alc tx
  stored : ∀ tx p d, s.stored tx p = some d → s.Initialised tx p ∧ memDividers s.phy.dev.mem tx p = d

variable {s : FastlockSession} {tx : Bool} {p : Profile}

lemma Inv.currAlc (hs : s.Inv) (tx : Bool) : s.phy.currAlc tx >>> 1 = s.activeAlc tx := by
  unfold Fastlock.currAlc activeAlc
  cases h : s.phy.currentProfile tx with
  | none => exact alc_shift _
  | some q => exact (hs.current tx q h).2

lemma stored_of_setStored {tx' : Bool} {q : Profile} {d : Option RfpllDividers} (h : ¬(tx' = tx ∧ q = p)) :
    s.setStored tx p d tx' q = s.stored tx' q := by
  unfold setStored
  by_cases htx : tx' = tx
  · subst htx
    have hq : q ≠ p := fun hq => h ⟨rfl, hq⟩
    rw [Function.update_self, Function.update_of_ne hq]
  · rw [Function.update_of_ne htx]

lemma setStored_self {d : Option RfpllDividers} : s.setStored tx p d tx p = d := by
  unfold setStored
  rw [Function.update_self, Function.update_self]

/-- A load keeps the invariant if it records nothing but what it has written. -/
lemma Inv.load (hs : s.Inv) {values : ℕ → UInt8} (h : s.MayLoad tx p values) {d : Option RfpllDividers}
    (hd : ∀ e, d = some e →
      RfpllDividers.ofBytes (values 4) (values 3) (values 2) (values 1) (values 0) (values 12 &&& 0xF) = e) :
    Inv { s with phy := s.phy.load tx p values, stored := s.setStored tx p d } := by
  have hself : ∀ i < 16, (s.phy.load tx p values).dev.mem tx (profileAddr p i) = values i := by
    intro i hi
    rw [load_mem, Function.update_self]
    exact programmed_apply (le_refl 16) hi
  have hother : ∀ tx' q, ¬(tx' = tx ∧ q = p) → (s.phy.load tx p values).entry tx' q = s.phy.entry tx' q ∧
      ∀ i < 16, (s.phy.load tx p values).dev.mem tx' (profileAddr q i) = s.phy.dev.mem tx' (profileAddr q i) := by
    intro tx' q hne
    refine ⟨setEntry_of_ne hne, fun i hi => ?_⟩
    rw [load_mem]
    by_cases htx : tx' = tx
    · subst htx
      rw [Function.update_self]
      exact programmed_of_ne (le_refl 16) hi fun hq => hne ⟨rfl, hq⟩
    · rw [Function.update_of_ne htx]
  have hentry := load_entry s.phy tx p values
  constructor
  · intro tx' q hinit
    by_cases hne : tx' = tx ∧ q = p
    · obtain ⟨rfl, rfl⟩ := hne
      exact (hself 15 (by omega)).trans (congrArg FastlockEntry.alcWritten hentry).symm
    · obtain ⟨he, hm⟩ := hother tx' q hne
      unfold Initialised at hinit
      dsimp only at hinit ⊢
      rw [he] at hinit ⊢
      rw [hm 15 (by omega)]
      exact hs.written tx' q hinit
  · intro tx' q hcur
    have hcur' : s.phy.currentProfile tx' = some q := hcur
    by_cases hne : tx' = tx ∧ q = p
    · obtain ⟨rfl, rfl⟩ := hne
      exact ⟨congrArg FastlockEntry.flags hentry, (congrArg (fun e => FastlockEntry.alcWritten e >>> 1) hentry).trans (h hcur')⟩
    · obtain ⟨he, -⟩ := hother tx' q hne
      unfold Initialised
      dsimp only
      rw [he]
      exact hs.current tx' q hcur'
  · intro tx' q e he'
    by_cases hne : tx' = tx ∧ q = p
    · obtain ⟨rfl, rfl⟩ := hne
      dsimp only at he'
      rw [setStored_self] at he'
      refine ⟨congrArg FastlockEntry.flags hentry, ?_⟩
      rw [← hd e he']
      unfold memDividers
      dsimp only
      rw [hself 4 (by omega), hself 3 (by omega), hself 2 (by omega), hself 1 (by omega), hself 0 (by omega),
        hself 12 (by omega)]
    · obtain ⟨he, hm⟩ := hother tx' q hne
      dsimp only at he'
      rw [stored_of_setStored hne] at he'
      obtain ⟨hinit, hdiv⟩ := hs.stored tx' q e he'
      constructor
      · unfold Initialised
        dsimp only
        rw [he]
        exact hinit
      · rw [← hdiv]
        unfold memDividers
        dsimp only
        rw [hm 4 (by omega), hm 3 (by omega), hm 2 (by omega), hm 1 (by omega), hm 0 (by omega), hm 12 (by omega)]

lemma Inv.of_mem (hs : s.Inv) {phy : Fastlock} (hmem : phy.dev.mem = s.phy.dev.mem) (hentry : phy.entry = s.phy.entry)
    (hcur : ∀ tx p, phy.currentProfile tx = some p → s.phy.currentProfile tx = some p) :
    Inv { s with phy := phy } := by
  constructor
  · intro tx p hinit
    unfold Initialised at hinit
    dsimp only at hinit ⊢
    rw [hentry] at hinit ⊢
    rw [hmem]
    exact hs.written tx p hinit
  · intro tx p h
    unfold Initialised
    dsimp only
    rw [hentry]
    exact hs.current tx p (hcur tx p h)
  · intro tx p d h
    unfold Initialised
    dsimp only
    rw [hentry, hmem]
    exact hs.stored tx p d h

lemma Inv.store (hs : s.Inv) (h : s.Allowed (.store tx p)) : Inv (s.step (.store tx p)) := by
  obtain ⟨hload, hdiv⟩ := h
  have hregs : regDividers s.phy.dev tx = (s.phy.readDividers tx).1 := by
    rcases hdiv with hnone | heq
    · rw [readDividers_eq, hnone]
    · exact heq
  apply hs.load hload
  intro e he
  rw [storeWords_dividers, hregs]
  exact Option.some.inj he

lemma recall_refused (h : ¬s.Initialised tx p) : s.step (.fastlockRecall tx p) = s := by
  have hrecall : s.phy.fastlockRecall tx p = (-EINVAL, s.phy) := if_pos h
  have hcode : ¬(-EINVAL : Int) = 0 := by decide
  unfold step
  dsimp only
  rw [hrecall]
  dsimp only
  rw [if_neg hcode]

lemma memDividers_congr {mem mem' : Bool → UInt8 → UInt8}
    (h : ∀ i < 15, mem tx (profileAddr p i) = mem' tx (profileAddr p i)) : memDividers mem tx p = memDividers mem' tx p := by
  unfold memDividers
  rw [h 4 (by omega), h 3 (by omega), h 2 (by omega), h 1 (by omega), h 0 (by omega), h 12 (by omega)]

lemma step_recall (h : s.Initialised tx p) : s.step (.fastlockRecall tx p) =
    { s with
      phy := (s.phy.fastlockRecall tx p).2
      alc := Function.update s.alc tx ((s.phy.fastlockRecall tx p).2.dev.mem tx (profileAddr p 15) >>> 1) } := by
  unfold step
  dsimp only
  rw [if_pos (recall_eq h).1]

lemma Inv.fastlockRecall (hs : s.Inv) (tx : Bool) (p : Profile) : Inv (s.step (.fastlockRecall tx p)) := by
  by_cases hinit : s.Initialised tx p
  · rw [step_recall hinit]
    obtain ⟨-, hmem, hentry, hcur⟩ := recall_eq hinit
    obtain ⟨hflags, hword, -, hrest⟩ := changeAlc_self (hs.written tx p hinit)
    have hother : ∀ tx' q, ¬(tx' = tx ∧ q = p) → (s.phy.fastlockRecall tx p).2.entry tx' q = s.phy.entry tx' q ∧
        ∀ i < 16, (s.phy.fastlockRecall tx p).2.dev.mem tx' (profileAddr q i) = s.phy.dev.mem tx' (profileAddr q i) := by
      intro tx' q hne
      rw [hmem, hentry]
      exact changeAlc_other hne
    rw [← hentry] at hflags hword
    rw [← hmem] at hword hrest
    constructor
    · intro tx' q hq
      by_cases hne : tx' = tx ∧ q = p
      · obtain ⟨rfl, rfl⟩ := hne
        exact hword
      · obtain ⟨he, hm⟩ := hother tx' q hne
        unfold Initialised at hq
        dsimp only at hq ⊢
        rw [he] at hq ⊢
        rw [hm 15 (by omega)]
        exact hs.written tx' q hq
    · intro tx' q hq
      dsimp only at hq ⊢
      rw [hcur] at hq
      by_cases htx : tx' = tx
      · subst htx
        rw [Function.update_self] at hq ⊢
        obtain rfl := Option.some.inj hq
        exact ⟨hflags.trans hinit, by rw [hword]⟩
      · rw [Function.update_of_ne htx] at hq ⊢
        unfold Initialised
        dsimp only
        rw [(hother tx' q fun h => htx h.1).1]
        exact hs.current tx' q hq
    · intro tx' q d hd
      obtain ⟨hq, hdiv⟩ := hs.stored tx' q d hd
      by_cases hne : tx' = tx ∧ q = p
      · obtain ⟨rfl, rfl⟩ := hne
        exact ⟨hflags.trans hq, (memDividers_congr hrest).trans hdiv⟩
      · obtain ⟨he, hm⟩ := hother tx' q hne
        constructor
        · unfold Initialised
          dsimp only
          rw [he]
          exact hq
        · exact (memDividers_congr fun i hi => hm i (by omega)).trans hdiv
  · rw [recall_refused hinit]
    exact hs

lemma readDividers_mem (phy : Fastlock) (tx : Bool) : (phy.readDividers tx).2.mem = phy.dev.mem := by
  unfold readDividers
  cases phy.currentProfile tx with
  | none => rfl
  | some p => simp only [fastlockReadval_eq]

lemma foldl_write_mem (writes : List SynthWrite) (dev : FastlockDevice) :
    (writes.foldl (fun dev w => dev.write w.1.1 w.1.2) dev).mem = dev.mem := by
  induction writes generalizing dev with
  | nil => rfl
  | cons w writes ih =>
    rw [List.foldl_cons, ih]
    exact write_mem w.2

lemma Inv.setRate (hs : s.Inv) (tx : Bool) (writes : List SynthWrite) : Inv (s.step (.setRate tx writes)) := by
  obtain ⟨hmem, hentry⟩ := prepare_mem s.phy tx none
  apply hs.of_mem
  · exact (foldl_write_mem writes _).trans hmem
  · exact hentry
  · intro tx' q hq
    change (s.phy.prepare tx none).currentProfile tx' = some q at hq
    rw [exit_currentProfile] at hq
    by_cases htx : tx' = tx
    · rw [htx, Function.update_self] at hq
      exact absurd hq nofun
    · rwa [Function.update_of_ne htx] at hq

lemma Inv.step (hs : s.Inv) {call : FastlockCall} (h : s.Allowed call) : Inv (s.step call) := by
  cases call with
  | load tx p values => exact hs.load h fun _ he => absurd he nofun
  | store tx p => exact hs.store h
  | fastlockRecall tx p => exact hs.fastlockRecall tx p
  | save tx p => exact hs.of_mem (saveFrom_eq tx p RX_FAST_LOCK_CONFIG_WORD_NUM 0 s.phy.dev).2 rfl fun _ _ hq => hq
  | recalcRate tx parentRate => exact hs.of_mem (readDividers_mem s.phy tx) rfl fun _ _ hq => hq
  | setRate tx writes => exact hs.setRate tx writes

lemma inv_start (dev : FastlockDevice) (delayNs : Bool → UInt32) (pinctrlEn : Bool → Bool) :
    Inv (start dev delayNs pinctrlEn) := by
  constructor
  · intro tx p h
    have hflags : ¬(0 : UInt8) = FASTLOOK_INIT := by decide
    exact absurd h hflags
  · intro tx p h
    exact absurd h nofun
  · intro tx p d h
    exact absurd h nofun

lemma Inv.reproduces (hs : s.Inv) : Reproduces s := by
  constructor
  · intro tx p d hd
    obtain ⟨hinit, hdiv⟩ := hs.stored tx p d hd
    obtain ⟨hret, hmem, -, hcur⟩ := recall_eq hinit
    obtain ⟨-, -, -, hrest⟩ := changeAlc_self (hs.written tx p hinit)
    refine ⟨hret, fun parentRate => ?_⟩
    have hread : ((s.phy.fastlockRecall tx p).2.readDividers tx).1 = d := by
      rw [readDividers_eq, hcur, Function.update_self]
      dsimp only
      rw [hmem, memDividers_congr hrest, hdiv]
    unfold rfpllIntRecalcRate
    dsimp only
    rw [hread]
  · intro tx p hinit
    obtain ⟨-, hmem, hentry, hcur⟩ := recall_eq hinit
    obtain ⟨-, hword, hnew, -⟩ := changeAlc_self (hs.written tx p hinit)
    have hactive : (s.step (.fastlockRecall tx p)).activeAlc tx = ((s.phy.changeAlc tx p).entry tx p).alcWritten >>> 1 := by
      rw [step_recall hinit, hmem, hword]
      unfold activeAlc
      dsimp only
      rw [hcur, Function.update_self]
      dsimp only
      rw [Function.update_self]
    rw [hactive, ← hs.currAlc tx]
    exact hnew
  · exact save_load s.phy
  · exact hs.written

end FastlockSession

open FastlockSession

/-- While no profile is stored from other dividers than the ones in use, and the ALC word of the profile in use stays,
the profiles are reproduced in every run. -/
theorem fastlock_reproduces (dev : FastlockDevice) (delayNs : Bool → UInt32) (pinctrlEn : Bool → Bool)
    (calls : List FastlockCall) (h : Trace.Guarded step Allowed (start dev delayNs pinctrlEn) calls) :
    Trace.Always step Reproduces (start dev delayNs pinctrlEn) calls := by
  have hinv : Trace.Always step Inv (start dev delayNs pinctrlEn) calls :=
    h.always (inv_start dev delayNs pinctrlEn) fun _ _ hs hok => hs.step hok
  exact hinv.mono fun _ hs => hs.reproduces

/-- A profile is stored, another rate is set, and the profile is recalled and stored again. -/
def storedTwice : List FastlockCall :=
  [.setRate false [⟨(REG_RX_INTEGER_BYTE_0, 1), by decide⟩], .store false 0,
    .setRate false [⟨(REG_RX_INTEGER_BYTE_0, 2), by decide⟩], .fastlockRecall false 0, .store false 1]

/-- The profile in use is loaded with another ALC word. -/
def loadedInUse : List FastlockCall :=
  [.load false 0 fun _ => 2, .fastlockRecall false 0, .load false 0 fun _ => 4, .load false 1 fun _ => 2]

def quietFastlock : FastlockSession := start ⟨fun _ => 0, fun _ _ => 0⟩ (fun _ => 0) fun _ => false

theorem fastlock_reproduces_stored : Trace.Always step Reproduces
    (start ⟨fun _ => 0, fun _ _ => 0⟩ (fun _ => 0) fun _ => false) (storedTwice.take 4) := by
  apply fastlock_reproduces
  unfold storedTwice
  dsimp only [List.take]
  rw [Trace.guarded_cons, Trace.guarded_cons, Trace.guarded_cons, Trace.guarded_cons]
  refine ⟨trivial, ⟨?_, ?_⟩, trivial, trivial, Trace.guarded_nil⟩
  · intro hcur
    exact absurd hcur nofun
  · exact Or.inl rfl

/-- The second store keeps the rate of the registers, not the one of the profile in use. After the load of the profile
in use a recall activates the ALC word that is active. -/
theorem fastlock_not_reproduced : ¬Trace.Always step Reproduces quietFastlock storedTwice ∧
    ¬Trace.Always step Reproduces quietFastlock loadedInUse := by
  constructor
  · intro h
    have hrate := (h.last.rate false 1 ⟨1, 0, 0⟩ (by decide +kernel)).2 80000000
    exact absurd hrate (by decide +kernel)
  · intro h
    have hinit : (Trace.run step quietFastlock loadedInUse).Initialised false 1 := by
      unfold Initialised
      decide +kernel
    have halc := h.last.alc false 1 hinit
    exact absurd halc (by decide +kernel)

end NoOS
