import NoOS.Drivers.Ad9361TxAtten
import NoOS.Lib.Ownership
import NoOS.Lib.Trace

/-!
# The attenuation behind a muted transmitter

The saved values are the only place for the attenuation of a muted transmitter. A tuning that skips its work
restores them without having saved anything, and a tuning inside of another one saves the attenuation of the muted
transmitter.
-/

namespace NoOS

namespace FindOpt

variable {field : ℕ → UInt8} {s : FindOpt}

/-- A run of zeros was seen or is going on. -/
def Seen (s : FindOpt) : Prop := s.cnt ≠ 0 ∨ s.maxCnt ≠ 0

lemma close_maxCnt : s.close.maxCnt ≠ 0 ↔ s.Seen := by
  unfold close Seen
  split_ifs with h
  · dsimp only
    lia
  · lia

lemma seen_next (i : ℕ) : (next field s i).Seen ↔ s.Seen ∨ field i = 0 := by
  unfold next
  by_cases hi : field i = 0
  · rw [if_pos hi]
    constructor
    · exact fun _ => Or.inr hi
    · exact fun _ => Or.inl (Nat.succ_ne_zero _)
  · rw [if_neg hi]
    have hseen := @close_maxCnt s
    constructor
    · rintro (h | h)
      · exact absurd rfl h
      · exact Or.inl (hseen.mp h)
    · rintro (h | h)
      · exact Or.inr (hseen.mpr h)
      · exact absurd h hi

lemma seen_foldl (n : ℕ) : ((List.range n).foldl (next field) first).Seen ↔ ∃ i < n, field i = 0 := by
  induction n with
  | zero => simp [Seen, first]
  | succ n ih =>
    rw [List.range_succ, List.foldl_append, List.foldl_cons, List.foldl_nil, seen_next, ih]
    constructor
    · rintro (⟨i, hi, h⟩ | h)
      · exact ⟨i, Nat.lt_succ_of_lt hi, h⟩
      · exact ⟨n, Nat.lt_succ_self n, h⟩
    · rintro ⟨i, hi, h⟩
      rcases Nat.lt_succ_iff_lt_or_eq.mp hi with hlt | rfl
      · exact Or.inl ⟨i, hlt, h⟩
      · exact Or.inr h

end FindOpt

lemma findOpt_ne_zero {field : ℕ → UInt8} {size : ℕ} : (findOpt field size).1 ≠ 0 ↔ ∃ i < size, field i = 0 := by
  unfold findOpt
  dsimp only
  rw [FindOpt.close_maxCnt, FindOpt.seen_foldl]

namespace TxAtten

variable {phy : TxAtten} {mdb : UInt32}

/-- A step of the attenuation that is not refused. -/
def Attainable (mdb : UInt32) : Prop := mdb ≤ MAX_TX_ATTENUATION_DB ∧ mdb / 250 * 250 = mdb

lemma attainable_max : Attainable MAX_TX_ATTENUATION_DB := by
  unfold Attainable
  decide

lemma step_le (h : mdb ≤ MAX_TX_ATTENUATION_DB) : (mdb / 250 * 250).toNat = mdb.toNat / 250 * 250 := by
  have hle : mdb.toNat ≤ 89750 := UInt32.le_iff_toNat_le.mp h
  rw [UInt32.toNat_mul, UInt32.toNat_div]
  change mdb.toNat / 250 * 250 % 2 ^ 32 = _
  lia

lemma attainable_step (h : mdb ≤ MAX_TX_ATTENUATION_DB) : Attainable (mdb / 250 * 250) := by
  have hstep := step_le h
  have hle : mdb.toNat ≤ 89750 := UInt32.le_iff_toNat_le.mp h
  constructor
  · apply UInt32.le_iff_toNat_le.mpr
    change _ ≤ 89750
    lia
  · apply UInt32.toNat_inj.mp
    rw [UInt32.toNat_mul, UInt32.toNat_div, hstep]
    change mdb.toNat / 250 * 250 / 250 * 250 % 2 ^ 32 = _
    lia

lemma bytes_join {code : UInt32} (h : code.toNat < 2 ^ 16) :
    ((code >>> 8).toUInt8.toUInt32 <<< 8) ||| (code &&& 0xFF).toUInt8.toUInt32 = code := by
  have hhigh : (code >>> 8).toUInt8.toUInt32.toNat = code.toNat / 256 := by
    rw [UInt8.toNat_toUInt32, UInt32.toNat_toUInt8, UInt32.toNat_shiftRight, Nat.shiftRight_eq_div_pow]
    change code.toNat / 256 % 256 = _
    lia
  have hlow : (code &&& 0xFF).toUInt8.toUInt32.toNat = code.toNat % 256 := by
    rw [UInt8.toNat_toUInt32, UInt32.toNat_toUInt8, UInt32.toNat_and]
    change (code.toNat &&& 2 ^ 8 - 1) % 256 = _
    rw [Nat.and_two_pow_sub_one_eq_mod, Nat.mod_mod]
  apply UInt32.toNat_inj.mp
  change ((_ <<< UInt32.ofNat 8) ||| _).toNat = _
  rw [BitField.toNat_or_shiftLeft 8 _ _ (by decide) (by lia) (by lia), hhigh, hlow]
  lia

/-- The attenuation of both channels and the saved one. -/
def view (phy : TxAtten) : Stash (UInt32 × UInt32) :=
  ⟨(phy.getTxAtten 1, phy.getTxAtten 2), (phy.tx1AttenCached, phy.tx2AttenCached)⟩

lemma setTxAtten_refused (h : mdb > MAX_TX_ATTENUATION_DB) (tx1 tx2 immed : Bool) :
    phy.setTxAtten mdb tx1 tx2 immed = (-EINVAL, phy) := if_pos h

lemma view_setTxAtten (h : mdb ≤ MAX_TX_ATTENUATION_DB) (tx1 tx2 immed : Bool) :
    (phy.setTxAtten mdb tx1 tx2 immed).2.view =
      ⟨(if tx1 then mdb / 250 * 250 else phy.getTxAtten 1, if tx2 then mdb / 250 * 250 else phy.getTxAtten 2),
        (phy.tx1AttenCached, phy.tx2AttenCached)⟩ := by
  have hjoin : (((mdb / 250) >>> 8).toUInt8.toUInt32 <<< 8) ||| ((mdb / 250) &&& 0xFF).toUInt8.toUInt32 = mdb / 250 := by
    apply bytes_join
    have hle : mdb.toNat ≤ 89750 := UInt32.le_iff_toNat_le.mp h
    rw [UInt32.toNat_div]
    change mdb.toNat / 250 < _
    lia
  unfold setTxAtten
  rw [if_neg (UInt32.not_lt.mpr h)]
  have htwo : ¬(2 : UInt32) = 1 := by decide
  simp only [view, getTxAtten, if_true, if_neg htwo]
  cases tx1
  · cases tx2
    · rfl
    · simp only [if_true, hjoin]
      rfl
  · cases tx2
    · simp only [if_true, hjoin]
      rfl
    · simp only [if_true, hjoin]

/-- The attenuation of a muted transmitter. -/
def muted : UInt32 × UInt32 := (MAX_TX_ATTENUATION_DB, MAX_TX_ATTENUATION_DB)

lemma view_mute {state : UInt32} (h : state ≠ 0) : (phy.txMute state).2.view = phy.view.stash muted := by
  unfold txMute
  rw [if_pos h]
  dsimp only
  have hset := @view_setTxAtten { phy with tx1AttenCached := phy.getTxAtten 1, tx2AttenCached := phy.getTxAtten 2 }
    MAX_TX_ATTENUATION_DB (UInt32.le_refl _) true true true
  rw [if_pos (Eq.refl true), if_pos (Eq.refl true), attainable_max.2] at hset
  exact hset

lemma view_unmute (h1 : Attainable phy.tx1AttenCached) (h2 : Attainable phy.tx2AttenCached) :
    (phy.txMute 0).2.view = phy.view.restore := by
  unfold txMute
  rw [if_neg (not_not.mpr rfl)]
  by_cases heq : phy.tx1AttenCached = phy.tx2AttenCached
  · rw [if_pos heq, view_setTxAtten h1.1, if_pos (Eq.refl true), if_pos (Eq.refl true), h1.2]
    simp only [view, Stash.restore, heq]
  · rw [if_neg heq]
    dsimp only
    have hset := @view_setTxAtten phy phy.tx1AttenCached h1.1 true false true
    have hget : (phy.setTxAtten phy.tx1AttenCached true false true).2.getTxAtten 1 = phy.tx1AttenCached := by
      have hval := congrArg (fun s => s.value.1) hset
      exact hval.trans h1.2
    have hcached := congrArg Stash.stashed hset
    obtain ⟨hc1, hc2⟩ := Prod.mk.inj hcached
    rw [hc2, view_setTxAtten h2.1, if_neg Bool.false_ne_true, if_pos (Eq.refl true), h2.2, hget, hc1, hc2]
    rfl

/-- A delay at which the checks of all rounds pass. -/
def Passes (checkPn : ℕ → PnField) (rounds : ℕ) : Prop :=
  ∃ i < 2, ∃ j < 16, ∀ r < rounds, checkPn r i j = 0

lemma foldl_or_eq_zero (x : ℕ → UInt8) (l : List ℕ) (v : UInt8) :
    l.foldl (fun v r => v ||| x r) v = 0 ↔ v = 0 ∧ ∀ r ∈ l, x r = 0 := by
  induction l generalizing v with
  | nil => simp
  | cons r l ih => rw [List.foldl_cons, ih, UInt8.or_eq_zero_iff, List.forall_mem_cons, and_assoc]

lemma foldl_round (f : ℕ → TxAtten → TxAtten) (checkPn : ℕ → PnField) (l : List ℕ) (phy : TxAtten) (field : PnField) :
    l.foldl (fun (s : TxAtten × PnField) r => (f r s.1, fun i j => s.2 i j ||| checkPn r i j)) (phy, field) =
      (l.foldl (fun p r => f r p) phy, fun i j => l.foldl (fun v r => v ||| checkPn r i j) (field i j)) := by
  induction l generalizing phy field with
  | nil => rfl
  | cons r l ih => rw [List.foldl_cons, ih]; rfl

variable {chain : ℕ → TxAtten → TxAtten} {checkPn : ℕ → PnField} {maxFreq flags : UInt32}

/-- The rates that a tuning visits. -/
def rounds (maxFreq : UInt32) : ℕ := if maxFreq ≠ 0 then 3 else 1

/-- The results of all rounds in one field. -/
def allRounds (checkPn : ℕ → PnField) (maxFreq : UInt32) : PnField :=
  fun i j => (List.range (rounds maxFreq)).foldl (fun v r => v ||| checkPn r i j) 0

lemma digTuneDelay_eq : phy.digTuneDelay chain checkPn maxFreq =
    (if (findOpt (allRounds checkPn maxFreq 0) 16).1 = 0 ∧ (findOpt (allRounds checkPn maxFreq 1) 16).1 = 0 then - EIO
      else 0, (List.range (rounds maxFreq)).foldl (fun p r => if maxFreq ≠ 0 then chain r p else p) phy) := by
  have hfold := foldl_round (fun r p => if maxFreq ≠ 0 then chain r p else p) checkPn (List.range (rounds maxFreq)) phy
    (fun _ _ => 0)
  unfold rounds at hfold
  unfold digTuneDelay
  dsimp only
  rw [hfold]
  rfl

lemma findOpt_allRounds (i : ℕ) : (findOpt (allRounds checkPn maxFreq i) 16).1 ≠ 0 ↔
    ∃ j < 16, ∀ r < rounds maxFreq, checkPn r i j = 0 := by
  rw [findOpt_ne_zero]
  simp only [allRounds, foldl_or_eq_zero, List.mem_range, true_and]

lemma digTuneDelay_code :
    (phy.digTuneDelay chain checkPn maxFreq).1 = 0 ↔ Passes checkPn (rounds maxFreq) := by
  have h0 := @findOpt_allRounds checkPn maxFreq 0
  have h1 := @findOpt_allRounds checkPn maxFreq 1
  rw [digTuneDelay_eq]
  have hio : ¬(- EIO = 0) := by decide
  constructor
  · intro h
    have hnot := fun hc => hio ((if_pos hc).symm.trans h)
    by_cases hz : (findOpt (allRounds checkPn maxFreq 0) 16).1 = 0
    · exact ⟨1, by omega, h1.mp fun hz1 => hnot ⟨hz, hz1⟩⟩
    · exact ⟨0, by omega, h0.mp hz⟩
  · rintro ⟨i, hi, hj⟩
    apply if_neg
    rintro ⟨hz0, hz1⟩
    have hcases : i = 0 ∨ i = 1 := by lia
    rcases hcases with rfl | rfl
    · exact h0.mpr hj hz0
    · exact h1.mpr hj hz1

lemma digTuneDelay_keeps {P : TxAtten → Prop} (hchain : maxFreq ≠ 0 → ∀ r < 3, ∀ p, P p → P (chain r p)) (hp : P phy) :
    P (phy.digTuneDelay chain checkPn maxFreq).2 := by
  rw [digTuneDelay_eq]
  dsimp only
  by_cases hmax : maxFreq = 0
  · rw [rounds, if_neg (not_not.mpr hmax), List.range_one, List.foldl_cons, List.foldl_nil, if_neg (not_not.mpr hmax)]
    exact hp
  · have hfold : ∀ l : List ℕ, (∀ r ∈ l, r < 3) → ∀ p, P p →
        P (l.foldl (fun p r => if maxFreq ≠ 0 then chain r p else p) p) := by
      intro l
      induction l with
      | nil => exact fun _ _ h => h
      | cons r l ih =>
        intro hl p h
        obtain ⟨hr, hl⟩ := List.forall_mem_cons.mp hl
        rw [List.foldl_cons, if_pos hmax]
        exact ih hl _ (hchain hmax r hr p h)
    apply hfold
    · intro r hr
      rw [rounds, if_pos hmax] at hr
      exact List.mem_range.mp hr
    · exact hp

/-- Nothing is muted: there is no converter or the tuning is skipped. -/
def Skips (setup : TuneSetup) (flags : UInt32) : Prop :=
  setup.digInterfaceTuneSkipmode = 2 ∨ flags &&& RESTORE_DEFAULT ≠ 0

instance (setup : TuneSetup) (flags : UInt32) : Decidable (Skips setup flags) :=
  inferInstanceAs (Decidable (_ ∨ _))

/-- The second direction is tuned only after the first one. -/
def Tunes (setup : TuneSetup) (checkPn : Bool → ℕ → PnField) (maxFreq : UInt32) (tx : Bool) : Prop :=
  tx = false ∨ (Passes (checkPn false) (rounds maxFreq) ∧ setup.digInterfaceTuneSkipmode = 0)

section Tuned

variable {chains : Bool → ℕ → TxAtten → TxAtten} {setup : TuneSetup} {pns : Bool → ℕ → PnField}

lemma digTuneWith_skips (hconv : setup.adcConv = true) (hskip : Skips setup flags) :
    (digTuneWith chains setup pns maxFreq flags phy).2 = (phy.txMute 0).2 := by
  have hconv' : ¬setup.adcConv = false := by rw [hconv]; exact Bool.true_eq_false.mp
  unfold Skips at hskip
  unfold digTuneWith
  rw [if_neg hconv', if_pos hskip]

/-- A tuning gives the attenuation back that it has saved, if its clock chains do not touch it. -/
lemma view_digTuneWith (hconv : setup.adcConv = true) (hskip : ¬Skips setup flags) {v : UInt32 × UInt32}
    (hv : phy.view.value = v) (h1 : Attainable v.1) (h2 : Attainable v.2)
    (hchain : maxFreq ≠ 0 → ∀ tx, Tunes setup pns maxFreq tx → ∀ r < 3, ∀ p : TxAtten, p.view = ⟨muted, v⟩ →
      (chains tx r p).view = ⟨muted, v⟩) :
    (digTuneWith chains setup pns maxFreq flags phy).2.view = ⟨v, v⟩ := by
  have hone : (1 : UInt32) ≠ 0 := by decide
  have hmute : (phy.txMute 1).2.view = ⟨muted, v⟩ := by rw [view_mute hone, Stash.stash, hv]
  have hend : ∀ p : TxAtten, p.view = ⟨muted, v⟩ → (p.txMute 0).2.view = ⟨v, v⟩ := by
    intro p hp
    have hs1 : p.tx1AttenCached = v.1 := congrArg (fun s => s.stashed.1) hp
    have hs2 : p.tx2AttenCached = v.2 := congrArg (fun s => s.stashed.2) hp
    rw [view_unmute (hs1 ▸ h1) (hs2 ▸ h2), hp]
    rfl
  have hrx := @digTuneDelay_keeps (phy.txMute 1).2 (chains false) (pns false) maxFreq (fun p => p.view = ⟨muted, v⟩)
    (fun hmax => hchain hmax false (Or.inl rfl)) hmute
  have hconv' : ¬setup.adcConv = false := by rw [hconv]; exact Bool.true_eq_false.mp
  unfold Skips at hskip
  unfold digTuneWith
  rw [if_neg hconv', if_neg hskip]
  dsimp only
  apply hend
  by_cases htx : ((phy.txMute 1).2.digTuneDelay (chains false) (pns false) maxFreq).1 = 0 ∧
      setup.digInterfaceTuneSkipmode = 0
  · rw [if_pos htx]
    apply @digTuneDelay_keeps _ _ _ _ (fun p => p.view = ⟨muted, v⟩)
    · exact fun hmax => hchain hmax true (Or.inr ⟨digTuneDelay_code.mp htx.1, htx.2⟩)
    · exact hrx
  · rw [if_neg htx]
    exact hrx

/-- A clock chain is set by the tuning and ends in another one. -/
def Reenters (setup : TuneSetup) (answers : TuneAnswers) (maxFreq : UInt32) : Prop :=
  maxFreq ≠ 0 ∧ (setup.digInterfaceTuneFirDisable = false ∧ ¬(setup.bypassTxFir ∧ setup.bypassRxFir)) ∧
    ∃ tx, Tunes setup answers.checkPn maxFreq tx ∧ ∃ r < 3, answers.clockChain tx r ≠ none

/-- The attenuation of the muted transmitter is not lost to a second tuning. -/
lemma setTrxClockChainFreq_muted (hconv : setup.adcConv = true) (hmode : setup.digInterfaceTuneSkipmode ≠ 2)
    (r : Option (Bool → PnField)) {p : TxAtten} (hp : p.view = ⟨muted, muted⟩) :
    (setTrxClockChainFreq setup r p).view = ⟨muted, muted⟩ := by
  cases r with
  | none => exact hp
  | some checkPn =>
    have hskip : ¬Skips setup SKIP_STORE_RESULT := by
      rintro (h | h)
      · exact hmode h
      · exact h (by decide)
    unfold setTrxClockChainFreq
    dsimp only
    split_ifs
    · apply view_digTuneWith hconv hskip (congrArg Stash.value hp) attainable_max attainable_max
      intro h
      exact absurd rfl h
    · exact hp

/-- A tuning keeps the attenuation if no other one runs inside of it or if there is nothing to lose. -/
lemma view_digTune {answers : TuneAnswers} (hconv : setup.adcConv = true) (hskip : ¬Skips setup flags)
    {v : UInt32 × UInt32} (hv : phy.view.value = v) (h1 : Attainable v.1) (h2 : Attainable v.2)
    (hre : ¬Reenters setup answers maxFreq ∨ v = muted) :
    (phy.digTune setup answers maxFreq flags).2.view = ⟨v, v⟩ := by
  apply view_digTuneWith hconv hskip hv h1 h2
  intro hmax tx htx r hr p hp
  rcases hre with hre | rfl
  · cases hanswer : answers.clockChain tx r with
    | none => exact hp
    | some checkPn =>
      have hfir : ¬(setup.digInterfaceTuneFirDisable = false ∧ ¬(setup.bypassTxFir ∧ setup.bypassRxFir)) := by
        intro hfir
        exact hre ⟨hmax, hfir, tx, htx, r, hr, by rw [hanswer]; exact Option.some_ne_none _⟩
      unfold setTrxClockChainFreq
      dsimp only
      rw [if_neg hfir]
      exact hp
  · exact setTrxClockChainFreq_muted hconv (fun h => hskip (Or.inl h)) _ hp

lemma view_digInterfaceTimingAnalysis (h1 : Attainable (phy.getTxAtten 1)) (h2 : Attainable (phy.getTxAtten 2)) :
    phy.digInterfaceTimingAnalysis.view = ⟨phy.view.value, phy.view.value⟩ := by
  have hone : (1 : UInt32) ≠ 0 := by decide
  have hmute := @view_mute phy 1 hone
  have hs1 : (phy.txMute 1).2.tx1AttenCached = phy.getTxAtten 1 := congrArg (fun s => s.stashed.1) hmute
  have hs2 : (phy.txMute 1).2.tx2AttenCached = phy.getTxAtten 2 := congrArg (fun s => s.stashed.2) hmute
  unfold digInterfaceTimingAnalysis
  rw [view_unmute (hs1 ▸ h1) (hs2 ▸ h2), hmute]
  rfl

end Tuned

end TxAtten

inductive TxCall where
  | setTxAtten (attenMdb : UInt32) (tx1 tx2 immed : Bool)
  | txMute (state : UInt32)
  | digTune (setup : TuneSetup) (answers : TuneAnswers) (maxFreq flags : UInt32)
  | digInterfaceTimingAnalysis

/-- The driver, what the user has set last and whether the last one of the mutes asked for silence. -/
structure TxSession where
  phy : TxAtten
  user : UInt32 × UInt32
  isMuted : Bool

namespace TxSession
open TxAtten

/-- Only accepted values of the user count, in steps of a quarter of a dB. -/
def step (s : TxSession) : TxCall → TxSession
  | .setTxAtten attenMdb tx1 tx2 immed =>
    let value := attenMdb / 250 * 250
    { s with
      phy := (s.phy.setTxAtten attenMdb tx1 tx2 immed).2
      user := if attenMdb > MAX_TX_ATTENUATION_DB then s.user
        else (if tx1 then value else s.user.1, if tx2 then value else s.user.2) }
  | .txMute state => { s with phy := (s.phy.txMute state).2, isMuted := decide (state ≠ 0) }
  | .digTune setup answers maxFreq flags =>
    { s with
      phy := (s.phy.digTune setup answers maxFreq flags).2
      isMuted := if setup.adcConv then false else s.isMuted }
  | .digInterfaceTimingAnalysis => { s with phy := s.phy.digInterfaceTimingAnalysis, isMuted := false }

/-- The cleared driver after the attenuation of both channels was set. -/
def start (mdb1 mdb2 : UInt32) : TxSession :=
  Trace.run step ⟨⟨(0, 0), (0, 0), false, 0, 0⟩, (0, 0), false⟩
    [.setTxAtten mdb1 true false true, .setTxAtten mdb2 false true true]

/-- A transmitter that is not muted has the attenuation of the user. -/
def Kept (s : TxSession) : Prop :=
  s.isMuted = false → s.phy.getTxAtten 1 = s.user.1 ∧ s.phy.getTxAtten 2 = s.user.2

instance : DecidablePred Kept := fun _ => inferInstanceAs (Decidable (_ → _))

/-- Muting saves the attenuation of the user. -/
def MayMute (s : TxSession) : Prop := s.isMuted = false ∨ s.phy.view.stashed = muted

/-- Unmuting restores what was saved, or what is there already. -/
def MayUnmute (s : TxSession) : Prop := s.isMuted = true ∨ s.phy.view.stashed = s.phy.view.value

/-- The attenuation of the user is saved before the transmitter is muted and only restored then. -/
def Allowed (s : TxSession) : TxCall → Prop
  | .setTxAtten attenMdb _ _ _ => s.isMuted = false ∨ attenMdb > MAX_TX_ATTENUATION_DB
  | .txMute state => if state ≠ 0 then s.MayMute else s.MayUnmute
  | .digTune setup answers maxFreq flags =>
    setup.adcConv = true → if Skips setup flags then s.MayUnmute
      else s.MayMute ∧ (¬Reenters setup answers maxFreq ∨ s.phy.view.value = muted)
  | .digInterfaceTimingAnalysis => s.MayMute

/-- The attenuation of the user is in the registers, or saved behind a muted transmitter. -/
structure Inv (s : TxSession) : Prop where
  user : Attainable s.user.1 ∧ Attainable s.user.2
  stashed : Attainable s.phy.view.stashed.1 ∧ Attainable s.phy.view.stashed.2
  loud : s.isMuted = false → s.phy.view.value = s.user
  silent : s.isMuted = true → s.phy.view = ⟨muted, s.user⟩

variable {s : TxSession}

lemma Inv.value_of_mayMute (hs : s.Inv) (h : s.MayMute) : s.phy.view.value = s.user := by
  cases hm : s.isMuted with
  | false => exact hs.loud hm
  | true =>
    rcases h with h | h
    · rw [hm] at h
      exact absurd h (by decide)
    · have hview := hs.silent hm
      rw [hview] at h ⊢
      exact h.symm

lemma Inv.stashed_of_mayUnmute (hs : s.Inv) (h : s.MayUnmute) : s.phy.view.stashed = s.user := by
  cases hm : s.isMuted with
  | true => exact congrArg Stash.stashed (hs.silent hm)
  | false =>
    rcases h with h | h
    · rw [hm] at h
      exact absurd h (by decide)
    · exact h.trans (hs.loud hm)

lemma inv_of_view {phy : TxAtten} (user : Attainable s.user.1 ∧ Attainable s.user.2) (h : phy.view = ⟨s.user, s.user⟩) :
    Inv { s with phy := phy, isMuted := false } where
  user := user
  stashed := (congrArg Stash.stashed h).symm ▸ user
  loud := fun _ => congrArg Stash.value h
  silent := fun h => absurd h Bool.false_ne_true

lemma Inv.setTxAtten (hs : s.Inv) {attenMdb : UInt32} {tx1 tx2 immed : Bool}
    (h : s.Allowed (.setTxAtten attenMdb tx1 tx2 immed)) : (s.step (.setTxAtten attenMdb tx1 tx2 immed)).Inv := by
  by_cases hmax : attenMdb > MAX_TX_ATTENUATION_DB
  · unfold step
    dsimp only
    rw [setTxAtten_refused hmax, if_pos hmax]
    exact hs
  · have hle := UInt32.not_lt.mp hmax
    have hm : s.isMuted = false := h.resolve_right hmax
    have hview := @view_setTxAtten s.phy attenMdb hle tx1 tx2 immed
    have hget := hs.loud hm
    have hget1 : s.phy.getTxAtten 1 = s.user.1 := congrArg Prod.fst hget
    have hget2 : s.phy.getTxAtten 2 = s.user.2 := congrArg Prod.snd hget
    rw [hget1, hget2] at hview
    unfold step
    dsimp only
    rw [if_neg hmax]
    constructor
    · constructor
      · cases tx1
        · exact hs.user.1
        · exact attainable_step hle
      · cases tx2
        · exact hs.user.2
        · exact attainable_step hle
    · dsimp only
      rw [hview]
      exact hs.stashed
    · exact fun _ => congrArg Stash.value hview
    · intro hm'
      rw [hm] at hm'
      exact absurd hm' Bool.false_ne_true

lemma Inv.unmute (hs : s.Inv) (h : s.MayUnmute) : Inv { s with phy := (s.phy.txMute 0).2, isMuted := false } := by
  apply inv_of_view hs.user
  rw [view_unmute hs.stashed.1 hs.stashed.2, Stash.restore, hs.stashed_of_mayUnmute h]

lemma Inv.txMute (hs : s.Inv) {state : UInt32} (h : s.Allowed (.txMute state)) : (s.step (.txMute state)).Inv := by
  unfold Allowed at h
  dsimp only at h
  unfold step
  dsimp only
  by_cases hstate : state ≠ 0
  · rw [if_pos hstate] at h
    have hview := @view_mute s.phy state hstate
    rw [Stash.stash, hs.value_of_mayMute h] at hview
    rw [decide_eq_true hstate]
    constructor
    · exact hs.user
    · dsimp only
      rw [hview]
      exact hs.user
    · exact fun hm => absurd hm.symm Bool.false_ne_true
    · exact fun _ => hview
  · rw [if_neg hstate] at h
    obtain rfl := not_not.mp hstate
    exact hs.unmute h

lemma Inv.digTune (hs : s.Inv) {setup : TuneSetup} {answers : TuneAnswers} {maxFreq flags : UInt32}
    (h : s.Allowed (.digTune setup answers maxFreq flags)) : (s.step (.digTune setup answers maxFreq flags)).Inv := by
  unfold step
  dsimp only
  cases hconv : setup.adcConv with
  | false =>
    have hnone : s.phy.digTune setup answers maxFreq flags = (-ENODEV, s.phy) := by
      unfold TxAtten.digTune digTuneWith
      exact if_pos hconv
    rw [hnone]
    exact hs
  | true =>
    have h := h hconv
    rw [if_pos (Eq.refl true)]
    by_cases hskip : Skips setup flags
    · rw [if_pos hskip] at h
      have hunmute : (s.phy.digTune setup answers maxFreq flags).2 = (s.phy.txMute 0).2 := digTuneWith_skips hconv hskip
      rw [hunmute]
      exact hs.unmute h
    · rw [if_neg hskip] at h
      have hvalue := hs.value_of_mayMute h.1
      apply inv_of_view hs.user
      apply view_digTune hconv hskip hvalue hs.user.1 hs.user.2
      rw [← hvalue]
      exact h.2

lemma Inv.digInterfaceTimingAnalysis (hs : s.Inv) (h : s.Allowed .digInterfaceTimingAnalysis) :
    (s.step .digInterfaceTimingAnalysis).Inv := by
  have hvalue := hs.value_of_mayMute h
  have hsteps := hs.user
  rw [← hvalue] at hsteps
  apply inv_of_view hs.user
  rw [view_digInterfaceTimingAnalysis hsteps.1 hsteps.2, hvalue]

lemma Inv.step (hs : s.Inv) {call : TxCall} (h : s.Allowed call) : (s.step call).Inv := by
  cases call with
  | setTxAtten attenMdb tx1 tx2 immed => exact hs.setTxAtten h
  | txMute state => exact hs.txMute h
  | digTune setup answers maxFreq flags => exact hs.digTune h
  | digInterfaceTimingAnalysis => exact hs.digInterfaceTimingAnalysis h

lemma Inv.kept (hs : s.Inv) : s.Kept := fun hm => Prod.mk.inj (hs.loud hm)

lemma inv_start (mdb1 mdb2 : UInt32) : (start mdb1 mdb2).Inv := by
  have hzero : Attainable 0 := ⟨by decide, by decide⟩
  have hreset : Inv ⟨⟨(0, 0), (0, 0), false, 0, 0⟩, (0, 0), false⟩ :=
    ⟨⟨hzero, hzero⟩, ⟨hzero, hzero⟩, fun _ => rfl, fun h => absurd h Bool.false_ne_true⟩
  have hfirst := @Inv.setTxAtten _ hreset mdb1 true false true (Or.inl rfl)
  exact hfirst.setTxAtten (Or.inl rfl)

end TxSession

open TxSession

/-- Every run in which the attenuation of the user is saved before it is overwritten keeps it. -/
theorem attenuation_kept (mdb1 mdb2 : UInt32) (calls : List TxCall)
    (h : Trace.Guarded TxSession.step Allowed (start mdb1 mdb2) calls) :
    Trace.Always TxSession.step Kept (start mdb1 mdb2) calls :=
  (h.always (inv_start mdb1 mdb2) fun _ _ hs he => hs.step he).mono fun _ hs => hs.kept

/-- The answers of a converter without errors whose clocks are always set. -/
def TuneAnswers.good : TuneAnswers := ⟨fun _ _ _ _ => 0, fun _ _ => some fun _ _ _ => 0⟩

/-- A mute, a skipped tuning and a tuning without filters. -/
theorem attenuation_kept_at : Trace.Always TxSession.step Kept (start 10000 20000)
    [.txMute 1, .digTune ⟨true, 0, false, true, true⟩ .good 0 RESTORE_DEFAULT,
      .digTune ⟨true, 0, false, true, true⟩ .good 61440000 BE_VERBOSE] := by
  apply attenuation_kept 10000 20000
  rw [Trace.guarded_cons, Trace.guarded_cons, Trace.guarded_cons]
  refine ⟨Or.inl rfl, fun _ => ?_, fun _ => ?_, Trace.guarded_nil⟩
  · exact Or.inl rfl
  · exact ⟨Or.inl rfl, Or.inl fun h => h.2.1.2 ⟨rfl, rfl⟩⟩

/-- Unmuting without a mute before gives the full power, and a tuning with filters none. -/
theorem attenuation_not_kept : ¬Trace.Always TxSession.step Kept (start 10000 20000) [.txMute 0] ∧
    ¬Trace.Always TxSession.step Kept (start 10000 20000)
      [.digTune ⟨true, 0, false, false, false⟩ .good 61440000 BE_VERBOSE] := by
  constructor
  · decide
  · decide +kernel

end NoOS
