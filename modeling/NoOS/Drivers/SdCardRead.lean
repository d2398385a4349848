import NoOS.Drivers.SdCardBlocks
import NoOS.Drivers.SdCardCalls

/-!
# Reading from the SD card
-/

namespace NoOS
open Access SdCard BlockRange

section Copies

variable {dst src src' : Buffer} {d s s' n m k : ℕ}

lemma memcpy_zero : memcpy dst d src s 0 = dst := by
  funext k
  exact if_neg (by lia)

lemma memcpy_memcpy (h : ∀ j < m, src' (s' + j) = src (s + n + j)) :
    memcpy (memcpy dst d src s n) (d + n) src' s' m = memcpy dst d src s (n + m) := by
  funext k
  by_cases hlow : k < d + n
  · have hk : ¬(d + n ≤ k ∧ k < d + n + m) := by lia
    have hiff : (d ≤ k ∧ k < d + n) ↔ (d ≤ k ∧ k < d + (n + m)) := by lia
    simp only [memcpy, if_neg hk, hiff]
  · by_cases hhigh : k < d + n + m
    · have hk : d + n ≤ k ∧ k < d + n + m := by lia
      have hk' : d ≤ k ∧ k < d + (n + m) := by lia
      have hsrc := h (k - (d + n)) (by lia)
      have hidx : s + n + (k - (d + n)) = s + (k - d) := by lia
      simp only [memcpy, if_pos hk, if_pos hk', hsrc, hidx]
    · have hk : ¬(d + n ≤ k ∧ k < d + n + m) := by lia
      have hk' : ¬(d ≤ k ∧ k < d + n) := by lia
      have hk'' : ¬(d ≤ k ∧ k < d + (n + m)) := by lia
      simp only [memcpy, if_neg hk, if_neg hk', if_neg hk'']

end Copies

/-- The card before block `i` of a transfer that starts at block `b`. -/
def SdPhase.before (task : Bool → ℕ → SdTask) (multi : Bool) (b i : ℕ) : SdPhase :=
  if multi = true ∨ i = 0 then .token (task multi (b + i)) else .idle

section Blocks

variable {address len : UInt64} {i : ℕ}

lemma multi_eq (h : address.toNat + len.toNat ≤ 2 ^ 40) :
    decide (getNbOfBlocks address len ≠ 1) = decide (count 512 address.toNat len.toNat ≠ 1) := by
  have hiff : getNbOfBlocks address len = 1 ↔ (getNbOfBlocks address len).toNat = 1 :=
    UInt32.toNat_inj.symm
  rw [toNat_getNbOfBlocks h] at hiff
  simp only [ne_eq, hiff]

lemma before_of_lt {task : Bool → ℕ → SdTask} {b n : ℕ} (hi : i < n) :
    SdPhase.before task (n ≠ 1) b i = .token (task (n ≠ 1) (b + i)) := by
  apply if_pos
  by_cases hn : n = 1
  · exact Or.inr (by lia)
  · exact Or.inl (decide_eq_true hn)

lemma read_next {b n : ℕ} :
    (SdTask.read (n ≠ 1) (b + i)).next = SdPhase.before .read (n ≠ 1) b (i + 1) := by
  by_cases hn : n = 1
  · simp [hn, SdTask.next, SdPhase.before]
  · simp [hn, SdTask.next, SdPhase.before, Nat.add_assoc]

lemma write_next {b n : ℕ} :
    (SdTask.write (n ≠ 1) (b + i)).next = SdPhase.before .write (n ≠ 1) b (i + 1) := by
  by_cases hn : n = 1
  · simp [hn, SdTask.next, SdPhase.before]
  · simp [hn, SdTask.next, SdPhase.before, Nat.add_assoc]

lemma toNat_arg (h : address.toNat + len.toNat ≤ 2 ^ 40) :
    (address >>> 9).toUInt32.toNat = address.toNat / 512 := by
  rw [UInt64.toNat_toUInt32, toNat_shiftRight]
  lia

end Blocks

namespace SdCard

/-- The `m` blocks from block `i` on are read, with those before them in `data`, or the read fails. -/
def ReadsFrom (fates : Fates) (address len : UInt64) (data : Buffer) (i m : ℕ) (card : SdCard) (r : IoResult)
    (card' : SdCard) : Prop :=
  Reads card card' ∧ Reports fates card.time r.ret
    (card'.phase = SdPhase.before .read (count 512 address.toNat len.toNat ≠ 1)
      (address.toNat / 512) (count 512 address.toNat len.toNat) ∧
    card'.events = card.events ++
      (List.range' i m).map (fun j => .readBlock (address.toNat / 512 + j)) ∧
    r.data = memcpy data 0 card.mem address.toNat len.toNat)

variable {fates : Fates} {card : SdCard} {address len : UInt64} {data response : Buffer} {i : ℕ}

/-- One block to `block + pos`, and then the blocks behind it. -/
lemma yields_thenRead (hi : i < count 512 address.toNat len.toNat) {m : ℕ}
    (hphase : card.phase = SdPhase.before .read (count 512 address.toNat len.toNat ≠ 1)
      (address.toNat / 512) i) {block : Buffer} {pos : ℕ} {failed : IoResult → Buffer} {next : IoResult → SdProg IoResult}
    (hnext : ∀ (r : IoResult) (card₁ : SdCard), card₁.mem = card.mem →
      r.data = memcpy block pos card.mem (512 * (address.toNat / 512 + i)) 512 →
      card₁.phase = SdPhase.before .read (count 512 address.toNat len.toNat ≠ 1) (address.toNat / 512) (i + 1) →
      (next r).Yields (answer fates) card₁ (ReadsFrom fates address len data (i + 1) m card₁)) :
    (do
      let r ← readBlock block pos response
      if r.ret ≠ SUCCESS then return ⟨FAILURE, failed r⟩
      next r : SdProg IoResult).Yields (answer fates) card
        (ReadsFrom fates address len data i (m + 1) card) := by
  rw [before_of_lt hi] at hphase
  apply (yields_readBlock hphase).bind_of
  rintro r card₁ ⟨hreads₁, ⟨hret, hphase₁, hevents₁, hdata₁⟩ | ⟨hret, hbad⟩⟩
  · rw [if_neg (not_not_intro hret)]
    rw [read_next] at hphase₁
    apply (hnext r card₁ hreads₁.mem hdata₁ hphase₁).mono
    rintro r card' ⟨hreads, hreport⟩
    refine ⟨hreads₁.trans hreads, hreport.imp hreads₁.time ?_⟩
    rintro ⟨hphase', hevents', hdata'⟩
    refine ⟨hphase', ?_, hreads₁.mem ▸ hdata'⟩
    rw [hevents', hevents₁, List.range'_succ, List.map_cons, List.append_assoc]
    rfl
  · rw [hret, if_pos (by decide)]
    exact Prog.Yields.ret ⟨hreads₁, Or.inr ⟨rfl, hbad⟩⟩

/-- The loop of `read_multiple_blocks` before block `i`, when the bytes of the blocks before it
are in `data`. -/
lemma yields_readBlocks (h : address.toNat + len.toNat ≤ 2 ^ 40) (m : ℕ) {i : ℕ}
    (hm : i + m = count 512 address.toNat len.toNat) (buff : Buffer)
    (hphase : card.phase = SdPhase.before .read (count 512 address.toNat len.toNat ≠ 1)
      (address.toNat / 512) i) :
    (readBlocks address len response (List.range' i m) (upto 512 address.toNat len.toNat i)
      (memcpy data 0 card.mem address.toNat (upto 512 address.toNat len.toNat i)) buff).Yields
      (answer fates) card (ReadsFrom fates address len data i m card) := by
  induction m generalizing i card buff with
  | zero =>
    obtain rfl : i = count 512 address.toNat len.toNat := hm
    rw [upto_count (by decide)]
    exact Prog.Yields.ret ⟨.refl, Or.inl ⟨rfl, hphase, (List.append_nil _).symm, rfl⟩⟩
  | succ m ih =>
    have hi : i < count 512 address.toNat len.toNat := by lia
    have hB : 0 < 512 := by decide
    have hadd := add_before (a := address.toNat) (i := i) hB
    have hfit := size_add_first_le (l := len.toNat) hB hi
    have hnext : upto 512 address.toNat len.toNat (i + 1) =
        before 512 address.toNat i + size 512 address.toNat len.toNat i := (upto_succ hB hi).symm
    rw [upto_of_lt hB hi, List.range'_succ, readBlocks]
    simp only [toNat_buffFirstIdx, toNat_buffCopyLen h hi]
    -- the bytes of the block that belong to the range, behind those of the blocks before it
    have hcopy : ∀ (src : Buffer) (s : ℕ),
        (∀ j < size 512 address.toNat len.toNat i,
          src (s + j) = card.mem (512 * (address.toNat / 512 + i) + (first 512 address.toNat i + j))) →
        memcpy (memcpy data 0 card.mem address.toNat (before 512 address.toNat i))
          (before 512 address.toNat i) src s (size 512 address.toNat len.toNat i) =
        memcpy data 0 card.mem address.toNat (upto 512 address.toNat len.toNat (i + 1)) := by
      intro src s hsrc
      have hcat := @memcpy_memcpy data card.mem src 0 address.toNat s
        (before 512 address.toNat i) (size 512 address.toNat len.toNat i) (fun j hj => by
          rw [hsrc j hj, hadd, Nat.add_assoc])
      rwa [Nat.zero_add, ← hnext] at hcat
    rw [← hnext]
    split_ifs with hwhole
    · refine yields_thenRead hi hphase fun r card₁ hmem hdata₁ hphase₁ => ?_
      have hwritten := hcopy card.mem (512 * (address.toNat / 512 + i)) fun j _ => by rw [hwhole.1, Nat.zero_add]
      have hsize : size 512 address.toNat len.toNat i = 512 := hwhole.2
      rw [hsize, ← hdata₁] at hwritten
      rw [hwritten, ← hmem]
      exact ih (by lia) buff hphase₁
    · refine yields_thenRead hi hphase fun r card₁ hmem hdata₁ hphase₁ => ?_
      rw [hcopy r.data _ fun j hj => ?_, ← hmem]
      · exact ih (by lia) r.data hphase₁
      · rw [hdata₁]
        exact if_pos ⟨Nat.zero_le _, by lia⟩

/-- What the card sees of a read of `n` blocks from block `b`. -/
def readTranscript (b n : ℕ) : List SdEvent :=
  if n = 1 then [.command (CMD 17) b, .readBlock b]
  else .command (CMD 18) b :: (List.range n).map (fun i => .readBlock (b + i)) ++
    [.command (CMD 12) 0]

def readCmd (n : ℕ) : UInt8 := if n = 1 then CMD 17 else CMD 18

lemma readCmd_start (b n : ℕ) :
    (SdPhase.response (.ofCommand (readCmd n) b)).reply R1_READY_STATE =
      SdPhase.before .read (n ≠ 1) b 0 := by
  by_cases hn : n = 1
  · rw [readCmd, if_pos hn]
    simp only [hn]
    rfl
  · rw [readCmd, if_neg hn, SdPhase.before, if_pos (Or.inl (decide_eq_true hn)),
      decide_eq_true hn]
    rfl

/-- The end of a read of several blocks. -/
lemma yields_readEnd (response read : Buffer) :
    (do
      let r ← sendCommand (CMD 12) STUFF_ARG R1_LEN response
      if r.ret ≠ SUCCESS then return ⟨FAILURE, read⟩
      if r.data 0 ≠ R1_READY_STATE then return ⟨FAILURE, read⟩
      return ⟨SUCCESS, read⟩ : SdProg IoResult).Yields (answer fates) card fun r card' =>
        Reads card card' ∧ Reports fates card.time r.ret
          (card'.phase = .idle ∧ card'.events = card.events ++ [.command (CMD 12) 0] ∧ r.data = read) := by
  apply (yields_sendCommand STUFF_ARG _ (by decide : CMD 12 &&& _ = _) (by decide)).bind_of
  rintro r card₁ ⟨hreads, ⟨hret, hphase, hevents, hideal⟩ | ⟨hret, hbad⟩⟩
  · rw [if_neg (not_not_intro hret)]
    by_cases hstopped : r.data 0 = R1_READY_STATE
    · rw [if_neg (not_not_intro hstopped)]
      rw [hstopped] at hphase
      exact Prog.Yields.ret ⟨hreads, Or.inl ⟨rfl, hphase, hevents, rfl⟩⟩
    · rw [if_pos hstopped]
      exact Prog.Yields.ret ⟨hreads, Or.inr ⟨rfl, fun hi => hstopped (hideal hi)⟩⟩
  · rw [hret, if_pos (by decide)]
    exact Prog.Yields.ret ⟨hreads, Or.inr ⟨rfl, hbad⟩⟩

lemma yields_sdRead {desc : SdDesc} (h : ¬desc.Refuses address len) (stack : SdStack)
    (data : Buffer) :
    (sdRead desc stack data address len).Yields (answer fates) card fun r card' =>
      Reads card card' ∧ Reports fates card.time r.ret
        (card'.phase = .idle ∧
          card'.events = card.events ++
            readTranscript (address.toNat / 512) (count 512 address.toNat len.toNat) ∧
          r.data = memcpy data 0 card.mem address.toNat len.toNat) := by
  have hcard := (SdDesc.add_le_of_not_refuses h).trans desc.toNat_memorySize.1
  have hnb := toNat_getNbOfBlocks hcard
  have hone : getNbOfBlocks address len = 1 ↔ count 512 address.toNat len.toNat = 1 := by
    rw [← hnb]
    exact UInt32.toNat_inj.symm
  have hcmd : (if getNbOfBlocks address len = 1 then CMD 17 else CMD 18) =
      readCmd (count 512 address.toNat len.toNat) := by
    simp only [hone, readCmd]
  have hcmds : ∀ n, readCmd n &&& ~~~BIT_APPLICATION_CMD = readCmd n ∧
      readCmd n &&& BIT_APPLICATION_CMD = 0 := by
    intro n
    unfold readCmd
    split <;> decide
  rw [sdRead, if_neg h]
  simp only [hcmd]
  apply (yields_sendCommand _ _ (hcmds _).1 (hcmds _).2).bind_of
  rintro r card₁ ⟨hreads₁, ⟨hret₁, hphase₁, hevents₁, hideal₁⟩ | ⟨hret₁, hbad⟩⟩
  · rw [if_neg (not_not_intro hret₁)]
    by_cases hready : r.data 0 = R1_READY_STATE
    · rw [hready, readCmd_start, toNat_arg hcard] at hphase₁
      rw [toNat_arg hcard] at hevents₁
      have hblocks := @yields_readBlocks fates card₁ address len data stack.response hcard _ 0
        (Nat.zero_add _) stack.buff hphase₁
      have hzero : upto 512 address.toNat len.toNat 0 = 0 := Nat.min_eq_right (Nat.zero_le _)
      have hrange : List.range' 0 (count 512 address.toNat len.toNat) =
          List.range (getNbOfBlocks address len).toNat := by
        rw [hnb, List.range_eq_range']
      rw [hzero, memcpy_zero, hrange] at hblocks
      rw [if_neg (not_not_intro hready)]
      apply hblocks.bind_of
      rintro s card₂ ⟨hreads₂, ⟨hret₂, hphase₂, hevents₂, hdata₂⟩ | ⟨hret₂, hbad⟩⟩
      · rw [hreads₁.mem] at hdata₂
        rw [hevents₁, ← List.range_eq_range'] at hevents₂
        rw [if_neg (not_not_intro hret₂)]
        by_cases hmulti : count 512 address.toNat len.toNat = 1
        · rw [if_neg (not_not_intro (hone.mpr hmulti))]
          refine Prog.Yields.ret ⟨hreads₁.trans hreads₂, Or.inl ⟨rfl, ?_, ?_, hdata₂⟩⟩
          · rw [hphase₂, hmulti]
            rfl
          · rw [hevents₂, readTranscript, readCmd, hmulti, List.append_assoc]
            rfl
        · rw [if_pos (fun h => hmulti (hone.mp h))]
          apply (yields_readEnd _ s.data).mono
          rintro r' card₃ ⟨hreads₃, hreport₃⟩
          refine ⟨(hreads₁.trans hreads₂).trans hreads₃, hreport₃.imp (hreads₁.time.trans hreads₂.time) ?_⟩
          rintro ⟨hphase₃, hevents₃, hdata₃⟩
          refine ⟨hphase₃, ?_, hdata₃.trans hdata₂⟩
          rw [hevents₃, hevents₂, readTranscript, readCmd, if_neg hmulti, if_neg hmulti]
          simp only [List.append_assoc, List.cons_append, List.nil_append]
      · rw [hret₂, if_pos (by decide)]
        exact Prog.Yields.ret ⟨hreads₁.trans hreads₂, Reports.fail hbad hreads₁.time⟩
    · rw [if_pos hready]
      exact Prog.Yields.ret ⟨hreads₁, Or.inr ⟨rfl, fun hi => hready (hideal₁ hi)⟩⟩
  · rw [hret₁, if_pos (by decide)]
    exact Prog.Yields.ret ⟨hreads₁, Or.inr ⟨rfl, hbad⟩⟩

end SdCard

end NoOS
