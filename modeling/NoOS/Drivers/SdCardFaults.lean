import NoOS.Drivers.SdCardWrite

/-!
# The driver over a card

On the card of the specification a range is read and written to the byte. `sd_write` does not look at the return
codes of the reads that fill its two buffers: when one of them fails, nothing keeps the rest of the write from
succeeding.
-/

namespace NoOS
open Access SdCard BlockRange

def SdCard.flawless : Fates := fun _ p => p.fate

lemma idealFrom_flawless (t : ℕ) : IdealFrom flawless t := fun _ _ _ => rfl

variable {desc : SdDesc} {address len : UInt64}

lemma block_le (h : ¬desc.Refuses address len) {i : ℕ}
    (hi : i < count 512 address.toNat len.toNat) :
    512 * (address.toNat / 512 + i + 1) ≤ desc.memorySize.toNat := by
  have hrange := SdDesc.add_le_of_not_refuses h
  obtain ⟨-, hmod⟩ := desc.toNat_memorySize
  rw [count] at hi
  split_ifs at hi with hl hz
  · lia
  · lia
  · lia

/-- A range that is accepted is read and written to the byte, with the commands and tokens of as
many blocks as are transferred. -/
theorem sd_transfers_exactly (h : ¬desc.Refuses address len) (stack : SdStack)
    (mem data : Buffer) :
    (∃ r card, (sdRead desc stack data address len).exec (answer flawless) (inserted mem) =
        some (r, card) ∧ r.ret = SUCCESS ∧
      (∀ k < len.toNat, r.data k = mem (address.toNat + k)) ∧
      (∀ k, len.toNat ≤ k → r.data k = data k) ∧ card.mem = mem ∧ card.phase = .idle ∧
      card.events = readTranscript (address.toNat / 512) (count 512 address.toNat len.toNat)) ∧
    (∃ card, (sdWrite desc stack data address len).exec (answer flawless) (inserted mem) =
        some (SUCCESS, card) ∧
      (∀ k < len.toNat, card.mem (address.toNat + k) = data k) ∧
      (∀ x, x < address.toNat ∨ address.toNat + len.toNat ≤ x → card.mem x = mem x) ∧
      card.phase = .idle ∧
      card.events = backTranscripts desc address len ++
        writeTranscript (address.toNat / 512) (count 512 address.toNat len.toNat)) ∧
    ∀ i < count 512 address.toNat len.toNat,
      512 * (address.toNat / 512 + i + 1) ≤ desc.memorySize.toNat := by
  have hcard := (SdDesc.add_le_of_not_refuses h).trans desc.toNat_memorySize.1
  refine ⟨?_, ?_, fun i hi => block_le h hi⟩
  · obtain ⟨r, card, hexec, hreads, ⟨hret, hphase, hevents, hdata⟩ | ⟨-, hbad⟩⟩ :=
      @yields_sdRead flawless (inserted mem) _ _ desc h stack data
    · refine ⟨r, card, hexec, hret, fun k hk => ?_, fun k hk => ?_, hreads.mem, hphase, hevents⟩
      · rw [hdata, memcpy, if_pos ⟨Nat.zero_le k, by omega⟩]
        rfl
      · rw [hdata, memcpy, if_neg (by omega)]
    · exact absurd (idealFrom_flawless _) hbad
  · obtain ⟨r, card₁, hexec₁, hreads₁, hfilled, hevents₁⟩ :=
      @yields_readBacks flawless (inserted mem) _ _ desc h stack
    have hfilled := hfilled (Or.inr (idealFrom_flawless _))
    rw [← hreads₁.mem] at hfilled
    have hnone : card₁.sent = [] := hreads₁.sent
    obtain ⟨ret, card, hexec, -, ⟨hret, hphase, hevents, hmem⟩ | ⟨-, hbad⟩⟩ :=
      @yields_sdWriteRest flawless card₁ _ _ hcard stack r.1.data r.2.data data (fun _ p hp => by
          rw [hnone] at hp
          exact absurd hp List.not_mem_nil)
    · have hmem : card.mem = rewritten mem data address.toNat len.toNat := by
        rw [hmem hfilled, hreads₁.mem]
        rfl
      refine ⟨card, ?_, fun k hk => ?_, fun x hx => ?_, hphase, ?_⟩
      · rw [sdWrite_eq h, Prog.exec_bind, hexec₁, ← hret]
        exact hexec
      · rw [hmem, rewritten, memcpy, if_pos (by omega), Nat.zero_add, Nat.add_sub_cancel_left]
      · rw [hmem, rewritten, memcpy, if_neg (by omega)]
      · rw [hevents, hevents₁ (idealFrom_flawless _)]
        rfl
    · exact absurd (idealFrom_flawless _) hbad

/-- The smallest card. -/
def SdDesc.smallest : SdDesc := ⟨2 ^ 19, 0, by decide, by decide⟩

def SdStack.zero : SdStack := ⟨filled 0, filled 0, filled 0, filled 0⟩

/-- 600 bytes over two blocks -/
theorem sd_transfers_over_two_blocks :
    ∃ card, (sdWrite .smallest .zero (filled 1) 100 600).exec (answer flawless)
        (inserted (filled 0)) = some (SUCCESS, card) ∧
      (∀ k < 600, card.mem (100 + k) = 1) ∧ ∀ x, x < 100 ∨ 700 ≤ x → card.mem x = 0 := by
  have h : ¬SdDesc.smallest.Refuses 100 600 := by decide
  obtain ⟨card, hexec, hin, hout, -⟩ :=
    (sd_transfers_exactly h .zero (filled 0) (filled 1)).2.1
  exact ⟨card, hexec, hin, hout⟩

variable {fates fates' : Fates} {card card' : SdCard} {α : Type}

namespace SdCard

lemma putOnBus_time (x : SpiXfer) : (putOnBus x card).time = card.time := by
  unfold putOnBus
  split
  · split <;> rfl
  · rfl

lemma exchange_time (noise : Buffer) (x : SpiXfer) (p : SdPhase) :
    (exchange noise x card p).2.time = card.time := by
  unfold exchange
  split <;> split_ifs <;> rfl

lemma answer_time (x : SpiXfer) : (answer fates card x).2.time = card.time + 1 := by
  rw [answer, transfer]
  split_ifs
  · exact putOnBus_time x
  · exact (exchange_time _ x _).trans (putOnBus_time x)
  · exact putOnBus_time x

lemma exec_time_le {p : SdProg α} {a : α} (h : p.exec (answer fates) card = some (a, card')) :
    card.time ≤ card'.time := by
  induction p generalizing card with
  | ret b =>
    obtain ⟨-, rfl⟩ := Prod.mk.inj (Option.some.inj h)
    exact le_rfl
  | op o k ih =>
    have hle := ih _ h
    rw [answer_time] at hle
    exact Nat.le_of_succ_le hle
  | poll o again k ih =>
    rw [Prog.exec] at h
    split at h
    · cases h
    · have hle := ih _ h
      rw [answer_time] at hle
      exact Nat.le_of_succ_le hle

lemma exec_congr {p : SdProg α} {a : α} (h : p.exec (answer fates) card = some (a, card'))
    (hfates : ∀ t < card'.time, fates' t = fates t) :
    p.exec (answer fates') card = some (a, card') := by
  have hstep : ∀ {card : SdCard} (o : SpiXfer) {q : SdProg α},
      q.exec (answer fates) (answer fates card o).2 = some (a, card') →
      answer fates' card o = answer fates card o := by
    intro card o q hq
    have hle := exec_time_le hq
    rw [answer_time] at hle
    rw [answer, answer, hfates card.time hle]
  induction p generalizing card with
  | ret b => exact h
  | op o k ih =>
    rw [Prog.exec] at h ⊢
    rw [hstep o h]
    exact ih _ h
  | poll o again k ih =>
    rw [Prog.exec] at h ⊢
    split at h
    · cases h
    · rw [hstep o h, if_neg ‹_›]
      exact ih _ h

end SdCard

section Safe

variable (fates : Fates) (desc : SdDesc) (stack : SdStack) (mem data : Buffer) (address len : UInt64)

/-- No block that the card is given changes a byte outside the range, and the write fails when a
block that it needs is not read. -/
structure WritesSafely : Prop where
  neighbours : ∀ ret card, (sdWrite desc stack data address len).exec (answer fates)
      (inserted mem) = some (ret, card) →
    ∀ p ∈ card.sent, ∀ k < 512,
      ¬(address.toNat ≤ 512 * p.1 + k ∧ 512 * p.1 + k < address.toNat + len.toNat) →
        p.2 k = mem (512 * p.1 + k)
  failure : ∀ ret card, (sdWrite desc stack data address len).exec (answer fates)
      (inserted mem) = some (ret, card) →
    ∀ r card', (readBacks desc stack address len).exec (answer fates) (inserted mem) =
      some (r, card') → ¬(r.1.ret = SUCCESS ∧ r.2.ret = SUCCESS) → ret = FAILURE

end Safe

/-- On a card whose first transfer fails, garbage of the stack is written over 511 bytes. -/
lemma sdWrite_garbage :
    ((sdWrite .smallest { SdStack.zero with firstBlock := filled 0xAA } (filled 1) 0 1).exec
      (answer fun t p => if t = 0 then ⟨false, filled 0xFF⟩ else p.fate)
      (inserted (filled 0))).map (fun r => (r.1, r.2.sent.map fun p => (p.1, p.2 0, p.2 1))) =
        some (SUCCESS, [(0, 1, 0xAA)]) := by
  decide

theorem sd_write_corrupts : ¬∀ fates desc stack mem data address len,
    WritesSafely fates desc stack mem data address len := by
  intro h
  have hsafe := (h (fun t p => if t = 0 then ⟨false, filled 0xFF⟩ else p.fate) .smallest
    { SdStack.zero with firstBlock := filled 0xAA } (filled 0) (filled 1) 0 1).neighbours
  obtain ⟨⟨ret, card⟩, hexec, hout⟩ := Option.map_eq_some_iff.mp sdWrite_garbage
  obtain ⟨p, hp, hbytes⟩ : ∃ p ∈ card.sent, (p.1, p.2 0, p.2 1) = (0, (1 : UInt8), (0xAA : UInt8)) := by
    have hmem : (0, (1 : UInt8), (0xAA : UInt8)) ∈
        card.sent.map (fun p : ℕ × Buffer => (p.1, p.2 0, p.2 1)) := by
      rw [(Prod.mk.inj hout).2]
      exact List.mem_singleton_self _
    exact List.mem_map.mp hmem
  obtain ⟨hblock, -, hbyte⟩ : p.1 = 0 ∧ p.2 0 = 1 ∧ p.2 1 = 0xAA := by
    simpa only [Prod.mk.injEq] using hbytes
  have hkept := hsafe ret card hexec p hp 1 (by decide) (by
    rw [hblock]
    decide)
  rw [hbyte] at hkept
  exact absurd hkept (by decide : (0xAA : UInt8) ≠ 0)

/-- Whatever happens to the transfers after it, a write is safe exactly when the blocks that it
needs were read, or when it is refused. -/
theorem sd_write_safe_iff {desc : SdDesc} {stack : SdStack} {mem data : Buffer}
    {address len : UInt64} {r : IoResult × IoResult}
    (hread : (readBacks desc stack address len).exec (answer fates) (inserted mem) =
      some (r, card)) :
    (∀ fates', (∀ t < card.time, fates' t = fates t) →
      WritesSafely fates' desc stack mem data address len) ↔
      desc.Refuses address len ∨ r.1.ret = SUCCESS ∧ r.2.ret = SUCCESS := by
  by_cases hrefuses : desc.Refuses address len
  · have hexec : ∀ fates', (sdWrite desc stack data address len).exec (answer fates')
        (inserted mem) = some (FAILURE, inserted mem) := by
      intro fates'
      rw [sdWrite, if_pos hrefuses]
      rfl
    refine ⟨fun _ => Or.inl hrefuses, fun _ fates' _ => ⟨fun ret card' h p hp => ?_, fun ret card' h => ?_⟩⟩
    · rw [hexec] at h
      obtain ⟨-, rfl⟩ := Prod.mk.inj (Option.some.inj h)
      exact absurd hp List.not_mem_nil
    · rw [hexec] at h
      exact fun _ _ _ _ => (Prod.mk.inj (Option.some.inj h)).1.symm
  have hcard := (SdDesc.add_le_of_not_refuses hrefuses).trans desc.toNat_memorySize.1
  obtain ⟨hreads, hfilled, -⟩ := (yields_readBacks hrefuses stack).of_exec hread
  have hnone : card.sent = [] := hreads.sent
  have hmem : card.mem = mem := hreads.mem
  have hrest := fun fates' => @yields_sdWriteRest fates' card _ _ hcard stack r.1.data r.2.data data
    (fun _ p hp => by
      rw [hnone] at hp
      exact absurd hp List.not_mem_nil)
  have hwrite : ∀ fates', (∀ t < card.time, fates' t = fates t) →
      (sdWrite desc stack data address len).exec (answer fates') (inserted mem) =
        (sdWriteRest stack r.1.data r.2.data data address len).exec (answer fates') card := by
    intro fates' hagree
    rw [sdWrite_eq hrefuses, Prog.exec_bind, exec_congr hread hagree]
    rfl
  constructor
  · intro hsafe
    refine Or.inr (by_contra fun hfail => ?_)
    -- the transfers after the failure succeed
    have hagree : ∀ t < card.time,
        (fun t p => if t < card.time then fates t p else p.fate : Fates) t = fates t := by
      intro t ht
      funext p
      exact if_pos ht
    obtain ⟨ret, card', hexec, -, hreport⟩ :=
      hrest (fun t p => if t < card.time then fates t p else p.fate)
    have hfailure := (hsafe _ hagree).failure ret card' ((hwrite _ hagree).trans hexec) r card
      (exec_congr hread hagree) hfail
    rcases hreport with ⟨hret, -⟩ | ⟨-, hbad⟩
    · rw [hret] at hfailure
      exact absurd hfailure (by decide)
    · refine hbad fun t ht p => ?_
      exact if_neg (by omega)
  · rintro (hrefused | hok) fates' hagree
    · exact absurd hrefused hrefuses
    have hfilled := hfilled (Or.inl hok)
    rw [← hreads.mem] at hfilled
    refine ⟨fun ret card' h p hp k hk hout => ?_, fun ret card' h r' card₁ hr hfail => ?_⟩
    · rw [hwrite fates' hagree] at h
      obtain ⟨hsent, -⟩ := (hrest fates').of_exec h
      rw [hsent hfilled p hp k hk, rewritten, memcpy, if_neg hout, hmem]
    · rw [exec_congr hread hagree] at hr
      obtain ⟨rfl, -⟩ := Prod.mk.inj (Option.some.inj hr)
      exact absurd hok hfail

/-- A card whose bytes show their address -/
def numbered : Buffer := fun x => UInt8.ofNat x

/-- For the bytes 100 to 699 the first and the last block are read back. -/
lemma readBacks_across :
    ((readBacks .smallest .zero 100 600).exec (answer flawless) (inserted numbered)).map
      (fun r => (r.1.1.ret, r.1.2.ret, r.2.events)) =
        some (SUCCESS, SUCCESS, readTranscript 0 1 ++ readTranscript 1 1) := by
  decide

/-- 600 bytes over two blocks that are both read back: the write is safe whatever happens to the transfers after
the read-backs. -/
theorem sd_write_safe_across : ∃ r card,
    (readBacks .smallest .zero 100 600).exec (answer flawless) (inserted numbered) = some (r, card) ∧
      card.events = readTranscript 0 1 ++ readTranscript 1 1 ∧
      ∀ fates', (∀ t < card.time, fates' t = flawless t) →
        WritesSafely fates' .smallest .zero numbered (filled 1) 100 600 := by
  obtain ⟨⟨r, card⟩, hexec, hout⟩ := Option.map_eq_some_iff.mp readBacks_across
  obtain ⟨hfirst, hlast, hevents⟩ : r.1.ret = SUCCESS ∧ r.2.ret = SUCCESS ∧
      card.events = readTranscript 0 1 ++ readTranscript 1 1 := by
    simpa only [Prod.mk.injEq] using hout
  exact ⟨r, card, hexec, hevents, (sd_write_safe_iff hexec).mpr (Or.inr ⟨hfirst, hlast⟩)⟩

end NoOS
