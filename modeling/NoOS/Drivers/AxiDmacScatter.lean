import NoOS.Drivers.AxiDmac
import NoOS.Lib.Word

/-!
# The bursts of a transfer

A transfer that fits into one burst covers its bytes. A longer one never does: the second
burst starts at the address of the first one plus its own length.
-/

namespace NoOS
open Access

/-- The bursts cover `n` bytes from `a` on, one after the other. X_LENGTH is the length minus
one. -/
def Tiles (direction : DmaDirection) : ℕ → ℕ → List Burst → Prop
  | _, n, [] => n = 0
  | a, n, b :: bs => (b.address direction).toNat = a ∧ b.xLength.toNat + 1 ≤ n ∧
      Tiles direction (a + (b.xLength.toNat + 1)) (n - (b.xLength.toNat + 1)) bs

namespace Dma

/-- A call that nothing interrupts. The core is free: the registers that it changes are 0. -/
def call (d : Dma) (p : DmacProg Int) : Option (Int × Dma) := p.exec (answer 0) d

def interrupts (d : Dma) (irqs : List UInt32) : Dma := Trace.run interrupt d irqs

/-- The transfer is started, starts of transfer empty the queue, and whenever interrupts have
emptied the queue the bursts cover the bytes of the transfer. -/
def Scatters (d : Dma) (address size : UInt32) : Prop :=
  ∃ s, d.call (axiDmacTransferNonblocking d.dmac address size) = some (SUCCESS, s) ∧
    (∃ k, (s.interrupts (List.replicate k AXI_DMAC_IRQ_SOT)).core.queued = 0) ∧
    ∀ irqs, (s.interrupts irqs).core.queued = 0 →
      ∃ bursts, (s.interrupts irqs).core.bursts = d.core.bursts ++ bursts ∧
        Tiles d.dmac.direction address.toNat size.toNat bursts

variable {d s : Dma} {address size v : UInt32}

lemma interrupts_append (irqs : List UInt32) :
    ∃ t, (d.interrupts irqs).core.bursts = d.core.bursts ++ t := by
  induction irqs generalizing d with
  | nil => exact ⟨[], (List.append_nil _).symm⟩
  | cons v irqs ih =>
    obtain ⟨t, ht⟩ := interrupt_append d v
    obtain ⟨u, hu⟩ := ih (d := d.interrupt v)
    exact ⟨t ++ u, by rw [← List.append_assoc, ← ht]; exact hu⟩

lemma interrupt_small (h : d.dmac.bigTransfer.size = 0) :
    (d.interrupt v).dmac.bigTransfer.size = 0 ∧
      (d.interrupt v).core = d.core.acknowledge v := by
  have hq : d.queues v = false := by simp [queues, h]
  rw [interrupt_eq, hq]
  cases d.core.raisesEot v with
  | false => exact ⟨h, rfl⟩
  | true => exact ⟨rfl, rfl⟩

lemma interrupts_small (h : d.dmac.bigTransfer.size = 0) (irqs : List UInt32) :
    (d.interrupts irqs).core.bursts = d.core.bursts := by
  induction irqs generalizing d with
  | nil => rfl
  | cons v irqs ih =>
    obtain ⟨hsize, hcore⟩ := interrupt_small (v := v) h
    rw [interrupts, Trace.run_cons]
    exact (ih hsize).trans (by rw [hcore, DmacCore.acknowledge])

lemma interrupts_sot (h : d.dmac.bigTransfer.size = 0) :
    (d.interrupts (List.replicate d.core.queued AXI_DMAC_IRQ_SOT)).core.queued = 0 := by
  generalize hn : d.core.queued = n
  induction n generalizing d with
  | zero => exact hn
  | succ n ih =>
    obtain ⟨hsize, hcore⟩ := interrupt_small (v := AXI_DMAC_IRQ_SOT) h
    have hsot : d.core.raisesSot AXI_DMAC_IRQ_SOT = true :=
      DmacCore.raisesSot_iff.mpr ⟨by decide, by lia⟩
    refine ih hsize ?_
    rw [hcore, DmacCore.acknowledge, hsot, hn]
    rfl

/-- In a big transfer the first start of transfer queues another burst. -/
lemma interrupt_big (h : d.dmac.bigTransfer.size ≠ 0) (hqueued : 0 < d.core.queued) :
    ∃ b : Burst, (d.interrupt AXI_DMAC_IRQ_SOT).core.bursts = d.core.bursts ++ [b] ∧
      b.address d.dmac.direction = d.dmac.bigTransfer.address + burstSize d.dmac := by
  have hsot : d.core.raisesSot AXI_DMAC_IRQ_SOT = true :=
    DmacCore.raisesSot_iff.mpr ⟨by decide, hqueued⟩
  have heot : d.core.raisesEot AXI_DMAC_IRQ_SOT = false := by
    rw [Bool.eq_false_iff]
    exact fun h => absurd (DmacCore.raisesEot_iff.mp h).1 (by decide)
  have hq : d.queues AXI_DMAC_IRQ_SOT = true := by simp [queues, hsot, h]
  obtain ⟨b, hb, haddr, -⟩ := queueBurst_bursts
    (d := { d with core := d.core.acknowledge AXI_DMAC_IRQ_SOT })
  rw [interrupt_eq, hq, heot]
  exact ⟨b, hb, haddr⟩

lemma burstSize_le (dmac : AxiDmac) : (burstSize dmac).toNat ≤ dmac.transferMaxSize.toNat := by
  simp only [burstSize]
  split
  · exact UInt32.le_iff_toNat_le.mp ‹_›
  · exact Nat.le_refl _

lemma exec_enable : ∃ e, axiDmacEnable.exec (answer v) d = some ((), e) ∧ e.dmac = d.dmac ∧
    e.core.bursts = d.core.bursts := by
  refine ⟨((d.write .ctrl 0).write .ctrl AXI_DMAC_CTRL_ENABLE).write .irqMask 0, rfl, rfl, ?_⟩
  change (DmacCore.disable _).bursts = _
  unfold DmacCore.disable
  split <;> rfl

/-- The burst that the address registers and a length make. -/
def programmed (d : Dma) (x : UInt32) : Burst :=
  ⟨d.core.regs .destAddress, d.core.regs .srcAddress, x⟩

lemma exec_setAddress (d : Dma) (address : UInt32) :
    ∃ e, (setAddress d.dmac.direction address).exec (answer v) d = some ((), e) ∧
      e.dmac = d.dmac ∧ e.core.bursts = d.core.bursts ∧
      ∀ x, (e.programmed x).address d.dmac.direction = address := by
  obtain ⟨⟨direction, _, _, _⟩, _⟩ := d
  cases direction with
  | dmaDevToMem => exact ⟨_, rfl, rfl, rfl, fun x => rfl⟩
  | dmaMemToDev => exact ⟨_, rfl, rfl, rfl, fun x => rfl⟩

lemma exec_setBigTransfer (d : Dma) (address size sizeDone : UInt32) :
    (setBigTransfer address size sizeDone).exec (answer v) d = some ((), { d with
      dmac.bigTransfer.address := address
      dmac.bigTransfer.size := size
      dmac.bigTransfer.sizeDone := sizeDone }) := rfl

lemma exec_startTransfer (d : Dma) (flags x : UInt32) :
    ∃ s, (startTransfer flags x).exec (answer v) d = some ((), s) ∧ s.dmac = d.dmac ∧
      s.core.bursts = d.core.bursts ++ [d.programmed x] ∧ s.core.queued = d.core.queued + 1 :=
  ⟨_, rfl, rfl, rfl, rfl⟩

/-- What the call programs: the first burst, and the rest of a big transfer. -/
structure Submitted (d s : Dma) (address size : UInt32) (b : Burst) : Prop where
  bursts : s.core.bursts = d.core.bursts ++ [b]
  queued : 0 < s.core.queued
  burst_address : b.address d.dmac.direction = address
  direction : s.dmac.direction = d.dmac.direction
  transferMaxSize : s.dmac.transferMaxSize = d.dmac.transferMaxSize
  big : d.dmac.transferMaxSize < size - 1 → b.xLength = d.dmac.transferMaxSize ∧
    s.dmac.bigTransfer.size = size - 1 ∧ s.dmac.bigTransfer.address = address
  small : ¬d.dmac.transferMaxSize < size - 1 →
    b.xLength = size - 1 ∧ s.dmac.bigTransfer = d.dmac.bigTransfer

lemma exec_submit (d : Dma) (address size : UInt32) :
    ∃ s b, (axiDmacSubmit d.dmac address size).exec (answer 0) d = some (SUCCESS, s) ∧
      d.Submitted s address size b := by
  have hread : (axiDmacRead .startTransfer).exec (answer 0) d = some (0, d) := rfl
  have hfree : ¬(0 : UInt32) &&& 1 ≠ 0 := by decide
  obtain ⟨e, he, hdmac, hbursts, haddr⟩ := exec_setAddress (v := 0) d address
  simp only [axiDmacSubmit, Prog.exec_bind, hread, Option.bind_some, if_neg hfree, he]
  split
  · obtain ⟨s, hs, hsd, hsb, hsq⟩ := exec_startTransfer (v := 0) { e with
      dmac.bigTransfer.address := address
      dmac.bigTransfer.size := size - 1
      dmac.bigTransfer.sizeDone := d.dmac.transferMaxSize } d.dmac.flags d.dmac.transferMaxSize
    refine ⟨s, e.programmed d.dmac.transferMaxSize, ?_, ?_⟩
    · simp only [Prog.exec_bind, exec_setBigTransfer, Option.bind_some, hs]
      rfl
    · exact {
        bursts := by rw [hsb, ← hbursts]; rfl
        queued := by rw [hsq]; exact Nat.succ_pos _
        burst_address := haddr _
        direction := by rw [hsd, ← hdmac]
        transferMaxSize := by rw [hsd, ← hdmac]
        big := fun _ => ⟨rfl, by rw [hsd], by rw [hsd]⟩
        small := fun h => absurd ‹_› h }
  · obtain ⟨s, hs, hsd, hsb, hsq⟩ := exec_startTransfer (v := 0) e d.dmac.flags (size - 1)
    refine ⟨s, e.programmed (size - 1), ?_, ?_⟩
    · simp only [Prog.exec_bind, Option.bind_some, hs]
      rfl
    · exact {
        bursts := by rw [hsb, ← hbursts]
        queued := by rw [hsq]; exact Nat.succ_pos _
        burst_address := haddr _
        direction := by rw [hsd, ← hdmac]
        transferMaxSize := by rw [hsd, ← hdmac]
        big := fun h => absurd h ‹_›
        small := fun _ => ⟨rfl, by rw [hsd, hdmac]⟩ }

lemma call_nonblocking (d : Dma) (address : UInt32) (hsize : size ≠ 0) :
    ∃ s b, d.call (axiDmacTransferNonblocking d.dmac address size) = some (SUCCESS, s) ∧
      d.Submitted s address size b := by
  have hread : (axiDmacRead .ctrl).exec (answer 0) d = some (d.core.regs .ctrl, d) := rfl
  simp only [call, axiDmacTransferNonblocking, if_neg hsize, Prog.exec_bind, hread,
    Option.bind_some]
  split
  · obtain ⟨e, he, hdmac, hbursts⟩ := exec_enable (d := d) (v := 0)
    obtain ⟨s, b, hs, h⟩ := exec_submit e address size
    refine ⟨s, b, ?_, ?_⟩
    · simp only [Prog.exec_bind, he, Option.bind_some]
      rw [← hdmac, hs]
    · obtain ⟨h1, h2, h3, h4, h5, h6, h7⟩ := h
      rw [hdmac] at h3 h4 h5 h6 h7
      rw [hbursts] at h1
      exact ⟨h1, h2, h3, h4, h5, h6, h7⟩
  · exact exec_submit d address size

lemma Submitted.not_tiles {b b' : Burst} {t : List Burst} (h : d.Submitted s address size b)
    (hsize : size ≠ 0)
    (hb' : b'.address d.dmac.direction = s.dmac.bigTransfer.address + burstSize s.dmac) :
    ¬Tiles d.dmac.direction address.toNat size.toNat (b :: b' :: t) := by
  rintro ⟨-, hfit, hnext, hmore, -⟩
  have hlen := Word.toNat_sub_one_add_one hsize
  by_cases hlt : d.dmac.transferMaxSize < size - 1
  · obtain ⟨hx, -, haddr⟩ := h.big hlt
    have hle := burstSize_le s.dmac
    rw [h.transferMaxSize] at hle
    rw [hb', haddr, UInt32.toNat_add, hx] at hnext
    have ha := address.toNat_lt
    have hm := d.dmac.transferMaxSize.toNat_lt
    lia
  · obtain ⟨hx, -⟩ := h.small hlt
    rw [hx] at hmore
    lia

/-- A big transfer, or one that is left over, makes the first start of transfer go wrong. -/
lemma Submitted.not_scatters {b : Burst} (h : d.Submitted s address size b) (hsize : size ≠ 0)
    (hcall : d.call (axiDmacTransferNonblocking d.dmac address size) = some (SUCCESS, s))
    (hbig : s.dmac.bigTransfer.size ≠ 0) : ¬d.Scatters address size := by
  rintro ⟨s', hs', ⟨k, hk⟩, htiles⟩
  obtain rfl : s = s' := by
    rw [hcall] at hs'
    exact (Prod.mk.inj (Option.some.inj hs')).2
  obtain ⟨bursts, hbursts, ht⟩ := htiles _ hk
  cases k with
  | zero => exact absurd hk h.queued.ne'
  | succ k =>
    obtain ⟨b', hb', haddr⟩ := interrupt_big hbig h.queued
    obtain ⟨t, happ⟩ := interrupts_append (d := s.interrupt AXI_DMAC_IRQ_SOT)
      (List.replicate k AXI_DMAC_IRQ_SOT)
    rw [List.replicate_succ, interrupts, Trace.run_cons] at hbursts
    rw [interrupts, hb', h.bursts] at happ
    rw [happ, List.append_assoc, List.append_assoc, List.append_cancel_left_eq] at hbursts
    subst hbursts
    exact h.not_tiles hsize (h.direction ▸ haddr) ht

lemma Submitted.scatters {b : Burst} (h : d.Submitted s address size b) (hsize : size ≠ 0)
    (hcall : d.call (axiDmacTransferNonblocking d.dmac address size) = some (SUCCESS, s))
    (hzero : s.dmac.bigTransfer.size = 0) (hx : b.xLength = size - 1) :
    d.Scatters address size := by
  refine ⟨s, hcall, ⟨_, interrupts_sot hzero⟩, fun irqs _ => ⟨[b], ?_, ?_⟩⟩
  · rw [interrupts_small hzero, h.bursts]
  · have hlen : b.xLength.toNat + 1 = size.toNat := by
      rw [hx, Word.toNat_sub_one_add_one hsize]
    exact ⟨congrArg UInt32.toNat h.burst_address, hlen.le, by rw [hlen]; exact Nat.sub_self _⟩

end Dma

/-- A transfer is scattered right if and only if it fits into one burst and no big transfer
is left over from before. -/
theorem dmac_scatters_iff (d : Dma) (address size : UInt32) (hsize : size ≠ 0) :
    d.Scatters address size ↔
      size - 1 ≤ d.dmac.transferMaxSize ∧ d.dmac.bigTransfer.size = 0 := by
  obtain ⟨s, b, hcall, h⟩ := d.call_nonblocking address hsize
  by_cases hlt : d.dmac.transferMaxSize < size - 1
  · have hpos : size - 1 ≠ 0 := fun h0 => by
      rw [h0, UInt32.lt_iff_toNat_lt] at hlt
      exact absurd hlt (Nat.not_lt_zero _)
    have hnot := h.not_scatters hsize hcall (by rw [(h.big hlt).2.1]; exact hpos)
    simp only [hnot, UInt32.not_le.mpr hlt, false_and]
  · obtain ⟨hx, hbig⟩ := h.small hlt
    simp only [UInt32.not_lt.mp hlt, true_and]
    constructor
    · intro hs
      by_contra hzero
      exact h.not_scatters hsize hcall (by rw [hbig]; exact hzero) hs
    · intro hzero
      exact h.scatters hsize hcall (by rw [hbig]; exact hzero) hx

/-- A controller whose bursts have at most 16 bytes. -/
def dmaSixteen : Dma := ⟨axiDmacInit .dmaDevToMem DMA_LAST 15 false, .reset (fun _ => 0) true⟩

theorem dmac_scatters_sixteen : dmaSixteen.Scatters 0x1000 16 :=
  (dmac_scatters_iff dmaSixteen 0x1000 16 (by decide)).mpr (by decide)

/-- Of 32 bytes, the second burst starts on the last byte of the first one. -/
theorem dmac_scatters_overlap :
    ((dmaSixteen.call (axiDmacTransferNonblocking dmaSixteen.dmac 0x1000 32)).map fun r =>
        (r.2.interrupts [AXI_DMAC_IRQ_SOT]).core.bursts.map fun b => (b.destAddress, b.xLength)) =
      some [(0x1000, 15), (0x100F, 15)] ∧ ¬dmaSixteen.Scatters 0x1000 32 := by
  refine ⟨rfl, ?_⟩
  obtain ⟨s, b, hcall, h⟩ := dmaSixteen.call_nonblocking 0x1000 (by decide : (32 : UInt32) ≠ 0)
  refine h.not_scatters (by decide) hcall ?_
  rw [(h.big (by decide)).2.1]
  decide

end NoOS
