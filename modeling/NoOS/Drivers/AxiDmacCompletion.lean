import NoOS.Drivers.AxiDmac

/-!
# The end of a transfer

`transfer_done` is set by each end of transfer and never cleared. It tells the truth as long
as no transfer is started once it is set, and each end of transfer is the one of the last
burst.
-/

namespace NoOS
open Access

/-- A running call of the main program. -/
structure DmacCall where
  /-- A blocking transfer of more than `transfer_max_size` -/
  big : Bool
  prog : DmacProg Int

structure DmaSystem where
  dma : Dma
  call : Option DmacCall := none

inductive DmaEvent
  | nonblocking (address size : UInt32)
  | transfer (address size : UInt32)
  /-- The running call does one access or returns. -/
  | access (value : UInt32)
  | irq (regVal : UInt32)
deriving DecidableEq, Repr

/-- More than `transfer_max_size` -/
def AxiDmac.isBig (dmac : AxiDmac) (size : UInt32) : Bool :=
  decide (size ≠ 0 ∧ dmac.transferMaxSize < size - 1)

/-- Some burst was started, and all of them have ended. -/
def Dma.Finished (d : Dma) : Prop :=
  d.core.bursts ≠ [] ∧ d.core.queued = 0 ∧ d.core.running = 0

/-- Whether an access starts a burst. -/
def DmacOp.starts : DmacOp → Bool
  | .write .startTransfer data => data &&& 1 != 0
  | _ => false

namespace DmaSystem

/-- The main program makes one call at a time. -/
def enter (s : DmaSystem) (call : DmacCall) : DmaSystem :=
  { s with call := some (s.call.getD call) }

def step (s : DmaSystem) : DmaEvent → DmaSystem
  | .nonblocking address size =>
    s.enter ⟨false, axiDmacTransferNonblocking s.dma.dmac address size⟩
  | .transfer address size =>
    s.enter ⟨s.dma.dmac.isBig size, axiDmacTransfer s.dma.dmac address size⟩
  | .access value =>
    match s.call with
    | none => s
    | some c =>
      match c.prog.next with
      | none => { s with call := none }
      | some _ =>
        let r := c.prog.step (Dma.answer value) s.dma
        ⟨r.2, some { c with prog := r.1 }⟩
  | .irq regVal => { s with dma := s.dma.interrupt regVal }

/-- A blocking big transfer is about to return SUCCESS. -/
def Returns (s : DmaSystem) : Prop := ∃ c ∈ s.call, c.big = true ∧ c.prog = .ret SUCCESS

/-- A transfer that is reported as done has ended. -/
def Honest (s : DmaSystem) : Prop :=
  ((axiDmacIsTransferReady s.dma.dmac).2 = true ∨ s.Returns) → s.dma.Finished

/-- A burst is started only while `transfer_done` is clear, and the burst that ends is the
only one, where the handler does not queue another one. -/
def Allowed (s : DmaSystem) : DmaEvent → Prop
  | .access _ => (∃ c ∈ s.call, ∃ o ∈ c.prog.next, o.starts = true) →
      s.dma.dmac.bigTransfer.transferDone = false
  | .irq regVal => s.dma.core.raisesEot regVal = true →
      s.dma.core.queued + s.dma.core.running + (s.dma.queues regVal).toNat = 1
  | _ => True

end DmaSystem

namespace Dma

variable {d : Dma} {v : UInt32} {o : DmacOp}

lemma answer_transferDone : ((answer v d o).2).dmac.bigTransfer.transferDone =
    d.dmac.bigTransfer.transferDone := by
  cases o <;> rfl

lemma raises_nothing (h : d.Finished) :
    d.core.raisesSot v = false ∧ d.core.raisesEot v = false := by
  have hsot : d.core.raisesSot v = false := by simp [DmacCore.raisesSot, h.2.1]
  exact ⟨hsot, by simp [DmacCore.raisesEot, hsot, h.2.2]⟩

/-- After the last burst nothing happens until another one is started. -/
lemma Finished.answer (h : d.Finished) (ho : o.starts = false) : (Dma.answer v d o).2.Finished := by
  cases o with
  | write reg data =>
    cases reg with
    | irqPending =>
      obtain ⟨hsot, heot⟩ := raises_nothing (v := data) h
      simpa [Dma.answer, Dma.write, DmacCore.write, DmacCore.acknowledge, hsot, heot] using h
    | startTransfer =>
      have hdata : data &&& 1 = 0 := by simpa [DmacOp.starts] using ho
      simpa [Dma.answer, Dma.write, DmacCore.write, hdata] using h
    | ctrl =>
      simp only [Dma.answer, Dma.write, DmacCore.write]
      split
      · exact h
      · simp only [DmacCore.disable]
        split
        · exact ⟨h.1, rfl, rfl⟩
        · exact h
    | _ => exact h
  | _ => exact h

lemma answer_starts (ho : o.starts = true) : ¬(answer v d o).2.Finished := by
  cases o with
  | write reg data =>
    cases reg with
    | startTransfer =>
      have hdata : data &&& 1 ≠ 0 := by simpa [DmacOp.starts] using ho
      simp [Finished, Dma.answer, Dma.write, DmacCore.write, hdata, DmacCore.start]
    | _ => cases ho
  | _ => cases ho

lemma interrupt_transferDone : (d.interrupt v).dmac.bigTransfer.transferDone =
    (d.core.raisesEot v || d.dmac.bigTransfer.transferDone) := by
  rw [interrupt_eq]
  cases d.queues v <;> cases d.core.raisesEot v <;> simp [queueBurst_dmac]

lemma interrupt_flight :
    (d.interrupt v).core.queued + (d.interrupt v).core.running + (d.core.raisesEot v).toNat =
      d.core.queued + d.core.running + (d.queues v).toNat := by
  have hsot : d.core.raisesSot v = true → 0 < d.core.queued :=
    fun h => (DmacCore.raisesSot_iff.mp h).2
  have heot : d.core.raisesEot v = true → d.core.raisesSot v = true ∨ 0 < d.core.running :=
    fun h => (DmacCore.raisesEot_iff.mp h).2
  have hack : (d.core.acknowledge v).queued + (d.core.acknowledge v).running +
      (d.core.raisesEot v).toNat = d.core.queued + d.core.running := by
    simp only [DmacCore.acknowledge]
    cases h : d.core.raisesSot v <;> cases h' : d.core.raisesEot v <;>
      simp only [h, h', Bool.toNat_true, Bool.toNat_false, forall_const, Bool.false_eq_true,
        false_or, true_or] at * <;> lia
  rw [interrupt_eq]
  cases d.queues v <;> cases h : d.core.raisesEot v <;>
    simp only [h, cond_true, cond_false, queueBurst_queued, queueBurst_running, Bool.toNat_true,
      Bool.toNat_false] at * <;> lia

lemma Finished.interrupt (h : d.Finished) : (d.interrupt v).Finished := by
  obtain ⟨hsot, heot⟩ := raises_nothing (v := v) h
  have hq : d.queues v = false := by simp [queues, hsot]
  have hflight := interrupt_flight (d := d) (v := v)
  obtain ⟨t, ht⟩ := interrupt_append d v
  obtain ⟨hne, hqueued, hrunning⟩ := h
  rw [heot, hq, Bool.toNat_false] at hflight
  refine ⟨?_, by lia, by lia⟩
  rw [ht]
  exact List.append_ne_nil_of_left_ne_nil hne t

/-- Bursts in flight were started. -/
def Started (d : Dma) : Prop := 0 < d.core.queued + d.core.running → d.core.bursts ≠ []

lemma Started.answer (h : d.Started) : (Dma.answer v d o).2.Started := by
  cases o with
  | write reg data =>
    cases reg with
    | irqPending =>
      intro hpos
      refine h ?_
      have hsot : d.core.raisesSot data = true → 0 < d.core.queued :=
        fun h => (DmacCore.raisesSot_iff.mp h).2
      simp only [Dma.answer, Dma.write, DmacCore.write, DmacCore.acknowledge] at hpos
      cases hs : d.core.raisesSot data with
      | false =>
        rw [hs, Bool.toNat_false] at hpos
        lia
      | true => exact Nat.add_pos_left (hsot hs) _
    | startTransfer =>
      simp only [Dma.answer, Dma.write, DmacCore.write]
      split
      · exact fun _ => List.append_ne_nil_of_right_ne_nil _ (List.cons_ne_nil _ _)
      · exact h
    | ctrl =>
      simp only [Dma.answer, Dma.write, DmacCore.write]
      split
      · exact h
      · simp only [DmacCore.disable]
        split
        · exact fun h0 => absurd h0 (Nat.lt_irrefl 0)
        · exact h
    | _ => exact h
  | _ => exact h

lemma Started.interrupt (h : d.Started) : (d.interrupt v).Started := by
  intro hpos
  have hflight := interrupt_flight (d := d) (v := v)
  have hq : d.queues v = true → 0 < d.core.queued := fun hq => by
    simp only [queues, Bool.and_eq_true] at hq
    exact (DmacCore.raisesSot_iff.mp hq.1).2
  have hne : d.core.bursts ≠ [] := by
    refine h ?_
    cases hqueues : d.queues v with
    | true => exact Nat.add_pos_left (hq hqueues) _
    | false =>
      rw [hqueues, Bool.toNat_false] at hflight
      lia
  obtain ⟨t, ht⟩ := interrupt_append d v
  rw [ht]
  exact List.append_ne_nil_of_left_ne_nil hne t

lemma Started.ended (h : d.Started) (heot : d.core.raisesEot v = true) : d.core.bursts ≠ [] := by
  refine h ?_
  rcases (DmacCore.raisesEot_iff.mp heot).2 with hsot | hpos
  · exact Nat.add_pos_left (DmacCore.raisesSot_iff.mp hsot).2 _
  · exact Nat.add_pos_right _ hpos

end Dma

/-- `transfer_done` is loaded and set. -/
def SeesDone (o : DmacOp) (r : DmacAnswer) : Prop := o = .loadDone ∧ r.transferDone = true

def StartsNothing (o : DmacOp) : Prop := o.starts = false

def Waits (p : DmacProg Int) : Prop := p.Unseen SeesDone StartsNothing (· ≠ SUCCESS)

lemma waits_waitTransferDone (n : ℕ) : Waits (waitTransferDone n) := by
  induction n with
  | zero => exact fun h => absurd h (by decide)
  | succ n ih =>
    intro r
    let next : DmacProg Int :=
      if r.transferDone = true then do
        setBigTransfer 0 0 0
        return SUCCESS
      else waitTransferDone n
    change SeesDone .loadDone r ∧ next.Only StartsNothing ∨ Waits next
    by_cases hdone : r.transferDone = true
    · simp only [next, if_pos hdone]
      exact Or.inl ⟨⟨rfl, hdone⟩, rfl, fun _ => ⟨rfl, fun _ => ⟨rfl, fun _ => trivial⟩⟩⟩
    · simp only [next, if_neg hdone]
      exact Or.inr ih

lemma waits_axiDmacTransfer {dmac : AxiDmac} {size : UInt32} (h : dmac.isBig size = true)
    (address : UInt32) : Waits (axiDmacTransfer dmac address size) := by
  obtain ⟨hsize, hbig⟩ := of_decide_eq_true h
  rw [axiDmacTransfer, if_neg hsize]
  refine Prog.unseen_bind _ fun _ => Prog.unseen_bind _ fun _ => Prog.unseen_bind _ fun _ =>
    Prog.unseen_bind _ fun _ => Prog.unseen_bind _ fun _ => ?_
  rw [if_pos hbig]
  exact Prog.unseen_bind _ fun _ => Prog.unseen_bind _ fun _ => waits_waitTransferDone _

namespace DmaSystem

/-- `transfer_done` is set only after the last burst, and so is the state of a big transfer
that has seen it. -/
structure Sound (s : DmaSystem) : Prop where
  started : s.dma.Started
  ready : s.dma.dmac.bigTransfer.transferDone = true → s.dma.Finished
  call : ∀ c ∈ s.call, c.big = true → Waits c.prog ∨ (s.dma.Finished ∧ c.prog.Only StartsNothing)

variable {s : DmaSystem}

lemma Sound.honest (h : s.Sound) : s.Honest := by
  rintro (hdone | ⟨c, hc, hbig, hret⟩)
  · exact h.ready hdone
  · rcases h.call c hc hbig with hwait | ⟨hfin, -⟩
    · rw [hret] at hwait
      exact absurd rfl hwait
    · exact hfin

lemma Sound.enter (h : s.Sound) {c : DmacCall} (hc : c.big = true → Waits c.prog) :
    (s.enter c).Sound where
  started := h.started
  ready := h.ready
  call := by
    intro c' hc' hbig
    cases hcall : s.call with
    | none =>
      simp only [DmaSystem.enter, hcall, Option.getD_none, Option.mem_some_iff] at hc'
      subst hc'
      exact Or.inl (hc hbig)
    | some c'' =>
      simp only [DmaSystem.enter, hcall, Option.getD_some, Option.mem_some_iff] at hc'
      subst hc'
      exact h.call c'' hcall hbig

lemma step_access {c : DmacCall} {o : DmacOp} (hc : s.call = some c) (ho : c.prog.next = some o)
    (v : UInt32) : s.step (.access v) =
      ⟨(Dma.answer v s.dma o).2, some { c with prog := (c.prog.step (Dma.answer v) s.dma).1 }⟩ := by
  simp only [step, hc, ho, Prog.step_snd ho]

lemma Sound.access (h : s.Sound) {v : UInt32} (ha : s.Allowed (.access v)) :
    (s.step (.access v)).Sound := by
  cases hc : s.call with
  | none => simpa only [step, hc] using h
  | some c =>
    cases ho : c.prog.next with
    | none =>
      simp only [step, hc, ho]
      exact ⟨h.started, h.ready, fun c' hc' => by cases hc'⟩
    | some o =>
      have hquiet : s.dma.Finished → s.dma.dmac.bigTransfer.transferDone = true → o.starts = false :=
        fun _ hdone => by
          by_contra hstarts
          have hclear := ha ⟨c, hc, o, ho, Bool.eq_true_of_not_eq_false hstarts⟩
          rw [hdone] at hclear
          cases hclear
      rw [step_access hc ho]
      refine ⟨h.started.answer, ?_, ?_⟩
      · intro hdone
        rw [Dma.answer_transferDone] at hdone
        have hfin := h.ready hdone
        exact hfin.answer (hquiet hfin hdone)
      · intro c' hc' hbig
        obtain rfl := Option.some.inj hc'
        rcases h.call c hc hbig with hwait | ⟨hfin, honly⟩
        · rcases Prog.Unseen.step hwait with hwait | ⟨o', ho', ⟨rfl, hseen⟩, honly⟩
          · exact Or.inl hwait
          · obtain rfl : o = .loadDone := Option.some.inj (ho.symm.trans ho')
            exact Or.inr ⟨(h.ready hseen).answer rfl, honly⟩
        · exact Or.inr ⟨hfin.answer (honly.next ho), honly.step⟩

lemma Sound.irq (h : s.Sound) {v : UInt32} (ha : s.Allowed (.irq v)) :
    (s.step (.irq v)).Sound where
  started := h.started.interrupt
  ready := by
    intro hdone
    have hdone' : s.dma.core.raisesEot v = true ∨ s.dma.dmac.bigTransfer.transferDone = true := by
      rw [← Bool.or_eq_true, ← Dma.interrupt_transferDone]
      exact hdone
    rcases hdone' with heot | hset
    · have hflight := Dma.interrupt_flight (d := s.dma) (v := v)
      have hone := ha heot
      have hne := h.started.ended heot
      obtain ⟨t, ht⟩ := Dma.interrupt_append s.dma v
      rw [heot, Bool.toNat_true] at hflight
      refine ⟨?_, ?_, ?_⟩
      · simp only [step, ht]
        exact List.append_ne_nil_of_left_ne_nil hne t
      · simp only [step]
        lia
      · simp only [step]
        lia
    · exact (h.ready hset).interrupt
  call := by
    intro c hc hbig
    rcases h.call c hc hbig with hwait | ⟨hfin, honly⟩
    · exact Or.inl hwait
    · exact Or.inr ⟨hfin.interrupt, honly⟩

lemma Sound.step (h : s.Sound) {e : DmaEvent} (ha : s.Allowed e) : (s.step e).Sound := by
  cases e with
  | nonblocking address size => exact h.enter fun hbig => by cases hbig
  | transfer address size => exact h.enter fun hbig => waits_axiDmacTransfer hbig address
  | access v => exact h.access ha
  | irq v => exact h.irq ha

/-- An event that is not allowed makes the driver report a transfer too early. -/
lemma allowed_of_honest {e : DmaEvent} (h : (s.step e).Honest) : s.Allowed e := by
  cases e with
  | nonblocking address size => trivial
  | transfer address size => trivial
  | access v =>
    rintro ⟨c, hc, o, ho, hstarts⟩
    by_contra hset
    have hdone := Bool.eq_true_of_not_eq_false hset
    rw [step_access hc ho] at h
    refine Dma.answer_starts hstarts (h (Or.inl ?_))
    exact Dma.answer_transferDone.trans hdone
  | irq v =>
    intro heot
    have hflight := Dma.interrupt_flight (d := s.dma) (v := v)
    have hdone : (s.dma.interrupt v).dmac.bigTransfer.transferDone = true := by
      rw [Dma.interrupt_transferDone, heot, Bool.true_or]
    obtain ⟨-, hqueued, hrunning⟩ := h (Or.inl hdone)
    simp only [DmaSystem.step] at hqueued hrunning
    rw [heot, Bool.toNat_true] at hflight
    lia

/-- A controller after `axi_dmac_init` on a core after a reset. -/
def init (direction : DmaDirection) (flags maxLength : UInt32) (uninit : Bool)
    (regs : DmacReg → UInt32) (drops : Bool) : DmaSystem where
  dma := ⟨axiDmacInit direction flags maxLength uninit, .reset regs drops⟩

end DmaSystem

open DmaSystem in
/-- No transfer is reported early if and only if the allocated flag was clear, no burst is
started once it is set, and only last bursts end. -/
theorem dmac_completion_iff (direction : DmaDirection) (flags maxLength : UInt32) (uninit : Bool)
    (regs : DmacReg → UInt32) (drops : Bool) (events : List DmaEvent) :
    Trace.Always DmaSystem.step Honest
        (DmaSystem.init direction flags maxLength uninit regs drops) events ↔
      uninit = false ∧ Trace.Guarded DmaSystem.step Allowed
        (DmaSystem.init direction flags maxLength uninit regs drops) events := by
  cases uninit with
  | true =>
    constructor
    · exact fun h => absurd (h.first (Or.inl rfl)).1 fun hne => hne rfl
    · exact fun h => absurd h.1 (by decide)
  | false =>
    have hsound : (DmaSystem.init direction flags maxLength false regs drops).Sound :=
      ⟨fun h => absurd h (Nat.lt_irrefl 0), fun h => (by cases h), fun c hc => by cases hc⟩
    rw [Trace.always_iff_guarded hsound (fun _ => Sound.honest) (fun _ _ h => h.step)
      (fun _ _ _ => allowed_of_honest)]
    simp only [true_and]

/-- A call that is not interrupted, with `n` accesses. -/
def dmaCall (e : DmaEvent) (n : ℕ) : List DmaEvent := e :: List.replicate n (.access 0)

/-- The second of two transfers is reported when it is started, and a blocking transfer returns
after the first one of its two bursts. -/
theorem dmac_completion_early :
    ¬Trace.Always DmaSystem.step DmaSystem.Honest
        (DmaSystem.init .dmaDevToMem DMA_LAST 15 false (fun _ => 0) true)
        (dmaCall (.nonblocking 0x1000 16) 12 ++ [.irq AXI_DMAC_IRQ_SOT, .irq AXI_DMAC_IRQ_EOT] ++
          dmaCall (.nonblocking 0x2000 16) 8) ∧
      ¬Trace.Always DmaSystem.step DmaSystem.Honest
        (DmaSystem.init .dmaDevToMem DMA_LAST 15 false (fun _ => 0) true)
        (dmaCall (.transfer 0x1000 32) 15 ++ [.irq AXI_DMAC_IRQ_SOT, .irq AXI_DMAC_IRQ_EOT] ++
          List.replicate 4 (.access 0)) := by
  constructor
  · intro h
    exact absurd (h.last (Or.inl rfl)).2.1 (by decide)
  · intro h
    exact absurd (h.last (Or.inr ⟨_, rfl, rfl, rfl⟩)).2.1 (by decide)

end NoOS
