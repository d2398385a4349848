import NoOS.Network.AtParserHeader
import NoOS.Network.AtRunCmd

/-!
# What the parts of a command leave alone

The interrupts change neither `multiple_conections` nor the type of a connection, and only
`AT_SEND` makes the callback wait for a '>'.
-/

namespace NoOS

/-- What an interrupt does not do. -/
structure AtDesc.IrqFrame (desc desc' : AtDesc) : Prop where
  multipleConections : desc'.multipleConections = desc.multipleConections
  waitingSend : desc'.callbackOperation = .waitingSend → desc.callbackOperation = .waitingSend
  errors : desc'.errors = desc.errors ∨ desc'.errors = desc.errors ||| AT_ERROR_UART ∨
    desc'.errors = desc.errors ||| AT_ERROR_INTERNAL_BUFFER_OVERFLOW

lemma AtDesc.IrqFrame.congr {desc desc₁ desc' : AtDesc} (h : desc₁.IrqFrame desc')
    (hmul : desc₁.multipleConections = desc.multipleConections)
    (hop : desc₁.callbackOperation = .waitingSend → desc.callbackOperation = .waitingSend)
    (herr : desc₁.errors = desc.errors) : desc.IrqFrame desc' :=
  ⟨h.multipleConections.trans hmul, fun hw => hop (h.waitingSend hw), herr ▸ h.errors⟩

variable {s s' : AtSystem} {newCb : Option CbRef} {ch : UInt8}

lemma startConnRead_frame {isNew : Bool} (h : startConnRead s isNew newCb = .ok s') :
    s.desc.IrqFrame s'.desc := by
  obtain ⟨i, conn, -, hdesc, -⟩ := startConnRead_ok h
  rw [hdesc]
  exact ⟨rfl, id, .inl rfl⟩

lemma readingResponses_frame (h : readingResponses s newCb = .ok s') : s.desc.IrqFrame s'.desc := by
  unfold readingResponses at h
  split at h
  · cases h
  next d hpay =>
    have hsame := isPayloadMessage_same hpay
    exact (startConnRead_frame h).congr hsame.multipleConections nofun hsame.errors
  next d hpay =>
    have hsame := isPayloadMessage_same hpay
    have hmul := hsame.multipleConections
    have herr := hsame.errors
    have hkeep : s.desc.IrqFrame d := ⟨hmul, fun hw => hsame.callbackOperation ▸ hw, .inl herr⟩
    split at h
    · obtain rfl := Except.ok.inj h
      exact ⟨hmul, nofun, .inl herr⟩
    split at h
    · obtain rfl := Except.ok.inj h
      refine ⟨hmul, hkeep.waitingSend, .inr (.inr ?_)⟩
      rw [← herr]
      rfl
    split at h
    · cases h
    next d' hasync =>
      have hsame := isAsyncMessages_sameIpd hasync
      obtain rfl := Except.ok.inj h
      exact ⟨hsame.multipleConections.trans hmul, fun hw => hkeep.waitingSend
        (hsame.callbackOperation ▸ hw), .inl (hsame.errors.trans herr)⟩
    next d' hasync =>
      have hsame := isAsyncMessages_sameIpd hasync
      split at h
      · cases h
      next d'' happend =>
        obtain ⟨-, rfl⟩ := AtDesc.append_ok happend
        obtain rfl := Except.ok.inj h
        exact ⟨hsame.multipleConections.trans hmul, fun hw => hkeep.waitingSend
          (hsame.callbackOperation ▸ hw), .inl (hsame.errors.trans herr)⟩

lemma readingPayload_frame (h : readingPayload s = .ok s') : s.desc.IrqFrame s'.desc := by
  unfold readingPayload at h
  split at h
  · cases h
  next s₁ hend =>
    have hdesc := (endConnRead_ok hend).1
    split at h
    · cases h
    · split at h
      · obtain rfl := Except.ok.inj h
        rw [← hdesc]
        exact ⟨rfl, nofun, .inl rfl⟩
      · exact hdesc ▸ startConnRead_frame h

lemma resettingModule_frame (h : resettingModule s = .ok s') : s.desc.IrqFrame s'.desc := by
  unfold resettingModule at h
  split at h
  · cases h
  next hit idx hmatch =>
    obtain rfl := Except.ok.inj h
    refine ⟨rfl, ?_, .inl rfl⟩
    intro hw
    simp only [readNextChar, uartReadNonblocking] at hw
    split at hw
    · cases hw
    · exact hw

lemma atCallback_frame {event : UartIrq} (h : atCallback s event newCb = .ok s') :
    s.desc.IrqFrame s'.desc := by
  cases event with
  | readDone =>
    simp only [atCallback] at h
    split at h
    · exact resettingModule_frame h
    · exact readingResponses_frame h
    · exact readingResponses_frame h
    · exact readingPayload_frame h
  | error =>
    obtain rfl := Except.ok.inj h
    refine ⟨rfl, id, ?_⟩
    simp only [readNextChar, uartReadNonblocking]
    split
    · exact .inr (.inl rfl)
    · exact .inl rfl

lemma uartReceive_frame (h : uartReceive s ch newCb = .ok s') : s.desc.IrqFrame s'.desc := by
  have hdesc := uartStore_desc s ch
  unfold uartReceive at h
  split at h
  · refine (atCallback_frame h).congr ?_ ?_ ?_
    · rw [hdesc]
    · rw [hdesc]
      exact id
    · rw [hdesc]
  · obtain rfl := Except.ok.inj h
    rw [hdesc]
    exact ⟨rfl, id, .inl rfl⟩

lemma irq_frame {irq : AtIrq} (h : s.step irq.event = .ok s') : s.desc.IrqFrame s'.desc := by
  cases irq with
  | receive ch newCb => exact uartReceive_frame h
  | error =>
    change atCallback s .error none = .ok s' at h
    exact atCallback_frame h

/-- An event of the command thread other than a new connection type. -/
def AtEvent.Internal : AtEvent → Prop
  | .receive _ _ | .uartError | .setMultiple _ => False
  | _ => True

/-- What waiting keeps, if the interrupts and the events of the thread do. -/
structure AtDriver.WaitKept (R : AtDriver → AtDriver → Prop) : Prop where
  refl : ∀ d, R d d
  trans : ∀ {a b c}, R a b → R b c → R a c
  interrupt : ∀ {d d' irq}, d.interrupt irq = .ok d' → R d d'
  step : ∀ {d d'} e, AtEvent.Internal e → d.step e = .ok d' → R d d'
  arrivals : ∀ d irqs, R d { d with arrivals := irqs }

/-- An event that sets a variable of the parser. -/
def AtEvent.Sets : AtEvent → Prop
  | .resetModule | .resetDone | .waitSend | .clearResult | .clearErrors => True
  | _ => False

/-- What the loops of a command keep, a wait for a response taken as one step. -/
structure AtDriver.LoopKept (R : AtDriver → AtDriver → Prop) : Prop where
  refl : ∀ d, R d d
  trans : ∀ {a b c}, R a b → R b c → R a c
  interrupts : ∀ {d d' irqs}, d.interrupts irqs = .ok d' → R d d'
  mdelay : ∀ {d d'}, d.mdelay = .ok d' → R d d'
  waitForResponse : ∀ {d d' late ret}, d.waitForResponse late = .ok (ret, d') → R d d'
  set : ∀ {d d'} e, AtEvent.Sets e → d.step e = .ok d' → R d d'

/-- What a command keeps. -/
structure AtDriver.CallKept (R : AtDriver → AtDriver → Prop) : Prop extends AtDriver.LoopKept R where
  thread : ∀ {d d'}, d'.sys = d.sys → d'.connType = d.connType → d'.prompted = d.prompted → R d d'

/-- What every part of a command keeps. -/
structure AtDriver.Kept (R : AtDriver → AtDriver → Prop) : Prop extends AtDriver.WaitKept R where
  thread : ∀ {d d'}, d'.sys = d.sys → d'.connType = d.connType → d'.prompted = d.prompted → R d d'

lemma bind_eq_ok {φ α β : Type} {x : Except φ α} {f : α → Except φ β} {b : β} :
    x >>= f = .ok b ↔ ∃ a, x = .ok a ∧ f a = .ok b := by
  cases x with
  | error e => exact ⟨nofun, nofun⟩
  | ok a => exact ⟨fun h => ⟨a, rfl, h⟩, fun ⟨_, ha, h⟩ => (Except.ok.inj ha) ▸ h⟩

namespace AtDriver.WaitKept

variable {R : AtDriver → AtDriver → Prop} (hR : AtDriver.WaitKept R) {d d' : AtDriver} {ret : ℤ}

include hR

lemma interrupts {irqs : List AtIrq} (h : d.interrupts irqs = .ok d') : R d d' := by
  induction irqs generalizing d with
  | nil =>
    obtain rfl := Except.ok.inj h
    exact hR.refl d
  | cons irq irqs ih =>
    rw [AtDriver.interrupts] at h
    split at h
    · cases h
    next d₁ hirq => exact hR.trans (hR.interrupt hirq) (ih h)

lemma mdelay (h : d.mdelay = .ok d') : R d d' := by
  unfold AtDriver.mdelay at h
  split at h
  · obtain rfl := Except.ok.inj h
    exact hR.refl d
  next irqs arrivals harrivals =>
    exact hR.trans (hR.arrivals d arrivals) (hR.interrupts h)

lemma pollResponses {timeout : ℕ} {hit : Option ℕ} (h : AtDriver.pollResponses timeout d = .ok (hit, d')) :
    R d d' := by
  induction timeout generalizing d with
  | zero =>
    obtain ⟨-, rfl⟩ := Prod.mk.inj (Except.ok.inj h)
    exact hR.refl d
  | succ timeout ih =>
    rw [AtDriver.pollResponses] at h
    obtain ⟨d₁, hpoll, h⟩ := bind_eq_ok.mp h
    have hfirst : R d d₁ := hR.step .pollWait trivial hpoll
    split at h
    · obtain ⟨-, rfl⟩ := Prod.mk.inj (Except.ok.inj h)
      exact hfirst
    · obtain ⟨d₂, hdelay, h⟩ := bind_eq_ok.mp h
      exact hR.trans (hR.trans hfirst (hR.mdelay hdelay)) (ih h)

lemma waitForResponse {late : WaitIrqs} (h : d.waitForResponse late = .ok (ret, d')) : R d d' := by
  obtain ⟨d₁, hstart, h⟩ := bind_eq_ok.mp h
  obtain ⟨⟨hit, d₂⟩, hpoll, h⟩ := bind_eq_ok.mp h
  obtain ⟨d₃, hcut, h⟩ := bind_eq_ok.mp h
  obtain ⟨d₄, hend, h⟩ := bind_eq_ok.mp h
  obtain ⟨d₅, hdone, h⟩ := bind_eq_ok.mp h
  have hlast : d' = d₅ := by
    split at h
    · exact (Prod.mk.inj (Except.ok.inj h)).2.symm
    · exact (Prod.mk.inj (Except.ok.inj h)).2.symm
    · exact (Prod.mk.inj (Except.ok.inj h)).2.symm
  rw [hlast]
  have hwait : R d d₃ := hR.trans (hR.trans (hR.step .startWait trivial hstart) (hR.pollResponses hpoll))
    (hR.interrupts hcut)
  exact hR.trans (hR.trans hwait (hR.step .endWait trivial hend)) (hR.interrupts hdone)

lemma loop : AtDriver.LoopKept R where
  refl := hR.refl
  trans := hR.trans
  interrupts := hR.interrupts
  mdelay := hR.mdelay
  waitForResponse := hR.waitForResponse
  set e he := hR.step e (by cases e <;> first | exact trivial | exact he.elim)

end AtDriver.WaitKept

namespace AtDriver.LoopKept

variable {R : AtDriver → AtDriver → Prop} (hR : AtDriver.LoopKept R) {d d' : AtDriver} {ret : ℤ}

include hR

lemma busyFor {busy : AtDriver → Bool} {k : ℕ}
    (h : Countdown.BusyFor busy AtDriver.mdelay k d d') : R d d' := by
  have hstep : ∀ s s', R d s → s.mdelay = .ok s' → R d s' :=
    fun s s' hs hdelay => hR.trans hs (hR.mdelay hdelay)
  exact h.preserves (hR.refl d) hstep

lemma preTest {busy : AtDriver → Bool} {n : ℕ} {timeout : UInt32}
    (h : Countdown.preTest busy AtDriver.mdelay n d = .ok (timeout, d')) : R d d' := by
  rcases Countdown.preTest_ok h with ⟨k, -, hbusy, -⟩ | ⟨hbusy, -⟩
  · exact hR.busyFor hbusy
  · exact hR.busyFor hbusy

lemma postTest {busy : AtDriver → Bool} {n : ℕ} {timeout : UInt32}
    (h : Countdown.postTest busy AtDriver.mdelay n d = .ok (timeout, d')) : R d d' := by
  rcases Countdown.postTest_ok h with ⟨k, -, hbusy, -⟩ | ⟨hbusy, -⟩
  · exact hR.busyFor hbusy
  · exact hR.busyFor hbusy

lemma sendHeader {late : WaitIrqs} (h : d.sendHeader late = .ok (ret, d')) : R d d' := by
  obtain ⟨d₁, hsend, h⟩ := bind_eq_ok.mp h
  exact hR.trans (hR.set .waitSend trivial hsend) (hR.waitForResponse h)

end AtDriver.LoopKept

lemma AtDriver.Kept.call {R : AtDriver → AtDriver → Prop} (hR : AtDriver.Kept R) : AtDriver.CallKept R where
  toLoopKept := hR.toWaitKept.loop
  thread := hR.thread

/-- The result of a command that has been answered. -/
def errorsCode (errors : UInt32) : ℤ := if errors = 0 then SUCCESS else (-errors.toInt32).toInt

lemma fillOutput_eq (d : AtDriver) (param : Option InParam) :
    d.fillOutput param = .ok (errorsCode d.desc.errors, { d with
      sys := { d.sys with desc := { d.sys.desc.setResultLen 0 with errors := 0 } }
      appResultBuff := if param.isSome then d.copyResult.appResultBuff else d.appResultBuff
      outLen := if param.isSome then d.desc.result.len else d.outLen }) := by
  unfold AtDriver.fillOutput errorsCode
  by_cases herr : d.desc.errors = 0
  · have hdesc : { d.sys.desc.setResultLen 0 with errors := 0 } = d.sys.desc.setResultLen 0 := by
      change _ = { d.sys.desc.setResultLen 0 with errors := d.sys.desc.errors }
      rw [show d.sys.desc.errors = 0 from herr]
    rw [hdesc, if_pos herr]
    cases param with
    | none => exact if_neg (not_not_intro herr)
    | some p => exact if_neg (not_not_intro herr)
  · rw [if_neg herr]
    cases param with
    | none => exact if_pos herr
    | some p => exact if_pos herr

lemma updateStatus_of_ne {d : AtDriver} {cmd : AtCmdId} {op : CmdOperation} {param : Option InParam}
    (hcmd : cmd ≠ .atSetConnectionType) (hstart : ¬(cmd = .atStartConnection ∧ op = .atSetOp)) :
    d.updateStatus cmd op param = .ok d := by
  unfold AtDriver.updateStatus
  split
  · exact absurd rfl hcmd
  · exact absurd rfl hcmd
  · exact absurd ⟨rfl, rfl⟩ hstart
  · exact absurd ⟨rfl, rfl⟩ hstart
  · rfl

namespace AtDriver.CallKept

variable {R : AtDriver → AtDriver → Prop} (hR : AtDriver.CallKept R) {d d' : AtDriver} {ret : ℤ}
  {cmd : AtCmdId} {op : CmdOperation} {param : Option InParam} {late : CallIrqs}

include hR

lemma uartWrite {data : List UInt8} (h : d.uartWrite data = .ok d') : R d d' := by
  have hnext : R d { d with written := d.written ++ [data] } := hR.thread rfl rfl rfl
  exact hR.trans hnext (hR.mdelay h)

lemma sendCmd (h : d.sendCmd cmd param late = .ok (ret, d')) : R d d' := by
  obtain ⟨d₁, hwrite, h⟩ := bind_eq_ok.mp h
  refine hR.trans (hR.uartWrite hwrite) ?_
  split at h
  · obtain ⟨⟨ret₁, d₂⟩, hheader, h⟩ := bind_eq_ok.mp h
    refine hR.trans (hR.sendHeader hheader) ?_
    dsimp only at h
    split at h
    · obtain ⟨-, rfl⟩ := Prod.mk.inj (Except.ok.inj h)
      exact hR.refl _
    · obtain ⟨⟨timeout, d₃⟩, hloop, h⟩ := bind_eq_ok.mp h
      refine hR.trans (hR.preTest hloop) ?_
      dsimp only at h
      split at h
      · obtain ⟨-, rfl⟩ := Prod.mk.inj (Except.ok.inj h)
        exact hR.refl _
      · split at h
        · cases h
        · obtain ⟨d₄, hpayload, h⟩ := bind_eq_ok.mp h
          exact hR.trans (hR.uartWrite hpayload) (hR.waitForResponse h)
  · split at h
    · obtain ⟨⟨timeout, d₂⟩, hloop, h⟩ := bind_eq_ok.mp h
      refine hR.trans (hR.postTest hloop) ?_
      dsimp only at h
      split at h
      · obtain ⟨-, rfl⟩ := Prod.mk.inj (Except.ok.inj h)
        exact hR.refl _
      · obtain ⟨-, rfl⟩ := Prod.mk.inj (Except.ok.inj h)
        exact hR.refl _
    · exact hR.waitForResponse h

lemma stopEcho (h : d.stopEcho = .ok (ret, d')) : R d d' := by
  obtain ⟨d₁, hwrite, h⟩ := bind_eq_ok.mp h
  obtain ⟨⟨ret₁, d₂⟩, hwait, h⟩ := bind_eq_ok.mp h
  refine hR.trans (hR.trans (hR.uartWrite hwrite) (hR.waitForResponse hwait)) ?_
  dsimp only at h
  split at h
  · obtain ⟨-, rfl⟩ := Prod.mk.inj (Except.ok.inj h)
    exact hR.refl _
  · obtain ⟨d₃, hclear, h⟩ := bind_eq_ok.mp h
    obtain ⟨-, rfl⟩ := Prod.mk.inj (Except.ok.inj h)
    exact hR.set .clearResult trivial hclear

lemma parseResult (h : d.parseResult late = .ok d') : R d d' := by
  obtain ⟨d₁, hcopy, h⟩ := bind_eq_ok.mp h
  obtain ⟨d₂, hlength, h⟩ := bind_eq_ok.mp h
  obtain ⟨d₃, hclear, h⟩ := bind_eq_ok.mp h
  have hbytes : R d₁ d₁.copyResult := hR.thread rfl rfl rfl
  have hlen : R d₂ { d₂ with outLen := d₂.desc.result.len } := hR.thread rfl rfl rfl
  have hread := hR.trans (hR.trans (hR.interrupts hcopy) hbytes) (hR.interrupts hlength)
  exact hR.trans (hR.trans hread hlen) (hR.trans (hR.interrupts hclear) (hR.set .clearResult trivial h))

lemma fillOutput (h : d.fillOutput param late = .ok (ret, d')) : R d d' := by
  obtain ⟨d₁, hfill, h⟩ := bind_eq_ok.mp h
  obtain ⟨d₂, herrors, h⟩ := bind_eq_ok.mp h
  have hcleared : R d d₁ := by
    unfold AtDriver.takeResult at hfill
    split at hfill
    · exact hR.parseResult hfill
    · obtain ⟨d₀, hclear, hfill⟩ := bind_eq_ok.mp hfill
      exact hR.trans (hR.interrupts hclear) (hR.set .clearResult trivial hfill)
  refine hR.trans (hR.trans hcleared (hR.interrupts herrors)) ?_
  split at h
  · obtain ⟨d₃, hset, h⟩ := bind_eq_ok.mp h
    obtain ⟨-, rfl⟩ := Prod.mk.inj (Except.ok.inj h)
    exact hR.set .clearErrors trivial hset
  · obtain ⟨-, rfl⟩ := Prod.mk.inj (Except.ok.inj h)
    exact hR.refl _

lemma finishCmd (hupdate : ∀ {s s'}, s.updateStatus cmd op param = .ok s' → R s s')
    (h : d.finishCmd cmd op param late = .ok (ret, d')) : R d d' := by
  obtain ⟨⟨code, d₁⟩, hsend, h⟩ := bind_eq_ok.mp h
  refine hR.trans (hR.sendCmd hsend) ?_
  dsimp only at h
  split at h
  · obtain ⟨-, rfl⟩ := Prod.mk.inj (Except.ok.inj h)
    exact hR.refl _
  · obtain ⟨d₂, hstatus, h⟩ := bind_eq_ok.mp h
    exact hR.trans (hupdate hstatus) (hR.fillOutput h)

lemma finishCmd_of_ne (hcmd : cmd ≠ .atSetConnectionType)
    (hstart : ¬(cmd = .atStartConnection ∧ op = .atSetOp))
    (h : d.finishCmd cmd op param late = .ok (ret, d')) : R d d' := by
  refine hR.finishCmd (fun {s s'} hstatus => ?_) h
  rw [updateStatus_of_ne hcmd hstart] at hstatus
  obtain rfl := Except.ok.inj hstatus
  exact hR.refl s

lemma handleSpecial (h : d.handleSpecial cmd = .ok (ret, d')) : R d d' := by
  cases cmd with
  | atReset =>
    obtain ⟨d₁, hreset, h⟩ := bind_eq_ok.mp h
    obtain ⟨d₂, hwrite, h⟩ := bind_eq_ok.mp h
    obtain ⟨⟨timeout, d₃⟩, hloop, h⟩ := bind_eq_ok.mp h
    have hfirst := hR.trans (hR.trans (hR.set .resetModule trivial hreset) (hR.uartWrite hwrite))
      (hR.postTest hloop)
    dsimp only at h
    split at h
    · obtain ⟨-, rfl⟩ := Prod.mk.inj (Except.ok.inj h)
      exact hfirst
    · obtain ⟨d₄, hdone, h⟩ := bind_eq_ok.mp h
      obtain ⟨d₅, hclear, h⟩ := bind_eq_ok.mp h
      obtain ⟨⟨code, d₆⟩, hecho, h⟩ := bind_eq_ok.mp h
      have hsecond := hR.trans (hR.trans (hR.set .resetDone trivial hdone)
        (hR.set .clearResult trivial hclear)) (hR.stopEcho hecho)
      dsimp only at h
      split at h
      · obtain ⟨-, rfl⟩ := Prod.mk.inj (Except.ok.inj h)
        exact hR.trans hfirst hsecond
      · obtain ⟨⟨code', d₇⟩, hrun, h⟩ := bind_eq_ok.mp h
        obtain ⟨-, rfl⟩ := Prod.mk.inj (Except.ok.inj h)
        have hnext : R d₆ { d₆ with cmd := PUI8 "AT" ++ PUI8 "+CWQAP" ++ [13, 10] } :=
          hR.thread rfl rfl rfl
        have hfinish : AtDriver.finishCmd { d₆ with cmd := PUI8 "AT" ++ PUI8 "+CWQAP" ++ [13, 10] }
            .atDisconnectNetwork .atExecuteOp none = .ok (code', d₇) := hrun
        exact hR.trans (hR.trans hfirst hsecond)
          (hR.trans hnext (hR.finishCmd_of_ne (by decide) (by decide) hfinish))
  | _ =>
    obtain ⟨-, rfl⟩ := Prod.mk.inj (Except.ok.inj h)
    exact hR.refl _

theorem atRunCmd (hupdate : ∀ {s s'}, s.updateStatus cmd op param = .ok s' → R s s')
    (h : d.atRunCmd cmd op param late = .ok (ret, d')) : R d d' := by
  unfold AtDriver.atRunCmd AtDriver.atRunCmdWith at h
  split at h
  · obtain ⟨-, rfl⟩ := Prod.mk.inj (Except.ok.inj h)
    exact hR.refl _
  split at h
  · obtain ⟨-, rfl⟩ := Prod.mk.inj (Except.ok.inj h)
    exact hR.refl _
  split at h
  · cases h
  next text hbuild =>
    have hnext : R d { d with cmd := text } := hR.thread rfl rfl rfl
    dsimp only at h
    split at h
    · exact hR.trans hnext (hR.handleSpecial h)
    · exact hR.trans hnext (hR.finishCmd hupdate h)

end AtDriver.CallKept

/-- The only faults are those of the callback. -/
def CallbackOnly {α : Type} (x : Except AtRunFault α) : Prop := ∀ f, x = .error f → ∃ g, f = .callback g

namespace CallbackOnly

variable {α β : Type} {x : Except AtRunFault α} {f : α → Except AtRunFault β} {d : AtDriver}

lemma ok {a : α} : CallbackOnly (.ok a) := nofun

lemma bind (hx : CallbackOnly x) (hf : ∀ a, CallbackOnly (f a)) : CallbackOnly (x >>= f) := by
  intro e h
  cases x with
  | error e' =>
    obtain rfl := Except.error.inj h
    exact hx e' rfl
  | ok a => exact hf a e h

lemma step (e : AtEvent) : CallbackOnly (d.step e) := by
  intro f h
  unfold AtDriver.step at h
  split at h
  next g _ => exact ⟨g, (Except.error.inj h).symm⟩
  · cases h

lemma interrupts (irqs : List AtIrq) : CallbackOnly (d.interrupts irqs) := by
  induction irqs generalizing d with
  | nil => exact ok
  | cons irq irqs ih =>
    intro f h
    rw [AtDriver.interrupts] at h
    split at h
    next e hirq =>
      obtain rfl := Except.error.inj h
      unfold AtDriver.interrupt at hirq
      split at hirq
      next e' hstep => exact step _ e (hstep.trans (congrArg _ (Except.error.inj hirq)))
      · cases hirq
    · exact ih f h

lemma mdelay : CallbackOnly d.mdelay := by
  unfold AtDriver.mdelay
  split
  · exact ok
  · exact interrupts _

lemma uartWrite (data : List UInt8) : CallbackOnly (d.uartWrite data) := mdelay

lemma pollResponses (timeout : ℕ) : CallbackOnly (AtDriver.pollResponses timeout d) := by
  induction timeout generalizing d with
  | zero => exact ok
  | succ timeout ih =>
    refine bind (step _) fun d₁ => ?_
    split
    · exact ok
    · exact bind mdelay fun d₂ => ih

lemma waitForResponse {late : WaitIrqs} : CallbackOnly (d.waitForResponse late) := by
  refine bind (step _) fun d₁ => bind (pollResponses _) fun r => bind (interrupts _) fun d₃ =>
    bind (step _) fun d₄ => bind (interrupts _) fun d₅ => ?_
  split
  · exact ok
  · exact ok
  · exact ok

lemma preTest (busy : AtDriver → Bool) (n : ℕ) :
    CallbackOnly (Countdown.preTest busy AtDriver.mdelay n d) := by
  induction n generalizing d with
  | zero => exact ok
  | succ n ih =>
    intro f h
    rw [Countdown.preTest] at h
    split at h
    · split at h
      next e hdelay => exact mdelay f (hdelay.trans (congrArg _ (Except.error.inj h)))
      · exact ih f h
    · cases h

lemma postTest (busy : AtDriver → Bool) (n : ℕ) :
    CallbackOnly (Countdown.postTest busy AtDriver.mdelay n d) := by
  induction n generalizing d with
  | zero =>
    intro f h
    rw [Countdown.postTest] at h
    split at h
    · split at h
      next e hdelay => exact mdelay f (hdelay.trans (congrArg _ (Except.error.inj h)))
      · cases h
    · cases h
  | succ n ih =>
    intro f h
    rw [Countdown.postTest] at h
    split at h
    · split at h
      next e hdelay => exact mdelay f (hdelay.trans (congrArg _ (Except.error.inj h)))
      · exact ih f h
    · cases h

lemma sendCmd (cmd : AtCmdId) {param : Option InParam} (hparam : cmd = .atSend → param.isSome = true) :
    CallbackOnly (d.sendCmd cmd param) := by
  refine bind (uartWrite _) fun d₁ => ?_
  split_ifs with hcmd hdis
  · refine bind (bind (step _) fun d₂ => waitForResponse) fun r => ?_
    dsimp only
    split_ifs
    · exact ok
    · refine bind (preTest _ _) fun r => ?_
      split
      · exact ok
      · obtain ⟨p, rfl⟩ := Option.isSome_iff_exists.mp (hparam hcmd)
        exact bind (uartWrite _) fun d₄ => waitForResponse
  · refine bind (postTest _ _) fun r => ?_
    split
    split_ifs
    · exact ok
    · exact ok
  · exact waitForResponse

lemma stopEcho : CallbackOnly (d.stopEcho) := by
  refine bind (uartWrite _) fun d₁ => bind waitForResponse fun r => ?_
  dsimp only
  split_ifs
  · exact ok
  · exact bind (step _) fun d₃ => ok

end CallbackOnly

end NoOS
