import NoOS.Network.AtRunCmdStatus

/-!
# Time-outs of commands

Three loops wait for an event of the module. Their counter is 0 only after the event has been
seen in the last poll, so that a wait without the event is not told from one with it.
-/

namespace NoOS
open Countdown

section Waits

variable (d : AtDriver) (cmd : AtCmdId) (op : CmdOperation) (param : Option InParam)

/-- A call of `at_run_cmd` starts its wait in the state `s`. -/
def WaitStarts (s : AtDriver) : Prop :=
  op ∈ (gMap cmd).type ∧ ∃ text, buildCmd d.desc d.connType cmd op param = .ok text ∧
    match cmd with
    | .atSend => ∃ d₁, ({ d with cmd := text }).uartWrite text = .ok d₁ ∧
        d₁.sendHeader = .ok (SUCCESS, s)
    | .atDisconnectNetwork =>
      ({ d with cmd := text }).uartWrite text = .ok s ∧ s.desc.isWifiConnected = true
    | .atReset => ∃ d₁, AtDriver.step { d with cmd := text } .resetModule = .ok d₁ ∧
        d₁.uartWrite text = .ok s
    | _ => False

/-- What the wait of the command looks at. -/
def AtDriver.awaits (d : AtDriver) : Bool :=
  match cmd with
  | .atSend => d.awaitsPrompt
  | .atDisconnectNetwork => d.awaitsDisconnect
  | _ => d.awaitsReady

/-- The polls of the wait. -/
def pollBudget : ℕ := if cmd = .atSend then MODULE_TIMEOUT else MODULE_TIMEOUT + 1

/-- '>' has been read, the network is lost, or the module is ready. -/
def AtDriver.Seen (d : AtDriver) : Prop :=
  match cmd with
  | .atSend => d.prompted = true
  | _ => d.awaits cmd = false

/-- The state of the wait after `k` polls. -/
def Polls (s : AtDriver) (k : ℕ) (w : AtDriver) : Prop :=
  BusyFor (AtDriver.awaits cmd) AtDriver.mdelay k s w

/-- The event arrives at one of the polls. -/
def Arrives (s : AtDriver) : Prop := ∃ k w, k < pollBudget cmd ∧ Polls cmd s k w ∧ w.Seen cmd

/-- The command goes on: it writes the payload or ATE0, or is a success of `send_cmd`. -/
def GoesOn (s : AtDriver) (ret : ℤ) (d' : AtDriver) : Prop :=
  match cmd with
  | .atSend => ∃ p ∈ param, ∃ rest, d'.written = s.written ++ p.sendData.data :: rest
  | .atReset => ∃ rest, d'.written = s.written ++ (PUI8 "ATE0" ++ [13, 10]) :: rest
  | _ => ret ≠ FAILURE

/-- Without the event there is an error and no payload, and with it there is no time-out. -/
structure TimeoutRight (s : AtDriver) (ret : ℤ) (d' : AtDriver) : Prop where
  missing : ¬Arrives cmd s → isErrValue ret = true ∧ (cmd = .atSend → d'.written = s.written)
  arrived : Arrives cmd s → GoesOn cmd param s ret d'

/-- ATE0 is not answered with OK. -/
def EchoFails (w : AtDriver) : Prop :=
  ∃ d₁ d₂ ret d₃, w.step .resetDone = .ok d₁ ∧ d₁.step .clearResult = .ok d₂ ∧
    d₂.stopEcho = .ok (ret, d₃) ∧ ret ≠ SUCCESS

/-- The loop ends by the event before its last poll; or without it, by the header of a payload
at the last poll or by another error. -/
def SeenInTime (s : AtDriver) : Prop :=
  match cmd with
  | .atSend => ∃ k w, k < MODULE_TIMEOUT ∧ Polls cmd s k w ∧ w.awaits cmd = false ∧
      (w.prompted = true ↔ k ≠ MODULE_TIMEOUT - 1)
  | .atDisconnectNetwork => (∃ k w, k < MODULE_TIMEOUT ∧ Polls cmd s k w ∧ w.awaits cmd = false) ∨
      ∃ w, Polls cmd s (MODULE_TIMEOUT + 1) w ∧ w.desc.errors ≠ 0
  | _ => (∃ k w, k < MODULE_TIMEOUT ∧ Polls cmd s k w ∧ w.awaits cmd = false) ∨
      ∃ w, Polls cmd s (MODULE_TIMEOUT + 1) w ∧ EchoFails w

end Waits

variable {d d' s w : AtDriver} {cmd : AtCmdId} {op : CmdOperation} {param : Option InParam} {ret : ℤ}
  {k : ℕ}

/-- The errors that the callback reports. -/
def ErrorsOk (errors : UInt32) : Prop :=
  errors = 0 ∨ errors = AT_ERROR_UART ∨ errors = AT_ERROR_INTERNAL_BUFFER_OVERFLOW ∨
    errors = AT_ERROR_UART ||| AT_ERROR_INTERNAL_BUFFER_OVERFLOW

instance : DecidablePred ErrorsOk := fun errors => by
  unfold ErrorsOk
  infer_instance

lemma ErrorsOk.code {errors : UInt32} (h : ErrorsOk errors) :
    errorsCode errors ≠ FAILURE ∧ (isErrValue (errorsCode errors) = true ↔ errors ≠ 0) := by
  rcases h with rfl | rfl | rfl | rfl
  · decide
  · decide
  · decide
  · decide

/-- A parser whose errors are those of the callback and that has not read the '>' that it waits
for. -/
structure AtDriver.Waiting (d : AtDriver) : Prop where
  errors : ErrorsOk d.desc.errors
  prompted : d.desc.callbackOperation = .waitingSend → d.prompted = false

lemma ErrorsOk.irq {errors errors' : UInt32} (h : ErrorsOk errors) (h' : errors' = errors ∨
    errors' = errors ||| AT_ERROR_UART ∨ errors' = errors ||| AT_ERROR_INTERNAL_BUFFER_OVERFLOW) :
    ErrorsOk errors' := by
  rcases h' with rfl | rfl | rfl
  · exact h
  · rcases h with rfl | rfl | rfl | rfl <;> decide
  · rcases h with rfl | rfl | rfl | rfl <;> decide

/-- The events of the command thread clear the errors, and only AT_SEND waits for a '>'. -/
lemma step_waiting {e : AtEvent} {s s' : AtSystem} (he : e.Internal) (h : s.step e = .ok s') :
    (s'.desc.errors = s.desc.errors ∨ s'.desc.errors = 0) ∧
      (s'.desc.callbackOperation = .waitingSend →
        e = .waitSend ∨ s.desc.callbackOperation = .waitingSend) := by
  cases e with
  | receive | uartError | setMultiple => exact he.elim
  | resetModule | resetDone =>
    obtain rfl := Except.ok.inj h
    exact ⟨.inl rfl, nofun⟩
  | waitSend =>
    obtain rfl := Except.ok.inj h
    exact ⟨.inl rfl, fun _ => .inl rfl⟩
  | clearResult =>
    obtain rfl := Except.ok.inj h
    exact ⟨.inl rfl, .inr⟩
  | clearErrors =>
    obtain rfl := Except.ok.inj h
    exact ⟨.inr rfl, .inr⟩
  | startWait =>
    obtain rfl := Except.ok.inj h
    split
    · exact ⟨.inl rfl, .inr⟩
    · exact ⟨.inl rfl, .inr⟩
  | pollWait =>
    simp only [AtSystem.step] at h
    split at h
    · rcases pollResponse_ok h with rfl | ⟨c, hit, idxs, -, -, rfl⟩
      · exact ⟨.inl rfl, .inr⟩
      · exact ⟨.inl rfl, .inr⟩
    · obtain rfl := Except.ok.inj h
      exact ⟨.inl rfl, .inr⟩
  | endWait =>
    simp only [AtSystem.step] at h
    split at h
    · obtain rfl := Except.ok.inj h
      exact ⟨.inl rfl, .inr⟩
    · obtain rfl := Except.ok.inj h
      exact ⟨.inl rfl, .inr⟩

lemma interrupt_eq {irq : AtIrq} (h : d.interrupt irq = .ok d') : d.desc.IrqFrame d'.desc ∧
    d'.written = d.written ∧ d'.prompted = (d.prompted ||
      (d.desc.callbackOperation = .waitingSend && d'.desc.callbackOperation = .readingResponses)) := by
  refine ⟨(AtDriver.interrupt_ok h).1, ?_⟩
  unfold AtDriver.interrupt at h
  split at h
  · cases h
  next d₁ hstep =>
    obtain ⟨sys, -, rfl⟩ := AtDriver.step_ok hstep
    obtain rfl := Except.ok.inj h
    exact ⟨rfl, rfl⟩

lemma waiting_kept : AtDriver.Kept fun d d' => d.Waiting → d'.Waiting where
  refl _ := id
  trans h h' := h' ∘ h
  interrupt h hd := by
    obtain ⟨hframe, -, hprompted⟩ := interrupt_eq h
    refine ⟨hd.errors.irq hframe.errors, fun hop => ?_⟩
    rw [hprompted, hd.prompted (hframe.waitingSend hop), hop]
    simp
  step e he h hd := by
    obtain ⟨sys, hsys, rfl⟩ := AtDriver.step_ok h
    obtain ⟨herr, hop⟩ := step_waiting he hsys
    constructor
    · rcases herr with herr | herr
      · exact (congrArg ErrorsOk herr).mpr hd.errors
      · exact .inl herr
    · intro hwait
      rcases hop hwait with rfl | hbefore
      · rfl
      · by_cases he' : e = .waitSend
        · exact if_pos he'
        · exact (if_neg he').trans (hd.prompted hbefore)
  arrivals _ _ h := ⟨h.errors, h.prompted⟩
  thread hsys _ hprompted hd := by
    constructor
    · rw [AtDriver.desc, hsys]
      exact hd.errors
    · rw [AtDriver.desc, hsys, hprompted]
      exact hd.prompted

lemma written_kept : AtDriver.WaitKept fun d d' => d'.written = d.written where
  refl _ := rfl
  trans h h' := h'.trans h
  interrupt h := (interrupt_eq h).2.1
  step e _ h := by
    obtain ⟨sys, -, rfl⟩ := AtDriver.step_ok h
    rfl
  arrivals _ _ := rfl

lemma uartWrite_written {data : List UInt8} (h : d.uartWrite data = .ok d') :
    d'.written = d.written ++ [data] := written_kept.mdelay h

lemma fillOutput_written (h : d.fillOutput param = .ok (ret, d')) :
    ret = errorsCode d.desc.errors ∧ d'.written = d.written := by
  rw [fillOutput_eq] at h
  obtain ⟨rfl, rfl⟩ := Prod.mk.inj (Except.ok.inj h)
  exact ⟨rfl, rfl⟩

/-- A command without a status ends with what `send_cmd` returns, or with the errors. -/
lemma finishCmd_ok (hcmd : cmd ≠ .atSetConnectionType)
    (hstart : ¬(cmd = .atStartConnection ∧ op = .atSetOp))
    (h : d.finishCmd cmd op param = .ok (ret, d')) :
    ∃ code w, d.sendCmd cmd param = .ok (code, w) ∧ d'.written = w.written ∧
      ret = if isErrValue code then code else errorsCode w.desc.errors := by
  obtain ⟨⟨code, w⟩, hsend, h⟩ := bind_eq_ok.mp h
  refine ⟨code, w, hsend, ?_⟩
  dsimp only at h
  split at h
  next hcode =>
    obtain ⟨rfl, rfl⟩ := Prod.mk.inj (Except.ok.inj h)
    exact ⟨rfl, (if_pos hcode).symm⟩
  next hcode =>
    rw [updateStatus_of_ne hcmd hstart] at h
    obtain ⟨hret, hwritten⟩ := fillOutput_written h
    exact ⟨hwritten, hret.trans (if_neg hcode).symm⟩

lemma timeoutRight_of_postTest {E : AtDriver → Prop} {timeout : UInt32} (hcmd : cmd ≠ .atSend)
    (hloop : postTest (AtDriver.awaits cmd) AtDriver.mdelay MODULE_TIMEOUT s = .ok (timeout, w))
    (hzero : timeout = 0 → ¬GoesOn cmd param s ret d')
    (hgoes : timeout ≠ 0 → GoesOn cmd param s ret d')
    (herr : timeout ≠ 0 → (isErrValue ret = true ↔ E w)) :
    TimeoutRight cmd param s ret d' ↔
      (∃ k w, k < MODULE_TIMEOUT ∧ Polls cmd s k w ∧ w.awaits cmd = false) ∨
        ∃ w, Polls cmd s (MODULE_TIMEOUT + 1) w ∧ E w := by
  have hbudget : pollBudget cmd = MODULE_TIMEOUT + 1 := if_neg hcmd
  have hseen : ∀ v : AtDriver, v.Seen cmd ↔ v.awaits cmd = false := by
    intro v
    cases cmd with
    | atSend => exact absurd rfl hcmd
    | _ => exact Iff.rfl
  rcases postTest_ok hloop with ⟨k, hk, hpolls, hidle, rfl⟩ | ⟨hpolls, rfl⟩
  · have harrives : Arrives cmd s :=
      ⟨k, w, hbudget ▸ Nat.lt_succ_of_le hk, hpolls, (hseen w).mpr hidle⟩
    have hlast : UInt32.ofNat (MODULE_TIMEOUT - k) = 0 ↔ k = MODULE_TIMEOUT := by
      rw [ofNat_eq_zero (by unfold MODULE_TIMEOUT; lia)]
      lia
    have hright : TimeoutRight cmd param s ret d' ↔ k ≠ MODULE_TIMEOUT := by
      constructor
      · intro h hk
        exact hzero (hlast.mpr hk) (h.arrived harrives)
      · intro hk
        exact ⟨fun h => absurd harrives h, fun _ => hgoes fun h => hk (hlast.mp h)⟩
    rw [hright]
    constructor
    · exact fun hne => .inl ⟨k, w, Nat.lt_of_le_of_ne hk hne, hpolls, hidle⟩
    · rintro (⟨j, v, hj, hpolls', hidle'⟩ | ⟨v, hpolls', -⟩)
      · obtain ⟨rfl, -⟩ := hpolls.eq_of_idle hpolls' hidle hidle'
        exact Nat.ne_of_lt hj
      · have hbusy := hpolls'.busy_of_lt hpolls (Nat.lt_succ_of_le hk)
        rw [hidle] at hbusy
        cases hbusy
  · have hno : ¬Arrives cmd s := by
      rintro ⟨j, v, hj, hpolls', hv⟩
      rw [hbudget] at hj
      have hbusy := hpolls.busy_of_lt hpolls' hj
      rw [(hseen v).mp hv] at hbusy
      cases hbusy
    have hnonzero : (0 - 1 : UInt32) ≠ 0 := by decide
    have hright : TimeoutRight cmd param s ret d' ↔ E w := by
      rw [← herr hnonzero]
      constructor
      · exact fun h => (h.missing hno).1
      · exact fun h => ⟨fun _ => ⟨h, fun hc => absurd hc hcmd⟩, fun ha => absurd ha hno⟩
    rw [hright]
    constructor
    · exact fun h => .inr ⟨w, hpolls, h⟩
    · rintro (⟨j, v, hj, hpolls', hidle'⟩ | ⟨v, hpolls', hv⟩)
      · have hbusy := hpolls.busy_of_lt hpolls' (Nat.lt_succ_of_lt hj)
        rw [hidle'] at hbusy
        cases hbusy
      · rwa [hpolls.unique hpolls']

lemma written_ne {d d' : AtDriver} {data : List UInt8} {rest : List (List UInt8)}
    (h : d'.written = d.written) : d'.written ≠ d.written ++ data :: rest := by
  intro hmore
  have hlen := congrArg List.length (h.symm.trans hmore)
  rw [List.length_append, List.length_cons] at hlen
  omega

lemma timeoutRight_of_preTest {timeout : UInt32} (hs : s.Waiting)
    (hloop : preTest AtDriver.awaitsPrompt AtDriver.mdelay MODULE_TIMEOUT s = .ok (timeout, w))
    (hzero : timeout = 0 → isErrValue ret = true ∧ d'.written = s.written)
    (hgoes : timeout ≠ 0 → GoesOn .atSend param s ret d') :
    TimeoutRight .atSend param s ret d' ↔ SeenInTime .atSend s := by
  have hbusy : ∀ {j v}, Polls .atSend s j v → v.awaitsPrompt = true → v.prompted = false := by
    intro j v hpolls hwait
    exact (waiting_kept.call.busyFor hpolls hs).prompted (of_decide_eq_true hwait)
  have hmore : GoesOn .atSend param s ret d' → d'.written ≠ s.written := by
    rintro ⟨p, -, rest, hmore⟩ hsame
    exact written_ne hsame hmore
  rcases preTest_ok hloop with ⟨k, hk, hpolls, hidle, rfl⟩ | ⟨hpolls, rfl⟩
  · have harrives : Arrives .atSend s ↔ w.prompted = true := by
      constructor
      · rintro ⟨j, v, -, hpolls', hv : v.prompted = true⟩
        by_cases hwait : v.awaitsPrompt = true
        · rw [hbusy hpolls' hwait] at hv
          cases hv
        · obtain ⟨-, rfl⟩ := hpolls.eq_of_idle hpolls' hidle (Bool.not_eq_true _ ▸ hwait)
          exact hv
      · exact fun hw => ⟨k, w, hk, hpolls, hw⟩
    have hseen : SeenInTime .atSend s ↔ (w.prompted = true ↔ k ≠ MODULE_TIMEOUT - 1) := by
      constructor
      · rintro ⟨j, v, -, hpolls', hidle', hv⟩
        obtain ⟨rfl, rfl⟩ := hpolls.eq_of_idle hpolls' hidle hidle'
        exact hv
      · exact fun hw => ⟨k, w, hk, hpolls, hidle, hw⟩
    have hlast : UInt32.ofNat (MODULE_TIMEOUT - 1 - k) = 0 ↔ k = MODULE_TIMEOUT - 1 := by
      rw [ofNat_eq_zero (by unfold MODULE_TIMEOUT; lia)]
      lia
    rw [hseen, ← harrives]
    by_cases hk' : k = MODULE_TIMEOUT - 1
    · obtain ⟨herr, hsame⟩ := hzero (hlast.mpr hk')
      constructor
      · exact fun h => ⟨fun ha => absurd hsame (hmore (h.arrived ha)), fun hne => absurd hk' hne⟩
      · exact fun h => ⟨fun _ => ⟨herr, fun _ => hsame⟩, fun ha => absurd hk' (h.mp ha)⟩
    · have hon := hgoes fun h => hk' (hlast.mp h)
      constructor
      · intro h
        refine ⟨fun _ => hk', fun _ => ?_⟩
        by_contra hno
        exact hmore hon ((h.missing hno).2 rfl)
      · exact fun h => ⟨fun hno => absurd (h.mpr hk') hno, fun _ => hon⟩
  · have hno : ¬Arrives .atSend s := by
      rintro ⟨j, v, hj, hpolls', hv : v.prompted = true⟩
      rw [hbusy hpolls' (hpolls.busy_of_lt hpolls' hj)] at hv
      cases hv
    refine iff_of_false ?_ ?_
    · exact fun h => hmore (hgoes (by decide)) ((h.missing hno).2 rfl)
    · rintro ⟨j, v, hj, hpolls', hidle', -⟩
      have hstill : v.awaits .atSend = true := hpolls.busy_of_lt hpolls' hj
      rw [hidle'] at hstill
      cases hstill

lemma timeout_disconnect (hd : d.Waiting) (hs : WaitStarts d .atDisconnectNetwork op param s)
    (hok : d.atRunCmd .atDisconnectNetwork op param = .ok (ret, d')) :
    TimeoutRight .atDisconnectNetwork param s ret d' ↔ SeenInTime .atDisconnectNetwork s := by
  obtain ⟨hop, text, hbuild, hwrite, hconnected⟩ := hs
  rw [@atRunCmd_built d .atDisconnectNetwork op param {} (by decide) hop, hbuild] at hok
  have hstart : ¬(AtCmdId.atDisconnectNetwork = .atStartConnection ∧ op = .atSetOp) := by simp
  obtain ⟨code, w, hsend, -, hret⟩ := finishCmd_ok (by decide) hstart hok
  obtain ⟨s₁, hwrite₁, hsend⟩ := bind_eq_ok.mp hsend
  obtain rfl := Except.ok.inj (hwrite.symm.trans hwrite₁)
  rw [if_neg (by decide), if_pos ⟨rfl, hconnected⟩] at hsend
  obtain ⟨⟨timeout, w₁⟩, hloop, hsend⟩ := bind_eq_ok.mp hsend
  dsimp only at hsend
  have hwaiting : w₁.Waiting := waiting_kept.call.postTest hloop
    (waiting_kept.call.uartWrite hwrite ⟨hd.errors, hd.prompted⟩)
  obtain ⟨hcode, herrors⟩ := hwaiting.errors.code
  have hzero : timeout = 0 → ret = FAILURE := by
    intro h
    rw [if_pos h] at hsend
    obtain ⟨rfl, rfl⟩ := Prod.mk.inj (Except.ok.inj hsend)
    exact hret
  have hgoes : timeout ≠ 0 → ret = errorsCode w₁.desc.errors := by
    intro h
    rw [if_neg h] at hsend
    obtain ⟨rfl, rfl⟩ := Prod.mk.inj (Except.ok.inj hsend)
    exact hret
  exact timeoutRight_of_postTest (by decide) hloop (fun h hne => hne (hzero h))
    (fun h heq => hcode ((hgoes h).symm.trans heq)) fun h => hgoes h ▸ herrors

lemma stopEcho_written (h : d.stopEcho = .ok (ret, d')) :
    d'.written = d.written ++ [PUI8 "ATE0" ++ [13, 10]] := by
  obtain ⟨d₁, hwrite, h⟩ := bind_eq_ok.mp h
  obtain ⟨⟨ret₁, d₂⟩, hwait, h⟩ := bind_eq_ok.mp h
  have hsame := (written_kept.waitForResponse hwait).trans (uartWrite_written hwrite)
  dsimp only at h
  split at h
  · obtain ⟨-, rfl⟩ := Prod.mk.inj (Except.ok.inj h)
    exact hsame
  · obtain ⟨d₃, hclear, h⟩ := bind_eq_ok.mp h
    obtain ⟨-, rfl⟩ := Prod.mk.inj (Except.ok.inj h)
    exact (written_kept.step .clearResult trivial hclear).trans hsame

lemma sendCmd_written (hcmd : cmd ≠ .atSend) (h : d.sendCmd cmd param = .ok (ret, d')) :
    d'.written = d.written ++ [d.cmd] := by
  obtain ⟨d₁, hwrite, h⟩ := bind_eq_ok.mp h
  rw [if_neg hcmd] at h
  refine Eq.trans ?_ (uartWrite_written hwrite)
  split at h
  · obtain ⟨⟨timeout, d₂⟩, hloop, h⟩ := bind_eq_ok.mp h
    have hsame := written_kept.loop.postTest hloop
    dsimp only at h
    split at h
    · obtain ⟨-, rfl⟩ := Prod.mk.inj (Except.ok.inj h)
      exact hsame
    · obtain ⟨-, rfl⟩ := Prod.mk.inj (Except.ok.inj h)
      exact hsame
  · exact written_kept.waitForResponse h

lemma reset_goes {f : AtDriver → AtCmdId → AtRunResult}
    (h : (do
      let d ← w.step .resetDone
      let d ← d.step .clearResult
      let (ret, d) ← d.stopEcho
      if ret ≠ SUCCESS then .ok (FAILURE, d)
      else
        let (_, d) ← AtDriver.atRunCmdWith f d .atDisconnectNetwork .atExecuteOp none
        .ok (SUCCESS, d) : AtRunResult) = .ok (ret, d')) :
    ∃ rest, d'.written = w.written ++ (PUI8 "ATE0" ++ [13, 10]) :: rest ∧
      (isErrValue ret = true ↔ EchoFails w) := by
  obtain ⟨d₁, hdone, h⟩ := bind_eq_ok.mp h
  obtain ⟨d₂, hclear, h⟩ := bind_eq_ok.mp h
  obtain ⟨⟨code, d₃⟩, hecho, h⟩ := bind_eq_ok.mp h
  have hsame : d₂.written = w.written :=
    (written_kept.step .clearResult trivial hclear).trans (written_kept.step .resetDone trivial hdone)
  have hfirst := hsame ▸ stopEcho_written hecho
  dsimp only at h
  split at h
  next hcode =>
    obtain ⟨rfl, rfl⟩ := Prod.mk.inj (Except.ok.inj h)
    exact ⟨[], hfirst, iff_of_true rfl ⟨d₁, d₂, code, d₃, hdone, hclear, hecho, hcode⟩⟩
  next hcode =>
    obtain ⟨⟨code', d₄⟩, hrun, h⟩ := bind_eq_ok.mp h
    obtain ⟨rfl, rfl⟩ := Prod.mk.inj (Except.ok.inj h)
    have hfinish : AtDriver.finishCmd { d₃ with cmd := PUI8 "AT" ++ PUI8 "+CWQAP" ++ [13, 10] }
        .atDisconnectNetwork .atExecuteOp none = .ok (code', d₄) := hrun
    obtain ⟨code'', d₅, hsend, hlast, -⟩ := finishCmd_ok (by decide) (by decide) hfinish
    have hmore := hlast.trans (sendCmd_written (by decide) hsend)
    refine ⟨[PUI8 "AT" ++ PUI8 "+CWQAP" ++ [13, 10]], ?_, iff_of_false (by decide) ?_⟩
    · rw [hmore]
      change d₃.written ++ _ = _
      rw [hfirst, List.append_assoc]
      rfl
    · rintro ⟨d₁', d₂', code₁, d₃', hdone', hclear', hecho', hne⟩
      obtain rfl := Except.ok.inj (hdone.symm.trans hdone')
      obtain rfl := Except.ok.inj (hclear.symm.trans hclear')
      obtain ⟨rfl, -⟩ := Prod.mk.inj (Except.ok.inj (hecho.symm.trans hecho'))
      exact hne (not_not.mp hcode)

lemma timeout_reset (hs : WaitStarts d .atReset op param s)
    (hok : d.atRunCmd .atReset op param = .ok (ret, d')) :
    TimeoutRight .atReset param s ret d' ↔ SeenInTime .atReset s := by
  obtain ⟨hop, text, hbuild, d₁, hreset, hwrite⟩ := hs
  rw [@atRunCmd_built d .atReset op param {} (by decide) hop, hbuild] at hok
  change AtDriver.handleSpecial { d with cmd := text } .atReset = .ok (ret, d') at hok
  obtain ⟨d₁', hreset', hok⟩ := bind_eq_ok.mp hok
  obtain rfl := Except.ok.inj (hreset.symm.trans hreset')
  obtain ⟨s₁, hwrite₁, hok⟩ := bind_eq_ok.mp hok
  have hcmd : d₁.cmd = text := by
    obtain ⟨sys, -, rfl⟩ := AtDriver.step_ok hreset
    rfl
  rw [hcmd] at hwrite₁
  obtain rfl := Except.ok.inj (hwrite.symm.trans hwrite₁)
  obtain ⟨⟨timeout, w⟩, hloop, hok⟩ := bind_eq_ok.mp hok
  dsimp only at hok
  have hsame : w.written = s.written := written_kept.loop.postTest hloop
  have hzero : timeout = 0 → d'.written = s.written := by
    intro h
    rw [if_pos h] at hok
    obtain ⟨-, rfl⟩ := Prod.mk.inj (Except.ok.inj hok)
    exact hsame
  have hgoes : timeout ≠ 0 → GoesOn .atReset param s ret d' ∧
      (isErrValue ret = true ↔ EchoFails w) := by
    intro h
    rw [if_neg h] at hok
    obtain ⟨rest, hmore, herr⟩ := reset_goes hok
    exact ⟨⟨rest, hsame ▸ hmore⟩, herr⟩
  exact timeoutRight_of_postTest (by decide) hloop
    (fun h ⟨_, hmore⟩ => written_ne (hzero h) hmore) (fun h => (hgoes h).1) fun h => (hgoes h).2

lemma timeout_send (hd : d.Waiting) (hs : WaitStarts d .atSend op param s)
    (hok : d.atRunCmd .atSend op param = .ok (ret, d')) :
    TimeoutRight .atSend param s ret d' ↔ SeenInTime .atSend s := by
  obtain ⟨hop, text, hbuild, d₁, hwrite, hheader⟩ := hs
  rw [@atRunCmd_built d .atSend op param {} (by decide) hop, hbuild] at hok
  have hstart : ¬(AtCmdId.atSend = .atStartConnection ∧ op = .atSetOp) := by simp
  obtain ⟨code, w, hsend, hlast, hret⟩ := finishCmd_ok (by decide) hstart hok
  obtain ⟨d₂, hwrite₂, hsend⟩ := bind_eq_ok.mp hsend
  obtain rfl := Except.ok.inj (hwrite.symm.trans hwrite₂)
  have hwaiting : s.Waiting := waiting_kept.call.sendHeader hheader
    (waiting_kept.call.uartWrite hwrite ⟨hd.errors, hd.prompted⟩)
  rw [if_pos rfl, hheader] at hsend
  change (preTest AtDriver.awaitsPrompt AtDriver.mdelay MODULE_TIMEOUT s >>= _) = _ at hsend
  obtain ⟨⟨timeout, v⟩, hloop, hsend⟩ := bind_eq_ok.mp hsend
  dsimp only at hsend
  have hsame : v.written = s.written := written_kept.loop.preTest hloop
  refine timeoutRight_of_preTest hwaiting hloop (fun h => ?_) (fun h => ?_)
  · rw [if_pos h] at hsend
    obtain ⟨rfl, rfl⟩ := Prod.mk.inj (Except.ok.inj hsend)
    exact ⟨hret ▸ rfl, hlast.trans hsame⟩
  · rw [if_neg h] at hsend
    cases param with
    | none => cases hsend
    | some p =>
      obtain ⟨d₃, hpayload, hsend⟩ := bind_eq_ok.mp hsend
      have hmore := (written_kept.waitForResponse hsend).trans (uartWrite_written hpayload)
      exact ⟨p, rfl, [], (hlast.trans hmore).trans (hsame ▸ rfl)⟩

/-- A call that returns has handled its time-out as it should if and only if the event comes
before the last poll. -/
theorem atRunCmd_timeout_iff (hd : d.Waiting) (hs : WaitStarts d cmd op param s)
    (hok : d.atRunCmd cmd op param = .ok (ret, d')) :
    TimeoutRight cmd param s ret d' ↔ SeenInTime cmd s := by
  cases cmd with
  | atSend => exact timeout_send hd hs hok
  | atDisconnectNetwork => exact timeout_disconnect hd hs hok
  | atReset => exact timeout_reset hs hok
  | _ =>
    obtain ⟨_, _, _, hno⟩ := hs
    exact hno.elim

/-- Before the module reports that the network is lost, or without a report. -/
def beforeLoss (arrivals : List (List AtIrq)) : AtDriver where
  sys := { desc := { isWifiConnected := true } }
  arrivals := arrivals

/-- The wait for the report. -/
def lossWait (arrivals : List (List AtIrq)) : AtDriver :=
  { beforeLoss arrivals with
    cmd := PUI8 "AT+CWQAP" ++ [13, 10]
    written := [PUI8 "AT+CWQAP" ++ [13, 10]] }

/-- The network is lost in the first delay. -/
def lossReport : List AtIrq :=
  (PUI8 "WIFI DISCONNECT" ++ [13, 10]).map fun ch => .receive ch none

lemma beforeLoss_waiting (arrivals : List (List AtIrq)) : (beforeLoss arrivals).Waiting :=
  ⟨.inl rfl, nofun⟩

/-- A report in time. -/
theorem timeout_loss : ∃ ret d', (beforeLoss [[], lossReport]).atRunCmd .atDisconnectNetwork
      .atExecuteOp none = .ok (ret, d') ∧
    TimeoutRight .atDisconnectNetwork none (lossWait [lossReport]) ret d' := by
  have hstart : WaitStarts (beforeLoss [[], lossReport]) .atDisconnectNetwork .atExecuteOp none
      (lossWait [lossReport]) := ⟨by decide, _, rfl, rfl, rfl⟩
  have hlost : ((lossWait [lossReport]).mdelay.toOption.map
      fun w => w.desc.isWifiConnected) = some false := by
    decide +kernel
  have hreturns : ((beforeLoss [[], lossReport]).atRunCmd .atDisconnectNetwork .atExecuteOp
      none).toOption.isSome = true := by
    decide +kernel
  cases hrun : (beforeLoss [[], lossReport]).atRunCmd .atDisconnectNetwork .atExecuteOp none with
  | error f =>
    rw [hrun] at hreturns
    cases hreturns
  | ok r =>
    refine ⟨r.1, r.2, rfl, (atRunCmd_timeout_iff (beforeLoss_waiting _) hstart hrun).mpr ?_⟩
    cases hdelay : (lossWait [lossReport]).mdelay with
    | error f =>
      rw [hdelay] at hlost
      cases hlost
    | ok w =>
      rw [hdelay] at hlost
      exact .inl ⟨1, w, by decide, .succ rfl hdelay (.zero w), Option.some.inj hlost⟩

/-- The network is never lost, and the result is SUCCESS. -/
theorem timeout_unreported : ∃ d', (beforeLoss []).atRunCmd .atDisconnectNetwork .atExecuteOp none =
      .ok (SUCCESS, d') ∧ WaitStarts (beforeLoss []) .atDisconnectNetwork .atExecuteOp none
        (lossWait []) ∧ ¬TimeoutRight .atDisconnectNetwork none (lossWait []) SUCCESS d' := by
  have hstart : WaitStarts (beforeLoss []) .atDisconnectNetwork .atExecuteOp none (lossWait []) :=
    ⟨by decide, _, rfl, rfl, rfl⟩
  have hbusy : AtDriver.awaitsDisconnect (lossWait []) = true := rfl
  have hdelay : AtDriver.mdelay (lossWait []) = .ok (lossWait []) := rfl
  have hloop := postTest_stuck hbusy hdelay MODULE_TIMEOUT
  have hsend : AtDriver.sendCmd { beforeLoss [] with cmd := PUI8 "AT+CWQAP" ++ [13, 10] }
      .atDisconnectNetwork none = .ok (SUCCESS, lossWait []) := by
    refine bind_eq_ok.mpr ⟨lossWait [], rfl, ?_⟩
    rw [if_neg (by decide), if_pos ⟨rfl, rfl⟩, hloop]
    rfl
  have hrun : (beforeLoss []).atRunCmd .atDisconnectNetwork .atExecuteOp none =
      (lossWait []).fillOutput none := bind_eq_ok.mpr ⟨_, hsend, rfl⟩
  refine ⟨_, hrun.trans (fillOutput_eq (lossWait []) none), hstart, fun h => ?_⟩
  have herr := (h.missing ?_).1
  · cases herr
  · rintro ⟨k, w, -, hpolls, hseen⟩
    obtain rfl := hpolls.unique (.stuck hbusy hdelay k)
    cases hseen

end NoOS
