import NoOS.Network.AtResponseScan

/-!
# The result of a command

The response is cut off the end of the result, wherever it has been found. The output of a
command is what the module has sent in front of the response if the result has just that.
-/

namespace NoOS
open PrefixMatcher

/-- `"\r\nOK\r\n"` and `"\r\nSEND OK\r\n"` -/
def terminators : List (List UInt8) := responses.drop 2

/-- No command is running. -/
structure AtDriver.Idle (d : AtDriver) : Prop where
  buff : d.desc.result.buff.length = RESULT_BUFF_LEN
  wait : d.sys.wait = none
  respIdx : d.desc.respIdx = [0, 0, 0, 0]

/-- The bytes received since `d₀`. -/
def AtDriver.since (d₀ d : AtDriver) : List UInt8 := d.received.drop d₀.received.length

/-- The output is what has been received since `d₀` in front of the terminator. -/
def ResultRight (d₀ d' : AtDriver) : Prop :=
  ∃ text msg, FirstOf terminators (d₀.since d') text msg ∧ d'.outLen.toNat = text.length ∧ d'.output = text

/-- The parser after any interrupts and commands. -/
inductive AtDriver.Reached : AtDriver → Prop
  | new (arrivals : List (List AtIrq)) : Reached { arrivals := arrivals }
  | call {d₀ d d' : AtDriver} {irqs : List AtIrq} {cmd : AtCmdId} {op : CmdOperation}
      {param : Option InParam} {late : CallIrqs} {ret : ℤ} (h : Reached d₀)
      (hbetween : d₀.interrupts irqs = .ok d) (hrun : d.atRunCmd cmd op param late = .ok (ret, d')) :
      Reached d'

/-- The last command has left nothing in the result. -/
def Emptied (d₀ : AtDriver) : Prop := d₀.desc.result.len = 0

lemma Emptied.collected {d₀ : AtDriver} (h : Emptied d₀) : d₀.collected = [] := by
  rw [AtDriver.collected, show d₀.desc.result.len = 0 from h]
  rfl

/-- The result has every byte that has been received. -/
def KeptAll (d₀ w : AtDriver) : Prop := w.desc.ResultIs (d₀.collected ++ d₀.since w)

/-- The last byte received is the last one of the response `j`. -/
def CaughtUp (d₀ w : AtDriver) (j : ℕ) : Prop :=
  ∃ text msg, responses[j]? = some msg ∧ FirstOf terminators (d₀.since w) text msg ∧ text ++ msg = d₀.since w

/-- The result begins with the text in front of the terminator, and is longer by as many bytes as
the response `j` has. -/
def Fits (d₀ d' w : AtDriver) (j : ℕ) : Prop :=
  ∃ text msg resp, responses[j]? = some resp ∧ FirstOf terminators (d₀.since d') text msg ∧
    text <+: w.collected ∧ w.desc.result.len.toNat = text.length + resp.length

/-- From the cut on the interrupts leave the result alone until it has been copied. -/
structure Undisturbed (c v u : AtDriver) : Prop where
  copy : v.desc.result.len = c.desc.result.len
  bytes : v.collected = c.collected
  length : u.desc.result.len = v.desc.result.len

section Call

variable (d : AtDriver) (cmd : AtCmdId) (op : CmdOperation) (p : InParam)

/-- The call waits for one response: not for "ready", the loss of a network, or '>'. -/
structure WaitsOnce : Prop where
  send : cmd ≠ .atSend
  reset : cmd ≠ .atReset
  disconnect : cmd = .atDisconnectNetwork → ∀ text d₁,
    buildCmd d.desc d.connType cmd op (some p) = .ok text →
    AtDriver.uartWrite { d with cmd := text } text = .ok d₁ → d₁.desc.isWifiConnected = false

/-- The call finds the response `j`. The states are those in front of the cut, behind it, in front of
the copy and in front of its length. -/
structure Answered (late : CallIrqs) (j : ℕ) (w c v u : AtDriver) : Prop where
  found : ∃ text d₁ d₂ w₀, buildCmd d.desc d.connType cmd op (some p) = .ok text ∧
    AtDriver.uartWrite { d with cmd := text } text = .ok d₁ ∧ d₁.step .startWait = .ok d₂ ∧
    AtDriver.pollResponses MODULE_TIMEOUT d₂ = .ok (some j, w₀) ∧ w₀.interrupts late.wait.cut = .ok w
  cut : w.step .endWait = .ok c
  copy : ∃ v₀ v₁, c.interrupts late.wait.done = .ok v₀ ∧ v₀.updateStatus cmd op (some p) = .ok v₁ ∧
    v₁.interrupts late.copy = .ok v
  length : v.copyResult.interrupts late.length = .ok u

end Call

variable {d₀ d d' w c v u : AtDriver} {cmd : AtCmdId} {op : CmdOperation} {param : Option InParam} {p : InParam}
  {late : CallIrqs} {ret : ℤ} {i : UInt32} {j : ℕ} {resp : List UInt8}

/-- Outside of a wait the matchers of the responses are at their beginning. -/
structure AtDriver.Rests (d : AtDriver) : Prop where
  buff : d.desc.result.buff.length = RESULT_BUFF_LEN
  respIdx : d.sys.wait = none → d.desc.respIdx = [0, 0, 0, 0]

lemma rests_kept : AtDriver.Kept fun d d' => d.Rests → d'.Rests where
  refl _ := id
  trans h h' := h' ∘ h
  interrupt {d d' irq} hirq h := by
    have hsame := AtDriver.interrupt_samePoll hirq
    refine ⟨?_, fun hnone => hsame.respIdx.trans (h.respIdx (hsame.wait ▸ hnone))⟩
    rcases AtDriver.interrupt_next hirq with ⟨ch, -, hnext⟩ | ⟨-, hresult⟩
    · exact hnext.buff_length.trans h.buff
    · exact hresult ▸ h.buff
  step e he hstep h := by
    obtain ⟨sys, hsys, rfl⟩ := AtDriver.step_ok hstep
    cases e with
    | receive | uartError | setMultiple => exact he.elim
    | resetModule | resetDone | waitSend | clearResult | clearErrors =>
      obtain rfl := Except.ok.inj hsys
      exact ⟨h.buff, h.respIdx⟩
    | startWait =>
      obtain rfl := Except.ok.inj hsys
      refine ⟨?_, ?_⟩
      · split
        · exact h.buff
        · exact h.buff
      · split
        · intro hnone
          cases hnone
        · exact h.respIdx
    | pollWait =>
      simp only [AtSystem.step] at hsys
      split at hsys
      · rcases pollResponse_ok hsys with rfl | ⟨c, hit, idxs, -, -, rfl⟩
        · exact ⟨h.buff, h.respIdx⟩
        · refine ⟨h.buff, ?_⟩
          intro hnone
          cases hnone
      · obtain rfl := Except.ok.inj hsys
        exact ⟨h.buff, h.respIdx⟩
    | endWait =>
      simp only [AtSystem.step] at hsys
      split at hsys
      · obtain rfl := Except.ok.inj hsys
        exact ⟨h.buff, fun _ => rfl⟩
      · obtain rfl := Except.ok.inj hsys
        exact ⟨h.buff, h.respIdx⟩
  arrivals _ _ h := ⟨h.buff, h.respIdx⟩
  thread {d d'} hsys _ _ h := by
    have hdesc : d'.desc = d.desc := congrArg AtSystem.desc hsys
    exact ⟨hdesc ▸ h.buff, fun hnone => hdesc ▸ h.respIdx (hsys ▸ hnone)⟩

lemma AtDriver.Idle.interrupt {irq : AtIrq} (h : d.Idle) (hirq : d.interrupt irq = .ok d') : d'.Idle := by
  have hrests := rests_kept.interrupt hirq ⟨h.buff, fun _ => h.respIdx⟩
  have hwait := (AtDriver.interrupt_samePoll hirq).wait.trans h.wait
  exact ⟨hrests.buff, hwait, hrests.respIdx hwait⟩

lemma AtDriver.Idle.interrupts {irqs : List AtIrq} (h : d.Idle) (hirqs : d.interrupts irqs = .ok d') : d'.Idle :=
  interrupts_preserve (fun _ _ _ h hirq => h.interrupt hirq) h hirqs

lemma AtDriver.Idle.mdelay (h : d.Idle) (hdelay : d.mdelay = .ok d') : d'.Idle :=
  mdelay_preserve (P := AtDriver.Idle) (fun _ _ _ h hirq => h.interrupt hirq)
    (fun _ _ h => ⟨h.buff, h.wait, h.respIdx⟩) h hdelay

lemma waitForResponse_wait {late : WaitIrqs} (h : d.waitForResponse late = .ok (ret, d')) :
    d'.sys.wait = none := by
  obtain ⟨d₁, -, h⟩ := bind_eq_ok.mp h
  obtain ⟨⟨hit, d₂⟩, -, h⟩ := bind_eq_ok.mp h
  obtain ⟨d₃, -, h⟩ := bind_eq_ok.mp h
  obtain ⟨d₄, hend, h⟩ := bind_eq_ok.mp h
  obtain ⟨d₅, hdone, h⟩ := bind_eq_ok.mp h
  have hlast : d' = d₅ := by
    split at h
    · exact (Prod.mk.inj (Except.ok.inj h)).2.symm
    · exact (Prod.mk.inj (Except.ok.inj h)).2.symm
    · exact (Prod.mk.inj (Except.ok.inj h)).2.symm
  rw [hlast, (AtDriver.interrupts_samePoll hdone).wait]
  obtain ⟨sys, hsys, rfl⟩ := AtDriver.step_ok hend
  simp only [AtSystem.step] at hsys
  split at hsys
  · obtain rfl := Except.ok.inj hsys
    rfl
  next hnone =>
    obtain rfl := Except.ok.inj hsys
    exact hnone

lemma idle_kept : AtDriver.CallKept fun d d' => d.Idle → d'.Idle where
  refl _ := id
  trans h h' := h' ∘ h
  interrupts hirqs h := h.interrupts hirqs
  mdelay hdelay h := h.mdelay hdelay
  waitForResponse hwait h := by
    have hnone := waitForResponse_wait hwait
    have hrests := rests_kept.waitForResponse hwait ⟨h.buff, fun _ => h.respIdx⟩
    exact ⟨hrests.buff, hnone, hrests.respIdx hnone⟩
  set e he hstep h := by
    obtain ⟨sys, hsys, rfl⟩ := AtDriver.step_ok hstep
    cases e with
    | resetModule | resetDone | waitSend | clearResult | clearErrors =>
      obtain rfl := Except.ok.inj hsys
      exact ⟨h.buff, h.wait, h.respIdx⟩
    | _ => exact he.elim
  thread {d d'} hsys _ _ h := by
    have hdesc : d'.desc = d.desc := congrArg AtSystem.desc hsys
    exact ⟨hdesc ▸ h.buff, hsys ▸ h.wait, hdesc ▸ h.respIdx⟩

lemma updateStatus_keeps (h : d.updateStatus cmd op param = .ok d') :
    (d.Idle → d'.Idle) ∧ d'.received = d.received ∧ d'.desc.result = d.desc.result := by
  unfold AtDriver.updateStatus at h
  split at h
  · cases h
  · obtain ⟨sys, hsys, rfl⟩ := AtDriver.step_ok h
    obtain rfl := Except.ok.inj hsys
    exact ⟨fun h => ⟨h.buff, h.wait, h.respIdx⟩, rfl, rfl⟩
  · cases h
  · split at h
    · cases h
    · obtain rfl := Except.ok.inj h
      exact ⟨fun h => ⟨h.buff, h.wait, h.respIdx⟩, rfl, rfl⟩
  · obtain rfl := Except.ok.inj h
    exact ⟨id, rfl, rfl⟩

/-- A command leaves the parser idle. -/
theorem atRunCmd_idle (h : d.Idle) (hok : d.atRunCmd cmd op param late = .ok (ret, d')) : d'.Idle :=
  idle_kept.atRunCmd (fun hupdate => (updateStatus_keeps hupdate).1) hok h

lemma AtDriver.Reached.idle (h : d.Reached) : d.Idle := by
  induction h with
  | new arrivals => exact ⟨List.length_replicate, rfl, rfl⟩
  | call _ hbetween hrun ih => exact atRunCmd_idle (ih.interrupts hbetween) hrun

/-- What is known of a call that has been answered. -/
structure Recognised (d₀ d' w c v u : AtDriver) (j : ℕ) (resp : List UInt8) : Prop where
  mem : resp ∈ terminators
  get : responses[j]? = some resp
  buff : w.desc.result.buff.length = RESULT_BUFF_LEN ∧ v.desc.result.buff.length = RESULT_BUFF_LEN
  cut : ∃ k : UInt32, k.toNat = resp.length ∧
    c.desc.result = { w.desc.result with len := w.desc.result.len - k }
  out : d'.outLen = u.desc.result.len ∧ d'.appResultBuff = v.copyResult.appResultBuff
  received : w.received <+: d'.received
  scan : Emptied d₀ → ∃ i, d₀.Scanned w i (some j)

lemma interrupts_buff {irqs : List AtIrq} (h : d.desc.result.buff.length = RESULT_BUFF_LEN)
    (hirqs : d.interrupts irqs = .ok d') : d'.desc.result.buff.length = RESULT_BUFF_LEN := by
  refine AtDriver.interrupts_preserve (P := fun d => d.desc.result.buff.length = RESULT_BUFF_LEN) ?_ h hirqs
  intro d₁ d₂ irq hlen hirq
  rcases AtDriver.interrupt_next hirq with ⟨ch, -, hnext⟩ | ⟨-, hresult⟩
  · exact hnext.buff_length.trans hlen
  · exact hresult ▸ hlen

lemma output_kept : AtDriver.WaitKept fun d d' =>
    d'.outLen = d.outLen ∧ d'.appResultBuff = d.appResultBuff ∧ d.received <+: d'.received where
  refl _ := ⟨rfl, rfl, List.prefix_refl _⟩
  trans h h' := ⟨h'.1.trans h.1, h'.2.1.trans h.2.1, h.2.2.trans h'.2.2⟩
  interrupt {d d' irq} h := by
    unfold AtDriver.interrupt at h
    split at h
    · cases h
    next d₁ hstep =>
      obtain ⟨sys, -, rfl⟩ := AtDriver.step_ok hstep
      obtain rfl := Except.ok.inj h
      refine ⟨rfl, rfl, ?_⟩
      cases irq with
      | receive ch newCb => exact List.prefix_append _ _
      | error => exact List.prefix_refl _
  step e _ h := by
    obtain ⟨sys, -, rfl⟩ := AtDriver.step_ok h
    exact ⟨rfl, rfl, List.prefix_refl _⟩
  arrivals _ _ := ⟨rfl, rfl, List.prefix_refl _⟩

lemma level_or_behind_start {irqs : List AtIrq} {text data : List UInt8} {d₁ d₂ : AtDriver} (h₀ : d₀.Idle)
    (hempty : Emptied d₀) (hbetween : d₀.interrupts irqs = .ok d)
    (hwrite : AtDriver.uartWrite { d with cmd := text } data = .ok d₁) (hstart : d₁.step .startWait = .ok d₂) :
    d₀.Level d₂ ∨ d₀.Behind d₂ := by
  have hle : d₀.desc.result.len.toNat ≤ RESULT_BUFF_LEN := by
    rw [hempty]
    exact Nat.zero_le _
  have hcall := (AtDriver.Level.refl h₀.buff hle).interrupts hbetween
  have hcall' : d₀.Level { d with cmd := text, written := d.written ++ [data] } ∨
      d₀.Behind { d with cmd := text, written := d.written ++ [data] } := hcall
  have hnext : d₀.Level d₁ ∨ d₀.Behind d₁ :=
    AtDriver.mdelay_preserve (P := fun d => d₀.Level d ∨ d₀.Behind d)
      (fun _ _ _ hd hirq => AtDriver.level_or_behind hd hirq) (fun _ _ hd => hd) hcall' hwrite
  obtain ⟨sys, hsys, rfl⟩ := AtDriver.step_ok hstart
  obtain rfl := Except.ok.inj hsys
  have hresult : (if d₁.sys.wait.isNone = true then { d₁.sys with wait := some {} } else d₁.sys).desc =
      d₁.sys.desc := by
    split <;> rfl
  refine hnext.imp (fun ⟨bytes, hrec, hgrown⟩ => ⟨bytes, hrec, ?_⟩) fun ⟨bytes, hrec, hshort⟩ => ⟨bytes, hrec, ?_⟩
  · rw [AtDriver.desc, hresult]
    exact hgrown
  · rw [AtDriver.desc, hresult]
    exact hshort

lemma startWait_polled {d₁ d₂ : AtDriver} (h : d₁.Idle) (hstart : d₁.step .startWait = .ok d₂) :
    d₂.Polled 0 none ∧ d₂.Looked 0 none := by
  obtain ⟨sys, hsys, rfl⟩ := AtDriver.step_ok hstart
  obtain rfl := Except.ok.inj hsys
  rw [h.wait]
  have hzero : d₁.sys.desc.respIdx = [0, 0, 0, 0] := h.respIdx
  refine ⟨⟨h.buff, rfl, ⟨Nat.zero_le _, ?_, ?_⟩, nofun⟩, ⟨Nat.zero_le _, ?_, nofun, ?_⟩⟩
  · change ∀ idx ∈ d₁.sys.desc.respIdx, _
    intro idx hidx
    rw [hzero] at hidx
    rw [List.eq_of_mem_replicate (n := 4) hidx]
    exact Nat.zero_le _
  · intro _
    change List.Forall₂ _ _ d₁.sys.desc.respIdx
    rw [hzero]
    decide
  · intro _
    change List.Forall₂ _ _ d₁.sys.desc.respIdx
    rw [hzero]
    exact .cons (.nil _) (.cons (.nil _) (.cons (.nil _) (.cons (.nil _) .nil)))
  · intro n hn _ msg hmsg hsuffix
    obtain rfl := Nat.le_zero.mp hn
    have hlen := (responses_spec msg hmsg).2.1
    rw [List.take_zero, List.suffix_nil] at hsuffix
    rw [hsuffix] at hlen
    exact absurd hlen (by decide)

/-- A wait that succeeds has found OK or SEND OK, and has cut as many bytes off the result. -/
lemma waitForResponse_success (d₀ : AtDriver) {late : WaitIrqs} (hd : d.Idle)
    (h : d.waitForResponse late = .ok (SUCCESS, d')) :
    ∃ d₁ w₀ w c i j, d.step .startWait = .ok d₁ ∧
      AtDriver.pollResponses MODULE_TIMEOUT d₁ = .ok (some j, w₀) ∧ w₀.interrupts late.cut = .ok w ∧
      w.step .endWait = .ok c ∧ c.interrupts late.done = .ok d' ∧ w.Polled i (some j) ∧
      (d₀.Scanned d₁ 0 none → d₀.Scanned w i (some j)) ∧ (j = 2 ∨ j = 3) ∧
      c.desc.result = { w.desc.result with
        len := w.desc.result.len - (w.desc.respIdx.getD j 0).toUInt32 } := by
  obtain ⟨d₁, hstart, h⟩ := bind_eq_ok.mp h
  obtain ⟨⟨hit, w₀⟩, hpoll, h⟩ := bind_eq_ok.mp h
  obtain ⟨w, hcut, h⟩ := bind_eq_ok.mp h
  obtain ⟨c, hend, h⟩ := bind_eq_ok.mp h
  obtain ⟨d₂, hdone, h⟩ := bind_eq_ok.mp h
  have hfound : ∃ j, hit = some j ∧ (j = 2 ∨ j = 3) ∧ d' = d₂ := by
    split at h
    next => exact ⟨2, rfl, .inl rfl, (Prod.mk.inj (Except.ok.inj h)).2.symm⟩
    next => exact ⟨3, rfl, .inr rfl, (Prod.mk.inj (Except.ok.inj h)).2.symm⟩
    next => exact absurd (Prod.mk.inj (Except.ok.inj h)).1 (by decide)
  obtain ⟨j, rfl, hj, rfl⟩ := hfound
  obtain ⟨i, hpolled₀, hscan⟩ := AtDriver.pollResponses_scan (e := d₀) (startWait_polled hd hstart).1 hpoll
  have hpolled := hpolled₀.interrupts hcut
  refine ⟨d₁, w₀, w, c, i, j, hstart, hpoll, hcut, hend, hdone, hpolled,
    fun hd => (hscan hd).interrupts hcut, hj, ?_⟩
  obtain ⟨sys, hsys, rfl⟩ := AtDriver.step_ok hend
  simp only [AtSystem.step, hpolled.wait] at hsys
  obtain rfl := Except.ok.inj hsys
  rfl

/-- The output is filled from the result, which is copied first and then read for its length. -/
lemma fillOutput_some (h : d.fillOutput (some p) late = .ok (ret, d')) :
    ∃ v u, d.interrupts late.copy = .ok v ∧ v.copyResult.interrupts late.length = .ok u ∧
      d'.outLen = u.desc.result.len ∧ d'.appResultBuff = v.copyResult.appResultBuff ∧
      d.received <+: d'.received := by
  obtain ⟨d₁, hfill, h⟩ := bind_eq_ok.mp h
  obtain ⟨v, hcopy, hfill⟩ := bind_eq_ok.mp hfill
  obtain ⟨u, hlength, hfill⟩ := bind_eq_ok.mp hfill
  obtain ⟨x, hclear, hfill⟩ := bind_eq_ok.mp hfill
  obtain ⟨d₂, herrors, h⟩ := bind_eq_ok.mp h
  refine ⟨v, u, hcopy, hlength, ?_⟩
  have hlast : d'.outLen = d₂.outLen ∧ d'.appResultBuff = d₂.appResultBuff ∧ d₂.received <+: d'.received := by
    dsimp only at h
    split at h
    · obtain ⟨d₃, hset, h⟩ := bind_eq_ok.mp h
      obtain ⟨-, rfl⟩ := Prod.mk.inj (Except.ok.inj h)
      exact output_kept.step .clearErrors trivial hset
    · obtain ⟨-, rfl⟩ := Prod.mk.inj (Except.ok.inj h)
      exact output_kept.refl _
  obtain ⟨hlen, hbytes, hreceived⟩ := output_kept.trans (output_kept.trans (output_kept.interrupts hclear)
    (output_kept.step .clearResult trivial hfill)) (output_kept.trans (output_kept.interrupts herrors) hlast)
  obtain ⟨-, -, hcopied⟩ := output_kept.interrupts hcopy
  obtain ⟨-, hkept, hread⟩ := output_kept.interrupts hlength
  exact ⟨hlen, hbytes.trans hkept, (hcopied.trans hread).trans hreceived⟩

lemma atRunCmd_recognised {irqs : List AtIrq} (h₀ : d₀.Idle) (hbetween : d₀.interrupts irqs = .ok d)
    (hwaits : WaitsOnce d cmd op p) (hok : d.atRunCmd cmd op (some p) late = .ok (SUCCESS, d')) :
    ∃ j w c v u resp, Answered d cmd op p late j w c v u ∧ Recognised d₀ d' w c v u j resp := by
  have hfail : SUCCESS ≠ FAILURE := by decide
  by_cases hrefused : cmd = .atSetTransportMode ∨ op ∉ (gMap cmd).type
  · rw [atRunCmd_refused hrefused] at hok
    exact absurd (Prod.mk.inj (Except.ok.inj hok)).1.symm hfail
  obtain ⟨hcmd, hop⟩ := not_or.mp hrefused
  rw [atRunCmd_built hcmd (not_not.mp hop)] at hok
  split at hok
  · cases hok
  next text hbuild =>
  split at hok
  next hspecial =>
    obtain rfl := hspecial.resolve_right hwaits.reset
    exact absurd (Prod.mk.inj (Except.ok.inj hok)).1.symm hfail
  obtain ⟨⟨code, v₀⟩, hsend, hok⟩ := bind_eq_ok.mp hok
  -- `send_cmd` writes the command and waits once
  obtain ⟨d₁, hwrite, hsend⟩ := bind_eq_ok.mp hsend
  have hidle₀ := h₀.interrupts hbetween
  have hidle : d₁.Idle := idle_kept.uartWrite hwrite ⟨hidle₀.buff, hidle₀.wait, hidle₀.respIdx⟩
  have hdisconnect : ¬(cmd = .atDisconnectNetwork ∧ d₁.desc.isWifiConnected = true) := by
    rintro ⟨hcmd, hconnected⟩
    rw [hwaits.disconnect hcmd text d₁ hbuild hwrite] at hconnected
    cases hconnected
  rw [if_neg hwaits.send, if_neg hdisconnect] at hsend
  dsimp only at hok
  split at hok
  next herr =>
    obtain ⟨rfl, -⟩ := Prod.mk.inj (Except.ok.inj hok)
    cases herr
  next herr =>
  have hcode : code = SUCCESS := by
    obtain ⟨d₂, -, hsend⟩ := bind_eq_ok.mp hsend
    obtain ⟨⟨hit, d₃⟩, -, hsend⟩ := bind_eq_ok.mp hsend
    obtain ⟨d₄, -, hsend⟩ := bind_eq_ok.mp hsend
    obtain ⟨d₅, -, hsend⟩ := bind_eq_ok.mp hsend
    obtain ⟨d₆, -, hsend⟩ := bind_eq_ok.mp hsend
    split at hsend
    · exact (Prod.mk.inj (Except.ok.inj hsend)).1.symm
    · exact (Prod.mk.inj (Except.ok.inj hsend)).1.symm
    · obtain rfl := (Prod.mk.inj (Except.ok.inj hsend)).1
      exact absurd rfl herr
  subst hcode
  obtain ⟨d₂, w₀, w, c, i, j, hstart, hpoll, hcut, hend, hdone, hpolled, hscan, hj, hresult⟩ :=
    waitForResponse_success d₀ hidle hsend
  -- the output
  obtain ⟨v₁, hupdate, hok⟩ := bind_eq_ok.mp hok
  obtain ⟨-, hreceived, hresult'⟩ := updateStatus_keeps hupdate
  obtain ⟨v, u, hcopy, hlength, hlen, hbytes, hmore⟩ := fillOutput_some hok
  obtain ⟨resp, hget, hidx⟩ := hpolled.cut j rfl
  have hbuff : c.desc.result.buff.length = RESULT_BUFF_LEN := by
    rw [hresult]
    exact hpolled.buff
  refine ⟨j, w, c, v, u, resp, ⟨⟨text, d₁, d₂, w₀, hbuild, hwrite, hstart, hpoll, hcut⟩, hend,
    ⟨v₀, v₁, hdone, hupdate, hcopy⟩, hlength⟩, ?_, hget, ⟨hpolled.buff, ?_⟩,
    ⟨(w.desc.respIdx.getD j 0).toUInt32, ?_, hresult⟩, ⟨hlen, hbytes⟩, ?_, ?_⟩
  · rcases hj with rfl | rfl
    · obtain rfl := Option.some.inj hget
      decide
    · obtain rfl := Option.some.inj hget
      decide
  · refine interrupts_buff ?_ hcopy
    rw [hresult']
    exact interrupts_buff hbuff hdone
  · rw [UInt8.toNat_toUInt32, hidx]
  · have hwait := (output_kept.step .endWait trivial hend).2.2.trans (output_kept.interrupts hdone).2.2
    exact hwait.trans (hreceived ▸ hmore)
  · intro hempty
    have hlooked := (startWait_polled hidle hstart).2
    exact ⟨i, hscan ((level_or_behind_start h₀ hempty hbetween hwrite hstart).imp_left fun h => ⟨h, hlooked⟩)⟩

lemma terminators_suffix : ∀ a ∈ terminators, ∀ b ∈ terminators, a <:+ b → a = b := by decide

lemma terminators_length : ∀ resp ∈ terminators, resp.length ≤ 255 := by decide

namespace Recognised

variable (h : Recognised d₀ d' w c v u j resp)

include h

lemma since_prefix : d₀.since w <+: d₀.since d' := h.received.drop _

/-- A result that is left alone is copied as the cut has left it. -/
lemma output_eq (hquiet : Undisturbed c v u) : d'.outLen = c.desc.result.len ∧ d'.output = c.collected := by
  obtain ⟨hlen, hbytes⟩ := h.out
  have hout : d'.outLen = v.desc.result.len := hlen.trans hquiet.length
  refine ⟨hout.trans hquiet.copy, ?_⟩
  rw [AtDriver.output, hbytes, hout, ← hquiet.bytes]
  unfold AtDriver.collected AtDriver.copyResult
  have hbuff := h.buff.2
  rcases Nat.le_total v.desc.result.len.toNat RESULT_BUFF_LEN with hle | hle
  · have hfit : (v.desc.result.buff.take v.desc.result.len.toNat).length = v.desc.result.len.toNat := by
      rw [List.length_take, hbuff, Nat.min_eq_left hle]
    rw [List.take_take, Nat.min_eq_left hle, List.take_append_of_le_length hfit.ge, List.take_take, Nat.min_self]
  · rw [List.take_of_length_le (l := v.desc.result.buff) (hbuff.le.trans hle),
      List.take_append_of_le_length hbuff.ge, List.take_of_length_le hbuff.le,
      List.take_of_length_le (hbuff.le.trans hle)]

lemma right_iff (hquiet : Undisturbed c v u) : ResultRight d₀ d' ↔ Fits d₀ d' w j := by
  obtain ⟨hlen, hout⟩ := h.output_eq hquiet
  obtain ⟨k, hk, hcut⟩ := h.cut
  have hbytes : d'.output = w.desc.result.buff.take (w.desc.result.len - k).toNat := by
    rw [hout, AtDriver.collected, hcut]
  have hshort := terminators_length resp h.mem
  rw [hcut] at hlen
  constructor
  · rintro ⟨text, msg, hfirst, htext, rfl⟩
    -- the length has not wrapped around
    rw [hlen] at htext
    have hfit : (w.desc.result.len - k).toNat ≤ RESULT_BUFF_LEN := by
      rw [htext, hbytes, List.length_take, h.buff.1]
      exact Nat.min_le_right _ _
    have hwrap : w.desc.result.len.toNat = (w.desc.result.len - k).toNat + k.toNat := by
      have hlt := w.desc.result.len.toNat_lt
      unfold RESULT_BUFF_LEN at hfit
      rw [UInt32.toNat_sub] at hfit ⊢
      lia
    refine ⟨d'.output, msg, resp, h.get, hfirst, ?_, ?_⟩
    · rw [hbytes, AtDriver.collected]
      exact List.take_prefix_take_left (by lia)
    · rw [hwrap, htext, hk]
  · rintro ⟨text, msg, resp', hget, hfirst, hpre, hfit⟩
    obtain rfl := Option.some.inj (h.get.symm.trans hget)
    have hnum : (w.desc.result.len - k).toNat = text.length := by
      rw [Word.toNat_sub_of_le (by lia), hfit, hk, Nat.add_sub_cancel]
    refine ⟨text, msg, hfirst, (congrArg UInt32.toNat hlen).trans hnum, ?_⟩
    have htext := List.prefix_iff_eq_take.mp hpre
    rw [AtDriver.collected, List.take_take, Nat.min_eq_left (by lia)] at htext
    rw [hbytes, hnum]
    exact htext.symm

/-- As long as every byte is kept, the result fits if and only if the response is the last of them. -/
lemma fits_iff (hempty : Emptied d₀) (hkept : KeptAll d₀ w) : Fits d₀ d' w j ↔ CaughtUp d₀ w j := by
  rw [KeptAll, hempty.collected, List.nil_append] at hkept
  have hlen := hkept.len
  have hcollected : w.collected = d₀.since w := by rw [AtDriver.collected, hlen, hkept.bytes]
  constructor
  · rintro ⟨text, msg, resp', hget, hfirst, hpre, hfit⟩
    obtain rfl := Option.some.inj (h.get.symm.trans hget)
    obtain ⟨i, hscan⟩ := h.scan hempty
    have hlooked : w.Looked i (some j) := by
      rcases hscan with ⟨-, hlooked⟩ | ⟨bytes, hbytes, hshort⟩
      · exact hlooked
      · have hsince : d₀.since w = bytes := by
          rw [AtDriver.since, hbytes, List.drop_left']
          rfl
        have hor := hshort.len
        have hle := hkept.le
        rw [hempty.collected, List.length_nil, ← hsince] at hor
        rw [← hlen] at hor hle
        unfold RESULT_BUFF_LEN at hle
        lia
    have hi := hlooked.le
    rw [hcollected] at hi
    -- the response that has been found is the first terminator
    obtain ⟨resp', hget', front, hfront⟩ := hlooked.found j rfl
    obtain rfl := Option.some.inj (h.get.symm.trans hget')
    rw [hcollected] at hfront
    have hlength : (front ++ resp).length = i.toNat := by
      rw [hfront, List.length_take, Nat.min_eq_left hi]
    have hfound : FirstOf terminators (d₀.since w) front resp := by
      refine .of_miss h.mem (hfront ▸ List.take_prefix _ _) fun n hn m hm => ?_
      rw [hlength] at hn
      exact hcollected ▸ hlooked.miss n hn.le (.inl hn) m (List.mem_of_mem_drop hm)
    obtain ⟨rfl, -⟩ := (hfound.mono h.since_prefix).unique terminators_suffix hfirst
    refine ⟨front, resp, h.get, hfound, hfound.pre.eq_of_length ?_⟩
    rw [← hlen, hfit, List.length_append]
  · rintro ⟨text, msg, hget, hfirst, hlast⟩
    refine ⟨text, msg, msg, hget, hfirst.mono h.since_prefix, ?_, ?_⟩
    · rw [hcollected, ← hlast]
      exact List.prefix_append _ _
    · rw [hlen, ← hlast, List.length_append]

end Recognised

/-- A new parser, and the bytes that arrive in the first delay of a wait. -/
def beforeAnswer (bytes : List UInt8) : AtDriver where
  arrivals := [[], bytes.map fun ch => .receive ch none]

/-- `"v\r\nOK\r\n"` -/
def versionAnswer : List UInt8 := [118, 13, 10, 79, 75, 13, 10]

/-- A payload of one byte -/
def payloadBytes : List UInt8 := [13, 10] ++ PUI8 "+IPD,1:x"

/-- A payload arrives before the response is cut off, and two bytes behind the copy. -/
def payloadLate : CallIrqs where
  wait := { cut := payloadBytes.map fun ch => .receive ch none }
  clear := [.receive 13 none, .receive 10 none]

/-- The parser before the loop of the wait. -/
def answerWait (bytes : List UInt8) : AtDriver :=
  { beforeAnswer bytes with
    sys := { wait := some {} }
    cmd := PUI8 "AT+GMR" ++ [13, 10]
    arrivals := [bytes.map fun ch => .receive ch none]
    written := [PUI8 "AT+GMR" ++ [13, 10]] }

lemma answered_version {bytes : List UInt8} {late : CallIrqs} (hdone : late.wait.done = [])
    (hcopy : late.copy = []) (hlength : late.length = [])
    (h : Answered (beforeAnswer bytes) .atGetVersion .atExecuteOp {} late j w c v u) :
    (AtDriver.pollResponses MODULE_TIMEOUT (answerWait bytes) >>= fun r =>
      r.2.interrupts late.wait.cut >>= fun w => .ok (r.1, w)) = .ok (some j, w) ∧ Undisturbed c v u := by
  obtain ⟨text, d₁, d₂, w₀, hbuild, hwrite, hstart, hpoll, hcut⟩ := h.found
  obtain rfl := Except.ok.inj hbuild
  obtain rfl := Except.ok.inj hwrite
  obtain rfl := Except.ok.inj hstart
  refine ⟨bind_eq_ok.mpr ⟨_, hpoll, bind_eq_ok.mpr ⟨w, hcut, rfl⟩⟩, ?_⟩
  obtain ⟨v₀, v₁, hv₀, hv₁, hv⟩ := h.copy
  have hu := h.length
  rw [hdone] at hv₀
  rw [hcopy] at hv
  rw [hlength] at hu
  obtain rfl := Except.ok.inj hv₀
  obtain rfl := Except.ok.inj hv₁
  obtain rfl := Except.ok.inj hv
  obtain rfl := Except.ok.inj hu
  exact ⟨rfl, rfl, rfl⟩

end NoOS
