import NoOS.Network.AtRunCmdFrame

/-!
# The status that commands set

`multiple_conections` and the types of the connections change only behind `send_cmd`. For the
connection type this does not depend on the operation, so that a query sets it as well.
-/

namespace NoOS

namespace AtDriver

/-- The status of the connections is the same. -/
structure SameStatus (d d' : AtDriver) : Prop where
  multipleConections : d'.desc.multipleConections = d.desc.multipleConections
  connType : d'.connType = d.connType

variable {d d' : AtDriver}

lemma step_ok {e : AtEvent} (h : d.step e = .ok d') :
    ∃ sys, d.sys.step e = .ok sys ∧
      d' = { d with sys := sys, prompted := if e = .waitSend then false else d.prompted } := by
  unfold step at h
  split at h
  · cases h
  next sys hsys => exact ⟨sys, hsys, (Except.ok.inj h).symm⟩

lemma interrupt_ok {irq : AtIrq} (h : d.interrupt irq = .ok d') :
    d.desc.IrqFrame d'.desc ∧ d'.connType = d.connType := by
  unfold interrupt at h
  split at h
  · cases h
  next d₁ hstep =>
    obtain ⟨sys, hsys, rfl⟩ := step_ok hstep
    obtain rfl := Except.ok.inj h
    exact ⟨irq_frame hsys, rfl⟩

lemma step_multiple {e : AtEvent} {s s' : AtSystem} (he : e.Internal) (h : s.step e = .ok s') :
    s'.desc.multipleConections = s.desc.multipleConections := by
  cases e with
  | receive | uartError | setMultiple => exact he.elim
  | resetModule | resetDone | waitSend | clearResult | clearErrors =>
    obtain rfl := Except.ok.inj h
    rfl
  | startWait =>
    obtain rfl := Except.ok.inj h
    split <;> rfl
  | pollWait =>
    simp only [AtSystem.step] at h
    split at h
    · rcases pollResponse_ok h with rfl | ⟨c, hit, idxs, -, -, rfl⟩
      · rfl
      · rfl
    · obtain rfl := Except.ok.inj h
      rfl
  | endWait =>
    simp only [AtSystem.step] at h
    split at h
    · obtain rfl := Except.ok.inj h
      rfl
    · obtain rfl := Except.ok.inj h
      rfl

lemma sameStatus_kept : Kept SameStatus where
  refl _ := ⟨rfl, rfl⟩
  trans h h' := ⟨h'.multipleConections.trans h.multipleConections, h'.connType.trans h.connType⟩
  interrupt h := by
    obtain ⟨hframe, htype⟩ := interrupt_ok h
    exact ⟨hframe.multipleConections, htype⟩
  step e he h := by
    obtain ⟨sys, hsys, rfl⟩ := step_ok h
    exact ⟨step_multiple he hsys, rfl⟩
  arrivals _ _ := ⟨rfl, rfl⟩
  thread hsys htype _ := ⟨congrArg (fun s => s.desc.multipleConections) hsys, htype⟩

end AtDriver

section Status

variable (d : AtDriver) (cmd : AtCmdId) (op : CmdOperation) (param : Option InParam)

/-- The module has answered the command with OK or SEND OK. -/
def Acknowledged : Prop :=
  ∃ text ret d', buildCmd d.desc d.connType cmd op param = .ok text ∧
    AtDriver.sendCmd { d with cmd := text } cmd param = .ok (ret, d') ∧ isErrValue ret = false

/-- The connection of the parameter. -/
def paramConn (p : InParam) : Except AtFault (Fin MAX_CONNECTIONS) :=
  connIndex (if d.desc.multipleConections then p.word.toNat else 0)

/-- The status `d'` is the one that has been sent. -/
structure StatusSent (d' : AtDriver) (p : InParam) : Prop where
  multipleConections : d'.desc.multipleConections =
    if cmd = .atSetConnectionType then decide (p.word ≠ 0) else d.desc.multipleConections
  connType : if cmd = .atStartConnection then ∃ id, paramConn d p = .ok id ∧
      d'.connType = Function.update d.connType id p.connection.soketType
    else d'.connType = d.connType

/-- The status changes only by an acknowledged set operation, and then to what was sent. -/
def StatusOk (d' : AtDriver) : Prop :=
  (¬(op = .atSetOp ∧ Acknowledged d cmd op param) → d.SameStatus d') ∧
    (op = .atSetOp → Acknowledged d cmd op param → ∀ p ∈ param, StatusSent d cmd d' p)

/-- Nothing is said about a fault of the callback. -/
structure StatusRight : Prop where
  fault : CallbackOnly (d.atRunCmd cmd op param)
  ok : ∀ {ret : ℤ} {d' : AtDriver}, d.atRunCmd cmd op param = .ok (ret, d') →
    StatusOk d cmd op param d'

/-- A query of the connection type whose parameter happens to hold the present type, and
connection ids of the parser. -/
structure StatusCond : Prop where
  query : cmd = .atSetConnectionType → op = .atQueryOp → Acknowledged d cmd op param →
    ∃ p ∈ param, decide (p.word ≠ 0) = d.desc.multipleConections
  start : cmd = .atStartConnection → op = .atSetOp → Acknowledged d cmd op param →
    ∀ p ∈ param, ∃ id, paramConn d p = .ok id
  send : cmd = .atSend → op = .atSetOp → ∀ p ∈ param, ∃ id, paramConn d p = .ok id

end Status

variable {d d' : AtDriver} {cmd : AtCmdId} {op : CmdOperation} {param : Option InParam} {p : InParam}
  {text : List UInt8} {ret : ℤ}

lemma cmdParams_error {desc : AtDesc} {type : Fin MAX_CONNECTIONS → SocketType} {f : AtFault}
    (h : cmdParams desc type cmd p = .error f) : cmd = .atSend ∧
      connIndex (if desc.multipleConections then p.word.toNat else 0) = .error f := by
  cases cmd with
  | atSend =>
    simp only [cmdParams] at h
    split at h
    next hconn => exact ⟨rfl, by rw [hconn, Except.error.inj h]⟩
    · split_ifs at h
  | atStartConnection =>
    simp only [cmdParams] at h
    split_ifs at h
  | atSetServer =>
    simp only [cmdParams] at h
    split_ifs at h
  | _ => cases h

lemma buildCmd_error {f : AtFault} (h : buildCmd d.desc d.connType cmd op param = .error f) :
    cmd = .atSend ∧ op = .atSetOp ∧ ∃ p ∈ param, paramConn d p = .error f := by
  cases op with
  | atTestOp | atQueryOp | atExecuteOp => cases h
  | atSetOp =>
    cases param with
    | none => cases h
    | some p =>
      simp only [buildCmd, concatCmdParam] at h
      cases hargs : cmdParams d.desc d.connType cmd p with
      | ok args =>
        rw [hargs] at h
        cases h
      | error e =>
        rw [hargs] at h
        obtain ⟨hcmd, hconn⟩ := cmdParams_error hargs
        exact ⟨hcmd, rfl, p, rfl, by rw [paramConn, hconn, Except.error.inj h]⟩

lemma fillOutput_sameStatus (h : d.fillOutput param = .ok (ret, d')) : d.SameStatus d' := by
  rw [fillOutput_eq] at h
  obtain ⟨-, rfl⟩ := Prod.mk.inj (Except.ok.inj h)
  exact ⟨rfl, rfl⟩

lemma finishCmd_sameStatus (hcmd : cmd ≠ .atSetConnectionType)
    (hstart : ¬(cmd = .atStartConnection ∧ op = .atSetOp))
    (h : d.finishCmd cmd op param = .ok (ret, d')) : d.SameStatus d' :=
  AtDriver.sameStatus_kept.call.finishCmd_of_ne hcmd hstart h

lemma handleSpecial_sameStatus (h : d.handleSpecial cmd = .ok (ret, d')) : d.SameStatus d' :=
  AtDriver.sameStatus_kept.call.handleSpecial h

/-- With an acknowledgement the status is that of `updateStatus`. -/
lemma finishCmd_acked {d₁ d₂ : AtDriver} (hsend : d.sendCmd cmd param = .ok (ret, d₁))
    (hret : isErrValue ret = false) (hupdate : d₁.updateStatus cmd op param = .ok d₂) :
    ∃ ret' d', d.finishCmd cmd op param = .ok (ret', d') ∧ d₂.SameStatus d' := by
  obtain ⟨ret', d', hfill⟩ : ∃ ret' d', d₂.fillOutput param = .ok (ret', d') :=
    ⟨_, _, fillOutput_eq d₂ param⟩
  refine ⟨ret', d', ?_, fillOutput_sameStatus hfill⟩
  refine bind_eq_ok.mpr ⟨(ret, d₁), hsend, ?_⟩
  dsimp only
  rw [hret, if_neg Bool.false_ne_true]
  exact bind_eq_ok.mpr ⟨d₂, hupdate, hfill⟩

lemma finishCmd_unacked (hsend : ∀ ret d₁, d.sendCmd cmd param = .ok (ret, d₁) → isErrValue ret = true) :
    match d.finishCmd cmd op param with
    | .error f => d.sendCmd cmd param = .error f
    | .ok (_, d') => d.SameStatus d' := by
  cases h : d.sendCmd cmd param with
  | error f =>
    have hrun : d.finishCmd cmd op param = .error f := by
      rw [AtDriver.finishCmd, h]
      rfl
    simp only [hrun]
  | ok r =>
    obtain ⟨ret, d₁⟩ := r
    have hrun : d.finishCmd cmd op param = .ok (ret, d₁) := by
      rw [AtDriver.finishCmd, h]
      exact if_pos (hsend ret d₁ h)
    simp only [hrun]
    exact AtDriver.sameStatus_kept.call.sendCmd h

lemma finishCmd_callbackOnly (hsend : cmd = .atSend → param.isSome = true)
    (hcmd : cmd ≠ .atSetConnectionType) (hstart : ¬(cmd = .atStartConnection ∧ op = .atSetOp)) :
    CallbackOnly (d.finishCmd cmd op param) := by
  refine CallbackOnly.bind (CallbackOnly.sendCmd cmd hsend) fun r => ?_
  dsimp only
  split_ifs
  · exact CallbackOnly.ok
  · rw [updateStatus_of_ne hcmd hstart]
    intro f h
    rw [show (Except.ok r.2 >>= fun d => d.fillOutput param) = r.2.fillOutput param from rfl,
      fillOutput_eq] at h
    cases h

lemma handleSpecial_callbackOnly : CallbackOnly (d.handleSpecial cmd) := by
  cases cmd with
  | atReset =>
    refine CallbackOnly.bind (CallbackOnly.step _) fun d₁ =>
      CallbackOnly.bind (CallbackOnly.uartWrite _) fun d₂ =>
      CallbackOnly.bind (CallbackOnly.postTest _ _) fun r => ?_
    split
    split_ifs
    · exact CallbackOnly.ok
    · refine CallbackOnly.bind (CallbackOnly.step _) fun d₄ =>
        CallbackOnly.bind (CallbackOnly.step _) fun d₅ =>
        CallbackOnly.bind CallbackOnly.stopEcho fun r => ?_
      dsimp only
      split_ifs
      · exact CallbackOnly.ok
      · refine CallbackOnly.bind ?_ fun r => CallbackOnly.ok
        exact finishCmd_callbackOnly nofun nofun (by decide)
  | _ => exact CallbackOnly.ok

lemma atRunCmd_refused {late : CallIrqs} (h : cmd = .atSetTransportMode ∨ op ∉ (gMap cmd).type) :
    d.atRunCmd cmd op param late = .ok (FAILURE, d) := by
  unfold AtDriver.atRunCmd AtDriver.atRunCmdWith
  rcases h with h | h
  · rw [if_pos h]
  · split_ifs
    · rfl
    · rfl

lemma atRunCmd_built {late : CallIrqs} (hcmd : cmd ≠ .atSetTransportMode) (hop : op ∈ (gMap cmd).type) :
    d.atRunCmd cmd op param late =
      match buildCmd d.desc d.connType cmd op param with
      | .error _ => .error .connId
      | .ok text =>
        if cmd = .atDeepSleep ∨ cmd = .atReset then AtDriver.handleSpecial { d with cmd := text } cmd
        else AtDriver.finishCmd { d with cmd := text } cmd op param late := by
  unfold AtDriver.atRunCmd AtDriver.atRunCmdWith
  exact (if_neg hcmd).trans (if_neg (not_not_intro hop))

lemma StatusOk.of_same (hcmd : cmd ≠ .atSetConnectionType) (hstart : cmd ≠ .atStartConnection)
    (h : d.SameStatus d') : StatusOk d cmd op param d' := by
  refine ⟨fun _ => h, fun _ _ p _ => ⟨?_, ?_⟩⟩
  · rw [if_neg hcmd]
    exact h.multipleConections
  · rw [if_neg hstart]
    exact h.connType

lemma StatusOk.of_unacked (hno : ¬(op = .atSetOp ∧ Acknowledged d cmd op param))
    (h : d.SameStatus d') : StatusOk d cmd op param d' :=
  ⟨fun _ => h, fun hop hack => absurd ⟨hop, hack⟩ hno⟩

/-- A result whose faults are those of the callback and whose status is right. -/
lemma StatusRight.of_result {x : AtRunResult} (hx : d.atRunCmd cmd op param = x)
    (hfault : CallbackOnly x) (hok : ∀ ret d', x = .ok (ret, d') → StatusOk d cmd op param d') :
    StatusRight d cmd op param := by
  constructor
  · rwa [hx]
  · intro ret d' h
    exact hok ret d' (hx ▸ h)

lemma not_statusRight {f : AtRunFault} (hrun : d.atRunCmd cmd op param = .error f)
    (hf : f = .nullParam ∨ f = .connId) : ¬StatusRight d cmd op param := by
  intro h
  obtain ⟨g, rfl⟩ := h.fault f hrun
  rcases hf with hf | hf
  · cases hf
  · cases hf

lemma statusRight_neutral (hcmd : cmd ≠ .atSetConnectionType) (hstart : cmd ≠ .atStartConnection)
    (hparam : op = .atSetOp → param.isSome = true) :
    StatusRight d cmd op param ↔
      (cmd = .atSend → op = .atSetOp → ∀ p ∈ param, ∃ id, paramConn d p = .ok id) := by
  by_cases hrefused : cmd = .atSetTransportMode ∨ op ∉ (gMap cmd).type
  · have hrun := @atRunCmd_refused d cmd op param {} hrefused
    refine iff_of_true (.of_result hrun CallbackOnly.ok ?_) ?_
    · intro ret d' h
      obtain ⟨-, rfl⟩ := Prod.mk.inj (Except.ok.inj h)
      exact .of_same hcmd hstart (AtDriver.sameStatus_kept.refl _)
    · rintro rfl rfl
      exact absurd hrefused (by decide)
  obtain ⟨htransport, hop⟩ := not_or.mp hrefused
  have hrun := @atRunCmd_built d cmd op param {} htransport (not_not.mp hop)
  cases hbuild : buildCmd d.desc d.connType cmd op param with
  | error f =>
    obtain ⟨hsend, hset, p, hp, hconn⟩ := buildCmd_error hbuild
    rw [hbuild] at hrun
    refine iff_of_false ?_ ?_
    · exact not_statusRight hrun (.inr rfl)
    · intro hids
      obtain ⟨id, hid⟩ := hids hsend hset p hp
      rw [hconn] at hid
      cases hid
  | ok text =>
    rw [hbuild] at hrun
    refine iff_of_true (.of_result hrun ?_ ?_) ?_
    · dsimp only
      split_ifs
      · exact handleSpecial_callbackOnly
      · refine finishCmd_callbackOnly ?_ hcmd fun h => hstart h.1
        rintro rfl
        exact hparam (by simpa [gMap] using hop)
    · intro ret d' h
      refine .of_same hcmd hstart ?_
      dsimp only at h
      split_ifs at h
      · have hsame := handleSpecial_sameStatus h
        exact ⟨hsame.multipleConections, hsame.connType⟩
      · have hsame := finishCmd_sameStatus hcmd (fun h => hstart h.1) h
        exact ⟨hsame.multipleConections, hsame.connType⟩
    · rintro rfl rfl p hp
      cases hconn : paramConn d p with
      | ok id => exact ⟨id, rfl⟩
      | error f =>
        rw [paramConn] at hconn
        obtain rfl : param = some p := hp
        simp only [buildCmd, concatCmdParam, cmdParams, hconn] at hbuild
        cases hbuild

/-- The commands with a status are built and sent like any other. -/
lemma atRunCmd_finish (hcmd : cmd = .atSetConnectionType ∨ cmd = .atStartConnection)
    (hop : op ∈ (gMap cmd).type) : ∃ text, buildCmd d.desc d.connType cmd op param = .ok text ∧
      d.atRunCmd cmd op param = AtDriver.finishCmd { d with cmd := text } cmd op param := by
  cases hbuild : buildCmd d.desc d.connType cmd op param with
  | error f =>
    obtain ⟨rfl, -⟩ := buildCmd_error hbuild
    exact absurd hcmd (by decide)
  | ok text =>
    refine ⟨text, rfl, ?_⟩
    have htransport : cmd ≠ .atSetTransportMode := by
      rintro rfl
      exact absurd hcmd (by decide)
    have hspecial : ¬(cmd = .atDeepSleep ∨ cmd = .atReset) := by
      rintro (rfl | rfl)
      · exact absurd hcmd (by decide)
      · exact absurd hcmd (by decide)
    rw [atRunCmd_built htransport hop, hbuild]
    exact if_neg hspecial

lemma statusRight_unacked (hcmd : cmd ≠ .atSend) (hno : ¬Acknowledged d cmd op param)
    (hbuild : buildCmd d.desc d.connType cmd op param = .ok text)
    (hrun : d.atRunCmd cmd op param = AtDriver.finishCmd { d with cmd := text } cmd op param) :
    StatusRight d cmd op param := by
  have hsend : ∀ ret d₁, AtDriver.sendCmd { d with cmd := text } cmd param = .ok (ret, d₁) →
      isErrValue ret = true := by
    intro ret d₁ h
    by_contra hret
    exact hno ⟨text, ret, d₁, hbuild, h, Bool.not_eq_true _ ▸ hret⟩
  have hresult := @finishCmd_unacked { d with cmd := text } cmd op param hsend
  refine .of_result hrun ?_ ?_
  · intro f hf
    rw [hf] at hresult
    exact CallbackOnly.sendCmd cmd (fun h => absurd h hcmd) f hresult
  · intro ret d' h
    rw [h] at hresult
    exact .of_unacked (fun hand => hno hand.2) ⟨hresult.multipleConections, hresult.connType⟩

lemma Acknowledged.run (hack : Acknowledged d cmd op param)
    (hbuild : buildCmd d.desc d.connType cmd op param = .ok text) : ∃ d₁, d.SameStatus d₁ ∧
      (∀ f, d₁.updateStatus cmd op param = .error f →
        AtDriver.finishCmd { d with cmd := text } cmd op param = .error f) ∧
      ∀ d₂, d₁.updateStatus cmd op param = .ok d₂ → ∃ ret d',
        AtDriver.finishCmd { d with cmd := text } cmd op param = .ok (ret, d') ∧ d₂.SameStatus d' := by
  obtain ⟨text', ret, d₁, hbuild', hsend, hret⟩ := hack
  obtain rfl := Except.ok.inj (hbuild.symm.trans hbuild')
  have hsame := AtDriver.sameStatus_kept.call.sendCmd hsend
  refine ⟨d₁, ⟨hsame.multipleConections, hsame.connType⟩, fun f hf => ?_, fun d₂ hok =>
    finishCmd_acked hsend hret hok⟩
  rw [AtDriver.finishCmd, hsend]
  change (if isErrValue ret = true then _ else _) = _
  rw [hret, if_neg Bool.false_ne_true, hf]
  rfl

lemma statusRight_ok_iff (hrun : d.atRunCmd cmd op param = .ok (ret, d')) :
    StatusRight d cmd op param ↔ StatusOk d cmd op param d' := by
  refine ⟨fun h => h.ok hrun, fun h => .of_result hrun CallbackOnly.ok ?_⟩
  intro ret' d'' heq
  obtain ⟨-, rfl⟩ := Prod.mk.inj (Except.ok.inj heq)
  exact h

lemma statusRight_connectionType (hparam : op = .atSetOp → param.isSome = true) :
    StatusRight d .atSetConnectionType op param ↔
      (op = .atQueryOp → Acknowledged d .atSetConnectionType op param →
        ∃ p ∈ param, decide (p.word ≠ 0) = d.desc.multipleConections) := by
  by_cases hop : op ∈ (gMap .atSetConnectionType).type
  swap
  · refine iff_of_true (.of_result (atRunCmd_refused (.inr hop)) CallbackOnly.ok ?_) ?_
    · intro ret d' h
      obtain ⟨-, rfl⟩ := Prod.mk.inj (Except.ok.inj h)
      refine .of_unacked ?_ (AtDriver.sameStatus_kept.refl _)
      rintro ⟨rfl, -⟩
      exact hop (by decide)
    · rintro rfl
      exact absurd (by decide) hop
  obtain ⟨text, hbuild, hrun⟩ := atRunCmd_finish (.inl rfl) hop
  by_cases hack : Acknowledged d .atSetConnectionType op param
  swap
  · exact iff_of_true (statusRight_unacked nofun hack hbuild hrun) fun _ h => absurd h hack
  obtain ⟨d₁, hsame, herror, hok⟩ := hack.run hbuild
  cases param with
  | none =>
    refine iff_of_false (not_statusRight (hrun.trans (herror _ rfl)) (.inl rfl)) ?_
    intro hquery
    cases op with
    | atQueryOp =>
      obtain ⟨p, hp, -⟩ := hquery rfl hack
      cases hp
    | atSetOp => cases hparam rfl
    | atTestOp => exact absurd hop (by decide)
    | atExecuteOp => exact absurd hop (by decide)
  | some p =>
    obtain ⟨ret, d', hfinish, hlast⟩ := hok _ rfl
    have hmul : d'.desc.multipleConections = decide (p.word ≠ 0) := hlast.multipleConections
    have htype : d'.connType = d.connType := hlast.connType.trans hsame.connType
    rw [statusRight_ok_iff (hrun.trans hfinish)]
    constructor
    · rintro hstatus rfl -
      have hkeep := hstatus.1 (fun h => nomatch h.1)
      exact ⟨p, rfl, hmul.symm.trans hkeep.multipleConections⟩
    · intro hquery
      constructor
      · intro hset
        have hop' : op = .atQueryOp := by
          cases op with
          | atQueryOp => rfl
          | atSetOp => exact absurd ⟨rfl, hack⟩ hset
          | atTestOp => exact absurd hop (by decide)
          | atExecuteOp => exact absurd hop (by decide)
        obtain ⟨q, hq, hsent⟩ := hquery hop' hack
        obtain rfl := Option.some.inj hq
        exact ⟨hmul.trans hsent, htype⟩
      · intro _ _ q hq
        obtain rfl := Option.some.inj hq
        exact ⟨hmul, htype⟩

lemma statusRight_startConnection (hparam : op = .atSetOp → param.isSome = true) :
    StatusRight d .atStartConnection op param ↔
      (op = .atSetOp → Acknowledged d .atStartConnection op param →
        ∀ p ∈ param, ∃ id, paramConn d p = .ok id) := by
  by_cases hop : op ∈ (gMap .atStartConnection).type
  swap
  · refine iff_of_true (.of_result (atRunCmd_refused (.inr hop)) CallbackOnly.ok ?_) ?_
    · intro ret d' h
      obtain ⟨-, rfl⟩ := Prod.mk.inj (Except.ok.inj h)
      refine .of_unacked ?_ (AtDriver.sameStatus_kept.refl _)
      rintro ⟨rfl, -⟩
      exact hop (by decide)
    · rintro rfl
      exact absurd (by decide) hop
  obtain ⟨text, hbuild, hrun⟩ := atRunCmd_finish (.inr rfl) hop
  by_cases hset : op = .atSetOp
  swap
  · refine iff_of_true (.of_result hrun (finishCmd_callbackOnly nofun nofun fun h => hset h.2) ?_)
      fun h => absurd h hset
    intro ret d' h
    have hsame := finishCmd_sameStatus (by decide) (fun h => hset h.2) h
    exact .of_unacked (fun h => hset h.1) ⟨hsame.multipleConections, hsame.connType⟩
  by_cases hack : Acknowledged d .atStartConnection op param
  swap
  · exact iff_of_true (statusRight_unacked nofun hack hbuild hrun) fun _ h => absurd h hack
  obtain ⟨d₁, hsame, herror, hok⟩ := hack.run hbuild
  obtain ⟨p, rfl⟩ := Option.isSome_iff_exists.mp (hparam hset)
  subst hset
  have hconn : connIndex (if d₁.desc.multipleConections then p.word.toNat else 0) = paramConn d p := by
    rw [paramConn, hsame.multipleConections]
  cases hid : paramConn d p with
  | error f =>
    have hupdate : d₁.updateStatus .atStartConnection .atSetOp (some p) = .error .connId := by
      simp only [AtDriver.updateStatus, hconn, hid]
    refine iff_of_false (not_statusRight (hrun.trans (herror _ hupdate)) (.inr rfl)) ?_
    intro hids
    obtain ⟨id, h⟩ := hids rfl hack p rfl
    rw [hid] at h
    cases h
  | ok id =>
    have hupdate : d₁.updateStatus .atStartConnection .atSetOp (some p) = .ok { d₁ with
        connType := Function.update d₁.connType id p.connection.soketType } := by
      simp only [AtDriver.updateStatus, hconn, hid]
    obtain ⟨ret, d', hfinish, hlast⟩ := hok _ hupdate
    refine iff_of_true ((statusRight_ok_iff (hrun.trans hfinish)).mpr ⟨?_, ?_⟩) ?_
    · exact fun h => absurd ⟨rfl, hack⟩ h
    · intro _ _ q hq
      obtain rfl := Option.some.inj hq
      refine ⟨hlast.multipleConections.trans hsame.multipleConections, id, hid, ?_⟩
      rw [hlast.connType, ← hsame.connType]
    · intro _ _ q hq
      obtain rfl := Option.some.inj hq
      exact ⟨id, hid⟩

/-- The status changes as it should if and only if no query sets a new connection type and
the connection ids are those of the parser. -/
theorem atRunCmd_status_iff (hparam : op = .atSetOp → param.isSome = true) :
    StatusRight d cmd op param ↔ StatusCond d cmd op param := by
  by_cases htype : cmd = .atSetConnectionType
  · subst htype
    rw [statusRight_connectionType hparam]
    exact ⟨fun h => ⟨fun _ => h, nofun, nofun⟩, fun h => h.query rfl⟩
  by_cases hstart : cmd = .atStartConnection
  · subst hstart
    rw [statusRight_startConnection hparam]
    exact ⟨fun h => ⟨nofun, fun _ => h, nofun⟩, fun h => h.start rfl⟩
  rw [statusRight_neutral htype hstart hparam]
  exact ⟨fun h => ⟨fun hc => absurd hc htype, fun hc => absurd hc hstart, h⟩, fun h => h.send⟩

/-- The module answers OK. -/
def answered : AtDriver where
  arrivals := [(PUI8 "+CIPMUX:0" ++ [13, 10, 13, 10] ++ PUI8 "OK" ++ [13, 10]).map fun ch =>
    .receive ch none]

lemma statusCond_set : StatusCond d .atSetConnectionType .atSetOp param where
  query _ h := nomatch h
  start h := nomatch h
  send h := nomatch h

/-- A set operation that is acknowledged. -/
theorem atRunCmd_status_set :
    StatusRight answered .atSetConnectionType .atSetOp (some { word := 1 }) :=
  (atRunCmd_status_iff fun _ => rfl).mpr statusCond_set

/-- A query with a parameter that has not been cleared sets multiple connections. -/
theorem query_changes_status :
    ¬StatusRight answered .atSetConnectionType .atQueryOp (some { word := 1 }) := by
  intro h
  have hmul : ((AtDriver.atRunCmd answered .atSetConnectionType .atQueryOp (some { word := 1 })).toOption.map
      fun r => r.2.desc.multipleConections) = some true := by
    decide +kernel
  cases hrun : AtDriver.atRunCmd answered .atSetConnectionType .atQueryOp (some { word := 1 }) with
  | error f =>
    rw [hrun] at hmul
    cases hmul
  | ok r =>
    have hsame := (h.ok hrun).1 fun hop => nomatch hop.1
    rw [hrun] at hmul
    rw [Except.toOption, Option.map_some, hsame.multipleConections] at hmul
    cases hmul

end NoOS
